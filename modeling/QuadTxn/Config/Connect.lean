import QuadTxn.Config.Settings
import QuadTxn.Txn.Connection.Basic

/-!
# Connections with settings
-/

namespace QuadTxn

/-- A new connection with the isolation and the patience that settings give. -/
def Settings.connection {σ : Type} [Backend σ] (s : Settings) (id : ConnectionId) :
    Except TxnError (Connection σ) := do
  let level ← s.level
  return { Connection.new id level with lockTimeout := s.lockTimeout }

end QuadTxn
