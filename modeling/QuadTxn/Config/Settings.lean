import QuadTxn.Toml.Document
import QuadTxn.Txn.Isolation
import QuadTxn.Txn.Retry

/-!
# Settings

The settings of new connections, read from a TOML document: the isolation, how long to wait for the
commit gate, and how to react to conflicts. What a document leaves out has a standard value, and
keys that mean nothing here are ignored.
-/

namespace QuadTxn

/-- The settings of new connections. -/
structure Settings where
  /-- the name of the isolation level -/
  isolation : String
  /-- for how many milliseconds a request for the whole commit gate waits, `none` for ever -/
  lockTimeout : Option Nat
  /-- how to react to conflicts -/
  retry : RetryPolicy
  deriving DecidableEq, Repr

namespace Settings

/-- The standard settings. -/
def standard : Settings := ⟨IsolationLevel.snapshot.name, none, .standard⟩

instance : Inhabited Settings := ⟨standard⟩

/-- The isolation level, if the name is one. -/
def level (s : Settings) : Except TxnError IsolationLevel :=
  IsolationLevel.ofName s.isolation

/-! ## Reading a document -/

/-- A natural number of 64 bits. -/
def natural? : Toml.Node → Option UInt64
  | .integer n => if 0 ≤ n then some (.ofNat n.toNat) else none
  | _ => none

/-- The value of a key, or a standard value if the key is missing. -/
def field {α : Type} (es : Toml.Entries) (key : String) (read : Toml.Node → Option α)
    (standard : α) : Option α :=
  match es.lookup key with
  | some node => read node
  | none => some standard

/-- A retry policy: a table, or an array of its numbers in order. A moment counts as a table that
holds none of the keys. -/
def retry? : Toml.Node → Option RetryPolicy
  | .table _ es => do
    return {
      maxRetries := ← field es "max_retries" natural? RetryPolicy.standard.maxRetries
      baseDelay := ← field es "base_delay_ms" natural? RetryPolicy.standard.baseDelay
      maxDelay := ← field es "max_delay_ms" natural? RetryPolicy.standard.maxDelay }
  | .array items => do
    let item (i : Nat) (standard : UInt64) : Option UInt64 :=
      match items[i]? with
      | some node => natural? node
      | none => some standard
    return {
      maxRetries := ← item 0 RetryPolicy.standard.maxRetries
      baseDelay := ← item 1 RetryPolicy.standard.baseDelay
      maxDelay := ← item 2 RetryPolicy.standard.maxDelay }
  | .moment => some .standard
  | _ => none

/-- A string. -/
def string? : Toml.Node → Option String
  | .string s => some s
  | _ => none

/-- The settings that the keys of a document give. -/
def ofEntries (es : Toml.Entries) : Option Settings := do
  return {
    isolation := ← field es "isolation" string? standard.isolation
    lockTimeout := ← field es "lock_timeout_ms" (fun n => (natural? n).map (some ·.toNat)) none
    retry := ← field es "retry" retry? .standard }

/-- The settings of a document, whose isolation must be the name of a level. -/
def ofToml (text : String) : Except TxnError Settings :=
  match (Toml.parse text).bind ofEntries with
  | none => .error (.config "failed to parse config")
  | some s => s.level.map fun _ => s

/-! ## The file of settings -/

/-- The document that stands in a new file. -/
def document : String :=
  "# Trellis transaction configuration\n" ++
  "#\n" ++
  "# Isolation of new connections:\n" ++
  "#   \"write-through\" = writes applied directly under an exclusive lock\n" ++
  "#   \"read-snapshot\" = writes staged until commit, reads not tracked\n" ++
  "#   \"snapshot\"      = staged writes, commit fails on a proven phantom read\n" ++
  "#   \"serializable\"  = staged writes, commit fails on any overlapping commit\n" ++
  "isolation = \"snapshot\"\n" ++
  "\n" ++
  "# Exclusive lock timeout in milliseconds (default: wait forever)\n" ++
  "# lock_timeout_ms = 1000\n" ++
  "\n" ++
  "[retry]\n" ++
  "max_retries = 3\n" ++
  "base_delay_ms = 10\n" ++
  "max_delay_ms = 100\n"

/-- What is found where the file of settings should be. -/
inductive File where
  /-- a text -/
  | text (s : String)
  /-- nothing, but a file can be written -/
  | missing
  /-- nothing, and no file can be written -/
  | unwritable
  /-- something that cannot be read as a text -/
  | unreadable
  deriving DecidableEq, Repr

/-- Read the settings from their file. A missing file is written first. -/
def load : File → Except TxnError Settings × File
  | .text s => (ofToml s, .text s)
  | .missing => (ofToml document, .text document)
  | .unwritable => (.error (.config "failed to write default config file"), .unwritable)
  | .unreadable => (.error (.config "failed to read config file"), .unreadable)

end Settings

end QuadTxn
