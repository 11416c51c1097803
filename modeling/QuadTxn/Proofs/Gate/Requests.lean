import QuadTxn.Proofs.Gate.Lifecycle

/-!
# Requests and the gate

Every request follows the conduct of `QuadTxn.Proofs.Gate.Frames`, whatever the backend does
(`Request.call_fair`).
-/

namespace QuadTxn

open Connection

variable {σ : Type} [Backend σ] {st : Frame σ}

/-- A request is refused the gate only while another connection has it, and asks for nothing more
once it has the gate. -/
theorem Request.call_fair (h : st.AtRest) (req : Request) :
    (req.call st).Fair Frame.conduct st := by
  -- what is made of an answer has nothing to do with the gate
  have hanswer : ∀ {α : Type} {o : Outcome (Frame σ) α} (f : α → Answer), o.Fair Frame.conduct st →
      (o.bind fun a => (pure (f a) : Call σ Answer)).Fair Frame.conduct st :=
    fun f ho => Frame.fair_bind_quiet ho fun a => .pure (f a)
  have hquiet : ∀ {α : Type} {m : Call σ α} (f : α → Answer), m.Quiet →
      ((m st).bind fun a => (pure (f a) : Call σ Answer)).Fair Frame.conduct st :=
    fun f hm => hanswer f (Frame.quiet_fair h hm)
  cases req with
  | begin => exact hanswer (fun _ => .none) (begin_fair h)
  | prepare => exact hanswer (fun _ => .none) (prepare_fair h)
  | commit => exact hanswer (fun _ => .none) (commit_fair h)
  | rollback =>
    refine hanswer (fun _ => .none) (Outcome.Ends.fair ?_)
    exact (rollback_ends h).mono fun _ _ hst' => hst'.1
  | add kind s p o graphs => exact hquiet (fun _ => .none) (quiet_add kind s p o graphs)
  | addStatement s => exact hquiet (fun _ => .none) (quiet_add _ _ _ _ _)
  | remove kind p => exact hanswer .count (remove_fair h kind p)
  | removeStatement s => exact hanswer .count (remove_fair h _ _)
  | clear graphs => exact hanswer .count (remove_fair h _ _)
  | bindLabel label name => exact hquiet (fun _ => .none) (quiet_writeNamespaces _ _)
  | unbindLabel label => exact hquiet (fun _ => .none) (quiet_writeNamespaces _ _)
  | unbindAll => exact hquiet (fun _ => .none) (quiet_writeNamespaces _ _)
  | getStatements p inferred => exact hanswer .statements (reading_fair h _ (quiet_view p inferred))
  | hasStatement p inferred =>
    exact hanswer .truth (reading_fair h _ ((quiet_view p inferred).bind fun _ => .pure _))
  | evaluate q d b inferred =>
    refine hanswer .solutions (reading_fair h _ (Call.quiet_self.bind fun c => ?_))
    split
    · exact .bind (Call.quiet_update (fun _ => rfl) (fun _ => rfl) fun _ => rfl) fun _ =>
        Call.quiet_native _
    · exact Call.quiet_native _
  | size graphs =>
    exact hanswer .count (reading_fair h _ ((quiet_view _ _).bind fun _ => .pure _))
  | graphNames =>
    exact hanswer .graphs (reading_fair h _ (Call.quiet_self.bind fun _ => Call.quiet_native _))
  | getNamespaces => exact hquiet .namespaces quiet_getNamespaces
  | namespaceOf label => exact hquiet .namespaceName (quiet_namespaceOf label)
  | setReadSnapshot on => exact hanswer (fun _ => .none) (setReadSnapshot_fair h on)
  | setSnapshot on => exact hanswer (fun _ => .none) (setSnapshot_fair h on)
  | setSerializable on => exact hanswer (fun _ => .none) (setSerializable_fair h on)
  | setIsolation level => exact hanswer (fun _ => .none) (setIsolation_fair h level)
  | listen listener =>
    exact hquiet (fun _ => .none) (Call.quiet_update (fun _ => rfl) (fun _ => rfl) fun _ => rfl)
  | unlisten listener => exact h.stays ⟨rfl, rfl, rfl, rfl⟩

end QuadTxn
