import RobotHarness.Python.Execution

/-!
# What the coordinator retains

Apart from `reserve` and `admit`, no method of the coordinator adds a record, changes whose
record it is, admits anything or lets another operation become current.
-/

namespace RobotHarness.Python

/-- The current operation is the same. -/
def SameAuthority (g h : GateState) : Prop := h.authority = g.authority

namespace SameAuthority

private theorem refl (g : GateState) : SameAuthority g g := rfl

/-- Two calls after each other keep the current operation when both do. -/
theorem trans (g h k : GateState) (hgh : SameAuthority g h) (hhk : SameAuthority h k) :
    SameAuthority g k := Eq.trans hhk hgh

end SameAuthority

namespace GateState

open Fallible (Moves)

/-- What does not read the authority of a program is left to its parts. -/
private theorem andThen {α β : Type} {p : GateProgram α} {k : α → GateProgram β}
    (hp : Moves SameAuthority p) (hk : ∀ a, Moves SameAuthority (k a)) :
    Moves SameAuthority (p >>= k) :=
  .bind SameAuthority.trans hp hk

private theorem ret {α : Type} (a : α) : Moves SameAuthority (pure a : GateProgram α) :=
  .pure SameAuthority.refl

private theorem ans {α : Type} (r : Except Failure α) :
    Moves SameAuthority (Fallible.answer r : GateProgram α) :=
  .answer SameAuthority.refl

private theorem rd {α : Type} (f : GateState → α) :
    Moves SameAuthority (Fallible.read f : GateProgram α) :=
  .read SameAuthority.refl

private theorem moves_record (source : String) (now : MonotonicTime) :
    Moves SameAuthority (record source now) := by
  intro s
  unfold record
  split <;> rfl

private theorem moves_onGate {α : Type} (call : AuthorityGate → α × AuthorityGate) :
    Moves SameAuthority (onGate call) := fun _ ↦ rfl

private theorem moves_operationValue (operation : OperationId) :
    Moves SameAuthority (operationValue operation) := by
  refine andThen (rd _) fun authority ↦ ?_
  cases authority with
  | none => exact .raise SameAuthority.refl
  | some authority => exact .ite (fun _ ↦ ret _) fun _ ↦ .raise SameAuthority.refl

private theorem moves_operationTime {α : Type} {operation : OperationId} {now : ℕ}
    {call : OperationAuthority → MonotonicTime → GateProgram α}
    (h : ∀ authority now, Moves SameAuthority (call authority now)) :
    Moves SameAuthority (operationTime operation now call) :=
  andThen (moves_operationValue operation) fun authority ↦ andThen (ans _) (h authority)

/-- Evidence that is drawn and passed to the gate. -/
private theorem moves_evidence {α : Type} (source : String) (now : MonotonicTime)
    (call : EvidenceRecord → AuthorityGate → α × AuthorityGate) :
    Moves SameAuthority (record source now >>= fun evidence ↦ onGate (call evidence)) :=
  andThen (moves_record source now) fun evidence ↦ moves_onGate (call evidence)

/-- `startup` changes nothing of the current operation. -/
theorem moves_startup (kind : StartupEvidenceKind) (observed : Bool) (now : ℕ) :
    Moves SameAuthority (startup kind observed now) :=
  andThen (ans _) fun _ ↦ andThen (rd _) fun _ ↦ moves_evidence _ _ _

/-- `capabilities` changes nothing of the current operation. -/
theorem moves_capabilities (available : Bool) (now validUntil : ℕ) :
    Moves SameAuthority (capabilities available now validUntil) :=
  andThen (ans _) fun _ ↦ andThen (ans _) fun _ ↦ andThen (rd _) fun _ ↦ moves_evidence _ _ _

private theorem moves_dispatch (operation : OperationId) (now : ℕ) :
    Moves SameAuthority (dispatch operation now) :=
  moves_operationTime fun _ _ ↦ moves_onGate _

/-- `tick` changes nothing of the current operation. -/
theorem moves_tick (operation : OperationId) (now : ℕ) :
    Moves SameAuthority (tick operation now) :=
  moves_operationTime fun _ _ ↦ andThen (moves_onGate _) fun _ ↦ ret _

private theorem moves_cancel (operation : OperationId) (now : ℕ) :
    Moves SameAuthority (cancel operation now) :=
  moves_operationTime fun _ _ ↦ andThen (moves_onGate _) fun _ ↦ ret _

private theorem moves_nonSubmission (operation : OperationId) (now : ℕ) :
    Moves SameAuthority (nonSubmission operation now) :=
  moves_operationTime fun _ _ ↦ moves_evidence _ _ _

private theorem moves_settle (operation : OperationId) (now : ℕ) :
    Moves SameAuthority (settle operation now) :=
  moves_operationTime fun _ _ ↦ andThen (rd _) fun _ ↦ moves_evidence _ _ _

private theorem moves_receipt (operation : OperationId) : Moves SameAuthority (receipt operation) :=
  andThen (moves_operationValue operation) fun _ ↦ rd _

/-- `canDeliver` changes nothing of the current operation. -/
theorem moves_canDeliver (operation : OperationId) : Moves SameAuthority (canDeliver operation) :=
  andThen (moves_operationValue operation) fun _ ↦ rd _

/-- `supports` changes nothing of the current operation. -/
theorem moves_supports (units now : ℕ) : Moves SameAuthority (supports units now) :=
  andThen (ans _) fun _ ↦ andThen (ans _) fun _ ↦ rd _

private theorem moves_native (operation : OperationId) (kind : NativeEventKind) (now : ℕ)
    (nativeIdentity : Option String) :
    Moves SameAuthority (native operation kind now nativeIdentity) := by
  refine andThen (moves_operationValue operation) fun _ ↦ andThen (ans _) fun _ ↦ ?_
  cases nativeIdentity with
  | none => exact andThen (ret _) fun _ ↦ moves_evidence _ _ _
  | some identity => exact andThen (ans _) fun _ ↦ moves_evidence _ _ _

/-- `output` changes nothing of the current operation. -/
theorem moves_output (operation : OperationId) (publication : Publication) (reference : String)
    (now : ℕ) : Moves SameAuthority (output operation publication reference now) := by
  refine andThen (moves_operationValue operation) fun _ ↦ andThen (ans _) fun _ ↦
    andThen (ans _) fun _ ↦ ?_
  cases publication <;> exact moves_evidence _ _ _

/-- `close` changes nothing of the current operation. -/
theorem moves_close : Moves SameAuthority close := fun _ ↦ rfl

end GateState

/-- Whose record it is: its request, its arguments and its operation. -/
def Record.identity {α δ : Type} (record : Record α δ) : String × α × Option OperationId :=
  (record.requestId, record.arguments, record.operationId)

/-- The records, the admissions and the current operation are the same; the active request is
the same or was released. -/
structure Retains {α δ : Type} (e f : ExecutionCoordinator α δ) : Prop where
  size : f.records.size = e.records.size
  records : ∀ reference,
    (f.records.get? reference).map Record.identity = (e.records.get? reference).map Record.identity
  admissions : f.admissions = e.admissions
  authority : SameAuthority e.gate f.gate
  active : f.active = e.active ∨ f.active = none

namespace Retains

variable {α δ : Type}

/-- A coordinator that does not change retains its records. -/
theorem refl (e : ExecutionCoordinator α δ) : Retains e e :=
  ⟨rfl, fun _ ↦ rfl, rfl, rfl, .inl rfl⟩

/-- Two programs after each other retain the records when both do. -/
theorem trans (e f g : ExecutionCoordinator α δ) (hef : Retains e f) (hfg : Retains f g) :
    Retains e g where
  size := hfg.size.trans hef.size
  records reference := (hfg.records reference).trans (hef.records reference)
  admissions := hfg.admissions.trans hef.admissions
  authority := SameAuthority.trans _ _ _ hef.authority hfg.authority
  active := hfg.active.elim (fun h ↦ h ▸ hef.active) .inr

/-- A record of the one is a record of the other, with the same identity. -/
theorem get? {e f : ExecutionCoordinator α δ} (h : Retains e f) {reference : String}
    {record : Record α δ} (hrecord : f.records.get? reference = some record) :
    ∃ old, e.records.get? reference = some old ∧ record.identity = old.identity := by
  have hsame := h.records reference
  rw [hrecord, Option.map_some] at hsame
  obtain ⟨old, hold, hidentity⟩ := Option.map_eq_some_iff.mp hsame.symm
  exact ⟨old, hold, hidentity.symm⟩

end Retains

namespace ExecutionCoordinator

open Fallible (Moves)
open Transport (Json)

variable {α δ : Type}

private theorem andThen {β γ : Type} {p : Coordination α δ β} {k : β → Coordination α δ γ}
    (hp : Moves Retains p) (hk : ∀ b, Moves Retains (k b)) : Moves Retains (p >>= k) :=
  .bind Retains.trans hp hk

private theorem ret {β : Type} (b : β) : Moves Retains (pure b : Coordination α δ β) :=
  .pure Retains.refl

private theorem fail {β : Type} (e : Failure) :
    Moves Retains (Fallible.raise e : Coordination α δ β) :=
  .raise Retains.refl

private theorem ans {β : Type} (r : Except Failure β) :
    Moves Retains (Fallible.answer r : Coordination α δ β) :=
  .answer Retains.refl

private theorem rd {β : Type} (f : ExecutionCoordinator α δ → β) :
    Moves Retains (Fallible.read f : Coordination α δ β) :=
  .read Retains.refl

/-- A call of the gate that keeps the current operation retains the records. -/
theorem retains_onGate {β : Type} {call : GateProgram β} (h : Moves SameAuthority call) :
    Moves Retains (onGate call : Coordination α δ β) :=
  .within (fun _ _ hg ↦ ⟨rfl, fun _ ↦ rfl, rfl, hg, .inl rfl⟩) h

/-- An update that leaves the identity of the record. -/
theorem retains_withRecord (e : ExecutionCoordinator α δ) {reference : String}
    {f : Record α δ → Record α δ} (hf : ∀ record, (f record).identity = record.identity) :
    Retains e (e.withRecord reference f) := by
  unfold withRecord
  split
  · next record hrecord =>
    refine ⟨Table.size_set_of_get? hrecord, fun other ↦ ?_, rfl, rfl, .inl rfl⟩
    by_cases ho : other = reference
    · subst ho
      simp [hrecord, hf]
    · simp only [Table.get?_set_of_ne ho]
  · exact Retains.refl e

/-- An update that keeps the identity of a record retains the records. -/
theorem retains_update {reference : String} {f : Record α δ → Record α δ}
    (hf : ∀ record, (f record).identity = record.identity) :
    Moves Retains (update reference f : Coordination α δ Unit) :=
  .assign fun e ↦ retains_withRecord e hf

/-- `accepted` retains the records and admits nothing. -/
theorem retains_accepted (disposition : EvidenceDisposition) :
    Moves Retains (accepted disposition : Coordination α δ Unit) :=
  .ite (fun _ ↦ fail _) fun _ ↦ ret _

/-- `lookup` retains the records and admits nothing. -/
theorem retains_lookup (reference : String) :
    Moves Retains (lookup reference : Coordination α δ (Record α δ)) := by
  refine andThen (rd _) fun record ↦ ?_
  cases record with
  | none => exact fail _
  | some record => exact ret record

private theorem retains_retained (reference : String) :
    Moves Retains (retained reference : Coordination α δ (Record α δ)) := by
  refine andThen (rd _) fun record ↦ ?_
  cases record with
  | none => exact fail _
  | some record => exact ret record

private theorem retains_operation (reference : String) :
    Moves Retains (operation reference : Coordination α δ OperationId) := by
  refine andThen (retains_retained reference) fun record ↦ andThen (rd _) fun active ↦
    .ite (fun _ ↦ fail _) fun _ ↦ ?_
  cases record.operationId with
  | none => exact fail _
  | some operation => exact ret operation

/-- `snapshot` retains the records and admits nothing. -/
theorem retains_snapshot (reference : String) :
    Moves Retains (snapshot reference : Coordination α δ (Snapshot δ)) := by
  refine andThen (retains_lookup reference) fun record ↦ andThen (rd _) fun active ↦
    andThen (.ite (fun _ ↦ ?_) fun _ ↦ ret _) fun _ ↦ ret _
  cases record.operationId with
  | none => exact fail _
  | some operation => exact retains_onGate (GateState.moves_receipt operation)

/-- `dispatch` retains the records and admits nothing. -/
theorem retains_dispatch (reference : String) (now : ℕ) :
    Moves Retains (dispatch reference now : Coordination α δ Bool) :=
  andThen (retains_operation reference) fun _ ↦ retains_onGate (GateState.moves_dispatch _ _)

/-- `nonSubmission` retains the records and admits nothing. -/
theorem retains_nonSubmission (reference : String) (now : ℕ) :
    Moves Retains (nonSubmission reference now : Coordination α δ EvidenceDisposition) :=
  andThen (retains_operation reference) fun _ ↦ retains_onGate (GateState.moves_nonSubmission _ _)

/-- `tick` retains the records and admits nothing. -/
theorem retains_tick (now : ℕ) :
    Moves Retains (tick now : Coordination α δ (Option OperationReceipt)) := by
  refine andThen (rd _) fun active ↦ ?_
  cases active with
  | none => exact ret _
  | some reference =>
    exact andThen (retains_operation reference) fun _ ↦
      andThen (retains_onGate (GateState.moves_tick _ _)) fun _ ↦
        retains_onGate (GateState.moves_receipt _)

/-- `cancel` retains the records and admits nothing. -/
theorem retains_cancel (reference : String) (now : ℕ) :
    Moves Retains (cancel reference now : Coordination α δ Bool) :=
  andThen (retains_retained reference) fun _ ↦ andThen (rd _) fun _ ↦
    .ite (fun _ ↦ ret _) fun _ ↦ andThen (retains_operation reference) fun _ ↦
      andThen (retains_onGate (GateState.moves_cancel _ _)) fun _ ↦ ret _

/-- `native` retains the records and admits nothing. -/
theorem retains_native (reference : String) (kind : NativeEventKind)
    (nativeIdentity : Option String) (now : ℕ) :
    Moves Retains
      (native reference kind nativeIdentity now : Coordination α δ EvidenceDisposition) :=
  andThen (retains_operation reference) fun _ ↦ retains_onGate (GateState.moves_native _ _ _ _)

/-- `diagnose` retains the records and admits nothing. -/
theorem retains_diagnose (reference : String) (diagnostic : Except Failure Json) :
    Moves Retains (diagnose reference diagnostic : Coordination α δ Unit) :=
  andThen (ans _) fun _ ↦ retains_update fun _ ↦ rfl

/-- `disposeResult` retains the records and admits nothing. -/
theorem retains_disposeResult (reference : String) (candidate : Option Json)
    (diagnostic : Except Failure Json) (now now' now'' : ℕ) :
    Moves Retains (disposeResult reference candidate diagnostic now now' now'' :
      Coordination α δ Unit) := by
  refine andThen (retains_operation reference) fun operation ↦ andThen ?_ fun deliverable ↦ ?_
  · exact .ite (fun _ ↦ retains_onGate (GateState.moves_canDeliver operation)) fun _ ↦ ret _
  refine .ite (fun _ ↦ ?_) fun _ ↦ ?_
  · refine andThen (retains_update fun _ ↦ rfl) fun _ ↦
      andThen (retains_onGate (GateState.moves_output _ _ _ _)) fun disposition ↦
        .ite (fun _ ↦ ?_) fun _ ↦ ret _
    refine andThen (retains_update fun _ ↦ rfl) fun _ ↦
      andThen (retains_diagnose reference diagnostic) fun _ ↦
      andThen (retains_onGate (GateState.moves_tick _ _)) fun _ ↦
      andThen (retains_onGate (GateState.moves_canDeliver _)) fun _ ↦
      andThen (.ite (fun _ ↦ retains_accepted _) fun _ ↦ ret _) fun _ ↦
      andThen (retains_onGate (GateState.moves_output _ _ _ _)) fun _ ↦ retains_accepted _
  · exact andThen (retains_diagnose reference diagnostic) fun _ ↦
      andThen (retains_onGate (GateState.moves_output _ _ _ _)) fun _ ↦ retains_accepted _

/-- `settle` retains the records and admits nothing. -/
theorem retains_settle (reference : String) (now : ℕ) :
    Moves Retains (settle reference now : Coordination α δ Unit) :=
  andThen (retains_operation reference) fun _ ↦
    andThen (retains_onGate (GateState.moves_settle _ _)) fun _ ↦
    andThen (retains_accepted _) fun _ ↦
    andThen (retains_onGate (GateState.moves_receipt _)) fun _ ↦ retains_update fun _ ↦ rfl

/-- `release` retains the records and admits nothing. -/
theorem retains_release (reference : String) :
    Moves Retains (release reference : Coordination α δ Unit) := by
  refine andThen (retains_operation reference) fun _ ↦
    andThen (retains_onGate (GateState.moves_receipt _)) fun receipt ↦ ?_
  cases receipt with
  | none => exact fail _
  | some receipt =>
    exact .ite (fun _ ↦ fail _) fun _ ↦ .assign fun e ↦ ⟨rfl, fun _ ↦ rfl, rfl, rfl, .inr rfl⟩

end ExecutionCoordinator

end RobotHarness.Python
