import RobotHarness.Python.Reports

/-!
# Coordinators that own an operation

What the coordinator does for an owner whose request is active: each of its methods raises an
`OverflowError`, or takes the operation to its next stage.
-/

namespace RobotHarness.Python

open Fallible (Meets)
open Transport (Json)

namespace ExecutionCoordinator

variable {α δ : Type}

/-- The request is active, and its operation is the one of the gate's receipt. -/
structure Owns (e : ExecutionCoordinator α δ) (n : ℕ) (v : GateView) (reference : String)
    (arguments : α) (r : OperationReceipt) : Prop where
  gate : e.gate.Serves n (v.bearing r)
  active : e.active = some reference
  holds : ∃ record, e.records.get? reference = some record ∧
    record.operationId = some r.authority.operationId ∧ record.arguments = arguments
  named : textValue reference false = .ok reference

/-- No request is active. -/
structure Rests (e : ExecutionCoordinator α δ) (n : ℕ) (v : GateView) : Prop where
  gate : e.gate.Serves n v
  active : e.active = none

/-- What a method raises when there is no time or no number left. -/
def Overflows (e : Failure) (_ : ExecutionCoordinator α δ) : Prop := e = .overflowError

variable {e : ExecutionCoordinator α δ} {n now : ℕ} {v : GateView} {reference : String}
  {arguments : α} {r : OperationReceipt} {β : Type} {Q : β → ExecutionCoordinator α δ → Prop}

/-- A call of the gate changes the gate alone. -/
theorem meets_gate {call : GateProgram β} {P : β → GateState → Prop}
    (hcall : Meets call e.gate P GateState.Overflows)
    (hq : ∀ b g, P b g → Q b { e with gate := g }) : Meets (onGate call) e Q Overflows := by
  unfold onGate
  rw [Fallible.meets_within]
  exact hcall.mono hq fun _ _ he ↦ he

/-- What is accepted raises nothing. -/
theorem meets_accepted {Q : Unit → ExecutionCoordinator α δ → Prop}
    {E : Failure → ExecutionCoordinator α δ → Prop} {d : EvidenceDisposition}
    (hd : d = .accepted) (hq : Q () e) : Meets (accepted d) e Q E := by
  unfold accepted
  rw [if_neg (not_not.mpr hd)]
  exact hq

namespace Rests

/-- The clock may go on. -/
theorem mono (h : e.Rests n v) (hle : n ≤ now) : e.Rests now v :=
  ⟨h.gate.mono hle, h.active⟩

/-- The gate may go on. -/
theorem regate (h : e.Rests n v) {g : GateState} {w : GateView} (hserves : g.Serves now w) :
    Rests { e with gate := g } now w :=
  ⟨hserves, h.active⟩

/-- Items of a record may be assigned. -/
theorem withRecord (h : e.Rests n v) (reference : String) (f : Record α δ → Record α δ) :
    (e.withRecord reference f).Rests n v where
  gate := by
    rw [withRecord_gate]
    exact h.gate
  active := by
    rw [withRecord_active]
    exact h.active

end Rests

namespace Owns

/-- The clock may go on. -/
theorem mono (h : e.Owns n v reference arguments r) (hle : n ≤ now) :
    e.Owns now v reference arguments r :=
  { h with gate := h.gate.mono hle }

/-- The gate may go on with the same operation. -/
theorem regate (h : e.Owns n v reference arguments r) {g : GateState} {r' : OperationReceipt}
    {w : GateView} (hserves : g.Serves now (w.bearing r'))
    (hauthority : r'.authority = r.authority) :
    Owns { e with gate := g } now w reference arguments r' where
  gate := hserves
  active := h.active
  holds := by
    rw [hauthority]
    exact h.holds
  named := h.named

/-- Other items of a record may be assigned. -/
theorem withRecord (h : e.Owns n v reference arguments r) (other : String)
    {f : Record α δ → Record α δ} (hf : ∀ record, (f record).identity = record.identity) :
    (e.withRecord other f).Owns n v reference arguments r where
  gate := by
    rw [withRecord_gate]
    exact h.gate
  active := by
    rw [withRecord_active]
    exact h.active
  holds := by
    obtain ⟨record, hrecord, hid, hargs⟩ := h.holds
    have hsame := hf record
    simp only [Record.identity, Prod.mk.injEq] at hsame
    rw [get?_withRecord]
    split
    · next heq =>
      refine ⟨f record, ?_, hsame.2.2.trans hid, hsame.2.1.trans hargs⟩
      rw [← heq, hrecord]
      rfl
    · exact ⟨record, hrecord, hid, hargs⟩
  named := h.named

/-- `_operation` answers for the active request. -/
theorem meets_operation (h : e.Owns n v reference arguments r)
    {E : Failure → ExecutionCoordinator α δ → Prop} {k : OperationId → Coordination α δ β}
    (hk : Meets (k r.authority.operationId) e Q E) : Meets (operation reference >>= k) e Q E := by
  obtain ⟨record, hrecord, hid, -⟩ := h.holds
  rw [Fallible.meets_bind]
  unfold operation retained
  simp only [Fallible.meets_bind, Fallible.meets_read, hrecord, Fallible.meets_pure, h.active,
    hid, Fallible.meets_ite, ne_eq, not_true_eq_false, if_false]
  exact hk

/-- `tick`. -/
theorem tick (h : e.Owns n v reference arguments r) (hle : n ≤ now) :
    Meets (ExecutionCoordinator.tick now) e
      (fun found f ↦ ∃ r', found = some r' ∧ Revises r r' ∧
        (r.settlement = .pending → Due r now → r'.isRevoked) ∧
        f.Owns now v reference arguments r') Overflows := by
  unfold ExecutionCoordinator.tick
  rw [Fallible.meets_bind, Fallible.meets_read, h.active]
  dsimp only
  apply h.meets_operation
  rw [Fallible.meets_bind]
  apply meets_gate (h.gate.tick hle)
  rintro _ g ⟨r', hrevises, hdue, hserves⟩
  have hsame := hrevises.authority
  apply meets_gate (Q := _) (e := { e with gate := g }) (hsame ▸ hserves.receipt_read)
  rintro found g' ⟨hfound, rfl⟩
  exact ⟨r', hfound, hrevises, hdue, h.regate hserves hsame⟩

/-- `cancel` of the active request. -/
theorem cancel (h : e.Owns n v reference arguments r) (hpending : r.settlement = .pending)
    (hle : n ≤ now) :
    Meets (ExecutionCoordinator.cancel reference now) e
      (fun affected f ↦ affected = true ∧ ∃ r', Revises r r' ∧ r'.isRevoked ∧
        f.Owns now v reference arguments r') Overflows := by
  obtain ⟨record, hrecord, -, -⟩ := h.holds
  unfold ExecutionCoordinator.cancel retained
  rw [Fallible.meets_bind, Fallible.meets_bind, Fallible.meets_read, hrecord]
  dsimp only
  rw [Fallible.meets_pure, Fallible.meets_bind, Fallible.meets_read, h.active]
  rw [if_neg (not_not.mpr rfl)]
  apply h.meets_operation
  rw [Fallible.meets_bind]
  apply meets_gate (h.gate.cancel hpending hle)
  rintro _ g ⟨r', hrevises, hrevoked, hserves⟩
  exact ⟨rfl, r', hrevises, hrevoked, h.regate hserves hrevises.authority⟩

/-- `dispatch`. -/
theorem dispatch (h : e.Owns n v reference arguments r) (hstage : AtStage r .admitted)
    (hle : n ≤ now) :
    Meets (ExecutionCoordinator.dispatch reference now) e
      (fun claimed f ↦
        (claimed = true → ∃ r', r'.authority = r.authority ∧ AtStage r' .claimed ∧
          ¬ r'.isRevoked ∧ r'.nativeStarted = r.nativeStarted ∧
          f.Owns now v reference arguments r') ∧
        (claimed = false → f.Owns now v reference arguments r)) Overflows := by
  unfold ExecutionCoordinator.dispatch
  apply h.meets_operation
  apply meets_gate (h.gate.dispatch hstage hle)
  rintro claimed g ⟨hclaimed, hrefused⟩
  constructor
  · intro htrue
    obtain ⟨r', hsame, hstage', hlive, hstarted, hserves⟩ := hclaimed htrue
    exact ⟨r', hsame, hstage', hlive, hstarted, h.regate hserves hsame⟩
  · intro hfalse
    exact h.regate (hrefused hfalse) rfl

/-- `non_submission`. -/
theorem nonSubmission (h : e.Owns n v reference arguments r) (hstage : AtStage r .admitted)
    (hle : n ≤ now) :
    Meets (ExecutionCoordinator.nonSubmission reference now) e
      (fun d f ↦ d = .accepted ∧ ∃ r', r'.authority = r.authority ∧
        AtStage r' (.ended False) ∧ f.Owns now v reference arguments r') Overflows := by
  unfold ExecutionCoordinator.nonSubmission
  apply h.meets_operation
  apply meets_gate (h.gate.nonSubmission hstage hle)
  rintro d g ⟨hd, r', hsame, hstage', hserves⟩
  exact ⟨hd, r', hsame, hstage', h.regate hserves hsame⟩

/-- `native` of an acceptance. -/
theorem native_accepted (h : e.Owns n v reference arguments r) (hstage : AtStage r .claimed)
    (hle : n ≤ now) :
    Meets (ExecutionCoordinator.native reference .accepted none now) e
      (fun d f ↦ d = .accepted ∧ ∃ r', r'.authority = r.authority ∧ AtStage r' .running ∧
        r'.nativeStarted = r.nativeStarted ∧ (r'.isRevoked ↔ r.isRevoked) ∧
        f.Owns now v reference arguments r') Overflows := by
  unfold ExecutionCoordinator.native
  apply h.meets_operation
  apply meets_gate (h.gate.native_accepted hstage hle)
  rintro d g ⟨hd, r', hsame, hstage', hstarted, hrevoked, hserves⟩
  exact ⟨hd, r', hsame, hstage', hstarted, hrevoked, h.regate hserves hsame⟩

/-- `native` of a start. -/
theorem native_started (h : e.Owns n v reference arguments r) (hstage : AtStage r .running)
    (hfirst : r.nativeStarted = false) (hle : n ≤ now) :
    Meets (ExecutionCoordinator.native reference .started none now) e
      (fun d f ↦ d = .accepted ∧ ∃ r', r'.authority = r.authority ∧ AtStage r' .running ∧
        (r'.isRevoked ↔ r.isRevoked) ∧ f.Owns now v reference arguments r') Overflows := by
  unfold ExecutionCoordinator.native
  apply h.meets_operation
  apply meets_gate (h.gate.native_started hstage hfirst hle)
  rintro d g ⟨hd, r', hsame, hstage', hrevoked, hserves⟩
  exact ⟨hd, r', hsame, hstage', hrevoked, h.regate hserves hsame⟩

/-- `native` of a terminal. -/
theorem native_terminal (h : e.Owns n v reference arguments r) (hstage : AtStage r .running)
    {kind : NativeEventKind}
    (hkind : kind = .terminalSucceeded ∨ kind = .terminalFailed ∨ kind = .terminalCancelled)
    (hle : n ≤ now) :
    Meets (ExecutionCoordinator.native reference kind none now) e
      (fun d f ↦ d = .accepted ∧ ∃ r', r'.authority = r.authority ∧
        AtStage r' (.ended (kind = .terminalSucceeded)) ∧ f.Owns now v reference arguments r')
      Overflows := by
  unfold ExecutionCoordinator.native
  apply h.meets_operation
  apply meets_gate (h.gate.native_terminal hstage hkind hle)
  rintro d g ⟨hd, r', hsame, hstage', hserves⟩
  exact ⟨hd, r', hsame, hstage', h.regate hserves hsame⟩

/-- An assignment to the record of any request, but to its identity. -/
theorem meets_update (h : e.Owns n v reference arguments r) {other : String}
    {f : Record α δ → Record α δ} {E : Failure → ExecutionCoordinator α δ → Prop}
    {k : PUnit → Coordination α δ β} (hf : ∀ record, (f record).identity = record.identity)
    (hk : ∀ e', Owns e' n v reference arguments r → Meets (k ⟨⟩) e' Q E) :
    Meets (ExecutionCoordinator.update other f >>= k) e Q E := by
  rw [Fallible.meets_bind]
  exact hk _ (h.withRecord other hf)

/-- The diagnostic of a driver that returns one. -/
private theorem meets_diagnose (h : e.Owns n v reference arguments r) {other : String}
    {value : Json} {E : Failure → ExecutionCoordinator α δ → Prop}
    {k : Unit → Coordination α δ β}
    (hk : ∀ e', Owns e' n v reference arguments r → Meets (k ()) e' Q E) :
    Meets (diagnose other (.ok value) >>= k) e Q E := by
  rw [Fallible.meets_bind]
  unfold diagnose
  rw [Fallible.meets_bind, Fallible.meets_answer_ok]
  exact hk _ (h.withRecord other fun _ ↦ rfl)

/-- The result that was refused at its deadline is withheld. -/
private theorem withdraw (h : e.Owns n v reference arguments r)
    (hstage : AtStage r (.ended True)) (hdue : Due r n) (value : Json) {d : EvidenceDisposition}
    {now' now'' : ℕ} (hle : n ≤ now') (hle' : now' ≤ now'') :
    Meets (do
        ExecutionCoordinator.update reference fun record ↦ { record with result := none }
        ExecutionCoordinator.diagnose reference (.ok value)
        let _ ← onGate (GateState.tick r.authority.operationId now')
        let deliverable ← onGate (GateState.canDeliver r.authority.operationId)
        (if deliverable = true then accepted d else pure ())
        let disposition ← onGate (GateState.output r.authority.operationId .authorityRevoked
          reference now'')
        accepted disposition) e
      (fun _ f ↦ ∃ r', r'.authority = r.authority ∧ AtStage r' .disposed ∧
        f.Owns now'' v reference arguments r') Overflows := by
  apply h.meets_update (by intro _; rfl)
  intro e h
  apply h.meets_diagnose
  intro e h
  rw [Fallible.meets_bind]
  apply meets_gate (h.gate.tick hle)
  rintro _ g ⟨q, hrevises, hrevokes, hserves⟩
  have hsame := hrevises.authority
  have hended := hrevises.stage _ hstage
  have hrevoked : q.isRevoked := by
    apply hrevokes hstage.2.2.2
    obtain ⟨deadline, hdeadline, hreached⟩ := hdue
    exact ⟨deadline, hdeadline, hreached.trans hle⟩
  rw [Fallible.meets_bind]
  apply meets_gate (e := { e with gate := g }) (hsame ▸ hserves.canDeliver)
  rintro deliverable g' ⟨rfl, hdeliverable⟩
  have hdenied : ¬ deliverable = true := fun htrue ↦ (hdeliverable.mp htrue).1 hrevoked
  rw [Fallible.meets_bind, if_neg hdenied, Fallible.meets_pure, Fallible.meets_bind]
  apply meets_gate (e := { e with gate := g' })
    (hsame ▸ hserves.output_revoked hended hrevoked h.named hle')
  rintro disposition g ⟨hd, r', hsame', hstage', hserves'⟩
  apply meets_accepted hd
  exact ⟨r', hsame', hstage', h.regate hserves' hsame'⟩

/-- `dispose_result` of work that has ended: its result, when it has succeeded, is published or
withheld. -/
theorem disposeResult (h : e.Owns n v reference arguments r) {candidate : Option Json}
    (hstage : AtStage r (.ended (candidate.isSome = true))) (value : Json)
    {now' now'' : ℕ} (hle : n ≤ now) (hle' : now ≤ now') (hle'' : now' ≤ now'') :
    Meets (ExecutionCoordinator.disposeResult reference candidate (.ok value) now now' now'') e
      (fun _ f ↦ ∃ r', r'.authority = r.authority ∧ AtStage r' .disposed ∧
        f.Owns now'' v reference arguments r') Overflows := by
  unfold ExecutionCoordinator.disposeResult
  apply h.meets_operation
  cases candidate with
  | none =>
    have hfailed : AtStage r (.ended False) := by
      obtain ⟨hknown, hsucceeded, hrest⟩ := hstage
      exact ⟨hknown, hsucceeded.trans (by simp), hrest⟩
    simp only [Option.isSome_none, Bool.false_eq_true, if_false]
    rw [Fallible.meets_bind, Fallible.meets_pure, if_neg Bool.false_ne_true]
    apply h.meets_diagnose
    intro e h
    rw [Fallible.meets_bind]
    apply meets_gate (h.gate.output_none hfailed hle)
    rintro d g ⟨hd, r', hsame, hstage', hserves⟩
    apply meets_accepted hd
    exact ⟨r', hsame, hstage', h.regate (hserves.mono (hle'.trans hle'')) hsame⟩
  | some candidate =>
    have hended : AtStage r (.ended True) := by
      obtain ⟨hknown, hsucceeded, hrest⟩ := hstage
      exact ⟨hknown, hsucceeded.trans (by simp), hrest⟩
    simp only [Option.isSome_some, if_true]
    rw [Fallible.meets_bind]
    apply meets_gate h.gate.canDeliver
    rintro deliverable g ⟨rfl, hdeliverable⟩
    rw [Fallible.meets_ite]
    split
    · next htrue =>
      apply h.meets_update (by intro _; rfl)
      intro e h
      rw [Fallible.meets_bind]
      apply meets_gate (h.gate.output_accepted hended (hdeliverable.mp htrue).1 h.named hle)
      rintro d g ⟨haccepted, hrefused⟩
      rw [Fallible.meets_ite]
      split
      · next hne =>
        obtain ⟨hdue, hserves⟩ := hrefused hne
        exact (h.regate hserves rfl).withdraw hended hdue value hle' hle''
      · next heq =>
        obtain ⟨r', hsame, hstage', hserves⟩ := haccepted (not_not.mp heq)
        exact ⟨r', hsame, hstage', h.regate (hserves.mono (hle'.trans hle'')) hsame⟩
    · next hfalse =>
      have hrevoked : r.isRevoked := by
        by_contra hlive
        obtain ⟨-, hsucceeded, houtput, -⟩ := hended
        exact hfalse (hdeliverable.mpr ⟨hlive, hsucceeded.mpr trivial, houtput⟩)
      apply h.meets_diagnose
      intro e h
      rw [Fallible.meets_bind]
      apply meets_gate (h.gate.output_revoked hended hrevoked h.named hle)
      rintro d g ⟨hd, r', hsame, hstage', hserves⟩
      apply meets_accepted hd
      exact ⟨r', hsame, hstage', h.regate (hserves.mono (hle'.trans hle'')) hsame⟩

/-- `settle`. -/
theorem settle (h : e.Owns n v reference arguments r) (hstage : AtStage r .disposed)
    (hle : n ≤ now) :
    Meets (ExecutionCoordinator.settle reference now) e
      (fun _ f ↦ ∃ r', AtStage r' .settled ∧ f.Owns now v reference arguments r' ∧
        ∃ record, f.records.get? reference = some record ∧ record.receipt = some r') Overflows := by
  unfold ExecutionCoordinator.settle
  apply h.meets_operation
  rw [Fallible.meets_bind]
  apply meets_gate (h.gate.settle hstage hle)
  rintro d g ⟨hd, r', hsame, hstage', hserves⟩
  rw [Fallible.meets_bind]
  apply meets_accepted hd
  rw [Fallible.meets_bind]
  apply meets_gate (e := { e with gate := g }) (hsame ▸ hserves.receipt_read)
  rintro found g' ⟨rfl, rfl⟩
  refine ⟨r', hstage', (h.regate hserves hsame).withRecord reference fun _ ↦ rfl, ?_⟩
  obtain ⟨record, hrecord, -⟩ := h.holds
  refine ⟨{ record with state := .finished, receipt := some r' }, ?_, rfl⟩
  rw [get?_withRecord, if_pos rfl, hrecord]
  rfl

/-- `release`. -/
theorem release (h : e.Owns n v reference arguments r) (hstage : AtStage r .settled) :
    Meets (ExecutionCoordinator.release reference) e
      (fun _ f ↦ f.Rests n (v.bearing r)) Overflows := by
  unfold ExecutionCoordinator.release
  apply h.meets_operation
  rw [Fallible.meets_bind]
  apply meets_gate h.gate.receipt_read
  rintro found g ⟨rfl, rfl⟩
  have hsettled : ¬ r.settlement ≠ .settled := not_not.mpr hstage
  rw [Fallible.meets_ite, if_neg hsettled, Fallible.meets_assign]
  exact ⟨h.gate, rfl⟩

end Owns

namespace Rests

/-- `admit` of a request that was not asked for before. -/
theorem admitRecord (h : e.Rests n v) {record : Record α δ}
    (hrecord : e.records.get? reference = some record) (hunasked : record.operationId = none)
    (units : ℕ) (deadline : Option ℕ) (hle : n ≤ now) :
    Meets (ExecutionCoordinator.admitRecord reference units deadline now) e
      (fun decision f ↦
        (decision.status = .admitted → ¬ v.closed ∧ ∃ r, decision.authority = some r.authority ∧
          r.authority.operationId = v.nextOperationId ∧ v.nextOperationId ≠ 0 ∧
          AtStage r .admitted ∧ ¬ r.isRevoked ∧ r.nativeStarted = false ∧
          f.Owns now ⟨some r, v.nextOperationId + 1, v.closed⟩ reference record.arguments r) ∧
        (decision.status ≠ .admitted → f.Rests now v))
      fun e' f ↦ (e' = .overflowError ∨ ∃ text, e' = .valueError text) ∧ f.Rests now v := by
  unfold ExecutionCoordinator.admitRecord retained
  simp only [Fallible.meets_bind, Fallible.meets_read, hrecord, Fallible.meets_pure, h.active,
    hunasked, Option.isSome_none, Bool.false_eq_true, or_self, if_false, Fallible.meets_assign]
  unfold onGate
  rw [Fallible.meets_within]
  refine (h.gate.admitRequest reference units deadline hle).mono ?_ ?_
  · rintro decision g ⟨htext, hadmitted, hrefused⟩
    rw [ExecutionCoordinator.update, Fallible.meets_assign, Fallible.meets_ite]
    split
    · next hstatus =>
      obtain ⟨hopen, r, hauthority, hid, hnonzero, hstage, hlive, hstarted, hserves⟩ :=
        hadmitted hstatus
      simp only [Fallible.meets_bind, ExecutionCoordinator.update, Fallible.meets_assign,
        Fallible.meets_pure]
      refine ⟨fun _ ↦ ⟨hopen, r, hauthority, hid, hnonzero, hstage, hlive, hstarted, ?_⟩,
        fun hne ↦ absurd hstatus hne⟩
      constructor
      · simpa using hserves
      · rfl
      · simp [get?_withRecord, hrecord, hauthority]
      · exact htext
    · next hstatus =>
      refine ⟨fun heq ↦ absurd heq hstatus, fun _ ↦ ⟨?_, ?_⟩⟩
      · rw [withRecord_gate]
        exact hrefused hstatus
      · rw [withRecord_active]
  · rintro failure g ⟨rfl, hfailure⟩
    exact ⟨hfailure, h.gate.mono hle, rfl⟩

end Rests

end ExecutionCoordinator

end RobotHarness.Python
