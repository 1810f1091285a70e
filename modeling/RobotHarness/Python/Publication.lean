import RobotHarness.Core.Release
import RobotHarness.Python.Navigation
import RobotHarness.Python.Soundness

/-!
# The publication of a result

`dispose_result` stages a result in its record before the gate decides about it. In every run of
a coordinator whose clock does not go back, the result of a successful operation is published or
withdrawn as a whole, and the operation can be settled afterwards.
-/

namespace RobotHarness.Python

open Fallible (Meets Moves)
open Transport (Json)

/-! ### What the gate answers -/

/-- The next number is not zero. -/
private theorem succ_ne_zero {n : UInt64} (h : n ≠ lastSequence) : n + 1 ≠ 0 := by
  unfold lastSequence at h
  grind

/-- The next number is larger. -/
private theorem lt_succ {n : UInt64} (h : n ≠ lastSequence) : n < n + 1 := by
  unfold lastSequence at h
  grind

/-- What a call answers about evidence is what the operation answers. -/
private theorem evidence_eq {p : EvidenceDisposition × AuthorityGate} {d : EvidenceDisposition}
    {s : AuthorityGate} (h : p.map .evidence id = (Answer.evidence d, s)) : p = (d, s) := by
  obtain ⟨d', s'⟩ := p
  cases h
  rfl

namespace GateState

/-- A sound gate stays sound while time passes. -/
theorem Sound.mono {g : GateState} {t t' : MonotonicTime} (h : g.Sound t) (hle : t ≤ t') :
    g.Sound t' :=
  { h with bounded := h.bounded.mono hle le_rfl }

/-- A gate whose current operation has succeeded and has not disposed of its output. -/
structure Awaiting (g : GateState) (t : MonotonicTime) (r : OperationReceipt) : Prop where
  sound : g.Sound t
  present : g.gate.currentReceipt = some r
  succeeded : r.nativeOutcome = .succeeded
  pending : r.output = .pending

namespace Awaiting

variable {g : GateState} {t stamp : MonotonicTime} {r : OperationReceipt} {reference : String}
  {now : ℕ}

/-- The operation of the receipt is the current one. -/
theorem operationValue (hs : g.Sound t) (present : g.gate.currentReceipt = some r) :
    operationValue r.authority.operationId g = (.ok r.authority, g) := by
  have hcurrent : g.authority = some r.authority := by rw [hs.current, present]; rfl
  rw [GateState.operationValue, Fallible.read_bind, hcurrent]
  dsimp only
  rw [if_pos rfl]
  rfl

/-- A number is left to draw. -/
theorem record (source : String) (hroom : g.sequence ≠ lastSequence) :
    record source stamp g =
      (.ok ⟨source, stamp, g.sequence + 1⟩, { g with sequence := g.sequence + 1 }) := by
  unfold GateState.record
  exact if_neg hroom

/-- What the gate answers about a delivery. -/
theorem canDeliver (h : g.Awaiting t r) :
    canDeliver r.authority.operationId g =
      (.ok (decide (g.gate.canDeliverResult r.authority)), g) := by
  rw [GateState.canDeliver, Fallible.bind_of_eq (operationValue h.sound h.present)]
  rfl

/-- An accepted publication that the gate is asked for. -/
theorem output_accepted (h : g.Awaiting t r) (hroom : g.sequence ≠ lastSequence)
    (htext : textValue reference true = .ok reference) (hnow : unsignedValue now = .ok stamp) :
    output r.authority.operationId .accepted reference now g =
      (.ok (g.gate.observeOutputAccepted
          ⟨r.authority, reference, ⟨sinkSource, stamp, g.sequence + 1⟩⟩).1,
        { g with
          gate := (g.gate.observeOutputAccepted
            ⟨r.authority, reference, ⟨sinkSource, stamp, g.sequence + 1⟩⟩).2
          sequence := g.sequence + 1 }) := by
  rw [GateState.output, Fallible.bind_of_eq (operationValue h.sound h.present), htext, hnow]
  change (GateState.record sinkSource stamp >>= fun evidence ↦
    onGate (·.observeOutputAccepted ⟨r.authority, reference, evidence⟩)) g = _
  rw [Fallible.bind_of_eq (record sinkSource hroom)]
  rfl

/-- A delivery in time is accepted. -/
theorem accepts (h : g.Awaiting t r) (hle : t ≤ stamp) (hroom : g.sequence ≠ lastSequence)
    (hdeliver : g.gate.canDeliverResult r.authority) (hnamed : reference ≠ "")
    (hearly : ¬ r.hasReachedDeadline stamp) :
    g.gate.observeOutputAccepted ⟨r.authority, reference, ⟨sinkSource, stamp, g.sequence + 1⟩⟩ =
      (.accepted, { g.gate with
        currentReceipt := some (r.acceptOutput
          ⟨r.authority, reference, ⟨sinkSource, stamp, g.sequence + 1⟩⟩) }) := by
  have hsource : sinkSource ≠ "" := by decide
  have hcall := h.sound.coherent.accepts_output
    (e := ⟨r.authority, reference, ⟨sinkSource, stamp, g.sequence + 1⟩⟩) (t := stamp) h.present
    (((h.sound.bounded.receipt r h.present).latestEffectTime_le).trans hle) hdeliver hnamed
    (h.sound.sink ▸ hsource) h.sound.sink.symm rfl (succ_ne_zero hroom) hearly
  exact evidence_eq hcall

/-- A delivery at the deadline is refused, and changes nothing. -/
theorem refuses (reference : String) (hdue : r.hasReachedDeadline stamp)
    (present : g.gate.currentReceipt = some r) {record : EvidenceRecord} (hrecord : record.observedAt = stamp) :
    (g.gate.observeOutputAccepted ⟨r.authority, reference, record⟩).1 ≠ .accepted ∧
      (g.gate.observeOutputAccepted ⟨r.authority, reference, record⟩).2 = g.gate := by
  have hstep : Transition g.gate (.observeOutputAccepted ⟨r.authority, reference, record⟩)
      (.evidence (g.gate.observeOutputAccepted ⟨r.authority, reference, record⟩).1)
      (g.gate.observeOutputAccepted ⟨r.authority, reference, record⟩).2 :=
    gate_transition g.gate (.observeOutputAccepted ⟨r.authority, reference, record⟩)
  generalize g.gate.observeOutputAccepted ⟨r.authority, reference, record⟩ = answered at hstep ⊢
  obtain ⟨disposition, gate⟩ := answered
  cases hstep with
  | noEffect hquiet => exact ⟨hquiet, rfl⟩
  | operation hpresent _ step =>
    cases present.symm.trans hpresent
    cases step with
    | acceptOutput _ _ _ _ _ _ _ early => exact absurd (hrecord ▸ hdue) early

/-- Looking at the deadline revokes an operation that is due. -/
theorem expires (h : g.Awaiting t r) (hle : t ≤ stamp) (hlive : ¬ r.isRevoked)
    (hdue : r.hasReachedDeadline stamp) :
    g.gate.observeTime r.authority stamp =
      (((r.expireAt stamp).revoke stamp).1,
        { g.gate with currentReceipt := some ((r.expireAt stamp).revoke stamp).2 }) := by
  have hfirst : r.expiryObservedAt = none := by
    by_contra hne
    exact hlive (.inr (.inl (Option.isSome_iff_ne_none.mpr hne)))
  have hcall := OperationStep.call_eq h.present (h.sound.bound r h.present)
    (.expire ((h.sound.coherent.receipts r h.present).unreleased h.pending)
      (((h.sound.bounded.receipt r h.present).latestTime_le).trans hle) hfirst hdue)
  have hanswer := congrArg Prod.fst hcall
  have hstate := congrArg Prod.snd hcall
  simp only [AuthorityGate.call, Prod.map_fst, Prod.map_snd, Answer.control.injEq, id]
    at hanswer hstate
  exact Prod.ext hanswer hstate

/-- An operation that may not be delivered is revoked. -/
theorem revoked (h : g.Awaiting t r) (hdenied : ¬ g.gate.canDeliverResult r.authority) :
    r.isRevoked := by
  by_contra hlive
  exact hdenied ⟨h.sound.phase.1, h.sound.phase.2, r,
    AuthorityGate.matchingReceipt_eq_some.mpr ⟨h.present, rfl, h.sound.bound r h.present⟩, hlive,
    h.succeeded, h.pending⟩

/-- The output of a revoked operation is withheld. -/
theorem withholds (h : g.Awaiting t r) (hle : t ≤ stamp) (hroom : g.sequence ≠ lastSequence)
    (hnamed : reference ≠ "") (hrevoked : r.isRevoked) :
    g.gate.observeOutputNotDelivered
        ⟨r.authority, .authorityRevoked, reference, ⟨sinkSource, stamp, g.sequence + 1⟩⟩ =
      (.accepted, { g.gate with
        currentReceipt := some (r.withholdOutput ⟨r.authority, .authorityRevoked, reference,
          ⟨sinkSource, stamp, g.sequence + 1⟩⟩) }) := by
  have hbounded := h.sound.bounded.receipt r h.present
  have hintegrity := h.sound.coherent.receipts r h.present
  have hterminal := hintegrity.recorded.terminal
  obtain ⟨success, hsuccess⟩ := Option.isSome_iff_exists.mp (hterminal.1 h.succeeded)
  have haccepted : r.nativeAcceptance = .accepted :=
    hintegrity.recorded.observed (.inr (.inl (hintegrity.recorded.success.mpr
      (hterminal.1 h.succeeded))))
  have hprecedes : r.revocationPrecedes stamp := by
    obtain ⟨⟨-, -, hcancelled, hexpired, hwithdrawn, -⟩, -⟩ :=
      OperationReceipt.bounded_iff.mp hbounded
    rcases hrevoked with hsome | hsome | hsome
    · obtain ⟨time, htime⟩ := Option.isSome_iff_exists.mp hsome
      exact .inl ⟨time, htime, (hcancelled time htime).trans hle⟩
    · obtain ⟨time, htime⟩ := Option.isSome_iff_exists.mp hsome
      exact .inr (.inl ⟨time, htime, (hexpired time htime).trans hle⟩)
    · obtain ⟨time, htime⟩ := Option.isSome_iff_exists.mp hsome
      exact .inr (.inr ⟨time, htime, (hwithdrawn time htime).trans hle⟩)
  have hrests : g.gate.nonDeliveryPrerequisite r
      ⟨r.authority, .authorityRevoked, reference, ⟨sinkSource, stamp, g.sequence + 1⟩⟩ =
        some (sinkSource, success) := by
    unfold AuthorityGate.nonDeliveryPrerequisite
      AuthorityGate.nonDeliveryPrerequisite.sinkPrerequisite
    simp [hprecedes, hnamed, haccepted, h.succeeded, hsuccess, h.sound.sink]
  have hordered : success.observedAt ≤ stamp :=
    (((OperationReceipt.bounded_iff.mp hbounded).2.2.2.2.1 success hsuccess).1).trans hle
  have hsource : sinkSource ≠ "" := by decide
  have hcall := OperationStep.call_eq h.present (h.sound.bound r h.present)
    (.withholdOutput rfl hrests
      ⟨hsource, rfl, succ_ne_zero hroom, hordered⟩ h.pending
      (hbounded.follows (lt_succ hroom)))
  exact evidence_eq hcall

/-- The conversion of a reading that is taken later. -/
private theorem within_of {n : ℕ} (h : unsignedValue n = .ok stamp) : Within stamp n := by
  unfold unsignedValue at h
  split at h
  · next hlt =>
    cases h
    rw [Within, UInt64.toNat_ofNat_of_lt' hlt]
  · cases h

/-- A delivery in time is published. -/
theorem publishes (h : g.Awaiting t r) (hle : t ≤ stamp) (hroom : g.sequence ≠ lastSequence)
    (htext : textValue reference true = .ok reference) (hnamed : reference ≠ "")
    (hnow : unsignedValue now = .ok stamp) (hdeliver : g.gate.canDeliverResult r.authority)
    (hearly : ¬ r.hasReachedDeadline stamp) :
    ∃ g', output r.authority.operationId .accepted reference now g = (.ok .accepted, g') ∧
      g'.Sound stamp ∧ g'.sequence = g.sequence + 1 ∧ g'.gate.currentReceipt =
        some (r.acceptOutput ⟨r.authority, reference, ⟨sinkSource, stamp, g.sequence + 1⟩⟩) := by
  have heq := h.output_accepted hroom htext hnow
  have hkeeps := keeps_output r.authority.operationId .accepted reference (within_of hnow) g
  rw [heq] at hkeeps
  rw [h.accepts hle hroom hdeliver hnamed hearly] at heq hkeeps
  exact ⟨_, heq, hkeeps.sound (h.sound.mono hle), rfl, rfl⟩

/-- A delivery at the deadline is refused, and the operation goes on to wait. -/
theorem overdue (h : g.Awaiting t r) (hle : t ≤ stamp) (hroom : g.sequence ≠ lastSequence)
    (htext : textValue reference true = .ok reference)
    (hnow : unsignedValue now = .ok stamp) (hdue : r.hasReachedDeadline stamp) :
    ∃ disposition g', output r.authority.operationId .accepted reference now g =
        (.ok disposition, g') ∧ disposition ≠ .accepted ∧ g'.Awaiting stamp r ∧
      g'.sequence = g.sequence + 1 := by
  have heq := h.output_accepted hroom htext hnow
  have hkeeps := keeps_output r.authority.operationId .accepted reference (within_of hnow) g
  rw [heq] at hkeeps
  obtain ⟨hrefused, hsame⟩ := refuses reference hdue h.present
    (show (⟨sinkSource, stamp, g.sequence + 1⟩ : EvidenceRecord).observedAt = stamp from rfl)
  rw [hsame] at heq hkeeps
  exact ⟨_, _, heq, hrefused,
    ⟨hkeeps.sound (h.sound.mono hle), h.present, h.succeeded, h.pending⟩, rfl⟩

/-- The next look at the deadline revokes the operation. -/
theorem ticks (h : g.Awaiting t r) (hle : t ≤ stamp) (hnow : unsignedValue now = .ok stamp)
    (hlive : ¬ r.isRevoked) (hdue : r.hasReachedDeadline stamp) :
    ∃ status g' r', tick r.authority.operationId now g = (.ok status, g') ∧
      g'.Awaiting stamp r' ∧ r'.isRevoked ∧ r'.authority = r.authority ∧
      g'.sequence = g.sequence := by
  have heq : tick r.authority.operationId now g =
      (.ok (g.gate.observeTime r.authority stamp).1.status,
        { g with gate := (g.gate.observeTime r.authority stamp).2 }) := by
    unfold tick operationTime
    rw [Fallible.bind_of_eq (operationValue h.sound h.present), hnow]
    rfl
  have hkeeps := keeps_tick r.authority.operationId (within_of hnow) g
  rw [heq] at hkeeps
  rw [h.expires hle hlive hdue] at heq hkeeps
  have hrevoked : ((r.expireAt stamp).revoke stamp).2.isRevoked :=
    OperationReceipt.isRevoked_revoke (.inr (.inl rfl)) stamp
  refine ⟨_, _, _, heq, ⟨hkeeps.sound (h.sound.mono hle), rfl, ?_, ?_⟩, hrevoked, ?_, rfl⟩
  · rw [OperationReceipt.revoke_eq]
    exact h.succeeded
  · rw [OperationReceipt.revoke_eq]
    exact h.pending
  · rw [OperationReceipt.revoke_eq]
    rfl

/-- What a revoked operation does not deliver is noted. -/
theorem revokes (h : g.Awaiting t r) (hle : t ≤ stamp) (hroom : g.sequence ≠ lastSequence)
    (htext : textValue reference true = .ok reference) (hnamed : reference ≠ "")
    (hnow : unsignedValue now = .ok stamp) (hrevoked : r.isRevoked) :
    ∃ g', output r.authority.operationId .authorityRevoked reference now g = (.ok .accepted, g') ∧
      g'.Sound stamp ∧ g'.sequence = g.sequence + 1 ∧ g'.gate.currentReceipt =
        some (r.withholdOutput ⟨r.authority, .authorityRevoked, reference,
          ⟨sinkSource, stamp, g.sequence + 1⟩⟩) := by
  have heq : output r.authority.operationId .authorityRevoked reference now g =
      (.ok (g.gate.observeOutputNotDelivered ⟨r.authority, .authorityRevoked, reference,
          ⟨sinkSource, stamp, g.sequence + 1⟩⟩).1,
        { g with
          gate := (g.gate.observeOutputNotDelivered ⟨r.authority, .authorityRevoked, reference,
            ⟨sinkSource, stamp, g.sequence + 1⟩⟩).2
          sequence := g.sequence + 1 }) := by
    rw [GateState.output, Fallible.bind_of_eq (operationValue h.sound h.present), htext, hnow]
    change (GateState.record sinkSource stamp >>= fun evidence ↦
      onGate (·.observeOutputNotDelivered
        ⟨r.authority, .authorityRevoked, reference, evidence⟩)) g = _
    rw [Fallible.bind_of_eq (record sinkSource hroom)]
    rfl
  have hkeeps := keeps_output r.authority.operationId .authorityRevoked reference
    (within_of hnow) g
  rw [heq] at hkeeps
  rw [h.withholds hle hroom hnamed hrevoked] at heq hkeeps
  exact ⟨_, heq, hkeeps.sound (h.sound.mono hle), rfl, rfl⟩

end Awaiting

/-- An operation that has not disposed of its output is not settled; the number is drawn. -/
theorem Sound.refuses_settlement {g : GateState} {t stamp : MonotonicTime} {r : OperationReceipt}
    {now : ℕ} (h : g.Sound t) (present : g.gate.currentReceipt = some r)
    (hpending : r.output = .pending) (hroom : g.sequence ≠ lastSequence)
    (hnow : unsignedValue now = .ok stamp) :
    ∃ disposition, settle r.authority.operationId now g =
      (.ok disposition, { g with sequence := g.sequence + 1 }) ∧ disposition ≠ .accepted := by
  have hrefused : ∀ e : SettlementEvidence, (g.gate.observeSettlement e).1 ≠ .accepted ∧
      (g.gate.observeSettlement e).2 = g.gate := by
    intro e
    have hstep : Transition g.gate (.observeSettlement e)
        (.evidence (g.gate.observeSettlement e).1) (g.gate.observeSettlement e).2 :=
      gate_transition g.gate (.observeSettlement e)
    generalize g.gate.observeSettlement e = answered at hstep ⊢
    obtain ⟨disposition, gate⟩ := answered
    cases hstep with
    | noEffect hquiet => exact ⟨hquiet, rfl⟩
    | operation hpresent _ step =>
      cases present.symm.trans hpresent
      cases step with
      | settle _ _ _ _ _ disposed => exact absurd hpending disposed
  refine ⟨(g.gate.observeSettlement ⟨r.authority, g.settlementScope, true,
    ⟨settlementSource, stamp, g.sequence + 1⟩⟩).1, ?_, (hrefused _).1⟩
  unfold GateState.settle operationTime
  rw [Fallible.bind_of_eq (Awaiting.operationValue h present), hnow]
  change (GateState.record settlementSource stamp >>= fun evidence ↦
    onGate (·.observeSettlement ⟨r.authority, g.settlementScope, true, evidence⟩)) g = _
  rw [Fallible.bind_of_eq (Awaiting.record settlementSource hroom), onGate, (hrefused _).2]

/-- An operation that has succeeded and has disposed of its output can be settled. -/
theorem Sound.settles {g : GateState} {t stamp : MonotonicTime} {r : OperationReceipt} {now : ℕ}
    (h : g.Sound t) (present : g.gate.currentReceipt = some r)
    (hsucceeded : r.nativeOutcome = .succeeded) (hdisposed : r.output ≠ .pending)
    (hunsettled : r.settlement ≠ .settled) (hroom : g.sequence ≠ lastSequence)
    (hnow : unsignedValue now = .ok stamp) (hle : t ≤ stamp) :
    settle r.authority.operationId now g =
      (.ok .accepted,
        { g with
          gate := { g.gate with
            currentReceipt := some (r.settle ⟨r.authority, g.settlementScope, true,
              ⟨settlementSource, stamp, g.sequence + 1⟩⟩) }
          sequence := g.sequence + 1 }) := by
  have hbounded := h.bounded.receipt r present
  have hintegrity := h.coherent.receipts r present
  have hresolved := OperationReceipt.resolved_of_disposed hintegrity.recorded hintegrity.sequenced
    (by rw [hsucceeded]; decide) (by rw [hsucceeded]; decide) hdisposed
  have hsource : settlementSource ≠ "" := by decide
  have heffects := hbounded.latestEffectTime_le.trans hle
  have hcall := OperationStep.call_eq present (h.bound r present)
    (.settle (e := ⟨r.authority, g.settlementScope, true,
        ⟨settlementSource, stamp, g.sequence + 1⟩⟩) rfl h.scope.symm
      ⟨hsource, h.settlement.symm, succ_ne_zero hroom,
        (OperationReceipt.latestEffectTime_le_iff.mp heffects).1⟩
      hunsettled rfl hdisposed heffects (hbounded.follows (lt_succ hroom)) hresolved)
  have hsettled : g.gate.observeSettlement ⟨r.authority, g.settlementScope, true,
      ⟨settlementSource, stamp, g.sequence + 1⟩⟩ =
        (.accepted, { g.gate with
          currentReceipt := some (r.settle ⟨r.authority, g.settlementScope, true,
            ⟨settlementSource, stamp, g.sequence + 1⟩⟩) }) := evidence_eq hcall
  unfold GateState.settle operationTime
  rw [Fallible.bind_of_eq (Awaiting.operationValue h present), hnow]
  change (GateState.record settlementSource stamp >>= fun evidence ↦
    onGate (·.observeSettlement ⟨r.authority, g.settlementScope, true, evidence⟩)) g = _
  rw [Fallible.bind_of_eq (Awaiting.record settlementSource hroom)]
  change (Except.ok (g.gate.observeSettlement ⟨r.authority, g.settlementScope, true,
      ⟨settlementSource, stamp, g.sequence + 1⟩⟩).1,
    ({ g with
      gate := (g.gate.observeSettlement ⟨r.authority, g.settlementScope, true,
        ⟨settlementSource, stamp, g.sequence + 1⟩⟩).2
      sequence := g.sequence + 1 } : GateState)) = _
  rw [hsettled]

end GateState

/-! ### Programs that stage nothing -/

/-- What a program does that stages no result. -/
structure Leaves {α δ : Type} (t : MonotonicTime) (e f : ExecutionCoordinator α δ) : Prop where
  gate : Keeps t e.gate f.gate
  results : ∀ reference,
    (f.records.get? reference).map Record.result = (e.records.get? reference).map Record.result

namespace Leaves

variable {α δ : Type} {t : MonotonicTime}

/-- What does not change is left as it is. -/
theorem refl (e : ExecutionCoordinator α δ) : Leaves t e e := ⟨.refl e.gate, fun _ ↦ rfl⟩

private theorem trans (e f g : ExecutionCoordinator α δ) (hef : Leaves t e f) (hfg : Leaves t f g) :
    Leaves t e g :=
  ⟨.trans _ _ _ hef.gate hfg.gate,
    fun reference ↦ (hfg.results reference).trans (hef.results reference)⟩

end Leaves

namespace ExecutionCoordinator

variable {α δ : Type} {t : MonotonicTime}

private theorem leaveThen {β γ : Type} {p : Coordination α δ β} {k : β → Coordination α δ γ}
    (hp : Moves (Leaves t) p) (hk : ∀ b, Moves (Leaves t) (k b)) : Moves (Leaves t) (p >>= k) :=
  .bind Leaves.trans hp hk

private theorem leaveReturn {β : Type} (b : β) : Moves (Leaves t) (pure b : Coordination α δ β) :=
  .pure Leaves.refl

private theorem leaveRead {β : Type} (f : ExecutionCoordinator α δ → β) :
    Moves (Leaves t) (Fallible.read f : Coordination α δ β) :=
  .read Leaves.refl

private theorem leaveFail {β : Type} (e : Failure) :
    Moves (Leaves t) (Fallible.raise e : Coordination α δ β) :=
  .raise Leaves.refl

private theorem leaveAnswer {β : Type} (r : Except Failure β) :
    Moves (Leaves t) (Fallible.answer r : Coordination α δ β) :=
  .answer Leaves.refl

/-- A call of the gate that keeps it sound leaves the results. -/
theorem leaves_onGate {β : Type} {call : GateProgram β} (h : Moves (Keeps t) call) :
    Moves (Leaves t) (onGate call : Coordination α δ β) :=
  .within (fun _ _ hgate ↦ ⟨hgate, fun _ ↦ rfl⟩) h

/-- An update of something else leaves the results. -/
theorem leaves_update {reference : String} {f : Record α δ → Record α δ}
    (hf : ∀ record, (f record).result = record.result) :
    Moves (Leaves t) (update reference f) := by
  refine .assign fun e ↦ ⟨?_, fun other ↦ ?_⟩
  · rw [withRecord_gate]
    exact .refl e.gate
  · rw [get?_withRecord]
    split
    · next heq =>
      rw [heq, Option.map_map]
      exact Option.map_congr fun record _ ↦ hf record
    · rfl

private theorem leaves_retained (reference : String) :
    Moves (Leaves t) (retained reference : Coordination α δ (Record α δ)) := by
  refine leaveThen (leaveRead _) fun record ↦ ?_
  cases record with
  | none => exact leaveFail _
  | some record => exact leaveReturn record

private theorem leaves_operation (reference : String) :
    Moves (Leaves t) (operation reference : Coordination α δ OperationId) := by
  refine leaveThen (leaves_retained reference) fun record ↦ leaveThen (leaveRead _) fun active ↦
    .ite (fun _ ↦ leaveFail _) fun _ ↦ ?_
  cases record.operationId with
  | none => exact leaveFail _
  | some operation => exact leaveReturn operation

/-- `accepted` leaves the results of the records, and keeps the gate sound. -/
theorem leaves_accepted (disposition : EvidenceDisposition) :
    Moves (Leaves t) (accepted disposition : Coordination α δ Unit) :=
  .ite (fun _ ↦ leaveFail _) fun _ ↦ leaveReturn _

/-- `dispatch` leaves the results of the records, and keeps the gate sound. -/
theorem leaves_dispatch (reference : String) {now : ℕ} (hnow : GateState.Within t now) :
    Moves (Leaves t) (dispatch reference now : Coordination α δ Bool) :=
  leaveThen (leaves_operation reference) fun operation ↦
    leaves_onGate (GateState.keeps_dispatch operation hnow)

/-- `nonSubmission` leaves the results of the records, and keeps the gate sound. -/
theorem leaves_nonSubmission (reference : String) {now : ℕ} (hnow : GateState.Within t now) :
    Moves (Leaves t) (nonSubmission reference now : Coordination α δ EvidenceDisposition) :=
  leaveThen (leaves_operation reference) fun operation ↦
    leaves_onGate (GateState.keeps_nonSubmission operation hnow)

/-- `tick` leaves the results of the records, and keeps the gate sound. -/
theorem leaves_tick {now : ℕ} (hnow : GateState.Within t now) :
    Moves (Leaves t) (tick now : Coordination α δ (Option OperationReceipt)) := by
  refine leaveThen (leaveRead _) fun active ↦ ?_
  cases active with
  | none => exact leaveReturn _
  | some reference =>
    exact leaveThen (leaves_operation reference) fun operation ↦
      leaveThen (leaves_onGate (GateState.keeps_tick operation hnow)) fun _ ↦
        leaves_onGate (GateState.keeps_receipt operation)

/-- `cancel` leaves the results of the records, and keeps the gate sound. -/
theorem leaves_cancel (reference : String) {now : ℕ} (hnow : GateState.Within t now) :
    Moves (Leaves t) (cancel reference now : Coordination α δ Bool) :=
  leaveThen (leaves_retained reference) fun _ ↦ leaveThen (leaveRead _) fun _ ↦
    .ite (fun _ ↦ leaveReturn _) fun _ ↦ leaveThen (leaves_operation reference) fun operation ↦
      leaveThen (leaves_onGate (GateState.keeps_cancel operation hnow)) fun _ ↦ leaveReturn _

/-- `native` leaves the results of the records, and keeps the gate sound. -/
theorem leaves_native (reference : String) (kind : NativeEventKind)
    (nativeIdentity : Option String) {now : ℕ} (hnow : GateState.Within t now) :
    Moves (Leaves t)
      (native reference kind nativeIdentity now : Coordination α δ EvidenceDisposition) :=
  leaveThen (leaves_operation reference) fun operation ↦
    leaves_onGate (GateState.keeps_native operation kind nativeIdentity hnow)

/-- `settle` leaves the results of the records, and keeps the gate sound. -/
theorem leaves_settle (reference : String) {now : ℕ} (hnow : GateState.Within t now) :
    Moves (Leaves t) (settle reference now : Coordination α δ Unit) :=
  leaveThen (leaves_operation reference) fun operation ↦
    leaveThen (leaves_onGate (GateState.keeps_settle operation hnow)) fun disposition ↦
    leaveThen (leaves_accepted disposition) fun _ ↦
    leaveThen (leaves_onGate (GateState.keeps_receipt operation)) fun _ ↦
      leaves_update fun _ ↦ rfl

/-- `release` leaves the results of the records, and keeps the gate sound. -/
theorem leaves_release (reference : String) :
    Moves (Leaves t) (release reference : Coordination α δ Unit) := by
  refine leaveThen (leaves_operation reference) fun operation ↦
    leaveThen (leaves_onGate (GateState.keeps_receipt operation)) fun receipt ↦ ?_
  cases receipt with
  | none => exact leaveFail _
  | some receipt =>
    exact .ite (fun _ ↦ leaveFail _) fun _ ↦ .assign fun e ↦ ⟨.refl e.gate, fun _ ↦ rfl⟩

/-- `diagnose` leaves the results of the records, and keeps the gate sound. -/
theorem leaves_diagnose (reference : String) (diagnostic : Except Failure Json) :
    Moves (Leaves t) (diagnose reference diagnostic : Coordination α δ Unit) :=
  leaveThen (leaveAnswer diagnostic) fun _ ↦ leaves_update fun _ ↦ rfl

/-! ### A publication -/

section Publication

variable {e : ExecutionCoordinator α δ} {reference : String} {r : OperationReceipt}

/-- A call of the gate that answers changes the gate alone. -/
theorem onGate_of_eq {β : Type} {call : GateProgram β} {g g' : GateState} {b : β}
    (hgate : e.gate = g) (h : call g = (.ok b, g')) :
    onGate call e = (.ok b, { e with gate := g' }) := by
  subst hgate
  rw [onGate, Fallible.within, h]

/-- What is returned is known to the rest of a program. -/
private theorem returned {β γ : Type} (b : β) (k : β → Coordination α δ γ) :
    ((pure b : Coordination α δ β) >>= k) e = k b e := rfl

/-- The operation of an active request. -/
theorem operation_of_active (hcurrent : e.ActiveIsCurrent) (hactive : e.active = some reference)
    (hs : e.gate.Sound t) (present : e.gate.gate.currentReceipt = some r) :
    operation reference e = (.ok r.authority.operationId, e) := by
  obtain ⟨authority, hauthority, hoperation⟩ := hcurrent reference hactive
  have hsame : r.authority = authority := by
    have := hs.current
    rw [present, hauthority] at this
    exact (Option.some.inj this).symm
  obtain ⟨record, hrecord, hid⟩ := Option.bind_eq_some_iff.mp hoperation
  have hretained : retained reference e = (.ok record, e) := by
    rw [retained, Fallible.read_bind, hrecord]
    rfl
  rw [operation, Fallible.bind_of_eq hretained, Fallible.read_bind, hactive,
    if_neg (not_not.mpr rfl), hid, hsame]
  rfl

/-- What a disposal of a result leaves. -/
structure Disposes (e f : ExecutionCoordinator α δ) (t : MonotonicTime) (reference : String)
    (candidate : Json) : Prop where
  sound : f.gate.Sound t
  sequence : f.gate.sequence.toNat ≤ e.gate.sequence.toNat + 2
  active : f.active = e.active
  disposed : ∃ record r, f.records.get? reference = some record ∧
    f.gate.gate.currentReceipt = some r ∧ r.nativeOutcome = .succeeded ∧
    r.settlement ≠ .settled ∧
    (record.result = some candidate ∧ r.output = .accepted ∨
      record.result = none ∧ r.output = .notDelivered ∧
        r.outputNonDeliveryReason = some .authorityRevoked)

/-- A number that is left stays left for one more record. -/
private theorem succ_room {n : UInt64} {k : ℕ} (h : n.toNat + (k + 1) < 2 ^ 64) :
    n ≠ lastSequence ∧ (n + 1).toNat = n.toNat + 1 := by
  constructor
  · rintro rfl
    simp [lastSequence] at h
    omega
  · rw [UInt64.toNat_add]
    have hone : (1 : UInt64).toNat = 1 := rfl
    omega

/-- A reference that an admission takes may be published. -/
theorem reference_allowed (htext : textValue reference false = .ok reference) :
    textValue reference true = .ok reference ∧ reference ≠ "" := by
  unfold textValue at htext ⊢
  split at htext
  · cases htext
  next hsize =>
  push Not at hsize
  split at htext
  · cases htext
  next hplain =>
  refine ⟨?_, ?_⟩
  · rw [if_neg (by simpa using hsize.2), if_neg hplain]
  · rintro rfl
    exact hsize.1 rfl rfl

/-- The diagnostic is noted in the record. -/
private theorem diagnose_of_ok (e : ExecutionCoordinator α δ) (reference : String)
    (observed : Json) :
    diagnose reference (.ok observed) e =
      (.ok (), e.withRecord reference fun record ↦ { record with diagnostic := some observed }) :=
  rfl

/-- The result of a successful operation is published, or it is withdrawn because the operation
was revoked; the operation is left to be settled. -/
theorem disposeResult_publishes (candidate observed : Json) {now now' now'' : ℕ}
    {stamp stamp' stamp'' : MonotonicTime} (h : e.gate.Awaiting t r)
    (hcurrent : e.ActiveIsCurrent) (hactive : e.active = some reference)
    (htext : textValue reference false = .ok reference)
    (hunstaged : ∀ record, e.records.get? reference = some record → record.result = none)
    (hroom : e.gate.sequence.toNat + 2 < 2 ^ 64)
    (hnow : unsignedValue now = .ok stamp) (hnow' : unsignedValue now' = .ok stamp')
    (hnow'' : unsignedValue now'' = .ok stamp'')
    (hle : t ≤ stamp) (hle' : stamp ≤ stamp') (hle'' : stamp' ≤ stamp'') :
    ∃ f, disposeResult reference (some candidate) (.ok observed) now now' now'' e = (.ok (), f) ∧
      Disposes e f stamp'' reference candidate := by
  have hoperation := operation_of_active hcurrent hactive h.sound h.present
  obtain ⟨hallowed, hnamed⟩ := reference_allowed htext
  obtain ⟨authority, -, hrecorded⟩ := hcurrent reference hactive
  obtain ⟨record, hrecord, -⟩ := Option.bind_eq_some_iff.mp hrecorded
  have hunsettled : r.settlement ≠ .settled := fun hsettled ↦
    OperationReceipt.unsettled_of_undisposed (h.sound.coherent.receipts r h.present).sequenced
      h.pending (by rw [h.succeeded]; decide) hsettled
  obtain ⟨hleft, hnext⟩ := succ_room hroom
  rw [disposeResult, Fallible.bind_of_eq hoperation]
  simp only [Option.isSome_some, if_true]
  rw [Fallible.bind_of_eq (onGate_of_eq rfl h.canDeliver)]
  by_cases hdeliver : e.gate.gate.canDeliverResult r.authority
  · rw [decide_eq_true hdeliver, if_pos rfl]
    have hstaged : update reference (fun record ↦ { record with result := some candidate }) e =
        (.ok (), e.withRecord reference fun record ↦ { record with result := some candidate }) := rfl
    rw [Fallible.bind_of_eq hstaged]
    generalize hstage : e.withRecord reference
      (fun record ↦ { record with result := some candidate }) = staged
    have hgate : staged.gate = e.gate := by rw [← hstage, withRecord_gate]
    have hstagedActive : staged.active = e.active := by rw [← hstage, withRecord_active]
    have hstagedRecord : staged.records.get? reference =
        some { record with result := some candidate } := by
      rw [← hstage, get?_withRecord, if_pos rfl, hrecord]
      rfl
    by_cases hdue : r.hasReachedDeadline stamp
    · -- The deadline has passed since the gate was asked: the result is taken back.
      obtain ⟨disposition, g₁, heq₁, hrefused, hawait₁, hsequence₁⟩ :=
        h.overdue hle hleft hallowed hnow hdue
      obtain ⟨hleft₁, hnext₁⟩ : g₁.sequence ≠ lastSequence ∧
          (g₁.sequence + 1).toNat = g₁.sequence.toNat + 1 :=
        succ_room (k := 0) (by rw [hsequence₁, hnext]; omega)
      have hlive : ¬ r.isRevoked := by
        obtain ⟨-, -, q, hq, hunrevoked, -⟩ := hdeliver
        cases h.present.symm.trans (AuthorityGate.matchingReceipt_eq_some.mp hq).1
        exact hunrevoked
      have hlater : r.hasReachedDeadline stamp' := by
        obtain ⟨deadline, hdeadline, hreached⟩ := hdue
        exact ⟨deadline, hdeadline, hreached.trans hle'⟩
      obtain ⟨status, g₂, r₂, heq₂, hawait₂, hrevoked, hsame, hsequence₂⟩ :=
        hawait₁.ticks hle' hnow' hlive hlater
      have hundeliverable : ¬ g₂.gate.canDeliverResult r.authority := by
        rintro ⟨-, -, q, hq, hunrevoked, -⟩
        cases hawait₂.present.symm.trans (AuthorityGate.matchingReceipt_eq_some.mp hq).1
        exact hunrevoked hrevoked
      obtain ⟨g₃, heq₃, hsound₃, hsequence₃, hpresent₃⟩ :=
        hawait₂.revokes hle'' (hsequence₂ ▸ hleft₁) hallowed hnamed hnow'' hrevoked
      have hdenied := hawait₂.canDeliver
      rw [hsame, decide_eq_false hundeliverable] at hdenied
      rw [hsame] at heq₃
      have hretracted : update reference (fun record ↦ { record with result := none })
          { staged with gate := g₁ } = (.ok (), ({ staged with gate := g₁ }).withRecord reference
            fun record ↦ { record with result := none }) := rfl
      rw [Fallible.bind_of_eq (onGate_of_eq hgate heq₁), if_pos hrefused,
        Fallible.bind_of_eq hretracted, Fallible.bind_of_eq (diagnose_of_ok _ reference observed)]
      generalize hnoted : (({ staged with gate := g₁ }).withRecord reference
        fun record ↦ { record with result := none }).withRecord reference
          (fun record ↦ { record with diagnostic := some observed }) = noted
      have hnotedGate : noted.gate = g₁ := by rw [← hnoted, withRecord_gate, withRecord_gate]
      have hnotedActive : noted.active = e.active := by
        rw [← hnoted, withRecord_active, withRecord_active, ← hstagedActive]
      have hnotedRecord : noted.records.get? reference =
          some { record with result := none, diagnostic := some observed } := by
        rw [← hnoted, get?_withRecord, if_pos rfl, get?_withRecord, if_pos rfl, hstagedRecord]
        rfl
      rw [Fallible.bind_of_eq (onGate_of_eq hnotedGate heq₂),
        Fallible.bind_of_eq (onGate_of_eq rfl hdenied), if_neg Bool.false_ne_true, returned,
        Fallible.bind_of_eq (onGate_of_eq rfl heq₃)]
      refine ⟨_, rfl, hsound₃, ?_, hnotedActive, _, _, hnotedRecord, hpresent₃, hawait₂.succeeded, ?_,
        .inr ⟨rfl, rfl, rfl⟩⟩
      · change g₃.sequence.toNat ≤ _
        rw [hsequence₃, hsequence₂, hnext₁, hsequence₁, hnext]
      · exact fun hsettled ↦
          OperationReceipt.unsettled_of_undisposed
            (hawait₂.sound.coherent.receipts r₂ hawait₂.present).sequenced hawait₂.pending
            (by rw [hawait₂.succeeded]; decide) hsettled
    · obtain ⟨g₁, heq₁, hsound₁, hsequence₁, hpresent₁⟩ :=
        h.publishes hle hleft hallowed hnamed hnow hdeliver hdue
      rw [Fallible.bind_of_eq (onGate_of_eq hgate heq₁), if_neg (not_not.mpr rfl)]
      refine ⟨_, rfl, hsound₁.mono (hle'.trans hle''), ?_, hstagedActive, _, _, hstagedRecord,
        hpresent₁,
        h.succeeded, hunsettled, .inl ⟨rfl, rfl⟩⟩
      change g₁.sequence.toNat ≤ _
      rw [hsequence₁, hnext]
      omega
  · rw [decide_eq_false hdeliver, if_neg Bool.false_ne_true,
      Fallible.bind_of_eq (diagnose_of_ok e reference observed)]
    obtain ⟨g₁, heq₁, hsound₁, hsequence₁, hpresent₁⟩ :=
      h.revokes hle hleft hallowed hnamed hnow (h.revoked hdeliver)
    rw [Fallible.bind_of_eq (onGate_of_eq withRecord_gate heq₁)]
    refine ⟨_, rfl, hsound₁.mono (hle'.trans hle''), ?_, withRecord_active,
      { record with diagnostic := some observed }, _, ?_, hpresent₁,
      h.succeeded, hunsettled, .inr ⟨hunstaged record hrecord, rfl, rfl⟩⟩
    · change g₁.sequence.toNat ≤ _
      rw [hsequence₁, hnext]
      omega
    · change (e.withRecord reference _).records.get? reference = _
      rw [get?_withRecord, if_pos rfl, hrecord]
      rfl

/-- An operation whose result is disposed of can be settled. -/
theorem Disposes.settles {e f : ExecutionCoordinator α δ} {candidate : Json} {now : ℕ}
    {stamp : MonotonicTime} (h : Disposes e f t reference candidate) (hcurrent : f.ActiveIsCurrent)
    (hactive : f.active = some reference) (hroom : f.gate.sequence ≠ lastSequence)
    (hnow : unsignedValue now = .ok stamp) (hle : t ≤ stamp) :
    ∃ g, settle reference now f = (.ok (), g) := by
  obtain ⟨record, r, -, present, hsucceeded, hunsettled, houtput⟩ := h.disposed
  have hdisposed : r.output ≠ .pending := by
    rcases houtput with ⟨-, houtput⟩ | ⟨-, houtput, -⟩
    · rw [houtput]
      decide
    · rw [houtput]
      decide
  have hsettled := h.sound.settles present hsucceeded hdisposed hunsettled hroom hnow hle
  rw [settle, Fallible.bind_of_eq (operation_of_active hcurrent hactive h.sound present),
    Fallible.bind_of_eq (onGate_of_eq rfl hsettled)]
  generalize hgate : ({ f.gate with
    gate := { f.gate.gate with
      currentReceipt := some (r.settle ⟨r.authority, f.gate.settlementScope, true,
        ⟨settlementSource, stamp, f.gate.sequence + 1⟩⟩) }
    sequence := f.gate.sequence + 1 } : GateState) = settled
  have hvalue : GateState.operationValue r.authority.operationId settled =
      (.ok r.authority, settled) := by
    have hsame : settled.authority = some r.authority := by
      rw [← hgate]
      change f.gate.authority = some r.authority
      rw [h.sound.current, present]
      rfl
    rw [GateState.operationValue, Fallible.read_bind, hsame]
    dsimp only
    rw [if_pos rfl]
    rfl
  have hreceipt : GateState.receipt r.authority.operationId settled =
      (.ok (settled.gate.receipt r.authority), settled) := by
    rw [GateState.receipt, Fallible.bind_of_eq hvalue]
    rfl
  have haccepted : ∀ e : ExecutionCoordinator α δ,
      accepted EvidenceDisposition.accepted e = (.ok (), e) := fun _ ↦ rfl
  rw [Fallible.bind_of_eq (haccepted _), Fallible.bind_of_eq (onGate_of_eq rfl hreceipt)]
  exact ⟨_, rfl⟩

end Publication

end ExecutionCoordinator

end RobotHarness.Python
