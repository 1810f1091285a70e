import Mathlib.Data.List.Nodup
import RobotHarness.Core.History

/-!
# Revocation

A cancelled, expired or withdrawn operation never delivers a result again, and its native
work is told to stop exactly once when there is native work to stop.
-/

namespace RobotHarness

/-! ### Results -/

/-- The event revoked the operation: a cancellation or an expiry of it was applied, or a
withdrawal while it was current and unreleased. -/
def Revokes (authority : OperationAuthority) (e : GateEvent) : Prop :=
  (∃ t, e.input = .requestCancel authority t ∧ ControlApplied e) ∨
    (∃ t, e.input = .observeTime authority t ∧ ControlApplied e) ∨
    ∃ binding now, e.input = .withdrawBinding binding now ∧ BindingApplied e ∧
      ∃ r ∈ e.pre.currentReceipt, r.authority = authority ∧
        r.authorityDisposition ≠ .released

/-- The event accepted output of the operation. -/
def Delivers (authority : OperationAuthority) (e : GateEvent) : Prop :=
  ∃ evidence, e.input = .observeOutputAccepted evidence ∧ evidence.authority = authority ∧
    EvidenceAccepted e

/-- Output of the operation will not be accepted: it is revoked, or its output is disposed. -/
def OperationReceipt.Undeliverable (r : OperationReceipt) : Prop :=
  r.isRevoked ∨ r.output ≠ .pending

/-- No change makes output deliverable again. -/
theorem ReceiptStep.undeliverable {s : AuthorityGate} {c : Call} {a : Answer}
    {r r' : OperationReceipt} (step : ReceiptStep s c a r r') (h : r.Undeliverable) :
    r'.Undeliverable := by
  rcases h with hrevoked | hdisposed
  · exact .inl (step.isRevoked hrevoked)
  · exact .inr (by rwa [step.output_eq hdisposed])

/-- A cancellation or an expiry that is applied revokes the current operation. -/
theorem Transition.control_revokes {authority : OperationAuthority} {t : MonotonicTime}
    {e : GateEvent} (step : Transition e.pre e.input e.output e.post) (hpre : e.pre.Coherent)
    (hinput : e.input = .requestCancel authority t ∨ e.input = .observeTime authority t)
    (happlied : ControlApplied e) :
    e.post.Pinned authority.operationId OperationReceipt.isRevoked := by
  have hpost := step.coherent hpre
  obtain ⟨s, c, a, s'⟩ := e
  obtain ⟨decision, hanswer, happlied⟩ := happlied
  dsimp only at hinput hanswer step hpre hpost ⊢
  rcases hinput with rfl | rfl
  · cases step with
    | noEffect h =>
      subst hanswer
      exact absurd happlied h.1
    | operation _ _ change =>
      have hchange := ReceiptStep.operation change
      cases change
      exact hpost.pin_change hchange rfl (OperationReceipt.isRevoked_revoke (.inl rfl) _)
  · cases step with
    | noEffect h =>
      subst hanswer
      exact absurd happlied h.1
    | operation _ _ change =>
      have hchange := ReceiptStep.operation change
      cases change
      exact hpost.pin_change hchange rfl (OperationReceipt.isRevoked_revoke (.inr (.inl rfl)) _)

/-- A revocation makes the output of the current receipt undeliverable. -/
theorem Transition.undeliverable {authority : OperationAuthority} {e : GateEvent}
    (step : Transition e.pre e.input e.output e.post) (hpre : e.pre.Coherent)
    (h : Revokes authority e) :
    e.post.Pinned authority.operationId OperationReceipt.Undeliverable := by
  have hpost := step.coherent hpre
  rcases h with ⟨t, hinput, happlied⟩ | ⟨t, hinput, happlied⟩ |
    ⟨binding, now, hinput, happlied, r, hr, rfl, hunreleased⟩
  · exact (step.control_revokes hpre (.inl hinput) happlied).mono fun _ ↦ .inl
  · exact (step.control_revokes hpre (.inr hinput) happlied).mono fun _ ↦ .inl
  · cases step.withdrawal hinput happlied with
    | discard candidate _ state =>
      -- With a candidate the output was disposed before; late evidence took the release back.
      have hphase : e.pre.bindingPhase = .preparing :=
        hpre.candidate.mp (by rw [candidate]; rfl)
      exact hpost.pin (by rw [state]; exact hr) (.inr (hpre.disposed hphase r hr))
    | idle _ settled =>
      have hreleasable : r.isReleasable := by
        by_cases hbound : r.authority.binding = e.pre.config.binding
        · exact settled r hr hbound
        · exact hpre.superseded r hr hbound
      exact absurd hreleasable.2 hunreleased
    | current _ present change state =>
      rw [Option.mem_def, present, Option.some.injEq] at hr
      subst hr
      exact hpost.pin_change change (by rw [state])
        (.inl (OperationReceipt.isRevoked_revoke (.inr (.inr rfl)) _))

/-- An undeliverable result may not be delivered. -/
theorem not_canDeliverResult {s : AuthorityGate} {authority : OperationAuthority}
    (h : s.Pinned authority.operationId OperationReceipt.Undeliverable) :
    ¬ s.canDeliverResult authority := by
  rintro ⟨-, -, r, hr, hunrevoked, -, hpending⟩
  obtain ⟨hpresent, hauthority, -⟩ := AuthorityGate.matchingReceipt_eq_some.mp hr
  rcases h.2 r hpresent (by rw [hauthority]) with hrevoked | hdisposed
  · exact hunrevoked hrevoked
  · exact hdisposed hpending

/-- What accepted output presupposes. -/
theorem Transition.delivers {e : GateEvent} {evidence : OutputEvidence}
    (step : Transition e.pre e.input e.output e.post)
    (hinput : e.input = .observeOutputAccepted evidence) (haccepted : EvidenceAccepted e) :
    ∃ r ∈ e.pre.currentReceipt, r.authority = evidence.authority ∧ ¬ r.isRevoked ∧
      r.nativeOutcome = .succeeded ∧ r.output = .pending ∧
      (∃ success ∈ r.nativeSuccessEvidence,
        success.observedAt ≤ evidence.record.observedAt) ∧
      ∀ deadline ∈ r.deadline, evidence.record.observedAt < deadline := by
  obtain ⟨s, c, a, s'⟩ := e
  dsimp only [EvidenceAccepted] at step hinput haccepted ⊢
  subst hinput
  cases step with
  | noEffect h =>
    subst haccepted
    exact absurd rfl h
  | operation present _ change =>
    cases change with
    | acceptOutput authority _ _ _ unrevoked succeeded pending early follows =>
      refine ⟨_, present, authority.symm, unrevoked, succeeded, pending, follows, ?_⟩
      intro deadline hdeadline
      by_contra hle
      exact early ⟨deadline, hdeadline, not_lt.mp hle⟩

/-- Undeliverable output is not accepted. -/
theorem Transition.not_delivers {authority : OperationAuthority} {e : GateEvent}
    (step : Transition e.pre e.input e.output e.post)
    (h : e.pre.Pinned authority.operationId OperationReceipt.Undeliverable) :
    ¬ Delivers authority e := by
  rintro ⟨evidence, hinput, rfl, haccepted⟩
  obtain ⟨r, hr, hauthority, hunrevoked, -, hpending, -⟩ := step.delivers hinput haccepted
  rcases h.2 r hr (by rw [hauthority]) with hrevoked | hdisposed
  · exact hunrevoked hrevoked
  · exact hdisposed hpending

/-- Once an operation is revoked, its result is undeliverable ever after. -/
theorem Run.undeliverable (run : Run) {authority : OperationAuthority} {h t : List GateEvent}
    {e : GateEvent} (heq : run.history = h ++ e :: t) (hrevokes : Revokes authority e) :
    run.final.Pinned authority.operationId OperationReceipt.Undeliverable ∧
      ∀ d ∈ t, d.pre.Pinned authority.operationId OperationReceipt.Undeliverable := by
  obtain ⟨hpre, step⟩ := run.transition (e := e) (by simp [heq])
  exact run.stable_rule
    (P := fun s ↦ s.Pinned authority.operationId OperationReceipt.Undeliverable)
    (fun s c a s' hs hstep hp ↦ hstep.pinned hs (fun r r' change _ ↦ change.undeliverable) hp)
    heq (step.undeliverable hpre hrevokes)

/-- Revocation is final for results: nothing is delivered once the operation is revoked, and
what is delivered was unrevoked, successful, undisposed and in time. -/
theorem Run.revocation_final (run : Run) :
    (∀ authority h e t, run.history = h ++ e :: t → Revokes authority e →
      ¬ run.final.canDeliverResult authority ∧
        ∀ d ∈ t, ¬ d.pre.canDeliverResult authority ∧ ¬ Delivers authority d) ∧
      ∀ evidence h e t, run.history = h ++ e :: t →
        e.input = .observeOutputAccepted evidence → EvidenceAccepted e →
        (∀ d ∈ h, ¬ Revokes evidence.authority d) ∧
          ∃ r ∈ e.pre.currentReceipt, r.authority = evidence.authority ∧ ¬ r.isRevoked ∧
            r.nativeOutcome = .succeeded ∧ r.output = .pending ∧
            (∃ success ∈ r.nativeSuccessEvidence,
              success.observedAt ≤ evidence.record.observedAt) ∧
            ∀ deadline ∈ r.deadline, evidence.record.observedAt < deadline := by
  constructor
  · intro authority h e t heq hrevokes
    obtain ⟨hfinal, hlater⟩ := run.undeliverable heq hrevokes
    refine ⟨not_canDeliverResult hfinal, fun d hd ↦ ?_⟩
    have step := (run.transition (e := d) (by simp [heq, hd])).2
    exact ⟨not_canDeliverResult (hlater d hd), step.not_delivers (hlater d hd)⟩
  · intro evidence h e t heq hinput haccepted
    have step := (run.transition (e := e) (by simp [heq])).2
    refine ⟨fun d hd hrevokes ↦ ?_, step.delivers hinput haccepted⟩
    obtain ⟨before, after, rfl⟩ := List.append_of_mem hd
    have hsplit : run.history = before ++ d :: (after ++ e :: t) := by simp [heq]
    have hpinned := (run.undeliverable hsplit hrevokes).2 e (by simp)
    exact step.not_delivers hpinned ⟨evidence, hinput, rfl, haccepted⟩

/-! ### Stop instructions -/

/-- The operation that an event instructs the host to stop. -/
def stopInstruction (e : GateEvent) : Option OperationAuthority :=
  match e.input, e.output with
  | .requestCancel authority _, .control decision =>
    if decision.shouldRequestNativeStop then some authority else none
  | .observeTime authority _, .control decision =>
    if decision.shouldRequestNativeStop then some authority else none
  | .withdrawBinding _ _, .binding decision => decision.nativeStopAuthority
  | _, _ => none

/-- The ids that a history instructs to stop, oldest first. -/
def stoppedIds (h : List GateEvent) : List OperationId :=
  h.filterMap fun e ↦ (stopInstruction e).map OperationAuthority.operationId

/-- The native stop of the operation has been requested. -/
def OperationReceipt.Stopped (r : OperationReceipt) : Prop := r.nativeStopRequestedAt.isSome

/-- The native work of the operation goes on and has not been told to stop. -/
def OperationReceipt.Unstopped (r : OperationReceipt) : Prop :=
  r.dispatch = .submitted ∧ r.nativeOutcome = .pending ∧ r.nativeStopRequestedAt = none

namespace OperationReceipt

/-- `revoke` asks for a stop exactly when it records the first stop request. -/
theorem revoke_stop (r : OperationReceipt) (t : MonotonicTime) :
    if r.shouldStop then
      (r.revoke t).1.shouldRequestNativeStop = true ∧ (r.revoke t).2.Stopped
    else
      (r.revoke t).1.shouldRequestNativeStop = false ∧
        (r.revoke t).2.nativeStopRequestedAt = r.nativeStopRequestedAt := by
  rw [revoke_eq]
  by_cases hstop : r.shouldStop
  · simp [revoke, hstop, Stopped]
  · simp [revoke, hstop]

end OperationReceipt

/-- A change of the receipt instructs a stop and records it, of work that goes on, or does
neither. -/
theorem ReceiptStep.stopInstruction {s : AuthorityGate} {c : Call} {a : Answer}
    {r r' : OperationReceipt} (step : ReceiptStep s c a r r') (s' : AuthorityGate) :
    RobotHarness.stopInstruction ⟨s, c, a, s'⟩ = some r.authority ∧ r.Unstopped ∧ r'.Stopped ∨
      RobotHarness.stopInstruction ⟨s, c, a, s'⟩ = none ∧
        r'.nativeStopRequestedAt = r.nativeStopRequestedAt := by
  cases step with
  | native step => exact .inr ⟨rfl, step.frame.nativeStopRequestedAt⟩
  | @withdraw _ now =>
    have hstop := (r.withdrawAt now).revoke_stop now
    split at hstop
    · next hshould => exact .inl ⟨by simp [RobotHarness.stopInstruction, hstop.1], hshould, hstop.2⟩
    · exact .inr ⟨by simp [RobotHarness.stopInstruction, hstop.1], hstop.2⟩
  | operation step =>
    cases step with
    | @cancel _ t =>
      have hstop := (r.cancelAt t).revoke_stop t
      split at hstop
      · next hshould =>
        exact .inl ⟨by simp [RobotHarness.stopInstruction, hstop.1], hshould, hstop.2⟩
      · exact .inr ⟨by simp [RobotHarness.stopInstruction, hstop.1], hstop.2⟩
    | @expire _ t =>
      have hstop := (r.expireAt t).revoke_stop t
      split at hstop
      · next hshould =>
        exact .inl ⟨by simp [RobotHarness.stopInstruction, hstop.1], hshould, hstop.2⟩
      · exact .inr ⟨by simp [RobotHarness.stopInstruction, hstop.1], hstop.2⟩
    | claim | acknowledge | notSubmitted | acceptOutput | withholdOutput | settle =>
      exact .inr ⟨rfl, rfl⟩

/-- An answer without effect instructs no stop. -/
theorem Answer.NoEffect.stopInstruction {s s' : AuthorityGate} {c : Call} {a : Answer}
    (h : a.NoEffect) : RobotHarness.stopInstruction ⟨s, c, a, s'⟩ = none := by
  cases a with
  | control decision =>
    have hquiet : decision.shouldRequestNativeStop = false := h.2
    cases c <;> simp [RobotHarness.stopInstruction, hquiet]
  | binding decision =>
    have hquiet : decision.nativeStopAuthority = none := h.2
    cases c <;> simp [RobotHarness.stopInstruction, hquiet]
  | _ => cases c <;> rfl

/-- Only a change of the current receipt instructs a stop. -/
theorem Transition.stopInstruction {s s' : AuthorityGate} {c : Call} {a : Answer}
    (step : Transition s c a s') :
    RobotHarness.stopInstruction ⟨s, c, a, s'⟩ = none ∨
      ∃ r r', s.currentReceipt = some r ∧ s'.currentReceipt = some r' ∧
        ReceiptStep s c a r r' := by
  cases step with
  | noEffect h => exact .inl h.stopInstruction
  | withdrawCurrent noCandidate opened unwithdrawn time present bound unreleased =>
    exact .inr ⟨_, _, present, rfl,
      .withdraw noCandidate opened unwithdrawn time unreleased⟩
  | operation present _ step => exact .inr ⟨_, _, present, rfl, .operation step⟩
  | native present _ step => exact .inr ⟨_, _, present, rfl, .native step⟩
  | _ => exact .inl rfl

/-- A stop is instructed only for the current operation, while its native work goes on, and
is recorded. -/
theorem Transition.stops {authority : OperationAuthority} {e : GateEvent}
    (step : Transition e.pre e.input e.output e.post) (hpre : e.pre.Coherent)
    (h : RobotHarness.stopInstruction e = some authority) :
    (∃ r ∈ e.pre.currentReceipt, r.authority = authority ∧ r.Unstopped) ∧
      e.post.Pinned authority.operationId OperationReceipt.Stopped := by
  rcases step.stopInstruction with hnone | ⟨r, r', hr, hr', change⟩
  · rw [show RobotHarness.stopInstruction e = none from hnone] at h
    cases h
  · rcases change.stopInstruction e.post with ⟨hstop, hunstopped, hstopped⟩ | ⟨hnone, -⟩
    · rw [show RobotHarness.stopInstruction e = some r.authority from hstop,
        Option.some.injEq] at h
      subst h
      exact ⟨⟨r, hr, rfl, hunstopped⟩, (step.coherent hpre).pin_change change hr' hstopped⟩
    · rw [show RobotHarness.stopInstruction e = none from hnone] at h
      cases h

/-- The host is instructed at most once for an operation. -/
theorem Run.nodup_stoppedIds (run : Run) : (stoppedIds run.history).Nodup := by
  apply run.nodup_filterMap _
  intro h e t id heq hid d hd hagain
  obtain ⟨authority, hstop, rfl⟩ := Option.map_eq_some_iff.mp hid
  obtain ⟨later, hlater, hsame⟩ := Option.map_eq_some_iff.mp hagain
  obtain ⟨hpre, step⟩ := run.transition (e := e) (by simp [heq])
  obtain ⟨hpre', step'⟩ := run.transition (e := d) (by simp [heq, hd])
  have hpinned := (run.stable_rule
    (P := fun s ↦ s.Pinned authority.operationId OperationReceipt.Stopped)
    (fun s c a s' hs hstep hp ↦
      hstep.pinned hs (fun r r' change _ hr ↦ by
        have hkept := change.stopRequested hr
        unfold OperationReceipt.Stopped at hr ⊢
        rwa [hkept]) hp)
    heq (step.stops hpre hstop).2).2 d hd
  obtain ⟨⟨r, hr, rfl, hunstopped⟩, -⟩ := step'.stops hpre' hlater
  have hstopped := hpinned.2 r hr hsame
  unfold OperationReceipt.Stopped at hstopped
  rw [hunstopped.2.2] at hstopped
  cases hstopped

/-- A stop request on the current receipt was instructed. -/
theorem Run.stop_instructed (run : Run) :
    ∀ r ∈ run.final.currentReceipt, r.Stopped →
      r.authority.operationId ∈ stoppedIds run.history := by
  refine run.history_rule
    (Q := fun h s ↦ ∀ r ∈ s.currentReceipt, r.Stopped →
      r.authority.operationId ∈ stoppedIds h) (by intro r hr; cases hr) ?_
  intro h s c a s' hs _ step ih r' hr' hstopped
  rw [stoppedIds, filterMap_snoc, List.mem_append]
  rw [Option.mem_def] at hr'
  cases step.receiptEffect with
  | kept hkept => exact .inl (ih r' (hkept ▸ hr') hstopped)
  | admitted _ _ _ hstate =>
    subst hstate
    cases hr'
    cases hstopped
  | @changed r q present _ change after =>
    rw [after, Option.some.injEq] at hr'
    subst hr'
    rw [change.authority_eq]
    rcases change.stopInstruction s' with ⟨hstop, -⟩ | ⟨-, hkept⟩
    · exact .inr (by simp [hstop])
    · refine .inl (ih r present ?_)
      unfold OperationReceipt.Stopped at hstopped ⊢
      rwa [← hkept]

/-- Exactly one native stop: no operation is instructed to stop twice, a revoked operation
whose native work goes on has been instructed once, and no instruction concerns an operation
that is not dispatched or has an outcome. -/
theorem Run.single_stop (run : Run) :
    (∀ id, (stoppedIds run.history).count id ≤ 1) ∧
      (∀ r ∈ run.final.currentReceipt, r.isRevoked → r.dispatch = .submitted →
        r.nativeOutcome = .pending →
          (stoppedIds run.history).count r.authority.operationId = 1) ∧
      ∀ e ∈ run.history, ∀ authority, stopInstruction e = some authority →
        ∃ r ∈ e.pre.currentReceipt, r.authority = authority ∧ r.dispatch = .submitted ∧
          r.nativeOutcome = .pending := by
  refine ⟨fun id ↦ List.nodup_iff_count_le_one.mp run.nodup_stoppedIds id, ?_, ?_⟩
  · intro r hr hrevoked hsubmitted hpending
    have hstopped : r.Stopped :=
      (run.coherent.receipts r hr).stopRequested hrevoked hsubmitted hpending
    exact List.count_eq_one_of_mem run.nodup_stoppedIds (run.stop_instructed r hr hstopped)
  · intro e he authority hstop
    obtain ⟨hpre, step⟩ := run.transition he
    obtain ⟨⟨r, hr, hauthority, hsubmitted, hpending, -⟩, -⟩ := step.stops hpre hstop
    exact ⟨r, hr, hauthority, hsubmitted, hpending⟩

end RobotHarness
