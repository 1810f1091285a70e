import RobotHarness.Core.Bounds
import RobotHarness.Core.Control
import RobotHarness.Core.Settlement

/-!
# What a delivered result rests on

Looking at the deadline at the time of a delivery revokes an operation that is due, so that a
result which may still be delivered at that time is accepted by its sink; and accepted output
was accepted by an event of the history.
-/

namespace RobotHarness

/-- A plain call accepts no output. -/
theorem Transition.accepted_iff {s s' : AuthorityGate} {c : Call} {a : Answer}
    (step : Transition s c a s') (plain : c.IsPlain) :
    (∃ r ∈ s'.currentReceipt, r.output = .accepted) ↔
      ∃ r ∈ s.currentReceipt, r.output = .accepted := by
  have hadmits : ∀ request, c ≠ .admitRequest request := by
    rintro _ rfl
    cases plain
  constructor
  · rintro ⟨r, hr, haccepted⟩
    cases step.receiptEffect with
    | kept hkept => exact ⟨r, hkept ▸ hr, haccepted⟩
    | admitted call => exact absurd call (hadmits _)
    | changed present _ change after =>
      cases after.symm.trans hr
      exact ⟨_, present, change.accepted plain haccepted⟩
  · refine step.keeps_present hadmits fun r r' change haccepted ↦ ?_
    rw [change.output_eq (by rw [haccepted]; nofun), haccepted]

/-- Undisposed output of a known outcome is not released. -/
theorem OperationReceipt.Integrity.unreleased {r : OperationReceipt} (h : r.Integrity)
    (hpending : r.output = .pending) : r.authorityDisposition ≠ .released := by
  intro hreleased
  obtain ⟨hsettled, hknown⟩ := h.settled_of_released hreleased
  exact OperationReceipt.unsettled_of_undisposed h.sequenced hpending hknown hsettled

/-- A known outcome of submitted work rests on the record of its terminal event. -/
theorem OperationReceipt.Recorded.terminal {r : OperationReceipt} (h : r.Recorded) :
    (r.nativeOutcome = .succeeded → r.nativeSuccessEvidence.isSome) ∧
      (r.nativeOutcome = .failed → r.nativeFailureEvidence.isSome) ∧
      (r.nativeOutcome = .cancelled → r.nativeCancellationEvidence.isSome) := by
  rw [h.outcome, justifiedOutcome]
  split
  · simp
  · split <;> simp_all

/-- Looking at the deadline keeps the configuration. -/
theorem AuthorityGate.config_observeTime (s : AuthorityGate) (authority : OperationAuthority)
    (t : MonotonicTime) : (s.call (.observeTime authority t)).2.config = s.config := by
  have hstep : Transition s (.observeTime authority t) (s.call (.observeTime authority t)).1
    (s.call (.observeTime authority t)).2 := gate_transition s _
  generalize s.call (.observeTime authority t) = answered at hstep ⊢
  obtain ⟨_, s'⟩ := answered
  cases hstep with
  | noEffect | operation => rfl

/-- Looking at the deadline of an operation that is due revokes it, unless its output is
disposed. -/
theorem AuthorityGate.Coherent.revoked_of_due {s : AuthorityGate} {t : MonotonicTime}
    {n : UInt64} (hs : s.Coherent) (hbounded : s.Bounded t n) {r : OperationReceipt}
    (hr : r ∈ (s.call (.observeTime r.authority t)).2.currentReceipt)
    (hbound : r.authority.binding = s.config.binding) (hpending : r.output = .pending)
    (hdue : r.hasReachedDeadline t) : r.isRevoked := by
  have hexpires : ∀ q ∈ s.currentReceipt, q.authority = r.authority → q.output = .pending →
      q.hasReachedDeadline t → ¬ q.isRevoked →
      (s.call (.observeTime r.authority t)).2.currentReceipt =
        some ((q.expireAt t).revoke t).2 := by
    intro q hq hauthority hqpending hqdue hlive
    have hunreleased := (hs.receipts q hq).unreleased hqpending
    have hfirst : q.expiryObservedAt = none := by
      by_contra hne
      exact hlive (.inr (.inl (Option.isSome_iff_ne_none.mpr hne)))
    have hcall := OperationStep.call_eq hq (hauthority ▸ hbound)
      (.expire hunreleased (hbounded.receipt q hq).latestTime_le hfirst hqdue)
    rw [hauthority] at hcall
    rw [hcall]
  have hstep := gate_transition s (.observeTime r.authority t)
  by_contra hlive
  cases hstep.receiptEffect with
  | kept hkept =>
    have hq : r ∈ s.currentReceipt := hkept ▸ hr
    have hrevoked := hexpires r hq rfl hpending hdue hlive
    rw [Option.mem_def.mp hr, Option.some.injEq] at hrevoked
    rw [hrevoked] at hlive
    exact hlive (OperationReceipt.isRevoked_revoke (.inr (.inl rfl)) t)
  | admitted call => cases call
  | @changed q q' present _ change after =>
    cases after.symm.trans hr
    have hqpending : q.output = .pending := by
      by_contra hne
      exact hne ((change.output_eq hne).symm.trans hpending)
    have hqdue : q.hasReachedDeadline t := by
      unfold OperationReceipt.hasReachedDeadline at hdue ⊢
      rwa [change.request_eq.1] at hdue
    have hrevoked := hexpires q present change.authority_eq.symm hqpending hqdue
      fun hrevoked ↦ hlive (change.isRevoked hrevoked)
    rw [Option.mem_def.mp hr, Option.some.injEq] at hrevoked
    rw [hrevoked] at hlive
    exact hlive (OperationReceipt.isRevoked_revoke (.inr (.inl rfl)) t)

/-- A result that may be delivered in time is accepted by its sink. -/
theorem AuthorityGate.Coherent.accepts_output {s : AuthorityGate} {t : MonotonicTime}
    (hs : s.Coherent) {e : OutputEvidence} {r : OperationReceipt}
    (present : s.currentReceipt = some r) (heffects : r.latestEffectTime ≤ t)
    (hdeliver : s.canDeliverResult e.authority) (hnamed : e.resultReference ≠ "")
    (hconfigured : s.config.resultSinkObserver ≠ "")
    (hsource : e.record.source = s.config.resultSinkObserver)
    (htime : e.record.observedAt = t) (hsequence : e.record.sequence ≠ 0)
    (hearly : ¬ r.hasReachedDeadline t) :
    s.call (.observeOutputAccepted e) =
      (.evidence .accepted, { s with currentReceipt := some (r.acceptOutput e) }) := by
  obtain ⟨hwithdrawn, hpreparing, q, hq, hunrevoked, hsucceeded, hpending⟩ := hdeliver
  obtain ⟨hpresent, hauthority, hbound⟩ := AuthorityGate.matchingReceipt_eq_some.mp hq
  cases present.symm.trans hpresent
  obtain ⟨hadmitted, -, hrecords⟩ := OperationReceipt.latestEffectTime_le_iff.mp heffects
  have hsuccess : ∀ success ∈ r.nativeSuccessEvidence, success.observedAt ≤ t :=
    hrecords r.nativeSuccessEvidence (by simp [OperationReceipt.effectRecords])
  have hrecorded := (hs.receipts r present).recorded
  obtain ⟨success, hfollows⟩ := Option.isSome_iff_exists.mp (hrecorded.terminal.1 hsucceeded)
  exact OperationStep.call_eq present hbound
    (.acceptOutput hauthority ⟨hwithdrawn, hpreparing⟩ hnamed
      ⟨hsource ▸ hconfigured, hsource, hsequence, htime ▸ hadmitted⟩ hunrevoked hsucceeded
      hpending (htime ▸ hearly) ⟨success, hfollows, htime ▸ hsuccess success hfollows⟩)

/-- Accepted output was accepted by an event of the history, before the deadline. -/
theorem Run.delivered (run : Run) : ∀ r ∈ run.final.currentReceipt, r.output = .accepted →
    ∃ e ∈ run.history, ∃ evidence, e.input = .observeOutputAccepted evidence ∧
      evidence.authority = r.authority ∧ EvidenceAccepted e ∧
      ∀ deadline ∈ r.deadline, evidence.record.observedAt < deadline := by
  refine run.history_rule (Q := fun h s ↦ ∀ r ∈ s.currentReceipt, r.output = .accepted →
    ∃ e ∈ h, ∃ evidence, e.input = .observeOutputAccepted evidence ∧
      evidence.authority = r.authority ∧ EvidenceAccepted e ∧
      ∀ deadline ∈ r.deadline, evidence.record.observedAt < deadline)
    (by intro r hr; cases hr) ?_
  intro h s c a s' _ _ step ih r' hr' haccepted
  cases step.receiptEffect with
  | kept hkept =>
    obtain ⟨e, he, hdelivers⟩ := ih r' (hkept ▸ hr') haccepted
    exact ⟨e, List.mem_append_left _ he, hdelivers⟩
  | admitted _ _ _ state =>
    rw [state] at hr'
    cases hr'
    cases haccepted
  | @changed r _ present _ change after =>
    cases after.symm.trans hr'
    by_cases hplain : c.IsPlain
    · obtain ⟨e, he, hdelivers⟩ := ih r present (change.accepted hplain haccepted)
      rw [← change.authority_eq, ← change.request_eq.1] at hdelivers
      exact ⟨e, List.mem_append_left _ he, hdelivers⟩
    · cases change with
      | native | withdraw => exact absurd trivial hplain
      | operation change =>
        cases change with
        | acceptOutput authority _ _ _ _ _ _ early =>
          refine ⟨_, List.mem_append_right _ (List.mem_singleton_self _), _, rfl, authority,
            rfl, fun deadline hdeadline ↦ ?_⟩
          by_contra hle
          exact early ⟨deadline, hdeadline, not_lt.mp hle⟩
        | claim | cancel | expire | acknowledge | notSubmitted | withholdOutput | settle =>
          exact absurd trivial hplain

end RobotHarness
