import RobotHarness.Core.Inversion

/-!
# What the fields of a receipt mean

The status fields of a receipt are determined by the evidence it retains, and the facts
presuppose each other in the order the operations allow. Both hold of a fresh receipt and
survive every change of the current receipt.
-/

namespace RobotHarness

namespace OperationReceipt

/-- The native outcome that the retained evidence justifies. -/
def justifiedOutcome (r : OperationReceipt) : NativeOutcome :=
  if r.nonSubmissionEvidence.isSome ∨ r.nativeRejectionEvidence.isSome then .notExecuted
  else
    match r.nativeSuccessEvidence.isSome, r.nativeFailureEvidence.isSome,
        r.nativeCancellationEvidence.isSome with
    | false, false, false => .pending
    | true, false, false => .succeeded
    | false, true, false => .failed
    | false, false, true => .cancelled
    | _, _, _ => .unknown

/-- No record of a native event is retained. -/
def NoNativeEvidence (r : OperationReceipt) : Prop :=
  r.nativeAcceptanceEvidence = none ∧ r.nativeRejectionEvidence = none ∧
    r.nativeStartedEvidence = none ∧ r.nativeSuccessEvidence = none ∧
    r.nativeFailureEvidence = none ∧ r.nativeCancellationEvidence = none

/-- Every status field but the disposition is the one that the retained evidence justifies. -/
structure Recorded (r : OperationReceipt) : Prop where
  notSubmitted : r.dispatch = .notSubmitted ↔ r.nonSubmissionEvidence.isSome
  unsubmitted : r.nonSubmissionEvidence.isSome → r.NoNativeEvidence
  accepted : r.nativeAcceptance = .accepted ↔ r.nativeAcceptanceEvidence.isSome
  rejected : r.nativeAcceptance = .rejected ↔ r.nativeRejectionEvidence.isSome
  started : r.nativeStarted = true ↔ r.nativeStartedEvidence.isSome
  success : r.observedNativeSuccess = true ↔ r.nativeSuccessEvidence.isSome
  failure : r.observedNativeFailure = true ↔ r.nativeFailureEvidence.isSome
  cancellation : r.observedNativeCancellation = true ↔ r.nativeCancellationEvidence.isSome
  observed : r.nativeStarted = true ∨ r.observedNativeSuccess = true ∨
    r.observedNativeFailure = true ∨ r.observedNativeCancellation = true →
      r.nativeAcceptance = .accepted
  outcome : r.nativeOutcome = r.justifiedOutcome
  delivered : r.output = .accepted ↔ r.outputEvidence.isSome
  withheld : r.output = .notDelivered ↔ r.outputNonDeliveryEvidence.isSome
  reason : r.output = .notDelivered ↔ r.outputNonDeliveryReason.isSome
  settled : r.settlement = .settled ↔ r.settlementEvidence.isSome
  unrequested : r.stopAcknowledgement = .notRequested ↔ r.nativeStopRequestedAt = none
  unanswered : r.stopAcknowledgement = .pending ↔
    r.nativeStopRequestedAt.isSome ∧ r.stopAcknowledgementEvidence = none

/-- What each fact of a receipt presupposes. -/
structure Sequenced (r : OperationReceipt) : Prop where
  native : r.nativeAcceptance ≠ .pending → r.dispatch = .submitted
  identified : r.nativeAcceptance ≠ .pending ↔ r.nativeIdentity ≠ ""
  dispatched : r.dispatch = .submitted → r.dispatchedAt.isSome
  delivered : r.output = .accepted → r.nativeOutcome = .succeeded ∨ r.nativeOutcome = .unknown
  unproduced : r.outputNonDeliveryReason = some .noOutputProduced →
    r.nativeOutcome = .notExecuted ∨ r.nativeOutcome = .failed ∨
      r.nativeOutcome = .cancelled ∨ r.nativeOutcome = .unknown
  refused : r.outputNonDeliveryReason = some .sinkRejected ∨
    r.outputNonDeliveryReason = some .authorityRevoked →
      r.nativeOutcome = .succeeded ∨ r.nativeOutcome = .unknown
  settled : r.settlement = .settled → r.hasResolvedEffects ∨ r.nativeOutcome = .unknown
  acknowledged : r.stopAcknowledgementEvidence.isSome → r.nativeStopRequestedAt.isSome

/-- A revoked operation that still runs natively has been asked to stop. -/
def StopRequested (r : OperationReceipt) : Prop :=
  r.isRevoked → r.dispatch = .submitted → r.nativeOutcome = .pending →
    r.nativeStopRequestedAt.isSome

/-- The cached disposition is the one a refresh computes. -/
def Refreshed (r : OperationReceipt) : Prop := r.authorityDisposition = r.computedDisposition

/-- A refresh leaves nothing to refresh. -/
theorem refreshed_refresh (r : OperationReceipt) : r.refreshAuthorityDisposition.Refreshed :=
  rfl

/-! ### Each assignment -/

private theorem Recorded.refresh {r : OperationReceipt} (h : r.Recorded) :
    r.refreshAuthorityDisposition.Recorded := { h with }

private theorem Sequenced.refresh {r : OperationReceipt} (h : r.Sequenced) :
    r.refreshAuthorityDisposition.Sequenced := { h with }

/-- The stop request of `revoke`, before its refresh. -/
def requestStop (r : OperationReceipt) (t : MonotonicTime) : OperationReceipt :=
  if r.shouldStop then
    { r with nativeStopRequestedAt := some t, stopAcknowledgement := .pending }
  else r

/-- `revoke` requests the stop and refreshes. -/
theorem revoke_snd (r : OperationReceipt) (t : MonotonicTime) :
    (r.revoke t).2 = (r.requestStop t).refreshAuthorityDisposition := rfl

private theorem recorded_requestStop {r : OperationReceipt} (h : r.Recorded)
    (hs : r.Sequenced) (t : MonotonicTime) : (r.requestStop t).Recorded := by
  unfold requestStop
  split
  · next hstop =>
    have hnone : r.stopAcknowledgementEvidence = none := by
      have := hs.acknowledged
      rw [hstop.2.2] at this
      simpa using this
    exact
      { h with
        unrequested := by simp
        unanswered := by simp [hnone] }
  · exact h

private theorem sequenced_requestStop {r : OperationReceipt} (h : r.Sequenced)
    (t : MonotonicTime) : (r.requestStop t).Sequenced := by
  unfold requestStop
  split
  · exact { h with acknowledged := fun _ ↦ rfl }
  · exact h

/-- A revocation keeps the recorded facts. -/
theorem Recorded.revoke {r : OperationReceipt} (h : r.Recorded) (hs : r.Sequenced)
    (t : MonotonicTime) : (r.revoke t).2.Recorded :=
  (recorded_requestStop h hs t).refresh

/-- A revocation keeps the order of the facts. -/
theorem Sequenced.revoke {r : OperationReceipt} (h : r.Sequenced) (t : MonotonicTime) :
    (r.revoke t).2.Sequenced :=
  (sequenced_requestStop h t).refresh

/-- After a revocation the stop has been requested if there was something to stop. -/
theorem stopRequested_revoke (r : OperationReceipt) (t : MonotonicTime) :
    (r.revoke t).2.StopRequested := by
  rw [revoke_snd]
  unfold requestStop
  split
  · exact fun _ _ _ ↦ rfl
  · next hstop =>
    intro _ hdispatch houtcome
    by_contra hnone
    exact hstop ⟨hdispatch, houtcome, Option.not_isSome_iff_eq_none.mp hnone⟩

/-- Without native evidence, and unless it is known not to be submitted, nothing later is
recorded either. -/
theorem unobserved {r : OperationReceipt} (h : r.Recorded) (hs : r.Sequenced)
    (hnone : r.NoNativeEvidence) (hdispatch : r.dispatch ≠ .notSubmitted) :
    r.nativeAcceptance = .pending ∧ r.nativeOutcome = .pending ∧ r.output = .pending ∧
      r.settlement = .pending := by
  obtain ⟨hacc, hrej, -, hsuccess, hfailure, hcancellation⟩ := hnone
  have hacceptance : r.nativeAcceptance = .pending := by
    have haccepted := h.accepted
    have hrejected := h.rejected
    cases ha : r.nativeAcceptance <;> simp_all
  have houtcome : r.nativeOutcome = .pending := by
    have hsub := h.notSubmitted
    rw [h.outcome, justifiedOutcome]
    simp_all
  have houtput : r.output = .pending := by
    have hdelivered := hs.delivered
    have hunproduced := hs.unproduced
    have hrefused := hs.refused
    cases hout : r.output with
    | pending => rfl
    | accepted => simp [hout, houtcome] at hdelivered
    | notDelivered =>
      obtain ⟨reason, hr⟩ := Option.isSome_iff_exists.mp (h.reason.mp hout)
      cases reason <;> simp [hr, houtcome] at hunproduced hrefused
  refine ⟨hacceptance, houtcome, houtput, ?_⟩
  cases hset : r.settlement with
  | pending => rfl
  | settled =>
    have hresolved := hs.settled hset
    simp [hasResolvedEffects, hdispatch, hacceptance, houtcome] at hresolved

/-- Without an answer to the submission no native evidence is retained. -/
theorem noNativeEvidence_of_pending {r : OperationReceipt} (h : r.Recorded)
    (hpending : r.nativeAcceptance = .pending) : r.NoNativeEvidence := by
  have haccepted := h.accepted
  have hrejected := h.rejected
  have hstarted := h.started
  have hsuccess := h.success
  have hfailure := h.failure
  have hcancellation := h.cancellation
  have hobserved := h.observed
  unfold NoNativeEvidence
  simp_all

/-- Without an answer to the submission no later native record exists either. -/
theorem noNativeEvidence_of_unobserved {r : OperationReceipt} (h : r.Recorded)
    (haccepted : r.nativeAcceptanceEvidence = none)
    (hrejected : r.nativeRejectionEvidence = none) : r.NoNativeEvidence := by
  apply noNativeEvidence_of_pending h
  have hacceptedIff := h.accepted
  have hrejectedIff := h.rejected
  cases hn : r.nativeAcceptance <;> simp_all

/-- Before the dispatch nothing later is recorded. -/
theorem undispatched {r : OperationReceipt} (h : r.Recorded) (hs : r.Sequenced)
    (hpending : r.dispatch = .pending) :
    r.NoNativeEvidence ∧ r.nativeOutcome = .pending ∧ r.output = .pending ∧
      r.settlement = .pending := by
  have hacceptance : r.nativeAcceptance = .pending := by
    by_contra hne
    rw [hs.native hne] at hpending
    cases hpending
  have hnone := noNativeEvidence_of_pending h hacceptance
  exact ⟨hnone, (unobserved h hs hnone (by rw [hpending]; nofun)).2⟩

/-! ### Dispatch, stop response and non-submission -/

private theorem Recorded.claim {r : OperationReceipt} (h : r.Recorded)
    (hpending : r.dispatch = .pending) (t : MonotonicTime) : (r.claim t).Recorded :=
  { h with
    notSubmitted := by
      have := h.notSubmitted
      simp_all [OperationReceipt.claim] }

private theorem Sequenced.claim {r : OperationReceipt} (hr : r.Recorded) (h : r.Sequenced)
    (hpending : r.dispatch = .pending) (t : MonotonicTime) : (r.claim t).Sequenced :=
  { h with
    native := fun _ ↦ rfl
    dispatched := fun _ ↦ rfl
    settled := by
      intro hset
      have := (undispatched hr h hpending).2.2.2
      simp [OperationReceipt.claim, this] at hset }

private theorem Refreshed.claim {r : OperationReceipt} (hr : r.Recorded) (hs : r.Sequenced)
    (h : r.Refreshed) (hpending : r.dispatch = .pending) (t : MonotonicTime) :
    (r.claim t).Refreshed := by
  have hset := (undispatched hr hs hpending).2.2.2
  have hclosed : ¬ r.hasResolvedClosure := by simp [hasResolvedClosure, hset]
  have hclosed' : ¬ (r.claim t).hasResolvedClosure := by
    simp [hasResolvedClosure, OperationReceipt.claim, hset]
  have hrevoked : (r.claim t).isRevoked ↔ r.isRevoked := Iff.rfl
  have houtcome : (r.claim t).nativeOutcome = r.nativeOutcome := rfl
  have hkept : (r.claim t).authorityDisposition = r.authorityDisposition := rfl
  rw [Refreshed, hkept, h, computedDisposition, computedDisposition, houtcome, if_neg hclosed,
    if_neg hclosed']
  simp only [hrevoked]

private theorem Recorded.acknowledgeStop {r : OperationReceipt} (h : r.Recorded)
    {e : StopAcknowledgementEvidence} (hrequested : r.nativeStopRequestedAt.isSome)
    (hkind : e.acknowledgement ≠ .notRequested ∧ e.acknowledgement ≠ .pending) :
    (r.acknowledgeStop e).Recorded :=
  { h with
    unrequested := by
      have : r.nativeStopRequestedAt ≠ none := Option.isSome_iff_ne_none.mp hrequested
      simp [OperationReceipt.acknowledgeStop, hkind.1, this]
    unanswered := by simp [OperationReceipt.acknowledgeStop, hkind.2] }

private theorem Sequenced.acknowledgeStop {r : OperationReceipt} (h : r.Sequenced)
    {e : StopAcknowledgementEvidence} (hrequested : r.nativeStopRequestedAt.isSome) :
    (r.acknowledgeStop e).Sequenced :=
  { h with acknowledged := fun _ ↦ hrequested }

private theorem Recorded.markNotSubmitted {r : OperationReceipt} (h : r.Recorded)
    (hnone : r.NoNativeEvidence) (record : EvidenceRecord) :
    (r.markNotSubmitted record).Recorded :=
  Recorded.refresh
    { h with
      notSubmitted := by simp
      unsubmitted := fun _ ↦ hnone
      outcome := by simp [justifiedOutcome] }

private theorem Sequenced.markNotSubmitted {r : OperationReceipt} (hr : r.Recorded)
    (h : r.Sequenced) (hnone : r.NoNativeEvidence) (hdispatch : r.dispatch ≠ .notSubmitted)
    (record : EvidenceRecord) : (r.markNotSubmitted record).Sequenced := by
  obtain ⟨hacceptance, -, houtput, hset⟩ := unobserved hr h hnone hdispatch
  have hreason : r.outputNonDeliveryReason = none := by
    have := hr.reason
    simpa [houtput] using this
  exact Sequenced.refresh
    { h with
      native := by simp [hacceptance]
      dispatched := by simp
      delivered := by simp [houtput]
      unproduced := by simp
      refused := by simp [hreason]
      settled := by simp [hset] }

/-! ### Native events -/

/-- The outcome that `observe_native` derives. -/
def derivedOutcome (r : OperationReceipt) : NativeOutcome :=
  if r.terminalCount > 1 then .unknown
  else if r.observedNativeSuccess then .succeeded
  else if r.observedNativeFailure then .failed
  else if r.observedNativeCancellation then .cancelled
  else r.nativeOutcome

/-- Deriving the outcome assigns that field alone. -/
theorem deriveNativeOutcome_eq (r : OperationReceipt) :
    r.deriveNativeOutcome = { r with nativeOutcome := r.derivedOutcome } := by
  unfold deriveNativeOutcome derivedOutcome
  split
  · rfl
  · split
    · rfl
    · split
      · rfl
      · split <;> rfl

/-- The terminal flags agree with the retained terminal records. -/
structure FlagsRecorded (r : OperationReceipt) : Prop where
  success : r.observedNativeSuccess = r.nativeSuccessEvidence.isSome
  failure : r.observedNativeFailure = r.nativeFailureEvidence.isSome
  cancellation : r.observedNativeCancellation = r.nativeCancellationEvidence.isSome

/-- The flags of a receipt are what its evidence justifies. -/
theorem Recorded.flags {r : OperationReceipt} (h : r.Recorded) : r.FlagsRecorded :=
  ⟨Bool.eq_iff_iff.mpr h.success, Bool.eq_iff_iff.mpr h.failure,
    Bool.eq_iff_iff.mpr h.cancellation⟩

/-- The derived outcome is the justified one when no work was refused. -/
theorem derivedOutcome_eq_justified {r : OperationReceipt} (h : r.FlagsRecorded)
    (hexecuted : r.nonSubmissionEvidence = none ∧ r.nativeRejectionEvidence = none)
    (hunfinished : r.terminalCount = 0 → r.nativeOutcome = .pending) :
    r.derivedOutcome = r.justifiedOutcome := by
  unfold derivedOutcome justifiedOutcome
  unfold terminalCount at *
  rw [h.success, h.failure, h.cancellation] at *
  cases hs : r.nativeSuccessEvidence.isSome <;> cases hf : r.nativeFailureEvidence.isSome <;>
    cases hc : r.nativeCancellationEvidence.isSome <;> simp_all

/-- Deriving the outcome of a recorded receipt again changes nothing. -/
theorem derivedOutcome_of_recorded {r : OperationReceipt} (h : r.Recorded) :
    r.derivedOutcome = r.nativeOutcome := by
  have hflags := h.flags
  have hobserved := h.observed
  have hrejected := h.rejected
  have haccepted := h.accepted
  have hunsubmitted := h.unsubmitted
  rw [h.outcome]
  by_cases hcount : r.terminalCount = 0
  · unfold terminalCount at hcount
    unfold derivedOutcome terminalCount
    rw [h.outcome]
    simp_all
  · have hacc : r.nativeAcceptance = .accepted := by
      apply hobserved
      unfold terminalCount at hcount
      grind
    refine derivedOutcome_eq_justified hflags ⟨?_, ?_⟩ fun hzero ↦ absurd hzero hcount
    · by_contra hsome
      have := (hunsubmitted (Option.isSome_iff_ne_none.mpr hsome)).1
      simp_all
    · by_contra hsome
      simp_all

/-- An outcome evolves from pending to any outcome, and otherwise only to unknown. -/
def Evolves (before after : NativeOutcome) : Prop :=
  before = .pending ∨ after = before ∨ after = .unknown

/-- What a native event does: nothing, an answer to the submission, or one more record of
work that was accepted. -/
inductive NativeChange (r : OperationReceipt) (e : NativeEvidence) :
    EvidenceDisposition → OperationReceipt → Prop where
  | repeated : NativeChange r e .duplicate r
  | accepted (kind : e.kind = .accepted) (pending : r.nativeAcceptance = .pending) :
      NativeChange r e .accepted
        { r with
          nativeIdentity := e.nativeIdentity
          nativeAcceptance := .accepted
          nativeAcceptanceEvidence := some e.record }
  | rejected (kind : e.kind = .rejected) (pending : r.nativeAcceptance = .pending) :
      NativeChange r e .accepted
        { r with
          nativeIdentity := e.nativeIdentity
          nativeAcceptance := .rejected
          nativeOutcome := .notExecuted
          nativeRejectionEvidence := some e.record }
  | started (kind : e.kind = .started) (running : r.nativeAcceptance = .accepted) :
      NativeChange r e .accepted
        { r with nativeStarted := true, nativeStartedEvidence := some e.record }
  | succeeded (kind : e.kind = .terminalSucceeded) (running : r.nativeAcceptance = .accepted)
      (first : r.observedNativeSuccess = false) :
      NativeChange r e .accepted
        { r with observedNativeSuccess := true, nativeSuccessEvidence := some e.record }
  | failed (kind : e.kind = .terminalFailed) (running : r.nativeAcceptance = .accepted)
      (first : r.observedNativeFailure = false) :
      NativeChange r e .accepted
        { r with observedNativeFailure := true, nativeFailureEvidence := some e.record }
  | cancelled (kind : e.kind = .terminalCancelled) (running : r.nativeAcceptance = .accepted)
      (first : r.observedNativeCancellation = false) :
      NativeChange r e .accepted
        { r with
          observedNativeCancellation := true
          nativeCancellationEvidence := some e.record }

/-- The event switch makes one of these changes. -/
theorem nativeChange_of_apply {r applied : OperationReceipt} {e : NativeEvidence}
    {d : EvidenceDisposition} (hconsistent : ¬ AuthorityGate.nativeContradicts r e)
    (h : r.applyNativeEvent e = some (d, applied)) : NativeChange r e d applied := by
  unfold AuthorityGate.nativeContradicts at hconsistent
  push Not at hconsistent
  obtain ⟨-, -, hrejected, haccepted⟩ := hconsistent
  unfold applyNativeEvent at h
  split at h
  · next hkind =>
    split at h
    · cases h
      exact .repeated
    · next hne =>
      cases h
      refine .accepted hkind ?_
      cases hacc : r.nativeAcceptance <;> simp_all
  · next hkind =>
    split at h
    · cases h
      exact .repeated
    · next hne =>
      cases h
      refine .rejected hkind ?_
      cases hacc : r.nativeAcceptance <;> simp_all
  · next hkind =>
    split at h
    · cases h
    · next hrunning =>
      split at h
      · cases h
        exact .repeated
      · cases h
        exact .started hkind (not_not.mp hrunning)
  · next hkind =>
    split at h
    · cases h
    · next hrunning =>
      split at h
      · cases h
        exact .repeated
      · next hfirst =>
        cases h
        exact .succeeded hkind (not_not.mp hrunning) (Bool.not_eq_true _ ▸ hfirst)
  · next hkind =>
    split at h
    · cases h
    · next hrunning =>
      split at h
      · cases h
        exact .repeated
      · next hfirst =>
        cases h
        exact .failed hkind (not_not.mp hrunning) (Bool.not_eq_true _ ▸ hfirst)
  · next hkind =>
    split at h
    · cases h
    · next hrunning =>
      split at h
      · cases h
        exact .repeated
      · next hfirst =>
        cases h
        exact .cancelled hkind (not_not.mp hrunning) (Bool.not_eq_true _ ▸ hfirst)

/-- Accepted work was neither unsubmitted nor rejected. -/
theorem executed_of_accepted {r : OperationReceipt} (h : r.Recorded)
    (hrunning : r.nativeAcceptance = .accepted) :
    r.nonSubmissionEvidence = none ∧ r.nativeRejectionEvidence = none := by
  have haccepted := h.accepted
  have hrejected := h.rejected
  have hunsubmitted := h.unsubmitted
  unfold NoNativeEvidence at hunsubmitted
  constructor
  · by_contra hsome
    have := (hunsubmitted (Option.isSome_iff_ne_none.mpr hsome)).1
    simp_all
  · by_contra hsome
    simp_all

/-- Accepted work without a terminal has a pending outcome. -/
theorem unfinished_pending {r : OperationReceipt} (h : r.Recorded)
    (hrunning : r.nativeAcceptance = .accepted) (hcount : r.terminalCount = 0) :
    r.nativeOutcome = .pending := by
  obtain ⟨hsub, hrej⟩ := executed_of_accepted h hrunning
  have hflags := h.flags
  unfold terminalCount at hcount
  rw [hflags.success, hflags.failure, hflags.cancellation] at hcount
  rw [h.outcome, justifiedOutcome]
  cases hs : r.nativeSuccessEvidence.isSome <;> cases hf : r.nativeFailureEvidence.isSome <;>
    cases hc : r.nativeCancellationEvidence.isSome <;> simp_all

/-- A native event keeps the recorded facts. -/
theorem recorded_native {r applied : OperationReceipt} {e : NativeEvidence}
    {d : EvidenceDisposition} (h : r.Recorded) (hs : r.Sequenced)
    (hsubmitted : r.dispatch = .submitted) (change : NativeChange r e d applied) :
    applied.deriveNativeOutcome.refreshAuthorityDisposition.Recorded := by
  rw [deriveNativeOutcome_eq]
  apply Recorded.refresh
  have hflags := h.flags
  have hsub : r.nonSubmissionEvidence = none := by
    have := h.notSubmitted
    rw [hsubmitted] at this
    simpa using this
  cases change with
  | repeated =>
    rw [derivedOutcome_of_recorded h]
    exact h
  | accepted _ pending =>
    have hnone := noNativeEvidence_of_pending h pending
    have houtcome := (unobserved h hs hnone (by rw [hsubmitted]; nofun)).2.1
    exact
      { h with
        unsubmitted := by simp [hsub]
        accepted := by simp
        rejected := by simp [hnone.2.1]
        observed := fun _ ↦ rfl
        outcome :=
          derivedOutcome_eq_justified ⟨hflags.success, hflags.failure, hflags.cancellation⟩
            ⟨hsub, hnone.2.1⟩ fun _ ↦ houtcome }
  | rejected _ pending =>
    have hnone := noNativeEvidence_of_pending h pending
    have hobserved := h.observed
    simp only [pending, reduceCtorEq, imp_false, not_or, Bool.not_eq_true] at hobserved
    exact
      { h with
        unsubmitted := by simp [hsub]
        accepted := by simp [hnone.1]
        rejected := by simp
        observed := by simp [hobserved]
        outcome := by
          simp [derivedOutcome, terminalCount, justifiedOutcome, hobserved] }
  | started _ running =>
    have hexecuted := executed_of_accepted h running
    have hunfinished := unfinished_pending h running
    exact
      { h with
        unsubmitted := by simp [hsub]
        started := by simp
        observed := fun _ ↦ running
        outcome :=
          derivedOutcome_eq_justified ⟨hflags.success, hflags.failure, hflags.cancellation⟩
            hexecuted hunfinished }
  | succeeded _ running =>
    have hexecuted := executed_of_accepted h running
    exact
      { h with
        unsubmitted := by simp [hsub]
        success := by simp
        observed := fun _ ↦ running
        outcome :=
          derivedOutcome_eq_justified ⟨rfl, hflags.failure, hflags.cancellation⟩
            hexecuted (by simp [terminalCount]) }
  | failed _ running =>
    have hexecuted := executed_of_accepted h running
    exact
      { h with
        unsubmitted := by simp [hsub]
        failure := by simp
        observed := fun _ ↦ running
        outcome :=
          derivedOutcome_eq_justified ⟨hflags.success, rfl, hflags.cancellation⟩
            hexecuted (by simp [terminalCount]) }
  | cancelled _ running =>
    have hexecuted := executed_of_accepted h running
    exact
      { h with
        unsubmitted := by simp [hsub]
        cancellation := by simp
        observed := fun _ ↦ running
        outcome :=
          derivedOutcome_eq_justified ⟨hflags.success, hflags.failure, rfl⟩
            hexecuted (by simp [terminalCount]) }

/-- The outcome of accepted work evolves when a record of it is added. -/
private theorem derived_evolves {r : OperationReceipt} (h : r.Recorded)
    (hrunning : r.nativeAcceptance = .accepted) {applied : OperationReceipt}
    (hsuccess : r.observedNativeSuccess = true → applied.observedNativeSuccess = true)
    (hfailure : r.observedNativeFailure = true → applied.observedNativeFailure = true)
    (hcancellation : r.observedNativeCancellation = true →
      applied.observedNativeCancellation = true)
    (hkept : applied.nativeOutcome = r.nativeOutcome) :
    Evolves r.nativeOutcome applied.derivedOutcome := by
  have hpending := unfinished_pending h hrunning
  have hderived := derivedOutcome_of_recorded h
  unfold Evolves
  unfold terminalCount at hpending
  rw [← hderived]
  unfold derivedOutcome terminalCount
  rw [hkept]
  cases h1 : r.observedNativeSuccess <;> cases h2 : r.observedNativeFailure <;>
    cases h3 : r.observedNativeCancellation <;>
    cases h4 : applied.observedNativeSuccess <;> cases h5 : applied.observedNativeFailure <;>
    cases h6 : applied.observedNativeCancellation <;> simp_all

/-- A receipt with a pending outcome and a submitted dispatch is not settled. -/
private theorem unsettled_of_pending {r : OperationReceipt} (hs : r.Sequenced)
    (hsubmitted : r.dispatch = .submitted) (houtcome : r.nativeOutcome = .pending) :
    r.settlement ≠ .settled := by
  intro hset
  have hresolved := hs.settled hset
  simp [hasResolvedEffects, hsubmitted, houtcome] at hresolved

/-- The order of the facts survives an evolution of the outcome. -/
private theorem sequenced_evolve {r : OperationReceipt} (h : r.Sequenced)
    (hsubmitted : r.dispatch = .submitted) {outcome : NativeOutcome}
    (hevolves : Evolves r.nativeOutcome outcome) :
    ({ r with nativeOutcome := outcome } : OperationReceipt).Sequenced := by
  rcases hevolves with hpending | rfl | rfl
  · have hunsettled := unsettled_of_pending h hsubmitted hpending
    have hdelivered : r.output ≠ .accepted := by
      intro hout
      have := h.delivered hout
      simp [hpending] at this
    have hunproduced : r.outputNonDeliveryReason ≠ some .noOutputProduced := by
      intro hreason
      have := h.unproduced hreason
      simp [hpending] at this
    have hrefused : ¬ (r.outputNonDeliveryReason = some .sinkRejected ∨
        r.outputNonDeliveryReason = some .authorityRevoked) := by
      intro hreason
      have := h.refused hreason
      simp [hpending] at this
    exact
      { h with
        delivered := fun hout ↦ absurd hout hdelivered
        unproduced := fun hreason ↦ absurd hreason hunproduced
        refused := fun hreason ↦ absurd hreason hrefused
        settled := fun hset ↦ absurd hset hunsettled }
  · exact h
  · exact
      { h with
        delivered := fun _ ↦ .inr rfl
        unproduced := fun _ ↦ .inr (.inr (.inr rfl))
        refused := fun _ ↦ .inr rfl
        settled := fun _ ↦ .inr rfl }

/-- A native event evolves the outcome. -/
theorem native_evolves {r applied : OperationReceipt} {e : NativeEvidence}
    {d : EvidenceDisposition} (h : r.Recorded) (hs : r.Sequenced)
    (hsubmitted : r.dispatch = .submitted) (change : NativeChange r e d applied) :
    Evolves r.nativeOutcome applied.derivedOutcome := by
  cases change with
  | repeated => exact .inr (.inl (derivedOutcome_of_recorded h))
  | accepted _ pending | rejected _ pending =>
    have hnone := noNativeEvidence_of_pending h pending
    exact .inl (unobserved h hs hnone (by rw [hsubmitted]; nofun)).2.1
  | started _ running | succeeded _ running | failed _ running | cancelled _ running =>
    refine derived_evolves h running ?_ ?_ ?_ rfl <;> intro hflag <;>
      first | exact hflag | rfl

/-- A native event keeps the order of the facts. -/
theorem sequenced_native {r applied : OperationReceipt} {e : NativeEvidence}
    {d : EvidenceDisposition} (hr : r.Recorded) (h : r.Sequenced)
    (hsubmitted : r.dispatch = .submitted) (hnamed : e.nativeIdentity ≠ "")
    (change : NativeChange r e d applied) :
    applied.deriveNativeOutcome.refreshAuthorityDisposition.Sequenced := by
  have hevolves := native_evolves hr h hsubmitted change
  have hoverall := sequenced_evolve h hsubmitted hevolves
  rw [deriveNativeOutcome_eq]
  apply Sequenced.refresh
  cases change with
  | repeated => exact hoverall
  | accepted _ pending | rejected _ pending =>
    have hnone := noNativeEvidence_of_pending hr pending
    have hunsettled := (unobserved hr h hnone (by rw [hsubmitted]; nofun)).2.2.2
    exact
      { hoverall with
        native := fun _ ↦ hsubmitted
        identified := by simp [hnamed]
        settled := by simp [hunsettled] }
  | started _ running | succeeded _ running | failed _ running | cancelled _ running =>
    exact { hoverall with }

/-! ### Output and settlement -/

/-- Undisposed output means that nothing is settled, unless the outcome is unknown. -/
theorem unsettled_of_undisposed {r : OperationReceipt} (h : r.Sequenced)
    (hpending : r.output = .pending) (hknown : r.nativeOutcome ≠ .unknown) :
    r.settlement ≠ .settled := by
  intro hset
  have hresolved := (h.settled hset).resolve_right hknown
  simp [hasResolvedEffects, hpending] at hresolved

/-- Output that is still pending has neither a record nor a reason. -/
theorem undisposed {r : OperationReceipt} (h : r.Recorded) (hpending : r.output = .pending) :
    r.outputEvidence = none ∧ r.outputNonDeliveryEvidence = none ∧
      r.outputNonDeliveryReason = none := by
  have hdelivered := h.delivered
  have hwithheld := h.withheld
  have hreason := h.reason
  simp_all

private theorem Recorded.acceptOutput {r : OperationReceipt} (h : r.Recorded)
    (hpending : r.output = .pending) (e : OutputEvidence) : (r.acceptOutput e).Recorded := by
  obtain ⟨-, hwithheld, hreason⟩ := undisposed h hpending
  exact Recorded.refresh
    { h with
      delivered := by simp
      withheld := by simp [hwithheld]
      reason := by simp [hreason] }

private theorem Sequenced.acceptOutput {r : OperationReceipt} (h : r.Sequenced)
    (hpending : r.output = .pending) (hsucceeded : r.nativeOutcome = .succeeded)
    (e : OutputEvidence) : (r.acceptOutput e).Sequenced := by
  have hunsettled :=
    unsettled_of_undisposed h hpending (by rw [hsucceeded]; nofun)
  exact Sequenced.refresh
    { h with
      delivered := fun _ ↦ .inl hsucceeded
      settled := fun hset ↦ absurd hset hunsettled }

/-- The outcome that a non-delivery rests on, by its reason. -/
theorem nonDelivery_outcome {s : AuthorityGate} {r : OperationReceipt}
    {e : OutputNonDeliveryEvidence} {source : String} {prerequisite : EvidenceRecord}
    (h : r.Recorded) (rests : s.nonDeliveryPrerequisite r e = some (source, prerequisite)) :
    (e.reason = .noOutputProduced ∧ (r.nativeOutcome = .notExecuted ∨
        r.nativeOutcome = .failed ∨ r.nativeOutcome = .cancelled)) ∨
      (e.reason ≠ .noOutputProduced ∧ r.nativeAcceptance = .accepted ∧
        r.nativeOutcome = .succeeded) := by
  have hsink : AuthorityGate.nonDeliveryPrerequisite.sinkPrerequisite s r e =
      some (source, prerequisite) →
        r.nativeAcceptance = .accepted ∧ r.nativeOutcome = .succeeded := by
    intro hrests
    unfold AuthorityGate.nonDeliveryPrerequisite.sinkPrerequisite at hrests
    split at hrests
    · cases hrests
    · next hguard =>
      push Not at hguard
      exact hguard.2
  unfold AuthorityGate.nonDeliveryPrerequisite at rests
  split at rests
  · next hreason =>
    refine .inl ⟨hreason, ?_⟩
    split at rests
    · cases rests
    · have hnotSubmitted := h.notSubmitted
      have hrejected := h.rejected
      have houtcome := h.outcome
      unfold justifiedOutcome at houtcome
      dsimp only at rests
      split at rests
      · simp_all
      · split at rests
        · simp_all
        · split at rests
          · next hfailed => exact .inr (.inl hfailed.2)
          · split at rests
            · next hcancelled => exact .inr (.inr hcancelled)
            · cases rests
  · next hreason =>
    split at rests
    · cases rests
    · exact .inr ⟨by rw [hreason]; nofun, hsink rests⟩
  · next hreason => exact .inr ⟨by rw [hreason]; nofun, hsink rests⟩

private theorem Recorded.withholdOutput {r : OperationReceipt} (h : r.Recorded)
    (hpending : r.output = .pending) (e : OutputNonDeliveryEvidence) :
    (r.withholdOutput e).Recorded := by
  obtain ⟨hdelivered, -, -⟩ := undisposed h hpending
  exact Recorded.refresh
    { h with
      delivered := by simp [hdelivered]
      withheld := by simp
      reason := by simp }

private theorem Sequenced.withholdOutput {s : AuthorityGate} {r : OperationReceipt}
    {e : OutputNonDeliveryEvidence} {source : String} {prerequisite : EvidenceRecord}
    (hr : r.Recorded) (h : r.Sequenced) (hpending : r.output = .pending)
    (rests : s.nonDeliveryPrerequisite r e = some (source, prerequisite)) :
    (r.withholdOutput e).Sequenced := by
  have houtcome := nonDelivery_outcome hr rests
  have hunsettled : r.settlement ≠ .settled := by
    apply unsettled_of_undisposed h hpending
    intro hunknown
    simp [hunknown] at houtcome
  exact Sequenced.refresh
    { h with
      delivered := by simp
      unproduced := by
        intro hreason
        rw [Option.some.injEq] at hreason
        rcases houtcome with ⟨-, h1 | h1 | h1⟩ | ⟨hne, -⟩
        · exact .inl h1
        · exact .inr (.inl h1)
        · exact .inr (.inr (.inl h1))
        · exact absurd hreason hne
      refused := by
        intro hreason
        rcases houtcome with ⟨heq, -⟩ | ⟨-, -, hsucceeded⟩
        · simp [heq] at hreason
        · exact .inl hsucceeded
      settled := fun hset ↦ absurd hset hunsettled }

private theorem Recorded.settle {r : OperationReceipt} (h : r.Recorded) (e : SettlementEvidence) :
    (r.settle e).Recorded :=
  Recorded.refresh { h with settled := by simp }

private theorem Sequenced.settle {r : OperationReceipt} (h : r.Sequenced)
    (hresolved : r.hasResolvedEffects) (e : SettlementEvidence) : (r.settle e).Sequenced :=
  Sequenced.refresh { h with settled := fun _ ↦ .inl hresolved }

/-! ### Integrity -/

/-- Every status field is justified by the retained evidence, in the order the operations
allow, and the cached disposition is fresh. -/
structure Integrity (r : OperationReceipt) : Prop where
  recorded : r.Recorded
  sequenced : r.Sequenced
  stopRequested : r.StopRequested
  refreshed : r.Refreshed

/-- A fresh receipt has integrity. -/
theorem integrity_new (authority : OperationAuthority) (request : OperationRequest) :
    (AuthorityGate.newReceipt authority request).Integrity where
  recorded := by
    constructor <;> simp [AuthorityGate.newReceipt, justifiedOutcome, NoNativeEvidence]
  sequenced := by constructor <;> simp [AuthorityGate.newReceipt]
  stopRequested := by simp [StopRequested, AuthorityGate.newReceipt]
  refreshed := by
    simp [Refreshed, computedDisposition, AuthorityGate.newReceipt, hasResolvedClosure,
      isRevoked]

/-- A recorded revocation keeps integrity once `revoke` has run. -/
theorem Integrity.revoke {r : OperationReceipt} (recorded : r.Recorded)
    (sequenced : r.Sequenced) (t : MonotonicTime) : (r.revoke t).2.Integrity where
  recorded := recorded.revoke sequenced t
  sequenced := sequenced.revoke t
  stopRequested := stopRequested_revoke r t
  refreshed := refreshed_refresh _

private theorem Recorded.cancelAt {r : OperationReceipt} (h : r.Recorded) (t : MonotonicTime) :
    (r.cancelAt t).Recorded := { h with }

/-- `cancelAt` keeps what each fact of a receipt presupposes. -/
theorem Sequenced.cancelAt {r : OperationReceipt} (h : r.Sequenced) (t : MonotonicTime) :
    (r.cancelAt t).Sequenced := { h with }

private theorem Recorded.expireAt {r : OperationReceipt} (h : r.Recorded) (t : MonotonicTime) :
    (r.expireAt t).Recorded := { h with }

/-- `expireAt` keeps what each fact of a receipt presupposes. -/
theorem Sequenced.expireAt {r : OperationReceipt} (h : r.Sequenced) (t : MonotonicTime) :
    (r.expireAt t).Sequenced := { h with }

private theorem Recorded.withdrawAt {r : OperationReceipt} (h : r.Recorded) (t : MonotonicTime) :
    (r.withdrawAt t).Recorded := { h with }

/-- `withdrawAt` keeps what each fact of a receipt presupposes. -/
theorem Sequenced.withdrawAt {r : OperationReceipt} (h : r.Sequenced) (t : MonotonicTime) :
    (r.withdrawAt t).Sequenced := { h with }

/-- A native event keeps integrity. -/
theorem Integrity.native {r applied : OperationReceipt} {e : NativeEvidence}
    {d : EvidenceDisposition} (h : r.Integrity) (hsubmitted : r.dispatch = .submitted)
    (hnamed : e.nativeIdentity ≠ "") (change : NativeChange r e d applied) :
    applied.deriveNativeOutcome.refreshAuthorityDisposition.Integrity where
  recorded := recorded_native h.recorded h.sequenced hsubmitted change
  sequenced := sequenced_native h.recorded h.sequenced hsubmitted hnamed change
  stopRequested := by
    intro hrevoked _ houtcome
    have hevolves := native_evolves h.recorded h.sequenced hsubmitted change
    rw [deriveNativeOutcome_eq] at hrevoked houtcome ⊢
    have hpending : r.nativeOutcome = .pending := by
      have houtcome' : applied.derivedOutcome = .pending := houtcome
      rw [houtcome'] at hevolves
      rcases hevolves with h1 | h1 | h1
      · exact h1
      · exact h1.symm
      · cases h1
    have hstop := fun hr ↦ h.stopRequested hr hsubmitted hpending
    cases change <;> exact hstop hrevoked
  refreshed := refreshed_refresh _

end OperationReceipt

/-- A change of the current receipt by an operation keeps integrity. -/
theorem OperationStep.integrity {s : AuthorityGate} {c : Call} {a : Answer}
    {r r' : OperationReceipt} (step : OperationStep s c a r r') (h : r.Integrity) :
    r'.Integrity := by
  have hr := h.recorded
  have hs := h.sequenced
  cases step with
  | claim _ _ _ pending unrevoked =>
    exact
      { recorded := hr.claim pending _
        sequenced := hs.claim hr pending _
        stopRequested := fun hrevoked ↦ absurd hrevoked unrevoked
        refreshed := h.refreshed.claim hr hs pending _ }
  | cancel => exact .revoke (hr.cancelAt _) (hs.cancelAt _) _
  | expire => exact .revoke (hr.expireAt _) (hs.expireAt _) _
  | acknowledge _ requested _ kind =>
    have hsome : r.nativeStopRequestedAt.isSome := by rw [requested]; rfl
    exact
      { recorded := hr.acknowledgeStop hsome kind
        sequenced := hs.acknowledgeStop hsome
        stopRequested := h.stopRequested
        refreshed := h.refreshed }
  | notSubmitted _ _ _ unmarked unobserved =>
    have hnone :=
      OperationReceipt.noNativeEvidence_of_unobserved hr unobserved.1 unobserved.2.1
    exact
      { recorded := hr.markNotSubmitted hnone _
        sequenced := hs.markNotSubmitted hr hnone unmarked _
        stopRequested := fun _ hsubmitted ↦ by cases hsubmitted
        refreshed := OperationReceipt.refreshed_refresh _ }
  | acceptOutput _ _ _ _ unrevoked succeeded pending =>
    exact
      { recorded := hr.acceptOutput pending _
        sequenced := hs.acceptOutput pending succeeded _
        stopRequested := fun hrevoked ↦ absurd hrevoked unrevoked
        refreshed := OperationReceipt.refreshed_refresh _ }
  | withholdOutput _ rests _ pending =>
    exact
      { recorded := hr.withholdOutput pending _
        sequenced := hs.withholdOutput hr pending rests
        stopRequested := h.stopRequested
        refreshed := OperationReceipt.refreshed_refresh _ }
  | settle _ _ _ _ _ _ _ _ resolved =>
    exact
      { recorded := hr.settle _
        sequenced := hs.settle resolved _
        stopRequested := h.stopRequested
        refreshed := OperationReceipt.refreshed_refresh _ }

/-- Every change of the current receipt keeps integrity. -/
theorem ReceiptStep.integrity {s : AuthorityGate} {c : Call} {a : Answer}
    {r r' : OperationReceipt} (step : ReceiptStep s c a r r') (h : r.Integrity) :
    r'.Integrity := by
  cases step with
  | operation step => exact step.integrity h
  | native step =>
    exact h.native step.submitted step.named
      (OperationReceipt.nativeChange_of_apply step.consistent step.switch)
  | withdraw => exact .revoke (h.recorded.withdrawAt _) (h.sequenced.withdrawAt _) _

/-- The current receipt, when there is one, has integrity. -/
def AuthorityGate.ReceiptIntegrity (s : AuthorityGate) : Prop :=
  ∀ r ∈ s.currentReceipt, r.Integrity

/-- The gate starts without a receipt. -/
theorem receiptIntegrity_initial (config : AuthorityGateConfig) :
    (AuthorityGate.initial config).ReceiptIntegrity := by
  intro r hr
  cases hr

end RobotHarness
