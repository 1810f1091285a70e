import RobotHarness.Core.Transition

/-!
# Inversion of the gate's calls

Each public operation makes one of the transitions, and so does each call.
-/

namespace RobotHarness

variable {s : AuthorityGate} {c : Call}

/-! ### Answers without effect -/

private theorem rejected : Transition s c (.evidence .rejected) s := .noEffect nofun

private theorem verdict {P : Prop} [Decidable P] :
    Transition s c (.evidence (if P then .duplicate else .rejected)) s := by
  split
  · exact .noEffect nofun
  · exact rejected

private theorem refusedBinding {status : BindingControlStatus}
    {candidate : Option BindingIdentity} (h : status ≠ .applied) :
    Transition s c (.binding { status := status, candidate := candidate }) s :=
  .noEffect ⟨h, rfl⟩

private theorem refusedControl {status : ControlStatus} (h : status ≠ .applied) :
    Transition s c (.control ⟨status, false⟩) s :=
  .noEffect ⟨h, rfl⟩

private theorem refusedAdmission {status : AdmissionStatus} (h : status ≠ .admitted) :
    Transition s c (.admission { status := status }) s :=
  .noEffect h

namespace AuthorityGate

/-- The receipt that an authority matches is the current one, under the active binding. -/
theorem matchingReceipt_eq_some {state : AuthorityGate} {authority : OperationAuthority}
    {receipt : OperationReceipt} :
    state.matchingReceipt authority = some receipt ↔
      state.currentReceipt = some receipt ∧ authority = receipt.authority ∧
        receipt.authority.binding = state.config.binding := by
  have hmatch : state.currentReceipt = some receipt →
      (state.currentAuthorityMatches authority ↔
        authority = receipt.authority ∧ receipt.authority.binding = state.config.binding) := by
    intro hr
    simp only [currentAuthorityMatches, hr, Option.mem_def, Option.some.injEq,
      authorityMatches_iff, exists_eq_left']
    constructor
    · rintro ⟨hb, rfl⟩
      exact ⟨rfl, hb⟩
    · rintro ⟨rfl, hb⟩
      exact ⟨hb, rfl⟩
  constructor
  · intro h
    unfold matchingReceipt at h
    split at h
    · next hm => exact ⟨h, (hmatch h).mp hm⟩
    · cases h
  · rintro ⟨hr, hm⟩
    rw [matchingReceipt, if_pos ((hmatch hr).mpr hm), hr]

/-- The receipt a withdrawal revokes is current, under the active binding and unreleased. -/
theorem withdrawnReceipt_eq_some {state : AuthorityGate} {receipt : OperationReceipt} :
    state.withdrawnReceipt = some receipt ↔
      state.candidate = none ∧ state.currentReceipt = some receipt ∧
        receipt.authority.binding = state.config.binding ∧ ¬ receipt.isReleasable := by
  unfold withdrawnReceipt
  split
  · next r hc hr =>
    simp only [hc, hr, currentAuthorityMatches, Option.mem_def, Option.some.injEq,
      authorityMatches_iff, exists_eq_left', and_true, true_and]
    constructor
    · intro h
      split at h
      · next hm =>
        cases h
        exact ⟨rfl, hm⟩
      · cases h
    · rintro ⟨rfl, hm⟩
      rw [if_pos hm]
  · next hnone =>
    constructor
    · intro h
      cases h
    · rintro ⟨hc, hr, -⟩
      exact absurd hr (hnone receipt hc)

/-! ### Startup and capabilities -/

private theorem startupCompare_none {fact : StartupFact} {e : StartupEvidence}
    (h : fact.compare e = none) : Newer e.record fact.record := by
  intro previous hp
  rw [Option.mem_def] at hp
  simp only [StartupFact.compare, hp] at h
  split at h
  · cases h
  · split at h
    · cases h
    · grind

private theorem startupCompare_some {fact : StartupFact} {e : StartupEvidence}
    {d : EvidenceDisposition} (h : fact.compare e = some d) : d ≠ .accepted := by
  unfold StartupFact.compare at h
  grind

private theorem observeStartup_transition (e : StartupEvidence) :
    Transition s (.observeStartup e) (.evidence (s.observeStartup e).1)
      (s.observeStartup e).2 := by
  unfold observeStartup
  split
  · exact rejected
  · next hguard =>
    push Not at hguard
    obtain ⟨phase, opened, unused, binding⟩ := hguard
    split
    · exact rejected
    · next index slot =>
      split
      · exact rejected
      · next formed =>
        rw [not_not] at formed
        split
        · next d hd => exact .noEffect (startupCompare_some hd)
        · next hnone =>
          exact .startup phase opened (by simpa using unused) binding slot formed
            (startupCompare_none hnone)

private theorem activeCompare_none {e : ExecutionCapabilities}
    (h : s.compareActiveCapabilities e = none) :
    Newer e.record (s.executionCapabilities.map (·.record)) := by
  intro previous hp
  obtain ⟨p, hs, rfl⟩ := Option.map_eq_some_iff.mp hp
  simp only [compareActiveCapabilities, hs] at h
  split at h
  · cases h
  · split at h
    · cases h
    · grind

private theorem activeCompare_some {e : ExecutionCapabilities} {d : EvidenceDisposition}
    (h : s.compareActiveCapabilities e = some d) : d ≠ .accepted := by
  unfold compareActiveCapabilities at h
  grind

private theorem observeActiveCapabilities_transition (e : ExecutionCapabilities) :
    Transition s (.observeExecutionCapabilities e)
      (.evidence (s.observeActiveCapabilities e).1) (s.observeActiveCapabilities e).2 := by
  unfold observeActiveCapabilities
  split
  · exact rejected
  · next hguard =>
    push Not at hguard
    obtain ⟨opened, configured, binding, id, profile, maximum, valid, formed⟩ := hguard
    split
    · next d hd => exact .noEffect (activeCompare_some hd)
    · next hnone =>
      exact .capabilities opened configured binding ⟨id, profile, maximum, valid⟩ formed
        (activeCompare_none hnone)

section CandidateFacts

variable {α : Type} [Observation α] {identical : α → α → Prop} [DecidableRel identical]

/-- A fact that lets an observation pass retains nothing, or an older observation. -/
theorem candidateCompare_none {fact : CandidateFact α} {e : α}
    (h : fact.compare identical e = none) :
    Newer (Observation.record e) (fact.evidence.map Observation.record) := by
  intro previous hp
  obtain ⟨p, hs, rfl⟩ := Option.map_eq_some_iff.mp hp
  simp only [CandidateFact.compare, hs] at h
  split at h
  · cases h
  · split at h
    · split at h <;> cases h
    · split at h
      · cases h
      · grind

/-- A fact that stops an observation keeps itself, or records a contradiction. -/
theorem candidateCompare_some {fact f : CandidateFact α} {e : α} {d : EvidenceDisposition}
    (h : fact.compare identical e = some (d, f)) :
    (d ≠ .accepted ∧ f = fact) ∨
      (d = .rejected ∧ ∃ p, fact.evidence = some p ∧
        (Observation.record e).sequence = (Observation.record p).sequence ∧
        ¬ identical e p ∧
        f = ⟨some (Observation.withObservedAt p
          (max (Observation.record p).observedAt (Observation.record e).observedAt)),
          true⟩) := by
  unfold CandidateFact.compare at h
  split at h
  · cases h
  · next p hp =>
    dsimp only at h
    split at h
    · cases h
      exact .inl ⟨nofun, rfl⟩
    · split at h
      · next hseq =>
        split at h
        · cases h
          exact .inl ⟨by split <;> nofun, rfl⟩
        · next hdiff =>
          cases h
          exact .inr ⟨rfl, p, hp, hseq, hdiff, rfl⟩
      · split at h
        · cases h
          exact .inl ⟨nofun, rfl⟩
        · cases h

end CandidateFacts

private theorem observeCandidateCapabilities_transition {candidate : Candidate}
    {e : ExecutionCapabilities} (hc : s.candidate = some candidate)
    (phase : s.bindingPhase = .preparing) (binding : e.binding = candidate.binding) :
    Transition s (.observeExecutionCapabilities e)
      (.evidence (s.observeCandidateCapabilities candidate e).1)
      (s.observeCandidateCapabilities candidate e).2 := by
  unfold observeCandidateCapabilities
  split
  · exact rejected
  · next hguard =>
    push Not at hguard
    have target : CapabilityTarget s candidate e := ⟨hc, phase, binding, hguard.1, hguard.2⟩
    split
    · next d fact hcompare =>
      obtain ⟨hd, rfl⟩ | ⟨rfl, p, hp, hseq, hdiff, rfl⟩ := candidateCompare_some hcompare
      · have hs : { s with candidate := some { candidate with
            capabilities := candidate.capabilities } } = s := by rw [← hc]
        rw [hs]
        exact .noEffect hd
      · exact .capabilitiesConflict target hp hseq hdiff
    · next hnone =>
      split
      · exact rejected
      · next hcontent =>
        push Not at hcontent
        exact .candidateCapabilities target hcontent (candidateCompare_none hnone)

private theorem observeExecutionCapabilities_transition (e : ExecutionCapabilities) :
    Transition s (.observeExecutionCapabilities e)
      (.evidence (s.observeExecutionCapabilities e).1)
      (s.observeExecutionCapabilities e).2 := by
  unfold observeExecutionCapabilities
  split
  · exact observeActiveCapabilities_transition e
  · next candidate hc =>
    split
    · next h => exact observeCandidateCapabilities_transition hc h.2 h.1
    · exact observeActiveCapabilities_transition e

/-! ### Withdrawal and rebinding -/

private theorem withdrawBinding_transition (b : BindingIdentity) (now : MonotonicTime) :
    Transition s (.withdrawBinding b now) (.binding (s.withdrawBinding b now).1)
      (s.withdrawBinding b now).2 := by
  unfold withdrawBinding
  split
  · exact refusedBinding nofun
  · next opened =>
    split
    · exact refusedBinding nofun
    · next hexpected =>
      split
      · exact refusedBinding nofun
      · next htime =>
        split
        · exact refusedBinding nofun
        · next unwithdrawn =>
          rw [not_not] at hexpected
          rw [not_lt] at htime
          subst hexpected
          cases hc : s.candidate with
          | some candidate =>
            have hb : s.withdrawableBinding = candidate.binding := by
              simp only [withdrawableBinding, hc]
            rw [hb]
            exact .discard hc opened htime
          | none =>
            have hb : s.withdrawableBinding = s.config.binding := by
              simp only [withdrawableBinding, hc]
            rw [hb]
            simp only [Option.isSome_none, Bool.false_eq_true, if_false]
            split
            · next hnone =>
              have settled : ∀ r ∈ s.currentReceipt,
                  r.authority.binding = s.config.binding → r.isReleasable := by
                intro r hr hbound
                by_contra hreleasable
                have := withdrawnReceipt_eq_some.mpr ⟨hc, hr, hbound, hreleasable⟩
                rw [hnone] at this
                cases this
              exact hc ▸ .withdrawIdle hc opened unwithdrawn htime settled
            · next r hr =>
              obtain ⟨-, hpresent, hbound, hreleasable⟩ := withdrawnReceipt_eq_some.mp hr
              exact hc ▸ .withdrawCurrent hc opened unwithdrawn htime hpresent hbound hreleasable

private theorem followsOldScope_newer {e : BindingReadinessEvidence}
    {previous : Option EvidenceRecord} (h : followsOldScope e previous) :
    Newer e.record previous := by
  intro record hr
  have := h record hr
  grind

private theorem beginRebind_transition (b : BindingIdentity) (providerId : String)
    (e : BindingReadinessEvidence) (now : MonotonicTime) :
    Transition s (.beginRebind b providerId e now)
      (.binding (s.beginRebind b providerId e now).1) (s.beginRebind b providerId e now).2 := by
  unfold beginRebind
  split
  · exact refusedBinding nofun
  split
  · exact refusedBinding nofun
  next hbinding =>
  split
  · exact refusedBinding nofun
  next htime =>
  split
  · exact refusedBinding nofun
  next noCandidate =>
  split
  · exact refusedBinding nofun
  next phase =>
  split
  · exact refusedBinding nofun
  next closed =>
  split
  · exact refusedBinding nofun
  next provider =>
  split
  · exact refusedBinding nofun
  next hevidence =>
  split
  · exact refusedBinding nofun
  next hfollows =>
  split
  · exact refusedBinding nofun
  next generation =>
  push Not at hbinding phase closed hevidence hfollows
  subst hbinding
  obtain ⟨binding, kind, observed, formed, reached, valid⟩ := hevidence
  exact .begin
    { noCandidate := by simpa using noCandidate
      phase := phase
      time := not_lt.mp htime
      closed := closed
      provider := provider
      binding := binding
      kind := kind
      observed := by simpa using observed
      formed := formed
      reached := reached
      valid := valid
      afterIdle := followsOldScope_newer hfollows.1
      afterOldScope := followsOldScope_newer hfollows.2
      generation := generation }

private theorem observeRebindReadiness_transition (e : BindingReadinessEvidence) :
    Transition s (.observeRebindReadiness e) (.evidence (s.observeRebindReadiness e).1)
      (s.observeRebindReadiness e).2 := by
  unfold observeRebindReadiness
  split
  · exact rejected
  next candidate hc =>
  split
  · exact rejected
  next hguard =>
  push Not at hguard
  split
  · exact rejected
  next index slot =>
  split
  · exact rejected
  next formed =>
  rw [not_not] at formed
  have target : ReadinessTarget s candidate e index := ⟨hc, hguard.1, hguard.2, slot, formed⟩
  split
  · next d fact hcompare =>
    obtain ⟨hd, rfl⟩ | ⟨rfl, p, hp, hseq, hdiff, rfl⟩ := candidateCompare_some hcompare
    · rw [setReadiness_self hc]
      exact .noEffect hd
    · exact .readinessConflict target hp hseq hdiff
  · next hnone =>
    split
    · exact rejected
    · next valid =>
      exact .readiness target (candidateCompare_none hnone) (not_le.mp valid)

private theorem commitRebind_transition (b : BindingIdentity) (now : MonotonicTime) :
    Transition s (.commitRebind b now) (.binding (s.commitRebind b now).1)
      (s.commitRebind b now).2 := by
  unfold commitRebind
  split
  · exact refusedBinding nofun
  split
  · exact refusedBinding nofun
  split
  · split
    · exact refusedBinding nofun
    · exact refusedBinding nofun
  next candidate hc =>
  split
  · exact refusedBinding nofun
  next hb =>
  split
  · exact refusedBinding nofun
  split
  · exact refusedBinding nofun
  next committable =>
  rw [not_not] at hb committable
  subst hb
  exact .commit hc committable

/-! ### Operations -/

private theorem admit_transition (request : OperationRequest) :
    Transition s (.admitRequest request) (.admission (s.admitRequest request).1)
      (s.admitRequest request).2 := by
  unfold AuthorityGate.admitRequest
  split
  · exact refusedAdmission nofun
  split
  · exact refusedAdmission nofun
  next hrequest =>
  split
  · exact refusedAdmission nofun
  next hdeadline =>
  split
  · exact refusedAdmission nofun
  next hready =>
  split
  · exact refusedAdmission nofun
  next hclosed =>
  split
  · exact refusedAdmission nofun
  next htime =>
  split
  · exact refusedAdmission nofun
  next hstartup =>
  split
  · exact refusedAdmission nofun
  next hsupported =>
  push Not at hrequest hdeadline hready hclosed htime hstartup hsupported
  obtain ⟨capability, domain, -, -, control, unexhausted⟩ := hrequest
  exact .admission
    { capability := capability
      domain := domain
      control := control
      unexhausted := unexhausted
      early := hdeadline
      phase := hready.1
      ready := hready.2
      closed := hclosed
      time := htime
      startup := hstartup
      required := fun h ↦ Option.isSome_iff_ne_none.mpr (hsupported.1 h)
      supported := hsupported.2 }

/-- A refused call, or the assignment that its receipt passed all guards of. -/
private theorem operationOf {a : Answer} {authority : OperationAuthority}
    {r r' : OperationReceipt} (hr : s.matchingReceipt authority = some r)
    (step : authority = r.authority → OperationStep s c a r r') :
    Transition s c a { s with currentReceipt := some r' } := by
  obtain ⟨present, rfl, bound⟩ := matchingReceipt_eq_some.mp hr
  exact .operation present bound (step rfl)

private theorem claimDispatch_transition (authority : OperationAuthority) (t : MonotonicTime) :
    Transition s (.claimDispatch authority t) (.dispatch (s.claimDispatch authority t).1)
      (s.claimDispatch authority t).2 := by
  unfold claimDispatch
  split
  · exact .noEffect rfl
  next r hr =>
  split
  · exact .noEffect rfl
  next hguard =>
  push Not at hguard
  obtain ⟨phase, ready, admitted, pending, unrevoked, early, supported⟩ := hguard
  apply operationOf hr
  rintro rfl
  exact .claim phase ready admitted pending unrevoked early supported

private theorem requestCancel_transition (authority : OperationAuthority) (t : MonotonicTime) :
    Transition s (.requestCancel authority t) (.control (s.requestCancel authority t).1)
      (s.requestCancel authority t).2 := by
  unfold requestCancel
  split
  · exact refusedControl nofun
  next r hr =>
  split
  · exact refusedControl nofun
  next unreleased =>
  split
  · exact refusedControl nofun
  next time =>
  split
  · exact refusedControl nofun
  next first =>
  apply operationOf hr
  rintro rfl
  exact .cancel unreleased (not_lt.mp time) (by simpa using first)

private theorem observeTime_transition (authority : OperationAuthority) (t : MonotonicTime) :
    Transition s (.observeTime authority t) (.control (s.observeTime authority t).1)
      (s.observeTime authority t).2 := by
  unfold observeTime
  split
  · exact refusedControl nofun
  next r hr =>
  split
  · exact refusedControl nofun
  next unreleased =>
  split
  · exact refusedControl nofun
  next time =>
  split
  · exact refusedControl nofun
  next first =>
  split
  · exact refusedControl nofun
  next due =>
  apply operationOf hr
  rintro rfl
  exact .expire unreleased (not_lt.mp time) (by simpa using first) (not_not.mp due)

private theorem observeStopAcknowledgement_transition (e : StopAcknowledgementEvidence) :
    Transition s (.observeStopAcknowledgement e)
      (.evidence (s.observeStopAcknowledgement e).1) (s.observeStopAcknowledgement e).2 := by
  unfold observeStopAcknowledgement
  split
  · exact rejected
  next r hr =>
  split
  · exact rejected
  next requestedAt requested =>
  split
  · exact rejected
  next formed =>
  split
  · exact rejected
  next kind =>
  split
  · exact verdict
  next first =>
  split
  · exact rejected
  next unreleased =>
  push Not at kind
  exact operationOf hr fun authority ↦
    .acknowledge authority requested (not_not.mp formed) kind first unreleased

private theorem observeNonSubmission_transition (e : NonSubmissionEvidence) :
    Transition s (.observeNonSubmission e) (.evidence (s.observeNonSubmission e).1)
      (s.observeNonSubmission e).2 := by
  unfold observeNonSubmission
  split
  · exact rejected
  next r hr =>
  split
  · exact rejected
  next formed =>
  split
  · exact rejected
  next dispatched =>
  split
  · exact verdict
  next unmarked =>
  split
  · exact rejected
  next hguard =>
  push Not at formed dispatched hguard
  obtain ⟨-, hobserved⟩ := hguard
  simp only [Bool.not_eq_true, Option.isSome_eq_false_iff, Option.isNone_iff_eq_none]
    at hobserved
  exact operationOf hr fun authority ↦
    .notSubmitted authority (authority ▸ formed) dispatched unmarked hobserved

private theorem nativeCompare_none {r : OperationReceipt} {e : NativeEvidence}
    (h : s.compareNative r e = none) : Newer e.record s.lastNativeRecord := by
  intro previous hp
  rw [Option.mem_def] at hp
  simp only [compareNative, hp] at h
  split at h
  · cases h
  · split at h
    · cases h
    · grind

private theorem nativeCompare_some {r : OperationReceipt} {e : NativeEvidence}
    {d : EvidenceDisposition} (h : s.compareNative r e = some d) : d ≠ .accepted := by
  unfold compareNative at h
  grind

private theorem observeNative_transition (e : NativeEvidence) :
    Transition s (.observeNative e) (.evidence (s.observeNative e).1)
      (s.observeNative e).2 := by
  unfold observeNative
  split
  · exact rejected
  next r hr =>
  split
  · exact rejected
  next hguard =>
  split
  · next d hd => exact .noEffect (nativeCompare_some hd)
  next hnone =>
  split
  · exact rejected
  next consistent =>
  split
  · exact rejected
  next d applied switch =>
  push Not at hguard
  obtain ⟨named, submitted, formed⟩ := hguard
  obtain ⟨present, authority, bound⟩ := matchingReceipt_eq_some.mp hr
  exact .native present bound
    { authority := authority
      named := named
      submitted := submitted
      formed := formed
      newer := nativeCompare_none hnone
      consistent := consistent
      switch := switch }

private theorem observeOutputAccepted_transition (e : OutputEvidence) :
    Transition s (.observeOutputAccepted e) (.evidence (s.observeOutputAccepted e).1)
      (s.observeOutputAccepted e).2 := by
  unfold observeOutputAccepted
  split
  · exact rejected
  next r hr =>
  split
  · exact rejected
  next hguard =>
  split
  · exact verdict
  split
  · exact rejected
  next hdeliver =>
  split
  · exact rejected
  next follows =>
  push Not at hguard hdeliver follows
  obtain ⟨named, formed⟩ := hguard
  obtain ⟨⟨hw, hp, receipt, hreceipt, unrevoked, succeeded, pending⟩, early⟩ := hdeliver
  rw [Option.mem_def, hr, Option.some.injEq] at hreceipt
  subst hreceipt
  exact operationOf hr fun authority ↦
    .acceptOutput authority ⟨hw, hp⟩ named (authority ▸ formed) unrevoked succeeded pending
      early follows

private theorem observeOutputNotDelivered_transition (e : OutputNonDeliveryEvidence) :
    Transition s (.observeOutputNotDelivered e)
      (.evidence (s.observeOutputNotDelivered e).1) (s.observeOutputNotDelivered e).2 := by
  unfold observeOutputNotDelivered
  split
  · exact rejected
  next r hr =>
  split
  · exact rejected
  next source prerequisite rests =>
  split
  · exact rejected
  next formed =>
  split
  · exact verdict
  split
  · exact rejected
  next hguard =>
  push Not at hguard
  exact operationOf hr fun authority ↦
    .withholdOutput authority rests (not_not.mp formed) hguard.1 hguard.2

private theorem observeSettlement_transition (e : SettlementEvidence) :
    Transition s (.observeSettlement e) (.evidence (s.observeSettlement e).1)
      (s.observeSettlement e).2 := by
  unfold observeSettlement
  split
  · exact rejected
  next r hr =>
  split
  · exact rejected
  next hscope =>
  split
  · exact verdict
  next unsettled =>
  split
  · exact rejected
  next hpermits =>
  split
  · exact rejected
  next hfollows =>
  split
  · exact rejected
  next resolved =>
  push Not at hscope hpermits hfollows
  exact operationOf hr fun authority ↦
    .settle authority hscope.1 (authority ▸ hscope.2) unsettled (by simpa using hpermits.1)
      hpermits.2 hfollows.1 hfollows.2 (not_not.mp resolved)

/-- Every call makes a transition. -/
theorem call_transition (s : AuthorityGate) (c : Call) :
    Transition s c (s.call c).1 (s.call c).2 := by
  cases c with
  | observeStartup e => exact observeStartup_transition e
  | startupStatus => exact .noEffect trivial
  | observeExecutionCapabilities e => exact observeExecutionCapabilities_transition e
  | supportsExecution q t => exact .noEffect trivial
  | bindingStatus t => exact .noEffect trivial
  | withdrawBinding b now => exact withdrawBinding_transition b now
  | beginRebind b providerId e now => exact beginRebind_transition b providerId e now
  | observeRebindReadiness e => exact observeRebindReadiness_transition e
  | commitRebind b now => exact commitRebind_transition b now
  | admitRequest request => exact admit_transition request
  | claimDispatch authority t => exact claimDispatch_transition authority t
  | requestCancel authority t => exact requestCancel_transition authority t
  | observeTime authority t => exact observeTime_transition authority t
  | observeStopAcknowledgement e => exact observeStopAcknowledgement_transition e
  | observeNonSubmission e => exact observeNonSubmission_transition e
  | observeNative e => exact observeNative_transition e
  | canDeliverResult authority => exact .noEffect trivial
  | observeOutputAccepted e => exact observeOutputAccepted_transition e
  | observeOutputNotDelivered e => exact observeOutputNotDelivered_transition e
  | observeSettlement e => exact observeSettlement_transition e
  | receipt authority => exact .noEffect trivial
  | closeAdmission => exact .close

end AuthorityGate

/-- Every step of the gate machine is a transition. -/
theorem gate_transition (s : AuthorityGate) (c : Call) :
    Transition s c (gate.answer s c) (gate.next s c) :=
  AuthorityGate.call_transition s c

/-- The effect of a transition on the current receipt. -/
theorem Transition.receiptEffect {s s' : AuthorityGate} {c : Call} {a : Answer}
    (step : Transition s c a s') : ReceiptEffect s c a s' := by
  cases step with
  | startup =>
    rename_i e index _ _ _ _ _ _ _
    obtain ⟨_, _, _, _, -, heq⟩ := s.recordStartup_eq index e
    exact .kept (by rw [heq])
  | withdrawCurrent noCandidate opened unwithdrawn time present bound unreleased =>
    exact .changed present bound (.withdraw noCandidate opened unwithdrawn time unreleased) rfl
  | admission guard => exact .admitted rfl guard rfl rfl
  | operation present bound step => exact .changed present bound (.operation step) rfl
  | native present bound step => exact .changed present bound (.native step) rfl
  | noEffect | capabilities | candidateCapabilities | capabilitiesConflict | discard
  | withdrawIdle | begin | readiness | readinessConflict | commit | close => exact .kept rfl

/-! ### The guards suffice -/

section
variable {s : AuthorityGate} {c : Call} {a : Answer} {r r' : OperationReceipt}

/-- The guards of an assignment suffice: the call makes it and gives its answer. -/
theorem OperationStep.call_eq (present : s.currentReceipt = some r)
    (bound : r.authority.binding = s.config.binding) (step : OperationStep s c a r r') :
    s.call c = (a, { s with currentReceipt := some r' }) := by
  have hmatching : s.matchingReceipt r.authority = some r :=
    AuthorityGate.matchingReceipt_eq_some.mpr ⟨present, rfl, bound⟩
  cases step with
  | @claim _ t phase ready admitted pending unrevoked early supported =>
    have hsupported : ¬ ∃ q ∈ r.executionRequirements, ¬ s.supportsExecution q t := by
      push Not
      exact supported
    simp [AuthorityGate.call, AuthorityGate.claimDispatch, hmatching, phase, ready,
      not_lt.mpr admitted, pending, unrevoked, early, -Option.mem_def, hsupported]
  | cancel unreleased time first =>
    simp [AuthorityGate.call, AuthorityGate.requestCancel, hmatching, unreleased,
      not_lt.mpr time, first]
  | expire unreleased time first due =>
    simp [AuthorityGate.call, AuthorityGate.observeTime, hmatching, unreleased,
      not_lt.mpr time, first, due]
  | acknowledge authority requested formed kind first unreleased =>
    rw [← authority] at hmatching
    simp [AuthorityGate.call, AuthorityGate.observeStopAcknowledgement, hmatching, requested,
      formed, kind, first, unreleased]
  | @notSubmitted _ e authority formed dispatched unmarked unobserved =>
    rw [← authority] at hmatching formed
    obtain ⟨haccepted, hrejected, hstarted, hsuccess, hfailure⟩ := unobserved
    have hsent : ¬ (r.dispatch ≠ .pending ∧ r.dispatch ≠ .submitted) := by
      cases hd : r.dispatch <;> simp_all
    have hearly : ¬ (r.dispatch = .submitted ∧
        ¬ ∃ t ∈ r.dispatchedAt, t ≤ e.record.observedAt) := by
      push Not
      exact dispatched
    simp only [AuthorityGate.call, AuthorityGate.observeNonSubmission, hmatching,
      not_not.mpr formed, if_neg hearly, if_neg unmarked, hsent, haccepted, hrejected,
      hstarted, hsuccess, hfailure]
    rfl
  | @acceptOutput _ e authority phase named formed unrevoked succeeded pending early follows =>
    rw [← authority] at hmatching formed
    have hdeliver : s.canDeliverResult e.authority :=
      ⟨phase.1, phase.2, r, hmatching, unrevoked, succeeded, pending⟩
    have hearly : ¬ ∀ t ∈ r.nativeSuccessEvidence, e.record.observedAt < t.observedAt := by
      push Not
      exact follows
    simp only [AuthorityGate.call, AuthorityGate.observeOutputAccepted, hmatching, named,
      not_not.mpr formed, pending, not_not.mpr hdeliver, early, if_neg hearly]
    rfl
  | withholdOutput authority rests formed pending follows =>
    rw [← authority] at hmatching
    simp only [AuthorityGate.call, AuthorityGate.observeOutputNotDelivered, hmatching, rests,
      not_not.mpr formed, pending, not_not.mpr follows]
    rfl
  | settle authority scope formed unsettled permits disposed time follows resolved =>
    rw [← authority] at hmatching formed
    simp [AuthorityGate.call, AuthorityGate.observeSettlement, hmatching, scope, formed,
      unsettled, permits, disposed, not_lt.mpr time, follows, resolved]

/-- The same for a native event that reaches the receipt. -/
theorem NativeStep.call_eq {e : NativeEvidence} {d : EvidenceDisposition}
    {applied : OperationReceipt} (present : s.currentReceipt = some r)
    (bound : r.authority.binding = s.config.binding) (step : NativeStep s e d r applied) :
    s.call (.observeNative e) =
      (.evidence d,
        { s with
          currentReceipt := some applied.deriveNativeOutcome.refreshAuthorityDisposition
          lastNativeRecord := some e.record
          lastNativeKind := some e.kind }) := by
  have hmatching : s.matchingReceipt e.authority = some r :=
    AuthorityGate.matchingReceipt_eq_some.mpr ⟨present, step.authority, bound⟩
  have hcompare : s.compareNative r e = none := by
    unfold AuthorityGate.compareNative
    split
    · rfl
    · next record hrecord =>
      obtain ⟨hsequence, htime⟩ := step.newer record hrecord
      have hnewer : ¬ (e.record.sequence < record.sequence ∨
          e.record.observedAt < record.observedAt) := by
        rintro (h | h)
        · exact lt_asymm h hsequence
        · exact not_lt.mpr htime h
      rw [if_neg hnewer, if_neg hsequence.ne']
  simp [AuthorityGate.call, AuthorityGate.observeNative, hmatching, step.named,
    step.submitted, step.formed, hcompare, step.consistent, step.switch]

end

end RobotHarness
