import RobotHarness.Core.History

/-!
# Receipts only grow

A receipt is a ledger of one operation: as long as it is current, no call takes back or replaces a
record, a time, an identity or a decision that was entered before.
-/

namespace RobotHarness

namespace OperationReceipt

/-- The slots for evidence records, in the order of `receipt_records`. -/
def recordSlots : List (OperationReceipt → Option EvidenceRecord) :=
  [nativeAcceptanceEvidence, nativeRejectionEvidence, nativeStartedEvidence, nativeSuccessEvidence,
    nativeFailureEvidence, outputEvidence, nonSubmissionEvidence, outputNonDeliveryEvidence,
    settlementEvidence, nativeCancellationEvidence, stopAcknowledgementEvidence]

/-- The slots for times. -/
def timeSlots : List (OperationReceipt → Option MonotonicTime) :=
  [dispatchedAt, cancellationRequestedAt, expiryObservedAt, bindingWithdrawnAt,
    nativeStopRequestedAt]

/-- All that the receipt says is said by the other one. -/
structure ExtendedBy (r r' : OperationReceipt) : Prop where
  authority : r'.authority = r.authority
  deadline : r'.deadline = r.deadline
  requirements : r'.executionRequirements = r.executionRequirements
  records : ∀ slot ∈ recordSlots, ∀ record ∈ slot r, record ∈ slot r'
  times : ∀ slot ∈ timeSlots, ∀ time ∈ slot r, time ∈ slot r'
  identity : r.nativeIdentity ≠ "" → r'.nativeIdentity = r.nativeIdentity
  output : r.output ≠ .pending → r'.output = r.output ∧
    r'.resultReference = r.resultReference ∧
    r'.outputNonDeliveryReason = r.outputNonDeliveryReason
  settlement : r.settlement = .settled → r'.settlement = .settled ∧
    r'.settlementScope = r.settlementScope
  response : r.stopAcknowledgementEvidence.isSome →
    r'.stopAcknowledgement = r.stopAcknowledgement

namespace ExtendedBy

variable {r r' r'' : OperationReceipt}

private theorem refl (r : OperationReceipt) : ExtendedBy r r := by
  constructor <;> simp

private theorem trans (h : ExtendedBy r r') (h' : ExtendedBy r' r'') : ExtendedBy r r'' := by
  constructor
  · exact h'.authority.trans h.authority
  · exact h'.deadline.trans h.deadline
  · exact h'.requirements.trans h.requirements
  · intro slot hslot record hrecord
    exact h'.records slot hslot record (h.records slot hslot record hrecord)
  · intro slot hslot time htime
    exact h'.times slot hslot time (h.times slot hslot time htime)
  · intro hidentity
    have hkept := h.identity hidentity
    rw [← hkept] at hidentity
    exact (h'.identity hidentity).trans hkept
  · intro houtput
    obtain ⟨hkept, hreference, hreason⟩ := h.output houtput
    rw [← hkept] at houtput
    obtain ⟨hkept', hreference', hreason'⟩ := h'.output houtput
    exact ⟨hkept'.trans hkept, hreference'.trans hreference, hreason'.trans hreason⟩
  · intro hsettled
    obtain ⟨hkept, hscope⟩ := h.settlement hsettled
    obtain ⟨hkept', hscope'⟩ := h'.settlement hkept
    exact ⟨hkept', hscope'.trans hscope⟩
  · intro hresponse
    have hslot : ∃ record, r.stopAcknowledgementEvidence = some record :=
      Option.isSome_iff_exists.mp hresponse
    obtain ⟨record, hrecord⟩ := hslot
    have hkept := h.records stopAcknowledgementEvidence (by simp [recordSlots]) record hrecord
    have hsome : r'.stopAcknowledgementEvidence.isSome :=
      Option.isSome_iff_exists.mpr ⟨record, hkept⟩
    exact (h'.response hsome).trans (h.response hresponse)

end ExtendedBy

/-! ### Entries -/

variable {r : OperationReceipt}

/-- Receipts with the same entries. -/
structure SameEntries (r r' : OperationReceipt) : Prop where
  authority : r'.authority = r.authority
  deadline : r'.deadline = r.deadline
  requirements : r'.executionRequirements = r.executionRequirements
  records : recordSlots.map (· r') = recordSlots.map (· r)
  times : timeSlots.map (· r') = timeSlots.map (· r)
  identity : r'.nativeIdentity = r.nativeIdentity
  output : r'.output = r.output ∧ r'.resultReference = r.resultReference ∧
    r'.outputNonDeliveryReason = r.outputNonDeliveryReason
  settlement : r'.settlement = r.settlement ∧ r'.settlementScope = r.settlementScope
  response : r'.stopAcknowledgement = r.stopAcknowledgement

private theorem SameEntries.extends {r r' : OperationReceipt} (h : SameEntries r r') :
    ExtendedBy r r' := by
  constructor
  · exact h.authority
  · exact h.deadline
  · exact h.requirements
  · intro slot hslot record hrecord
    rwa [List.map_inj_left.mp h.records slot hslot]
  · intro slot hslot time htime
    rwa [List.map_inj_left.mp h.times slot hslot]
  · intro _
    exact h.identity
  · intro _
    exact h.output
  · intro hsettled
    exact ⟨h.settlement.1.trans hsettled, h.settlement.2⟩
  · intro _
    exact h.response

/-- The disposition is no entry of the ledger. -/
theorem ExtendedBy.refresh {r' : OperationReceipt} (h : ExtendedBy r r') :
    ExtendedBy r r'.refreshAuthorityDisposition := by
  have hsame : SameEntries r' r'.refreshAuthorityDisposition := by
    constructor <;> first | rfl | exact ⟨rfl, rfl, rfl⟩ | exact ⟨rfl, rfl⟩
  exact h.trans hsame.extends

/-- The outcome is no entry of the ledger, but what is observed of it is. -/
theorem ExtendedBy.derive {r' : OperationReceipt} (h : ExtendedBy r r') :
    ExtendedBy r r'.deriveNativeOutcome := by
  have hsame : SameEntries r' r'.deriveNativeOutcome := by
    rw [deriveNativeOutcome_eq]
    constructor <;> first | rfl | exact ⟨rfl, rfl, rfl⟩ | exact ⟨rfl, rfl⟩
  exact h.trans hsame.extends

/-- A stop is requested once. -/
theorem extendedBy_requestStop (r : OperationReceipt) (hs : r.Sequenced) (t : MonotonicTime) :
    ExtendedBy r (r.requestStop t) := by
  unfold requestStop
  split
  · rename_i hstop
    obtain ⟨-, -, hnone⟩ := hstop
    have hunanswered : r.stopAcknowledgementEvidence = none := by
      cases hevidence : r.stopAcknowledgementEvidence with
      | none => rfl
      | some record =>
        have hrequested := hs.acknowledged (by rw [hevidence]; rfl)
        rw [hnone] at hrequested
        cases hrequested
    constructor <;> simp [recordSlots, timeSlots, hnone, hunanswered]
  · exact .refl r

end OperationReceipt

/-- What a native event enters was not entered before. -/
theorem NativeStep.extends {s : AuthorityGate} {e : NativeEvidence} {d : EvidenceDisposition}
    {r applied : OperationReceipt} (step : NativeStep s e d r applied) (h : r.Integrity) :
    r.ExtendedBy applied := by
  have hunnamed : r.nativeAcceptance = .pending → r.nativeIdentity = "" := by
    intro hpending
    by_contra hnamed
    exact h.sequenced.identified.mpr hnamed hpending
  have hunstarted : e.kind = .started → d = .accepted → r.nativeStartedEvidence = none := by
    intro hkind hd
    have hswitch := step.switch
    cases hevidence : r.nativeStartedEvidence with
    | none => rfl
    | some record =>
      have hstarted := h.recorded.started.mpr (by rw [hevidence]; rfl)
      simp only [OperationReceipt.applyNativeEvent, hkind, hstarted, hd] at hswitch
      split at hswitch <;> cases hswitch
  cases step.change with
  | repeated => exact .refl r
  | accepted kind pending =>
    have hnone : r.nativeAcceptanceEvidence = none := by
      rw [← Option.not_isSome_iff_eq_none, ← h.recorded.accepted, pending]
      decide
    constructor <;>
      simp [OperationReceipt.recordSlots, OperationReceipt.timeSlots, hnone, hunnamed pending]
  | rejected kind pending =>
    have hnone : r.nativeRejectionEvidence = none := by
      rw [← Option.not_isSome_iff_eq_none, ← h.recorded.rejected, pending]
      decide
    constructor <;>
      simp [OperationReceipt.recordSlots, OperationReceipt.timeSlots, hnone, hunnamed pending]
  | started kind running =>
    constructor <;>
      simp [OperationReceipt.recordSlots, OperationReceipt.timeSlots, hunstarted kind rfl]
  | succeeded kind running first =>
    have hnone : r.nativeSuccessEvidence = none := by
      rw [← Option.not_isSome_iff_eq_none, ← h.recorded.success, first]
      decide
    constructor <;> simp [OperationReceipt.recordSlots, OperationReceipt.timeSlots, hnone]
  | failed kind running first =>
    have hnone : r.nativeFailureEvidence = none := by
      rw [← Option.not_isSome_iff_eq_none, ← h.recorded.failure, first]
      decide
    constructor <;> simp [OperationReceipt.recordSlots, OperationReceipt.timeSlots, hnone]
  | cancelled kind running first =>
    have hnone : r.nativeCancellationEvidence = none := by
      rw [← Option.not_isSome_iff_eq_none, ← h.recorded.cancellation, first]
      decide
    constructor <;> simp [OperationReceipt.recordSlots, OperationReceipt.timeSlots, hnone]

namespace OperationReceipt

/-- A revocation that was not recorded before is entered, with the stop it may request. -/
theorem ExtendedBy.revoke {r r' : OperationReceipt} (h : ExtendedBy r r') (hs : r'.Sequenced)
    (t : MonotonicTime) : ExtendedBy r (r'.revoke t).2 := by
  rw [revoke_snd]
  exact (h.trans (extendedBy_requestStop r' hs t)).refresh

end OperationReceipt

/-- What an operation enters was not entered before. -/
theorem OperationStep.extends {s : AuthorityGate} {c : Call} {a : Answer}
    {r r' : OperationReceipt} (step : OperationStep s c a r r') (h : r.Integrity)
    (hunclaimed : r.dispatch = .pending → r.dispatchedAt = none) : r.ExtendedBy r' := by
  cases step with
  | claim _ _ _ pending =>
    constructor <;>
      simp [OperationReceipt.recordSlots, OperationReceipt.timeSlots, OperationReceipt.claim,
        hunclaimed pending]
  | cancel _ _ first =>
    apply OperationReceipt.ExtendedBy.revoke
    · constructor <;>
        simp [OperationReceipt.recordSlots, OperationReceipt.timeSlots, OperationReceipt.cancelAt,
          first]
    · exact h.sequenced.cancelAt _
  | expire _ _ first =>
    apply OperationReceipt.ExtendedBy.revoke
    · constructor <;>
        simp [OperationReceipt.recordSlots, OperationReceipt.timeSlots, OperationReceipt.expireAt,
          first]
    · exact h.sequenced.expireAt _
  | acknowledge _ _ _ _ first =>
    constructor <;>
      simp [OperationReceipt.recordSlots, OperationReceipt.timeSlots,
        OperationReceipt.acknowledgeStop, first]
  | notSubmitted _ _ _ unmarked =>
    have hnone : r.nonSubmissionEvidence = none := by
      rw [← Option.not_isSome_iff_eq_none, ← h.recorded.notSubmitted]
      exact unmarked
    apply OperationReceipt.ExtendedBy.refresh
    constructor <;> simp [OperationReceipt.recordSlots, OperationReceipt.timeSlots, hnone]
  | acceptOutput _ _ _ _ _ _ pending =>
    have hnone : r.outputEvidence = none := by
      rw [← Option.not_isSome_iff_eq_none, ← h.recorded.delivered, pending]
      decide
    apply OperationReceipt.ExtendedBy.refresh
    constructor <;> simp [OperationReceipt.recordSlots, OperationReceipt.timeSlots, hnone, pending]
  | withholdOutput _ _ _ pending =>
    have hnone : r.outputNonDeliveryEvidence = none := by
      rw [← Option.not_isSome_iff_eq_none, ← h.recorded.withheld, pending]
      decide
    apply OperationReceipt.ExtendedBy.refresh
    constructor <;> simp [OperationReceipt.recordSlots, OperationReceipt.timeSlots, hnone, pending]
  | settle _ _ _ unsettled =>
    have hnone : r.settlementEvidence = none := by
      rw [← Option.not_isSome_iff_eq_none, ← h.recorded.settled]
      exact unsettled
    apply OperationReceipt.ExtendedBy.refresh
    constructor <;>
      simp [OperationReceipt.recordSlots, OperationReceipt.timeSlots, hnone, unsettled]

/-- What a change of the receipt enters was not entered before. -/
theorem ReceiptStep.extends {s : AuthorityGate} {c : Call} {a : Answer}
    {r r' : OperationReceipt} (step : ReceiptStep s c a r r') (h : r.Integrity)
    (hunclaimed : r.dispatch = .pending → r.dispatchedAt = none)
    (hunwithdrawn : s.candidate = none → s.bindingPhase ≠ .closed →
      s.bindingPhase ≠ .withdrawn → r.bindingWithdrawnAt = none) : r.ExtendedBy r' := by
  cases step with
  | operation step => exact step.extends h hunclaimed
  | native step => exact (step.extends h).derive.refresh
  | withdraw noCandidate opened unwithdrawn =>
    have hnone := hunwithdrawn noCandidate opened unwithdrawn
    apply OperationReceipt.ExtendedBy.revoke
    · constructor <;>
        simp [OperationReceipt.recordSlots, OperationReceipt.timeSlots,
          OperationReceipt.withdrawAt, hnone]
    · exact h.sequenced.withdrawAt _

/-! ### Runs -/

/-- The dispatch and the withdrawal of the current operation are entered no earlier than they
happen. -/
structure AuthorityGate.Unentered (s : AuthorityGate) : Prop where
  unclaimed : ∀ r ∈ s.currentReceipt, r.dispatch = .pending → r.dispatchedAt = none
  unwithdrawn : ∀ r ∈ s.currentReceipt, r.authority.binding = s.config.binding →
    s.bindingPhase = .active → r.bindingWithdrawnAt = none

/-- A change of the receipt that is no claim leaves the time of the dispatch. -/
theorem ReceiptStep.unclaimed {s : AuthorityGate} {c : Call} {a : Answer}
    {r r' : OperationReceipt} (step : ReceiptStep s c a r r')
    (h : r.dispatch = .pending → r.dispatchedAt = none) :
    r'.dispatch = .pending → r'.dispatchedAt = none := by
  cases step with
  | native step =>
    rw [step.frame.dispatch, step.frame.dispatchedAt]
    exact h
  | withdraw =>
    rw [OperationReceipt.revoke_eq]
    exact h
  | operation step =>
    cases step with
    | cancel | expire =>
      rw [OperationReceipt.revoke_eq]
      exact h
    | claim =>
      intro hpending
      cases hpending
    | notSubmitted =>
      intro hpending
      cases hpending
    | acknowledge | acceptOutput | withholdOutput | settle => exact h

/-- Only a withdrawal enters the time of one. -/
theorem OperationStep.bindingWithdrawnAt_eq {s : AuthorityGate} {c : Call} {a : Answer}
    {r r' : OperationReceipt} (step : OperationStep s c a r r') :
    r'.bindingWithdrawnAt = r.bindingWithdrawnAt := by
  cases step with
  | cancel | expire =>
    rw [OperationReceipt.revoke_eq]
    rfl
  | claim | acknowledge | notSubmitted | acceptOutput | withholdOutput | settle => rfl

namespace AuthorityGate.Unentered

variable {s : AuthorityGate}

private theorem start (config : AuthorityGateConfig) : (initial config).Unentered := by
  constructor
  · intro r hr
    cases hr
  · intro r hr
    cases hr

/-- Outside of the active phase only the dispatch counts. -/
theorem of_inactive {s' : AuthorityGate} (h : s.Unentered)
    (hreceipt : s'.currentReceipt = s.currentReceipt) (hphase : s'.bindingPhase ≠ .active) :
    s'.Unentered := by
  constructor
  · rw [hreceipt]
    exact h.unclaimed
  · intro r _ _ hactive
    exact absurd hactive hphase

/-- A change of the receipt in the active phase, by a call other than a withdrawal. -/
theorem change (h : s.Unentered) {c : Call} {a : Answer} {r r' : OperationReceipt}
    (present : s.currentReceipt = some r) (step : ReceiptStep s c a r r')
    (hkept : r'.bindingWithdrawnAt = r.bindingWithdrawnAt) :
    Unentered { s with currentReceipt := some r' } := by
  constructor
  · intro q hq
    cases hq
    exact step.unclaimed (h.unclaimed r present)
  · intro q hq hbound hactive
    cases hq
    rw [hkept]
    rw [step.authority_eq] at hbound
    exact h.unwithdrawn r present hbound hactive

end AuthorityGate.Unentered

/-- No call enters the dispatch or the withdrawal early. -/
theorem Transition.unentered {s s' : AuthorityGate} {c : Call} {a : Answer}
    (step : Transition s c a s') (hs : s.Coherent) (h : s.Unentered) : s'.Unentered := by
  cases step with
  | noEffect | capabilities | candidateCapabilities | capabilitiesConflict | readiness
  | readinessConflict => exact ⟨h.unclaimed, h.unwithdrawn⟩
  | @startup e index =>
    obtain ⟨idle, ready, sink, initialization, -, heq⟩ := s.recordStartup_eq index e
    rw [heq]
    exact ⟨h.unclaimed, h.unwithdrawn⟩
  | discard | withdrawIdle | begin | close =>
    apply h.of_inactive
    · rfl
    · intro hactive
      cases hactive
  | withdrawCurrent noCandidate opened unwithdrawn time present bound unreleased =>
    have change := ReceiptStep.withdraw noCandidate opened unwithdrawn time unreleased
    constructor
    · intro q hq
      cases hq
      exact change.unclaimed (h.unclaimed _ present)
    · intro q _ _ hactive
      cases hactive
  | @commit candidate now present =>
    constructor
    · exact h.unclaimed
    · intro r hr hbound _
      -- the receipt is older than the candidate that takes over
      have hlater := (hs.candidateGeneration candidate present).1
      have hgeneration : r.authority.binding.providerGeneration =
          candidate.binding.providerGeneration :=
        congrArg BindingIdentity.providerGeneration hbound
      rw [← hgeneration] at hlater
      rcases hs.receiptBinding r hr with hsame | hearlier
      · rw [hsame] at hlater
        exact absurd hlater (lt_irrefl _)
      · exact absurd hlater (not_lt.mpr hearlier.le)
  | admission =>
    constructor
    · intro r hr _
      cases hr
      rfl
    · intro r hr _ _
      cases hr
      rfl
  | operation present _ step =>
    exact h.change present (.operation step) step.bindingWithdrawnAt_eq
  | native present _ step =>
    have hchange := h.change present (.native step) step.frame.bindingWithdrawnAt
    exact ⟨hchange.unclaimed, hchange.unwithdrawn⟩

/-- A gate without candidate that is neither withdrawn nor closed is active. -/
theorem AuthorityGate.Coherent.active {s : AuthorityGate} (hs : s.Coherent)
    (noCandidate : s.candidate = none) (opened : s.bindingPhase ≠ .closed)
    (unwithdrawn : s.bindingPhase ≠ .withdrawn) : s.bindingPhase = .active := by
  have hunprepared : s.bindingPhase ≠ .preparing := by
    intro hpreparing
    have hsome := hs.candidate.mpr hpreparing
    rw [noCandidate] at hsome
    cases hsome
  cases hphase : s.bindingPhase with
  | active => rfl
  | withdrawn => exact absurd hphase unwithdrawn
  | preparing => exact absurd hphase hunprepared
  | closed => exact absurd hphase opened

/-- A call extends what the receipt of an operation says, as long as it stays current. -/
theorem Transition.extends {s s' : AuthorityGate} {c : Call} {a : Answer}
    (step : Transition s c a s') (hs : s.Coherent) (hu : s.Unentered) {q : OperationReceipt}
    {id : OperationId} (h : s.Pinned id q.ExtendedBy) : s'.Pinned id q.ExtendedBy := by
  constructor
  · exact step.issued h.1
  intro r' hr' hid
  rw [Option.mem_def] at hr'
  cases step.receiptEffect with
  | kept hkept =>
    rw [hkept] at hr'
    exact h.2 r' hr' hid
  | admitted _ guard _ hstate =>
    subst hstate
    cases hr'
    have hnext : s.nextOperationId = id := hid
    exact absurd (hnext ▸ h.1) (AuthorityGate.not_issued_next guard.unexhausted)
  | @changed r _ present bound change after =>
    rw [after, Option.some.injEq] at hr'
    subst hr'
    have hsame : r.authority.operationId = id := by rw [← change.authority_eq, hid]
    apply (h.2 r present hsame).trans
    apply change.extends (hs.receipts r present)
    · exact hu.unclaimed r present
    · intro noCandidate opened unwithdrawn
      exact hu.unwithdrawn r present bound (hs.active noCandidate opened unwithdrawn)

namespace Run

variable (run : Run)

/-- The dispatch and the withdrawal are not entered early in any run. -/
theorem unentered_pre {h t : List GateEvent} {e : GateEvent} (heq : run.history = h ++ e :: t) :
    e.pre.Unentered := by
  apply run.history_rule_pre (Q := fun _ s ↦ s.Unentered) _ _ heq
  · exact AuthorityGate.Unentered.start run.config
  · intro _ s c a s' hs _ step hu
    exact step.unentered hs hu

/-- Once a receipt is seen, every later receipt of the same operation says all that it says. -/
theorem receipts_extend {h t : List GateEvent} {e : GateEvent}
    (heq : run.history = h ++ e :: t) {r : OperationReceipt}
    (hr : e.post.currentReceipt = some r) :
    (∀ r' ∈ run.final.currentReceipt,
      r'.authority.operationId = r.authority.operationId → r.ExtendedBy r') ∧
    ∀ d ∈ t, ∀ r' ∈ d.pre.currentReceipt,
      r'.authority.operationId = r.authority.operationId → r.ExtendedBy r' := by
  have hmem : e ∈ run.history := by simp [heq]
  obtain ⟨hpre, htransition⟩ := run.transition hmem
  have hunentered := htransition.unentered hpre (run.unentered_pre heq)
  have hpinned := (htransition.coherent hpre).pin hr (OperationReceipt.ExtendedBy.refl r)
  have hrule := run.stable_rule
    (P := fun s ↦ s.Unentered ∧ s.Pinned r.authority.operationId r.ExtendedBy)
    (fun s c a s' hs step hkept ↦
      ⟨step.unentered hs hkept.1, step.extends hs hkept.1 hkept.2⟩)
    heq ⟨hunentered, hpinned⟩
  constructor
  · exact hrule.1.2.2
  · intro d hd
    exact (hrule.2 d hd).2.2

/-- What the receipt of the test operation says at its dispatch is said at its end. -/
theorem receipts_extend_testOperation :
    ∃ r r', (testRun testDispatch).final.currentReceipt = some r ∧
      (testRun testOperation).final.currentReceipt = some r' ∧ r.ExtendedBy r' := by
  have hdispatched :
      (testRun testDispatch).final.currentReceipt.map (·.authority.operationId) = some 1 := by
    decide
  have hsettled :
      (testRun testOperation).final.currentReceipt.map (·.authority.operationId) = some 1 := by
    decide
  obtain ⟨r, hr, hid⟩ := Option.map_eq_some_iff.mp hdispatched
  obtain ⟨r', hr', hid'⟩ := Option.map_eq_some_iff.mp hsettled
  have heq : (testRun testOperation).history =
      (testRun (testDispatch.take 1)).history ++
        gate.event (testRun (testDispatch.take 1)).final (.claimDispatch testAuthority 14) ::
          gate.trace (testRun testDispatch).final (testOperation.drop 2) :=
    gate.trace_append _ (testStartup ++ testDispatch.take 1) _
  have hextends := (receipts_extend _ heq hr).1
  exact ⟨r, r', hr, hr', hextends r' hr' (hid'.trans hid.symm)⟩

end Run

end RobotHarness
