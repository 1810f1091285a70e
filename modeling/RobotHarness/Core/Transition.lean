import RobotHarness.Core.Run

/-!
# What one call can do

The inversion of `AuthorityGate.call`: a call is answered without effect and leaves the
gate as it was, or it passed all guards of one assignment of the source. Every invariant
is proved from these cases and none unfolds an operation again.
-/

namespace RobotHarness

/-- The answer reports that the call changed nothing: evidence that is not newly accepted,
a control that is not applied, and every query. -/
def Answer.NoEffect : Answer → Prop
  | .evidence disposition => disposition ≠ .accepted
  | .binding decision => decision.status ≠ .applied ∧ decision.nativeStopAuthority = none
  | .admission decision => decision.status ≠ .admitted
  | .dispatch claimed => claimed = false
  | .control decision => decision.status ≠ .applied ∧ decision.shouldRequestNativeStop = false
  | .closed => False
  | _ => True

/-- The retained record, if any, is older in sequence and not later in time. -/
def Newer (record : EvidenceRecord) (retained : Option EvidenceRecord) : Prop :=
  ∀ previous ∈ retained,
    previous.sequence < record.sequence ∧ previous.observedAt ≤ record.observedAt

/-- The retained record, if any, has reached the sequence number. -/
def Reached (sequence : UInt64) (retained : Option EvidenceRecord) : Prop :=
  ∃ record ∈ retained, sequence ≤ record.sequence

/-- A newer record has a sequence number that was not reached. -/
theorem Newer.reached {sequence : UInt64} {record : EvidenceRecord}
    {retained : Option EvidenceRecord} (h : Newer record retained)
    (hreached : Reached sequence retained) : sequence < record.sequence := by
  obtain ⟨previous, hprevious, hle⟩ := hreached
  exact hle.trans_lt (h previous hprevious).1

/-- The assignments that change the current receipt and nothing else. -/
inductive OperationStep (s : AuthorityGate) :
    Call → Answer → OperationReceipt → OperationReceipt → Prop where
  | claim {r : OperationReceipt} {t : MonotonicTime}
      (phase : s.bindingPhase = .active) (ready : s.initializationState = .ready)
      (admitted : r.authority.admittedAt ≤ t) (pending : r.dispatch = .pending)
      (unrevoked : ¬ r.isRevoked) (early : ¬ r.hasReachedDeadline t)
      (supported : ∀ q ∈ r.executionRequirements, s.supportsExecution q t) :
      OperationStep s (.claimDispatch r.authority t) (.dispatch true) r (r.claim t)
  | cancel {r : OperationReceipt} {t : MonotonicTime}
      (unreleased : r.authorityDisposition ≠ .released) (time : r.latestTime ≤ t)
      (first : r.cancellationRequestedAt = none) :
      OperationStep s (.requestCancel r.authority t) (.control ((r.cancelAt t).revoke t).1) r
        ((r.cancelAt t).revoke t).2
  | expire {r : OperationReceipt} {t : MonotonicTime}
      (unreleased : r.authorityDisposition ≠ .released) (time : r.latestTime ≤ t)
      (first : r.expiryObservedAt = none) (due : r.hasReachedDeadline t) :
      OperationStep s (.observeTime r.authority t) (.control ((r.expireAt t).revoke t).1) r
        ((r.expireAt t).revoke t).2
  | acknowledge {r : OperationReceipt} {e : StopAcknowledgementEvidence} {t : MonotonicTime}
      (authority : e.authority = r.authority) (requested : r.nativeStopRequestedAt = some t)
      (formed : isRecordWellFormed e.record s.config.stopEvidenceSource t)
      (kind : e.acknowledgement ≠ .notRequested ∧ e.acknowledgement ≠ .pending)
      (first : r.stopAcknowledgementEvidence = none)
      (unreleased : r.authorityDisposition ≠ .released) :
      OperationStep s (.observeStopAcknowledgement e) (.evidence .accepted) r
        (r.acknowledgeStop e)
  | notSubmitted {r : OperationReceipt} {e : NonSubmissionEvidence}
      (authority : e.authority = r.authority)
      (formed : isRecordWellFormed e.record s.config.settlementEvidenceSource
        r.authority.admittedAt)
      (dispatched : r.dispatch = .submitted →
        ∃ t ∈ r.dispatchedAt, t ≤ e.record.observedAt)
      (unmarked : r.dispatch ≠ .notSubmitted)
      (unobserved : r.nativeAcceptanceEvidence = none ∧ r.nativeRejectionEvidence = none ∧
        r.nativeStartedEvidence = none ∧ r.nativeSuccessEvidence = none ∧
        r.nativeFailureEvidence = none) :
      OperationStep s (.observeNonSubmission e) (.evidence .accepted) r
        (r.markNotSubmitted e.record)
  | acceptOutput {r : OperationReceipt} {e : OutputEvidence}
      (authority : e.authority = r.authority)
      (phase : s.bindingPhase ≠ .withdrawn ∧ s.bindingPhase ≠ .preparing)
      (named : e.resultReference ≠ "")
      (formed : isRecordWellFormed e.record s.config.resultSinkObserver
        r.authority.admittedAt)
      (unrevoked : ¬ r.isRevoked) (succeeded : r.nativeOutcome = .succeeded)
      (pending : r.output = .pending) (early : ¬ r.hasReachedDeadline e.record.observedAt)
      (follows : ∃ success ∈ r.nativeSuccessEvidence,
        success.observedAt ≤ e.record.observedAt) :
      OperationStep s (.observeOutputAccepted e) (.evidence .accepted) r (r.acceptOutput e)
  | withholdOutput {r : OperationReceipt} {e : OutputNonDeliveryEvidence} {source : String}
      {prerequisite : EvidenceRecord} (authority : e.authority = r.authority)
      (rests : s.nonDeliveryPrerequisite r e = some (source, prerequisite))
      (formed : isRecordWellFormed e.record source prerequisite.observedAt)
      (pending : r.output = .pending)
      (follows : OperationReceipt.followsSameSourceRecords e.record r) :
      OperationStep s (.observeOutputNotDelivered e) (.evidence .accepted) r
        (r.withholdOutput e)
  | settle {r : OperationReceipt} {e : SettlementEvidence}
      (authority : e.authority = r.authority) (scope : e.scope = s.config.settlementScope)
      (formed : isRecordWellFormed e.record s.config.settlementEvidenceSource
        r.authority.admittedAt)
      (unsettled : r.settlement ≠ .settled) (permits : e.permitsSameDomainAdmission = true)
      (disposed : r.output ≠ .pending) (time : r.latestEffectTime ≤ e.record.observedAt)
      (follows : OperationReceipt.followsSameSourceRecords e.record r)
      (resolved : r.hasResolvedEffects) :
      OperationStep s (.observeSettlement e) (.evidence .accepted) r (r.settle e)

/-- The guards of a native event that reaches the receipt, with the switch's result. -/
structure NativeStep (s : AuthorityGate) (e : NativeEvidence) (d : EvidenceDisposition)
    (r applied : OperationReceipt) : Prop where
  authority : e.authority = r.authority
  named : e.nativeIdentity ≠ ""
  submitted : r.dispatch = .submitted
  formed : isRecordWellFormed e.record s.config.nativeEvidenceSource (r.dispatchedAt.getD 0)
  newer : Newer e.record s.lastNativeRecord
  consistent : ¬ AuthorityGate.nativeContradicts r e
  switch : r.applyNativeEvent e = some (d, applied)

/-- The guards that a candidate's observation passes before it is compared. -/
structure CapabilityTarget (s : AuthorityGate) (c : Candidate) (e : ExecutionCapabilities) :
    Prop where
  candidate : s.candidate = some c
  phase : s.bindingPhase = .preparing
  binding : e.binding = c.binding
  configured : s.config.executionCapabilityObserver ≠ ""
  formed : isRecordWellFormed e.record s.config.executionCapabilityObserver c.preparedAt

/-- The same guards for a readiness observation, with its slot. -/
structure ReadinessTarget (s : AuthorityGate) (c : Candidate) (e : BindingReadinessEvidence)
    (index : Fin 3) : Prop where
  candidate : s.candidate = some c
  phase : s.bindingPhase = .preparing
  binding : e.binding = c.binding
  slot : s.config.readinessIndex e.kind = some index
  formed : isRecordWellFormed e.record (s.config.readinessSource index) c.preparedAt

/-- The content that accepted capabilities have. -/
def CapabilityContent (s : AuthorityGate) (e : ExecutionCapabilities) : Prop :=
  e.capabilityId = s.config.capabilityId ∧ e.profileId ≠ "" ∧ e.maximumWorkUnits ≠ 0 ∧
    e.record.observedAt < e.validUntil

/-- The guards of `begin_rebind`. -/
structure BeginGuard (s : AuthorityGate) (providerId : String)
    (e : BindingReadinessEvidence) (now : MonotonicTime) : Prop where
  noCandidate : s.candidate = none
  phase : s.bindingPhase = .withdrawn
  time : s.latestBindingTime ≤ now
  closed : s.oldWorkClosed
  provider : providerId ≠ ""
  binding : e.binding = s.config.binding
  kind : e.kind = .bindingIdleAndSettled
  observed : e.observed = true
  formed : isRecordWellFormed e.record s.config.bindingObserver s.oldScopeEarliest
  reached : e.record.observedAt ≤ now
  valid : now < e.validUntil
  afterIdle : Newer e.record s.bindingIdle.record
  afterOldScope : Newer e.record s.lastOldScopeRecord
  generation : s.generationHighWater ≠ 0xFFFFFFFFFFFFFFFF

/-- The next generation does not wrap. -/
theorem BeginGuard.generation_lt {s : AuthorityGate} {providerId : String}
    {e : BindingReadinessEvidence} {now : MonotonicTime} (guard : BeginGuard s providerId e now) :
    s.generationHighWater < s.generationHighWater + 1 := by
  have := guard.generation
  grind

/-- The guards of `admit`. -/
structure AdmitGuard (s : AuthorityGate) (request : OperationRequest) : Prop where
  capability : request.capabilityId = s.config.capabilityId
  domain : request.effectDomain = s.config.binding.effectDomain
  control : s.lastBindingControlAt ≤ request.requestedAt
  unexhausted : s.nextOperationId ≠ 0
  early : ∀ deadline ∈ request.deadline, request.requestedAt < deadline
  phase : s.bindingPhase = .active
  ready : s.initializationState = .ready
  closed : s.oldWorkClosed
  time : ∀ r ∈ s.currentReceipt, r.latestTime ≤ request.requestedAt
  startup : ∀ index, ∀ record ∈ (s.startupFact index).record,
    record.observedAt ≤ request.requestedAt
  required : s.config.executionCapabilityObserver ≠ "" →
    request.executionRequirements.isSome
  supported : ∀ q ∈ request.executionRequirements, s.supportsExecution q request.requestedAt

namespace AuthorityGate

/-- The authority of the next admission. -/
def nextAuthority (s : AuthorityGate) (request : OperationRequest) : OperationAuthority :=
  { operationId := s.nextOperationId
    binding := s.config.binding
    admittedAt := request.requestedAt }

/-- The state after an admission. -/
def admitted (s : AuthorityGate) (request : OperationRequest) : AuthorityGate :=
  { s with
    nextOperationId := s.nextOperationId + 1
    currentReceipt := some (newReceipt (s.nextAuthority request) request)
    lastNativeRecord := none
    lastNativeKind := none }

/-- The binding state after a withdrawal, before its receipt is looked at. -/
def withdrawn (s : AuthorityGate) (now : MonotonicTime) : AuthorityGate :=
  { s with
    lastBindingControlAt := now
    initializationState := .recoveryRequired
    bindingPhase := .withdrawn }

/-- The state after `begin_rebind`. -/
def prepared (s : AuthorityGate) (providerId : String) (e : BindingReadinessEvidence)
    (now : MonotonicTime) : AuthorityGate :=
  { s with
    candidate := some (s.newCandidate providerId e now)
    lastOldScopeRecord := some e.record
    generationHighWater := s.generationHighWater + 1
    lastBindingControlAt := now
    bindingPhase := .preparing }

end AuthorityGate

/-- What a call can do to a gate. -/
inductive Transition (s : AuthorityGate) : Call → Answer → AuthorityGate → Prop where
  | noEffect {c : Call} {a : Answer} (h : a.NoEffect) : Transition s c a s
  | startup {e : StartupEvidence} {index : Fin 3}
      (phase : s.bindingPhase = .active) (opened : s.initializationState ≠ .closed)
      (unused : s.currentReceipt = none) (binding : e.binding = s.config.binding)
      (slot : s.config.startupIndex e.kind = some index)
      (formed : isRecordWellFormed e.record (s.config.readinessSource index)
        s.config.startedAt)
      (newer : Newer e.record (s.startupFact index).record) :
      Transition s (.observeStartup e) (.evidence .accepted) (s.recordStartup index e)
  | capabilities {e : ExecutionCapabilities} (opened : s.initializationState ≠ .closed)
      (configured : s.config.executionCapabilityObserver ≠ "")
      (binding : e.binding = s.config.binding) (content : CapabilityContent s e)
      (formed : isRecordWellFormed e.record s.config.executionCapabilityObserver
        s.config.startedAt)
      (newer : Newer e.record (s.executionCapabilities.map (·.record))) :
      Transition s (.observeExecutionCapabilities e) (.evidence .accepted)
        { s with executionCapabilities := some e }
  | candidateCapabilities {c : Candidate} {e : ExecutionCapabilities}
      (target : CapabilityTarget s c e) (content : CapabilityContent s e)
      (newer : Newer e.record (c.capabilities.evidence.map (·.record))) :
      Transition s (.observeExecutionCapabilities e) (.evidence .accepted)
        { s with candidate := some { c with capabilities := ⟨some e, false⟩ } }
  | capabilitiesConflict {c : Candidate} {e p : ExecutionCapabilities}
      (target : CapabilityTarget s c e) (retained : c.capabilities.evidence = some p)
      (sequence : e.record.sequence = p.record.sequence)
      (differs : ¬ capabilitiesIdentical e p) :
      Transition s (.observeExecutionCapabilities e) (.evidence .rejected)
        { s with
          candidate := some
            { c with
              capabilities :=
                ⟨some (Observation.withObservedAt p
                  (max p.record.observedAt e.record.observedAt)), true⟩ } }
  | discard {c : Candidate} {now : MonotonicTime} (candidate : s.candidate = some c)
      (opened : s.bindingPhase ≠ .closed) (time : s.latestBindingTime ≤ now) :
      Transition s (.withdrawBinding c.binding now) (.binding { status := .applied })
        { s.withdrawn now with candidate := none }
  | withdrawIdle {now : MonotonicTime} (noCandidate : s.candidate = none)
      (opened : s.bindingPhase ≠ .closed) (unwithdrawn : s.bindingPhase ≠ .withdrawn)
      (time : s.latestBindingTime ≤ now)
      (settled : ∀ r ∈ s.currentReceipt,
        r.authority.binding = s.config.binding → r.isReleasable) :
      Transition s (.withdrawBinding s.config.binding now) (.binding { status := .applied })
        { s.withdrawn now with withdrawnAt := some now }
  | withdrawCurrent {r : OperationReceipt} {now : MonotonicTime}
      (noCandidate : s.candidate = none) (opened : s.bindingPhase ≠ .closed)
      (unwithdrawn : s.bindingPhase ≠ .withdrawn) (time : s.latestBindingTime ≤ now)
      (present : s.currentReceipt = some r)
      (bound : r.authority.binding = s.config.binding) (unreleased : ¬ r.isReleasable) :
      Transition s (.withdrawBinding s.config.binding now)
        (.binding
          { status := .applied
            nativeStopAuthority :=
              if ((r.withdrawAt now).revoke now).1.shouldRequestNativeStop then
                some r.authority else none })
        { s.withdrawn now with
          withdrawnAt := some now
          currentReceipt := some ((r.withdrawAt now).revoke now).2 }
  | begin {providerId : String} {e : BindingReadinessEvidence} {now : MonotonicTime}
      (guard : BeginGuard s providerId e now) :
      Transition s (.beginRebind s.config.binding providerId e now)
        (.binding
          { status := .applied
            candidate := some (s.newCandidate providerId e now).binding })
        (s.prepared providerId e now)
  | readiness {c : Candidate} {e : BindingReadinessEvidence} {index : Fin 3}
      (target : ReadinessTarget s c e index)
      (newer : Newer e.record ((c.readiness index).evidence.map (·.record)))
      (valid : e.record.observedAt < e.validUntil) :
      Transition s (.observeRebindReadiness e) (.evidence .accepted)
        (s.setReadiness c index ⟨some e, false⟩)
  | readinessConflict {c : Candidate} {e p : BindingReadinessEvidence} {index : Fin 3}
      (target : ReadinessTarget s c e index)
      (retained : (c.readiness index).evidence = some p)
      (sequence : e.record.sequence = p.record.sequence)
      (differs : ¬ readinessIdentical e p) :
      Transition s (.observeRebindReadiness e) (.evidence .rejected)
        (s.setReadiness c index
          ⟨some (Observation.withObservedAt p
            (max p.record.observedAt e.record.observedAt)), true⟩)
  | commit {c : Candidate} {now : MonotonicTime} (candidate : s.candidate = some c)
      (committable : s.canCommit now) :
      Transition s (.commitRebind c.binding now) (.binding { status := .applied })
        (s.committed c now)
  | admission {request : OperationRequest} (guard : AdmitGuard s request) :
      Transition s (.admitRequest request)
        (.admission { status := .admitted, authority := some (s.nextAuthority request) })
        (s.admitted request)
  | operation {c : Call} {a : Answer} {r r' : OperationReceipt}
      (present : s.currentReceipt = some r)
      (bound : r.authority.binding = s.config.binding) (step : OperationStep s c a r r') :
      Transition s c a { s with currentReceipt := some r' }
  | native {e : NativeEvidence} {d : EvidenceDisposition} {r applied : OperationReceipt}
      (present : s.currentReceipt = some r)
      (bound : r.authority.binding = s.config.binding) (step : NativeStep s e d r applied) :
      Transition s (.observeNative e) (.evidence d)
        { s with
          currentReceipt := some applied.deriveNativeOutcome.refreshAuthorityDisposition
          lastNativeRecord := some e.record
          lastNativeKind := some e.kind }
  | close : Transition s .closeAdmission .closed s.closeAdmission

/-- A change of the current receipt, with the call that makes it. -/
inductive ReceiptStep (s : AuthorityGate) :
    Call → Answer → OperationReceipt → OperationReceipt → Prop where
  | operation {c : Call} {a : Answer} {r r' : OperationReceipt}
      (step : OperationStep s c a r r') : ReceiptStep s c a r r'
  | native {e : NativeEvidence} {d : EvidenceDisposition} {r applied : OperationReceipt}
      (step : NativeStep s e d r applied) :
      ReceiptStep s (.observeNative e) (.evidence d) r
        applied.deriveNativeOutcome.refreshAuthorityDisposition
  | withdraw {r : OperationReceipt} {now : MonotonicTime} (noCandidate : s.candidate = none)
      (opened : s.bindingPhase ≠ .closed) (unwithdrawn : s.bindingPhase ≠ .withdrawn)
      (time : s.latestBindingTime ≤ now) (unreleased : ¬ r.isReleasable) :
      ReceiptStep s (.withdrawBinding s.config.binding now)
        (.binding
          { status := .applied
            nativeStopAuthority :=
              if ((r.withdrawAt now).revoke now).1.shouldRequestNativeStop then
                some r.authority else none })
        r ((r.withdrawAt now).revoke now).2

/-- What a call does to the current receipt: nothing, a fresh one, or a change. -/
inductive ReceiptEffect (s : AuthorityGate) (c : Call) (a : Answer) (s' : AuthorityGate) :
    Prop where
  | kept (h : s'.currentReceipt = s.currentReceipt)
  | admitted {request : OperationRequest} (call : c = .admitRequest request)
      (guard : AdmitGuard s request)
      (answer : a = .admission
        { status := .admitted, authority := some (s.nextAuthority request) })
      (state : s' = s.admitted request)
  | changed {r r' : OperationReceipt} (present : s.currentReceipt = some r)
      (bound : r.authority.binding = s.config.binding) (step : ReceiptStep s c a r r')
      (after : s'.currentReceipt = some r')

end RobotHarness
