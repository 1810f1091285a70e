import RobotHarness.Core.Gate

/-!
# The operations of the authority gate on one operation

Admission, dispatch, revocation, evidence and closing of `src/core/authority_gate.cpp`.
-/

namespace RobotHarness.AuthorityGate

/-! ### Admission and dispatch -/

/-- The receipt of a freshly admitted request. -/
def newReceipt (authority : OperationAuthority) (request : OperationRequest) :
    OperationReceipt :=
  { authority := authority
    deadline := request.deadline
    executionRequirements := request.executionRequirements }

/-- `AuthorityGate::admit`. The id counter wraps to 0 after its last value, and 0 admits
nothing. -/
def admitRequest (state : AuthorityGate) (request : OperationRequest) :
    AdmissionDecision × AuthorityGate :=
  if state.initializationState = .closed then ({ status := .closed }, state)
  else if request.capabilityId ≠ state.config.capabilityId ∨
      request.effectDomain ≠ state.config.binding.effectDomain ∨
      request.opaqueRequestReference = "" ∨ request.targetReference = "" ∨
      request.requestedAt < state.lastBindingControlAt ∨ state.nextOperationId = 0 then
    ({ status := .invalidRequest }, state)
  else if ∃ deadline ∈ request.deadline, deadline ≤ request.requestedAt then
    ({ status := .expired }, state)
  else if state.bindingPhase ≠ .active ∨ state.initializationState ≠ .ready then
    ({ status := .recoveryRequired }, state)
  else if ¬ state.oldWorkClosed then ({ status := .domainOccupied }, state)
  else if ∃ receipt ∈ state.currentReceipt, request.requestedAt < receipt.latestTime then
    ({ status := .invalidRequest }, state)
  else if ∃ index, ∃ record ∈ (state.startupFact index).record,
      request.requestedAt < record.observedAt then
    ({ status := .invalidRequest }, state)
  else if (state.config.executionCapabilityObserver ≠ "" ∧
        request.executionRequirements = none) ∨
      ∃ requirements ∈ request.executionRequirements,
        ¬ state.supportsExecution requirements request.requestedAt then
    ({ status := .capabilitiesUnavailable }, state)
  else
    let authority : OperationAuthority :=
      { operationId := state.nextOperationId
        binding := state.config.binding
        admittedAt := request.requestedAt }
    ({ status := .admitted, authority := some authority },
      { state with
        nextOperationId := state.nextOperationId + 1
        currentReceipt := some (newReceipt authority request)
        lastNativeRecord := none
        lastNativeKind := none })

/-- `AuthorityGate::claim_dispatch`. -/
def claimDispatch (state : AuthorityGate) (authority : OperationAuthority)
    (observedAt : MonotonicTime) : Bool × AuthorityGate :=
  match state.matchingReceipt authority with
  | none => (false, state)
  | some receipt =>
    if state.bindingPhase ≠ .active ∨ state.initializationState ≠ .ready ∨
        observedAt < authority.admittedAt ∨ receipt.dispatch ≠ .pending ∨
        receipt.isRevoked ∨ receipt.hasReachedDeadline observedAt ∨
        ∃ requirements ∈ receipt.executionRequirements,
          ¬ state.supportsExecution requirements observedAt then
      (false, state)
    else (true, { state with currentReceipt := some (receipt.claim observedAt) })

/-! ### Revocation -/

/-- `AuthorityGate::request_cancel`. -/
def requestCancel (state : AuthorityGate) (authority : OperationAuthority)
    (observedAt : MonotonicTime) : ControlDecision × AuthorityGate :=
  match state.matchingReceipt authority with
  | none => (⟨.noActiveOperation, false⟩, state)
  | some receipt =>
    if receipt.authorityDisposition = .released then (⟨.noActiveOperation, false⟩, state)
    else if observedAt < receipt.latestTime then (⟨.rejected, false⟩, state)
    else if receipt.cancellationRequestedAt.isSome then (⟨.alreadyRequested, false⟩, state)
    else
      let (control, revoked) := (receipt.cancelAt observedAt).revoke observedAt
      (control, { state with currentReceipt := some revoked })

/-- `AuthorityGate::observe_time`. -/
def observeTime (state : AuthorityGate) (authority : OperationAuthority)
    (observedAt : MonotonicTime) : ControlDecision × AuthorityGate :=
  match state.matchingReceipt authority with
  | none => (⟨.noActiveOperation, false⟩, state)
  | some receipt =>
    if receipt.authorityDisposition = .released then (⟨.noActiveOperation, false⟩, state)
    else if observedAt < receipt.latestTime then (⟨.rejected, false⟩, state)
    else if receipt.expiryObservedAt.isSome then (⟨.alreadyRequested, false⟩, state)
    else if ¬ receipt.hasReachedDeadline observedAt then (⟨.notDue, false⟩, state)
    else
      let (control, revoked) := (receipt.expireAt observedAt).revoke observedAt
      (control, { state with currentReceipt := some revoked })

/-! ### Evidence -/

/-- `AuthorityGate::observe_stop_acknowledgement`. -/
def observeStopAcknowledgement (state : AuthorityGate)
    (evidence : StopAcknowledgementEvidence) : EvidenceDisposition × AuthorityGate :=
  match state.matchingReceipt evidence.authority with
  | none => (.rejected, state)
  | some receipt =>
    match receipt.nativeStopRequestedAt with
    | none => (.rejected, state)
    | some stopRequestedAt =>
      if ¬ isRecordWellFormed evidence.record state.config.stopEvidenceSource
          stopRequestedAt then
        (.rejected, state)
      else if evidence.acknowledgement = .notRequested ∨
          evidence.acknowledgement = .pending then
        (.rejected, state)
      else
        match receipt.stopAcknowledgementEvidence with
        | some record =>
          (if receipt.stopAcknowledgement = evidence.acknowledgement ∧
              recordsMatch record evidence.record then
            .duplicate else .rejected, state)
        | none =>
          if receipt.authorityDisposition = .released then (.rejected, state)
          else (.accepted, { state with currentReceipt := some (receipt.acknowledgeStop evidence) })

/-- `AuthorityGate::observe_non_submission`. Once any native record exists the work cannot
be called unsubmitted. -/
def observeNonSubmission (state : AuthorityGate) (evidence : NonSubmissionEvidence) :
    EvidenceDisposition × AuthorityGate :=
  match state.matchingReceipt evidence.authority with
  | none => (.rejected, state)
  | some receipt =>
    if ¬ isRecordWellFormed evidence.record state.config.settlementEvidenceSource
        evidence.authority.admittedAt then
      (.rejected, state)
    else if receipt.dispatch = .submitted ∧
        ¬ ∃ dispatchedAt ∈ receipt.dispatchedAt, dispatchedAt ≤ evidence.record.observedAt then
      (.rejected, state)
    else if receipt.dispatch = .notSubmitted then
      (if ∃ record ∈ receipt.nonSubmissionEvidence, recordsMatch record evidence.record then
        .duplicate else .rejected, state)
    else if (receipt.dispatch ≠ .pending ∧ receipt.dispatch ≠ .submitted) ∨
        receipt.nativeAcceptanceEvidence.isSome ∨ receipt.nativeRejectionEvidence.isSome ∨
        receipt.nativeStartedEvidence.isSome ∨ receipt.nativeSuccessEvidence.isSome ∨
        receipt.nativeFailureEvidence.isSome then
      (.rejected, state)
    else
      (.accepted, { state with currentReceipt := some (receipt.markNotSubmitted evidence.record) })

/-- The comparison of `observe_native` with the last native record; `none` lets the event
pass. -/
def compareNative (state : AuthorityGate) (receipt : OperationReceipt)
    (evidence : NativeEvidence) : Option EvidenceDisposition :=
  match state.lastNativeRecord with
  | none => none
  | some record =>
    if evidence.record.sequence < record.sequence ∨
        evidence.record.observedAt < record.observedAt then
      some .rejected
    else if evidence.record.sequence = record.sequence then
      some (if recordsMatch evidence.record record ∧
          state.lastNativeKind = some evidence.kind ∧
          evidence.nativeIdentity = receipt.nativeIdentity then
        .duplicate else .rejected)
    else none

/-- The identity and acceptance tests of `observe_native` on an event in sequence. -/
def nativeContradicts (receipt : OperationReceipt) (evidence : NativeEvidence) : Prop :=
  (receipt.nativeIdentity ≠ "" ∧ receipt.nativeIdentity ≠ evidence.nativeIdentity) ∨
    (receipt.nativeIdentity = "" ∧ evidence.kind ≠ .accepted ∧ evidence.kind ≠ .rejected) ∨
    (receipt.nativeAcceptance = .rejected ∧ evidence.kind ≠ .rejected) ∨
    (receipt.nativeAcceptance = .accepted ∧ evidence.kind = .rejected)
  deriving Decidable

/-- `AuthorityGate::observe_native`. A repeated kind in a new record answers `duplicate`
and still advances the last native record. -/
def observeNative (state : AuthorityGate) (evidence : NativeEvidence) :
    EvidenceDisposition × AuthorityGate :=
  match state.matchingReceipt evidence.authority with
  | none => (.rejected, state)
  | some receipt =>
    if evidence.nativeIdentity = "" ∨ receipt.dispatch ≠ .submitted ∨
        ¬ isRecordWellFormed evidence.record state.config.nativeEvidenceSource
          (receipt.dispatchedAt.getD 0) then
      (.rejected, state)
    else
      match state.compareNative receipt evidence with
      | some disposition => (disposition, state)
      | none =>
        if nativeContradicts receipt evidence then (.rejected, state)
        else
          match receipt.applyNativeEvent evidence with
          | none => (.rejected, state)
          | some (disposition, applied) =>
            (disposition,
              { state with
                currentReceipt := some applied.deriveNativeOutcome.refreshAuthorityDisposition
                lastNativeRecord := some evidence.record
                lastNativeKind := some evidence.kind })

/-- `AuthorityGate::can_deliver_result`. -/
def canDeliverResult (state : AuthorityGate) (authority : OperationAuthority) : Prop :=
  state.bindingPhase ≠ .withdrawn ∧ state.bindingPhase ≠ .preparing ∧
    ∃ receipt ∈ state.matchingReceipt authority,
      ¬ receipt.isRevoked ∧ receipt.nativeOutcome = .succeeded ∧ receipt.output = .pending
  deriving Decidable

/-- `AuthorityGate::observe_output_accepted`. -/
def observeOutputAccepted (state : AuthorityGate) (evidence : OutputEvidence) :
    EvidenceDisposition × AuthorityGate :=
  match state.matchingReceipt evidence.authority with
  | none => (.rejected, state)
  | some receipt =>
    if evidence.resultReference = "" ∨
        ¬ isRecordWellFormed evidence.record state.config.resultSinkObserver
          evidence.authority.admittedAt then
      (.rejected, state)
    else if receipt.output = .accepted then
      (if receipt.resultReference = evidence.resultReference ∧
          ∃ record ∈ receipt.outputEvidence, recordsMatch record evidence.record then
        .duplicate else .rejected, state)
    else if ¬ state.canDeliverResult evidence.authority ∨
        receipt.hasReachedDeadline evidence.record.observedAt then
      (.rejected, state)
    else if ∀ success ∈ receipt.nativeSuccessEvidence,
        evidence.record.observedAt < success.observedAt then
      (.rejected, state)
    else (.accepted, { state with currentReceipt := some (receipt.acceptOutput evidence) })

/-- The expected source and the prerequisite record of a non-delivery; `none` where
`observe_output_not_delivered` rejects or finds no prerequisite. -/
def nonDeliveryPrerequisite (state : AuthorityGate) (receipt : OperationReceipt)
    (evidence : OutputNonDeliveryEvidence) : Option (String × EvidenceRecord) :=
  match evidence.reason with
  | .noOutputProduced =>
    if evidence.resultReference ≠ "" then none
    else
      let prerequisite :=
        if receipt.dispatch = .notSubmitted then receipt.nonSubmissionEvidence
        else if receipt.nativeAcceptance = .rejected then receipt.nativeRejectionEvidence
        else if receipt.nativeAcceptance = .accepted ∧ receipt.nativeOutcome = .failed then
          receipt.nativeFailureEvidence
        else if receipt.nativeOutcome = .cancelled then receipt.nativeCancellationEvidence
        else none
      prerequisite.map fun record ↦ (state.config.settlementEvidenceSource, record)
  | .authorityRevoked =>
    if ¬ receipt.revocationPrecedes evidence.record.observedAt then none
    else sinkPrerequisite
  | .sinkRejected => sinkPrerequisite
where
  /-- The case that a revoked authority falls through to. -/
  sinkPrerequisite : Option (String × EvidenceRecord) :=
    if evidence.resultReference = "" ∨ receipt.nativeAcceptance ≠ .accepted ∨
        receipt.nativeOutcome ≠ .succeeded then
      none
    else
      receipt.nativeSuccessEvidence.map fun record ↦ (state.config.resultSinkObserver, record)

/-- `AuthorityGate::observe_output_not_delivered`. -/
def observeOutputNotDelivered (state : AuthorityGate) (evidence : OutputNonDeliveryEvidence) :
    EvidenceDisposition × AuthorityGate :=
  match state.matchingReceipt evidence.authority with
  | none => (.rejected, state)
  | some receipt =>
    match state.nonDeliveryPrerequisite receipt evidence with
    | none => (.rejected, state)
    | some (expectedSource, prerequisite) =>
      if ¬ isRecordWellFormed evidence.record expectedSource prerequisite.observedAt then
        (.rejected, state)
      else if receipt.output = .notDelivered then
        (if receipt.outputNonDeliveryReason = some evidence.reason ∧
            receipt.resultReference = evidence.resultReference ∧
            ∃ record ∈ receipt.outputNonDeliveryEvidence,
              recordsMatch record evidence.record then
          .duplicate else .rejected, state)
      else if receipt.output ≠ .pending ∨
          ¬ OperationReceipt.followsSameSourceRecords evidence.record receipt then
        (.rejected, state)
      else (.accepted, { state with currentReceipt := some (receipt.withholdOutput evidence) })

/-- `AuthorityGate::observe_settlement`. -/
def observeSettlement (state : AuthorityGate) (evidence : SettlementEvidence) :
    EvidenceDisposition × AuthorityGate :=
  match state.matchingReceipt evidence.authority with
  | none => (.rejected, state)
  | some receipt =>
    if evidence.scope ≠ state.config.settlementScope ∨
        ¬ isRecordWellFormed evidence.record state.config.settlementEvidenceSource
          evidence.authority.admittedAt then
      (.rejected, state)
    else if receipt.settlement = .settled then
      (if receipt.settlementScope = evidence.scope ∧
          (∃ record ∈ receipt.settlementEvidence, recordsMatch record evidence.record) ∧
          evidence.permitsSameDomainAdmission = true then
        .duplicate else .rejected, state)
    else if evidence.permitsSameDomainAdmission = false ∨ receipt.output = .pending then
      (.rejected, state)
    else if evidence.record.observedAt < receipt.latestEffectTime ∨
        ¬ OperationReceipt.followsSameSourceRecords evidence.record receipt then
      (.rejected, state)
    else if ¬ receipt.hasResolvedEffects then (.rejected, state)
    else (.accepted, { state with currentReceipt := some (receipt.settle evidence) })

/-! ### Reading and closing -/

/-- `AuthorityGate::receipt`: also of a binding that is no longer active. -/
def receipt (state : AuthorityGate) (authority : OperationAuthority) :
    Option OperationReceipt :=
  match state.currentReceipt with
  | none => none
  | some receipt => if authorityMatches receipt.authority authority then some receipt else none

/-- `AuthorityGate::close_admission`. -/
def closeAdmission (state : AuthorityGate) : AuthorityGate :=
  { state with initializationState := .closed, bindingPhase := .closed, candidate := none }

end RobotHarness.AuthorityGate
