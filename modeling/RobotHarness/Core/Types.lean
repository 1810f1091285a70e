/-!
# Values of the authority gate

The public values of `include/robot_harness/authority_gate.hpp`: identities,
evidence, requests, decisions and the operation receipt. Times, sequence numbers,
generations and operation ids are the source's 64-bit words, with their wrap.
-/

namespace RobotHarness

/-- `MonotonicTime`: an unsigned 64-bit reading of a monotone clock. -/
abbrev MonotonicTime := UInt64

/-- `OperationId`: an unsigned 64-bit counter value. -/
abbrev OperationId := UInt64

/-- One generation of a provider bound to an effect domain. -/
structure BindingIdentity where
  providerId : String
  effectDomain : String
  compositionRevision : UInt64 := 0
  providerGeneration : UInt64 := 0
  deriving DecidableEq, Repr

/-- Who observed something, when, and at which position of its own stream. -/
structure EvidenceRecord where
  source : String
  observedAt : MonotonicTime := 0
  sequence : UInt64 := 0
  deriving DecidableEq, Repr

/-- How far the startup of the gate has come. -/
inductive InitializationState where
  | recoveryRequired | ready | closed
  deriving DecidableEq, Repr

/-- What a startup observation is about. -/
inductive StartupEvidenceKind where
  | bindingIdleAndSettled | workerReady | resultSinkReady | adapterReady
  deriving DecidableEq, Repr

/-- A startup observation of a binding. -/
structure StartupEvidence where
  kind : StartupEvidenceKind := .bindingIdleAndSettled
  binding : BindingIdentity
  record : EvidenceRecord
  observed : Bool := false
  deriving DecidableEq, Repr

/-- What the gate says of its startup. -/
structure StartupStatus where
  state : InitializationState := .recoveryRequired
  binding : BindingIdentity
  isBindingIdleAndSettled : Bool := false
  isWorkerReady : Bool := false
  isResultSinkReady : Bool := false
  bindingIdleAndSettled : Option EvidenceRecord := none
  workerReady : Option EvidenceRecord := none
  resultSinkReady : Option EvidenceRecord := none
  isAdapterReady : Bool := false
  adapterReady : Option EvidenceRecord := none
  deriving DecidableEq, Repr

/-- The workload an operation will consume, under a named profile. -/
structure ExecutionRequirements where
  profileId : String
  workUnits : UInt64 := 0
  deriving DecidableEq, Repr

/-- The workload a binding offers until `validUntil`, which is exclusive. -/
structure ExecutionCapabilities where
  binding : BindingIdentity
  capabilityId : String
  profileId : String
  maximumWorkUnits : UInt64 := 0
  available : Bool := false
  record : EvidenceRecord
  validUntil : MonotonicTime := 0
  deriving DecidableEq, Repr

/-- What is asked of an operation. -/
structure OperationRequest where
  capabilityId : String
  effectDomain : String
  opaqueRequestReference : String
  targetReference : String
  requestedAt : MonotonicTime := 0
  deadline : Option MonotonicTime := none
  executionRequirements : Option ExecutionRequirements := none
  deriving DecidableEq, Repr

/-- The identity of one admitted operation, under the binding that admitted it. -/
structure OperationAuthority where
  operationId : OperationId := 0
  binding : BindingIdentity
  admittedAt : MonotonicTime := 0
  deriving DecidableEq, Repr

/-- How a binding stands with the gate. -/
inductive BindingPhase where
  | active | withdrawn | preparing | closed
  deriving DecidableEq, Repr

/-- The answer to a control of the binding. -/
inductive BindingControlStatus where
  | applied | alreadyInPhase | staleIdentity | wrongPhase | unresolvedWork
  | invalidEvidence | invalidTime | invalidProvider | identityExhausted | closed
  deriving DecidableEq, Repr

/-- A readiness observation, valid until the exclusive `validUntil`. -/
structure BindingReadinessEvidence where
  kind : StartupEvidenceKind := .bindingIdleAndSettled
  binding : BindingIdentity
  record : EvidenceRecord
  observed : Bool := false
  validUntil : MonotonicTime := 0
  deriving DecidableEq, Repr

/-- The answer to a control of the binding, with the candidate that it prepares and the operation
that it stops. -/
structure BindingDecision where
  status : BindingControlStatus := .wrongPhase
  candidate : Option BindingIdentity := none
  nativeStopAuthority : Option OperationAuthority := none
  deriving DecidableEq, Repr

/-- What the gate says of its binding. -/
structure BindingStatus where
  phase : BindingPhase := .active
  active : BindingIdentity
  candidate : Option BindingIdentity := none
  canCommit : Bool := false
  deriving DecidableEq, Repr

/-- The answer to a request for admission. -/
inductive AdmissionStatus where
  | admitted | invalidRequest | expired | recoveryRequired | domainOccupied | closed
  | capabilitiesUnavailable
  deriving DecidableEq, Repr

/-- The answer to a request for admission, with the authority of an admitted operation. -/
structure AdmissionDecision where
  status : AdmissionStatus := .invalidRequest
  authority : Option OperationAuthority := none
  deriving DecidableEq, Repr

/-- What the gate does with evidence. -/
inductive EvidenceDisposition where
  | accepted | duplicate | rejected
  deriving DecidableEq, Repr

/-- What a native event says of an operation. -/
inductive NativeEventKind where
  | accepted | rejected | started | terminalSucceeded | terminalFailed | terminalCancelled
  deriving DecidableEq, Repr

/-- A native event of an operation. -/
structure NativeEvidence where
  authority : OperationAuthority
  nativeIdentity : String
  kind : NativeEventKind := .accepted
  record : EvidenceRecord
  deriving DecidableEq, Repr

/-- The delivery of an output. -/
structure OutputEvidence where
  authority : OperationAuthority
  resultReference : String
  record : EvidenceRecord
  deriving DecidableEq, Repr

/-- The record that an operation was never submitted. -/
structure NonSubmissionEvidence where
  authority : OperationAuthority
  record : EvidenceRecord
  deriving DecidableEq, Repr

/-- Why an output was not delivered. -/
inductive OutputNonDeliveryReason where
  | noOutputProduced | sinkRejected | authorityRevoked
  deriving DecidableEq, Repr

/-- The record that an output was not delivered. -/
structure OutputNonDeliveryEvidence where
  authority : OperationAuthority
  reason : OutputNonDeliveryReason := .noOutputProduced
  resultReference : String
  record : EvidenceRecord
  deriving DecidableEq, Repr

/-- The record that settles an operation. -/
structure SettlementEvidence where
  authority : OperationAuthority
  scope : String
  permitsSameDomainAdmission : Bool := false
  record : EvidenceRecord
  deriving DecidableEq, Repr

/-- Whether an operation was handed out. -/
inductive DispatchStatus where
  | pending | submitted | notSubmitted
  deriving DecidableEq, Repr

/-- How the native side answered an operation. -/
inductive NativeAcceptance where
  | pending | accepted | rejected
  deriving DecidableEq, Repr

/-- How an operation ended on the native side. -/
inductive NativeOutcome where
  | pending | notExecuted | succeeded | failed | cancelled | unknown
  deriving DecidableEq, Repr

/-- What became of the output of an operation. -/
inductive OutputDisposition where
  | pending | accepted | notDelivered
  deriving DecidableEq, Repr

/-- Whether an operation is settled. -/
inductive SettlementStatus where
  | pending | settled
  deriving DecidableEq, Repr

/-- What the domain says of an operation, which the gate does not decide. -/
inductive DomainVerdict where
  | unassessed
  deriving DecidableEq, Repr

/-- Whether the authority of an operation is still held. -/
inductive AuthorityDisposition where
  | current | revoked | released | blockedUnknown
  deriving DecidableEq, Repr

/-- The answer to a control of an operation. -/
inductive ControlStatus where
  | applied | alreadyRequested | noActiveOperation | notDue | rejected
  deriving DecidableEq, Repr

/-- The answer to a control of an operation, and whether a native stop has to be requested. -/
structure ControlDecision where
  status : ControlStatus := .rejected
  shouldRequestNativeStop : Bool := false
  deriving DecidableEq, Repr

/-- How the native side answered a stop. -/
inductive StopAcknowledgement where
  | notRequested | pending | acknowledged | refused | unavailable
  deriving DecidableEq, Repr

/-- The answer of the native side to a stop. -/
structure StopAcknowledgementEvidence where
  authority : OperationAuthority
  acknowledgement : StopAcknowledgement := .unavailable
  record : EvidenceRecord
  deriving DecidableEq, Repr

/-- All that the gate knows of one operation. -/
structure OperationReceipt where
  authority : OperationAuthority
  dispatch : DispatchStatus := .pending
  nativeAcceptance : NativeAcceptance := .pending
  nativeStarted : Bool := false
  nativeOutcome : NativeOutcome := .pending
  observedNativeSuccess : Bool := false
  observedNativeFailure : Bool := false
  observedNativeCancellation : Bool := false
  output : OutputDisposition := .pending
  settlement : SettlementStatus := .pending
  domainVerdict : DomainVerdict := .unassessed
  authorityDisposition : AuthorityDisposition := .current
  dispatchedAt : Option MonotonicTime := none
  cancellationRequestedAt : Option MonotonicTime := none
  deadline : Option MonotonicTime := none
  expiryObservedAt : Option MonotonicTime := none
  bindingWithdrawnAt : Option MonotonicTime := none
  nativeStopRequestedAt : Option MonotonicTime := none
  stopAcknowledgement : StopAcknowledgement := .notRequested
  nativeIdentity : String := ""
  resultReference : String := ""
  settlementScope : String := ""
  outputNonDeliveryReason : Option OutputNonDeliveryReason := none
  nonSubmissionEvidence : Option EvidenceRecord := none
  nativeAcceptanceEvidence : Option EvidenceRecord := none
  nativeRejectionEvidence : Option EvidenceRecord := none
  nativeStartedEvidence : Option EvidenceRecord := none
  nativeSuccessEvidence : Option EvidenceRecord := none
  nativeFailureEvidence : Option EvidenceRecord := none
  nativeCancellationEvidence : Option EvidenceRecord := none
  stopAcknowledgementEvidence : Option EvidenceRecord := none
  outputEvidence : Option EvidenceRecord := none
  outputNonDeliveryEvidence : Option EvidenceRecord := none
  settlementEvidence : Option EvidenceRecord := none
  executionRequirements : Option ExecutionRequirements := none
  deriving DecidableEq, Repr

/-- The static identities and evidence sources of one gate. -/
structure AuthorityGateConfig where
  binding : BindingIdentity
  capabilityId : String
  bindingObserver : String
  workerObserver : String
  resultSinkObserver : String
  nativeEvidenceSource : String
  settlementEvidenceSource : String
  settlementScope : String
  startedAt : MonotonicTime := 0
  stopEvidenceSource : String := "native-stop"
  readinessKind : StartupEvidenceKind := .workerReady
  executionCapabilityObserver : String := ""
  deriving DecidableEq, Repr

end RobotHarness
