import RobotHarness.Base.Mealy
import RobotHarness.Core.Operation

/-!
# Runs of the authority gate

Every public call of `AuthorityGate` as an input, its result as the answer, and the gate
as the machine of the two. A run is a configuration that the constructor accepts with a
finite sequence of calls.
-/

namespace RobotHarness

/-- A public call with its arguments. -/
inductive Call where
  | observeStartup (evidence : StartupEvidence)
  | startupStatus
  | observeExecutionCapabilities (capabilities : ExecutionCapabilities)
  | supportsExecution (requirements : ExecutionRequirements) (time : MonotonicTime)
  | bindingStatus (time : MonotonicTime)
  | withdrawBinding (expectedBinding : BindingIdentity) (now : MonotonicTime)
  | beginRebind (expectedOldBinding : BindingIdentity) (newProviderId : String)
      (oldScopeEvidence : BindingReadinessEvidence) (now : MonotonicTime)
  | observeRebindReadiness (evidence : BindingReadinessEvidence)
  | commitRebind (expectedCandidate : BindingIdentity) (now : MonotonicTime)
  | admitRequest (request : OperationRequest)
  | claimDispatch (authority : OperationAuthority) (observedAt : MonotonicTime)
  | requestCancel (authority : OperationAuthority) (observedAt : MonotonicTime)
  | observeTime (authority : OperationAuthority) (observedAt : MonotonicTime)
  | observeStopAcknowledgement (evidence : StopAcknowledgementEvidence)
  | observeNonSubmission (evidence : NonSubmissionEvidence)
  | observeNative (evidence : NativeEvidence)
  | canDeliverResult (authority : OperationAuthority)
  | observeOutputAccepted (evidence : OutputEvidence)
  | observeOutputNotDelivered (evidence : OutputNonDeliveryEvidence)
  | observeSettlement (evidence : SettlementEvidence)
  | receipt (authority : OperationAuthority)
  | closeAdmission
  deriving DecidableEq, Repr

/-- The result of a public call. -/
inductive Answer where
  | evidence (disposition : EvidenceDisposition)
  | startup (status : StartupStatus)
  | supported (supported : Bool)
  | bindingStatus (status : BindingStatus)
  | binding (decision : BindingDecision)
  | admission (decision : AdmissionDecision)
  | dispatch (claimed : Bool)
  | control (decision : ControlDecision)
  | deliverable (deliverable : Bool)
  | receipt (receipt : Option OperationReceipt)
  | closed
  deriving DecidableEq, Repr

/-- One public call on a gate. -/
def AuthorityGate.call (state : AuthorityGate) : Call → Answer × AuthorityGate
  | .observeStartup evidence => (state.observeStartup evidence).map .evidence id
  | .startupStatus => (.startup state.startupStatus, state)
  | .observeExecutionCapabilities capabilities =>
    (state.observeExecutionCapabilities capabilities).map .evidence id
  | .supportsExecution requirements time =>
    (.supported (decide (state.supportsExecution requirements time)), state)
  | .bindingStatus time => (.bindingStatus (state.bindingStatus time), state)
  | .withdrawBinding expectedBinding now =>
    (state.withdrawBinding expectedBinding now).map .binding id
  | .beginRebind expectedOldBinding newProviderId oldScopeEvidence now =>
    (state.beginRebind expectedOldBinding newProviderId oldScopeEvidence now).map .binding id
  | .observeRebindReadiness evidence =>
    (state.observeRebindReadiness evidence).map .evidence id
  | .commitRebind expectedCandidate now =>
    (state.commitRebind expectedCandidate now).map .binding id
  | .admitRequest request => (state.admitRequest request).map .admission id
  | .claimDispatch authority observedAt =>
    (state.claimDispatch authority observedAt).map .dispatch id
  | .requestCancel authority observedAt =>
    (state.requestCancel authority observedAt).map .control id
  | .observeTime authority observedAt =>
    (state.observeTime authority observedAt).map .control id
  | .observeStopAcknowledgement evidence =>
    (state.observeStopAcknowledgement evidence).map .evidence id
  | .observeNonSubmission evidence => (state.observeNonSubmission evidence).map .evidence id
  | .observeNative evidence => (state.observeNative evidence).map .evidence id
  | .canDeliverResult authority =>
    (.deliverable (decide (state.canDeliverResult authority)), state)
  | .observeOutputAccepted evidence => (state.observeOutputAccepted evidence).map .evidence id
  | .observeOutputNotDelivered evidence =>
    (state.observeOutputNotDelivered evidence).map .evidence id
  | .observeSettlement evidence => (state.observeSettlement evidence).map .evidence id
  | .receipt authority => (.receipt (state.receipt authority), state)
  | .closeAdmission => (.closed, state.closeAdmission)

/-- The gate as a machine that answers calls. -/
def gate : Mealy AuthorityGate Call Answer := ⟨AuthorityGate.call⟩

/-- One call of a run, with its answer and the states around it. -/
abbrev GateEvent := Mealy.Event AuthorityGate Call Answer

/-- A run: a configuration that the constructor accepts, and the calls made on the gate. -/
structure Run where
  config : AuthorityGateConfig
  accepted : config.Accepted
  calls : List Call

namespace Run

/-- The gate that the constructor returns. -/
def start (run : Run) : AuthorityGate := AuthorityGate.initial run.config

/-- The gate after all calls. -/
def final (run : Run) : AuthorityGate := gate.run run.start run.calls

/-- The calls with their answers, oldest first. -/
def history (run : Run) : List GateEvent := gate.trace run.start run.calls

/-- The start of a run is what the constructor returns. -/
theorem create_eq_ok (run : Run) : AuthorityGate.create run.config = .ok run.start := by
  rw [AuthorityGate.create, if_pos run.accepted]
  rfl

end Run

/-! ### The gate of `tests/authority_gate_tests.cpp` -/

/-- `config` of the tests. -/
def testConfig : AuthorityGateConfig :=
  { binding := ⟨"provider", "domain", 1, 1⟩
    capabilityId := "sample.square"
    bindingObserver := "binding-observer"
    workerObserver := "worker"
    resultSinkObserver := "sink"
    nativeEvidenceSource := "worker"
    settlementEvidenceSource := "adapter"
    settlementScope := "fixture"
    startedAt := 10 }

/-- The authority that `admit_and_dispatch` obtains at time 13. -/
def testAuthority : OperationAuthority := ⟨1, testConfig.binding, 13⟩

/-- `initialize` of the tests. -/
def testStartup : List Call :=
  [.observeStartup ⟨.bindingIdleAndSettled, testConfig.binding, ⟨"binding-observer", 10, 1⟩, true⟩,
    .observeStartup ⟨.workerReady, testConfig.binding, ⟨"worker", 11, 1⟩, true⟩,
    .observeStartup ⟨.resultSinkReady, testConfig.binding, ⟨"sink", 12, 1⟩, true⟩]

/-- `admit_and_dispatch` of the tests, at time 13. -/
def testDispatch : List Call :=
  [.admitRequest
      { capabilityId := "sample.square"
        effectDomain := "domain"
        opaqueRequestReference := "request"
        targetReference := "sink"
        requestedAt := 13 },
    .claimDispatch testAuthority 14]

/-- A run that goes on after `initialize`. -/
def testRun (calls : List Call) : Run := ⟨testConfig, by decide, testStartup ++ calls⟩

/-- The operation of `normal_receipt_is_layered`. -/
def testOperation : List Call := testDispatch ++
  [.observeNative ⟨testAuthority, "native-a", .accepted, ⟨"worker", 15, 1⟩⟩,
    .observeNative ⟨testAuthority, "native-a", .terminalSucceeded, ⟨"worker", 16, 2⟩⟩,
    .observeOutputAccepted ⟨testAuthority, "result-a", ⟨"sink", 17, 1⟩⟩,
    .observeSettlement ⟨testAuthority, "fixture", true, ⟨"adapter", 18, 1⟩⟩]

example : (testRun testOperation).final.currentReceipt.map (·.authorityDisposition) =
    some .released := by decide

end RobotHarness
