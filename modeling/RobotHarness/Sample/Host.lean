import RobotHarness.Base.Fallible
import RobotHarness.Core.Run

/-!
# The sample host

`SampleExecutionHost` of `src/sample/sample_execution.cpp` with its deterministic adapter. The
adapter reports through a queue of staged events, which the host passes to its gate one by one.
The readings of the clock are numbered. Beside the members of the source the model records the
gates that the host has gone through, the requests that were admitted and the adapters that were
permitted to dispatch.
-/

namespace RobotHarness.Sample

/-- `kMaximumSampleValues`. -/
def maximumSampleValues : ℕ := 16

/-- `kMaximumAbsoluteSampleValue`. -/
def maximumAbsoluteSampleValue : Int32 := 10000

/-- `kSampleBinding`. -/
def sampleBinding : BindingIdentity :=
  ⟨"deterministic-sample-worker", "managed-sample-result", 1, 1⟩

/-- `kCapabilityId`. -/
def sampleCapability : String := "sample.square"

/-- `kBindingObserver`. -/
def bindingObserver : String := "deterministic-sample-adapter"

/-- `kWorkerObserver`. -/
def workerObserver : String := "deterministic-sample-worker"

/-- `kResultSinkObserver`. -/
def resultSinkObserver : String := "managed-sample-result-sink"

/-- `kNativeEvidenceSource`. -/
def nativeEvidenceSource : String := "deterministic-sample-worker"

/-- `kSettlementEvidenceSource`. -/
def settlementEvidenceSource : String := "deterministic-sample-adapter"

/-- `kTargetReference`. -/
def targetReference : String := "managed-sample-result-sink"

/-- `kSettlementScope`. -/
def settlementScope : String := "worker-callbacks-and-managed-result"

/-- What is asked of a sample host. -/
structure SampleRequest where
  requestReference : String
  values : List Int32
  deadline : Option MonotonicTime := none
  deriving DecidableEq, Repr

/-- What a sample host publishes of an operation. -/
structure SampleResult where
  operationId : OperationId := 0
  requestReference : String
  squaredValues : List Int64 := []
  sumOfSquares : Int64 := 0
  deriving DecidableEq, Repr

/-- How the native side of a sample completes. -/
inductive CompletionMode where
  | synchronous | deferred
  deriving DecidableEq, Repr

/-- How the native side of a sample answers a cancellation. -/
inductive CancellationMode where
  | cooperative | ignore | refuse | unavailable | noAcknowledgement
  deriving DecidableEq, Repr

/-- The answer to a request. -/
inductive SampleSubmissionStatus where
  | prepared | submitted | invalidArgument | admissionBlocked | dispatchBlocked
  deriving DecidableEq, Repr

/-- The answer to a request, with the authority of an admitted operation. -/
structure SampleSubmission where
  status : SampleSubmissionStatus := .invalidArgument
  admissionStatus : AdmissionStatus := .invalidRequest
  authority : Option OperationAuthority := none
  deriving DecidableEq, Repr

/-- `is_valid_request`. -/
def isValidRequest (request : SampleRequest) : Prop :=
  request.requestReference ≠ "" ∧ request.values ≠ [] ∧
    request.values.length ≤ maximumSampleValues ∧
    ∀ value ∈ request.values,
      -maximumAbsoluteSampleValue ≤ value ∧ value ≤ maximumAbsoluteSampleValue

-- The values are looked at one after the other; there are too many `Int32` to look at all.

/-- Whether a request is valid. -/
instance (request : SampleRequest) : Decidable (isValidRequest request) :=
  have : Decidable (∀ value ∈ request.values,
      -maximumAbsoluteSampleValue ≤ value ∧ value ≤ maximumAbsoluteSampleValue) :=
    List.decidableBAll _ _
  inferInstanceAs (Decidable (request.requestReference ≠ "" ∧ request.values ≠ [] ∧
    request.values.length ≤ maximumSampleValues ∧ ∀ value ∈ request.values,
      -maximumAbsoluteSampleValue ≤ value ∧ value ≤ maximumAbsoluteSampleValue))

/-- What a callback reports. -/
inductive CallbackKind where
  | notSubmitted | accepted | rejected | started | terminalSucceeded | terminalFailed
  | terminalCancelled | noOutputProduced | result | settled
  deriving DecidableEq, Repr

/-- What became of a result that a callback brings. -/
inductive ResultAcceptance where
  | accepted | sinkUnavailable | invalid | permissionDenied
  deriving DecidableEq, Repr

/-- A callback of the native side. -/
structure NativeCallback where
  kind : CallbackKind := .accepted
  authority : OperationAuthority
  nativeIdentity : String
  sequence : UInt64 := 0
  result : Option SampleResult := none
  deriving DecidableEq, Repr

/-- An event that waits for its callback. -/
structure StagedEvent where
  callback : NativeCallback
  observedAt : MonotonicTime := 0
  deriving DecidableEq, Repr

/-- An operation that the native side works on. -/
structure WorkItem where
  authority : OperationAuthority
  request : SampleRequest
  nativeIdentity : String
  isCancelled : Bool := false
  deriving DecidableEq, Repr

/-- `DeterministicSampleAdapter`. Its callback stages an event of the host, or is cleared. -/
structure SampleAdapter where
  completionMode : CompletionMode
  hasCallback : Bool := true
  workerReady : Bool := true
  resultSinkReady : Bool := true
  isClosed : Bool := false
  rejectNextNativeSubmission : Bool := false
  failNextNativeExecution : Bool := false
  cancellationMode : CancellationMode := .cooperative
  settlementReportingEnabled : Bool := true
  resultReplayEnabled : Bool := false
  replayResult : Option NativeCallback := none
  resultPermissionDenialCount : ℕ := 0
  stopRequestCount : ℕ := 0
  pendingWork : Option WorkItem := none
  results : List SampleResult := []
  submissionCount : ℕ := 0
  executionCount : ℕ := 0
  deriving DecidableEq, Repr

namespace SampleAdapter

/-- `is_worker_ready`. -/
def isWorkerReady (adapter : SampleAdapter) : Bool := adapter.workerReady && !adapter.isClosed

/-- `is_result_sink_ready`. -/
def isResultSinkReady (adapter : SampleAdapter) : Bool :=
  adapter.resultSinkReady && !adapter.isClosed

/-- `is_idle_and_settled`. -/
def isIdleAndSettled (adapter : SampleAdapter) : Bool := adapter.pendingWork.isNone

/-- `request_stop`: the acknowledgement, if there is one, and the work that it may cancel. -/
def requestStop (adapter : SampleAdapter) (authority : OperationAuthority) :
    Option StopAcknowledgement × SampleAdapter :=
  let adapter := { adapter with stopRequestCount := adapter.stopRequestCount + 1 }
  match adapter.pendingWork with
  | none => (some .unavailable, adapter)
  | some work =>
    if work.authority.operationId ≠ authority.operationId ∨
        work.authority.binding ≠ authority.binding ∨
        work.authority.admittedAt ≠ authority.admittedAt then
      (some .unavailable, adapter)
    else
      match adapter.cancellationMode with
      | .cooperative =>
        (some .acknowledged, { adapter with pendingWork := some { work with isCancelled := true } })
      | .ignore => (some .acknowledged, adapter)
      | .refuse => (some .refused, adapter)
      | .unavailable => (some .unavailable, adapter)
      | .noAcknowledgement => (none, adapter)

/-- `accept_result`, with the answer of the permission. -/
def acceptResult (adapter : SampleAdapter) (authority : OperationAuthority)
    (result : SampleResult) (permitted : Bool) : ResultAcceptance × SampleAdapter :=
  if result.operationId ≠ authority.operationId then (.invalid, adapter)
  else if permitted = false then
    (.permissionDenied,
      { adapter with resultPermissionDenialCount := adapter.resultPermissionDenialCount + 1 })
  else if adapter.isResultSinkReady = false then (.sinkUnavailable, adapter)
  else (.accepted, { adapter with results := adapter.results ++ [result] })

/-- `close`. -/
def close (adapter : SampleAdapter) : SampleAdapter :=
  if adapter.isClosed then adapter
  else
    { adapter with
      workerReady := false
      resultSinkReady := false
      replayResult := none
      resultReplayEnabled := false
      isClosed := true }

/-- `inherit_observations`, of a replacement. -/
def inheritObservations (replacement old : SampleAdapter) : SampleAdapter :=
  { replacement with
    results := old.results
    replayResult := old.replayResult
    resultReplayEnabled := old.resultReplayEnabled
    resultPermissionDenialCount := old.resultPermissionDenialCount
    stopRequestCount := old.stopRequestCount
    submissionCount := old.submissionCount
    executionCount := old.executionCount }

/-- `set_result_replay_enabled`. -/
def setResultReplayEnabled (adapter : SampleAdapter) (enabled : Bool) : SampleAdapter :=
  { adapter with resultReplayEnabled := enabled, replayResult := none }

/-- The assignment of `emit` to the retained result. -/
def retain (adapter : SampleAdapter) (callback : NativeCallback) : SampleAdapter :=
  if callback.kind = .result ∧ adapter.resultReplayEnabled = true ∧
      adapter.replayResult = none then
    { adapter with replayResult := some callback }
  else adapter

/-- `retained_result`. -/
def retainedResult (adapter : SampleAdapter) : Option NativeCallback :=
  if adapter.isClosed then none else adapter.replayResult

end SampleAdapter

/-- The square of a value in 64 bits. -/
def square (value : Int32) : Int64 := value.toInt64 * value.toInt64

/-- The result that `finish` computes. -/
def computeResult (work : WorkItem) : SampleResult :=
  { operationId := work.authority.operationId
    requestReference := work.request.requestReference
    squaredValues := work.request.values.map square
    sumOfSquares := work.request.values.foldl (fun sum value ↦ sum + square value) 0 }

/-- The configuration of the gate. -/
def sampleConfig (startedAt : MonotonicTime) : AuthorityGateConfig :=
  { binding := sampleBinding
    capabilityId := sampleCapability
    bindingObserver := bindingObserver
    workerObserver := workerObserver
    resultSinkObserver := resultSinkObserver
    nativeEvidenceSource := nativeEvidenceSource
    settlementEvidenceSource := settlementEvidenceSource
    settlementScope := settlementScope
    startedAt := startedAt }

/-- `SampleExecutionHost::Implementation`, with what the model records besides. -/
structure SampleHost where
  lastTime : MonotonicTime := 0
  hasReadTime : Bool := false
  gate : AuthorityGate
  adapter : SampleAdapter
  stagedEvents : List StagedEvent := []
  currentAuthority : Option OperationAuthority := none
  preparedAuthority : Option OperationAuthority := none
  preparedRequest : Option SampleRequest := none
  bindingObservationSequence : UInt64 := 0
  workerObservationSequence : UInt64 := 0
  sinkObservationSequence : UInt64 := 0
  isShutdown : Bool := false
  /-- The readings of the clock so far. -/
  readings : ℕ := 0
  /-- The gates that the calls have led to, oldest first. -/
  gates : List AuthorityGate := []
  /-- The requests that were admitted, oldest first. -/
  admissions : List (OperationAuthority × SampleRequest) := []
  /-- The adapters that were permitted to dispatch, as they were then, oldest first. -/
  permissions : List SampleAdapter := []

/-- What a call raises. -/
inductive SampleFailure where
  | clockMovedBackwards
  /-- A loop has not ended within its bound. -/
  | unfinished
  deriving DecidableEq, Repr

/-- A program of the host. -/
abbrev SampleProgram := Fallible SampleFailure SampleHost

namespace SampleProgram

/-- A change of the adapter. -/
def onAdapter {α : Type} (f : SampleAdapter → α × SampleAdapter) : SampleProgram α := fun h ↦
  (.ok (f h.adapter).1, { h with adapter := (f h.adapter).2 })

/-- A call of the gate. -/
def onGate {α : Type} (f : AuthorityGate → α × AuthorityGate) : SampleProgram α := fun h ↦
  (.ok (f h.gate).1, { h with gate := (f h.gate).2, gates := h.gates ++ [(f h.gate).2] })

variable (clock : ℕ → MonotonicTime)

/-- `read_time`. -/
def readTime : SampleProgram MonotonicTime := fun h ↦
  if h.hasReadTime = true ∧ clock h.readings < h.lastTime then
    (.error .clockMovedBackwards, { h with readings := h.readings + 1 })
  else
    (.ok (clock h.readings),
      { h with
        readings := h.readings + 1
        hasReadTime := true
        lastTime := clock h.readings })

/-- The callback of the adapter: it stages an event. -/
def stage (callback : NativeCallback) : SampleProgram Unit := do
  let observedAt ← readTime clock
  .assign fun h ↦ { h with stagedEvents := h.stagedEvents ++ [⟨callback, observedAt⟩] }

/-- `emit`. -/
def emit (work : WorkItem) (kind : CallbackKind) (sequence : UInt64)
    (result : Option SampleResult) : SampleProgram Unit := do
  let adapter ← .read SampleHost.adapter
  if kind = .settled ∧ adapter.settlementReportingEnabled = false then pure ()
  else if adapter.hasCallback = true then
    let callback : NativeCallback := ⟨kind, work.authority, work.nativeIdentity, sequence, result⟩
    .assign fun h ↦ { h with adapter := h.adapter.retain callback }
    stage clock callback
  else pure ()

/-- `finish`. -/
def finish (work : WorkItem) : SampleProgram Unit := do
  if work.isCancelled = true then
    emit clock work .terminalCancelled 2 none
    emit clock work .noOutputProduced 1 none
    emit clock work .settled 2 none
  else
    .assign fun h ↦
      { h with adapter := { h.adapter with executionCount := h.adapter.executionCount + 1 } }
    emit clock work .started 2 none
    let adapter ← .read SampleHost.adapter
    if adapter.failNextNativeExecution = true then
      .assign fun h ↦ { h with adapter := { h.adapter with failNextNativeExecution := false } }
      emit clock work .terminalFailed 3 none
      emit clock work .noOutputProduced 1 none
      emit clock work .settled 2 none
    else
      emit clock work .terminalSucceeded 3 none
      emit clock work .result 4 (some (computeResult work))
      emit clock work .settled 5 none

/-- The three events of work that was not submitted. -/
def emitNotSubmitted (work : WorkItem) : SampleProgram Unit := do
  emit clock work .notSubmitted 1 none
  emit clock work .noOutputProduced 2 none
  emit clock work .settled 3 none

/-- `confirm_non_submission`. -/
def confirmNonSubmission (authority : OperationAuthority) : SampleProgram Unit :=
  emitNotSubmitted clock ⟨authority, ⟨"", [], none⟩, "", false⟩

/-- The end of pending work, of `complete_deferred` and `drain_pending`. -/
def drainPending : SampleProgram Bool := do
  let adapter ← .read SampleHost.adapter
  match adapter.pendingWork with
  | none => pure false
  | some work =>
    .assign fun h ↦ { h with adapter := { h.adapter with pendingWork := none } }
    finish clock work
    pure true

/-- `DeterministicSampleAdapter::complete_deferred`. -/
def completeDeferredWork : SampleProgram Bool := do
  let adapter ← .read SampleHost.adapter
  if adapter.isClosed = true then pure false else drainPending clock

/-- `discard_prepared`. -/
def discardPrepared : SampleProgram Unit := do
  match ← Fallible.read SampleHost.preparedAuthority with
  | none => pure ()
  | some authority =>
    .assign fun h ↦ { h with preparedRequest := none, preparedAuthority := none }
    confirmNonSubmission clock authority

/-- The stop that `apply_control` requests. -/
def requestNativeStop (authority : OperationAuthority) : SampleProgram Unit := do
  match ← onAdapter (·.requestStop authority) with
  | none => pure ()
  | some acknowledgement =>
    let observedAt ← readTime clock
    let _ ← onGate (·.observeStopAcknowledgement
      ⟨authority, acknowledgement, ⟨"native-stop", observedAt, 1⟩⟩)
    pure ()

/-- `apply_control`. -/
def applyControl (authority : OperationAuthority) (decision : ControlDecision) :
    SampleProgram Unit := do
  if decision.status = .applied then
    let h ← .read id
    (if ∃ prepared ∈ h.preparedAuthority, prepared.operationId = authority.operationId then
      discardPrepared clock
    else pure ())
    if decision.shouldRequestNativeStop = true then requestNativeStop clock authority
    else pure ()
  else pure ()

/-- `observe_time`. -/
def observeTime (now : MonotonicTime) : SampleProgram ControlDecision := do
  match ← Fallible.read SampleHost.currentAuthority with
  | none => pure ⟨.noActiveOperation, false⟩
  | some authority =>
    let decision ← onGate (·.observeTime authority now)
    applyControl clock authority decision
    pure decision

/-- `withdraw_binding`. -/
def withdrawBinding (expectedBinding : BindingIdentity) : SampleProgram BindingDecision := do
  let now ← readTime clock
  let decision ← onGate (·.withdrawBinding expectedBinding now)
  if decision.status = .applied then
    discardPrepared clock
    match decision.nativeStopAuthority with
    | some authority =>
      applyControl clock authority ⟨.applied, true⟩
      pure decision
    | none => pure decision
  else pure decision

/-- `poll`. -/
def poll : SampleProgram ControlDecision := do
  let now ← readTime clock
  let h ← .read id
  (if h.gate.startupStatus.state = .ready ∧
      (h.adapter.isWorkerReady = false ∨ h.adapter.isResultSinkReady = false) then
    (fun _ ↦ ()) <$> withdrawBinding clock (h.gate.bindingStatus now).active
  else pure ())
  let lastTime ← .read SampleHost.lastTime
  observeTime clock lastTime

/-- The observation of a replacement that `rebind_provider` makes for a candidate. -/
def observeReplacement (kind : StartupEvidenceKind) (candidate : BindingIdentity)
    (source : String) (sequence : SampleHost → UInt64) (count : SampleHost → SampleHost)
    (observed : Bool) (now : MonotonicTime) : SampleProgram Unit := do
  .assign count
  let sequence ← .read sequence
  let _ ← onGate (·.observeRebindReadiness
    ⟨kind, candidate, ⟨source, now, sequence⟩, observed, now + 1⟩)
  pure ()

/-- `++binding_observation_sequence`. -/
def countBinding (h : SampleHost) : SampleHost :=
  { h with bindingObservationSequence := h.bindingObservationSequence + 1 }

/-- `++worker_observation_sequence`. -/
def countWorker (h : SampleHost) : SampleHost :=
  { h with workerObservationSequence := h.workerObservationSequence + 1 }

/-- `++sink_observation_sequence`. -/
def countSink (h : SampleHost) : SampleHost :=
  { h with sinkObservationSequence := h.sinkObservationSequence + 1 }

/-- The handoff of `rebind_provider` to a candidate that the gate has begun. -/
def handOff (candidate : BindingIdentity) (completionMode : CompletionMode)
    (now : MonotonicTime) : SampleProgram BindingDecision := do
  let replacement : SampleAdapter := { completionMode }
  observeReplacement .bindingIdleAndSettled candidate bindingObserver
    SampleHost.bindingObservationSequence countBinding replacement.isIdleAndSettled now
  observeReplacement .workerReady candidate workerObserver
    SampleHost.workerObservationSequence countWorker replacement.isWorkerReady now
  observeReplacement .resultSinkReady candidate resultSinkObserver
    SampleHost.sinkObservationSequence countSink replacement.isResultSinkReady now
  let committed ← onGate (·.commitRebind candidate now)
  if committed.status ≠ .applied then
    let _ ← onGate (·.withdrawBinding candidate now)
    pure committed
  else
    .assign fun h ↦ { h with adapter := replacement.inheritObservations h.adapter }
    pure committed

/-- `rebind_provider`. -/
def rebindProvider (expectedOldBinding : BindingIdentity) (providerId : String)
    (completionMode : CompletionMode) : SampleProgram BindingDecision := do
  let _ ← poll clock
  let now ← readTime clock
  let h ← .read id
  if h.isShutdown = true then pure ⟨.closed, none, none⟩
  else if h.adapter.isIdleAndSettled = false ∨ h.preparedAuthority.isSome = true ∨
      h.stagedEvents ≠ [] then
    pure ⟨.unresolvedWork, none, none⟩
  else if now = 0xFFFFFFFFFFFFFFFF then pure ⟨.invalidTime, none, none⟩
  else
    .assign countBinding
    let sequence ← .read SampleHost.bindingObservationSequence
    let begun ← onGate (·.beginRebind expectedOldBinding providerId
      ⟨.bindingIdleAndSettled, expectedOldBinding, ⟨bindingObserver, now, sequence⟩, true,
        now + 1⟩ now)
    match begun.candidate with
    | some candidate =>
      if begun.status ≠ .applied then pure begun else handOff candidate completionMode now
    | none => pure begun

/-- `request_cancel`. -/
def requestCancel (authority : OperationAuthority) : SampleProgram ControlDecision := do
  let _ ← poll clock
  let time ← readTime clock
  let decision ← onGate (·.requestCancel authority time)
  applyControl clock authority decision
  pure decision

/-- The native event of a callback. -/
def nativeEvent : CallbackKind → Option NativeEventKind
  | .accepted => some .accepted
  | .rejected => some .rejected
  | .started => some .started
  | .terminalSucceeded => some .terminalSucceeded
  | .terminalFailed => some .terminalFailed
  | .terminalCancelled => some .terminalCancelled
  | _ => none

/-- The name of the result of an operation. -/
def resultReference (authority : OperationAuthority) : String :=
  "managed-result-" ++ toString authority.operationId

/-- What `process_next` passes to the gate when a result reaches the sink. -/
def reportAcceptance (authority : OperationAuthority) (acceptance : ResultAcceptance)
    (acceptanceTime : MonotonicTime) : SampleProgram Unit := do
  let record : EvidenceRecord := ⟨resultSinkObserver, acceptanceTime, 1⟩
  match acceptance with
  | .accepted =>
    let _ ← onGate (·.observeOutputAccepted ⟨authority, resultReference authority, record⟩)
    pure ()
  | .permissionDenied =>
    let _ ← onGate (·.observeOutputNotDelivered
      ⟨authority, .authorityRevoked, resultReference authority, record⟩)
    pure ()
  | .sinkUnavailable =>
    let _ ← onGate (·.observeOutputNotDelivered
      ⟨authority, .sinkRejected, resultReference authority, record⟩)
    pure ()
  | .invalid => pure ()

/-- The case of a result, in `process_next`. -/
def processResult (callback : NativeCallback) : SampleProgram Unit := do
  match callback.result with
  | none => pure ()
  | some result =>
    let acceptanceTime ← readTime clock
    let _ ← observeTime clock acceptanceTime
    let h ← .read id
    let acceptance ← onAdapter (·.acceptResult callback.authority result
      (decide (h.gate.canDeliverResult callback.authority)))
    reportAcceptance callback.authority acceptance acceptanceTime

/-- The case of a settlement, in `process_next`. -/
def processSettled (callback : NativeCallback) : SampleProgram Unit := do
  let settlementTime ← readTime clock
  let _ ← observeTime clock settlementTime
  let _ ← onGate (·.observeSettlement ⟨callback.authority, settlementScope, true,
    ⟨settlementEvidenceSource, settlementTime, callback.sequence⟩⟩)
  pure ()

/-- The switch of `process_next`. -/
def processEvent (event : StagedEvent) : SampleProgram Unit := do
  let callback := event.callback
  match callback.kind with
  | .notSubmitted =>
    let _ ← onGate (·.observeNonSubmission ⟨callback.authority,
      ⟨settlementEvidenceSource, event.observedAt, callback.sequence⟩⟩)
    pure ()
  | .noOutputProduced =>
    let _ ← onGate (·.observeOutputNotDelivered ⟨callback.authority, .noOutputProduced, "",
      ⟨settlementEvidenceSource, event.observedAt, callback.sequence⟩⟩)
    pure ()
  | .result => processResult clock callback
  | .settled => processSettled clock callback
  | kind =>
    match nativeEvent kind with
    | none => pure ()
    | some native =>
      let _ ← onGate (·.observeNative ⟨callback.authority, callback.nativeIdentity, native,
        ⟨nativeEvidenceSource, event.observedAt, callback.sequence⟩⟩)
      pure ()

/-- `process_next`. -/
def processNext : SampleProgram Bool := do
  let _ ← poll clock
  match ← Fallible.read SampleHost.stagedEvents with
  | [] => pure false
  | event :: rest =>
    .assign fun h ↦ { h with stagedEvents := rest }
    processEvent clock event
    pure true

/-- `process_all`, for at most a number of passes. -/
def processWithin : ℕ → SampleProgram Unit
  | 0 => .raise .unfinished
  | passes + 1 => do
    let processed ← processNext clock
    if processed = true then processWithin passes else pure ()

/-- The passes that `process_all` makes at most: one for each staged event, one for each event
that a prepared operation may still stage, and one that finds no event. -/
def passes (h : SampleHost) : ℕ :=
  h.stagedEvents.length + (if h.preparedAuthority.isSome then 3 else 0) + 1

/-- `process_all`. -/
def processAll : SampleProgram Unit := do
  let passes ← .read passes
  processWithin clock passes

/-- `shutdown`. -/
def shutdown : SampleProgram Unit := do
  let h ← .read id
  if h.isShutdown = true then pure ()
  else
    let _ ← poll clock
    onGate fun gate ↦ ((), gate.closeAdmission)
    discardPrepared clock
    let _ ← drainPending clock
    processAll clock
    .assign fun h ↦
      { h with
        adapter := { h.adapter.close with hasCallback := false }
        isShutdown := true }

/-! ### The public calls -/

/-- A startup observation, of `initialize`. -/
def observeStartup (kind : StartupEvidenceKind) (source : String)
    (observed : SampleAdapter → Bool) (sequence : SampleHost → UInt64)
    (count : SampleHost → SampleHost) : SampleProgram Unit := do
  .assign count
  let h ← .read id
  let observedAt ← readTime clock
  let _ ← onGate (·.observeStartup ⟨kind, (h.gate.bindingStatus h.lastTime).active,
    ⟨source, observedAt, sequence h⟩, observed h.adapter⟩)
  pure ()

/-- `initialize`. -/
def initializeHost : SampleProgram StartupStatus := do
  let h ← .read id
  (if h.gate.startupStatus.state = .ready ∧
      (h.adapter.isWorkerReady = false ∨ h.adapter.isResultSinkReady = false) then
    (fun _ ↦ ()) <$> poll clock
  else pure ())
  observeStartup clock .bindingIdleAndSettled bindingObserver SampleAdapter.isIdleAndSettled
    SampleHost.bindingObservationSequence countBinding
  observeStartup clock .workerReady workerObserver SampleAdapter.isWorkerReady
    SampleHost.workerObservationSequence countWorker
  observeStartup clock .resultSinkReady resultSinkObserver SampleAdapter.isResultSinkReady
    SampleHost.sinkObservationSequence countSink
  .read (·.gate.startupStatus)

/-- `binding_status`. -/
def bindingStatus : SampleProgram BindingStatus := do
  let time ← readTime clock
  .read (·.gate.bindingStatus time)

/-- The request that `prepare` passes to the gate. -/
def operationRequest (request : SampleRequest) (requestedAt : MonotonicTime) : OperationRequest :=
  { capabilityId := sampleCapability
    effectDomain := sampleBinding.effectDomain
    opaqueRequestReference := request.requestReference
    targetReference := targetReference
    requestedAt
    deadline := request.deadline }

/-- `prepare`. -/
def prepare (request : SampleRequest) : SampleProgram SampleSubmission := do
  let _ ← poll clock
  if ¬ isValidRequest request then pure {}
  else
    let requestedAt ← readTime clock
    let _ ← observeTime clock requestedAt
    let admission ← onGate (·.admitRequest (operationRequest request requestedAt))
    match admission.authority with
    | none => pure ⟨.admissionBlocked, admission.status, none⟩
    | some authority =>
      if admission.status ≠ .admitted then
        pure ⟨.admissionBlocked, admission.status, some authority⟩
      else
        .assign fun h ↦
          { h with
            currentAuthority := some authority
            preparedAuthority := some authority
            preparedRequest := some request
            admissions := h.admissions ++ [(authority, request)] }
        pure ⟨.prepared, admission.status, some authority⟩

/-- The permission that `dispatch_prepared` passes to the adapter. -/
def dispatchPermission (authority : OperationAuthority) : SampleProgram Bool := do
  let dispatchTime ← readTime clock
  let _ ← observeTime clock dispatchTime
  let permitted ← onGate (·.claimDispatch authority dispatchTime)
  .assign fun h ↦
    if permitted = true then { h with permissions := h.permissions ++ [h.adapter] } else h
  pure permitted

/-- The rest of `dispatch`, for work that is counted as submitted. -/
def submitWork (work : WorkItem) : SampleProgram Bool := do
  let adapter ← .read SampleHost.adapter
  if adapter.rejectNextNativeSubmission = true then
    .assign fun h ↦ { h with adapter := { h.adapter with rejectNextNativeSubmission := false } }
    emit clock work .rejected 1 none
    emit clock work .noOutputProduced 1 none
    emit clock work .settled 2 none
    pure true
  else
    emit clock work .accepted 1 none
    (if adapter.completionMode = .synchronous then finish clock work
    else .assign fun h ↦ { h with adapter := { h.adapter with pendingWork := some work } })
    pure true

/-- `DeterministicSampleAdapter::dispatch`, with the permission of `dispatch_prepared`. -/
def dispatch (authority : OperationAuthority) (request : SampleRequest) : SampleProgram Bool := do
  let work : WorkItem :=
    ⟨authority, request, "native-sample-" ++ toString authority.operationId, false⟩
  let adapter ← .read SampleHost.adapter
  let permitted ←
    (if adapter.isWorkerReady = false ∨ adapter.isResultSinkReady = false ∨
        adapter.pendingWork.isSome = true then pure false
    else dispatchPermission clock authority)
  if permitted = false then
    emitNotSubmitted clock work
    pure false
  else
    .assign fun h ↦
      { h with adapter := { h.adapter with submissionCount := h.adapter.submissionCount + 1 } }
    submitWork clock work

/-- The events that `dispatch_prepared` processes before it returns. -/
def processDispatched : SampleProgram Unit := do
  let adapter ← .read SampleHost.adapter
  if adapter.completionMode = .deferred then (fun _ ↦ ()) <$> processNext clock
  else processAll clock

/-- `dispatch_prepared`. -/
def dispatchPrepared (authority : OperationAuthority) : SampleProgram Bool := do
  let wasPrepared ← .read fun h ↦ decide (h.preparedAuthority = some authority)
  let _ ← poll clock
  let h ← .read id
  if wasPrepared = true ∧ h.preparedAuthority = none then
    processDispatched clock
    pure false
  else
    match h.preparedRequest with
    | none => pure false
    | some request =>
      if h.isShutdown = true ∨ h.preparedAuthority ≠ some authority then pure false
      else
        .assign fun h ↦ { h with preparedRequest := none, preparedAuthority := none }
        let dispatched ← dispatch clock authority request
        processDispatched clock
        pure dispatched

/-- `submit`. -/
def submit (request : SampleRequest) : SampleProgram SampleSubmission := do
  let submission ← prepare clock request
  match submission.authority with
  | none => pure submission
  | some authority =>
    if submission.status = .prepared then
      let dispatched ← dispatchPrepared clock authority
      pure { submission with status := if dispatched = true then .submitted else .dispatchBlocked }
    else pure submission

/-- `replay_retained_result`. -/
def replayRetainedResult : SampleProgram Bool := do
  let adapter ← .read SampleHost.adapter
  match adapter.retainedResult with
  | none => pure false
  | some callback =>
    let observedAt ← readTime clock
    .assign fun h ↦ { h with stagedEvents := ⟨callback, observedAt⟩ :: h.stagedEvents }
    pure true

/-- `complete_deferred`. -/
def completeDeferred : SampleProgram Bool := do
  let _ ← poll clock
  completeDeferredWork clock

/-- A setter of the adapter. -/
def set (f : SampleAdapter → SampleAdapter) : SampleProgram Unit :=
  .assign fun h ↦ { h with adapter := f h.adapter }

end SampleProgram

/-- A public call of the host that can change it, with its arguments. -/
inductive SampleCall where
  | initializeHost
  | bindingStatus
  | withdrawBinding (expectedBinding : BindingIdentity)
  | rebindProvider (expectedOldBinding : BindingIdentity) (providerId : String)
      (completionMode : CompletionMode)
  | setWorkerReady (isReady : Bool)
  | setResultSinkReady (isReady : Bool)
  | rejectNextNativeSubmission
  | failNextNativeExecution
  | setCancellationMode (mode : CancellationMode)
  | setSettlementReportingEnabled (enabled : Bool)
  | setResultReplayEnabled (enabled : Bool)
  | replayRetainedResult
  | prepare (request : SampleRequest)
  | dispatchPrepared (authority : OperationAuthority)
  | submit (request : SampleRequest)
  | requestCancel (authority : OperationAuthority)
  | poll
  | completeDeferred
  | processNextStagedEvent
  | processAllStagedEvents
  | shutdown
  deriving DecidableEq, Repr

/-- What a public call answers. -/
inductive SampleAnswer where
  | startup (status : StartupStatus)
  | bindingStatus (status : BindingStatus)
  | binding (decision : BindingDecision)
  | submission (submission : SampleSubmission)
  | control (decision : ControlDecision)
  | flag (value : Bool)
  | done
  deriving DecidableEq, Repr

/-- One public call on a host. -/
def SampleCall.program (clock : ℕ → MonotonicTime) : SampleCall → SampleProgram SampleAnswer
  | .initializeHost => .startup <$> SampleProgram.initializeHost clock
  | .bindingStatus => .bindingStatus <$> SampleProgram.bindingStatus clock
  | .withdrawBinding expected => .binding <$> SampleProgram.withdrawBinding clock expected
  | .rebindProvider expected providerId mode =>
    .binding <$> SampleProgram.rebindProvider clock expected providerId mode
  | .setWorkerReady isReady =>
    (fun _ ↦ .done) <$> SampleProgram.set ({ · with workerReady := isReady })
  | .setResultSinkReady isReady =>
    (fun _ ↦ .done) <$> SampleProgram.set ({ · with resultSinkReady := isReady })
  | .rejectNextNativeSubmission =>
    (fun _ ↦ .done) <$> SampleProgram.set ({ · with rejectNextNativeSubmission := true })
  | .failNextNativeExecution =>
    (fun _ ↦ .done) <$> SampleProgram.set ({ · with failNextNativeExecution := true })
  | .setCancellationMode mode =>
    (fun _ ↦ .done) <$> SampleProgram.set ({ · with cancellationMode := mode })
  | .setSettlementReportingEnabled enabled =>
    (fun _ ↦ .done) <$> SampleProgram.set ({ · with settlementReportingEnabled := enabled })
  | .setResultReplayEnabled enabled =>
    (fun _ ↦ .done) <$> SampleProgram.set (·.setResultReplayEnabled enabled)
  | .replayRetainedResult => .flag <$> SampleProgram.replayRetainedResult clock
  | .prepare request => .submission <$> SampleProgram.prepare clock request
  | .dispatchPrepared authority => .flag <$> SampleProgram.dispatchPrepared clock authority
  | .submit request => .submission <$> SampleProgram.submit clock request
  | .requestCancel authority => .control <$> SampleProgram.requestCancel clock authority
  | .poll => .control <$> SampleProgram.poll clock
  | .completeDeferred => .flag <$> SampleProgram.completeDeferred clock
  | .processNextStagedEvent => .flag <$> SampleProgram.processNext clock
  | .processAllStagedEvents => (fun _ ↦ .done) <$> SampleProgram.processAll clock
  | .shutdown => (fun _ ↦ .done) <$> SampleProgram.shutdown clock

/-- The host as a machine that answers calls. -/
def sampleHost (clock : ℕ → MonotonicTime) :
    Mealy SampleHost SampleCall (Except SampleFailure SampleAnswer) :=
  ⟨fun h c ↦ c.program clock h⟩

/-- A run: how the adapter completes work, the readings of the clock, and the calls. -/
structure SampleRun where
  completionMode : CompletionMode
  clock : ℕ → MonotonicTime
  calls : List SampleCall

namespace SampleRun

/-- The host that the constructor returns: it has read the clock once. -/
def start (run : SampleRun) : SampleHost :=
  let gate := AuthorityGate.initial (sampleConfig (run.clock 0))
  { lastTime := run.clock 0
    hasReadTime := true
    gate
    adapter := { completionMode := run.completionMode }
    readings := 1
    gates := [gate] }

/-- The host after all calls. -/
def final (run : SampleRun) : SampleHost := (sampleHost run.clock).run run.start run.calls

/-- The calls with their answers, oldest first. -/
def history (run : SampleRun) :
    List (Mealy.Event SampleHost SampleCall (Except SampleFailure SampleAnswer)) :=
  (sampleHost run.clock).trace run.start run.calls

end SampleRun

end RobotHarness.Sample
