import RobotHarness.Base.Forward
import RobotHarness.Compute.Process
import RobotHarness.Compute.Squares
import RobotHarness.Core.Run

/-!
# The compute host

`ComputeExecutionHost` of `src/compute/compute_execution.cpp`. The host reads the clock, probes
its worker executable and operates the process of its computation; each of these meets an
answer of the environment, which is counted. Beside the members of `Implementation` the model
records the calls of the gate, the processes that were discarded, how many evidence records
were drawn and whether `accept` met a rejection.
-/

namespace RobotHarness.Compute

/-- `kLocalComputeProfile`. -/
def localComputeProfile : String := "host-polled-local-compute-v1"

/-- `kCapability`. -/
def hostCapability : String := "compute.periodic-square-sum"

/-- `kObserver`. -/
def hostObserver : String := "compute-adapter"

/-- `kSink`. -/
def hostSink : String := "compute-result-sink"

/-- `kNative`. -/
def hostNative : String := "compute-process"

/-- `kStop`. -/
def hostStop : String := "compute-control"

/-- `kScope`. -/
def hostScope : String := "child-exit-output-and-channels"

/-- What a host is made for. -/
structure ComputeHostConfig where
  workerExecutable : String
  maximumIterations : UInt64 := 100000000
  stopGraceMs : UInt64 := 100
  deriving DecidableEq, Repr

/-- A path that `front` finds absolute. -/
def isAbsolute (path : String) : Prop := path.toList.head? = some '/'
  deriving Decidable

/-- The test of the constructor. -/
def ComputeHostConfig.Accepted (config : ComputeHostConfig) : Prop :=
  isAbsolute config.workerExecutable ∧ validIterations config.maximumIterations ∧
    config.stopGraceMs ≤ 60000
  deriving Decidable

/-- What is asked of a host. -/
structure ComputeRequest where
  requestReference : String
  iterations : UInt64 := 0
  deadline : Option MonotonicTime := none
  requiredProfileId : String := localComputeProfile
  deriving DecidableEq, Repr

/-- The argument tests of `prepare`. -/
def ComputeRequest.Valid (request : ComputeRequest) : Prop :=
  request.requestReference ≠ "" ∧ request.requestReference.utf8ByteSize ≤ 128 ∧
    validIterations request.iterations ∧ request.requiredProfileId ≠ "" ∧
    request.requiredProfileId.utf8ByteSize ≤ 128
  deriving Decidable

/-- What a host publishes of an operation. -/
structure ComputeResult where
  operationId : OperationId := 0
  requestReference : String
  iterations : UInt64 := 0
  sum : UInt64 := 0
  deriving DecidableEq, Repr

/-- The answer to a request. -/
inductive ComputeSubmissionStatus where
  | prepared | submitted | invalidArgument | admissionBlocked | notSubmitted
  deriving DecidableEq, Repr

/-- The answer to a request, with the authority of an admitted operation. -/
structure ComputeSubmission where
  status : ComputeSubmissionStatus := .invalidArgument
  admissionStatus : AdmissionStatus := .invalidRequest
  authority : Option OperationAuthority := none
  deriving DecidableEq, Repr

/-- How far a shutdown has come. -/
inductive ComputeShutdownStatus where
  | isOpen | closing | closed | unresolved
  deriving DecidableEq, Repr

/-- `make_binding`, of the generation that the counter of the process yields. -/
def makeBinding (generation : UInt64) : BindingIdentity :=
  ⟨"local-compute-process", "local-compute-result-" ++ toString generation, 1, generation⟩

/-- `make_gate_config`. -/
def makeGateConfig (binding : BindingIdentity) (time : MonotonicTime) : AuthorityGateConfig :=
  { binding
    capabilityId := hostCapability
    bindingObserver := hostObserver
    workerObserver := hostObserver
    resultSinkObserver := hostSink
    nativeEvidenceSource := hostNative
    settlementEvidenceSource := hostObserver
    settlementScope := hostScope
    startedAt := time
    stopEvidenceSource := hostStop
    readinessKind := .adapterReady
    executionCapabilityObserver := hostObserver }

/-- What the host meets: the readings of the clock and the answers of `can_launch` and of the
system calls of its process, by the number of the interaction. -/
structure HostEnvironment where
  clock : ℕ → MonotonicTime
  canLaunch : ℕ → Bool
  launch : ℕ → LaunchAnswer
  send : ℕ → Option Int
  poll : ℕ → PollAnswer
  close : ℕ → Option Int × Option Int

/-- `ComputeExecutionHost::Implementation`, with what the model records besides. -/
structure ComputeHost where
  config : ComputeHostConfig
  gate : AuthorityGate
  process : Option ComputeProcess := none
  authority : Option OperationAuthority := none
  request : Option ComputeRequest := none
  result : Option ComputeResult := none
  nativeIdentity : String := ""
  resultReference : String := ""
  sequence : UInt64 := 0
  initialized : Bool := false
  stopReported : Bool := false
  outcomeReported : Bool := false
  evidenceError : Bool := false
  shutdown : ComputeShutdownStatus := .isOpen
  /-- The interactions with the environment so far. -/
  interactions : ℕ := 0
  /-- The last reading of the clock. -/
  lastReading : MonotonicTime
  /-- The evidence records drawn so far. -/
  drawn : ℕ := 0
  /-- The calls of the gate that can change it, oldest first. -/
  calls : List Call := []
  /-- Whether `accept` has met a rejection. -/
  rejected : Bool := false
  /-- The processes that were destroyed, oldest first. -/
  discarded : List ComputeProcess := []

/-- Hosts in the order of the records that they have drawn. -/
instance preorderComputeHost : Preorder ComputeHost := Preorder.lift ComputeHost.drawn

/-- A program of the host. -/
abbrev HostProgram := Forward ComputeHost

namespace ComputeHost

/-- The host that the constructor leaves, when the clock reads `time`. -/
def initial (config : ComputeHostConfig) (generation : UInt64) (time : MonotonicTime) :
    ComputeHost :=
  { config
    gate := .initial (makeGateConfig (makeBinding generation) time)
    lastReading := time }

/-- `ComputeExecutionHost::ComputeExecutionHost`. -/
def create (config : ComputeHostConfig) (generation : UInt64) (time : MonotonicTime) :
    Except String ComputeHost :=
  if config.Accepted then .ok (initial config generation time)
  else .error "compute host requires absolute worker path and bounded policy"

/-- `*authority`, which is read only where it is present. -/
def theAuthority (h : ComputeHost) : OperationAuthority :=
  h.authority.getD ⟨0, ⟨"", "", 0, 0⟩, 0⟩

/-- `*request`, which is read only where it is present. -/
def theRequest (h : ComputeHost) : ComputeRequest := h.request.getD ⟨"", 0, none, ""⟩

/-- `process->observation()`, which is read only where there is a process. -/
def observed (h : ComputeHost) : ProcessObservation := (h.process.map (·.observation)).getD {}

/-- There is a process and it has launched its child. -/
def launched (h : ComputeHost) : Bool := h.process.any (·.observation.launched)

/-- The receipt of the last admitted operation. -/
def currentReceipt (h : ComputeHost) : Option OperationReceipt := h.authority.bind h.gate.receipt

/-- `old_scope_is_clear`. -/
def oldScopeIsClear (h : ComputeHost) : Prop :=
  h.evidenceError = false ∧
    (h.authority.isSome = true →
      ∃ receipt ∈ h.currentReceipt, receipt.authorityDisposition = .released) ∧
    (h.process.isSome = true →
      h.observed.ownershipLost = false ∧
        if h.observed.launched = true then
          h.observed.exitStatus.isSome = true ∧ h.observed.eventEof = true ∧
            h.observed.channelsClosed = true
        else h.observed.ioError = 0)
  deriving Decidable

/-- The `owned_clear` of `update_shutdown_status`. -/
def ownedClear (h : ComputeHost) : Bool :=
  h.process.isNone || !h.observed.launched || h.observed.channelsClosed

/-- The `settled` of `update_shutdown_status`. -/
def isSettled (h : ComputeHost) : Prop :=
  h.authority = none ∨ ∃ receipt ∈ h.currentReceipt, receipt.settlement = .settled
  deriving Decidable

/-- The terminal event that `finish` reports for an exit status. -/
def terminalKind (h : ComputeHost) (status : ExitStatus) : NativeEventKind :=
  let o := h.observed
  let valid := o.malformed = false ∧ o.ioError = 0
  if valid ∧ status = .exited 0 ∧ o.terminal = .completed ∧
      o.terminalIterations = h.theRequest.iterations ∧
      o.terminalValue = expectedSum h.theRequest.iterations then
    .terminalSucceeded
  else if valid ∧ status = .exited 20 ∧ o.stopRequested = true ∧ o.terminal = .cancelled ∧
      o.terminalIterations < h.theRequest.iterations then
    .terminalCancelled
  else .terminalFailed

end ComputeHost

namespace HostProgram

variable (env : HostEnvironment)

/-! ### The environment -/

/-- `ComputeExecutionHost::now`. -/
def now : HostProgram MonotonicTime :=
  ⟨fun h ↦ (env.clock h.interactions,
      { h with
        interactions := h.interactions + 1
        lastReading := env.clock h.interactions }), fun h ↦ le_refl h.drawn⟩

/-- `ComputeProcess::can_launch`. -/
def canLaunch : HostProgram Bool :=
  ⟨fun h ↦ (env.canLaunch h.interactions, { h with interactions := h.interactions + 1 }),
    fun h ↦ le_refl h.drawn⟩

/-- An operation of the process that meets an answer of the environment. -/
def operate {α : Type} (answers : ℕ → α) (f : ComputeProcess → α → ComputeProcess) :
    HostProgram Unit :=
  .assign (fun h ↦
      { h with
        interactions := h.interactions + 1
        process := h.process.map fun p ↦ f p (answers h.interactions) })
    fun h ↦ le_refl h.drawn

/-- `process->launch()`. -/
def launchProcess : HostProgram Bool :=
  ⟨fun h ↦
      let answer := env.launch h.interactions
      (h.process.any fun p ↦ (p.launch answer).1,
        { h with
          interactions := h.interactions + 1
          process := h.process.map fun p ↦ (p.launch answer).2 }),
    fun h ↦ le_refl h.drawn⟩

/-- `process->close_channels()`. -/
def closeChannels : HostProgram Bool :=
  ⟨fun h ↦
      let answer := env.close h.interactions
      (h.process.any fun p ↦ (p.closeChannels answer.1 answer.2).1,
        { h with
          interactions := h.interactions + 1
          process := h.process.map fun p ↦ (p.closeChannels answer.1 answer.2).2 }),
    fun h ↦ le_refl h.drawn⟩

/-! ### The gate -/

/-- A call of the gate that can change it, and what its answer says. -/
def callGate {α : Type} (call : Call) (decode : Answer → α) : HostProgram α :=
  ⟨fun h ↦
      (decode (h.gate.call call).1,
        { h with gate := (h.gate.call call).2, calls := h.calls ++ [call] }),
    fun h ↦ le_refl h.drawn⟩

/-- What an answer says of evidence. -/
def disposition : Answer → EvidenceDisposition
  | .evidence disposition => disposition
  | _ => .rejected

/-- What an answer says of a binding. -/
def bindingDecision : Answer → BindingDecision
  | .binding decision => decision
  | _ => {}

/-- What an answer says of a revocation. -/
def controlDecision : Answer → ControlDecision
  | .control decision => decision
  | _ => {}

/-- What an answer says of an admission. -/
def admissionDecision : Answer → AdmissionDecision
  | .admission decision => decision
  | _ => {}

/-- What an answer says of a dispatch. -/
def dispatchClaimed : Answer → Bool
  | .dispatch claimed => claimed
  | _ => false

/-! ### Evidence -/

/-- `record`. -/
def record (source : String) (time : MonotonicTime) : HostProgram EvidenceRecord :=
  ⟨fun h ↦ (⟨source, time, h.sequence + 1⟩,
      { h with sequence := h.sequence + 1, drawn := h.drawn + 1 }), fun h ↦ Nat.le_succ h.drawn⟩

/-- `accept`. -/
def accept (disposition : EvidenceDisposition) : HostProgram Unit :=
  .assign (fun h ↦
      if disposition = .rejected then { h with evidenceError := true, rejected := true } else h)
    fun h ↦ by split <;> exact le_refl h.drawn

/-- `accept(gate.observe({…, record(source, time)}))`. -/
def emit (source : String) (time : MonotonicTime) (observe : EvidenceRecord → Call) :
    HostProgram Unit := do
  let drawn ← record source time
  accept (← callGate (observe drawn) disposition)

/-- `evidence_error = true`. -/
def setEvidenceError : HostProgram Unit :=
  .assign (fun h ↦ { h with evidenceError := true }) fun h ↦ le_refl h.drawn

/-- `evidence_expiry`. -/
def evidenceExpiry (time : MonotonicTime) : MonotonicTime :=
  if 0xFFFFFFFFFFFFFFFF - 1000 < time then 0xFFFFFFFFFFFFFFFF else time + 1000

/-- `apply_stop`. -/
def applyStop (decision : ControlDecision) (time : MonotonicTime) : HostProgram Unit := do
  let launched ← .read (·.launched)
  .guarded (decision.shouldRequestNativeStop = true ∧ launched = true)
    (operate env.send fun p send ↦ p.requestStop time send)

/-- `expire`. -/
def expire (time : MonotonicTime) : HostProgram Unit := do
  let h ← .read id
  .guarded (h.authority.isSome = true) do
    let decision ← callGate (.observeTime h.theAuthority time) controlDecision
    applyStop env decision time

/-- `settle_unsubmitted`. -/
def settleUnsubmitted (cleanupConfirmed : Bool) : HostProgram Unit := do
  let time ← now env
  let authority ← .read (·.theAuthority)
  emit hostObserver time fun record ↦ .observeNonSubmission ⟨authority, record⟩
  emit hostObserver time fun record ↦
    .observeOutputNotDelivered ⟨authority, .noOutputProduced, "", record⟩
  if cleanupConfirmed then
    emit hostObserver time fun record ↦ .observeSettlement ⟨authority, hostScope, true, record⟩
  else setEvidenceError

/-- `withdraw_binding`. -/
def withdrawBinding (expectedBinding : BindingIdentity) : HostProgram BindingDecision := do
  let time ← now env
  let decision ← callGate (.withdrawBinding expectedBinding time) bindingDecision
  .guarded (decision.status = .applied) do
    let h ← .read id
    .guarded (∃ stop ∈ decision.nativeStopAuthority, ∃ authority ∈ h.authority,
        authorityMatches stop authority)
      (applyStop env ⟨.applied, true⟩ time)
    let h ← .read id
    .guarded (∃ receipt ∈ h.currentReceipt, receipt.dispatch = .pending)
      (settleUnsubmitted env true)
  pure decision

/-- The capabilities that the host reports of a binding. -/
def hostCapabilities (config : ComputeHostConfig) (binding : BindingIdentity) (available : Bool)
    (record : EvidenceRecord) : ExecutionCapabilities :=
  { binding
    capabilityId := hostCapability
    profileId := localComputeProfile
    maximumWorkUnits := config.maximumIterations
    available
    record
    validUntil := evidenceExpiry record.observedAt }

/-- The evidence of `observe_capabilities`. -/
def reportCapabilities (binding : BindingIdentity) (available : Bool) (time : MonotonicTime) :
    HostProgram Unit := do
  let config ← .read (·.config)
  emit hostObserver time fun record ↦
    .observeExecutionCapabilities (hostCapabilities config binding available record)

/-- `observe_capabilities`. -/
def observeCapabilities (time : MonotonicTime) : HostProgram Bool := do
  let status ← .read (·.gate.bindingStatus time)
  if status.phase ≠ .active then pure false
  else do
    let available ← canLaunch env
    reportCapabilities status.active available time
    let initialized ← .read (·.initialized)
    .guarded (initialized = true ∧ available = false) do
      let _ ← withdrawBinding env status.active
    pure available

/-- `native`. -/
def native (kind : NativeEventKind) (time : MonotonicTime) : HostProgram Unit := do
  let h ← .read id
  emit hostNative time fun record ↦ .observeNative ⟨h.theAuthority, h.nativeIdentity, kind, record⟩

/-! ### Rebinding -/

/-- `config.worker_executable.swap(executable); initialized = true`. -/
def installWorker (executable : String) : HostProgram Unit :=
  .assign (fun h ↦
      { h with
        config := { h.config with workerExecutable := executable }
        initialized := true })
    fun h ↦ le_refl h.drawn

/-- An observation about a candidate, whose answer `rebind_provider` does not read. -/
def observeCandidate (source : String) (time : MonotonicTime) (observe : EvidenceRecord → Call) :
    HostProgram Unit := do
  let drawn ← record source time
  callGate (observe drawn) fun _ ↦ ⟨⟩

/-- The commit of `rebind_provider`; the install of the worker cannot fail. -/
def commitCandidate (candidate : BindingIdentity) (executable : String) (time : MonotonicTime) :
    HostProgram BindingDecision := do
  let committed ← callGate (.commitRebind candidate time) bindingDecision
  .guarded (committed.status = .applied) (installWorker executable)
  pure committed

/-- The observations about a candidate and its commit, in `rebind_provider`. -/
def installCandidate (candidate : BindingIdentity) (executable : String) :
    HostProgram BindingDecision := do
  let ready ← canLaunch env
  let observedAt ← now env
  let expiry := evidenceExpiry observedAt
  observeCandidate hostObserver observedAt fun record ↦
    .observeRebindReadiness ⟨.bindingIdleAndSettled, candidate, record, true, expiry⟩
  observeCandidate hostObserver observedAt fun record ↦
    .observeRebindReadiness ⟨.adapterReady, candidate, record, ready, expiry⟩
  observeCandidate hostSink observedAt fun record ↦
    .observeRebindReadiness ⟨.resultSinkReady, candidate, record, true, expiry⟩
  let config ← .read (·.config)
  observeCandidate hostObserver observedAt fun record ↦
    .observeExecutionCapabilities (hostCapabilities config candidate ready record)
  let committedAt ← now env
  let committed ← commitCandidate candidate executable committedAt
  .guarded (committed.status ≠ .applied) do
    let withdrawnAt ← now env
    callGate (.withdrawBinding candidate withdrawnAt) fun _ ↦ ⟨⟩
  pure committed

/-- The preparation of a candidate, in `rebind_provider`. -/
def prepareCandidate (expectedOldBinding : BindingIdentity) (providerId : String)
    (time : MonotonicTime) : HostProgram BindingDecision := do
  let oldScope ← record hostObserver time
  callGate
    (.beginRebind expectedOldBinding providerId
      ⟨.bindingIdleAndSettled, expectedOldBinding, oldScope, true, evidenceExpiry time⟩ time)
    bindingDecision

/-- `rebind_provider`. -/
def rebindProvider (expectedOldBinding : BindingIdentity) (providerId workerExecutable : String) :
    HostProgram BindingDecision := do
  let time ← now env
  let h ← .read id
  let status := h.gate.bindingStatus time
  if h.shutdown ≠ .isOpen then pure { status := .closed }
  else if expectedOldBinding ≠ status.active then pure { status := .staleIdentity }
  else if status.phase ≠ .withdrawn then pure { status := .wrongPhase }
  else if ¬ h.oldScopeIsClear then pure { status := .unresolvedWork }
  else if providerId = "" ∨ ¬ isAbsolute workerExecutable then
    pure { status := .invalidProvider }
  else do
    let preparedAt ← now env
    let begun ← prepareCandidate expectedOldBinding providerId preparedAt
    match begun.candidate with
    | none => pure begun
    | some candidate =>
      if begun.status ≠ .applied then pure begun
      else installCandidate env candidate workerExecutable

/-! ### Starting -/

/-- The startup evidence of `initialize`. -/
def observeStartups (binding : BindingIdentity) (ready : Bool) (time : MonotonicTime) :
    HostProgram Unit := do
  emit hostObserver time fun record ↦
    .observeStartup ⟨.bindingIdleAndSettled, binding, record, true⟩
  emit hostObserver time fun record ↦ .observeStartup ⟨.adapterReady, binding, record, ready⟩
  emit hostSink time fun record ↦ .observeStartup ⟨.resultSinkReady, binding, record, true⟩
  .assign (fun h ↦ { h with initialized := ready && !h.evidenceError }) fun h ↦ le_refl h.drawn

/-- `initialize`. -/
def initializeHost : HostProgram StartupStatus := do
  let time ← now env
  let h ← .read id
  let binding := h.gate.bindingStatus time
  .guarded (h.shutdown = .isOpen ∧ binding.phase = .active) do
    let ready ← observeCapabilities env time
    let initialized ← .read (·.initialized)
    .guarded (initialized = false) (observeStartups binding.active ready time)
  .read (·.gate.startupStatus)

/-! ### Submission -/

/-- The assignments of `prepare` for an admitted operation; the old process is destroyed. -/
def adoptOperation (authority : OperationAuthority) (request : ComputeRequest) :
    HostProgram Unit :=
  .assign (fun h ↦
      { h with
        discarded := h.discarded ++ h.process.toList
        process := none
        result := none
        authority := some authority
        request := some request
        nativeIdentity := "compute-child-" ++ toString authority.operationId
        resultReference := "compute-result-" ++ toString authority.operationId
        stopReported := false
        outcomeReported := false })
    fun h ↦ le_refl h.drawn

/-- `operation` of `prepare`. -/
def operationRequest (request : ComputeRequest) (effectDomain : String) (time : MonotonicTime) :
    OperationRequest :=
  { capabilityId := hostCapability
    effectDomain
    opaqueRequestReference := request.requestReference
    targetReference := hostSink
    requestedAt := time
    deadline := request.deadline
    executionRequirements := some ⟨request.requiredProfileId, request.iterations⟩ }

/-- The admission of `prepare`. -/
def admitOperation (request : ComputeRequest) (effectDomain : String) (time : MonotonicTime) :
    HostProgram ComputeSubmission := do
  let admission ←
    callGate (.admitRequest (operationRequest request effectDomain time)) admissionDecision
  match admission.authority with
  | none => pure { status := .admissionBlocked, admissionStatus := admission.status }
  | some authority => do
    adoptOperation authority request
    pure
      { status := .prepared
        admissionStatus := admission.status
        authority := some authority }

/-- `prepare`. -/
def prepare (request : ComputeRequest) : HostProgram ComputeSubmission := do
  let h ← .read id
  if ¬ request.Valid then pure {}
  else if h.evidenceError = true then
    pure { status := .admissionBlocked, admissionStatus := .recoveryRequired }
  else if h.shutdown ≠ .isOpen then
    pure { status := .admissionBlocked, admissionStatus := .closed }
  else do
    let observedAt ← now env
    let _ ← observeCapabilities env observedAt
    let statusAt ← now env
    let status ← .read (·.gate.bindingStatus statusAt)
    let requestedAt ← now env
    admitOperation request status.active.effectDomain requestedAt

/-- `process` of `dispatch_prepared`, which is kept when the dispatch is claimed. -/
def installProcess (process : ComputeProcess) : HostProgram Unit :=
  .assign (fun h ↦ { h with process := some process }) fun h ↦ le_refl h.drawn

/-- The end of the scope of a process that was not kept. -/
def discardProcess (process : ComputeProcess) : HostProgram Unit :=
  .assign (fun h ↦ { h with discarded := h.discarded ++ [process] }) fun h ↦ le_refl h.drawn

/-- The launch of `dispatch_prepared`. -/
def launchPrepared : HostProgram Bool := do
  let launched ← launchProcess env
  if launched = false then do
    let observed ← .read (·.observed)
    settleUnsubmitted env (decide (observed.ioError = 0))
    pure false
  else do
    let acceptedAt ← now env
    native .accepted acceptedAt
    pure true

/-- The claim of `dispatch_prepared`, which is not made after an evidence error. -/
def claimUnlessError (authority : OperationAuthority) (time : MonotonicTime) :
    HostProgram Bool := do
  let evidenceError ← .read (·.evidenceError)
  if evidenceError then pure false else callGate (.claimDispatch authority time) dispatchClaimed

/-- The claim of `dispatch_prepared` and what follows it. -/
def dispatchProcess (authority : OperationAuthority) (process : ComputeProcess)
    (time : MonotonicTime) : HostProgram Bool := do
  let claimed ← claimUnlessError authority time
  if claimed = false then do
    settleUnsubmitted env true
    discardProcess process
    pure false
  else do
    installProcess process
    launchPrepared env

/-- `dispatch_prepared`. -/
def dispatchPrepared (authority : OperationAuthority) : HostProgram Bool := do
  let h ← .read id
  if h.authority ≠ some authority ∨ h.request = none ∨ h.process.isSome = true then pure false
  else do
    let observedAt ← now env
    let _ ← observeCapabilities env observedAt
    let h ← .read id
    if ¬ ∃ receipt ∈ h.gate.receipt authority, receipt.dispatch = .pending then pure false
    else do
      let process := ComputeProcess.create h.config.workerExecutable h.theRequest.iterations
        h.config.stopGraceMs
      let time ← now env
      expire env time
      dispatchProcess env authority process time

/-- `submit`. -/
def submit (request : ComputeRequest) : HostProgram ComputeSubmission := do
  let submission ← prepare env request
  match submission.authority with
  | none => pure submission
  | some authority => do
    let dispatched ← dispatchPrepared env authority
    pure { submission with status := if dispatched then .submitted else .notSubmitted }

/-! ### Control -/

/-- `request_cancel`. -/
def requestCancel (authority : OperationAuthority) : HostProgram ControlDecision := do
  let time ← now env
  let decision ← callGate (.requestCancel authority time) controlDecision
  applyStop env decision time
  let h ← .read id
  .guarded (decision.status = .applied ∧
      ∃ receipt ∈ h.gate.receipt authority, receipt.dispatch = .pending)
    (settleUnsubmitted env true)
  pure decision

/-- The report of a start, in `observe_process_events`. -/
def reportStarted : HostProgram Unit := do
  let startedAt ← now env
  native .started startedAt

/-- The stop response that `observe_process_events` reads off the observation. -/
def stopAcknowledgement (o : ProcessObservation) : StopAcknowledgement :=
  if o.stopDelivered = false then .unavailable
  else if o.stopIgnored = true then .refused
  else .acknowledged

/-- The report of a stop response, in `observe_process_events`. -/
def reportStop : HostProgram Unit := do
  let h ← .read id
  let acknowledgedAt ← now env
  emit hostStop acknowledgedAt fun record ↦
    .observeStopAcknowledgement ⟨h.theAuthority, stopAcknowledgement h.observed, record⟩
  .assign (fun h ↦ { h with stopReported := true }) fun h ↦ le_refl h.drawn

/-- `observe_process_events`. -/
def observeProcessEvents : HostProgram Unit := do
  let h ← .read id
  .guarded (h.observed.started = true ∧
      ∃ receipt ∈ h.gate.receipt h.theAuthority, receipt.nativeStarted = false)
    (reportStarted env)
  let h ← .read id
  .guarded (h.stopReported = false ∧ h.observed.stopRequested = true ∧
      (h.observed.stopDelivered = false ∨ h.observed.stopAcknowledged = true ∨
        h.observed.stopIgnored = true))
    (reportStop env)

/-- `update_shutdown_status`. -/
def updateShutdownStatus : HostProgram Unit :=
  .assign (fun h ↦
      if h.shutdown = .isOpen then h
      else if h.evidenceError = true ∨
          (h.process.isSome = true ∧
            (h.observed.ownershipLost = true ∨
              (h.ownedClear = false ∧
                (h.observed.ioError ≠ 0 ∨ h.observed.terminationError ≠ 0)))) then
        { h with shutdown := .unresolved }
      else if h.isSettled ∧ h.ownedClear = true then { h with shutdown := .closed }
      else h)
    fun h ↦ by repeat' split
               all_goals exact le_refl h.drawn

/-- `result = std::move(pending)`, of `finish`. -/
def fillResult : HostProgram Unit :=
  .assign (fun h ↦
      { h with
        result := some
          { operationId := h.theAuthority.operationId
            requestReference := h.theRequest.requestReference
            iterations := h.theRequest.iterations
            sum := h.observed.terminalValue } })
    fun h ↦ le_refl h.drawn

/-- The delivery of a result, in `finish`: the slot is filled before the gate is asked. -/
def deliverResult : HostProgram Unit := do
  let deliveryTime ← now env
  expire env deliveryTime
  let h ← .read id
  if h.evidenceError = false ∧ h.gate.canDeliverResult h.theAuthority then do
    fillResult
    emit hostSink deliveryTime fun record ↦
      .observeOutputAccepted ⟨h.theAuthority, h.resultReference, record⟩
  else
    emit hostSink deliveryTime fun record ↦
      .observeOutputNotDelivered ⟨h.theAuthority, .authorityRevoked, h.resultReference, record⟩

/-- What `finish` reports of the output once a terminal event is reported. -/
def reportOutput (kind : NativeEventKind) (time : MonotonicTime) : HostProgram Unit := do
  let authority ← .read (·.theAuthority)
  if kind = .terminalSucceeded then deliverResult env
  else
    emit hostObserver time fun record ↦
      .observeOutputNotDelivered ⟨authority, .noOutputProduced, "", record⟩

/-- The outcome that `finish` reports once, after the deadline was looked at. -/
def reportTerminal (status : ExitStatus) (time : MonotonicTime) : HostProgram Unit := do
  let kind ← .read (·.terminalKind status)
  native kind time
  reportOutput env kind time
  .assign (fun h ↦ { h with outcomeReported := true }) fun h ↦ le_refl h.drawn

/-- The report of the outcome, in `finish`. -/
def reportOutcome (status : ExitStatus) : HostProgram Unit := do
  let time ← now env
  expire env time
  reportTerminal env status time

/-- The settlement that ends `finish` once the channels are closed. -/
def settleClosed : HostProgram Unit := do
  let h ← .read id
  .guarded (h.evidenceError = false ∧
      ∃ receipt ∈ h.gate.receipt h.theAuthority, receipt.settlement = .pending) do
    let settledAt ← now env
    emit hostObserver settledAt fun record ↦
      .observeSettlement ⟨h.theAuthority, hostScope, true, record⟩

/-- The release of the channels that ends `finish`. -/
def closeAndSettle : HostProgram Unit := do
  let closed ← closeChannels env
  .guarded (closed = true) (settleClosed env)

/-- `finish`. -/
def finish : HostProgram Unit := do
  let h ← .read id
  match h.observed.exitStatus with
  | none => pure ⟨⟩
  | some status =>
    .guarded (h.observed.eventEof = true ∧ h.observed.ownershipLost = false) do
      .guarded (h.outcomeReported = false) (reportOutcome env status)
      closeAndSettle env

/-- The test of the support of the binding, in `poll`: it is made only while the host is open
and the binding active. -/
def checkSupport : HostProgram Unit := do
  let statusAt ← now env
  let h ← .read id
  let binding := h.gate.bindingStatus statusAt
  .guarded (h.shutdown = .isOpen ∧ binding.phase = .active) do
    let supportedAt ← now env
    let h ← .read id
    .guarded (¬ h.gate.supportsExecution
        ⟨h.theRequest.requiredProfileId, h.theRequest.iterations⟩ supportedAt) do
      let _ ← withdrawBinding env binding.active

/-- The part of `poll` for a child whose channels are not closed. -/
def pollProcess : HostProgram Unit := do
  checkSupport env
  let polledAt ← now env
  operate env.poll fun p answer ↦ p.poll polledAt answer
  let h ← .read id
  .guarded (h.observed.malformed = true ∨ h.observed.ioError ≠ 0 ∨
      h.observed.ownershipLost = true) do
    let _ ← requestCancel env h.theAuthority
  observeProcessEvents env
  finish env

/-- `poll`. -/
def poll : HostProgram Unit := do
  let h ← .read id
  .guarded (h.shutdown ≠ .closed) do
    .guarded (h.shutdown = .isOpen ∧ h.initialized = true) do
      let observedAt ← now env
      let _ ← observeCapabilities env observedAt
    let time ← now env
    expire env time
    let h ← .read id
    .guarded (h.authority.isSome = true ∧ h.process.isNone = true ∧
        ∃ receipt ∈ h.gate.receipt h.theAuthority, receipt.dispatch = .pending ∧
          receipt.authorityDisposition = .revoked)
      (settleUnsubmitted env true)
    let h ← .read id
    .guarded (h.launched = true ∧ h.observed.channelsClosed = false) (pollProcess env)
    updateShutdownStatus

/-- `begin_shutdown` closes the admission. -/
def closeAdmission : HostProgram Unit := do
  .assign (fun h ↦ { h with shutdown := .closing }) fun h ↦ le_refl h.drawn
  callGate .closeAdmission fun _ ↦ ⟨⟩

/-- `begin_shutdown`. -/
def beginShutdown : HostProgram Unit := do
  let h ← .read id
  .guarded (h.shutdown = .isOpen) do
    closeAdmission
    let h ← .read id
    .guarded (h.authority.isSome = true) do
      let _ ← requestCancel env h.theAuthority
    poll env

end HostProgram

/-! ### Runs -/

/-- A call of the host that can change it, with its arguments. -/
inductive HostCall where
  | initializeHost
  | prepare (request : ComputeRequest)
  | dispatchPrepared (authority : OperationAuthority)
  | submit (request : ComputeRequest)
  | requestCancel (authority : OperationAuthority)
  | withdrawBinding (expectedBinding : BindingIdentity)
  | rebindProvider (expectedOldBinding : BindingIdentity) (providerId workerExecutable : String)
  | poll
  | beginShutdown
  deriving DecidableEq, Repr

/-- What a call of the host answers. -/
inductive HostAnswer where
  | startup (status : StartupStatus)
  | submission (submission : ComputeSubmission)
  | dispatched (dispatched : Bool)
  | control (decision : ControlDecision)
  | binding (decision : BindingDecision)
  | done
  deriving DecidableEq, Repr

/-- One call on a host. -/
def HostCall.program (env : HostEnvironment) : HostCall → HostProgram HostAnswer
  | .initializeHost => do
    let status ← HostProgram.initializeHost env
    pure (.startup status)
  | .prepare request => do
    let submission ← HostProgram.prepare env request
    pure (.submission submission)
  | .dispatchPrepared authority => do
    let dispatched ← HostProgram.dispatchPrepared env authority
    pure (.dispatched dispatched)
  | .submit request => do
    let submission ← HostProgram.submit env request
    pure (.submission submission)
  | .requestCancel authority => do
    let decision ← HostProgram.requestCancel env authority
    pure (.control decision)
  | .withdrawBinding expected => do
    let decision ← HostProgram.withdrawBinding env expected
    pure (.binding decision)
  | .rebindProvider expected providerId executable => do
    let decision ← HostProgram.rebindProvider env expected providerId executable
    pure (.binding decision)
  | .poll => do
    HostProgram.poll env
    pure .done
  | .beginShutdown => do
    HostProgram.beginShutdown env
    pure .done

/-- The host as a machine that answers calls. -/
def computeHost (env : HostEnvironment) : Mealy ComputeHost HostCall HostAnswer :=
  ⟨fun h c ↦ (c.program env).run h⟩

/-- A run: a configuration that the constructor accepts, the generation and the reading of the
clock that it meets, the environment, and the calls made on the host. -/
structure HostRun where
  config : ComputeHostConfig
  accepted : config.Accepted
  generation : UInt64
  assigned : generation ≠ 0
  startedAt : MonotonicTime
  env : HostEnvironment
  calls : List HostCall

namespace HostRun

/-- The host that the constructor returns. -/
def start (run : HostRun) : ComputeHost := .initial run.config run.generation run.startedAt

/-- The host after all calls. -/
def final (run : HostRun) : ComputeHost := (computeHost run.env).run run.start run.calls

/-- The calls with their answers, oldest first. -/
def history (run : HostRun) : List (Mealy.Event ComputeHost HostCall HostAnswer) :=
  (computeHost run.env).trace run.start run.calls

/-- The start of a run is what the constructor returns. -/
theorem create_eq_ok (run : HostRun) :
    ComputeHost.create run.config run.generation run.startedAt = .ok run.start := by
  rw [ComputeHost.create, if_pos run.accepted]
  rfl

/-- The clock that the run reads is nondecreasing. -/
structure Monotone (run : HostRun) : Prop where
  start_le : run.startedAt ≤ run.env.clock 0
  clock_le : ∀ m n, m ≤ n → run.env.clock m ≤ run.env.clock n

end HostRun

end RobotHarness.Compute
