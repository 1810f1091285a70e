import RobotHarness.Python.Navigation

/-!
# The host of a session

`Host` of `bindings/python/robot_harness/_host.py`, over its coordinator and a backend, and the
backend of `_fixture.py`. What the host meets outside are streams, read in the order in which it
asks: the readings of the clock, in nanoseconds for `time.monotonic` too, what `poll` says of the
worker, and what the queues of its channels answer. Messages come with each turn of its loop.
Beside the members of the source the host keeps a log of what it did about its operations.
-/

namespace RobotHarness.Python

open Transport (Json Dict)

/-- `MAX_STEPS`. -/
def maxSteps : ℕ := 400

/-! ### Messages -/

mutual

/-- Equality of what `json` reads. -/
def decideJson : (a b : Json) → Decidable (a = b)
  | .null, b => match b with
    | .null => isTrue rfl
    | .bool _ | .int _ | .float _ | .string _ | .array _ | .object _ => isFalse nofun
  | .bool a, b => match b with
    | .bool b => decidable_of_iff (a = b) ⟨congrArg Json.bool, Json.bool.inj⟩
    | .null | .int _ | .float _ | .string _ | .array _ | .object _ => isFalse nofun
  | .int a, b => match b with
    | .int b => decidable_of_iff (a = b) ⟨congrArg Json.int, Json.int.inj⟩
    | .null | .bool _ | .float _ | .string _ | .array _ | .object _ => isFalse nofun
  | .float a, b => match b with
    | .float b => decidable_of_iff (a = b) ⟨congrArg Json.float, Json.float.inj⟩
    | .null | .bool _ | .int _ | .string _ | .array _ | .object _ => isFalse nofun
  | .string a, b => match b with
    | .string b => decidable_of_iff (a = b) ⟨congrArg Json.string, Json.string.inj⟩
    | .null | .bool _ | .int _ | .float _ | .array _ | .object _ => isFalse nofun
  | .array a, b => match b with
    | .array b =>
      @decidable_of_iff _ (a = b) ⟨congrArg Json.array, Json.array.inj⟩ (decideItems a b)
    | .null | .bool _ | .int _ | .float _ | .string _ | .object _ => isFalse nofun
  | .object a, b => match b with
    | .object b =>
      @decidable_of_iff _ (a = b) ⟨congrArg Json.object, Json.object.inj⟩ (decideFields a b)
    | .null | .bool _ | .int _ | .float _ | .string _ | .array _ => isFalse nofun

/-- Equality of arrays. -/
def decideItems : (a b : List Json) → Decidable (a = b)
  | [], b => match b with
    | [] => isTrue rfl
    | _ :: _ => isFalse nofun
  | a :: as, b => match b with
    | [] => isFalse nofun
    | b :: bs =>
      @decidable_of_iff _ (a = b ∧ as = bs) List.cons_eq_cons.symm
        (@instDecidableAnd _ _ (decideJson a b) (decideItems as bs))

/-- Equality of the items of dictionaries. -/
def decideFields : (a b : List (String × Json)) → Decidable (a = b)
  | [], b => match b with
    | [] => isTrue rfl
    | _ :: _ => isFalse nofun
  | (key, a) :: as, b => match b with
    | [] => isFalse nofun
    | (key', b) :: bs =>
      @decidable_of_iff _ (key = key' ∧ a = b ∧ as = bs)
        (by simp only [List.cons.injEq, Prod.mk.injEq, and_assoc])
        (@instDecidableAnd _ _ _ (@instDecidableAnd _ _ (decideJson a b) (decideFields as bs)))

end

/-- Whether two values are equal. -/
instance decidableEqJson : DecidableEq Json := decideJson

/-- Equality of floats, of which a NaN equals none. -/
def sameFloat (a b : UInt64) : Bool :=
  (a == b && decide (a <<< 1 ≤ 0xFFE0000000000000)) || (a ||| b) <<< 1 == 0

mutual

/-- `matches_identity`. -/
def matchesIdentity : Json → Json → Bool
  | actual, .null => match actual with
    | .null => true
    | _ => false
  | actual, .bool expected => match actual with
    | .bool value => value == expected
    | _ => false
  | actual, .int expected => match actual with
    | .int value => value == expected
    | _ => false
  | actual, .float expected => match actual with
    | .float value => sameFloat value expected
    | _ => false
  | actual, .string expected => match actual with
    | .string value => value == expected
    | _ => false
  | actual, .array expected => match actual with
    | .array values => matchesItems values expected
    | _ => false
  | actual, .object expected => match actual with
    | .object fields => matchesFields fields expected
    | _ => false

/-- The part of `matches_identity` about lists. -/
def matchesItems : List Json → List Json → Bool
  | values, [] => values.isEmpty
  | values, expected :: rest => match values with
    | value :: values => matchesIdentity value expected && matchesItems values rest
    | [] => false

/-- The part of `matches_identity` about dictionaries. -/
def matchesFields : Dict → List (String × Json) → Bool
  | _, [] => true
  | fields, (key, expected) :: rest =>
    (match Dict.get? fields key with
      | some value => matchesIdentity value expected
      | none => false) && matchesFields fields rest

end

/-- A value that is not `None`. -/
def present : Json → Option Json
  | .null => none
  | value => some value

/-- `message.get`. -/
def item (message : Dict) (key : String) : Option Json := (Dict.get? message key).bind present

/-! ### Exceptions and backends -/

/-- What the host raises. -/
inductive HostError where
  | failure (failure : Failure)
  | bufferError (text : String)
  | osError (text : String)
  | eofError (text : String)
  deriving DecidableEq, Repr

/-- `str` of an exception. -/
def HostError.text : HostError → String
  | .failure (.valueError text) | .failure (.runtimeError text) => text
  | .failure (.keyError key) => "'" ++ key ++ "'"
  -- No handler reads the texts of the others.
  | .failure _ => ""
  | .bufferError text | .osError text | .eofError text => text

/-- The exceptions that `command` answers. -/
def HostError.isRequest : HostError → Bool
  | .failure (.valueError _) | .failure (.keyError _) => true
  | _ => false

/-- The exceptions that `run` takes for the loss of a peer. -/
def HostError.isConnection : HostError → Bool
  | .failure (.valueError _) | .bufferError _ | .osError _ | .eofError _ => true
  | _ => false

/-- Why an operation is finished. -/
inductive FinishReason where
  | completed | nativeFailure | stepLimit | workerError | notSubmitted | cancelled
  deriving DecidableEq, Repr

/-- The text of a reason. -/
def FinishReason.name : FinishReason → String
  | .completed => "completed"
  | .nativeFailure => "native_failure"
  | .stepLimit => "step_limit"
  | .workerError => "worker_error"
  | .notSubmitted => "not_submitted"
  | .cancelled => "cancelled"

/-- The outcome that `finish` reports for a reason. -/
def FinishReason.outcome : FinishReason → NativeEventKind
  | .completed => .terminalSucceeded
  | .workerError | .stepLimit | .nativeFailure => .terminalFailed
  | .notSubmitted | .cancelled => .terminalCancelled

/-- What `observe` returns: the items that the host reads, and the whole. -/
structure BackendObservation where
  epoch : ℤ
  sequence : ℤ
  /-- `get('valid', False)`. -/
  valid : Bool := false
  value : Json
  deriving DecidableEq

/-- An entry of `skills`, with the bounds on its steps. -/
structure Skill where
  name : String
  minimum : ℕ
  maximum : ℕ
  deriving DecidableEq, Repr

/-- The members of a backend. Its methods that may raise leave the state they have reached. -/
structure Backend (β : Type) where
  capability : String
  profile : String
  provider : String
  domain : String
  /-- In nanoseconds. -/
  stepInterval : ℕ
  /-- The first entry of `skills`. -/
  defaultSkill : Skill
  otherSkills : List Skill := []
  requiresObservation : Bool := false
  localTargetSkills : List String := []
  /-- `isinstance(backend, IncrementBackend)`. -/
  isFixture : Bool := false
  steps : β → ℕ
  closed : β → Bool
  observe : β → BackendObservation
  step : Json → Fallible String β Unit
  reset : Option ℕ → Fallible String β Unit
  sample : Fallible HostError β (Json × List UInt8)
  validateActions : Option Json → ℤ → β → Except HostError Unit
  completion : ℕ → β → Option FinishReason
  finish : FinishReason → Fallible HostError β Json
  canStart : String → ℕ → β → Bool
  beginOperation : String → Option OperationId → Fallible String β Unit
  afterSettlement : Bool → Fallible HostError β Bool
  close : Fallible HostError β Unit

/-- `skills`. -/
def Backend.skills {β : Type} (backend : Backend β) : List Skill :=
  backend.defaultSkill :: backend.otherSkills

/-! ### The host -/

/-- The arguments of a submission. -/
structure HostArguments where
  skill : Option Json
  steps : ℕ
  deadlineMs : Option ℕ
  expected : Option (ℕ × ℕ)
  deriving DecidableEq

/-- The fields that a record of the host has besides. -/
structure HostFields where
  steps : ℕ
  skill : Option Json
  epoch : ℤ
  revokedAtStep : Option ℕ := none
  execution : Option Json := none

/-- The phases of a host. -/
inductive HostPhase where
  | starting | ready | running | needsReset | failed | closing
  deriving DecidableEq, Repr

/-- A prediction that the worker was asked for. -/
structure Prediction where
  identity : Json
  count : ℤ

/-- What a channel raises of a message that it does not take. -/
inductive QueueFailure where
  | bufferError (text : String)
  | valueError (text : String)
  deriving DecidableEq, Repr

/-- The exception of a channel. -/
def QueueFailure.error : QueueFailure → HostError
  | .bufferError text => .bufferError text
  | .valueError text => .failure (.valueError text)

/-- What the host meets outside, each in the order in which it asks. -/
structure Surroundings where
  /-- `time.monotonic_ns()` and `time.monotonic()`. -/
  clock : ℕ → ℕ
  /-- `worker.poll() is not None`. -/
  exited : ℕ → Bool
  /-- `queue` of a channel. -/
  queued : ℕ → Except QueueFailure Unit
  /-- `not channel.outgoing`. -/
  drained : ℕ → Bool

/-- What the host did about an operation. -/
inductive HostEvent where
  | admitted (operation : OperationId) (units : ℕ)
  /-- The operation repeats the last action of the one before. -/
  | fixed (operation : OperationId) (action : Json)
  | claimed (operation : OperationId)
  /-- What `tick` found in `advance`. -/
  | ticked (operation : OperationId) (disposition : AuthorityDisposition)
  /-- The worker is asked for a prediction of this identity. -/
  | requested (operation : OperationId) (identity : Json)
  /-- The actions of an answer are queued: its identity, and whether `validate_actions` takes it. -/
  | validated (operation : OperationId) (identity : Json) (valid : Bool) (actions : List Json)
  /-- `backend.step` is called. -/
  | stepped (operation : OperationId) (action : Json)
  /-- The evidence of an end is passed to the gate. -/
  | ended (operation : OperationId)
  deriving DecidableEq

/-- A snapshot, with the items that it has of the active request besides. -/
structure HostSnapshot where
  record : Snapshot HostFields
  /-- `steps`, `queue_remaining` and `prediction_pending`. -/
  live : Option (ℕ × ℕ × Bool)

/-- An entry of the skills that `capabilities` lists. -/
structure SkillAvailability where
  skill : Skill
  defaultSteps : ℕ
  available : Bool

/-- The result of a command. -/
inductive HostReply where
  | status (phase : HostPhase) (hostPid workerPid : ℕ) (workerReaped : Bool) (sessionId : String)
      (failure : Option String) (observation : BackendObservation)
  | record (snapshot : HostSnapshot)
  | sample (observation : Json) (payload : List UInt8)
  | capabilities (skill profile : String) (maximumSteps : ℕ) (available : Bool)
      (skills : Option (List SkillAvailability))
  | observation (value : BackendObservation)
  | workerReaped

/-- The host of a session. -/
structure Host (β : Type) where
  execution : ExecutionCoordinator HostArguments HostFields
  backend : β
  startupTimeout : ℕ
  hostPid : ℕ
  workerPid : ℕ
  sessionId : String
  phase : HostPhase := .starting
  queue : List Json := []
  prediction : Option Prediction := none
  lastAction : Option Json := none
  fixedAction : Option Json := none
  predictionSequence : ℕ := 0
  workerReady : Bool := false
  failure : Option String := none
  closingAt : Option ℕ := none
  closeRpc : Option ℕ := none
  peerAlive : Bool := true
  shutdownSent : Bool := false
  terminatedAt : Option ℕ := none
  killed : Bool := false
  closeReadyAt : Option ℕ := none
  nextStep : ℕ := 0
  nextCapabilityObservation : ℕ := 0
  startTime : ℕ
  /-- `worker_channel is not None`. -/
  workerChannel : Bool := true
  /-- How often the host has read the clock, and so on. -/
  readings : ℕ := 0
  polls : ℕ := 0
  queues : ℕ := 0
  drains : ℕ := 0
  /-- What was queued for the client. -/
  replies : List (ℕ × Except String HostReply) := []
  log : List HostEvent := []

/-- A method of the host. -/
abbrev Session (β : Type) := Fallible HostError (Host β)

/-- The messages of one turn: what each `pump` returns or raises. -/
structure Arrivals where
  client : Except HostError (List Dict) := .ok []
  worker : Except HostError (List Dict) := .ok []

namespace Host

variable {β : Type}

/-! ### What the host asks -/

/-- `now`. -/
def now (env : Surroundings) : Session β ℕ := do
  let reading ← .read fun s ↦ env.clock s.readings
  .assign fun s ↦ { s with readings := s.readings + 1 }
  pure reading

/-- `worker.poll() is not None`. -/
def workerExited (env : Surroundings) : Session β Bool := do
  let exited ← .read fun s ↦ env.exited s.polls
  .assign fun s ↦ { s with polls := s.polls + 1 }
  pure exited

/-- `queue` of a channel. -/
def queueMessage (env : Surroundings) : Session β Unit := do
  let answer ← .read fun s ↦ env.queued s.queues
  .assign fun s ↦ { s with queues := s.queues + 1 }
  match answer with
  | .ok () => pure ()
  | .error failure => .raise failure.error

/-- `not channel.outgoing`. -/
def channelDrained (env : Surroundings) : Session β Bool := do
  let drained ← .read fun s ↦ env.drained s.drains
  .assign fun s ↦ { s with drains := s.drains + 1 }
  pure drained

/-- A method of the coordinator. -/
def onExecution {α : Type} (p : Coordination HostArguments HostFields α) : Session β α :=
  .within Host.execution (fun execution s ↦ { s with execution }) (.lifted .failure p)

/-- A call of `self.gate`. -/
def onGate {α : Type} (call : GateProgram α) : Session β α :=
  onExecution (ExecutionCoordinator.onGate call)

/-- A method of the backend that may raise. -/
def onBackend {α : Type} (p : Fallible HostError β α) : Session β α :=
  .within Host.backend (fun backend s ↦ { s with backend }) p

/-- A method of the backend whose exceptions are handled. -/
def tryBackend {α : Type} (p : Fallible String β α) : Session β (Except String α) :=
  .within Host.backend (fun backend s ↦ { s with backend }) (.attempt p)

/-- `accepted`. -/
def accepted (disposition : EvidenceDisposition) : Session β Unit :=
  .lifted .failure (Python.accepted disposition)

/-- What a check of the message returns or raises. -/
def checked {α : Type} (result : Except Failure α) : Session β α :=
  .lifted .failure (.answer result)

/-- Raise a `ValueError`. -/
def refuse {α : Type} (text : String) : Session β α := .raise (.failure (.valueError text))

/-- An entry of the log. -/
def note (event : HostEvent) : Session β Unit :=
  .assign fun s ↦ { s with log := s.log ++ [event] }

/-- The record of `self.active`. -/
def activeRecord : Session β (String × Record HostArguments HostFields) := do
  let s ← .read id
  match s.execution.active with
  | none => .raise (.failure .typeError)
  | some reference =>
    match s.execution.records.get? reference with
    | none => .raise (.failure .typeError)
    | some record => pure (reference, record)

/-- `record['operation_id']`. -/
def operationOf (record : Record HostArguments HostFields) : Session β OperationId :=
  match record.operationId with
  | some operation => pure operation
  | none => .raise (.failure .typeError)

/-- The receipt of an operation, which `gate.receipt` returns. -/
def receiptOf (operation : OperationId) : Session β OperationReceipt := do
  match ← onGate (GateState.receipt operation) with
  | some receipt => pure receipt
  | none => .raise (.failure .typeError)

/-- An assignment to the fields of the driver. -/
def describe (reference : String) (f : HostFields → HostFields) : Session β Unit :=
  onExecution (ExecutionCoordinator.update reference fun record ↦
    { record with driver := f record.driver })

/-- `record['reason'] = reason`. -/
def setReason (reference : String) (reason : String) : Session β Unit :=
  onExecution (ExecutionCoordinator.update reference fun record ↦
    { record with reason := some reason })

/-- `if self.failure`. -/
def hasFailure (s : Host β) : Bool := s.failure.any (· ≠ "")

/-- `if self.closing_at`: a time of zero is false. -/
def hasClosingTime (s : Host β) : Bool := s.closingAt.any (· ≠ 0)

/-- The result of a command is queued for the client. -/
def reply (env : Surroundings) (rpc : ℕ) (content : Except String HostReply) : Session β Unit := do
  queueMessage env
  .assign fun s ↦ { s with replies := s.replies ++ [(rpc, content)] }

/-! ### Capabilities -/

/-- `refresh_capability`. -/
def refreshCapability (env : Surroundings) (available : Bool) : Session β Unit := do
  let stamp ← now env
  let disposition ← onGate (GateState.capabilities available stamp (stamp + 60000000000))
  accepted disposition
  .assign fun s ↦ { s with nextCapabilityObservation := stamp + 30000000000 }

/-- `maintain_capability`. -/
def maintainCapability (env : Surroundings) (backend : Backend β) : Session β Unit := do
  let s ← .read id
  if (s.phase = .ready ∨ s.phase = .running) ∧ s.workerReady = true then
    let exited ← workerExited env
    (if exited = false ∧ backend.closed s.backend = false then do
      let reading ← now env
      (if s.nextCapabilityObservation ≤ reading then refreshCapability env true else pure ())
    else pure ())
  else pure ()

/-- An observation of `initialize`. -/
def observeStartup (env : Surroundings) (kind : StartupEvidenceKind) : Session β Unit := do
  let stamp ← now env
  let disposition ← onGate (GateState.startup kind true stamp)
  accepted disposition

/-- `initialize`. -/
def initializeGate (env : Surroundings) : Session β Unit := do
  observeStartup env .bindingIdleAndSettled
  observeStartup env .workerReady
  observeStartup env .resultSinkReady
  refreshCapability env true
  .assign fun s ↦ { s with phase := .ready }

/-! ### Failure and closing -/

/-- `self.execution.cancel(record)`, which reads the clock for the active request. -/
def cancelRecord (env : Surroundings) (reference : String) : Session β Bool := do
  let active ← .read fun s : Host β ↦ s.execution.active
  let stamp ← (if active = some reference then now env else pure 0)
  onExecution (ExecutionCoordinator.cancel reference stamp)

/-- `record['revoked_at_step'] = self.backend.steps`. -/
def markRevoked (backend : Backend β) (reference : String) : Session β Unit := do
  let s ← .read id
  describe reference fun fields ↦ { fields with revokedAtStep := some (backend.steps s.backend) }

/-- `fail_worker`. -/
def failWorker (env : Surroundings) (backend : Backend β) (error : String) : Session β Unit := do
  let s ← .read id
  if s.failure = none then
    .assign fun s ↦ { s with failure := some error }
    refreshCapability env false
    (match s.execution.active with
      | some reference => do
        let _ ← cancelRecord env reference
        markRevoked backend reference
      | none => pure ())
    .assign fun s ↦ { s with queue := [], phase := .failed }
  else pure ()

/-- `begin_close`. -/
def beginClose (env : Surroundings) : Session β Unit := do
  let s ← .read id
  if s.closingAt = none then
    let reading ← now env
    .assign fun s ↦ { s with closingAt := some reading }
    (match s.execution.active with
      | some reference => do
        let _ ← cancelRecord env reference
        pure ()
      | none => pure ())
    .assign fun s ↦ { s with queue := [] }
    onGate GateState.close
    .assign fun s ↦ { s with phase := .closing }
  else pure ()

/-! ### Operations -/

/-- `self.execution.tick()`, without a receipt where no operation is active. -/
def tick (env : Surroundings) : Session β (Option OperationReceipt) := do
  let active ← .read fun s : Host β ↦ s.execution.active
  let stamp ← (if active.isSome then now env else pure 0)
  onExecution (ExecutionCoordinator.tick stamp)

/-- The evidence of a native event of the active operation. -/
def native (env : Surroundings) (reference : String) (kind : NativeEventKind) :
    Session β Unit := do
  let stamp ← now env
  let disposition ← onExecution (ExecutionCoordinator.native reference kind none stamp)
  accepted disposition

/-- The result of a finished operation goes to the gate, with three readings of the clock, of
which the coordinator uses those that it needs. -/
def disposeResult (env : Surroundings) (backend : Backend β) (reference : String)
    (candidate : Option Json) : Session β Unit := do
  let s ← .read id
  let first ← now env
  let second ← now env
  let third ← now env
  onExecution (ExecutionCoordinator.disposeResult reference candidate
    (.ok (backend.observe s.backend).value) first second third)

/-- Whether the result was delivered to a session that goes on. -/
def isDelivered (env : Surroundings) (reason : FinishReason) (reference : String) :
    Session β Bool := do
  let s ← .read id
  let record ← onExecution (ExecutionCoordinator.lookup reference)
  match record.receipt with
  | none => .raise (.failure .typeError)
  | some receipt =>
    if reason = .completed ∧ record.result.isSome ∧ receipt.authorityDisposition = .released ∧
        receipt.output = .accepted ∧ s.failure = none ∧ s.closingAt = none then
      let exited ← workerExited env
      pure !exited
    else pure false

/-- The phase after an operation. -/
def phaseAfter (s : Host β) (continuation : Bool) : HostPhase :=
  if hasFailure s = true then .failed
  else if hasClosingTime s = true then .closing
  else if continuation = true then .ready
  else .needsReset

/-- The part of `finish` after the end of the operation was reported. -/
def closeOperation (env : Surroundings) (backend : Backend β) (reason : FinishReason)
    (reference : String) (summary : Json) : Session β Unit := do
  setReason reference reason.name
  disposeResult env backend reference (if reason = .completed then present summary else none)
  let stamp ← now env
  onExecution (ExecutionCoordinator.settle reference stamp)
  let s ← .read id
  describe reference fun fields ↦ { fields with steps := backend.steps s.backend }
  let delivered ← isDelivered env reason reference
  let continuation ← onBackend (backend.afterSettlement delivered)
  onExecution (ExecutionCoordinator.release reference)
  .assign fun s ↦ { s with fixedAction := none, phase := phaseAfter s continuation }
  if continuation = true then refreshCapability env true else pure ()

/-- `finish`. -/
def finish (env : Surroundings) (backend : Backend β) (reason : FinishReason)
    (reportsNative : Bool) : Session β Unit := do
  let s ← .read id
  if s.prediction.isSome then
    .raise (.failure (.runtimeError "cannot settle with unresolved prediction"))
  else
    let (reference, record) ← activeRecord
    let _ ← tick env
    .assign fun s ↦ { s with queue := [] }
    (if s.closingAt = none then refreshCapability env false else pure ())
    let summary ← onBackend (backend.finish reason)
    describe reference fun fields ↦ { fields with execution := some summary }
    (if reportsNative = true then do
      let operation ← operationOf record
      note (.ended operation)
      native env reference reason.outcome
    else pure ())
    closeOperation env backend reason reference summary

/-! ### Submission -/

/-- `snapshot`. -/
def snapshot (backend : Backend β) (reference : String) : Session β HostReply := do
  let record ← onExecution (ExecutionCoordinator.snapshot reference)
  let s ← .read id
  pure (.record ⟨record,
    if s.execution.active = some reference then
      some (backend.steps s.backend, s.queue.length, s.prediction.isSome)
    else none⟩)

/-- The reference of an observation that a submission expects. -/
def readExpected (value : Option Json) : Except Failure (Option (ℕ × ℕ)) :=
  match value with
  | none => .ok none
  | some (.object fields) => do
    let epoch ← integer (Dict.get? fields "epoch") "epoch" 0 (2 ^ 31 - 1)
    let sequence ← integer (Dict.get? fields "sequence") "sequence" 0 (2 ^ 53)
    pure (some (epoch, sequence))
  | some _ => .error (.valueError "expected_observation requires epoch and sequence")

/-- The part of `submit` that reads the message: the request and its arguments. -/
def readSubmission (message : Dict) : Except Failure (String × HostArguments) := do
  let reference ← identifier (item message "request_id") "request_id"
  let steps ← integer (item message "steps") "steps" 1 maxSteps
  let deadlineMs ←
    (match item message "deadline_ms" with
      | none => pure none
      | some value => some <$> integer (some value) "deadline_ms" 1 60000)
  let expected ← readExpected (item message "expected_observation")
  pure (reference, ⟨item message "skill", steps, deadlineMs, expected⟩)

/-- The skill that the arguments name, unless the backend does not have it. -/
def findSkill (backend : Backend β) (arguments : HostArguments) : Option Skill :=
  match arguments.skill with
  | some (.string name) => backend.skills.find? fun skill ↦ skill.name = name
  | _ => none

/-- Why `submit` refuses a request before it looks at the host. -/
def mismatch (backend : Backend β) (arguments : HostArguments) (skill : Skill)
    (observation : BackendObservation) : Option String :=
  if ¬ (skill.minimum ≤ arguments.steps ∧ arguments.steps ≤ skill.maximum) then
    some "unsupported_step_count"
  else if (backend.requiresObservation = true ∧ arguments.expected = none) ∨
      ∃ expected ∈ arguments.expected,
        ((expected.1 : ℤ), (expected.2 : ℤ)) ≠ (observation.epoch, observation.sequence) then
    some "observation_mismatch"
  else none

/-- The host is not ready for an operation, apart from its worker. -/
def isUnready (s : Host β) (backend : Backend β) (arguments : HostArguments) (skill : Skill) :
    Bool :=
  !backend.canStart skill.name arguments.steps s.backend || s.prediction.isSome ||
    !s.queue.isEmpty ||
    (backend.localTargetSkills.contains skill.name && s.lastAction.isNone) ||
    (backend.requiresObservation && !(backend.observe s.backend).valid)

/-- The part of `submit` that starts the operation of the backend: the exception, when there is
one. -/
def beginOperation (backend : Backend β) (skill : Skill) (operation : Option OperationId) :
    Session β (Except String Unit) := do
  let started ← tryBackend (backend.beginOperation skill.name operation)
  match started with
  | .error text => pure (.error text)
  | .ok () =>
    let local_target := backend.localTargetSkills.contains skill.name
    .assign fun s ↦ { s with fixedAction := if local_target = true then s.lastAction else none }
    let s ← .read id
    (if local_target = true ∧ s.fixedAction = none then
      pure (.error "hold target unavailable")
    else
      match s.fixedAction, operation with
      | some action, some operation => do
        note (.fixed operation action)
        pure (.ok ())
      | _, _ => pure (.ok ()))

/-- An operation that was not submitted is finished. -/
def finishUnsubmitted (env : Surroundings) (backend : Backend β) (reason : FinishReason)
    (reference : String) (operation : OperationId) : Session β Unit := do
  note (.ended operation)
  let stamp ← now env
  let disposition ← onExecution (ExecutionCoordinator.nonSubmission reference stamp)
  accepted disposition
  finish env backend reason false

/-- The part of `submit` after an admission. -/
def startOperation (env : Surroundings) (backend : Backend β) (reference : String)
    (skill : Skill) (units : ℕ) (operation : OperationId) : Session β Unit := do
  note (.admitted operation units)
  .assign fun s ↦ { s with phase := .running }
  let started ← beginOperation backend skill (some operation)
  match started with
  | .error text =>
    failWorker env backend ("backend operation start error: " ++ text)
    finishUnsubmitted env backend .workerError reference operation
  | .ok () =>
    let stamp ← now env
    let dispatched ← onExecution (ExecutionCoordinator.dispatch reference stamp)
    (if dispatched = false then finishUnsubmitted env backend .notSubmitted reference operation
    else do
      note (.claimed operation)
      native env reference .accepted)

/-- The part of `submit` that decides on a request that it has reserved. -/
def decideReserved (env : Surroundings) (backend : Backend β) (reference : String)
    (arguments : HostArguments) : Session β Unit := do
  let s ← .read id
  match findSkill backend arguments with
  | none => setReason reference "unsupported_skill"
  | some skill =>
    match mismatch backend arguments skill (backend.observe s.backend) with
    | some reason => setReason reference reason
    | none =>
      let exited ← (if s.phase ≠ .ready then pure true else workerExited env)
      (if exited = true ∨ isUnready s backend arguments skill = true then
        setReason reference "not_ready"
      else do
        let stamp ← now env
        let decision ← onExecution (ExecutionCoordinator.admitRecord reference arguments.steps
          (arguments.deadlineMs.map fun deadlineMs ↦ stamp + deadlineMs * 1000000) stamp)
        (match decision.status, decision.authority with
          | .admitted, some authority =>
            startOperation env backend reference skill arguments.steps authority.operationId
          | _, _ => pure ()))

/-- `submit`. -/
def submit (env : Surroundings) (backend : Backend β) (message : Dict) : Session β HostReply := do
  let (reference, arguments) ← checked (readSubmission message)
  let s ← .read id
  let isNew ← onExecution (ExecutionCoordinator.reserve reference arguments (.ok
    { steps := 0
      skill := arguments.skill
      epoch := (backend.observe s.backend).epoch }))
  (if isNew = true then decideReserved env backend reference arguments else pure ())
  snapshot backend reference

/-! ### Commands -/

/-- `status`. -/
def status (env : Surroundings) (backend : Backend β) : Session β HostReply := do
  let exited ← workerExited env
  let s ← .read id
  pure (.status s.phase s.hostPid s.workerPid exited s.sessionId s.failure
    (backend.observe s.backend))

/-- The command `capabilities`. -/
def capabilities (env : Surroundings) (backend : Backend β) : Session β HostReply := do
  let s ← .read id
  let exited ← (if s.phase = .ready then workerExited env else pure true)
  let ready ←
    (if exited = false then do
      let stamp ← now env
      onGate (GateState.supports 1 stamp)
    else pure false)
  let skills := backend.skills.map fun skill ↦
    SkillAvailability.mk skill skill.maximum
      (ready && backend.canStart skill.name skill.maximum s.backend &&
        (!backend.localTargetSkills.contains skill.name || s.lastAction.isSome))
  pure (.capabilities backend.defaultSkill.name backend.profile maxSteps
    (if backend.requiresObservation = true then skills.any (·.available)
      else ready && backend.canStart backend.defaultSkill.name 1 s.backend)
    (if backend.requiresObservation = true then some skills else none))

/-- The seed of a reset. -/
def readSeed (backend : Backend β) (value : Option Json) : Except Failure (Option ℕ) :=
  match value with
  | none => .ok none
  | some value => do
    let seed ← integer (some value) "seed" 0 (2 ^ 31 - 1)
    (if backend.isFixture = true then
      .error (.valueError "fixture reset does not accept a seed")
    else pure (some seed))

/-- The command `reset`. -/
def reset (env : Surroundings) (backend : Backend β) (message : Dict) : Session β HostReply := do
  let s ← .read id
  if s.phase ≠ .needsReset ∨ s.execution.active.isSome then
    refuse "reset requires a settled episode and healthy worker"
  else
    let seed ← checked (readSeed backend (item message "seed"))
    let outcome ← tryBackend (backend.reset seed)
    match outcome with
    | .error text =>
      failWorker env backend ("backend reset error: " ++ text)
      let s ← .read id
      refuse (s.failure.getD "None")
    | .ok () =>
      refreshCapability env true
      .assign fun s ↦ { s with lastAction := none, fixedAction := none, phase := .ready }
      let s ← .read id
      pure (.observation (backend.observe s.backend))

/-- The command `cancel`. -/
def cancel (env : Surroundings) (backend : Backend β) (message : Dict) : Session β HostReply := do
  let reference ← checked (identifier (item message "request_id") "request_id")
  let _ ← onExecution (ExecutionCoordinator.lookup reference)
  let affected ← cancelRecord env reference
  (if affected = true then do
    .assign fun s ↦ { s with queue := [] }
    markRevoked backend reference
  else pure ())
  snapshot backend reference

/-- The result of a command. -/
def perform (env : Surroundings) (backend : Backend β) (message : Dict) : Session β HostReply :=
  match Dict.get? message "command" with
  | some (.string "status") =>
    match item message "request_id" with
    | none => status env backend
    | some value => do
      let reference ← checked (identifier (some value) "request_id")
      snapshot backend reference
  | some (.string "observe") => do
    let (observation, payload) ← onBackend backend.sample
    pure (.sample observation payload)
  | some (.string "capabilities") => capabilities env backend
  | some (.string "submit") => submit env backend message
  | some (.string "reset") => reset env backend message
  | some (.string "cancel") => cancel env backend message
  | _ => refuse "unsupported command"

/-- `command`. -/
def command (env : Surroundings) (backend : Backend β) (message : Dict) : Session β Unit := do
  let rpc ← checked (integer (item message "rpc") "rpc" 1 (2 ^ 53))
  if Dict.get? message "command" = some (.string "close") then
    .assign fun s ↦ { s with closeRpc := some rpc }
    beginClose env
  else
    .catching (do
        let result ← perform env backend message
        reply env rpc (.ok result))
      HostError.isRequest fun error ↦ reply env rpc (.error error.text)

/-! ### The worker -/

/-- The dictionary of an authority. -/
def authorityJson (authority : OperationAuthority) : Json :=
  .object [
    ("binding", .object [
      ("provider", .string authority.binding.providerId),
      ("domain", .string authority.binding.effectDomain),
      ("revision", .int authority.binding.compositionRevision.toNat),
      ("generation", .int authority.binding.providerGeneration.toNat)]),
    ("operation_id", .int authority.operationId.toNat),
    ("admitted_at", .int authority.admittedAt.toNat)]

/-- `identity`. -/
def identity (backend : Backend β) : Session β Json := do
  let (_, record) ← activeRecord
  let operation ← operationOf record
  let receipt ← receiptOf operation
  let s ← .read id
  pure (.object [
    ("session", .string s.sessionId),
    ("authority", authorityJson receipt.authority),
    ("observation", (backend.observe s.backend).value),
    ("prediction", .int s.predictionSequence)])

/-- The part of `worker_message` about a prediction that was asked for. -/
def receivePrediction (backend : Backend β) (message : Dict) (prediction : Prediction) :
    Session β Unit := do
  if matchesIdentity ((Dict.get? message "identity").getD .null) prediction.identity = false then
    refuse "prediction identity mismatch"
  else
    let s ← .read id
    let actions := item message "actions"
    .answer (backend.validateActions actions prediction.count s.backend)
    .assign fun s ↦ { s with prediction := none }
    let (_, record) ← activeRecord
    let operation ← operationOf record
    let receipt ← receiptOf operation
    (if receipt.authorityDisposition = .current ∧ s.closingAt = none ∧ s.failure = none then
      match actions with
      | some (.array items) => do
        note (.validated operation ((Dict.get? message "identity").getD .null)
          (backend.validateActions actions prediction.count s.backend).isOk items)
        .assign fun s ↦ { s with queue := s.queue ++ items }
      | _ => .raise (.failure .typeError)
    else pure ())

/-- `worker_message`. -/
def workerMessage (env : Surroundings) (backend : Backend β) (message : Dict) :
    Session β Unit := do
  let s ← .read id
  if Dict.get? message "kind" = some (.string "ready") ∧ s.workerReady = false ∧
      s.phase = .starting then
    .assign fun s ↦ { s with workerReady := true }
    initializeGate env
  else
    match s.prediction with
    | none => refuse "unsolicited worker response"
    | some prediction =>
      if Dict.get? message "kind" ≠ some (.string "prediction") then
        refuse "unsolicited worker response"
      else receivePrediction backend message prediction

/-! ### Progress -/

/-- The part of `advance` that asks the worker for a prediction. -/
def requestPrediction (env : Surroundings) (backend : Backend β)
    (record : Record HostArguments HostFields) (operation : OperationId) : Session β Unit := do
  .assign fun s ↦ { s with predictionSequence := s.predictionSequence + 1 }
  let s ← .read id
  let count := min 100 ((record.arguments.steps : ℤ) - backend.steps s.backend)
  let identity ← identity backend
  note (.requested operation identity)
  .assign fun s ↦ { s with prediction := some ⟨identity, count⟩ }
  let _ ← onBackend backend.sample
  (if s.workerChannel = true then queueMessage env
  else .raise (.failure .typeError))

/-- The next action, and the queue after it. -/
def nextAction (s : Host β) : Option (Json × List Json) :=
  match s.fixedAction, s.queue with
  | some action, queue => some (action, queue)
  | none, action :: queue => some (action, queue)
  | none, [] => none

/-- The part of `advance` that makes a step. -/
def makeStep (env : Surroundings) (backend : Backend β) (reference : String)
    (record : Record HostArguments HostFields) (operation : OperationId) (action : Json) :
    Session β Unit := do
  note (.stepped operation action)
  let outcome ← tryBackend (backend.step action)
  match outcome with
  | .error text => failWorker env backend ("backend step error: " ++ text)
  | .ok () =>
    .assign fun s ↦ { s with lastAction := present action }
    let s ← .read id
    (if backend.steps s.backend = 1 then native env reference .started else pure ())
    let reading ← now env
    .assign fun s ↦ { s with nextStep := reading + backend.stepInterval }
    match backend.completion record.arguments.steps s.backend with
    | some reason => finish env backend reason true
    | none => pure ()

/-- The part of `advance` for an operation whose authority is current. -/
def progress (env : Surroundings) (backend : Backend β) (reference : String)
    (record : Record HostArguments HostFields) (operation : OperationId) : Session β Unit := do
  let s ← .read id
  if s.prediction.isSome then pure ()
  else
    match nextAction s with
    | none => requestPrediction env backend record operation
    | some (action, queue) =>
      let reading ← now env
      (if reading < s.nextStep then pure ()
      else do
        .assign fun s ↦ { s with queue }
        makeStep env backend reference record operation action)

/-- `advance`. -/
def advance (env : Surroundings) (backend : Backend β) : Session β Unit := do
  let s ← .read id
  if s.execution.active = none then pure ()
  else
    let (reference, record) ← activeRecord
    let operation ← operationOf record
    match ← tick env with
    | none => .raise (.failure .typeError)
    | some receipt =>
      note (.ticked operation receipt.authorityDisposition)
      if receipt.authorityDisposition ≠ .current then
        .assign fun s ↦ { s with queue := [] }
        let s ← .read id
        (if s.prediction = none then
          finish env backend (if hasFailure s = true then .workerError else .cancelled) true
        else pure ())
      else
        let stamp ← now env
        let supported ← onGate (GateState.supports record.arguments.steps stamp)
        (if supported = false then do
          let _ ← cancelRecord env reference
          .assign fun s ↦ { s with queue := [] }
          markRevoked backend reference
        else progress env backend reference record operation)

/-- `stop_worker`. -/
def stopWorker (env : Surroundings) : Session β Unit := do
  let exited ← workerExited env
  if exited = true then .assign fun s ↦ { s with prediction := none }
  else
    let s ← .read id
    (if s.shutdownSent = false then do
      (if s.workerChannel = true then
        .catching (queueMessage env)
          (fun error ↦ match error with
            | .osError _ | .bufferError _ => true
            | _ => false)
          fun _ ↦ pure ()
      else pure ())
      let reading ← now env
      .assign fun s ↦
        { s with
          shutdownSent := true
          terminatedAt := some (reading + 250000000) }
    else pure ())
    let reading ← now env
    let s ← .read id
    (if (∃ due ∈ s.terminatedAt, due ≤ reading) ∧ s.killed = false then do
      let reading ← now env
      .assign fun s ↦ { s with killed := true, terminatedAt := some (reading + 250000000) }
    else if s.killed = true then do
      let reading ← now env
      (if ∃ due ∈ s.terminatedAt, due ≤ reading then do
        let reading ← now env
        .assign fun s ↦ { s with terminatedAt := some (reading + 250000000) }
      else pure ())
    else pure ())

/-! ### The loop -/

/-- `for message in messages`. -/
def handleAll (handle : Dict → Session β Unit) : List Dict → Session β Unit
  | [] => pure ()
  | message :: messages => do
    handle message
    handleAll handle messages

/-- The part of `run` that serves the client. -/
def serveClient (env : Surroundings) (backend : Backend β) (arrivals : Arrivals) :
    Session β Unit := do
  let s ← .read id
  if s.peerAlive = true then
    .catching (do
        let messages ← .answer arrivals.client
        handleAll (command env backend) messages)
      HostError.isConnection fun _ ↦ do
        .assign fun s ↦ { s with peerAlive := false }
        beginClose env
  else pure ()

/-- The part of `run` that serves the worker. -/
def serveWorker (env : Surroundings) (backend : Backend β) (arrivals : Arrivals) :
    Session β Unit := do
  let s ← .read id
  if s.workerChannel = true then
    .catching (do
        let messages ← .answer arrivals.worker
        handleAll (workerMessage env backend) messages)
      HostError.isConnection fun error ↦ do
        let s ← .read id
        (if s.closingAt = none then failWorker env backend error.text else pure ())
        .assign fun s ↦ { s with workerChannel := false }
  else pure ()

/-- The part of `run` that looks after the process of the worker. -/
def superviseWorker (env : Surroundings) (backend : Backend β) : Session β Unit := do
  let exited ← workerExited env
  (if exited = true then do
    let s ← .read id
    (if s.closingAt = none then failWorker env backend "worker exited" else pure ())
    .assign fun s ↦ { s with prediction := none }
  else pure ())
  let s ← .read id
  (if hasFailure s = true ∨ s.closingAt.isSome then stopWorker env else pure ())
  let s ← .read id
  if s.phase = .starting then
    let reading ← now env
    (if s.startupTimeout < reading - s.startTime then
      failWorker env backend "worker readiness timeout"
    else pure ())
  else pure ()

/-- The part of `run` after the worker has exited under closing: whether `run` returns. -/
def completeClose (env : Surroundings) (backend : Backend β) : Session β Bool := do
  let s ← .read id
  let exited ← (if s.closingAt.isSome then workerExited env else pure false)
  if exited = true then
    (if s.closeReadyAt = none then do
      let reading ← now env
      .assign fun s ↦ { s with closeReadyAt := some reading }
    else pure ())
    onBackend backend.close
    (match s.peerAlive, s.closeRpc with
      | true, some rpc => do
        reply env rpc (.ok .workerReaped)
        .assign fun s ↦ { s with closeRpc := none }
      | _, _ => pure ())
    (if s.peerAlive = false then pure true
    else do
      let drained ← channelDrained env
      (if drained = true then pure true
      else do
        let reading ← now env
        let s ← .read id
        pure (decide (∃ since ∈ s.closeReadyAt, since + 1000000000 ≤ reading))))
  else pure false

/-- One turn of the loop of `run`: whether it returns. -/
def turn (env : Surroundings) (backend : Backend β) (arrivals : Arrivals) : Session β Bool := do
  maintainCapability env backend
  serveClient env backend arrivals
  serveWorker env backend arrivals
  superviseWorker env backend
  advance env backend
  completeClose env backend

/-- The loop of `run`, as far as messages come. -/
def run (env : Surroundings) (backend : Backend β) : List Arrivals → Session β Bool
  | [] => pure false
  | arrivals :: rest => do
    let returns ← turn env backend arrivals
    (if returns = true then pure true else run env backend rest)

/-- The part of `__init__` before the worker is launched, with the backend in its initial
state. -/
def create (env : Surroundings) (backend : Backend β) (start : β) (sessionId : String)
    (startupTimeout hostPid workerPid : ℕ) : Except Failure (Host β) := do
  let gate ← GateState.create backend.provider backend.domain backend.capability backend.profile
    maxSteps (env.clock 0) none
  pure
    { execution := { gate }
      backend := start
      startupTimeout
      hostPid
      workerPid
      sessionId
      startTime := env.clock 1
      readings := 2 }

end Host

/-! ### The fixture -/

/-- The members of `IncrementBackend`. -/
structure IncrementBackend where
  value : ℕ := 0
  steps : ℕ := 0
  epoch : ℕ := 0
  closed : Bool := false
  deriving DecidableEq, Repr

namespace IncrementBackend

/-- `step`. -/
def step (action : Json) : Fallible String IncrementBackend Unit := do
  let s ← .read id
  if s.closed = true ∨ action ≠ .int 1 then .raise "invalid fixture action"
  else .assign fun s ↦ { s with value := s.value + 1, steps := s.steps + 1 }

/-- `reset`. -/
def reset : Fallible String IncrementBackend Unit := do
  let s ← .read id
  if s.closed = true then .raise "backend closed"
  else .assign fun s ↦ { s with value := 0, steps := 0, epoch := s.epoch + 1 }

/-- `observe`. -/
def observe (s : IncrementBackend) : BackendObservation :=
  { epoch := s.epoch
    sequence := s.steps
    value := .object [("epoch", .int s.epoch), ("sequence", .int s.steps),
      ("value", .int s.value)] }

/-- `validate_actions`. -/
def validateActions (actions : Option Json) (count : ℤ) : Except HostError Unit :=
  match actions with
  | some (.array actions) =>
    if (actions.length : ℤ) ≠ count ∨ ∃ action ∈ actions, action ≠ .int 1 then
      .error (.failure (.valueError "invalid candidate chunk"))
    else .ok ()
  | _ => .error (.failure (.valueError "invalid candidate chunk"))

/-- `completion`. -/
def completion (limit : ℕ) (s : IncrementBackend) : Option FinishReason :=
  if s.steps = limit then some .completed else none

/-- `finish`. -/
def finish : Fallible HostError IncrementBackend Json := .read fun s ↦
  .object [("value", .int s.value), ("steps", .int s.steps)]

/-- The class. -/
def members : Backend IncrementBackend where
  capability := "fixture.increment"
  profile := "deterministic-session-v1"
  provider := "deterministic-worker"
  domain := "fixture-counter"
  stepInterval := 5000000
  defaultSkill := ⟨"fixture.increment", 1, 400⟩
  isFixture := true
  steps := steps
  closed := closed
  observe := observe
  step := step
  reset := fun _ ↦ reset
  sample := .read fun s ↦ ((observe s).value, [])
  validateActions := fun actions count _ ↦ validateActions actions count
  completion := completion
  finish := fun _ ↦ finish
  canStart := fun skill _ _ ↦ skill = "fixture.increment"
  beginOperation := fun _ _ ↦ pure ()
  afterSettlement := fun _ ↦ pure false
  close := .assign fun s ↦ { s with closed := true }

end IncrementBackend

end RobotHarness.Python
