import RobotHarness.Base.Mealy
import RobotHarness.Compute.Process
import RobotHarness.Recovery.Protocol

/-!
# The owner of recovery

`Owner` of `src/compute/recovery_owner.cpp`, without its destructor. The descriptor of a session
is modelled by whether it is attached; what the operating system answers is an argument of each
operation. Beside the members of the source the owner keeps a log of what it receives and sends,
and of the workers that it launches and gives up.
-/

namespace RobotHarness.Recovery

open Compute (ComputeProcess ProcessObservation PollAnswer LaunchAnswer ExitStatus)

/-- What the owner does outside. -/
inductive OwnerEvent where
  | received (session : UInt64) (now : UInt64) (message : Message)
  | sent (session : UInt64) (message : Message)
  | launched (session operation amount : UInt64) (process : ComputeProcess)
  | retired (process : ComputeProcess)

/-- `Owner::Impl`. -/
structure Owner where
  worker : String
  stopGraceMs : UInt64
  process : Option ComputeProcess := none
  lastObservation : ProcessObservation := {}
  /-- Whether `fd` is a descriptor. -/
  connected : Bool := false
  epoch : UInt64 := 1
  lastNow : UInt64 := 0
  clockSeen : Bool := false
  fault : Bool := false
  active : Bool := false
  lastRequest : UInt64 := 0
  lastOperation : UInt64 := 0
  clearToken : UInt64 := 0
  clearTokenAt : UInt64 := 0
  pending : Message := {}
  hasPending : Bool := false
  pendingAt : UInt64 := 0
  operation : UInt64 := 0
  operationSession : UInt64 := 0
  operationRequest : UInt64 := 0
  amount : UInt64 := 0
  operationHandedOff : Bool := false
  operationDiscarded : Bool := false
  result : Message := {}
  resultReady : Bool := false
  launches : UInt64 := 0
  discardedResults : UInt64 := 0
  /-- What the owner did outside, oldest first. -/
  log : List OwnerEvent := []

/-- What a disconnection meets: the answer of `request_stop` to the worker, and whether the close
of the descriptor fails. -/
structure DisconnectAnswer where
  stop : Option Int
  closeFailed : Bool

/-- What an attachment meets: `is_socketpair_endpoint`, `can_launch`, and whether the descriptor
is made to close on `exec`. -/
structure AttachAnswer where
  endpoint : Bool
  canLaunch : Bool
  closeOnExec : Bool
  disconnect : DisconnectAnswer

/-- What a poll meets: what its worker and its channels answer, the next datagram, `can_launch`,
whether a process is allocated, and what its launch meets. -/
structure OwnerAnswer where
  process : PollAnswer
  control : Option Int
  event : Option Int
  disconnect : DisconnectAnswer
  send : SendAnswer
  receive : ReceiveAnswer
  canLaunch : Bool
  allocated : Bool
  launch : LaunchAnswer

/-- `reply`. -/
def reply (kind : Kind) (session request : UInt64) : Message := { kind, session, request }

namespace Owner

/-- The owner that the constructor leaves. -/
def create (worker : String) (stopGraceMs : UInt64) : Owner := { worker, stopGraceMs }

/-- An entry of the log. -/
def note (o : Owner) (event : OwnerEvent) : Owner := { o with log := o.log ++ [event] }

/-- The worker has ended cleanly and its channels are closed. -/
def settled (observed : ProcessObservation) : Bool :=
  observed.exitStatus.isSome && observed.eventEof && observed.channelsClosed &&
    !observed.ownershipLost && !observed.malformed && decide (observed.ioError = 0)

/-- `clear`. -/
def clear (o : Owner) (canLaunch : Bool) : Bool :=
  if o.fault = true ∨ canLaunch = false then false
  else
    match o.process with
    | none => true
    | some process => settled process.observation

/-- `disconnect`. -/
def disconnect (o : Owner) (now : UInt64) (answer : DisconnectAnswer) : Owner :=
  let discards := decide (o.operation ≠ 0) && !o.operationHandedOff && !o.operationDiscarded
  { o with
    process := o.process.map fun process ↦
      if process.observation.launched = true ∧ process.observation.exitStatus.isNone then
        process.requestStop now answer.stop
      else process
    discardedResults := if discards then o.discardedResults + 1 else o.discardedResults
    operationDiscarded := o.operationDiscarded || discards
    operation := 0
    operationHandedOff := false
    resultReady := false
    active := false
    clearToken := 0
    hasPending := false
    connected := false
    fault := o.fault || (o.connected && answer.closeFailed) }

/-- `fault = true` and `disconnect`. -/
def fail (o : Owner) (now : UInt64) (answer : DisconnectAnswer) : Owner :=
  ({ o with fault := true } : Owner).disconnect now answer

/-- `queue`. -/
def queue (o : Owner) (message : Message) (now : UInt64) : Owner :=
  { o with pending := message, pendingAt := now, hasPending := true }

/-- `attach`. -/
def attach (o : Owner) (now : UInt64) (answer : AttachAnswer) : Bool × Owner :=
  if o.connected = true ∨ o.fault = true ∨ o.epoch = 0xFFFFFFFFFFFFFFFF ∨
      (o.clockSeen = true ∧ now < o.lastNow) ∨ answer.endpoint = false ∨
      answer.canLaunch = false then
    let o := if o.clockSeen = true ∧ now < o.lastNow then o.fail o.lastNow answer.disconnect else o
    let o :=
      if o.epoch = 0xFFFFFFFFFFFFFFFF then o.fail o.lastNow answer.disconnect else o
    (false, o)
  else if answer.closeOnExec = false then (false, o)
  else
    (true,
      { o with
        connected := true
        epoch := o.epoch + 1
        lastNow := now
        clockSeen := true
        active := false
        lastRequest := 0
        lastOperation := 0
        clearToken := 0
        clearTokenAt := 0
        pending := reply .hello (o.epoch + 1) 0
        hasPending := true
        pendingAt := now })

/-- `flush`. -/
def flush (o : Owner) (now : UInt64) (answer : OwnerAnswer) : Owner :=
  if o.hasPending = false ∨ o.connected = false then o
  else if evidenceLifetimeMs ≤ now - o.pendingAt then o.disconnect now answer.disconnect
  else
    match sendMessage answer.send with
    | .closed => o.disconnect now answer.disconnect
    | .again => o
    | .done =>
      let o := o.note (.sent o.epoch o.pending)
      if o.pending.kind = .result then
        { o with
          operationHandedOff := true, operation := 0, resultReady := false, hasPending := false }
      else { o with hasPending := false }

/-- The flags and the value of the result of a worker that has ended. -/
def verdict (observed : ProcessObservation) (amount : UInt64) : UInt64 × UInt64 :=
  match observed.exitStatus with
  | some (.exited code) =>
    if code = 0 ∧ observed.terminal = .completed ∧ observed.terminalIterations = amount then
      (succeeded, observed.terminalValue)
    else if code = 20 ∧ observed.stopRequested = true ∧ observed.terminal = .cancelled ∧
        observed.terminalIterations ≤ amount then
      (cancelled, 0)
    else (failed, 0)
  | _ => (failed, 0)

/-- The end of `observe_native`: the worker that has ended is given up, and its result made. -/
def retire (o : Owner) (process : ComputeProcess) : Owner :=
  let o := { o with lastObservation := process.observation, process := none }.note (.retired process)
  if o.operation = 0 ∨ o.connected = false then o
  else
    let (flags, value) := verdict o.lastObservation o.amount
    { o with
      result :=
        { reply .result o.operationSession o.operationRequest with
          operation := o.operation, amount := o.amount, value, flags }
      resultReady := true }

/-- `observe_native`. -/
def observeNative (o : Owner) (now : UInt64) (answer : OwnerAnswer) : Owner :=
  match o.process with
  | none => o
  | some process =>
    let process := process.poll now answer.process
    let observed := process.observation
    let o : Owner := { o with process := some process }
    let o :=
      if observed.ownershipLost = true ∨ observed.malformed = true ∨ observed.ioError ≠ 0 then
        o.fail now answer.disconnect
      else o
    if observed.exitStatus.isNone ∨ observed.eventEof = false then o
    else
      let (closed, process) := process.closeChannels answer.control answer.event
      let o : Owner := { o with process := some process }
      if closed = false then o.fail now answer.disconnect else o.retire process

/-- `receive` of a query. -/
def receiveQuery (o : Owner) (now : UInt64) (answer : OwnerAnswer) (message : Message) : Owner :=
  let o := { o with lastRequest := message.request }
  let snapshot := reply .snapshot o.epoch message.request
  if o.clear answer.canLaunch then
    { o with clearToken := message.request, clearTokenAt := now }.queue
      { snapshot with flags := clearFlag } now
  else { o with clearToken := 0 }.queue snapshot now

/-- `receive` of an activation. -/
def receiveActivate (o : Owner) (now : UInt64) (message : Message) : Owner :=
  { o with lastRequest := message.request, active := true, clearToken := 0 }.queue
    { reply .activated o.epoch message.request with value := message.value } now

/-- `receive` of a submission. -/
def receiveSubmit (o : Owner) (now : UInt64) (answer : OwnerAnswer) (message : Message) : Owner :=
  if answer.allocated = false then o.fail now answer.disconnect
  else
    let (launched, candidate) :=
      (ComputeProcess.create o.worker message.amount o.stopGraceMs).launch answer.launch
    let o := if launched then o.note (.launched o.epoch message.operation message.amount candidate)
      else o
    let o : Owner :=
      { o with
        lastRequest := message.request
        lastOperation := message.operation
        lastObservation := candidate.observation }
    if o.lastObservation.ownershipLost = true ∨ o.lastObservation.malformed = true ∨
        o.lastObservation.ioError ≠ 0 then
      o.fail now answer.disconnect
    else if launched = false then
      o.queue
        { reply .result o.epoch message.request with
          operation := message.operation, amount := message.amount, flags := notLaunched } now
    else
      { o with
        operation := message.operation
        operationSession := o.epoch
        operationRequest := message.request
        amount := message.amount
        operationHandedOff := false
        operationDiscarded := false
        process := some candidate
        launches := o.launches + 1 }.queue
          { reply .accepted o.epoch message.request with
            operation := message.operation, amount := message.amount } now

/-- `receive`. -/
def receive (o : Owner) (now : UInt64) (answer : OwnerAnswer) : Owner :=
  match receiveMessage answer.receive with
  | (.again, _) => o
  | (.closed, _) => o.disconnect now answer.disconnect
  | (.done, message) =>
    let o := o.note (.received o.epoch now message)
    if message.session ≠ o.epoch ∨ message.request = 0 ∨ message.request ≤ o.lastRequest then
      o.disconnect now answer.disconnect
    else if message.kind = .query ∧ o.active = false ∧ message.operation = 0 ∧
        message.amount = 0 ∧ message.value = 0 ∧ message.flags = 0 then
      o.receiveQuery now answer message
    else if message.kind = .activate ∧ o.active = false ∧ message.operation = 0 ∧
        message.amount = 0 ∧ message.flags = 0 ∧ o.clearToken ≠ 0 ∧
        message.value = o.clearToken ∧ now - o.clearTokenAt < evidenceLifetimeMs ∧
        o.clear answer.canLaunch = true then
      o.receiveActivate now message
    else if message.kind = .submit ∧ o.active = true ∧ o.operation = 0 ∧
        o.lastOperation < message.operation ∧ 0 < message.amount ∧
        message.amount ≤ maximumIterations ∧ message.value = 0 ∧ message.flags = 0 ∧
        o.clear answer.canLaunch = true then
      o.receiveSubmit now answer message
    else o.disconnect now answer.disconnect

/-- The clock of `poll`: a reading that goes back is a fault, and the last one is used instead. -/
def readClock (o : Owner) (now : UInt64) (answer : DisconnectAnswer) : Owner :=
  if o.clockSeen = true ∧ now < o.lastNow then o.fail o.lastNow answer
  else { o with lastNow := now, clockSeen := true }

/-- A result that is ready is queued when nothing else waits. -/
def queueResult (o : Owner) (now : UInt64) : Owner :=
  if o.hasPending = false ∧ o.resultReady = true then o.queue o.result now else o

/-- `poll`, after the worker was observed. -/
def exchange (o : Owner) (now : UInt64) (answer : OwnerAnswer) : Owner :=
  if o.connected = false then o
  else
    let o := o.queueResult now
    let o := if o.hasPending then o.flush now answer else o
    if o.connected = false then o
    else
      let o := o.queueResult now
      if o.hasPending = false then o.receive now answer else o

/-- `poll`. -/
def poll (o : Owner) (now : UInt64) (answer : OwnerAnswer) : Owner :=
  let o := o.readClock now answer.disconnect
  let now := o.lastNow
  (o.observeNative now answer).exchange now answer

end Owner

/-- A call of the owner. -/
inductive OwnerInput where
  | attach (now : UInt64) (answer : AttachAnswer)
  | poll (now : UInt64) (answer : OwnerAnswer)

/-- One call, and whether it attaches a descriptor. -/
def Owner.step (o : Owner) : OwnerInput → Bool × Owner
  | .attach now answer => o.attach now answer
  | .poll now answer => (false, o.poll now answer)

/-- The owner as a machine. -/
def recoveryOwner : Mealy Owner OwnerInput Bool := ⟨Owner.step⟩

end RobotHarness.Recovery
