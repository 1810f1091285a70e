import Mathlib.Order.MinMax
import RobotHarness.Compute.Protocol

/-!
# The process of one computation

`ComputeProcess` of `src/compute/compute_process.cpp`, without its destructor. What the
operating system answers is an argument of each operation; descriptors are modelled by
whether they are open.
-/

namespace RobotHarness.Compute

/-- `ProcessObservation::Terminal`. -/
inductive Terminal where
  | none | completed | cancelled
  deriving DecidableEq, Repr

/-- The status that `waitpid` reports of a child that has ended. -/
inductive ExitStatus where
  | exited (code : UInt8)
  | signaled (signal : UInt8)
  deriving DecidableEq, Repr

/-- What the owner of a process observes of it. -/
structure ProcessObservation where
  launched : Bool := false
  started : Bool := false
  malformed : Bool := false
  eventEof : Bool := false
  channelsClosed : Bool := false
  stopRequested : Bool := false
  stopDelivered : Bool := false
  stopAcknowledged : Bool := false
  stopIgnored : Bool := false
  terminationRequested : Bool := false
  ownershipLost : Bool := false
  launchError : Int := 0
  ioError : Int := 0
  stopError : Int := 0
  terminationError : Int := 0
  childPid : Int := -1
  exitStatus : Option ExitStatus := none
  progress : UInt64 := 0
  droppedProgress : UInt64 := 0
  terminal : Terminal := .none
  terminalIterations : UInt64 := 0
  terminalValue : UInt64 := 0
  stopRequestedAt : Option UInt64 := none
  deriving DecidableEq, Repr

/-- `ComputeProcess::Impl`. -/
structure ComputeProcess where
  executable : String
  iterations : UInt64
  stopGraceMs : UInt64
  observation : ProcessObservation := {}
  ownedPid : Int := -1
  controlOpen : Bool := false
  eventOpen : Bool := false
  bufferedFrameBytes : ℕ := 0
  lastIterations : UInt64 := 0
  terminationPending : Bool := false
  terminationAttempted : Bool := false
  channelCleanupUnknown : Bool := false
  deriving DecidableEq, Repr

/-- `EIO`. -/
def eio : Int := 5

/-- `EINVAL`. -/
def einval : Int := 22

/-- `ECHILD`. -/
def echild : Int := 10

/-- The error that is remembered of a failed call, whose `errno` may be zero. -/
def errorOr (error fallback : Int) : Int := if error = 0 then fallback else error

/-- `kMaximumFramesPerPoll`. -/
def maximumFramesPerPoll : ℕ := 128

/-- What a launch meets. An error is zero when the step succeeds. -/
structure LaunchAnswer where
  /-- `executable_error`. -/
  executableError : Int
  /-- The error of `make_control_pair` or `make_event_pipe`. -/
  channelError : Int
  /-- The `errno` of the first close that fails while the channels are made. -/
  channelClose : Option Int
  /-- The error of the file actions or of `posix_spawn`. -/
  spawnError : Int
  /-- The child that `posix_spawn` names. -/
  child : Int
  /-- The `errno` of the first close that fails when the launch returns. -/
  returnClose : Option Int

/-- What a read of the event channel returns: bytes, the last of which may complete the frame
in the buffer, the end of the stream, an error to retry later, or another error. -/
inductive ReadAnswer where
  | data (count : ℕ) (frame : Frame)
  | eof
  | retry
  | failed (errno : Int)

/-- What `waitpid` answers. -/
inductive WaitAnswer where
  | ended (status : ExitStatus)
  | running
  | noChild
  | failed (errno : Int)

/-- What a poll meets: the reads up to the first that finds nothing, the answer of `waitpid`
and the `errno` of `kill`, if that fails. -/
structure PollAnswer where
  reads : List ReadAnswer
  wait : WaitAnswer
  kill : Option Int

namespace ComputeProcess

/-- The process that the constructor leaves. -/
def create (executable : String) (iterations stopGraceMs : UInt64) : ComputeProcess :=
  { executable, iterations, stopGraceMs }

/-! ### Launch -/

/-- `remember_io_error`. -/
def rememberIoError (p : ComputeProcess) (error : Int) : ComputeProcess :=
  if p.observation.ioError = 0 then
    { p with observation := { p.observation with ioError := errorOr error eio } }
  else p

/-- `Descriptor::reset` with the report of the launch: a failed close is remembered. -/
def reportClose (p : ComputeProcess) : Option Int → ComputeProcess
  | none => p
  | some error => { p.rememberIoError error with channelCleanupUnknown := true }

/-- A refused launch. -/
def refuseLaunch (p : ComputeProcess) (error : Int) : ComputeProcess :=
  { p with observation := { p.observation with launchError := error } }

/-- The ownership transfer after a successful spawn. -/
def adopt (p : ComputeProcess) (child : Int) : ComputeProcess :=
  { p with
    ownedPid := child
    controlOpen := true
    eventOpen := true
    observation := { p.observation with launched := true, childPid := child, launchError := 0 } }

/-- `ComputeProcess::launch`. -/
def launch (p : ComputeProcess) (answer : LaunchAnswer) : Bool × ComputeProcess :=
  if p.observation.launched then (true, p)
  else if p.observation.stopRequested then (false, p.refuseLaunch einval)
  else if ¬ validIterations p.iterations then (false, p.refuseLaunch einval)
  else if answer.executableError ≠ 0 then (false, p.refuseLaunch answer.executableError)
  else
    let p := (p.refuseLaunch 0).reportClose answer.channelClose
    if answer.channelError ≠ 0 ∨ p.channelCleanupUnknown = true then
      (false,
        (p.refuseLaunch (errorOr answer.channelError p.observation.ioError)).reportClose
          answer.returnClose)
    else if answer.spawnError ≠ 0 ∨ answer.child ≤ 0 then
      (false, (p.refuseLaunch (errorOr answer.spawnError echild)).reportClose answer.returnClose)
    else (true, (p.adopt answer.child).reportClose answer.returnClose)

/-! ### Stop -/

/-- `ComputeProcess::request_stop`. The answer of `send` is the error that it reports, `none`
when the command is delivered. -/
def requestStop (p : ComputeProcess) (nowMs : UInt64) (send : Option Int) : ComputeProcess :=
  if p.observation.stopRequested then p
  else
    let p : ComputeProcess :=
      { p with
        observation :=
          { p.observation with stopRequested := true, stopRequestedAt := some nowMs } }
    if p.ownedPid ≤ 0 ∨ p.observation.exitStatus.isSome ∨ p.controlOpen = false then
      { p with
        terminationPending := decide (0 < p.ownedPid) && p.observation.exitStatus.isNone }
    else
      match send with
      | none => { p with observation := { p.observation with stopDelivered := true } }
      | some error =>
        { p with
          observation := { p.observation with stopError := errorOr error eio }
          terminationPending := true }

/-! ### Events -/

/-- The protocol is broken. -/
def markMalformed (p : ComputeProcess) : ComputeProcess :=
  { p with observation := { p.observation with malformed := true } }

/-- The observation that an accepted frame leaves, with the two assignments that end
`consume`. -/
def advance (p : ComputeProcess) (frame : Frame) (observation : ProcessObservation) :
    ComputeProcess :=
  { p with
    observation := { observation with droppedProgress := frame.droppedProgress }
    lastIterations := frame.iterations }

/-- The switch of `consume` over the kinds of frames. -/
def consumeKind (p : ComputeProcess) (frame : Frame) : ComputeProcess :=
  let o := p.observation
  match frame.kind with
  | .ready =>
    if o.started = true ∨ frame.iterations ≠ 0 ∨ frame.value ≠ 0 ∨
        frame.droppedProgress ≠ 0 then
      p.markMalformed
    else p.advance frame { o with started := true }
  | .progress =>
    if o.started = false ∨ o.stopAcknowledged = true ∨ frame.iterations ≤ p.lastIterations then
      p.markMalformed
    else p.advance frame { o with progress := frame.iterations }
  | .stopAcknowledged =>
    if o.started = false ∨ o.stopRequested = false ∨ o.stopAcknowledged = true ∨
        o.stopIgnored = true ∨ frame.iterations < o.progress then
      p.markMalformed
    else p.advance frame { o with stopAcknowledged := true }
  | .stopIgnored =>
    if o.started = false ∨ o.stopRequested = false ∨ o.stopAcknowledged = true ∨
        o.stopIgnored = true ∨ frame.iterations < o.progress then
      p.markMalformed
    else p.advance frame { o with stopIgnored := true }
  | .completed =>
    if o.started = false ∨ o.stopAcknowledged = true ∨ frame.iterations ≠ p.iterations ∨
        frame.iterations < o.progress then
      p.markMalformed
    else
      p.advance frame
        { o with
          terminal := .completed
          terminalIterations := frame.iterations
          terminalValue := frame.value }
  | .cancelled =>
    if o.started = false ∨ o.stopRequested = false ∨ o.stopAcknowledged = false ∨
        frame.iterations < o.progress then
      p.markMalformed
    else
      p.advance frame
        { o with
          terminal := .cancelled
          terminalIterations := frame.iterations
          terminalValue := frame.value }
  | .unknown _ => p.advance frame o

/-- `ComputeProcess::Impl::consume`. -/
def consume (p : ComputeProcess) (frame : Frame) : ComputeProcess :=
  if p.observation.malformed then p
  else if frame.magic ≠ frameMagic ∨ frame.version ≠ frameVersion ∨ frame.kind.isKnown = false ∨
      p.iterations < frame.iterations ∨ frame.iterations < p.lastIterations ∨
      p.iterations < frame.droppedProgress ∨
      frame.droppedProgress < p.observation.droppedProgress ∨ p.observation.terminal ≠ .none then
    p.markMalformed
  else p.consumeKind frame

/-- The end of the event stream; it must not cut a frame or come before a terminal one. -/
def meetEof (p : ComputeProcess) : ComputeProcess :=
  { p with
    observation :=
      { p.observation with
        eventEof := true
        malformed := p.observation.malformed ||
          decide (p.bufferedFrameBytes ≠ 0 ∨ p.observation.terminal = .none) } }

/-- The loop of `drain_events`, with the number of frames it may still read. A read never
returns more bytes than the buffer has room for, and a read beyond the list finds nothing. -/
def drainFrames : (frames : ℕ) → List ReadAnswer → ComputeProcess → ComputeProcess
  | 0, _, p => p
  | _, [], p => p
  | frames + 1, .data count frame :: reads, p =>
    let buffered := min (p.bufferedFrameBytes + max count 1) frameBytes
    if buffered = frameBytes then
      drainFrames frames reads ({ p with bufferedFrameBytes := 0 }.consume frame)
    else drainFrames (frames + 1) reads { p with bufferedFrameBytes := buffered }
  | _, .eof :: _, p => p.meetEof
  | _, .retry :: _, p => p
  | _, .failed errno :: _, p => p.rememberIoError errno

/-- `drain_events`. -/
def drainEvents (p : ComputeProcess) (reads : List ReadAnswer) : ComputeProcess :=
  if p.eventOpen = false ∨ p.observation.eventEof = true then p
  else drainFrames maximumFramesPerPoll reads p

/-! ### Poll -/

/-- `collect_exit`. -/
def collectExit (p : ComputeProcess) (answer : WaitAnswer) : ComputeProcess :=
  if p.ownedPid ≤ 0 ∨ p.observation.exitStatus.isSome then p
  else
    match answer with
    | .ended status =>
      { p with ownedPid := -1, observation := { p.observation with exitStatus := some status } }
    | .running => p
    | .noChild =>
      { p with ownedPid := -1, observation := { p.observation with ownershipLost := true } }
    | .failed errno => { p.rememberIoError errno with terminationPending := true }

/-- The tests of `poll` that ask for the termination of the child. -/
def escalate (p : ComputeProcess) (nowMs : UInt64) : ComputeProcess :=
  let o := p.observation
  { p with
    terminationPending := p.terminationPending || o.malformed || decide (o.ioError ≠ 0) ||
      (o.stopRequested && o.exitStatus.isNone &&
        (!o.stopDelivered || o.stopRequestedAt.any fun requestedAt ↦
          decide (requestedAt ≤ nowMs ∧ p.stopGraceMs ≤ nowMs - requestedAt))) }

/-- `request_termination_once`. -/
def requestTerminationOnce (p : ComputeProcess) (kill : Option Int) : ComputeProcess :=
  if p.terminationPending = false ∨ p.terminationAttempted = true ∨ p.ownedPid ≤ 0 ∨
      p.observation.exitStatus.isSome ∨ p.observation.ownershipLost = true then
    p
  else
    { p with
      terminationAttempted := true
      observation :=
        { p.observation with
          terminationRequested := true
          terminationError :=
            match kill with
            | none => p.observation.terminationError
            | some error => errorOr error eio } }

/-- `ComputeProcess::poll`. -/
def poll (p : ComputeProcess) (nowMs : UInt64) (answer : PollAnswer) : ComputeProcess :=
  if p.observation.launched = false ∨ p.observation.ownershipLost = true ∨
      p.observation.channelsClosed = true then
    p
  else
    (((p.drainEvents answer.reads).collectExit answer.wait).escalate nowMs).requestTerminationOnce
      answer.kill

/-! ### Closing -/

/-- The bookkeeping of `close_once` for the `errno` of a failed close. -/
def closeOnce (p : ComputeProcess) (isOpen : Bool) (error : Option Int) :
    Bool × ComputeProcess :=
  if isOpen = false then (true, p)
  else
    match error with
    | none => (true, p)
    | some error => (false, { p.rememberIoError error with channelCleanupUnknown := true })

/-- `ComputeProcess::close_channels`, with the answers of the two closes. -/
def closeChannels (p : ComputeProcess) (control event : Option Int) : Bool × ComputeProcess :=
  let o := p.observation
  if o.channelsClosed then (true, p)
  else if o.exitStatus.isNone = true ∨ o.eventEof = false ∨ o.ownershipLost = true ∨
      p.channelCleanupUnknown = true then
    (false, p)
  else
    let (controlClosed, p) := { p with controlOpen := false }.closeOnce p.controlOpen control
    let (eventClosed, p) := { p with eventOpen := false }.closeOnce p.eventOpen event
    let closed := controlClosed && eventClosed
    (closed, { p with observation := { p.observation with channelsClosed := closed } })

end ComputeProcess

end RobotHarness.Compute
