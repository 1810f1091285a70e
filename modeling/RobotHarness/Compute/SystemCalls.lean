import Mathlib.Data.List.Induction
import RobotHarness.Base.Mealy
import RobotHarness.Base.Since
import RobotHarness.Compute.Process

/-!
# The system calls of a compute process

`launch`, `request_stop`, `poll` and `close_channels` of `src/compute/compute_process.cpp` with
the calls that they make. A descriptor is modelled by the number of descriptors that were opened
before it, so a descriptor that the system hands out again is another one.
-/

namespace RobotHarness.Compute

/-- A call on a descriptor or a process, with the part of its answer that ownership depends on. -/
inductive SystemCall where
  | opened (descriptor : ℕ)
  | close (descriptor : ℕ) (error : Option Int)
  | spawn (child : Option Int)
  | send (descriptor : ℕ)
  | read (descriptor : ℕ) (ended : Bool)
  | waitpid (pid : Int) (answer : WaitAnswer)
  | kill (pid : Int)

/-- `EMFILE`. -/
def emfile : Int := 24

/-- What `make_control_pair` or `make_event_pipe` meets: the errors of the two ends, of their
duplicates, of the flags and of the socket option, and of the closes in their order. The event
pipe has no socket option. -/
structure PairAnswer where
  make : Option Int
  first : Option Int
  second : Option Int
  nonblocking : Option Int
  option : Option Int
  closes : List (Option Int)

/-- What a pair ends with: both descriptors, or an error with those that the caller has to
close. -/
inductive PairResult where
  | made (first second : ℕ)
  | failed (error : Int) (owned : List ℕ)

/-- The descriptors that a pair leaves to its caller. -/
def PairResult.owned : PairResult → List ℕ
  | .made first second => [second, first]
  | .failed _ owned => owned

/-- What a launch meets. An error is zero when the step succeeds. -/
structure LaunchCalls where
  /-- `executable_error`. -/
  executableError : Int
  control : PairAnswer
  events : PairAnswer
  /-- The error of the file actions. -/
  actionsError : Int
  /-- The error of `posix_spawn`, or the child. -/
  spawn : Except Int Int
  /-- The errors of the closes when the launch returns. -/
  returns : List (Option Int)

/-- A process with the descriptors that it holds, those that a launch under way holds, the number
of descriptors opened so far and the calls made. -/
structure OwnedProcess where
  process : ComputeProcess
  control : Option ℕ := none
  event : Option ℕ := none
  guards : List ℕ := []
  next : ℕ := 0
  log : List SystemCall := []

namespace OwnedProcess

/-- A call is made. -/
def emit (o : OwnedProcess) (call : SystemCall) : OwnedProcess :=
  { o with log := o.log ++ [call] }

/-- The members of the process change. -/
def become (o : OwnedProcess) (process : ComputeProcess) : OwnedProcess := { o with process }

/-- A descriptor is opened and guarded. -/
def acquire (o : OwnedProcess) : ℕ × OwnedProcess :=
  (o.next, { o.emit (.opened o.next) with guards := o.next :: o.guards, next := o.next + 1 })

/-- `Descriptor::reset`. -/
def reset (o : OwnedProcess) (descriptor : ℕ) (error : Option Int) : OwnedProcess :=
  { o.emit (.close descriptor error) with
    guards := o.guards.erase descriptor
    process := o.process.reportClose error }

/-- The destructors of guards, in their order. -/
def resetAll : List ℕ → List (Option Int) → OwnedProcess → OwnedProcess
  | [], _, o => o
  | descriptor :: descriptors, errors, o =>
    resetAll descriptors errors.tail (o.reset descriptor errors.head?.join)

/-- `make_control_pair` and `make_event_pipe`, with `duplicate_pair`. -/
def makePair (o : OwnedProcess) (answer : PairAnswer) : PairResult × OwnedProcess :=
  match answer.make with
  | some error => (.failed (errorOr error emfile) [], o)
  | none =>
    let (original, o) := o.acquire
    let (original', o) := o.acquire
    match answer.first with
    | some error =>
      (.failed (errorOr error emfile) [], resetAll [original', original] answer.closes o)
    | none =>
      let (first, o) := o.acquire
      match answer.second with
      | some error =>
        (.failed (errorOr error emfile) [], resetAll [first, original', original] answer.closes o)
      | none =>
        let (second, o) := o.acquire
        match answer.nonblocking, answer.option with
        | some error, _ =>
          (.failed (errorOr error eio) [],
            resetAll [second, first, original', original] answer.closes o)
        | none, some error =>
          (.failed (errorOr error eio) [second, first],
            resetAll [original', original] answer.closes o)
        | none, none => (.made first second, resetAll [original', original] answer.closes o)

/-- A refused launch, and the destructors of what it still owns. -/
def refuse (o : OwnedProcess) (error : Int) (owned : List ℕ) (closes : List (Option Int)) :
    Bool × OwnedProcess :=
  (false, resetAll owned closes (o.become (o.process.refuseLaunch error)))

/-- The ownership transfer after a successful spawn, and the destructors of the child's ends. -/
def adopt (o : OwnedProcess) (child : Int) (control control' events events' : ℕ)
    (closes : List (Option Int)) : OwnedProcess :=
  resetAll [events', control] closes
    { o with
      process := o.process.adopt child
      control := some control'
      event := some events
      guards := (o.guards.erase control').erase events }

/-- `launch`. -/
def launch (o : OwnedProcess) (answer : LaunchCalls) : Bool × OwnedProcess :=
  let p := o.process
  if p.observation.launched then (true, o)
  else if p.observation.stopRequested then (false, o.become (p.refuseLaunch einval))
  else if ¬ validIterations p.iterations then (false, o.become (p.refuseLaunch einval))
  else if answer.executableError ≠ 0 then
    (false, o.become (p.refuseLaunch answer.executableError))
  else
    match (o.become (p.refuseLaunch 0)).makePair answer.control with
    | (.failed error owned, o) =>
      o.refuse (errorOr error o.process.observation.ioError) owned answer.returns
    | (.made control control', o) =>
      match o.makePair { answer.events with option := none } with
      | (.failed error owned, o) =>
        o.refuse (errorOr error o.process.observation.ioError) (owned ++ [control', control])
          answer.returns
      | (.made events events', o) =>
        let owned := [events', events, control', control]
        if o.process.channelCleanupUnknown = true then
          o.refuse o.process.observation.ioError owned answer.returns
        else if answer.actionsError ≠ 0 then o.refuse answer.actionsError owned answer.returns
        else
          match answer.spawn with
          | .error error =>
            (o.emit (.spawn none)).refuse (errorOr error echild) owned answer.returns
          | .ok child =>
            if child ≤ 0 then (o.emit (.spawn none)).refuse echild owned answer.returns
            else
              (true, (o.emit (.spawn (some child))).adopt child control control' events events'
                answer.returns)

/-- `request_stop`. -/
def requestStop (o : OwnedProcess) (nowMs : UInt64) (send : Option Int) : OwnedProcess :=
  let stopped := o.become (o.process.requestStop nowMs send)
  if o.process.observation.stopRequested = true ∨ o.process.ownedPid ≤ 0 ∨
      o.process.observation.exitStatus.isSome then
    stopped
  else
    match o.control with
    | none => stopped
    | some descriptor => stopped.emit (.send descriptor)

/-- The loop of `drain_events`. -/
def drainFrames (descriptor : ℕ) : (frames : ℕ) → List ReadAnswer → OwnedProcess → OwnedProcess
  | 0, _, o => o
  | _, [], o => o.emit (.read descriptor false)
  | frames + 1, .data count frame :: reads, o =>
    let buffered := min (o.process.bufferedFrameBytes + max count 1) frameBytes
    let o := o.emit (.read descriptor false)
    if buffered = frameBytes then
      drainFrames descriptor frames reads
        (o.become ({ o.process with bufferedFrameBytes := 0 }.consume frame))
    else
      drainFrames descriptor (frames + 1) reads
        (o.become { o.process with bufferedFrameBytes := buffered })
  | _, .eof :: _, o => (o.emit (.read descriptor true)).become o.process.meetEof
  | _, .retry :: _, o => o.emit (.read descriptor false)
  | _, .failed errno :: _, o =>
    (o.emit (.read descriptor false)).become (o.process.rememberIoError errno)

/-- `drain_events`. -/
def drainEvents (o : OwnedProcess) (reads : List ReadAnswer) : OwnedProcess :=
  match o.event with
  | none => o
  | some descriptor =>
    if o.process.observation.eventEof = true then o
    else drainFrames descriptor maximumFramesPerPoll reads o

/-- `collect_exit`. -/
def collectExit (o : OwnedProcess) (answer : WaitAnswer) : OwnedProcess :=
  if o.process.ownedPid ≤ 0 ∨ o.process.observation.exitStatus.isSome then o
  else (o.emit (.waitpid o.process.ownedPid answer)).become (o.process.collectExit answer)

/-- `request_termination_once`. -/
def requestTerminationOnce (o : OwnedProcess) (kill : Option Int) : OwnedProcess :=
  let p := o.process
  if p.terminationPending = false ∨ p.terminationAttempted = true ∨ p.ownedPid ≤ 0 ∨
      p.observation.exitStatus.isSome ∨ p.observation.ownershipLost = true then
    o
  else (o.emit (.kill p.ownedPid)).become (p.requestTerminationOnce kill)

/-- `poll`. -/
def poll (o : OwnedProcess) (nowMs : UInt64) (answer : PollAnswer) : OwnedProcess :=
  let observation := o.process.observation
  if observation.launched = false ∨ observation.ownershipLost = true ∨
      observation.channelsClosed = true then
    o
  else
    let o := (o.drainEvents answer.reads).collectExit answer.wait
    (o.become (o.process.escalate nowMs)).requestTerminationOnce answer.kill

/-- `close_once` takes the control descriptor. -/
def takeControl (o : OwnedProcess) : OwnedProcess :=
  { o with control := none, process := { o.process with controlOpen := false } }

/-- `close_once` takes the event descriptor. -/
def takeEvent (o : OwnedProcess) : OwnedProcess :=
  { o with event := none, process := { o.process with eventOpen := false } }

/-- `close_once` of a descriptor that the process held until now. -/
def closeOnce (o : OwnedProcess) (descriptor : Option ℕ) (error : Option Int) :
    Bool × OwnedProcess :=
  match descriptor with
  | none => (true, o)
  | some descriptor =>
    (error.isNone, (o.emit (.close descriptor error)).become (o.process.reportClose error))

/-- `close_channels`, with the answers of the two closes. -/
def closeChannels (o : OwnedProcess) (control event : Option Int) : Bool × OwnedProcess :=
  let p := o.process
  if p.observation.channelsClosed then (true, o)
  else if p.observation.exitStatus.isNone = true ∨ p.observation.eventEof = false ∨
      p.observation.ownershipLost = true ∨ p.channelCleanupUnknown = true then
    (false, o)
  else
    let (controlClosed, o) := o.takeControl.closeOnce o.control control
    let (eventClosed, o) := o.takeEvent.closeOnce o.event event
    let closed := controlClosed && eventClosed
    (closed, o.become { o.process with
      observation := { o.process.observation with channelsClosed := closed } })

end OwnedProcess

/-- A call from the owner with what the system answers. -/
inductive ProcessCall where
  | launch (answer : LaunchCalls)
  | requestStop (nowMs : UInt64) (send : Option Int)
  | poll (nowMs : UInt64) (answer : PollAnswer)
  | closeChannels (control event : Option Int)

namespace OwnedProcess

/-- A process that was just constructed. -/
def create (executable : String) (iterations stopGraceMs : UInt64) : OwnedProcess :=
  { process := .create executable iterations stopGraceMs }

/-- One call, with what it returns. -/
def call (o : OwnedProcess) : ProcessCall → Bool × OwnedProcess
  | .launch answer => o.launch answer
  | .requestStop nowMs send => (true, o.requestStop nowMs send)
  | .poll nowMs answer => (true, o.poll nowMs answer)
  | .closeChannels control event => o.closeChannels control event

end OwnedProcess

/-- An owned process as a machine that answers calls. -/
def ownedProcess : Mealy OwnedProcess ProcessCall Bool := ⟨OwnedProcess.call⟩

end RobotHarness.Compute

/-! ### What a log says -/

namespace RobotHarness.Compute

/-- `waitpid` has answered that the child is gone. -/
def WaitAnswer.reaps : WaitAnswer → Bool
  | .ended _ | .noChild => true
  | .running | .failed _ => false

/-- The call opens a descriptor or closes one. -/
def SystemCall.opensOrCloses : SystemCall → Bool
  | .opened _ | .close _ _ => true
  | .spawn _ | .send _ | .read _ _ | .waitpid _ _ | .kill _ => false

/-- What is settled for good about a process. -/
@[ext] structure Standing where
  launched : Bool
  killed : Bool
  unclean : Bool
  exited : Bool
  lost : Bool
  ended : Bool

/-- The standing after one more call. -/
def Standing.after (s : Standing) : SystemCall → Standing
  | .opened _ | .send _ => s
  | .close _ error => { s with unclean := s.unclean || error.isSome }
  | .spawn child => { s with launched := s.launched || child.isSome }
  | .read _ ended => { s with ended := s.ended || ended }
  | .waitpid _ (.ended _) => { s with exited := true }
  | .waitpid _ .noChild => { s with lost := true }
  | .waitpid _ .running | .waitpid _ (.failed _) => s
  | .kill _ => { s with killed := true }

/-- Nothing of the child is left to collect, and every descriptor was closed for certain. -/
def Standing.Released (s : Standing) : Prop :=
  s.exited = true ∧ s.ended = true ∧ s.lost = false ∧ s.unclean = false

/-- What a log settles. -/
def standing (log : List SystemCall) : Standing :=
  log.foldl Standing.after ⟨false, false, false, false, false, false⟩

/-- One more call is taken after the ones before it. -/
theorem standing_append (log : List SystemCall) (call : SystemCall) :
    standing (log ++ [call]) = (standing log).after call := by
  rw [standing, List.foldl_append]
  rfl

/-- The descriptor was opened and not passed to `close` since. -/
def Live (log : List SystemCall) (descriptor : ℕ) : Prop :=
  .opened descriptor ∈ log ∧ ∀ error, .close descriptor error ∉ log

/-- The child was spawned, and `waitpid` has returned neither its status nor `ECHILD`. -/
def Running (log : List SystemCall) (pid : Int) : Prop :=
  .spawn (some pid) ∈ log ∧ ∀ answer : WaitAnswer, answer.reaps → .waitpid pid answer ∉ log

/-- What may be called after the calls of a log: a descriptor is used only while it is live, a
child is waited for and signalled only while it is running, it is signalled once, and nothing is
spawned after it. -/
def Fine (log : List SystemCall) : SystemCall → Prop
  | .opened descriptor => .opened descriptor ∉ log
  | .close descriptor _ | .send descriptor | .read descriptor _ => Live log descriptor
  | .spawn _ => ∀ child, .spawn (some child) ∉ log
  | .waitpid pid _ => Running log pid
  | .kill pid => Running log pid ∧ ∀ other, .kill other ∉ log

section Facts

variable {log : List SystemCall} {call : SystemCall}

/-- A descriptor stays live until it is closed. -/
theorem Live.append {descriptor : ℕ} (h : Live log descriptor)
    (hne : ∀ error, call ≠ .close descriptor error) : Live (log ++ [call]) descriptor := by
  refine ⟨List.mem_append_left _ h.1, fun error hmem ↦ ?_⟩
  rcases List.mem_append.mp hmem with hmem | hmem
  · exact h.2 error hmem
  · exact hne error (List.mem_singleton.mp hmem).symm

/-- A child stays running until it is reaped. -/
theorem Running.append {pid : Int} (h : Running log pid)
    (hne : ∀ answer : WaitAnswer, answer.reaps → call ≠ .waitpid pid answer) :
    Running (log ++ [call]) pid := by
  refine ⟨List.mem_append_left _ h.1, fun answer hreaps hmem ↦ ?_⟩
  rcases List.mem_append.mp hmem with hmem | hmem
  · exact h.2 answer hreaps hmem
  · exact hne answer hreaps (List.mem_singleton.mp hmem).symm

/-- A child that was waited for was spawned. -/
theorem spawned_of_waited {pid : Int} {answer : WaitAnswer} (h : Preceded Fine log)
    (hwait : .waitpid pid answer ∈ log) : .spawn (some pid) ∈ log := by
  obtain ⟨before, after, rfl⟩ := List.append_of_mem hwait
  exact List.mem_append_left _ (h before _ after rfl).1

/-- What is settled for good is settled by one of the calls. -/
theorem standing_iff (settled : Standing → Bool) (settles : SystemCall → Prop)
    (hinit : settled ⟨false, false, false, false, false, false⟩ = false)
    (hafter : ∀ s call, settled (s.after call) = true ↔ settled s = true ∨ settles call)
    (log : List SystemCall) : settled (standing log) = true ↔ ∃ call ∈ log, settles call := by
  induction log using List.reverseRecOn with
  | nil => simp [standing, hinit]
  | append_singleton log call ih =>
    rw [standing_append, hafter, ih]
    simp [or_and_right, exists_or]

/-- A child was launched exactly when a spawn returned one. -/
theorem launched_iff (log : List SystemCall) :
    (standing log).launched = true ↔ ∃ child, .spawn (some child) ∈ log := by
  rw [standing_iff Standing.launched (fun call ↦ ∃ child, call = .spawn (some child)) rfl]
  · grind
  · intro s call
    cases call with
    | spawn child => cases child <;> simp [Standing.after]
    | waitpid _ answer => cases answer <;> simp [Standing.after]
    | _ => simp [Standing.after]

/-- A child was killed exactly when a kill was sent. -/
theorem killed_iff (log : List SystemCall) :
    (standing log).killed = true ↔ ∃ pid, .kill pid ∈ log := by
  rw [standing_iff Standing.killed (fun call ↦ ∃ pid, call = .kill pid) rfl]
  · grind
  · intro s call
    cases call with
    | waitpid _ answer => cases answer <;> simp [Standing.after]
    | _ => simp [Standing.after]

/-- A close was unclean exactly when one failed. -/
theorem unclean_iff (log : List SystemCall) :
    (standing log).unclean = true ↔ ∃ descriptor error, .close descriptor (some error) ∈ log := by
  rw [standing_iff Standing.unclean
    (fun call ↦ ∃ descriptor error, call = .close descriptor (some error)) rfl]
  · grind
  · intro s call
    cases call with
    | close _ error => cases error <;> simp [Standing.after]
    | waitpid _ answer => cases answer <;> simp [Standing.after]
    | _ => simp [Standing.after]

/-- A child has exited exactly when a wait returned its status. -/
theorem exited_iff (log : List SystemCall) :
    (standing log).exited = true ↔ ∃ pid status, .waitpid pid (.ended status) ∈ log := by
  rw [standing_iff Standing.exited (fun call ↦ ∃ pid status, call = .waitpid pid (.ended status))
    rfl]
  · grind
  · intro s call
    cases call with
    | waitpid _ answer => cases answer <;> simp [Standing.after]
    | _ => simp [Standing.after]

/-- A child is lost exactly when a wait found none. -/
theorem lost_iff (log : List SystemCall) :
    (standing log).lost = true ↔ ∃ pid, .waitpid pid .noChild ∈ log := by
  rw [standing_iff Standing.lost (fun call ↦ ∃ pid, call = .waitpid pid .noChild) rfl]
  · grind
  · intro s call
    cases call with
    | waitpid _ answer => cases answer <;> simp [Standing.after]
    | _ => simp [Standing.after]

/-- The event channel has ended exactly when a read found its end. -/
theorem ended_iff (log : List SystemCall) :
    (standing log).ended = true ↔ ∃ descriptor, .read descriptor true ∈ log := by
  rw [standing_iff Standing.ended (fun call ↦ ∃ descriptor, call = .read descriptor true) rfl]
  · grind
  · intro s call
    cases call with
    | waitpid _ answer => cases answer <;> simp [Standing.after]
    | _ => simp [Standing.after]

end Facts

end RobotHarness.Compute
