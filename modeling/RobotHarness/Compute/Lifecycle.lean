import RobotHarness.Compute.Process

/-!
# What the operations of a process keep

A launch, a stop request and the release of the channels assign few members of the observation.
A poll launches and closes nothing, keeps the exit status and, once the event stream has
ended, all that was read of it. The channels are closed only after the exit was collected.
-/

namespace RobotHarness.Compute

namespace ComputeProcess

variable {p : ComputeProcess}

/-- The child is gone and nothing of it is left: its exit status was collected, its event
stream has ended and both channels are closed. -/
def Reaped (p : ComputeProcess) : Prop :=
  p.observation.exitStatus.isSome = true ∧ p.observation.eventEof = true ∧
    p.observation.channelsClosed = true
  deriving Decidable

/-- The process never had a child, or its child is gone. -/
def Clean (p : ComputeProcess) : Prop := p.observation.launched = false ∨ p.Reaped
  deriving Decidable

/-- The channels are closed only behind a child that is gone. -/
def Sound (p : ComputeProcess) : Prop := p.observation.channelsClosed = true → p.Reaped

/-- The process has a child whose channels are not closed. -/
def Busy (p : ComputeProcess) : Prop :=
  p.observation.launched = true ∧ p.observation.channelsClosed = false
  deriving Decidable

/-- A sound process that is not busy is clean. -/
theorem Sound.clean (h : p.Sound) (hbusy : ¬ p.Busy) : p.Clean := by
  by_cases hlaunched : p.observation.launched = true
  · by_cases hclosed : p.observation.channelsClosed = true
    · exact .inr (h hclosed)
    · exact absurd ⟨hlaunched, by simpa using hclosed⟩ hbusy
  · exact .inl (by simpa using hlaunched)

/-- A busy process is sound. -/
theorem Busy.sound (h : p.Busy) : p.Sound := fun hclosed ↦ nomatch h.2.symm.trans hclosed

/-- A fresh process is sound. -/
theorem sound_of_fresh (h : p.observation = {}) : p.Sound := by
  intro hclosed
  rw [h] at hclosed
  cases hclosed

/-! ### Launch and stop -/

private theorem rememberIoError_eq (p : ComputeProcess) (error : Int) :
    ∃ io, (p.rememberIoError error).observation = { p.observation with ioError := io } := by
  unfold rememberIoError
  split
  · exact ⟨_, rfl⟩
  · exact ⟨_, rfl⟩

private theorem reportClose_eq (p : ComputeProcess) (close : Option Int) :
    ∃ io, (p.reportClose close).observation = { p.observation with ioError := io } := by
  cases close with
  | none => exact ⟨_, rfl⟩
  | some error => exact p.rememberIoError_eq error

/-- A launch assigns the launch, the child and the two errors alone, and answers whether there
is a child. -/
theorem launch_eq (p : ComputeProcess) (answer : LaunchAnswer)
    (h : p.observation.launched = false) :
    ∃ launched child error io,
      (p.launch answer).2.observation =
          { p.observation with
            launched := launched, childPid := child, launchError := error, ioError := io } ∧
        (p.launch answer).1 = launched := by
  unfold launch
  rw [if_neg (by simp [h])]
  split
  · exact ⟨_, _, _, _, rfl, h.symm⟩
  split
  · exact ⟨_, _, _, _, rfl, h.symm⟩
  split
  · exact ⟨_, _, _, _, rfl, h.symm⟩
  dsimp only
  obtain ⟨made, hmade⟩ := (p.refuseLaunch 0).reportClose_eq answer.channelClose
  generalize (p.refuseLaunch 0).reportClose answer.channelClose = q at hmade ⊢
  split
  · obtain ⟨closed, hclosed⟩ :=
      (q.refuseLaunch (errorOr answer.channelError q.observation.ioError)).reportClose_eq
        answer.returnClose
    exact ⟨false, _, _, closed, by rw [hclosed, refuseLaunch, hmade, ← h]; rfl, rfl⟩
  split
  · obtain ⟨closed, hclosed⟩ :=
      (q.refuseLaunch (errorOr answer.spawnError echild)).reportClose_eq answer.returnClose
    exact ⟨false, _, _, closed, by rw [hclosed, refuseLaunch, hmade, ← h]; rfl, rfl⟩
  · obtain ⟨closed, hclosed⟩ := (q.adopt answer.child).reportClose_eq answer.returnClose
    exact ⟨true, _, _, closed, by rw [hclosed, adopt, hmade]; rfl, rfl⟩

/-- A stop request assigns the members of the stop alone. -/
theorem requestStop_eq (p : ComputeProcess) (nowMs : UInt64) (send : Option Int) :
    ∃ requested requestedAt delivered error,
      (p.requestStop nowMs send).observation =
        { p.observation with
          stopRequested := requested, stopRequestedAt := requestedAt, stopDelivered := delivered
          stopError := error } := by
  unfold requestStop
  split
  · exact ⟨_, _, _, _, rfl⟩
  dsimp only
  split
  · exact ⟨_, _, _, _, rfl⟩
  split
  · exact ⟨_, _, _, _, rfl⟩
  · exact ⟨_, _, _, _, rfl⟩

/-! ### Closing -/

private theorem closeOnce_eq (p : ComputeProcess) (isOpen : Bool) (error : Option Int) :
    ∃ io, (p.closeOnce isOpen error).2.observation = { p.observation with ioError := io } := by
  unfold closeOnce
  split
  · exact ⟨_, rfl⟩
  split
  · exact ⟨_, rfl⟩
  · exact p.rememberIoError_eq _

/-- The release of the channels assigns their state and the error alone, and answers whether
they are closed; they are closed only behind a child that is gone. -/
theorem closeChannels_eq (p : ComputeProcess) (control event : Option Int) :
    ∃ closed io,
      (p.closeChannels control event).2.observation =
          { p.observation with channelsClosed := closed, ioError := io } ∧
        (p.closeChannels control event).1 = closed ∧
        (closed = true → p.observation.channelsClosed = true ∨
          p.observation.exitStatus.isSome = true ∧ p.observation.eventEof = true) := by
  unfold closeChannels
  dsimp only
  split
  · next hclosed => exact ⟨true, _, by rw [← hclosed], rfl, fun _ ↦ .inl hclosed⟩
  next hopen =>
  split
  · have hopen : p.observation.channelsClosed = false := by simpa using hopen
    exact ⟨false, _, by rw [← hopen], rfl, nofun⟩
  next hready =>
  push Not at hready
  obtain ⟨hexit, heof, -, -⟩ := hready
  obtain ⟨first, hfirst⟩ := { p with controlOpen := false }.closeOnce_eq p.controlOpen control
  generalize { p with controlOpen := false }.closeOnce p.controlOpen control = controlled
    at hfirst ⊢
  obtain ⟨second, hsecond⟩ :=
    { controlled.2 with eventOpen := false }.closeOnce_eq controlled.2.eventOpen event
  generalize { controlled.2 with eventOpen := false }.closeOnce controlled.2.eventOpen event =
    released at hsecond ⊢
  refine ⟨controlled.1 && released.1, second, ?_, rfl, fun _ ↦ .inr ?_⟩
  · rw [hsecond, hfirst]
  · exact ⟨Option.isSome_iff_ne_none.mpr (by simpa using hexit), by simpa using heof⟩

/-! ### Poll -/

/-- What the reads of a poll leave alone, and keep once the stream has ended. -/
structure StreamFrame (o o' : ProcessObservation) : Prop where
  launched : o'.launched = o.launched
  channelsClosed : o'.channelsClosed = o.channelsClosed
  stopRequested : o'.stopRequested = o.stopRequested
  exitStatus : o'.exitStatus = o.exitStatus

/-- What was read of an event stream. -/
structure SameStream (o o' : ProcessObservation) : Prop where
  started : o'.started = o.started
  malformed : o'.malformed = o.malformed
  eventEof : o'.eventEof = o.eventEof
  terminal : o'.terminal = o.terminal
  terminalIterations : o'.terminalIterations = o.terminalIterations
  terminalValue : o'.terminalValue = o.terminalValue

private theorem StreamFrame.trans {o o' o'' : ProcessObservation} (h : StreamFrame o o')
    (h' : StreamFrame o' o'') : StreamFrame o o'' where
  launched := h'.launched.trans h.launched
  channelsClosed := h'.channelsClosed.trans h.channelsClosed
  stopRequested := h'.stopRequested.trans h.stopRequested
  exitStatus := h'.exitStatus.trans h.exitStatus

private theorem consume_frame (p : ComputeProcess) (frame : Frame) :
    StreamFrame p.observation (p.consume frame).observation := by
  unfold consume
  split
  · exact ⟨rfl, rfl, rfl, rfl⟩
  split
  · exact ⟨rfl, rfl, rfl, rfl⟩
  unfold consumeKind
  dsimp only
  split
  all_goals first
    | exact ⟨rfl, rfl, rfl, rfl⟩
    | split <;> exact ⟨rfl, rfl, rfl, rfl⟩

private theorem drainFrames_frame (frames : ℕ) (reads : List ReadAnswer) (p : ComputeProcess) :
    StreamFrame p.observation (drainFrames frames reads p).observation := by
  fun_induction drainFrames frames reads p
  case case3 p _ _ ih =>
    exact (consume_frame { p with bufferedFrameBytes := 0 } _).trans ih
  case case4 ih => exact ih
  case case7 =>
    obtain ⟨_, h⟩ := rememberIoError_eq _ _
    rw [h]
    exact ⟨rfl, rfl, rfl, rfl⟩
  all_goals exact ⟨rfl, rfl, rfl, rfl⟩

private theorem drainEvents_frame (p : ComputeProcess) (reads : List ReadAnswer) :
    StreamFrame p.observation (p.drainEvents reads).observation := by
  unfold drainEvents
  split
  · exact ⟨rfl, rfl, rfl, rfl⟩
  · exact drainFrames_frame _ reads p

/-- Once the stream has ended nothing is read. -/
private theorem drainEvents_ended {reads : List ReadAnswer}
    (h : p.observation.eventEof = true) : p.drainEvents reads = p := by
  unfold drainEvents
  rw [if_pos (.inr h)]

private theorem collectExit_frame (p : ComputeProcess) (answer : WaitAnswer) :
    (p.collectExit answer).observation.launched = p.observation.launched ∧
      (p.collectExit answer).observation.channelsClosed = p.observation.channelsClosed ∧
      (p.collectExit answer).observation.stopRequested = p.observation.stopRequested ∧
      (∀ status ∈ p.observation.exitStatus,
        status ∈ (p.collectExit answer).observation.exitStatus) ∧
      SameStream p.observation (p.collectExit answer).observation := by
  unfold collectExit
  split
  · exact ⟨rfl, rfl, rfl, fun _ h ↦ h, ⟨rfl, rfl, rfl, rfl, rfl, rfl⟩⟩
  next hrunning =>
  push Not at hrunning
  have hnone : p.observation.exitStatus = none := by simpa using hrunning.2
  split
  · exact ⟨rfl, rfl, rfl, by simp [hnone], ⟨rfl, rfl, rfl, rfl, rfl, rfl⟩⟩
  · exact ⟨rfl, rfl, rfl, fun _ h ↦ h, ⟨rfl, rfl, rfl, rfl, rfl, rfl⟩⟩
  · exact ⟨rfl, rfl, rfl, fun _ h ↦ h, ⟨rfl, rfl, rfl, rfl, rfl, rfl⟩⟩
  · obtain ⟨_, h⟩ := p.rememberIoError_eq _
    dsimp only
    rw [h]
    exact ⟨rfl, rfl, rfl, fun _ h ↦ h, ⟨rfl, rfl, rfl, rfl, rfl, rfl⟩⟩

private theorem requestTerminationOnce_eq (p : ComputeProcess) (kill : Option Int) :
    ∃ requested error,
      (p.requestTerminationOnce kill).observation =
        { p.observation with terminationRequested := requested, terminationError := error } := by
  unfold requestTerminationOnce
  split
  · exact ⟨_, _, rfl⟩
  · exact ⟨_, _, rfl⟩

/-- What a poll leaves alone, what it keeps, and what it keeps once the stream has ended. -/
structure PollFrame (o o' : ProcessObservation) : Prop where
  launched : o'.launched = o.launched
  channelsClosed : o'.channelsClosed = o.channelsClosed
  stopRequested : o'.stopRequested = o.stopRequested
  exitStatus : ∀ status ∈ o.exitStatus, status ∈ o'.exitStatus
  stream : o.eventEof = true → SameStream o o'

/-- The frame of a poll. -/
theorem poll_frame (p : ComputeProcess) (nowMs : UInt64) (answer : PollAnswer) :
    PollFrame p.observation (p.poll nowMs answer).observation := by
  unfold poll
  split
  · exact ⟨rfl, rfl, rfl, fun _ h ↦ h, fun _ ↦ ⟨rfl, rfl, rfl, rfl, rfl, rfl⟩⟩
  have hdrain := p.drainEvents_frame answer.reads
  obtain ⟨hlaunched, hclosed, hstop, hexit, hstream⟩ :=
    (p.drainEvents answer.reads).collectExit_frame answer.wait
  obtain ⟨_, _, hkill⟩ :=
    (((p.drainEvents answer.reads).collectExit answer.wait).escalate
      nowMs).requestTerminationOnce_eq answer.kill
  rw [hkill]
  refine ⟨hlaunched.trans hdrain.launched, hclosed.trans hdrain.channelsClosed,
    hstop.trans hdrain.stopRequested, fun status h ↦ hexit status ?_, fun heof ↦ ?_⟩
  · rw [hdrain.exitStatus]
    exact h
  · rw [drainEvents_ended heof] at hstream ⊢
    exact ⟨hstream.started, hstream.malformed, hstream.eventEof, hstream.terminal,
      hstream.terminalIterations, hstream.terminalValue⟩

/-- A poll keeps a process busy. -/
theorem Busy.poll (h : p.Busy) (nowMs : UInt64) (answer : PollAnswer) :
    (p.poll nowMs answer).Busy := by
  have hframe := p.poll_frame nowMs answer
  exact ⟨hframe.launched.trans h.1, hframe.channelsClosed.trans h.2⟩

/-- A stop request keeps a process sound. -/
theorem Sound.requestStop (h : p.Sound) (nowMs : UInt64) (send : Option Int) :
    (p.requestStop nowMs send).Sound := by
  obtain ⟨_, _, _, _, heq⟩ := p.requestStop_eq nowMs send
  unfold Sound Reaped
  rw [heq]
  exact h

/-- A release of the channels keeps a process sound. -/
theorem Sound.closeChannels (h : p.Sound) (control event : Option Int) :
    (p.closeChannels control event).2.Sound := by
  obtain ⟨closed, _, heq, -, hbehind⟩ := p.closeChannels_eq control event
  unfold Sound Reaped
  rw [heq]
  rintro rfl
  rcases hbehind rfl with hclosed | ⟨hexit, heof⟩
  · exact ⟨(h hclosed).1, (h hclosed).2.1, rfl⟩
  · exact ⟨hexit, heof, rfl⟩

/-- A launch leaves a sound process, which is busy if it answers that there is a child. -/
theorem launch_sound (answer : LaunchAnswer) (h : p.observation = {}) :
    (p.launch answer).2.Sound ∧ ((p.launch answer).2.Busy → (p.launch answer).1 = true) := by
  obtain ⟨launched, _, _, _, heq, hanswer⟩ := p.launch_eq answer (by rw [h])
  unfold Sound Reaped Busy
  rw [heq, h, hanswer]
  exact ⟨nofun, And.left⟩

/-- A stop request keeps a process busy. -/
theorem Busy.requestStop (h : p.Busy) (nowMs : UInt64) (send : Option Int) :
    (p.requestStop nowMs send).Busy := by
  obtain ⟨_, _, _, _, heq⟩ := p.requestStop_eq nowMs send
  unfold Busy
  rw [heq]
  exact h

/-! ### A completed child -/

/-- The child exited with status 0 after a well-formed event stream that completed. -/
structure Completed (p : ComputeProcess) (iterations value : UInt64) : Prop where
  exitStatus : p.observation.exitStatus = some (.exited 0)
  eventEof : p.observation.eventEof = true
  malformed : p.observation.malformed = false
  terminal : p.observation.terminal = .completed
  terminalIterations : p.observation.terminalIterations = iterations
  terminalValue : p.observation.terminalValue = value

namespace Completed

variable {iterations value : UInt64}

/-- A completed child stays so while its exit and its stream stay. -/
theorem of_eq (h : p.Completed iterations value) {p' : ComputeProcess}
    (hexit : ∀ status ∈ p.observation.exitStatus, status ∈ p'.observation.exitStatus)
    (hstream : SameStream p.observation p'.observation) : p'.Completed iterations value where
  exitStatus := hexit _ h.exitStatus
  eventEof := hstream.eventEof.trans h.eventEof
  malformed := hstream.malformed.trans h.malformed
  terminal := hstream.terminal.trans h.terminal
  terminalIterations := hstream.terminalIterations.trans h.terminalIterations
  terminalValue := hstream.terminalValue.trans h.terminalValue

/-- `launch` keeps an observed completion. -/
theorem launch (h : p.Completed iterations value) (answer : LaunchAnswer) :
    (p.launch answer).2.Completed iterations value := by
  by_cases hlaunched : p.observation.launched = true
  · unfold ComputeProcess.launch
    rw [if_pos hlaunched]
    exact h
  · obtain ⟨_, _, _, _, heq, -⟩ := p.launch_eq answer (by simpa using hlaunched)
    refine h.of_eq ?_ ?_
    all_goals rw [heq]
    · exact fun _ ↦ id
    · exact ⟨rfl, rfl, rfl, rfl, rfl, rfl⟩

/-- `requestStop` keeps an observed completion. -/
theorem requestStop (h : p.Completed iterations value) (nowMs : UInt64) (send : Option Int) :
    (p.requestStop nowMs send).Completed iterations value := by
  obtain ⟨_, _, _, _, heq⟩ := p.requestStop_eq nowMs send
  refine h.of_eq ?_ ?_
  all_goals rw [heq]
  · exact fun _ ↦ id
  · exact ⟨rfl, rfl, rfl, rfl, rfl, rfl⟩

/-- `closeChannels` keeps an observed completion. -/
theorem closeChannels (h : p.Completed iterations value) (control event : Option Int) :
    (p.closeChannels control event).2.Completed iterations value := by
  obtain ⟨_, _, heq, -, -⟩ := p.closeChannels_eq control event
  refine h.of_eq ?_ ?_
  all_goals rw [heq]
  · exact fun _ ↦ id
  · exact ⟨rfl, rfl, rfl, rfl, rfl, rfl⟩

/-- `poll` keeps an observed completion. -/
theorem poll (h : p.Completed iterations value) (nowMs : UInt64) (answer : PollAnswer) :
    (p.poll nowMs answer).Completed iterations value :=
  have hframe := p.poll_frame nowMs answer
  h.of_eq hframe.exitStatus (hframe.stream h.eventEof)

end Completed

end ComputeProcess

end RobotHarness.Compute
