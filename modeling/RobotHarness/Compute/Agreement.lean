import Mathlib.Logic.Relation
import RobotHarness.Compute.Process
import RobotHarness.Compute.Worker

/-!
# Worker and process agree

The frames of a worker follow a script, and a process that consumes them keeps to the stage
of that script that it has reached, however the two run against each other.
-/

namespace RobotHarness.Compute

/-- How far a process has followed its worker: the iterations and dropped progress of the last
frame, once there is one. -/
inductive Stage where
  | fresh
  | running (iterations dropped : UInt64)
  | acknowledged (iterations dropped : UInt64)
  | cancelled (iterations dropped : UInt64)
  | completed (iterations dropped : UInt64)

namespace Stage

/-- The iterations of the last frame. -/
def iterations : Stage → UInt64
  | fresh => 0
  | running n _ | acknowledged n _ | cancelled n _ | completed n _ => n

/-- The dropped progress of the last frame. -/
def dropped : Stage → UInt64
  | fresh => 0
  | running _ n | acknowledged _ n | cancelled _ n | completed _ n => n

/-- The ready frame has been consumed. -/
def started : Stage → Bool
  | fresh => false
  | _ => true

/-- The stop has been acknowledged. -/
def stopAcknowledged : Stage → Bool
  | acknowledged _ _ | cancelled _ _ => true
  | _ => false

/-- The terminal frame that has been consumed. -/
def terminal : Stage → Terminal
  | cancelled _ _ => .cancelled
  | completed _ _ => .completed
  | _ => .none

end Stage

/-- The frame is one that a worker writes only after a stop. -/
def Frame.FollowsStop (frame : Frame) : Prop :=
  frame.kind = .stopAcknowledged ∨ frame.kind = .cancelled

/-- The frames that a worker has left to write at a stage, and the code it exits with. -/
inductive Script (limit : UInt64) : Stage → List Frame → UInt8 → Prop where
  | cut {stage : Stage} (unfinished : stage.terminal = .none) :
      Script limit stage [] failureExitCode
  | ready {frames : List Frame} {code : UInt8} (rest : Script limit (.running 0 0) frames code) :
      Script limit .fresh ({} :: frames) code
  | progress {n d n' d' value : UInt64} {frames : List Frame} {code : UInt8} (advances : n < n')
      (within : n' ≤ limit) (dropped : d ≤ d') (few : d' ≤ limit)
      (rest : Script limit (.running n' d') frames code) :
      Script limit (.running n d)
        ({ kind := .progress, iterations := n', value := value, droppedProgress := d' } :: frames)
        code
  | acknowledged {n d n' d' value : UInt64} {frames : List Frame} {code : UInt8}
      (advances : n ≤ n') (within : n' < limit) (dropped : d ≤ d') (few : d' ≤ limit)
      (rest : Script limit (.acknowledged n' d') frames code) :
      Script limit (.running n d)
        ({ kind := .stopAcknowledged
           iterations := n'
           value := value
           droppedProgress := d' } :: frames)
        code
  | cancelled {n d value : UInt64} {frames : List Frame} {code : UInt8} (within : n < limit)
      (few : d ≤ limit) (rest : Script limit (.cancelled n d) frames code) :
      Script limit (.acknowledged n d)
        ({ kind := .cancelled, iterations := n, value := value, droppedProgress := d } :: frames)
        code
  | completed {n d d' : UInt64} {frames : List Frame} {code : UInt8} (within : n ≤ limit)
      (dropped : d ≤ d') (few : d' ≤ limit)
      (rest : Script limit (.completed limit d') frames code) :
      Script limit (.running n d)
        ({ kind := .completed
           iterations := limit
           value := expectedSum limit
           droppedProgress := d' } :: frames)
        code
  | exitCancelled {n d : UInt64} (within : n < limit) :
      Script limit (.cancelled n d) [] cancelledExitCode
  | exitCompleted {d : UInt64} : Script limit (.completed limit d) [] 0

/-! ### The worker writes a script -/

/-- The frames among the events of a worker. -/
def writtenFrames (events : List WorkerEvent) : List Frame :=
  events.filterMap fun
    | .wrote frame => some frame
    | .receivedStop => none

/-- Frames that answer a stop are written after a stop was requested: before these events, or
by the time the worker receives it. -/
def StopsAnswered (requested : Prop) : List WorkerEvent → Prop
  | [] => True
  | .wrote frame :: events =>
    (frame.FollowsStop → requested) ∧ StopsAnswered requested events
  | .receivedStop :: events => StopsAnswered True events

/-- A request that has been made stays made. -/
theorem StopsAnswered.mono {requested requested' : Prop} (h : requested → requested')
    {events : List WorkerEvent} (hevents : StopsAnswered requested events) :
    StopsAnswered requested' events := by
  induction events with
  | nil => trivial
  | cons event events ih =>
    cases event with
    | wrote frame => exact ⟨fun hstop ↦ h (hevents.1 hstop), ih hevents.2⟩
    | receivedStop => exact hevents

namespace Worker

variable {limit : IterationLimit} {answers : WorkerAnswers}

private theorem stop_script {n d completed sum dropped : UInt64} (hn : n ≤ completed)
    (hd : d ≤ dropped) (hlimit : completed < limit.value) (hdropped : dropped ≤ limit.value) :
    Script limit.value (.running n d) (writtenFrames (stop answers completed sum dropped).1)
        (stop answers completed sum dropped).2 ∧
      StopsAnswered False (stop answers completed sum dropped).1 := by
  unfold stop
  dsimp only
  split
  · exact ⟨.cut rfl, trivial⟩
  split
  · exact ⟨.acknowledged hn hlimit hd hdropped (.cut rfl), fun _ ↦ trivial, trivial⟩
  · exact ⟨.acknowledged hn hlimit hd hdropped (.cancelled hlimit hdropped (.exitCancelled hlimit)),
      fun _ ↦ trivial, fun _ ↦ trivial, trivial⟩

private theorem complete_script {n d completed sum dropped : UInt64} (hn : n ≤ completed)
    (hd : d ≤ dropped) (hlimit : completed = limit.value) (hdropped : dropped ≤ limit.value)
    (hsum : sum.toNat = periodicSquareSum completed.toNat) :
    Script limit.value (.running n d) (writtenFrames (complete answers completed sum dropped).1)
        (complete answers completed sum dropped).2 ∧
      StopsAnswered False (complete answers completed sum dropped).1 := by
  subst hlimit
  have hvalue : sum = expectedSum limit.value := by
    rw [← UInt64.toNat_inj, hsum, toNat_expectedSum limit.valid.2]
  subst hvalue
  unfold complete
  split
  · refine ⟨.completed hn hd hdropped .exitCompleted, fun hstop ↦ ?_, trivial⟩
    rcases hstop with hkind | hkind <;> cases hkind
  · exact ⟨.cut rfl, trivial⟩

/-- A batch makes at least one iteration and keeps the sum. -/
private theorem batch_spec {completed sum : UInt64} (h : completed < limit.value)
    (hsum : sum.toNat = periodicSquareSum completed.toNat) :
    let after := addSquares (batchEnd limit completed) completed sum
    completed < after.1 ∧ after.1 ≤ limit.value ∧
      after.2.toNat = periodicSquareSum after.1.toNat := by
  have hend := lt_batchEnd h
  have hle : batchEnd limit completed ≤ limit.value := min_le_right _ _
  dsimp only
  rw [addSquares_fst hend.le]
  exact ⟨hend, hle, addSquares_snd (hle.trans limit.valid.2) hend.le hsum⟩

/-- The loop writes a script from the last frame on, whose iterations and dropped progress it
has not fallen behind. Each batch drops at most one frame and makes at least one iteration. -/
private theorem loop_script {batch : ℕ} {n d completed sum dropped : UInt64}
    (hn : n ≤ completed) (hd : d ≤ dropped) (hlimit : completed ≤ limit.value)
    (hdropped : dropped ≤ completed) (hsum : sum.toNat = periodicSquareSum completed.toNat) :
    Script limit.value (.running n d)
        (writtenFrames (loop limit answers batch completed sum dropped).1)
        (loop limit answers batch completed sum dropped).2 ∧
      StopsAnswered False (loop limit answers batch completed sum dropped).1 := by
  fun_induction loop limit answers batch completed sum dropped generalizing n d
  case case1 | case3 | case4 => exact ⟨.cut rfl, trivial⟩
  case case2 batch completed sum dropped hlt _ _ _ =>
    exact stop_script hn hd hlt (hdropped.trans hlimit)
  case case5 batch completed sum dropped hlt _ after progress _ events code hrest ih =>
    obtain ⟨hadvance, hwithin, hafter⟩ := batch_spec hlt hsum
    have hfew := hdropped.trans hadvance.le
    rw [hrest] at ih
    obtain ⟨hscript, hstops⟩ := ih le_rfl le_rfl hwithin hfew hafter
    refine ⟨.progress (lt_of_le_of_lt hn hadvance) hwithin hd (hfew.trans hwithin) hscript, ?_,
      hstops⟩
    rintro (hkind | hkind) <;> cases hkind
  case case6 batch completed sum dropped hlt _ after _ ih =>
    obtain ⟨hadvance, hwithin, hafter⟩ := batch_spec hlt hsum
    have hdrop := lt_of_le_of_lt hdropped hadvance
    exact ih (hn.trans hadvance.le) (hd.trans (Word.lt_succ (Word.ne_max_of_lt hdrop)).le) hwithin
      (Word.succ_le hdrop) hafter
  case case7 => exact ⟨.cut rfl, trivial⟩
  case case8 batch completed sum dropped hge =>
    exact complete_script hn hd (le_antisymm hlimit (not_lt.mp hge)) (hdropped.trans hlimit) hsum

/-- A worker writes a script, and answers only a stop that it has received. -/
theorem run_script :
    Script limit.value .fresh (writtenFrames (run limit answers).1) (run limit answers).2 ∧
      StopsAnswered False (run limit answers).1 := by
  unfold run
  split
  · exact ⟨.cut rfl, trivial⟩
  · obtain ⟨hscript, hstops⟩ := loop_script
      (n := 0) (d := 0) le_rfl le_rfl
      limit.valid.1.le le_rfl (show (0 : UInt64).toNat = _ from rfl)
    refine ⟨.ready hscript, fun hstop ↦ ?_, hstops⟩
    rcases hstop with hkind | hkind <;> cases hkind

end Worker

/-! ### The process follows the script -/

/-- The process has consumed the frames up to a stage. -/
structure ComputeProcess.Follows (limit : UInt64) (stage : Stage) (p : ComputeProcess) :
    Prop where
  limited : p.iterations = limit
  malformed : p.observation.malformed = false
  started : p.observation.started = stage.started
  stopAcknowledged : p.observation.stopAcknowledged = stage.stopAcknowledged
  stopIgnored : p.observation.stopIgnored = false
  iterations : p.lastIterations = stage.iterations
  progress : p.observation.progress ≤ stage.iterations
  dropped : p.observation.droppedProgress = stage.dropped
  terminal : p.observation.terminal = stage.terminal
  ended : stage.terminal ≠ .none → p.observation.terminalIterations = stage.iterations
  requested : stage.terminal = .cancelled → p.observation.stopRequested = true
  value : stage.terminal = .completed → p.observation.terminalValue = expectedSum limit

namespace ComputeProcess

variable {limit : UInt64} {stage : Stage} {p : ComputeProcess}

/-- A launched process has followed nothing. -/
theorem launch_follows (executable : String) (limit stopGraceMs : UInt64)
    (answer : LaunchAnswer) :
    ((create executable limit stopGraceMs).launch answer).2.Follows limit .fresh := by
  have hreport : ∀ {q : ComputeProcess} (error : Option Int), q.Follows limit .fresh →
      (q.reportClose error).Follows limit .fresh := by
    intro q error hq
    unfold reportClose
    split
    · exact hq
    · unfold rememberIoError
      split
      · exact { hq with }
      · exact { hq with }
  have hrefuse : ∀ {q : ComputeProcess} (error : Int), q.Follows limit .fresh →
      (q.refuseLaunch error).Follows limit .fresh := fun _ hq ↦ { hq with }
  have hadopt : ∀ {q : ComputeProcess} (child : Int), q.Follows limit .fresh →
      (q.adopt child).Follows limit .fresh := fun _ hq ↦ { hq with }
  have hcreate : (create executable limit stopGraceMs).Follows limit .fresh :=
    ⟨rfl, rfl, rfl, rfl, rfl, rfl, le_rfl, rfl, rfl, fun _ ↦ rfl, nofun, nofun⟩
  generalize create executable limit stopGraceMs = q at hcreate ⊢
  unfold launch
  split
  · exact hcreate
  split
  · exact hrefuse _ hcreate
  split
  · exact hrefuse _ hcreate
  split
  · exact hrefuse _ hcreate
  dsimp only
  have hchannels := hreport answer.channelClose (hrefuse 0 hcreate)
  split
  · exact hreport _ (hrefuse _ hchannels)
  split
  · exact hreport _ (hrefuse _ hchannels)
  · exact hreport _ (hadopt _ hchannels)

/-- A request to stop leaves the stage and is remembered. -/
theorem Follows.requestStop_follows (h : p.Follows limit stage) (nowMs : UInt64)
    (send : Option Int) :
    (p.requestStop nowMs send).Follows limit stage ∧
      (p.requestStop nowMs send).observation.stopRequested = true := by
  unfold requestStop
  split
  · next hrequested => exact ⟨h, hrequested⟩
  dsimp only
  split
  · exact ⟨{ h with requested := fun _ ↦ rfl }, rfl⟩
  split
  · exact ⟨{ h with requested := fun _ ↦ rfl }, rfl⟩
  · exact ⟨{ h with requested := fun _ ↦ rfl }, rfl⟩

/-- Consuming a frame leaves the request to stop. -/
theorem consume_stopRequested (p : ComputeProcess) (frame : Frame) :
    (p.consume frame).observation.stopRequested = p.observation.stopRequested := by
  unfold consume
  repeat' split
  · rfl
  · rfl
  · unfold consumeKind
    dsimp only
    repeat' split
    all_goals rfl

/-- A frame of known kind that goes on from the stage reaches the switch. -/
private theorem consume_eq {frame : Frame} (h : p.Follows limit stage)
    (version : frame.magic = frameMagic ∧ frame.version = frameVersion)
    (known : frame.kind.isKnown = true) (unfinished : stage.terminal = .none)
    (iterations : stage.iterations ≤ frame.iterations ∧ frame.iterations ≤ limit)
    (dropped : stage.dropped ≤ frame.droppedProgress ∧ frame.droppedProgress ≤ limit) :
    p.consume frame = p.consumeKind frame := by
  have hmalformed : ¬ p.observation.malformed = true := by
    rw [h.malformed]
    decide
  rw [consume, if_neg hmalformed, if_neg]
  rintro (hmagic | hversion | hkind | hlimit | hlast | hfew | hdropped | hterminal)
  · exact hmagic version.1
  · exact hversion version.2
  · rw [known] at hkind
    cases hkind
  · exact not_lt.mpr iterations.2 (h.limited ▸ hlimit)
  · exact not_lt.mpr iterations.1 (h.iterations ▸ hlast)
  · exact not_lt.mpr dropped.2 (h.limited ▸ hfew)
  · exact not_lt.mpr dropped.1 (h.dropped ▸ hdropped)
  · exact hterminal (h.terminal.trans unfinished)

/-- The frame that a script has next is consumed without a protocol error. -/
theorem Follows.consume_follows {frame : Frame} {frames : List Frame} {code : UInt8}
    (h : p.Follows limit stage) (script : Script limit stage (frame :: frames) code)
    (requested : frame.FollowsStop → p.observation.stopRequested = true) :
    ∃ stage', (p.consume frame).Follows limit stage' ∧ Script limit stage' frames code := by
  have hstarted := h.started
  have hacknowledged := h.stopAcknowledged
  have hignored := h.stopIgnored
  have hlast := h.iterations
  have hprogress := h.progress
  have hlimited := h.limited
  cases script with
  | ready rest =>
    refine ⟨_, ?_, rest⟩
    rw [consume_eq h ⟨rfl, rfl⟩ rfl rfl ⟨le_rfl, UInt64.zero_le⟩ ⟨le_rfl, UInt64.zero_le⟩]
    dsimp only [consumeKind]
    rw [if_neg (by simp [hstarted, Stage.started])]
    exact { h with started := rfl, dropped := rfl, iterations := rfl }
  | @progress n d n' d' value _ _ advances within dropped few rest =>
    refine ⟨_, ?_, rest⟩
    rw [consume_eq h ⟨rfl, rfl⟩ rfl rfl (by exact ⟨advances.le, within⟩)
      (by exact ⟨dropped, few⟩)]
    dsimp only [consumeKind]
    rw [if_neg]
    · exact { h with
        iterations := rfl, progress := le_rfl, dropped := rfl
        ended := fun hended ↦ absurd rfl hended }
    · simp [hstarted, hacknowledged, hlast, Stage.started, Stage.stopAcknowledged,
        Stage.iterations, advances]
  | @acknowledged n d n' d' value _ _ advances within dropped few rest =>
    refine ⟨_, ?_, rest⟩
    rw [consume_eq h ⟨rfl, rfl⟩ rfl rfl (by exact ⟨advances, within.le⟩)
      (by exact ⟨dropped, few⟩)]
    dsimp only [consumeKind]
    rw [if_neg]
    · exact { h with
        stopAcknowledged := rfl, iterations := rfl, progress := hprogress.trans advances
        dropped := rfl, ended := fun hended ↦ absurd rfl hended }
    · simp [hstarted, hacknowledged, hignored, Stage.started, Stage.stopAcknowledged,
        requested (.inl rfl), hprogress.trans advances]
  | @cancelled n d value _ _ within few rest =>
    refine ⟨_, ?_, rest⟩
    have hstop := requested (.inr rfl)
    rw [consume_eq h ⟨rfl, rfl⟩ rfl rfl (by exact ⟨le_rfl, within.le⟩)
      (by exact ⟨le_rfl, few⟩)]
    dsimp only [consumeKind]
    rw [if_neg]
    · exact { h with
        iterations := rfl, dropped := rfl, terminal := rfl, ended := fun _ ↦ rfl
        requested := fun _ ↦ hstop, value := nofun }
    · simp [hstarted, hacknowledged, Stage.started, Stage.stopAcknowledged, hstop,
        show p.observation.progress ≤ n from hprogress]
  | @completed n d d' _ _ within dropped few rest =>
    refine ⟨_, ?_, rest⟩
    rw [consume_eq h ⟨rfl, rfl⟩ rfl rfl (by exact ⟨within, le_rfl⟩) (by exact ⟨dropped, few⟩)]
    dsimp only [consumeKind]
    rw [if_neg]
    · exact { h with
        iterations := rfl, dropped := rfl, progress := hprogress.trans within, terminal := rfl
        ended := fun _ ↦ rfl, requested := nofun, value := fun _ ↦ rfl }
    · simp [hstarted, hacknowledged, hlimited, Stage.started, Stage.stopAcknowledged,
        hprogress.trans within]

end ComputeProcess

/-! ### Worker and process run against each other -/

/-- What the worker has yet to do, the frames in the pipe, and the process that reads them. -/
structure Exchange where
  events : List WorkerEvent
  pipe : List Frame
  process : ComputeProcess

/-- The worker writes, or receives the stop that the host has requested; the host requests the
stop, or consumes the next frame. -/
inductive Exchange.Step : Exchange → Exchange → Prop where
  | write {frame : Frame} {events : List WorkerEvent} {pipe : List Frame} {p : ComputeProcess} :
      Step ⟨.wrote frame :: events, pipe, p⟩ ⟨events, pipe ++ [frame], p⟩
  | receiveStop {events : List WorkerEvent} {pipe : List Frame} {p : ComputeProcess}
      (requested : p.observation.stopRequested = true) :
      Step ⟨.receivedStop :: events, pipe, p⟩ ⟨events, pipe, p⟩
  | requestStop {events : List WorkerEvent} {pipe : List Frame} {p : ComputeProcess}
      (nowMs : UInt64) (send : Option Int) :
      Step ⟨events, pipe, p⟩ ⟨events, pipe, p.requestStop nowMs send⟩
  | consume {events : List WorkerEvent} {frame : Frame} {pipe : List Frame}
      {p : ComputeProcess} :
      Step ⟨events, frame :: pipe, p⟩ ⟨events, pipe, p.consume frame⟩

/-- One worker with its limit and answers, launched by a process. -/
structure WorkerRun where
  executable : String
  limit : IterationLimit
  stopGraceMs : UInt64
  launch : LaunchAnswer
  answers : WorkerAnswers

namespace WorkerRun

variable (run : WorkerRun)

/-- The exit code of the worker. -/
def code : UInt8 := (Worker.run run.limit run.answers).2

/-- The exchange when the worker has been launched. -/
def start : Exchange :=
  ⟨(Worker.run run.limit run.answers).1, [],
    ((ComputeProcess.create run.executable run.limit.value run.stopGraceMs).launch run.launch).2⟩

/-- The exchanges that worker and process can reach, in any order of their steps. -/
def Reaches (x : Exchange) : Prop := Relation.ReflTransGen Exchange.Step run.start x

end WorkerRun

/-- The process has followed the script whose rest is in the pipe or still to be written, and
every answer to a stop comes after the request. -/
structure Exchange.Agrees (limit : UInt64) (code : UInt8) (x : Exchange) : Prop where
  followed : ∃ stage, x.process.Follows limit stage ∧
    Script limit stage (x.pipe ++ writtenFrames x.events) code
  written : ∀ frame ∈ x.pipe, frame.FollowsStop → x.process.observation.stopRequested = true
  answered : StopsAnswered (x.process.observation.stopRequested = true) x.events

/-- Every step keeps worker and process in agreement. -/
theorem Exchange.Agrees.step {limit : UInt64} {code : UInt8} {x y : Exchange}
    (h : x.Agrees limit code) (step : x.Step y) : y.Agrees limit code := by
  obtain ⟨⟨stage, hfollows, hscript⟩, hwritten, hanswered⟩ := h
  cases step with
  | write =>
    refine ⟨⟨stage, hfollows, ?_⟩, ?_, hanswered.2⟩
    · rw [List.append_assoc]
      exact hscript
    · exact List.forall_mem_append.mpr ⟨hwritten, List.forall_mem_singleton.mpr hanswered.1⟩
  | receiveStop requested =>
    exact ⟨⟨stage, hfollows, hscript⟩, hwritten,
      StopsAnswered.mono (fun _ ↦ requested) hanswered⟩
  | requestStop nowMs send =>
    obtain ⟨hsame, hrequested⟩ := hfollows.requestStop_follows nowMs send
    exact ⟨⟨stage, hsame, hscript⟩, fun _ _ _ ↦ hrequested, hanswered.mono fun _ ↦ hrequested⟩
  | @consume events frame pipe p =>
    obtain ⟨stage', hnext, hrest⟩ :=
      hfollows.consume_follows hscript (hwritten frame List.mem_cons_self)
    have hsame := p.consume_stopRequested frame
    refine ⟨⟨stage', hnext, hrest⟩, fun f hf ↦ ?_, ?_⟩
    · rw [hsame]
      exact hwritten f (List.mem_cons_of_mem frame hf)
    · rw [hsame]
      exact hanswered

namespace WorkerRun

variable (run : WorkerRun)

/-- Worker and process agree in every exchange that they reach. -/
theorem agrees {x : Exchange} (h : run.Reaches x) : x.Agrees run.limit.value run.code := by
  obtain ⟨hscript, hstops⟩ : _ ∧ StopsAnswered False (Worker.run run.limit run.answers).1 :=
    Worker.run_script
  induction h with
  | refl =>
    refine ⟨⟨.fresh, ComputeProcess.launch_follows _ _ _ _, hscript⟩, nofun, ?_⟩
    exact hstops.mono False.elim
  | tail _ step ih => exact ih.step step

/-- However worker and process run against each other, no frame breaks the protocol; and once
the frames are consumed, the exit code tells how the computation ended. -/
theorem speaks_protocol {x : Exchange} (h : run.Reaches x) :
    x.process.observation.malformed = false ∧
      (x.events = [] → x.pipe = [] →
        (run.code = 0 → x.process.observation.terminal = .completed ∧
          x.process.observation.terminalIterations = run.limit.value ∧
          x.process.observation.terminalValue = expectedSum run.limit.value) ∧
        (run.code = cancelledExitCode → x.process.observation.terminal = .cancelled ∧
          x.process.observation.terminalIterations < run.limit.value ∧
          x.process.observation.stopRequested = true) ∧
        (run.code = failureExitCode → x.process.observation.terminal = .none)) := by
  obtain ⟨⟨stage, hfollows, hscript⟩, -, -⟩ := run.agrees h
  refine ⟨hfollows.malformed, fun hevents hpipe ↦ ?_⟩
  rw [hevents, hpipe] at hscript
  generalize run.code = code at hscript ⊢
  cases hscript with
  | cut unfinished =>
    exact ⟨nofun, nofun, fun _ ↦ hfollows.terminal.trans unfinished⟩
  | exitCancelled within =>
    refine ⟨nofun, fun _ ↦ ⟨hfollows.terminal, ?_, hfollows.requested rfl⟩, nofun⟩
    rw [hfollows.ended nofun]
    exact within
  | exitCompleted =>
    exact ⟨fun _ ↦ ⟨hfollows.terminal, hfollows.ended nofun, hfollows.value rfl⟩, nofun, nofun⟩

/-- A worker of one iteration, all of whose frames are written. -/
def single : WorkerRun where
  executable := "/opt/compute-worker"
  limit := ⟨1, by decide⟩
  stopGraceMs := 100
  launch := ⟨0, 0, none, 0, 7, none⟩
  answers := ⟨.sent, fun _ ↦ .retry, fun _ ↦ .sent, .sent, .sent, .sent⟩

private theorem single_run : Worker.run single.limit single.answers =
    ([.wrote {}, .wrote { kind := .progress, iterations := 1 },
      .wrote { kind := .completed, iterations := 1 }], 0) := by
  have hbatch : addSquares (Worker.batchEnd single.limit 0) 0 0 = (1, 0) := by
    rw [addSquares, if_pos (by decide), addSquares, if_neg (by decide)]
    rfl
  have hcontrol : single.answers.control 0 = .retry := rfl
  have hprogress : single.answers.progress 0 = .sent := rfl
  have hloop : Worker.loop single.limit single.answers 0 0 0 0 =
      ([.wrote { kind := .progress, iterations := 1 },
        .wrote { kind := .completed, iterations := 1 }], 0) := by
    rw [Worker.loop, if_pos (by decide)]
    simp only [hcontrol, hprogress, hbatch]
    rw [Worker.loop, if_neg (by decide)]
    rfl
  rw [Worker.run, hloop]
  rfl

private theorem single_reaches : ∃ p, single.Reaches ⟨[], [], p⟩ := by
  have hstart : single.start = ⟨[.wrote {}, .wrote { kind := .progress, iterations := 1 },
      .wrote { kind := .completed, iterations := 1 }], [], single.start.process⟩ := by
    rw [start, single_run]
  unfold Reaches
  rw [hstart]
  exact ⟨_, Relation.ReflTransGen.refl |>.tail .write |>.tail .consume |>.tail .write
    |>.tail .write |>.tail .consume |>.tail .consume⟩

/-- A worker of one iteration is observed as completed. -/
theorem speaks_protocol_single : ∃ x, single.Reaches x ∧
    x.process.observation.malformed = false ∧
    x.process.observation.terminal = .completed ∧
    x.process.observation.terminalIterations = 1 ∧
    x.process.observation.terminalValue = expectedSum 1 := by
  obtain ⟨p, hreaches⟩ := single_reaches
  obtain ⟨hmalformed, hcodes⟩ := single.speaks_protocol hreaches
  have hcode : single.code = 0 := by rw [code, single_run]
  exact ⟨_, hreaches, hmalformed, (hcodes rfl rfl).1 hcode⟩

end WorkerRun

end RobotHarness.Compute
