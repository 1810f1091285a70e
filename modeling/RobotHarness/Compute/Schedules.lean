import Mathlib.Algebra.Order.Ring.Nat
import RobotHarness.Compute.Draining

/-!
# Schedules of reads

Every schedule of polls, reads and stop requests over the bytes that a worker writes. However the
stream is split, a process that has met its end has made of it what the whole frames make in their
order, and a schedule that makes enough reads meets the end.
-/

namespace RobotHarness.Compute

/-! ### Every schedule -/

/-- What reaches the process in a sequence of calls. -/
def reachedBy (c : EventChannel) (calls : List OwnerCall) : List Reached :=
  (eventChannel.trace c calls).flatMap Mealy.Event.output

/-- The read brings bytes, or the end of the stream. -/
def Read.brings : Read → Bool
  | .bytes _ => true
  | .wouldBlock => false
  | .interrupted => false
  | .failed _ => false

namespace OwnerCall

/-- The reads that a call is sure to make: those before the first that brings nothing, up to one
for each frame that it may consume. -/
def reads : OwnerCall → ℕ
  | .poll _ reads _ _ => min (reads.takeWhile Read.brings).length maximumFramesPerPoll
  | .requestStop .. => 0

/-- The call does not find that the child is no longer the owner's. -/
def KeepsChild : OwnerCall → Prop
  | .poll _ _ wait _ => wait ≠ .noChild
  | .requestStop .. => True

end OwnerCall

namespace ComputeProcess

/-- What `poll` and `drain_events` ask of a process before they read. -/
structure Attends (p : ComputeProcess) : Prop where
  launched : p.observation.launched = true
  owned : p.observation.ownershipLost = false
  unclosed : p.observation.channelsClosed = false
  opened : p.eventOpen = true

namespace Attends

variable {p : ComputeProcess}

private theorem consume (h : p.Attends) (f : Frame) : (p.consume f).Attends := by
  unfold ComputeProcess.consume consumeKind
  split
  · exact h
  · split
    · exact ⟨h.launched, h.owned, h.unclosed, h.opened⟩
    · cases f.kind with
      | unknown => exact ⟨h.launched, h.owned, h.unclosed, h.opened⟩
      | _ =>
        dsimp only
        split <;> exact ⟨h.launched, h.owned, h.unclosed, h.opened⟩

private theorem rememberIoError (h : p.Attends) (errno : Int) :
    (p.rememberIoError errno).Attends := by
  rw [rememberIoError_eq_erring]
  exact ⟨h.launched, h.owned, h.unclosed, h.opened⟩

private theorem requestStop (h : p.Attends) (nowMs : UInt64) (send : Option Int) :
    (p.requestStop nowMs send).Attends := by
  unfold ComputeProcess.requestStop
  split
  · exact h
  · dsimp only
    split
    · exact ⟨h.launched, h.owned, h.unclosed, h.opened⟩
    · cases send <;> exact ⟨h.launched, h.owned, h.unclosed, h.opened⟩

/-- The rest of a poll, as long as the child is the owner's. -/
theorem poll (h : p.Attends) (nowMs : UInt64) {wait : WaitAnswer} (hwait : wait ≠ .noChild)
    (kill : Option Int) :
    (((p.collectExit wait).escalate nowMs).requestTerminationOnce kill).Attends := by
  have hcollect : (p.collectExit wait).Attends := by
    unfold collectExit
    split
    · exact h
    · cases wait with
      | ended status => exact ⟨h.launched, h.owned, h.unclosed, h.opened⟩
      | running => exact h
      | noChild => exact absurd rfl hwait
      | failed errno =>
        have hremembered := h.rememberIoError errno
        exact ⟨hremembered.launched, hremembered.owned, hremembered.unclosed, hremembered.opened⟩
  generalize p.collectExit wait = p' at hcollect ⊢
  unfold requestTerminationOnce
  split <;> exact ⟨hcollect.launched, hcollect.owned, hcollect.unclosed, hcollect.opened⟩

end Attends

/-- The channels are open exactly when the process has been launched. -/
structure Opens (p : ComputeProcess) : Prop where
  owned : p.observation.ownershipLost = false
  unclosed : p.observation.channelsClosed = false
  opened : p.eventOpen = p.observation.launched

namespace Opens

variable {p : ComputeProcess}

private theorem create (executable : String) (iterations stopGraceMs : UInt64) :
    (ComputeProcess.create executable iterations stopGraceMs).Opens := ⟨rfl, rfl, rfl⟩

private theorem refuseLaunch (h : p.Opens) (error : Int) : (p.refuseLaunch error).Opens :=
  ⟨h.owned, h.unclosed, h.opened⟩

private theorem reportClose (h : p.Opens) (error : Option Int) : (p.reportClose error).Opens := by
  cases error with
  | none => exact h
  | some error =>
    unfold ComputeProcess.reportClose
    dsimp only
    rw [rememberIoError_eq_erring]
    exact ⟨h.owned, h.unclosed, h.opened⟩

private theorem launch (h : p.Opens) (answer : LaunchAnswer) : (p.launch answer).2.Opens := by
  have hchannels := (h.refuseLaunch 0).reportClose answer.channelClose
  unfold ComputeProcess.launch
  split
  · exact h
  split
  · exact h.refuseLaunch _
  split
  · exact h.refuseLaunch _
  split
  · exact h.refuseLaunch _
  generalize (p.refuseLaunch 0).reportClose answer.channelClose = q at hchannels ⊢
  dsimp only
  split
  · exact (hchannels.refuseLaunch _).reportClose _
  split
  · exact (hchannels.refuseLaunch _).reportClose _
  · have hadopted : (q.adopt answer.child).Opens := ⟨hchannels.owned, hchannels.unclosed, rfl⟩
    exact hadopted.reportClose _

end Opens

/-- The rest of a poll does not meet the end. -/
theorem poll_eventEof (p : ComputeProcess) (nowMs : UInt64) (wait : WaitAnswer)
    (kill : Option Int) :
    (((p.collectExit wait).escalate nowMs).requestTerminationOnce kill).observation.eventEof =
      p.observation.eventEof := by
  have hcollect : (p.collectExit wait).observation.eventEof = p.observation.eventEof := by
    unfold collectExit
    split
    · rfl
    · cases wait with
      | failed errno =>
        dsimp only
        rw [rememberIoError_eq_erring]
        rfl
      | _ => rfl
  rw [← hcollect]
  generalize p.collectExit wait = p'
  unfold requestTerminationOnce
  split <;> rfl

end ComputeProcess

namespace EventChannel

variable {c : EventChannel} {frames : ℕ} {reads : List Read}

private theorem attends_drainLoop (h : c.process.Attends) :
    (drainLoop frames reads c).2.process.Attends := by
  fun_induction drainLoop frames reads c with
  | case1 => exact h
  | case2 => exact h
  | case3 => exact ⟨h.launched, h.owned, h.unclosed, h.opened⟩
  | case4 frames count reads c chunk hchunk hwhole reached c' heq ih =>
    have hcleared : { c.process with bufferedFrameBytes := 0 }.Attends :=
      ⟨h.launched, h.owned, h.unclosed, h.opened⟩
    have hrest := ih (hcleared.consume _)
    rw [heq] at hrest
    exact hrest
  | case5 frames count reads c chunk hchunk hpart ih =>
    exact ih ⟨h.launched, h.owned, h.unclosed, h.opened⟩
  | case6 => exact h
  | case7 => exact h
  | case8 frames errno reads c => exact h.rememberIoError errno

/-- Every read that a drain makes brings a byte, until one brings the end. -/
theorem unread_drainLoop (h : c.Sound) (heof : c.process.observation.eventEof = false) :
    (drainLoop frames reads c).2.process.observation.eventEof = true ∨
      (drainLoop frames reads c).2.unread.length +
        min (reads.takeWhile Read.brings).length frames ≤ c.unread.length := by
  have hbrings : ∀ {c : EventChannel} {count : ℕ}, c.chunk count ≠ [] →
      (c.unread.drop (c.chunk count).length).length + 1 ≤ c.unread.length := by
    intro c count hchunk
    have hlength := congrArg List.length (chunk_append c count)
    rw [List.length_append] at hlength
    have hpositive := List.length_pos_iff.mpr hchunk
    omega
  fun_induction drainLoop frames reads c with
  | case1 => exact .inr (by simp)
  | case2 => exact .inr (by simp)
  | case3 => exact .inl rfl
  | case4 frames count reads c chunk hchunk hwhole reached c' heq ih =>
    have hfewer := hbrings hchunk
    have hrest := ih (sound_complete heof chunk) (complete_eventEof heof chunk)
    rw [heq] at hrest
    refine hrest.imp_right fun hunread ↦ ?_
    dsimp only at hunread ⊢
    change _ ≤ (c.unread.drop (c.chunk count).length).length at hunread
    rw [List.takeWhile_cons_of_pos rfl, List.length_cons]
    omega
  | case5 frames count reads c chunk hchunk hpart ih =>
    have hfewer := hbrings hchunk
    have hshort := Nat.lt_of_le_of_ne (length_chunk h count) hpart
    refine (ih (sound_keep heof hshort) heof).imp_right fun hunread ↦ ?_
    change _ ≤ (c.unread.drop (c.chunk count).length).length at hunread
    rw [List.takeWhile_cons_of_pos rfl, List.length_cons]
    omega
  | case6 => exact .inr (by simp [Read.brings])
  | case7 => exact .inr (by simp [Read.brings])
  | case8 => exact .inr (by simp [Read.brings])

namespace Follows

variable {p : ComputeProcess} {stream : List UInt8} {reached : List Reached}

private theorem drain (h : c.Follows p stream reached) (reads : List Read) :
    (c.drainEvents reads).2.Follows p stream (reached ++ (c.drainEvents reads).1) ∧
      (consumedBytes (c.drainEvents reads).1).length ≤ maximumFramesPerPoll := by
  unfold drainEvents
  split
  · rw [List.append_nil]
    exact ⟨h, Nat.zero_le _⟩
  next hopen =>
    rw [not_or, Bool.not_eq_true] at hopen
    obtain ⟨hfollows, hcount⟩ := @follows_drainLoop c maximumFramesPerPoll reads h.sound hopen.2
    exact ⟨h.trans hopen.2 hfollows, hcount⟩

private theorem poll (h : c.Follows p stream reached) (nowMs : UInt64) (reads : List Read)
    (wait : WaitAnswer) (kill : Option Int) :
    (c.poll nowMs reads wait kill).2.Follows p stream
        (reached ++ (c.poll nowMs reads wait kill).1) ∧
      (consumedBytes (c.poll nowMs reads wait kill).1).length ≤ maximumFramesPerPoll := by
  unfold EventChannel.poll
  dsimp only
  split
  · rw [List.append_nil]
    exact ⟨h, Nat.zero_le _⟩
  obtain ⟨hdrain, hcount⟩ := h.drain reads
  generalize c.drainEvents reads = result at hdrain hcount ⊢
  obtain ⟨drained, d⟩ := result
  have hevents := d.process.poll_onlyEvents nowMs wait kill
  have hwait : d.process.waitErrors wait = [] ∨
      ∃ errno, d.process.waitErrors wait = [.failed errno] := by
    unfold ComputeProcess.waitErrors
    split
    · split
      · exact .inl rfl
      · exact .inr ⟨_, rfl⟩
    · exact .inl rfl
  dsimp only at hdrain hcount ⊢
  rw [← List.append_assoc, consumedBytes_append]
  rcases hwait with hnone | ⟨errno, herror⟩
  · rw [hnone] at hevents ⊢
    rw [List.append_nil, show consumedBytes [] = [] from rfl, List.append_nil]
    exact ⟨hdrain.of_onlyEvents rfl rfl hevents, hcount⟩
  · rw [herror] at hevents ⊢
    rw [show consumedBytes [.failed errno] = [] from rfl, List.append_nil]
    exact ⟨(hdrain.meet rfl).of_onlyEvents rfl rfl hevents, hcount⟩

/-- What is reached after a call, and that it consumes at most the frames of a poll. -/
theorem call (h : c.Follows p stream reached) (call : OwnerCall) :
    (c.call call).2.Follows p stream (reached ++ (c.call call).1) ∧
      (consumedBytes (c.call call).1).length ≤ maximumFramesPerPoll := by
  cases call with
  | poll nowMs reads wait kill => exact h.poll nowMs reads wait kill
  | requestStop nowMs send => exact ⟨h.meet rfl, Nat.zero_le _⟩

private theorem run (h : c.Follows p stream reached) (calls : List OwnerCall) :
    (eventChannel.run c calls).Follows p stream (reached ++ reachedBy c calls) ∧
      ∀ e ∈ eventChannel.trace c calls,
        (consumedBytes e.output).length ≤ maximumFramesPerPoll := by
  induction calls generalizing c reached with
  | nil => exact ⟨by simpa [reachedBy] using h, fun e he ↦ (List.not_mem_nil he).elim⟩
  | cons call calls ih =>
    obtain ⟨hcall, hcount⟩ := h.call call
    obtain ⟨hrun, houtputs⟩ := ih hcall
    rw [List.append_assoc] at hrun
    exact ⟨hrun, List.forall_mem_cons.mpr ⟨hcount, houtputs⟩⟩

/-- A call comes closer to the end by the reads that it is sure to make, or meets the end. -/
theorem call_unread (h : c.Follows p stream reached) (hattends : c.process.Attends)
    {call : OwnerCall} (hkeeps : call.KeepsChild) :
    (c.call call).2.process.Attends ∧ ((c.call call).2.process.observation.eventEof = true ∨
      c.process.observation.eventEof = false ∧
        (c.call call).2.unread.length + call.reads ≤ c.unread.length) := by
  cases call with
  | requestStop nowMs send =>
    refine ⟨hattends.requestStop nowMs send, ?_⟩
    have heof := congrArg (fun p : ComputeProcess ↦ p.observation.eventEof)
      (c.process.requestStop_onlyEvents nowMs send)
    have heof : (c.process.requestStop nowMs send).observation.eventEof =
      c.process.observation.eventEof := heof
    cases hended : c.process.observation.eventEof with
    | true => exact .inl (heof.trans hended)
    | false => exact .inr ⟨rfl, Nat.le_refl _⟩
  | poll nowMs reads wait kill =>
    have hread : (c.drainEvents reads).2.process.Attends ∧
        ((c.drainEvents reads).2.process.observation.eventEof = true ∨
          c.process.observation.eventEof = false ∧ (c.drainEvents reads).2.unread.length +
            (OwnerCall.poll nowMs reads wait kill).reads ≤ c.unread.length) := by
      unfold drainEvents
      cases hended : c.process.observation.eventEof with
      | true =>
        rw [if_pos (.inr rfl)]
        exact ⟨hattends, .inl hended⟩
      | false =>
        rw [if_neg (by simp [hattends.opened])]
        exact ⟨attends_drainLoop hattends,
          (unread_drainLoop h.sound hended).imp_right fun hunread ↦ ⟨rfl, hunread⟩⟩
    change (c.poll nowMs reads wait kill).2.process.Attends ∧
      ((c.poll nowMs reads wait kill).2.process.observation.eventEof = true ∨ _ ∧
        (c.poll nowMs reads wait kill).2.unread.length + _ ≤ _)
    unfold EventChannel.poll
    dsimp only
    rw [if_neg (by simp [hattends.launched, hattends.owned, hattends.unclosed])]
    dsimp only
    rw [ComputeProcess.poll_eventEof]
    exact ⟨hread.1.poll nowMs hkeeps kill, hread.2⟩

/-- Calls that are sure to make more reads than there are bytes meet the end. -/
theorem run_eventEof (h : c.Follows p stream reached) (hattends : c.process.Attends)
    {calls : List OwnerCall} (hkeeps : ∀ call ∈ calls, call.KeepsChild) :
    (eventChannel.run c calls).process.observation.eventEof = true ∨
      c.process.observation.eventEof = false ∧
        (calls.map OwnerCall.reads).sum ≤ c.unread.length := by
  induction calls generalizing c reached with
  | nil =>
    cases hended : c.process.observation.eventEof with
    | true => exact .inl hended
    | false => exact .inr ⟨rfl, Nat.zero_le _⟩
  | cons call calls ih =>
    rw [List.forall_mem_cons] at hkeeps
    obtain ⟨hattends', hunread⟩ := h.call_unread hattends hkeeps.1
    rcases ih (h.call call).1 hattends' hkeeps.2 with hended | ⟨heof, hsum⟩
    · exact .inl hended
    · rcases hunread with hended | ⟨heof', hunread⟩
      · rw [heof] at hended
        cases hended
      · refine .inr ⟨heof', ?_⟩
        rw [List.map_cons, List.sum_cons]
        omega

end Follows

end EventChannel

/-- The frames that reach the parser are those whose bytes were consumed. -/
theorem frames_input (reached : List Reached) :
    frames (reached.filterMap Reached.input?) = (consumedBytes reached).map Frame.decode := by
  unfold frames consumedBytes
  rw [List.filterMap_filterMap, List.map_filterMap]
  congr 1
  funext x
  cases x <;> rfl

/-- A launch of a process, all that its worker writes until the end, and the calls after it. -/
structure DrainRun where
  executable : String
  iterations : UInt64
  stopGraceMs : UInt64
  launch : LaunchAnswer
  stream : List UInt8
  calls : List OwnerCall

namespace DrainRun

/-- The channel before anything is read. -/
def start (run : DrainRun) : EventChannel where
  process := ((ComputeProcess.create run.executable run.iterations run.stopGraceMs).launch
    run.launch).2
  unread := run.stream

/-- The channel after the calls. -/
def final (run : DrainRun) : EventChannel := eventChannel.run run.start run.calls

/-- What has reached the process. -/
def reached (run : DrainRun) : List Reached := reachedBy run.start run.calls

/-- The frames and stop requests that have reached the parser. -/
def inputs (run : DrainRun) : List ParserInput := run.reached.filterMap Reached.input?

/-- The errors that reads and `waitpid` have reported. -/
def errors (run : DrainRun) : List Int := run.reached.filterMap Reached.error?

/-- The process that consumes the inputs one after the other, with the first error, and then
meets the end with so many bytes left over. -/
def consumed (run : DrainRun) (leftOver : ℕ) : ComputeProcess :=
  (((run.start.process.receiveAll run.inputs).rememberFirst run.errors).buffering
    leftOver).meetEof

private theorem launch_unread (p : ComputeProcess) (answer : LaunchAnswer) :
    (p.launch answer).2.bufferedFrameBytes = p.bufferedFrameBytes ∧
      (p.launch answer).2.observation.eventEof = p.observation.eventEof := by
  have hreport : ∀ (q : ComputeProcess) (error : Option Int),
      (q.reportClose error).bufferedFrameBytes = q.bufferedFrameBytes ∧
        (q.reportClose error).observation.eventEof = q.observation.eventEof := by
    intro q error
    cases error with
    | none => exact ⟨rfl, rfl⟩
    | some error =>
      unfold ComputeProcess.reportClose ComputeProcess.rememberIoError
      dsimp only
      split <;> exact ⟨rfl, rfl⟩
  have hchannels := hreport (p.refuseLaunch 0) answer.channelClose
  unfold ComputeProcess.launch
  split
  · exact ⟨rfl, rfl⟩
  split
  · exact ⟨rfl, rfl⟩
  split
  · exact ⟨rfl, rfl⟩
  split
  · exact ⟨rfl, rfl⟩
  generalize (p.refuseLaunch 0).reportClose answer.channelClose = q at hchannels ⊢
  dsimp only
  split
  · exact ⟨(hreport _ _).1.trans hchannels.1, (hreport _ _).2.trans hchannels.2⟩
  · split
    · exact ⟨(hreport _ _).1.trans hchannels.1, (hreport _ _).2.trans hchannels.2⟩
    · exact ⟨(hreport _ _).1.trans hchannels.1, (hreport _ _).2.trans hchannels.2⟩

/-- A process that has been launched can be drained. -/
theorem attends_start (run : DrainRun)
    (hlaunched : run.start.process.observation.launched = true) : run.start.process.Attends := by
  have hopens := (ComputeProcess.Opens.create run.executable run.iterations
    run.stopGraceMs).launch run.launch
  exact ⟨hlaunched, hopens.owned, hopens.unclosed, hopens.opened.trans hlaunched⟩

/-- Nothing has been reached at the start. -/
theorem follows_start (run : DrainRun) :
    run.start.Follows run.start.process run.stream [] := by
  obtain ⟨hbuffered, heof⟩ := launch_unread
    (ComputeProcess.create run.executable run.iterations run.stopGraceMs) run.launch
  refine ⟨⟨Nat.zero_lt_succ 31, hbuffered, fun hended ↦ ?_⟩, fun _ hblock ↦ ?_, rfl, ?_⟩
  · cases heof.symm.trans hended
  · exact (List.not_mem_nil hblock).elim
  · rw [show run.start.process.observation.eventEof = false from heof]
    change run.start.process.onlyEvents = (run.start.process.buffering 0).onlyEvents
    rw [← show run.start.process.bufferedFrameBytes = 0 from hbuffered]
    rfl

/-- A process that has met the end agrees on its events with one that consumes what has reached
the parser. -/
theorem onlyEvents_final (run : DrainRun)
    (hended : run.final.process.observation.eventEof = true) :
    frames run.inputs = wholeFrames run.stream ∧
      run.final.process.onlyEvents =
        (run.consumed (run.stream.length % frameBytes)).onlyEvents := by
  obtain ⟨h, -⟩ := run.follows_start.run run.calls
  rw [List.nil_append] at h
  have hunread : run.final.unread = [] := h.sound.ended hended
  have hstream : (consumedBytes run.reached).flatten ++ run.final.buffer = run.stream := by
    have hconserved := h.conserved
    change (consumedBytes run.reached).flatten ++ (run.final.buffer ++ run.final.unread) = _
      at hconserved
    rwa [hunread, List.append_nil] at hconserved
  obtain ⟨hcount, hrest⟩ := length_blocks h.whole h.sound.short
  change ((consumedBytes run.reached).flatten ++ run.final.buffer).length / frameBytes = _ at hcount
  change ((consumedBytes run.reached).flatten ++ run.final.buffer).length % frameBytes = _ at hrest
  rw [hstream] at hcount hrest
  constructor
  · rw [inputs, frames_input, wholeFrames, hcount, ← hstream]
    exact congrArg _ (blocks_flatten h.whole run.final.buffer).symm
  · have hevents := h.events
    rw [show (eventChannel.run run.start run.calls).process.observation.eventEof = true from hended]
      at hevents
    rw [ComputeProcess.meetAll_eq] at hevents
    rw [hrest]
    exact hevents

/-- However the stream is split and drained, a process that has met the end of the stream agrees
on its events with one that consumes the whole frames of the stream in order and then meets the
end, so any two runs agree whose stop requests lie between the same frames and that meet the same
error first. Calls that are sure to make more reads than the stream has bytes meet its end. No
poll consumes more frames than its limit, and no byte is lost or consumed twice. -/
theorem drain_eq_wholeFrames (run : DrainRun) :
    (run.final.process.observation.eventEof = true →
      frames run.inputs = wholeFrames run.stream ∧
        run.final.process.onlyEvents =
          (run.consumed (run.stream.length % frameBytes)).onlyEvents ∧
        ∀ other : DrainRun, other.start = run.start → other.inputs = run.inputs →
          other.errors.head? = run.errors.head? →
            other.final.process.observation.eventEof = true →
              other.final.process.onlyEvents = run.final.process.onlyEvents) ∧
      (run.start.process.observation.launched = true →
        (∀ call ∈ run.calls, call.KeepsChild) →
          run.stream.length < (run.calls.map OwnerCall.reads).sum →
            run.final.process.observation.eventEof = true) ∧
      (∀ e ∈ eventChannel.trace run.start run.calls,
        (consumedBytes e.output).length ≤ maximumFramesPerPoll) ∧
      (∀ block ∈ consumedBytes run.reached, block.length = frameBytes) ∧
      (consumedBytes run.reached).flatten ++ (run.final.buffer ++ run.final.unread) =
        run.stream := by
  obtain ⟨h, houtputs⟩ := run.follows_start.run run.calls
  rw [List.nil_append] at h
  refine ⟨fun hended ↦ ?_, fun hlaunched hkeeps hreads ↦ ?_, houtputs, h.whole, h.conserved⟩
  · obtain ⟨hframes, hevents⟩ := run.onlyEvents_final hended
    refine ⟨hframes, hevents, fun other hstart hinputs herrors hother ↦ ?_⟩
    obtain ⟨-, hevents'⟩ := other.onlyEvents_final hother
    have hstream : other.stream = run.stream := congrArg EventChannel.unread hstart
    rw [hevents, hevents', consumed, consumed, hstart, hinputs, hstream,
      ComputeProcess.rememberFirst_head herrors]
  · have hmeets := run.follows_start.run_eventEof (run.attends_start hlaunched) hkeeps
    rcases hmeets with hended | ⟨-, hsum⟩
    · exact hended
    · exact absurd hreads (Nat.not_lt.mpr hsum)

/-- A worker that is ready, completes two iterations and ends, read in uneven pieces. -/
def testRun : DrainRun where
  executable := "worker"
  iterations := 2
  stopGraceMs := 0
  launch := ⟨0, 0, none, 0, 7, none⟩
  stream := [80, 67, 72, 82, 1, 0, 1, 0] ++ .replicate 24 0 ++
    ([80, 67, 72, 82, 1, 0, 5, 0, 2] ++ .replicate 7 0 ++ [5] ++ .replicate 15 0)
  calls := [.poll 0 [.bytes 7, .bytes 40, .bytes 3, .interrupted] .running none,
    .poll 1 (.replicate 65 (.bytes 3)) .running none]

/-- The run reaches the end of its stream. -/
theorem drain_eq_wholeFrames_testRun :
    testRun.final.process.observation.eventEof = true ∧
      frames testRun.inputs = wholeFrames testRun.stream ∧
      testRun.final.process.observation.terminal = .completed := by
  have hkeeps : ∀ call ∈ testRun.calls, call.KeepsChild := by
    simp [testRun, OwnerCall.KeepsChild]
  have hended := (drain_eq_wholeFrames testRun).2.1 (by decide) hkeeps (by decide)
  exact ⟨hended, ((drain_eq_wholeFrames testRun).1 hended).1, by decide +kernel⟩

end DrainRun

end RobotHarness.Compute
