import RobotHarness.Base.Simulation
import RobotHarness.Compute.Schedules
import RobotHarness.Compute.Recycling

/-!
# One process at three levels

The process by its members alone, with the system calls that it makes, and over the bytes that its
worker writes. The members alone answer what the other two answer: what is proved of them holds of
the process with its descriptors and its stream.
-/

namespace RobotHarness.Compute

open Mealy (Refines Event)

/-- A call from the owner with what the members meet. -/
inductive MemberCall where
  | launch (answer : LaunchAnswer)
  | requestStop (nowMs : UInt64) (send : Option Int)
  | poll (nowMs : UInt64) (answer : PollAnswer)
  | closeChannels (control event : Option Int)

/-- One call, with what it returns. -/
def ComputeProcess.call (p : ComputeProcess) : MemberCall → Bool × ComputeProcess
  | .launch answer => p.launch answer
  | .requestStop nowMs send => (true, p.requestStop nowMs send)
  | .poll nowMs answer => (true, p.poll nowMs answer)
  | .closeChannels control event => p.closeChannels control event

/-- The members as a machine that answers calls. -/
def computeProcess : Mealy ComputeProcess MemberCall Bool := ⟨ComputeProcess.call⟩

/-! ### System calls -/

/-- The same call. What a launch meets is summed up. -/
inductive ProcessCall.SameAs : ProcessCall → MemberCall → Prop where
  | launch (answer : LaunchCalls) (summary : LaunchAnswer) :
    SameAs (.launch answer) (.launch summary)
  | requestStop (nowMs : UInt64) (send : Option Int) :
    SameAs (.requestStop nowMs send) (.requestStop nowMs send)
  | poll (nowMs : UInt64) (answer : PollAnswer) : SameAs (.poll nowMs answer) (.poll nowMs answer)
  | closeChannels (control event : Option Int) :
    SameAs (.closeChannels control event) (.closeChannels control event)

/-- The members of a process between two calls. -/
structure OwnedProcess.Shows (o : OwnedProcess) (p : ComputeProcess) : Prop where
  sound : o.Sound
  unguarded : o.guards = []
  process : o.process = p

/-- Descriptors and system calls change no answer. -/
theorem ownedProcess_refines :
    ownedProcess.Refines computeProcess OwnedProcess.Shows ProcessCall.SameAs Eq := by
  intro o p h c
  have hafter : ∀ m : MemberCall, c.SameAs m →
      ((o.call c).1, (o.call c).2.process) = p.call m →
        (ownedProcess.event o c).Matches OwnedProcess.Shows ProcessCall.SameAs Eq
          (computeProcess.event p m) := by
    intro m hsame hcall
    have hkept := h.sound.call h.unguarded c
    constructor
    · exact h
    · exact hsame
    · exact congrArg Prod.fst hcall
    · exact ⟨hkept.1, hkept.2, congrArg Prod.snd hcall⟩
  obtain ⟨hsound, hguards, rfl⟩ := h
  cases c with
  | launch answer =>
    obtain ⟨summary, hsummary⟩ := OwnedProcess.process_launch o answer
    exists .launch summary
    apply hafter
    · exact .launch answer summary
    · exact hsummary
  | requestStop nowMs send =>
    exists .requestStop nowMs send
    apply hafter
    · exact .requestStop nowMs send
    · exact congrArg (Prod.mk true) (OwnedProcess.process_requestStop o nowMs send)
  | poll nowMs answer =>
    exists .poll nowMs answer
    apply hafter
    · exact .poll nowMs answer
    · exact congrArg (Prod.mk true) (OwnedProcess.process_poll hsound nowMs answer)
  | closeChannels control event =>
    exists .closeChannels control event
    apply hafter
    · exact .closeChannels control event
    · exact OwnedProcess.process_closeChannels hsound control event

/-- Every run with descriptors and system calls is one of the members alone, call by call and
answer by answer. -/
theorem OwnedProcess.run_members (executable : String) (iterations stopGraceMs : UInt64)
    (calls : List ProcessCall) :
    ∃ memberCalls,
      List.Forall₂ (Event.Matches Shows ProcessCall.SameAs Eq)
        (ownedProcess.trace (create executable iterations stopGraceMs) calls)
        (computeProcess.trace (.create executable iterations stopGraceMs) memberCalls) ∧
      (ownedProcess.run (create executable iterations stopGraceMs) calls).process =
        computeProcess.run (.create executable iterations stopGraceMs) memberCalls := by
  have hstart : (create executable iterations stopGraceMs).Shows
      (.create executable iterations stopGraceMs) := by
    constructor
    · exact sound_create executable iterations stopGraceMs
    · rfl
    · rfl
  obtain ⟨memberCalls, hmatches, hrun⟩ := ownedProcess_refines.exists_run hstart calls
  exact ⟨memberCalls, hmatches, hrun.process⟩

/-! ### Bytes -/

/-- The frames that answers to reads complete, of so many that are read at most, with so many bytes
in the buffer before them. -/
def framesIn : (frames buffered : ℕ) → List ReadAnswer → List Frame
  | 0, _, _ => []
  | _, _, [] => []
  | frames + 1, buffered, .data count frame :: reads =>
    let buffered := min (buffered + max count 1) frameBytes
    if buffered = frameBytes then frame :: framesIn frames 0 reads
    else framesIn (frames + 1) buffered reads
  | _, _, .eof :: _ => []
  | _, _, .retry :: _ => []
  | _, _, .failed _ :: _ => []

/-- The frames that a process consumes in a call. -/
def ComputeProcess.framesOf (p : ComputeProcess) : MemberCall → List Frame
  | .poll _ answer =>
    let o := p.observation
    if o.launched = false ∨ o.ownershipLost = true ∨ o.channelsClosed = true then []
    else if p.eventOpen = false ∨ o.eventEof = true then []
    else framesIn maximumFramesPerPoll p.bufferedFrameBytes answer.reads
  | .launch _ => []
  | .requestStop .. => []
  | .closeChannels .. => []

/-- The same call for the members: its reads answer what the bytes of the stream make them. -/
def EventChannel.member (c : EventChannel) : OwnerCall → MemberCall
  | .poll nowMs reads wait kill => .poll nowMs ⟨c.answers reads, wait, kill⟩
  | .requestStop nowMs send => .requestStop nowMs send

/-- An event over the bytes and the event of the members that it is: between the same members, the
same call, with the same frames consumed. -/
structure EventChannel.Parses (d : Event EventChannel OwnerCall (List Reached))
    (e : Event ComputeProcess MemberCall Bool) : Prop where
  pre : e.pre = d.pre.process
  input : e.input = d.pre.member d.input
  output : e.pre.framesOf e.input = frames (d.output.filterMap Reached.input?)
  post : e.post = d.post.process

/-- The members of a process whose stream is read. -/
structure EventChannel.Shows (c : EventChannel) (p : ComputeProcess) : Prop where
  follows : ∃ q stream reached, c.Follows q stream reached
  process : c.process = p

namespace EventChannel

variable {c : EventChannel}

/-- The answers to reads complete the frames whose bytes they bring. -/
theorem framesIn_answers {limit : ℕ} {reads : List Read} (h : c.Sound)
    (heof : c.process.observation.eventEof = false) :
    framesIn limit c.buffer.length (answers reads c) =
      frames ((drainLoop limit reads c).1.filterMap Reached.input?) := by
  have hcount : ∀ {c : EventChannel} {count : ℕ}, c.Sound → c.chunk count ≠ [] →
      min (c.buffer.length + max (c.chunk count).length 1) frameBytes =
        (c.buffer ++ c.chunk count).length := by
    intro c count h hchunk
    rw [← h.buffered]
    exact h.length_answer hchunk
  fun_induction drainLoop limit reads c with
  | case1 => rw [framesIn]; rfl
  | case2 limit => cases limit <;> rfl
  | case3 limit count reads c chunk hchunk =>
    rw [answers, if_pos hchunk]
    rfl
  | case4 limit count reads c chunk hchunk hwhole reached c' heq ih =>
    have hnext := ih (sound_complete heof chunk) (complete_eventEof heof chunk)
    rw [heq] at hnext
    rw [answers, if_neg hchunk, if_pos hwhole, framesIn, hcount h hchunk, if_pos hwhole]
    exact congrArg (_ :: ·) hnext
  | case5 limit count reads c chunk hchunk hpart ih =>
    have hshort := Nat.lt_of_le_of_ne (length_chunk h count) hpart
    rw [answers, if_neg hchunk, if_neg hpart, framesIn, hcount h hchunk, if_neg hpart]
    exact ih (sound_keep heof hshort) heof
  | case6 limit => cases limit <;> rfl
  | case7 limit => cases limit <;> rfl
  | case8 limit => cases limit <;> rfl

/-- The members consume the frames that reach the parser over the bytes. -/
theorem framesOf_member (h : c.Sound) (call : OwnerCall) :
    c.process.framesOf (c.member call) = frames ((c.call call).1.filterMap Reached.input?) := by
  cases call with
  | requestStop nowMs send => rfl
  | poll nowMs reads wait kill =>
    have herrors : ∀ p : ComputeProcess,
        frames ((p.waitErrors wait).filterMap Reached.input?) = [] := by
      intro p
      unfold ComputeProcess.waitErrors
      split
      · split <;> rfl
      · rfl
    change c.process.framesOf (.poll nowMs ⟨answers reads c, wait, kill⟩) =
      frames ((c.poll nowMs reads wait kill).1.filterMap Reached.input?)
    unfold ComputeProcess.framesOf EventChannel.poll drainEvents
    dsimp only
    split
    · rfl
    dsimp only
    rw [List.filterMap_append, frames, List.filterMap_append]
    change _ = frames _ ++ frames _
    rw [herrors, List.append_nil]
    split
    · rfl
    next hopen =>
      rw [not_or, Bool.not_eq_true] at hopen
      rw [h.buffered]
      exact framesIn_answers h hopen.2

/-- The bytes of the stream matter to the members only as answers to reads. -/
theorem step_parses {p : ComputeProcess} (h : c.Shows p) (call : OwnerCall) :
    Parses (eventChannel.event c call) (computeProcess.event p (c.member call)) ∧
      (eventChannel.next c call).Shows (computeProcess.next p (c.member call)) := by
  obtain ⟨⟨q, stream, reached, hfollows⟩, rfl⟩ := h
  have hpost : (c.process.call (c.member call)).2 = (c.call call).2.process := by
    cases call with
    | requestStop nowMs send => rfl
    | poll nowMs reads wait kill => exact (poll_process hfollows.sound nowMs reads wait kill).symm
  constructor
  · constructor
    · rfl
    · rfl
    · exact framesOf_member hfollows.sound call
    · exact hpost
  · exact ⟨⟨q, stream, _, (hfollows.call call).1⟩, hpost.symm⟩

end EventChannel

/-- Every run over the bytes of a worker is one of the members alone, launched alike, call by call:
the reads of each call answer what the bytes make them, and the same frames are consumed. -/
theorem DrainRun.run_parsed (run : DrainRun) :
    ∃ memberCalls,
      List.Forall₂ EventChannel.Parses (eventChannel.trace run.start run.calls)
        (computeProcess.trace run.start.process memberCalls) ∧
      run.final.process = computeProcess.run run.start.process memberCalls := by
  have hstart : run.start.Shows run.start.process := ⟨⟨_, _, _, run.follows_start⟩, rfl⟩
  obtain ⟨memberCalls, hparses, hrun⟩ := Mealy.exists_run_of_step
    (R := EventChannel.Shows)
    (fun c _ h call ↦ ⟨c.member call, EventChannel.step_parses h call⟩) hstart run.calls
  exact ⟨memberCalls, hparses, hrun.process⟩

end RobotHarness.Compute
