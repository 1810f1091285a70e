import RobotHarness.Base.Mealy
import RobotHarness.Compute.Grammar

/-!
# Draining the event channel

`drain_events` of `src/compute/compute_process.cpp` over the bytes that the worker writes. A read
brings any number of bytes, and the bytes of a frame that is not whole wait in the buffer for the
next poll. What a process makes of its events does not depend on how the stream is split.
-/

namespace RobotHarness.Compute

/-! ### Bytes -/

/-- The number whose bytes are given, the lowest first. -/
def littleEndian (bytes : List UInt8) : ℕ := bytes.foldr (fun byte n ↦ byte.toNat + 256 * n) 0

/-- The kind with a number. -/
def FrameKind.ofUInt16 (value : UInt16) : FrameKind :=
  if value = 1 then .ready
  else if value = 2 then .progress
  else if value = 3 then .stopAcknowledged
  else if value = 4 then .stopIgnored
  else if value = 5 then .completed
  else if value = 6 then .cancelled
  else .unknown value

/-- The copy of bytes into a frame. -/
def Frame.decode (bytes : List UInt8) : Frame where
  magic := .ofNat (littleEndian (bytes.take 4))
  version := .ofNat (littleEndian ((bytes.drop 4).take 2))
  kind := .ofUInt16 (.ofNat (littleEndian ((bytes.drop 6).take 2)))
  iterations := .ofNat (littleEndian ((bytes.drop 8).take 8))
  value := .ofNat (littleEndian ((bytes.drop 16).take 8))
  droppedProgress := .ofNat (littleEndian ((bytes.drop 24).take 8))

/-- The first `n` consecutive blocks of the size of a frame. -/
def blocks : ℕ → List UInt8 → List (List UInt8)
  | 0, _ => []
  | n + 1, bytes => bytes.take frameBytes :: blocks n (bytes.drop frameBytes)

/-- The consecutive whole frames of a stream. -/
def wholeFrames (stream : List UInt8) : List Frame :=
  (blocks (stream.length / frameBytes) stream).map Frame.decode

/-- Blocks of the size of a frame are the consecutive ones of what they make up. -/
theorem blocks_flatten {parts : List (List UInt8)} (hparts : ∀ part ∈ parts,
    part.length = frameBytes) (rest : List UInt8) :
    blocks parts.length (parts.flatten ++ rest) = parts := by
  induction parts with
  | nil => rfl
  | cons part parts ih =>
    rw [List.forall_mem_cons] at hparts
    rw [List.flatten_cons, List.append_assoc, List.length_cons, blocks,
      List.take_left' hparts.1, List.drop_left' hparts.1, ih hparts.2]

/-- Blocks of the size of a frame and a shorter rest split a stream. -/
theorem length_blocks {parts : List (List UInt8)} {rest : List UInt8}
    (hparts : ∀ part ∈ parts, part.length = frameBytes) (hrest : rest.length < frameBytes) :
    (parts.flatten ++ rest).length / frameBytes = parts.length ∧
      (parts.flatten ++ rest).length % frameBytes = rest.length := by
  have hlength : parts.flatten.length = frameBytes * parts.length := by
    clear hrest
    induction parts with
    | nil => rfl
    | cons part parts ih =>
      rw [List.forall_mem_cons] at hparts
      rw [List.flatten_cons, List.length_append, hparts.1, ih hparts.2, List.length_cons,
        Nat.mul_succ, Nat.add_comm]
  rw [List.length_append, hlength]
  unfold frameBytes at *
  omega

/-! ### The channel -/

/-- What a read returns: up to so many of the bytes that are there, nothing for now, an
interruption or an error. -/
inductive Read where
  | bytes (count : ℕ)
  | wouldBlock
  | interrupted
  | failed (errno : Int)
  deriving DecidableEq, Repr

/-- A process with the bytes in its buffer and those that its worker has written or will write
and that were not read. -/
structure EventChannel where
  process : ComputeProcess
  buffer : List UInt8 := []
  unread : List UInt8
  deriving DecidableEq, Repr

/-- What reaches the process in one call: a frame with its bytes, a request to stop, or an error
that a read or `waitpid` reports. -/
inductive Reached where
  | frame (bytes : List UInt8)
  | requestStop (nowMs : UInt64) (send : Option Int)
  | failed (errno : Int)
  deriving DecidableEq, Repr

namespace Reached

/-- What reaches the parser, without the bytes. -/
def input? : Reached → Option ParserInput
  | .frame bytes => some (.frame (.decode bytes))
  | .requestStop nowMs send => some (.requestStop nowMs send)
  | .failed _ => none

/-- The bytes of the frame that reaches the parser. -/
def bytes? : Reached → Option (List UInt8)
  | .frame bytes => some bytes
  | .requestStop .. => none
  | .failed _ => none

/-- The error that is reported. -/
def error? : Reached → Option Int
  | .frame _ => none
  | .requestStop .. => none
  | .failed errno => some errno

end Reached

namespace ComputeProcess

/-- The error that `collect_exit` reports. -/
def waitErrors (p : ComputeProcess) : WaitAnswer → List Reached
  | .failed errno =>
    if p.ownedPid ≤ 0 ∨ p.observation.exitStatus.isSome then [] else [.failed errno]
  | _ => []

/-- What the process makes of what reaches it. -/
def meet (p : ComputeProcess) : Reached → ComputeProcess
  | .frame bytes => p.consume (.decode bytes)
  | .requestStop nowMs send => p.requestStop nowMs send
  | .failed errno => p.rememberIoError errno

/-- What the process makes of all that reaches it. -/
def meetAll (p : ComputeProcess) (reached : List Reached) : ComputeProcess := reached.foldl meet p

end ComputeProcess

namespace EventChannel

/-- The bytes that a read brings: at least one, when there are any. -/
def chunk (c : EventChannel) (count : ℕ) : List UInt8 :=
  c.unread.take (min (max count 1) (frameBytes - c.buffer.length))

/-- A chunk that leaves the frame in the buffer incomplete. -/
def keep (c : EventChannel) (chunk : List UInt8) : EventChannel where
  process := { c.process with bufferedFrameBytes := (c.buffer ++ chunk).length }
  buffer := c.buffer ++ chunk
  unread := c.unread.drop chunk.length

/-- A chunk that completes the frame in the buffer. -/
def complete (c : EventChannel) (chunk : List UInt8) : EventChannel where
  process := { c.process with bufferedFrameBytes := 0 }.consume (.decode (c.buffer ++ chunk))
  buffer := []
  unread := c.unread.drop chunk.length

/-- The loop of `drain_events`, with the number of frames it may still read: what reaches the
process. A read beyond the list finds nothing. -/
def drainLoop : (frames : ℕ) → List Read → EventChannel → List Reached × EventChannel
  | 0, _, c => ([], c)
  | _, [], c => ([], c)
  | frames + 1, .bytes count :: reads, c =>
    let chunk := c.chunk count
    if chunk = [] then ([], { c with process := c.process.meetEof })
    else if (c.buffer ++ chunk).length = frameBytes then
      let (reached, c') := drainLoop frames reads (c.complete chunk)
      (.frame (c.buffer ++ chunk) :: reached, c')
    else drainLoop (frames + 1) reads (c.keep chunk)
  | _, .wouldBlock :: _, c => ([], c)
  | _, .interrupted :: _, c => ([], c)
  | _, .failed errno :: _, c =>
    ([.failed errno], { c with process := c.process.rememberIoError errno })

/-- `drain_events`. -/
def drainEvents (c : EventChannel) (reads : List Read) : List Reached × EventChannel :=
  if c.process.eventOpen = false ∨ c.process.observation.eventEof = true then ([], c)
  else drainLoop maximumFramesPerPoll reads c

/-- `poll`. -/
def poll (c : EventChannel) (nowMs : UInt64) (reads : List Read) (wait : WaitAnswer)
    (kill : Option Int) : List Reached × EventChannel :=
  let o := c.process.observation
  if o.launched = false ∨ o.ownershipLost = true ∨ o.channelsClosed = true then ([], c)
  else
    let (reached, c) := c.drainEvents reads
    (reached ++ c.process.waitErrors wait, { c with
      process := ((c.process.collectExit wait).escalate nowMs).requestTerminationOnce kill })

end EventChannel

/-- A call of the owner while the stream is read. -/
inductive OwnerCall where
  | poll (nowMs : UInt64) (reads : List Read) (wait : WaitAnswer) (kill : Option Int)
  | requestStop (nowMs : UInt64) (send : Option Int)

/-- One call. -/
def EventChannel.call (c : EventChannel) : OwnerCall → List Reached × EventChannel
  | .poll nowMs reads wait kill => c.poll nowMs reads wait kill
  | .requestStop nowMs send =>
    ([.requestStop nowMs send], { c with process := c.process.requestStop nowMs send })

/-- The channel as a machine that answers calls with what reaches the parser. -/
def eventChannel : Mealy EventChannel OwnerCall (List Reached) := ⟨EventChannel.call⟩

/-! ### What the events determine -/

namespace ComputeProcess

/-- The members that `consume`, `drain_events` and a stop request determine by events. -/
def onlyEvents (p : ComputeProcess) : ComputeProcess where
  executable := p.executable
  iterations := p.iterations
  stopGraceMs := p.stopGraceMs
  bufferedFrameBytes := p.bufferedFrameBytes
  lastIterations := p.lastIterations
  observation :=
    { started := p.observation.started
      malformed := p.observation.malformed
      eventEof := p.observation.eventEof
      stopRequested := p.observation.stopRequested
      stopAcknowledged := p.observation.stopAcknowledged
      stopIgnored := p.observation.stopIgnored
      ioError := p.observation.ioError
      progress := p.observation.progress
      droppedProgress := p.observation.droppedProgress
      terminal := p.observation.terminal
      terminalIterations := p.observation.terminalIterations
      terminalValue := p.observation.terminalValue }

/-- A process with so many bytes in its buffer. -/
def buffering (p : ComputeProcess) (count : ℕ) : ComputeProcess :=
  { p with bufferedFrameBytes := count }

/-- A process that remembers this error. -/
def erring (p : ComputeProcess) (error : Int) : ComputeProcess :=
  { p with observation := { p.observation with ioError := error } }

/-- The process remembers the first error of a list, unless it remembers an earlier one. -/
def rememberFirst (p : ComputeProcess) : List Int → ComputeProcess
  | [] => p
  | error :: _ => p.rememberIoError error

variable {p q : ComputeProcess}

private theorem consume_onlyEvents (p : ComputeProcess) (f : Frame) :
    (p.consume f).onlyEvents = p.onlyEvents.consume f := by
  unfold consume consumeKind
  rw [apply_ite onlyEvents, apply_ite onlyEvents]
  cases f.kind with
  | unknown => rfl
  | _ =>
    dsimp only
    rw [apply_ite onlyEvents]
    rfl

private theorem buffering_ite {c : Prop} [Decidable c] (p q : ComputeProcess) (count : ℕ) :
    (if c then p else q).buffering count = if c then p.buffering count else q.buffering count :=
  apply_ite (buffering · count) c p q

private theorem erring_ite {c : Prop} [Decidable c] (p q : ComputeProcess) (error : Int) :
    (if c then p else q).erring error = if c then p.erring error else q.erring error :=
  apply_ite (erring · error) c p q

/-- A change of members that `consume` neither reads nor writes commutes with it. -/
theorem consume_commutes {g : ComputeProcess → ComputeProcess}
    (hkind : ∀ p f, (g p).consumeKind f = g (p.consumeKind f))
    (hmark : ∀ p, (g p).markMalformed = g p.markMalformed)
    (hread : ∀ p, (g p).iterations = p.iterations ∧ (g p).lastIterations = p.lastIterations ∧
      (g p).observation.malformed = p.observation.malformed ∧
      (g p).observation.droppedProgress = p.observation.droppedProgress ∧
      (g p).observation.terminal = p.observation.terminal) (p : ComputeProcess) (f : Frame) :
    (g p).consume f = g (p.consume f) := by
  obtain ⟨hiterations, hlast, hmalformed, hdropped, hterminal⟩ := hread p
  unfold consume
  rw [hiterations, hlast, hmalformed, hdropped, hterminal, hkind, hmark, apply_ite g, apply_ite g]

private theorem consume_buffering (p : ComputeProcess) (count : ℕ) (f : Frame) :
    (p.buffering count).consume f = (p.consume f).buffering count := by
  refine consume_commutes (g := (buffering · count)) (fun p f ↦ ?_) (fun _ ↦ rfl)
    (fun _ ↦ ⟨rfl, rfl, rfl, rfl, rfl⟩) p f
  unfold consumeKind
  cases f.kind with
  | unknown => rfl
  | _ =>
    dsimp only
    rw [buffering_ite]
    rfl

private theorem consume_erring (p : ComputeProcess) (error : Int) (f : Frame) :
    (p.erring error).consume f = (p.consume f).erring error := by
  refine consume_commutes (g := (erring · error)) (fun p f ↦ ?_) (fun _ ↦ rfl)
    (fun _ ↦ ⟨rfl, rfl, rfl, rfl, rfl⟩) p f
  unfold consumeKind
  cases f.kind with
  | unknown => rfl
  | _ =>
    dsimp only
    rw [erring_ite]
    rfl

/-- Of what the events say, a request to stop changes that it was made. -/
theorem requestStop_onlyEvents (p : ComputeProcess) (nowMs : UInt64) (send : Option Int) :
    (p.requestStop nowMs send).onlyEvents =
      { p.onlyEvents with
        observation := { p.onlyEvents.observation with stopRequested := true } } := by
  unfold requestStop
  split
  next h =>
    unfold onlyEvents
    rw [h]
  next =>
    dsimp only
    split
    · rfl
    · cases send <;> rfl

private theorem requestStop_buffering (p : ComputeProcess) (count : ℕ) (nowMs : UInt64)
    (send : Option Int) :
    (p.buffering count).requestStop nowMs send = (p.requestStop nowMs send).buffering count := by
  unfold requestStop
  rw [buffering_ite]
  dsimp only
  rw [buffering_ite]
  cases send <;> rfl

private theorem requestStop_erring (p : ComputeProcess) (error : Int) (nowMs : UInt64)
    (send : Option Int) :
    (p.erring error).requestStop nowMs send = (p.requestStop nowMs send).erring error := by
  unfold requestStop
  rw [erring_ite]
  dsimp only
  rw [erring_ite]
  cases send <;> rfl

/-- The error that is remembered when there is one already, or none. -/
theorem rememberIoError_eq_erring (p : ComputeProcess) (error : Int) :
    p.rememberIoError error =
      p.erring
        (if p.observation.ioError = 0 then errorOr error eio else p.observation.ioError) := by
  unfold rememberIoError
  split <;> rfl

private theorem rememberIoError_buffering (p : ComputeProcess) (count : ℕ) (error : Int) :
    (p.buffering count).rememberIoError error = (p.rememberIoError error).buffering count := by
  rw [rememberIoError_eq_erring, rememberIoError_eq_erring]
  rfl

private theorem rememberIoError_onlyEvents (p : ComputeProcess) (error : Int) :
    (p.rememberIoError error).onlyEvents = p.onlyEvents.rememberIoError error := by
  rw [rememberIoError_eq_erring, rememberIoError_eq_erring]
  rfl

/-- A process that remembers an error keeps it. -/
theorem rememberFirst_remembered (h : p.observation.ioError ≠ 0) (errors : List Int) :
    p.rememberFirst errors = p := by
  cases errors with
  | nil => rfl
  | cons error errors =>
    change p.rememberIoError error = p
    rw [rememberIoError, if_neg h]

/-- What is remembered of errors is the first one. -/
theorem rememberFirst_head {xs ys : List Int} (h : xs.head? = ys.head?) :
    p.rememberFirst xs = p.rememberFirst ys := by
  cases xs with
  | nil =>
    cases ys with
    | nil => rfl
    | cons y ys => cases h
  | cons x xs =>
    cases ys with
    | nil => cases h
    | cons y ys =>
      cases h
      rfl

private theorem rememberIoError_ioError (p : ComputeProcess) (error : Int) :
    (p.rememberIoError error).observation.ioError ≠ 0 := by
  rw [rememberIoError_eq_erring]
  change ite _ _ _ ≠ (0 : Int)
  unfold errorOr eio
  grind

private theorem meet_buffering (p : ComputeProcess) (count : ℕ) (x : Reached) :
    (p.buffering count).meet x = (p.meet x).buffering count := by
  cases x with
  | frame bytes => exact p.consume_buffering count _
  | requestStop nowMs send => exact p.requestStop_buffering count nowMs send
  | failed errno => exact p.rememberIoError_buffering count errno

private theorem meetAll_buffering (p : ComputeProcess) (count : ℕ) (reached : List Reached) :
    (p.buffering count).meetAll reached = (p.meetAll reached).buffering count := by
  induction reached generalizing p with
  | nil => rfl
  | cons x reached ih =>
    change ((p.buffering count).meet x).meetAll reached = _
    rw [meet_buffering, ih]
    rfl

private theorem meetAll_append (p : ComputeProcess) (xs ys : List Reached) :
    p.meetAll (xs ++ ys) = (p.meetAll xs).meetAll ys :=
  List.foldl_append

/-- Processes that agree on their events go on to agree. -/
theorem meet_congr (h : p.onlyEvents = q.onlyEvents) (x : Reached) :
    (p.meet x).onlyEvents = (q.meet x).onlyEvents := by
  cases x with
  | frame bytes => exact (p.consume_onlyEvents _).trans ((congrArg (consume · _) h).trans
      (q.consume_onlyEvents _).symm)
  | requestStop nowMs send =>
    refine (p.requestStop_onlyEvents nowMs send).trans ?_
    rw [h]
    exact (q.requestStop_onlyEvents nowMs send).symm
  | failed errno =>
    refine (p.rememberIoError_onlyEvents errno).trans ?_
    rw [h]
    exact (q.rememberIoError_onlyEvents errno).symm

private theorem meetAll_congr (h : p.onlyEvents = q.onlyEvents) (reached : List Reached) :
    (p.meetAll reached).onlyEvents = (q.meetAll reached).onlyEvents := by
  induction reached generalizing p q with
  | nil => exact h
  | cons x reached ih => exact ih (meet_congr h x)

private theorem meetEof_congr (h : p.onlyEvents = q.onlyEvents) :
    p.meetEof.onlyEvents = q.meetEof.onlyEvents :=
  congrArg meetEof h

private theorem buffering_congr (h : p.onlyEvents = q.onlyEvents) (count : ℕ) :
    (p.buffering count).onlyEvents = (q.buffering count).onlyEvents :=
  congrArg (buffering · count) h

/-- What is no frame may come before the end as well as after it. -/
theorem meet_meetEof (p : ComputeProcess) {x : Reached} (hx : x.bytes? = none) :
    (p.meetEof.meet x).onlyEvents = (p.meet x).meetEof.onlyEvents := by
  cases x with
  | frame bytes => cases hx
  | requestStop nowMs send =>
    refine (p.meetEof.requestStop_onlyEvents nowMs send).trans ?_
    exact (congrArg meetEof (p.requestStop_onlyEvents nowMs send)).symm
  | failed errno =>
    change (p.meetEof.rememberIoError errno).onlyEvents =
      (p.rememberIoError errno).meetEof.onlyEvents
    rw [rememberIoError_eq_erring, rememberIoError_eq_erring]
    rfl

private theorem receive_erring (p : ComputeProcess) (error : Int) (input : ParserInput) :
    (p.erring error).receive input = (p.receive input).erring error := by
  cases input with
  | frame f => exact p.consume_erring error f
  | requestStop nowMs send => exact p.requestStop_erring error nowMs send

/-- The parser has nothing to do with errors. -/
theorem receiveAll_rememberIoError (p : ComputeProcess) (error : Int)
    (inputs : List ParserInput) :
    (p.rememberIoError error).receiveAll inputs =
      (p.receiveAll inputs).rememberIoError error := by
  induction inputs generalizing p with
  | nil => rfl
  | cons input inputs ih =>
    have hkept : (p.receive input).observation.ioError = p.observation.ioError := by
      have hself := congrArg (fun p : ComputeProcess ↦ p.observation.ioError)
        (p.receive_erring p.observation.ioError input)
      exact hself
    have hfirst : (p.rememberIoError error).receive input =
        (p.receive input).rememberIoError error := by
      rw [rememberIoError_eq_erring, rememberIoError_eq_erring, receive_erring, hkept]
    change ((p.rememberIoError error).receive input).receiveAll inputs = _
    rw [hfirst, ih]
    rfl

/-- What has reached a process makes it what the frames and stop requests make it in their
order, with the first error. -/
theorem meetAll_eq (p : ComputeProcess) (reached : List Reached) :
    p.meetAll reached = (p.receiveAll (reached.filterMap Reached.input?)).rememberFirst
      (reached.filterMap Reached.error?) := by
  induction reached generalizing p with
  | nil => rfl
  | cons x reached ih =>
    change (p.meet x).meetAll reached = _
    rw [ih]
    cases x with
    | frame bytes => rfl
    | requestStop nowMs send => rfl
    | failed errno =>
      change ((p.rememberIoError errno).receiveAll _).rememberFirst _ =
        (p.receiveAll _).rememberIoError errno
      rw [receiveAll_rememberIoError, rememberFirst_remembered (rememberIoError_ioError _ _)]
      rfl

/-- After its drain a poll leaves the events alone, except for an error of `waitpid`. -/
theorem poll_onlyEvents (p : ComputeProcess) (nowMs : UInt64) (wait : WaitAnswer)
    (kill : Option Int) :
    (((p.collectExit wait).escalate nowMs).requestTerminationOnce kill).onlyEvents =
      (p.meetAll (p.waitErrors wait)).onlyEvents := by
  have hcollect : (p.collectExit wait).onlyEvents = (p.meetAll (p.waitErrors wait)).onlyEvents := by
    unfold collectExit
    cases wait with
    | failed errno =>
      unfold waitErrors
      dsimp only
      split <;> rfl
    | _ => split <;> rfl
  rw [← hcollect]
  generalize p.collectExit wait = p'
  unfold requestTerminationOnce
  split <;> rfl

end ComputeProcess

/-! ### What a drain does -/

/-- The bytes of the frames that reach the parser. -/
def consumedBytes (reached : List Reached) : List (List UInt8) := reached.filterMap Reached.bytes?

/-- The frames that are consumed by two parts are those of both. -/
theorem consumedBytes_append (xs ys : List Reached) :
    consumedBytes (xs ++ ys) = consumedBytes xs ++ consumedBytes ys :=
  List.filterMap_append

namespace EventChannel

variable {c d : EventChannel} {frames : ℕ} {reads : List Read}

/-- The buffer holds less than a frame, and nothing is unread after the end. -/
structure Sound (c : EventChannel) : Prop where
  short : c.buffer.length < frameBytes
  buffered : c.process.bufferedFrameBytes = c.buffer.length
  ended : c.process.observation.eventEof = true → c.unread = []

/-- A process that has met the end, or not. -/
def ended (eof : Bool) (p : ComputeProcess) : ComputeProcess := if eof then p.meetEof else p

/-- What is known of a channel after something has reached its process: no byte is lost or
consumed twice, and the process is what it has made of what reached it. -/
structure Follows (p : ComputeProcess) (stream : List UInt8) (reached : List Reached)
    (c : EventChannel) : Prop where
  sound : c.Sound
  whole : ∀ block ∈ consumedBytes reached, block.length = frameBytes
  conserved : (consumedBytes reached).flatten ++ (c.buffer ++ c.unread) = stream
  events : c.process.onlyEvents = (ended c.process.observation.eventEof
    ((p.meetAll reached).buffering c.buffer.length)).onlyEvents

private theorem consume_eventEof (p : ComputeProcess) (f : Frame) :
    (p.consume f).observation.eventEof = p.observation.eventEof := by
  unfold ComputeProcess.consume ComputeProcess.consumeKind
  split
  · rfl
  · split
    · rfl
    · cases f.kind with
      | unknown => rfl
      | _ =>
        dsimp only
        split <;> rfl

/-- A channel stays sound as long as the process agrees on its events. -/
theorem Sound.of_onlyEvents (h : c.Sound) (hbuffer : d.buffer = c.buffer)
    (hunread : d.unread = c.unread) (hevents : d.process.onlyEvents = c.process.onlyEvents) :
    d.Sound where
  short := hbuffer ▸ h.short
  buffered := (congrArg ComputeProcess.bufferedFrameBytes hevents).trans (hbuffer ▸ h.buffered)
  ended := fun hended ↦ hunread.trans (h.ended
    ((congrArg (fun p : ComputeProcess ↦ p.observation.eventEof) hevents).symm.trans hended))

namespace Follows

variable {p : ComputeProcess} {stream : List UInt8} {reached more : List Reached}

/-- Nothing has reached the process yet. -/
theorem refl (h : c.Sound) (heof : c.process.observation.eventEof = false) :
    c.Follows c.process (c.buffer ++ c.unread) [] where
  sound := h
  whole := fun _ hblock ↦ (List.not_mem_nil hblock).elim
  conserved := rfl
  events := by
    rw [heof, ← h.buffered]
    rfl

/-- Before the end, what reaches the process later comes after what has reached it. -/
theorem trans (h : c.Follows p stream reached) (heof : c.process.observation.eventEof = false)
    (h' : d.Follows c.process (c.buffer ++ c.unread) more) :
    d.Follows p stream (reached ++ more) where
  sound := h'.sound
  whole := by
    rw [consumedBytes_append, List.forall_mem_append]
    exact ⟨h.whole, h'.whole⟩
  conserved := by
    rw [consumedBytes_append, List.flatten_append, List.append_assoc, h'.conserved, h.conserved]
  events := by
    have hbefore := h.events
    rw [heof] at hbefore
    have hmet := ComputeProcess.buffering_congr (ComputeProcess.meetAll_congr hbefore more)
      d.buffer.length
    change _ = (((((p.meetAll reached).buffering _).meetAll more).buffering _)).onlyEvents at hmet
    rw [ComputeProcess.meetAll_buffering] at hmet
    rw [h'.events, ComputeProcess.meetAll_append]
    cases d.process.observation.eventEof with
    | false => exact hmet
    | true => exact ComputeProcess.meetEof_congr hmet

/-- Only the events matter. -/
theorem of_onlyEvents (h : c.Follows p stream reached) (hbuffer : d.buffer = c.buffer)
    (hunread : d.unread = c.unread) (hevents : d.process.onlyEvents = c.process.onlyEvents) :
    d.Follows p stream reached where
  sound := h.sound.of_onlyEvents hbuffer hunread hevents
  whole := h.whole
  conserved := by
    rw [hbuffer, hunread]
    exact h.conserved
  events := by
    have heof := congrArg (fun p : ComputeProcess ↦ p.observation.eventEof) hevents
    rw [show d.process.observation.eventEof = c.process.observation.eventEof from heof, hbuffer,
      hevents]
    exact h.events

/-- What is no frame reaches the process at any time. -/
theorem meet (h : c.Follows p stream reached) {x : Reached} (hx : x.bytes? = none) :
    { c with process := c.process.meet x }.Follows p stream (reached ++ [x]) := by
  have hkept : (c.process.meet x).bufferedFrameBytes = c.process.bufferedFrameBytes ∧
      (c.process.meet x).observation.eventEof = c.process.observation.eventEof := by
    cases x with
    | frame bytes => cases hx
    | requestStop nowMs send =>
      have hevents := c.process.requestStop_onlyEvents nowMs send
      have hbuffered := congrArg ComputeProcess.bufferedFrameBytes hevents
      have heof := congrArg (fun p : ComputeProcess ↦ p.observation.eventEof) hevents
      exact ⟨hbuffered, heof⟩
    | failed errno =>
      change (c.process.rememberIoError errno).bufferedFrameBytes = _ ∧
        (c.process.rememberIoError errno).observation.eventEof = _
      rw [ComputeProcess.rememberIoError_eq_erring]
      exact ⟨rfl, rfl⟩
  have hbytes : consumedBytes (reached ++ [x]) = consumedBytes reached := by
    rw [consumedBytes_append, consumedBytes, consumedBytes, List.filterMap_cons_none hx]
    exact List.append_nil _
  constructor
  · exact ⟨h.sound.short, hkept.1.trans h.sound.buffered,
      fun hended ↦ h.sound.ended (hkept.2.symm.trans hended)⟩
  · rw [hbytes]
    exact h.whole
  · rw [hbytes]
    exact h.conserved
  · refine (ComputeProcess.meet_congr h.events x).trans ?_
    rw [ComputeProcess.meetAll_append]
    change _ = (ended (c.process.meet x).observation.eventEof
      (((p.meetAll reached).meet x).buffering _)).onlyEvents
    rw [hkept.2, ← ComputeProcess.meet_buffering]
    cases c.process.observation.eventEof with
    | false => rfl
    | true => exact ComputeProcess.meet_meetEof _ hx

end Follows

/-- A chunk is the next bytes, and fits. -/
theorem chunk_append (c : EventChannel) (count : ℕ) :
    c.chunk count ++ c.unread.drop (c.chunk count).length = c.unread := by
  have htake : c.chunk count = c.unread.take (c.chunk count).length := by
    unfold chunk
    rw [List.length_take, List.take_eq_take_iff]
    omega
  conv_lhs => lhs; rw [htake]
  rw [List.take_append_drop]

/-- What is buffered and read is at most one frame. -/
theorem length_chunk (h : c.Sound) (count : ℕ) :
    (c.buffer ++ c.chunk count).length ≤ frameBytes := by
  have := h.short
  rw [List.length_append, chunk, List.length_take]
  omega

/-- A read that brings nothing has met the end. -/
theorem unread_of_chunk (h : c.Sound) {count : ℕ} (hchunk : c.chunk count = []) :
    c.unread = [] := by
  have hshort := h.short
  have hlength := congrArg List.length hchunk
  rw [chunk, List.length_take, List.length_nil] at hlength
  exact List.length_eq_zero_iff.mp (by omega)

/-- A whole frame does not end the channel. -/
theorem complete_eventEof (heof : c.process.observation.eventEof = false) (chunk : List UInt8) :
    (c.complete chunk).process.observation.eventEof = false :=
  (consume_eventEof _ _).trans heof

/-- A whole frame leaves the buffer sound. -/
theorem sound_complete (heof : c.process.observation.eventEof = false) (chunk : List UInt8) :
    (c.complete chunk).Sound := by
  refine ⟨Nat.zero_lt_succ 31, ?_, fun hended ↦ ?_⟩
  · change ((c.process.buffering 0).consume (.decode (c.buffer ++ chunk))).bufferedFrameBytes = 0
    rw [ComputeProcess.consume_buffering]
    rfl
  · rw [complete_eventEof heof] at hended
    cases hended

/-- A part of a frame leaves the buffer sound. -/
theorem sound_keep (heof : c.process.observation.eventEof = false) {chunk : List UInt8}
    (hshort : (c.buffer ++ chunk).length < frameBytes) : (c.keep chunk).Sound := by
  refine ⟨hshort, rfl, fun hended ↦ ?_⟩
  rw [show (c.keep chunk).process.observation.eventEof = false from heof] at hended
  cases hended

/-- The loop of a drain keeps every byte, and consumes no more frames than it may. -/
theorem follows_drainLoop (h : c.Sound) (heof : c.process.observation.eventEof = false) :
    (drainLoop frames reads c).2.Follows c.process (c.buffer ++ c.unread)
        (drainLoop frames reads c).1 ∧
      (consumedBytes (drainLoop frames reads c).1).length ≤ frames := by
  fun_induction drainLoop frames reads c with
  | case1 => exact ⟨.refl h heof, Nat.zero_le _⟩
  | case2 => exact ⟨.refl h heof, Nat.zero_le _⟩
  | case3 frames count reads c chunk hchunk =>
    have hunread := unread_of_chunk h hchunk
    refine ⟨⟨⟨h.short, h.buffered, fun _ ↦ hunread⟩, fun _ hblock ↦ ?_, rfl, ?_⟩, Nat.zero_le _⟩
    · exact (List.not_mem_nil hblock).elim
    · rw [← h.buffered]
      rfl
  | case4 frames count reads c chunk hchunk hwhole reached c' heq ih =>
    obtain ⟨hfollows, hcount⟩ := ih (sound_complete heof chunk) (complete_eventEof heof chunk)
    rw [heq] at hfollows hcount
    refine ⟨⟨hfollows.sound, ?_, ?_, ?_⟩, Nat.succ_le_succ hcount⟩
    · change ∀ block ∈ (c.buffer ++ chunk) :: consumedBytes reached, _
      rw [List.forall_mem_cons]
      exact ⟨hwhole, hfollows.whole⟩
    · have hrest : (consumedBytes reached).flatten ++ (c'.buffer ++ c'.unread) =
          c.unread.drop chunk.length := hfollows.conserved
      change ((c.buffer ++ chunk) :: consumedBytes reached).flatten ++ _ = _
      rw [List.flatten_cons, List.append_assoc, hrest, List.append_assoc, chunk_append]
    · rw [hfollows.events]
      change (ended _ ((((c.process.buffering 0).consume (.decode (c.buffer ++ chunk))).meetAll
        _).buffering _)).onlyEvents = _
      rw [ComputeProcess.consume_buffering, ComputeProcess.meetAll_buffering]
      rfl
  | case5 frames count reads c chunk hchunk hpart ih =>
    have hshort := Nat.lt_of_le_of_ne (length_chunk h count) hpart
    obtain ⟨hfollows, hcount⟩ := ih (sound_keep heof hshort) heof
    refine ⟨⟨hfollows.sound, hfollows.whole, ?_, ?_⟩, hcount⟩
    · rw [hfollows.conserved]
      change (c.buffer ++ chunk) ++ c.unread.drop chunk.length = _
      rw [List.append_assoc, chunk_append]
    · rw [hfollows.events]
      change (ended _ (((c.process.buffering _).meetAll _).buffering _)).onlyEvents = _
      rw [ComputeProcess.meetAll_buffering]
      rfl
  | case6 => exact ⟨.refl h heof, Nat.zero_le _⟩
  | case7 => exact ⟨.refl h heof, Nat.zero_le _⟩
  | case8 frames errno reads c => exact ⟨(Follows.refl h heof).meet rfl, Nat.zero_le _⟩

/-- What reads return, as the process sees it. -/
def answers : List Read → EventChannel → List ReadAnswer
  | [], _ => []
  | .bytes count :: reads, c =>
    let chunk := c.chunk count
    if chunk = [] then [.eof]
    else
      .data chunk.length (.decode (c.buffer ++ chunk)) ::
        answers reads
          (if (c.buffer ++ chunk).length = frameBytes then c.complete chunk else c.keep chunk)
  | .wouldBlock :: _, _ => [.retry]
  | .interrupted :: _, _ => [.retry]
  | .failed errno :: _, _ => [.failed errno]

/-- The number of bytes in the buffer after a read, as the process counts them. -/
theorem Sound.length_answer (h : c.Sound) {count : ℕ} (hchunk : c.chunk count ≠ []) :
    min (c.process.bufferedFrameBytes + max (c.chunk count).length 1) frameBytes =
      (c.buffer ++ c.chunk count).length := by
  have hlength := length_chunk h count
  have hpositive := List.length_pos_iff.mpr hchunk
  rw [List.length_append] at hlength ⊢
  rw [h.buffered]
  omega

/-- Over the bytes, the loop does to the process what it does over the answers. -/
theorem drainLoop_process (h : c.Sound) (heof : c.process.observation.eventEof = false) :
    (drainLoop frames reads c).2.process = c.process.drainFrames frames (answers reads c) := by
  fun_induction drainLoop frames reads c with
  | case1 => rw [ComputeProcess.drainFrames]
  | case2 frames => cases frames <;> rfl
  | case3 frames count reads c chunk hchunk =>
    rw [answers]
    dsimp only
    rw [if_pos hchunk]
    rfl
  | case4 frames count reads c chunk hchunk hwhole consumed c' heq ih =>
    have hnext := ih (sound_complete heof chunk) (complete_eventEof heof chunk)
    rw [heq] at hnext
    rw [answers]
    dsimp only
    rw [if_neg hchunk, if_pos hwhole, ComputeProcess.drainFrames, h.length_answer hchunk,
      if_pos hwhole]
    exact hnext
  | case5 frames count reads c chunk hchunk hpart ih =>
    have hshort := Nat.lt_of_le_of_ne (length_chunk h count) hpart
    rw [answers]
    rw [if_neg hchunk, if_neg hpart, ComputeProcess.drainFrames, h.length_answer hchunk,
      if_neg hpart]
    exact ih (sound_keep heof hshort) heof
  | case6 frames reads c => cases frames <;> rfl
  | case7 frames reads c => cases frames <;> rfl
  | case8 frames errno reads c hframes =>
    cases frames with
    | zero => exact absurd rfl hframes
    | succ frames => rfl

/-- Over the bytes, a poll does to the process what it does over the answers. -/
theorem poll_process (h : c.Sound) (nowMs : UInt64) (reads : List Read) (wait : WaitAnswer)
    (kill : Option Int) :
    (c.poll nowMs reads wait kill).2.process =
      c.process.poll nowMs ⟨answers reads c, wait, kill⟩ := by
  unfold EventChannel.poll ComputeProcess.poll drainEvents ComputeProcess.drainEvents
  dsimp only
  split
  · rfl
  · split
    · rfl
    next hopen =>
      rw [not_or, Bool.not_eq_true] at hopen
      rw [drainLoop_process h hopen.2]

end EventChannel

end RobotHarness.Compute
