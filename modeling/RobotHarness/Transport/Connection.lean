import Mathlib.Logic.Function.Basic
import Mathlib.Order.Nat
import RobotHarness.Transport.Frame

/-!
# Two channels and the stream between them

The two ends of an open socket pair under any schedule: an end may queue messages, and a pump
may send and receive any number of bytes that the source asks for. What is sent stays in order
and is neither lost nor changed.
-/

namespace RobotHarness.Transport

/-- The ends of a socket pair. -/
inductive Side where
  | parent | child
  deriving DecidableEq, Repr

/-- The other end. -/
def Side.other : Side → Side
  | .parent => .child
  | .child => .parent

/-- The other side of the other side. -/
@[simp] theorem Side.other_other (side : Side) : side.other.other = side := by
  cases side <;> rfl

/-- The other side is another one. -/
@[simp] theorem Side.other_ne (side : Side) : side.other ≠ side := by
  cases side <;> nofun

/-- Two channels with the bytes between them, and what was queued, returned and raised. -/
structure Connection where
  channel : Side → Channel
  /-- The bytes that a side has sent and the other has not received. -/
  wire : Side → List UInt8 := fun _ ↦ []
  /-- The messages that a side has queued. -/
  queued : Side → List (Dict × List UInt8) := fun _ ↦ []
  /-- The messages that the pumps of a side have returned, one list after the other. -/
  returned : Side → List Message := fun _ ↦ []
  /-- Whether a pump of a side has raised. -/
  raised : Side → Bool := fun _ ↦ false

/-- One step of a schedule. A pump sends and receives at most the given numbers of bytes; none
stands for an operation that would block. -/
inductive Action where
  | queue (side : Side) (message : Dict) (payload : List UInt8)
  | pump (side : Side) (sent received : ℕ)

namespace Connection

/-- A connection between ends in these modes. -/
def start (binary : Side → Bool) : Connection where
  channel side := { binary := binary side }

/-- The number of bytes that a pump sends. -/
def sentBytes (c : Connection) (side : Side) (sent : ℕ) : ℕ :=
  min sent (min maxFrame (c.channel side).outgoing.length)

/-- The bytes that a pump receives. -/
def receivedBytes (c : Connection) (side : Side) (received : ℕ) : List UInt8 :=
  (c.wire side.other).take
    (min received (min maxFrame ((c.channel side).limit - (c.channel side).incoming.length)))

/-- One step; a message that is not queued is not sent. -/
def act (codec : JsonCodec) (c : Connection) : Action → Connection
  | .queue side message payload =>
    match (c.channel side).queue codec message payload with
    | .error _ => c
    | .ok channel =>
      { c with
        channel := Function.update c.channel side channel
        queued := Function.update c.queued side (c.queued side ++ [(message, payload)]) }
  | .pump side sent received =>
    let count := c.sentBytes side sent
    let bytes := c.receivedBytes side received
    let (result, channel) := (c.channel side).pump codec
      (if count = 0 then .blocked else .taken count) (if bytes = [] then .blocked else .data bytes)
    let wire := Function.update c.wire side
      (c.wire side ++ (c.channel side).outgoing.take count)
    let c :=
      { c with
        channel := Function.update c.channel side channel
        wire := Function.update wire side.other ((wire side.other).drop bytes.length) }
    match result with
    | .error _ => { c with raised := Function.update c.raised side true }
    | .ok messages =>
      { c with returned := Function.update c.returned side (c.returned side ++ messages) }

/-- The connection after a schedule. -/
def run (codec : JsonCodec) (c : Connection) (schedule : List Action) : Connection :=
  schedule.foldl (act codec) c

/-- A schedule is run in parts. -/
theorem run_append (codec : JsonCodec) (c : Connection) (xs ys : List Action) :
    c.run codec (xs ++ ys) = (c.run codec xs).run codec ys := List.foldl_append ..

end Connection

/-- The messages of a step are JSON objects without reserved keys, with a payload that the other
end's mode admits. -/
def Action.Admissible (binary : Side → Bool) : Action → Prop
  | .queue side message payload =>
    Sendable message ∧ payload.length ≤ payloadLimit (binary side.other)
  | .pump .. => True

/-! ### One pump -/

namespace Channel

variable {codec : JsonCodec} {channel : Channel} {count : ℕ} {bytes : List UInt8}

/-- A pump that receives within the limit moves the sent bytes out, takes the received ones in
and parses. -/
theorem pump_eq {messages : List Message} {kept : List UInt8}
    (hbytes : bytes = [] ∨ channel.incoming.length < channel.limit)
    (hread : readFrames (parseFrame codec channel.binary) framesPerPump
      (channel.incoming ++ bytes) = (messages, none, kept)) :
    channel.pump codec (if count = 0 then .blocked else .taken count)
        (if bytes = [] then .blocked else .data bytes) =
      (.ok messages,
        { channel with incoming := kept, outgoing := channel.outgoing.drop count }) := by
  have hflush : channel.flush (if count = 0 then .blocked else .taken count) =
      .ok { channel with outgoing := channel.outgoing.drop count } := by
    unfold flush
    split
    next hnil =>
      rw [hnil, List.drop_nil]
      cases channel
      cases hnil
      rfl
    next =>
      by_cases hzero : count = 0
      · rw [if_pos hzero, hzero]
        rfl
      · rw [if_neg hzero]
  have hfill : fill { channel with outgoing := channel.outgoing.drop count }
      (if bytes = [] then .blocked else .data bytes) =
      .ok { channel with
        incoming := channel.incoming ++ bytes, outgoing := channel.outgoing.drop count } := by
    unfold fill
    by_cases hnil : bytes = []
    · subst hnil
      simp
    · have hroom : channel.incoming.length < channel.limit := hbytes.resolve_left hnil
      rw [if_neg hnil]
      refine (if_pos hroom).trans ?_
      cases bytes with
      | nil => exact absurd rfl hnil
      | cons b bytes => rfl
  simp only [pump, hflush, hfill, hread]

end Channel

/-! ### What holds of every schedule -/

namespace Connection

variable {codec : JsonCodec} {hcodec : codec.Inverts} {binary : Side → Bool} {c : Connection}

/-- The link from a side to the other carries what the side has queued. -/
def Carries (hcodec : codec.Inverts) (binary : Side → Bool) (c : Connection) (side : Side) :
    Prop :=
  ∃ entries : List Entry, entries.map (fun e ↦ (e.message, e.payload)) = c.queued side ∧
    (channelFraming codec hcodec (binary side.other)).Carries entries (c.returned side.other)
      (c.channel side.other).incoming (c.wire side) (c.channel side).outgoing

/-- The invariant of a connection. -/
structure Sound (hcodec : codec.Inverts) (binary : Side → Bool) (c : Connection) : Prop where
  mode : ∀ side, (c.channel side).binary = binary side
  carries : ∀ side, c.Carries hcodec binary side
  incoming : ∀ side, (c.channel side).incoming.length ≤ (c.channel side).limit
  outgoing : ∀ side, (c.channel side).outgoing.length ≤ (c.channel side).limit
  raised : ∀ side, c.raised side = false

/-- A connection starts sound. -/
theorem sound_start : (start binary).Sound hcodec binary where
  mode _ := rfl
  carries _ := ⟨[], rfl, .start⟩
  incoming _ := Nat.zero_le _
  outgoing _ := Nat.zero_le _
  raised _ := rfl

/-- A side is one of the two. -/
theorem eq_or_eq_other (d side : Side) : d = side ∨ d = side.other := by
  cases d <;> cases side <;> simp [Side.other]

/-- What a queued message adds. -/
private theorem queue_cases {side : Side} {message : Dict} {payload : List UInt8} :
    c.act codec (.queue side message payload) = c ∨
      ∃ data, codec.dumps (envelope message payload) = some data ∧ data.length ≤ maxFrame ∧
        (c.channel side).outgoing.length + (frameBytes data payload).length ≤
          (c.channel side).limit ∧
        c.act codec (.queue side message payload) =
          { c with
            channel := Function.update c.channel side
              { c.channel side with
                outgoing := (c.channel side).outgoing ++ frameBytes data payload }
            queued := Function.update c.queued side (c.queued side ++ [(message, payload)]) } := by
  simp only [act, Channel.queue]
  split
  next => exact .inl rfl
  next channel hqueue =>
    split at hqueue
    · cases hqueue
    split at hqueue
    · cases hqueue
    next data hdumps =>
    split at hqueue
    · cases hqueue
    next hroom =>
    push Not at hroom
    cases hqueue
    refine .inr ⟨data, hdumps, hroom.1, ?_, rfl⟩
    rw [length_frameBytes]
    omega

/-- A queued message keeps a connection sound. -/
private theorem Sound.queue (h : c.Sound hcodec binary) {side : Side} {message : Dict}
    {payload : List UInt8} (hmessage : Sendable message)
    (hpayload : payload.length ≤ payloadLimit (binary side.other)) :
    (c.act codec (.queue side message payload)).Sound hcodec binary := by
  rcases queue_cases (c := c) with heq | ⟨data, hdumps, hdata, hroom, heq⟩
  · rw [heq]
    exact h
  rw [heq]
  constructor
  case mode =>
    intro d
    rcases eq_or_eq_other d side with rfl | rfl
    · simpa using h.mode d
    · simpa using h.mode side.other
  case carries =>
    intro d
    rcases eq_or_eq_other d side with rfl | rfl
    · obtain ⟨entries, hqueued, hcarries⟩ := h.carries d
      refine ⟨entries ++ [⟨message, payload, data⟩], by simp [hqueued], ?_⟩
      have hvalid := hcarries.queue (a := ⟨message, payload, data⟩)
        ⟨hmessage, hpayload, hdumps, hdata⟩
      simp only [Function.update_self, Function.update_of_ne (Side.other_ne d)]
      exact hvalid
    · obtain ⟨entries, hqueued, hcarries⟩ := h.carries side.other
      refine ⟨entries, by simpa using hqueued, ?_⟩
      simpa using hcarries
  case incoming =>
    intro d
    rcases eq_or_eq_other d side with rfl | rfl
    · simpa [Channel.limit] using h.incoming d
    · simpa using h.incoming side.other
  case outgoing =>
    intro d
    rcases eq_or_eq_other d side with rfl | rfl
    · simpa [Channel.limit] using hroom
    · simpa using h.outgoing side.other
  case raised => exact h.raised

/-- The number of bytes that a pump asks of what is on the way. -/
def receivable (c : Connection) (side : Side) (received : ℕ) : ℕ :=
  min received (min maxFrame ((c.channel side).limit - (c.channel side).incoming.length))

/-- What a pump does to a sound connection: it does not raise, and moves both streams on. -/
structure Pumped (hcodec : codec.Inverts) (binary : Side → Bool) (c : Connection) (side : Side)
    (sent received : ℕ) (messages : List Message) (kept : List UInt8) : Prop where
  after : c.act codec (.pump side sent received) =
    { channel := Function.update c.channel side
        { c.channel side with
          incoming := kept
          outgoing := (c.channel side).outgoing.drop (c.sentBytes side sent) }
      wire := Function.update
        (Function.update c.wire side
          (c.wire side ++ (c.channel side).outgoing.take (c.sentBytes side sent)))
        side.other ((c.wire side.other).drop (c.receivable side received))
      queued := c.queued
      returned := Function.update c.returned side (c.returned side ++ messages)
      raised := c.raised }
  read : readFrames (parseFrame codec (binary side)) Channel.framesPerPump
    ((c.channel side).incoming ++ c.receivedBytes side received) = (messages, none, kept)
  length : kept.length ≤ ((c.channel side).incoming ++ c.receivedBytes side received).length
  shorter : messages ≠ [] →
    kept.length < ((c.channel side).incoming ++ c.receivedBytes side received).length
  carries : ∃ entries : List Entry,
    entries.map (fun e ↦ (e.message, e.payload)) = c.queued side.other ∧
      (channelFraming codec hcodec (binary side)).Carries entries (c.returned side ++ messages)
        kept ((c.wire side.other).drop (c.receivable side received))
        (c.channel side.other).outgoing

/-- The bytes that a pump receives fit into the buffer. -/
theorem length_receivedBytes (h : c.Sound hcodec binary) (side : Side) (received : ℕ) :
    ((c.channel side).incoming ++ c.receivedBytes side received).length ≤
      (c.channel side).limit := by
  have hroom := h.incoming side
  rw [List.length_append, receivedBytes, List.length_take]
  omega

/-- Every pump of a sound connection does so. -/
theorem Sound.pumped (h : c.Sound hcodec binary) (side : Side) (sent received : ℕ) :
    ∃ messages kept, Pumped hcodec binary c side sent received messages kept := by
  obtain ⟨entries, hqueued, hcarries⟩ := h.carries side.other
  simp only [Side.other_other] at hcarries
  obtain ⟨messages, kept, hread, hlength, hshorter, hcarries⟩ :=
    (hcarries.receive (c.receivable side received)).read Channel.framesPerPump
  have hroom : c.receivedBytes side received = [] ∨
      (c.channel side).incoming.length < (c.channel side).limit := by
    by_cases hfull : (c.channel side).incoming.length < (c.channel side).limit
    · exact .inr hfull
    · left
      rw [receivedBytes, Nat.sub_eq_zero_of_le (not_lt.mp hfull)]
      simp
  have hdrop : (c.wire side.other).drop (c.receivedBytes side received).length =
      (c.wire side.other).drop (c.receivable side received) := by
    rw [receivedBytes, List.length_take, List.drop_eq_drop_iff]
    simp [receivable]
  have hread' : readFrames (parseFrame codec (c.channel side).binary) Channel.framesPerPump
      ((c.channel side).incoming ++ c.receivedBytes side received) = (messages, none, kept) := by
    rw [h.mode side]
    exact hread
  refine ⟨messages, kept, ?_, hread, hlength, hshorter, entries, hqueued, hcarries⟩
  simp only [act, Channel.pump_eq hroom hread', hdrop, Function.update_of_ne (Side.other_ne side)]

/-- A pump keeps a connection sound. -/
private theorem Sound.pump (h : c.Sound hcodec binary) (side : Side) (sent received : ℕ) :
    (c.act codec (.pump side sent received)).Sound hcodec binary := by
  obtain ⟨messages, kept, hpumped⟩ := h.pumped side sent received
  have hfits := length_receivedBytes h side received
  rw [hpumped.after]
  constructor
  case mode =>
    intro d
    rcases eq_or_eq_other d side with rfl | rfl
    · simpa using h.mode d
    · simpa using h.mode side.other
  case carries =>
    intro d
    rcases eq_or_eq_other d side with rfl | rfl
    · obtain ⟨entries, hqueued, hcarries⟩ := h.carries d
      refine ⟨entries, hqueued, ?_⟩
      simp only [Function.update_self, Function.update_of_ne (Side.other_ne d),
        Function.update_of_ne (Side.other_ne d).symm]
      exact hcarries.send _
    · obtain ⟨entries, hqueued, hcarries⟩ := hpumped.carries
      refine ⟨entries, hqueued, ?_⟩
      simp only [Side.other_other, Function.update_self,
        Function.update_of_ne (Side.other_ne side)]
      exact hcarries
  case incoming =>
    intro d
    rcases eq_or_eq_other d side with rfl | rfl
    · simpa [Channel.limit] using hpumped.length.trans hfits
    · simpa using h.incoming side.other
  case outgoing =>
    intro d
    rcases eq_or_eq_other d side with rfl | rfl
    · have hlimit := h.outgoing d
      simp only [Function.update_self, List.length_drop]
      exact (Nat.sub_le ..).trans hlimit
    · simpa using h.outgoing side.other
  case raised => exact h.raised

/-- Every admissible step keeps a connection sound. -/
theorem Sound.act (h : c.Sound hcodec binary) {a : Action} (ha : a.Admissible binary) :
    (c.act codec a).Sound hcodec binary := by
  cases a with
  | queue side message payload => exact h.queue ha.1 ha.2
  | pump side sent received => exact h.pump side sent received

/-- Every admissible schedule keeps a connection sound. -/
theorem Sound.run (h : c.Sound hcodec binary) {schedule : List Action}
    (hschedule : ∀ a ∈ schedule, a.Admissible binary) :
    (c.run codec schedule).Sound hcodec binary := by
  induction schedule generalizing c with
  | nil => exact h
  | cons a schedule ih =>
    rw [List.forall_mem_cons] at hschedule
    exact ih (h.act hschedule.1) hschedule.2

end Connection

end RobotHarness.Transport
