import Mathlib.Algebra.Order.Ring.Nat
import Mathlib.Data.List.Induction
import RobotHarness.Base.Mealy
import RobotHarness.Transport.Progress

/-!
# The end of a stream

A channel whose peer sends well-formed frames and closes its end. A receive brings any number of
the bytes that are there, and none when all have been read. A pump parses a bounded number of
frames, and raises before it parses any at the end and where a send or a receive raises.
-/

namespace RobotHarness.Transport

/-- The bytes of a frame with the message that they hold. -/
structure Frame where
  bytes : List UInt8
  message : Message

/-- The parser takes the bytes for one whole frame. -/
def Frame.WellFormed (codec : JsonCodec) (binary : Bool) (f : Frame) : Prop :=
  parseFrame codec binary f.bytes = .frame f.message f.bytes.length

section Parsing

variable {codec : JsonCodec} {binary : Bool} {buffer : List UInt8} {message : Message} {n : ℕ}

/-- What the parser has looked at when it returns a frame. -/
structure Parsed (codec : JsonCodec) (binary : Bool) (buffer : List UInt8) (message : Message)
    (n : ℕ) (fields : Dict) (payloadSize : ℤ) : Prop where
  head : 4 ≤ buffer.length
  size : ¬ (unpack (buffer.take 4) = 0 ∨ maxFrame < unpack (buffer.take 4))
  text : unpack (buffer.take 4) + 4 ≤ buffer.length
  object : codec.loads ((buffer.drop 4).take (unpack (buffer.take 4))) = some (.object fields)
  supported : Dict.get? fields "version" = some (.int version)
  payload : (Dict.get? fields "_payload_size").getD (.int 0) = .int payloadSize
  range : 0 ≤ payloadSize ∧ payloadSize ≤ payloadLimit binary
  length : n = unpack (buffer.take 4) + 4 + payloadSize.toNat
  whole : n ≤ buffer.length
  message_eq : message =
    if payloadSize ≠ 0 then
      ⟨Dict.erase (Dict.erase fields "_payload_size") "_payload",
        some ((buffer.drop (unpack (buffer.take 4) + 4)).take payloadSize.toNat)⟩
    else ⟨Dict.erase fields "_payload_size", none⟩

private theorem parsed_of_frame (h : parseFrame codec binary buffer = .frame message n) :
    ∃ fields payloadSize, Parsed codec binary buffer message n fields payloadSize := by
  unfold parseFrame at h
  split at h
  next => cases h
  next hhead =>
    dsimp only at h
    split at h
    next => cases h
    next hsize =>
      split at h
      next => cases h
      next htext =>
        rcases hobject : codec.loads ((buffer.drop 4).take (unpack (buffer.take 4))) with _ | value
        · rw [hobject] at h
          cases h
        rw [hobject] at h
        cases value with
        | object fields =>
          dsimp only at h
          split at h
          next number hversion =>
            split at h
            next => cases h
            next hnumber =>
              split at h
              next payloadSize hpayload =>
                split at h
                next => cases h
                next hrange =>
                  split at h
                  next => cases h
                  next hwhole =>
                    have hsupported : Dict.get? fields "version" = some (.int version) := by
                      rw [hversion, not_not.mp hnumber]
                    refine ⟨fields, payloadSize, by omega, hsize, by omega, hobject, hsupported,
                      hpayload, not_not.mp hrange, ?_, ?_, ?_⟩
                    · split at h <;> cases h <;> rfl
                    · split at h <;> cases h <;> omega
                    · split at h <;> next hzero => cases h; simp [hzero]
              next => cases h
          next => cases h
        | _ => cases h

/-- A buffer that agrees with a frame as far as both go holds the frame once it is as long. -/
theorem Frame.WellFormed.parse {f : Frame} (hf : f.WellFormed codec binary) {xs ys : List UInt8}
    (h : buffer ++ xs = f.bytes ++ ys) :
    parseFrame codec binary buffer =
      if buffer.length < f.bytes.length then .incomplete
      else .frame f.message f.bytes.length := by
  obtain ⟨fields, payloadSize, hp⟩ := parsed_of_frame hf
  have hagree : ∀ i j, i + j ≤ buffer.length → i + j ≤ f.bytes.length →
      (buffer.drop i).take j = (f.bytes.drop i).take j := by
    intro i j hbuffer hbytes
    have hpart := congrArg (fun bytes ↦ (bytes.drop i).take j) h
    simpa only [List.drop_append_of_le_length (show i ≤ buffer.length by omega),
      List.drop_append_of_le_length (show i ≤ f.bytes.length by omega),
      List.take_append_of_le_length (show j ≤ (buffer.drop i).length by
        rw [List.length_drop]; omega),
      List.take_append_of_le_length (show j ≤ (f.bytes.drop i).length by
        rw [List.length_drop]; omega)] using hpart
  have hlength := hp.length
  unfold parseFrame
  by_cases hhead : buffer.length < 4
  · rw [if_pos hhead, if_pos (by omega)]
  have hfront : buffer.take 4 = f.bytes.take 4 := hagree 0 4 (by omega) hp.head
  rw [if_neg hhead]
  dsimp only
  rw [hfront, if_neg hp.size]
  by_cases htext : buffer.length < unpack (f.bytes.take 4) + 4
  · rw [if_pos htext, if_pos (by omega)]
  have hbody : (buffer.drop 4).take (unpack (f.bytes.take 4)) =
      (f.bytes.drop 4).take (unpack (f.bytes.take 4)) :=
    hagree 4 _ (by omega) (by have := hp.text; omega)
  rw [if_neg htext, hbody, hp.object]
  dsimp only
  rw [hp.supported]
  dsimp only
  rw [if_neg (not_not.mpr rfl), hp.payload]
  dsimp only
  rw [if_neg (not_not.mpr hp.range), ← hlength]
  by_cases hframe : buffer.length < f.bytes.length
  · rw [if_pos hframe, if_pos hframe]
  rw [if_neg hframe, if_neg hframe, hp.message_eq,
    hagree (unpack (f.bytes.take 4) + 4) payloadSize.toNat (by omega) (by omega)]
  split <;> rfl

/-- Without a byte there is no frame. -/
theorem parseFrame_nil (codec : JsonCodec) (binary : Bool) :
    parseFrame codec binary [] = .incomplete := by
  unfold parseFrame
  exact if_pos (by decide)

/-- The bytes of a frame are parsed as the frame. -/
theorem Frame.WellFormed.parse_append {f : Frame} (hf : f.WellFormed codec binary)
    (rest : List UInt8) :
    parseFrame codec binary (f.bytes ++ rest) = .frame f.message f.bytes.length := by
  rw [hf.parse (List.append_nil _), if_neg]
  rw [List.length_append]
  omega

/-- A part of the bytes of a frame is no frame as yet. -/
theorem Frame.WellFormed.parse_partial {f : Frame} (hf : f.WellFormed codec binary)
    {buffer rest : List UInt8} (hrest : rest ≠ []) (h : buffer ++ rest = f.bytes) :
    parseFrame codec binary buffer = .incomplete := by
  rw [hf.parse (h.trans (List.append_nil _).symm), if_pos]
  have hlength := congrArg List.length h
  have hpositive := List.length_pos_iff.mpr hrest
  rw [List.length_append] at hlength
  omega

/-- The frames that a parser takes, as an encoding. -/
def frameFraming (codec : JsonCodec) (binary : Bool) :
    Framing Frame UInt8 Message ChannelError where
  valid f := f.WellFormed codec binary
  encode f := f.bytes
  decoded f := f.message
  look := parseFrame codec binary
  look_nil := parseFrame_nil codec binary
  look_encode _ rest hf := hf.parse_append rest
  look_partial _ _ _ hf hrest h := hf.parse_partial hrest h

end Parsing

/-! ### A receiver -/

/-- A channel with the bytes that its peer has sent and that it has not read. -/
structure Receiver where
  channel : Channel
  unread : List UInt8

/-- What a pump meets: what a send does, how many bytes a receive may bring, none where it would
block, and the text of the `OSError` that it raises, if it does. -/
structure Arrival where
  sent : SendAnswer
  bytes : ℕ
  failed : Option String := none

/-- What a send raises. -/
def SendAnswer.error? : SendAnswer → Option String
  | .taken _ => none
  | .blocked => none
  | .failed text => some text

namespace Receiver

/-- The pump sends and the send raises, or it receives and the receive raises. -/
def Raises (r : Receiver) (a : Arrival) : Prop :=
  r.channel.outgoing ≠ [] ∧ a.sent.error?.isSome = true ∨
    r.channel.incoming.length < r.channel.limit ∧ a.failed.isSome = true
  deriving Decidable

/-- The bytes that are there for a receive. -/
def available (r : Receiver) (bytes : ℕ) : List UInt8 :=
  r.unread.take (min bytes (min maxFrame (r.channel.limit - r.channel.incoming.length)))

/-- What a receive does. -/
def received (r : Receiver) (a : Arrival) : ReceiveAnswer :=
  match a.failed with
  | some text => .failed text
  | none => if a.bytes = 0 then .blocked else .data (r.available a.bytes)

/-- The bytes that the receive of a pump brings. -/
def brought (r : Receiver) (a : Arrival) : List UInt8 :=
  if r.Raises a then [] else r.available a.bytes

/-- A pump when the peer has closed its end after what is unread. -/
def pump (codec : JsonCodec) (r : Receiver) (a : Arrival) :
    Except ChannelError (List Message) × Receiver :=
  let (result, channel) := r.channel.pump codec a.sent (r.received a)
  (result, ⟨channel, r.unread.drop (r.brought a).length⟩)

end Receiver

/-- A receiver that pumps again and again. -/
def receiver (codec : JsonCodec) : Mealy Receiver Arrival (Except ChannelError (List Message)) :=
  ⟨Receiver.pump codec⟩

/-- What a pump raises at the end. -/
def endOfStream : ChannelError := .eofError "peer disconnected"

/-- The pump meets the end of the stream. -/
def meetsEnd : Except ChannelError (List Message) → Bool
  | .ok _ => false
  | .error error => error == endOfStream

/-- The messages that a pump returns. -/
def messages : Except ChannelError (List Message) → List Message
  | .ok messages => messages
  | .error _ => []

/-- A channel that has received nothing, and all that its peer sends. -/
def Receiver.start (binary : Bool) (outgoing : List UInt8) (frames : List Frame) : Receiver :=
  ⟨{ binary, outgoing }, (frames.map Frame.bytes).flatten⟩

/-- The messages that pumps return. -/
def returned (codec : JsonCodec) (r : Receiver) (arrivals : List Arrival) : List Message :=
  ((receiver codec).trace r arrivals).flatMap fun e ↦ messages e.output

section Pump

variable {codec : JsonCodec} {binary : Bool} {r : Receiver} {pending : List Frame}

/-- What is brought are the next bytes. -/
theorem Receiver.brought_append (r : Receiver) (a : Arrival) :
    r.brought a ++ r.unread.drop (r.brought a).length = r.unread := by
  unfold brought
  split
  · rfl
  have htake : r.available a.bytes = r.unread.take (r.available a.bytes).length := by
    unfold available
    rw [List.length_take, List.take_eq_take_iff]
    omega
  conv_lhs => lhs; rw [htake]
  rw [List.take_append_drop]

/-- A send changes only what there is to send, or raises. -/
theorem Receiver.flush_cases (r : Receiver) (a : Arrival) :
    (∃ text, r.channel.flush a.sent = .error (.osError text) ∧ r.Raises a) ∨
      ∃ outgoing, r.channel.flush a.sent = .ok { r.channel with outgoing } ∧
        (r.Raises a ↔ r.channel.incoming.length < r.channel.limit ∧ a.failed.isSome = true) := by
  unfold Channel.flush Raises
  by_cases hnil : r.channel.outgoing = []
  · rw [if_pos hnil]
    exact .inr ⟨r.channel.outgoing, rfl, by simp [hnil]⟩
  rw [if_neg hnil]
  cases a.sent with
  | taken count => exact .inr ⟨_, rfl, by simp [SendAnswer.error?]⟩
  | blocked => exact .inr ⟨r.channel.outgoing, rfl, by simp [SendAnswer.error?]⟩
  | failed text => exact .inl ⟨text, rfl, .inl ⟨hnil, rfl⟩⟩

/-- A receive raises, meets the end, or brings what is there. -/
theorem Receiver.fill_cases (r : Receiver) (a : Arrival) {channel : Channel}
    (hchannel : channel.limit = r.channel.limit ∧ channel.incoming = r.channel.incoming) :
    (∃ text, channel.fill (r.received a) = .error (.osError text) ∧
        r.channel.incoming.length < r.channel.limit ∧ a.failed.isSome = true) ∨
      ¬ (r.channel.incoming.length < r.channel.limit ∧ a.failed.isSome = true) ∧
        (channel.fill (r.received a) = .error endOfStream ∧ a.bytes ≠ 0 ∧ r.unread = [] ∨
          channel.fill (r.received a) =
            .ok { channel with incoming := channel.incoming ++ r.available a.bytes }) := by
  obtain ⟨hlimit, hincoming⟩ := hchannel
  unfold Channel.fill received
  rw [hlimit, hincoming]
  by_cases hroom : r.channel.incoming.length < r.channel.limit
  · rw [if_pos hroom]
    rcases hfailed : a.failed with _ | text
    · refine .inr ⟨by simp, ?_⟩
      dsimp only
      by_cases hzero : a.bytes = 0
      · have hnone : r.available a.bytes = [] := by simp [available, hzero]
        rw [if_pos hzero, hnone, List.append_nil, ← hincoming]
        exact .inr rfl
      · rw [if_neg hzero]
        have hpositive : 0 < min a.bytes (min maxFrame
            (r.channel.limit - r.channel.incoming.length)) := by
          have hframe : 0 < maxFrame := by decide
          omega
        rcases havailable : r.available a.bytes with _ | ⟨byte, more⟩
        · refine .inl ⟨rfl, hzero, ?_⟩
          have hlength := congrArg List.length havailable
          rw [available, List.length_take, List.length_nil] at hlength
          exact List.length_eq_zero_iff.mp (by omega)
        · exact .inr rfl
    · exact .inl ⟨text, rfl, hroom, rfl⟩
  · have hnone : r.available a.bytes = [] := by
      have hzero : r.channel.limit - r.channel.incoming.length = 0 := by omega
      simp [available, hzero]
    rw [if_neg hroom, hnone, List.append_nil, ← hincoming]
    exact .inr ⟨by simp [hincoming, hroom], .inr rfl⟩

/-- A pump raises what its send or receive raises, meets the end, or returns the frames that are
complete, up to its bound. -/
theorem pump_cases (hbinary : r.channel.binary = binary)
    (hvalid : ∀ f ∈ pending, f.WellFormed codec binary)
    (hstream : r.channel.incoming ++ r.unread = (frameFraming codec binary).stream pending)
    (a : Arrival) :
    (r.Raises a ∧ (∃ text, (r.pump codec a).1 = .error (.osError text)) ∧
        (r.pump codec a).2.channel.binary = binary ∧
        (r.pump codec a).2.channel.incoming = r.channel.incoming) ∨
      ¬ r.Raises a ∧ (meetsEnd (r.pump codec a).1 = true ∨
        ∃ taken later, pending = taken ++ later ∧
          (r.pump codec a).1 = .ok (taken.map Frame.message) ∧
          (r.pump codec a).2.channel.binary = binary ∧
          (r.pump codec a).2.channel.incoming ++ (r.pump codec a).2.unread =
            (frameFraming codec binary).stream later ∧
          taken.length = min Channel.framesPerPump ((frameFraming codec binary).completed pending
            (r.channel.incoming.length + (r.brought a).length))) := by
  unfold Receiver.pump Channel.pump
  rcases r.flush_cases a with ⟨text, hflush, hraises⟩ | ⟨outgoing, hflush, hraises⟩
  · rw [hflush]
    exact .inl ⟨hraises, ⟨text, rfl⟩, hbinary, rfl⟩
  rw [hflush, hraises]
  dsimp only
  rcases @Receiver.fill_cases r a { r.channel with outgoing } ⟨rfl, rfl⟩ with
    ⟨text, hfill, hfailed⟩ | ⟨hfine, hfill⟩
  · rw [hfill]
    exact .inl ⟨hfailed, ⟨text, rfl⟩, hbinary, rfl⟩
  refine .inr ⟨hfine, ?_⟩
  rcases hfill with ⟨hfill, -⟩ | hfill
  · rw [hfill]
    exact .inl rfl
  · rw [hfill]
    have hbrought : r.brought a = r.available a.bytes := if_neg (mt hraises.mp hfine)
    rw [← hbrought]
    have hsplit : (r.channel.incoming ++ r.brought a) ++ r.unread.drop (r.brought a).length =
        (frameFraming codec binary).stream pending := by
      rw [List.append_assoc, r.brought_append, hstream]
    obtain ⟨taken, later, kept, rfl, hread, -, hrest⟩ :=
      (frameFraming codec binary).readFrames_stream Channel.framesPerPump hvalid hsplit
    have hcount := (frameFraming codec binary).length_readFrames Channel.framesPerPump hvalid hsplit
    subst hbinary
    change readFrames (parseFrame codec r.channel.binary) _ _ = _ at hread
    rw [show (frameFraming codec r.channel.binary).look = parseFrame codec r.channel.binary from rfl,
      hread, List.length_map, List.length_append] at hcount
    dsimp only
    rw [hread]
    exact .inr ⟨taken, later, rfl, rfl, rfl, hrest, hcount⟩

end Pump

/-! ### Every reception -/

/-- A peer sends well-formed frames and closes its end, and the pump after some arrivals is the
first to meet the end. -/
structure Reception (codec : JsonCodec) where
  binary : Bool
  outgoing : List UInt8
  frames : List Frame
  wellFormed : ∀ f ∈ frames, f.WellFormed codec binary
  arrivals : List Arrival
  last : Arrival
  before : ∀ e ∈ (receiver codec).trace (.start binary outgoing frames) arrivals,
    meetsEnd e.output = false
  ended : meetsEnd (((receiver codec).run (.start binary outgoing frames) arrivals).pump
    codec last).1 = true

namespace Reception

variable {codec : JsonCodec} (reception : Reception codec)

/-- The receiver after some arrivals. -/
def after (arrivals : List Arrival) : Receiver :=
  (receiver codec).run (.start reception.binary reception.outgoing reception.frames) arrivals

/-- The messages that are returned before a pump meets the end. -/
def returned : List Message :=
  Transport.returned codec (.start reception.binary reception.outgoing reception.frames)
    reception.arrivals

/-- The number of bytes that the receives of the pumps bring. -/
def brought (arrivals : List Arrival) : ℕ :=
  (((receiver codec).trace (.start reception.binary reception.outgoing reception.frames)
    arrivals).map fun e ↦ (e.pre.brought e.input).length).sum

/-- The number of frames that have arrived whole. -/
def arrived (arrivals : List Arrival) : ℕ :=
  (frameFraming codec reception.binary).completed reception.frames (reception.brought arrivals)

/-- The number of pumps, after some others, whose sends and receives do not raise. -/
def parsing (front back : List Arrival) : ℕ :=
  ((receiver codec).trace (reception.after front) back).countP fun e ↦ ¬ e.pre.Raises e.input

/-- No pump has to leave frames behind: those that have not arrived before some last pumps are at
most as many as these parse. -/
def KeepsUp : Prop :=
  ∀ front back, reception.arrivals = front ++ back →
    reception.frames.length ≤ reception.arrived front +
      Channel.framesPerPump * reception.parsing front back

/-- What a pump returns, unless a send or a receive raises. -/
def Answers (e : Mealy.Event Receiver Arrival (Except ChannelError (List Message))) : Prop :=
  e.pre.Raises e.input ∧ (∃ text, e.output = .error (.osError text)) ∨
    ¬ e.pre.Raises e.input ∧ ∃ messages, e.output = .ok messages

/-- What pumps have returned. -/
structure Returns (arrivals : List Arrival) (done pending : List Frame) : Prop where
  split : reception.frames = done ++ pending
  binary : (reception.after arrivals).channel.binary = reception.binary
  stream : (reception.after arrivals).channel.incoming ++ (reception.after arrivals).unread =
    (frameFraming codec reception.binary).stream pending
  brought : reception.brought arrivals =
    ((frameFraming codec reception.binary).stream done).length +
      (reception.after arrivals).channel.incoming.length
  outputs : ∀ e ∈ (receiver codec).trace
    (.start reception.binary reception.outgoing reception.frames) arrivals, Answers e
  returned : Transport.returned codec
    (.start reception.binary reception.outgoing reception.frames) arrivals =
      done.map Frame.message
  count : ∀ m, m ≤ done.length ↔ ∀ front back, arrivals = front ++ back →
    m ≤ reception.arrived front + Channel.framesPerPump * reception.parsing front back

private theorem returns_nil : reception.Returns [] [] reception.frames where
  split := rfl
  binary := rfl
  stream := rfl
  brought := rfl
  outputs := fun e he ↦ (List.not_mem_nil he).elim
  returned := rfl
  count := by
    have hnone : reception.arrived [] = 0 :=
      (frameFraming codec reception.binary).completed_zero reception.wellFormed
    intro m
    constructor
    · intro hm front back heq
      obtain ⟨rfl, rfl⟩ := List.append_eq_nil_iff.mp heq.symm
      exact hm.trans (Nat.zero_le _)
    · intro hall
      have hm := hall [] [] rfl
      rwa [hnone] at hm

private theorem after_snoc (arrivals : List Arrival) (a : Arrival) :
    reception.after (arrivals ++ [a]) = ((reception.after arrivals).pump codec a).2 := by
  unfold after
  rw [Mealy.run_append]
  rfl

private theorem trace_snoc (arrivals : List Arrival) (a : Arrival) :
    (receiver codec).trace (.start reception.binary reception.outgoing reception.frames)
        (arrivals ++ [a]) =
      (receiver codec).trace (.start reception.binary reception.outgoing reception.frames)
        arrivals ++ [(receiver codec).event (reception.after arrivals) a] := by
  rw [Mealy.trace_append]
  rfl

private theorem brought_snoc (arrivals : List Arrival) (a : Arrival) :
    reception.brought (arrivals ++ [a]) =
      reception.brought arrivals + ((reception.after arrivals).brought a).length := by
  unfold brought
  rw [trace_snoc, List.map_append, List.sum_append]
  rfl

private theorem parsing_snoc (front back : List Arrival) (a : Arrival) :
    reception.parsing front (back ++ [a]) = reception.parsing front back +
      if (reception.after (front ++ back)).Raises a then 0 else 1 := by
  have hafter : reception.after (front ++ back) =
      (receiver codec).run (reception.after front) back := Mealy.run_append ..
  unfold parsing
  rw [Mealy.trace_append, List.countP_append, hafter]
  congr 1
  change List.countP _ [(receiver codec).event _ a] = _
  rw [List.countP_singleton]
  change (if decide (¬ ((receiver codec).run (reception.after front) back).Raises a) = true
    then 1 else 0) = _
  by_cases hraises : ((receiver codec).run (reception.after front) back).Raises a
  · simp [hraises]
  · simp [hraises]

/-- The counts of some arrivals and one more. -/
theorem count_snoc {arrivals : List Arrival} {a : Arrival} {limit : ℕ} (taken parses : ℕ)
    (hparses : (if (reception.after arrivals).Raises a then 0 else 1) = parses)
    (hcount : ∀ m, m ≤ limit ↔ ∀ front back, arrivals = front ++ back →
      m ≤ reception.arrived front + Channel.framesPerPump * reception.parsing front back)
    (htaken : taken = min (Channel.framesPerPump * parses)
      (reception.arrived (arrivals ++ [a]) - limit))
    (hlimit : limit ≤ reception.arrived (arrivals ++ [a])) (m : ℕ) :
    m ≤ limit + taken ↔ ∀ front back, arrivals ++ [a] = front ++ back →
      m ≤ reception.arrived front + Channel.framesPerPump * reception.parsing front back := by
  constructor
  · intro hm front back heq
    rcases List.eq_nil_or_concat back with rfl | ⟨back, last, rfl⟩
    · rw [List.append_nil] at heq
      rw [← heq]
      omega
    · have heq : arrivals ++ [a] = (front ++ back) ++ [last] := by simpa using heq
      obtain ⟨rfl, hlast⟩ := List.append_inj' heq rfl
      obtain rfl := List.singleton_inj.mp hlast
      have hless := (hcount (m - Channel.framesPerPump * parses)).mp (by omega) front back rfl
      rw [List.concat_eq_append, parsing_snoc, hparses, Nat.mul_add]
      omega
  · intro hall
    have hlast := hall (arrivals ++ [a]) [] (by simp)
    have hless := (hcount (m - Channel.framesPerPump * parses)).mpr fun front back heq ↦ by
      have hm := hall front (back ++ [a]) (by rw [heq, List.append_assoc])
      rw [parsing_snoc, ← heq, hparses, Nat.mul_add] at hm
      omega
    have hnone : reception.parsing (arrivals ++ [a]) [] = 0 := rfl
    rw [hnone] at hlast
    omega

/-- A pump that does not meet the end returns what has arrived, up to its bound, unless a send or
a receive raises. -/
theorem Returns.snoc {arrivals : List Arrival} {done pending : List Frame}
    (h : reception.Returns arrivals done pending) (a : Arrival)
    (hbefore : meetsEnd ((reception.after arrivals).pump codec a).1 = false) :
    ∃ done pending, reception.Returns (arrivals ++ [a]) done pending := by
  have hvalid : ∀ f ∈ pending, f.WellFormed codec reception.binary := fun f hf ↦
    reception.wellFormed f (h.split ▸ List.mem_append_right done hf)
  -- The frames that have arrived whole are those returned before and those in the buffer.
  have harrived : reception.arrived (arrivals ++ [a]) = done.length +
      (frameFraming codec reception.binary).completed pending
        ((reception.after arrivals).channel.incoming.length +
          ((reception.after arrivals).brought a).length) := by
    unfold arrived
    rw [reception.brought_snoc, h.brought, Nat.add_assoc, ← Framing.completed_append, ← h.split]
  rcases pump_cases h.binary hvalid h.stream a with
    ⟨hraises, houtput, hbinary, hincoming⟩ | ⟨hraises, hpump⟩
  · have hbrought : (reception.after arrivals).brought a = [] := if_pos hraises
    have hunread : ((reception.after arrivals).pump codec a).2.unread =
        (reception.after arrivals).unread := by
      change (reception.after arrivals).unread.drop _ = _
      rw [hbrought]
      rfl
    refine ⟨done, pending, h.split, ?_, ?_, ?_, ?_, ?_, ?_⟩
    · rw [reception.after_snoc]
      exact hbinary
    · rw [reception.after_snoc, hincoming, hunread]
      exact h.stream
    · rw [reception.brought_snoc, reception.after_snoc, hbrought, hincoming]
      exact h.brought
    · rw [reception.trace_snoc, List.forall_mem_append]
      exact ⟨h.outputs, List.forall_mem_singleton.mpr (.inl ⟨hraises, houtput⟩)⟩
    · obtain ⟨text, houtput⟩ := houtput
      rw [Transport.returned, reception.trace_snoc, List.flatMap_append]
      change _ ++ (messages ((reception.after arrivals).pump codec a).1 ++ []) = _
      rw [houtput]
      exact (List.append_nil _).trans h.returned
    · exact reception.count_snoc 0 0 (if_pos hraises) h.count (by omega) (by omega)
  rcases hpump with hend | ⟨taken, later, hpending, houtput, hbinary, hstream, htaken⟩
  · exact absurd (hend.symm.trans hbefore) (by decide)
  refine ⟨done ++ taken, later, ?_, ?_, ?_, ?_, ?_, ?_, ?_⟩
  · rw [h.split, hpending, List.append_assoc]
  · rw [reception.after_snoc]
    exact hbinary
  · rw [reception.after_snoc]
    exact hstream
  · have hbefore := congrArg List.length h.stream
    have hafter := congrArg List.length hstream
    have hsent := congrArg List.length ((reception.after arrivals).brought_append a)
    rw [hpending, Framing.stream_append, List.length_append, List.length_append] at hbefore
    rw [List.length_append] at hafter hsent
    change _ + ((reception.after arrivals).unread.drop _).length = _ at hafter
    rw [reception.brought_snoc, h.brought, reception.after_snoc, Framing.stream_append,
      List.length_append]
    omega
  · rw [reception.trace_snoc, List.forall_mem_append]
    exact ⟨h.outputs, List.forall_mem_singleton.mpr (.inr ⟨hraises, _, houtput⟩)⟩
  · rw [Transport.returned, reception.trace_snoc, List.flatMap_append, List.map_append]
    congr 1
    · exact h.returned
    · change messages ((reception.after arrivals).pump codec a).1 ++ [] = _
      rw [houtput, List.append_nil]
      rfl
  · rw [List.length_append]
    exact reception.count_snoc taken.length 1 (if_neg hraises) h.count (by omega) (by omega)

/-- What pumps return that do not meet the end. -/
theorem returns {arrivals : List Arrival} (h : ∀ e ∈ (receiver codec).trace
    (.start reception.binary reception.outgoing reception.frames) arrivals,
      meetsEnd e.output = false) : ∃ done pending, reception.Returns arrivals done pending := by
  induction arrivals using List.reverseRecOn with
  | nil => exact ⟨[], reception.frames, reception.returns_nil⟩
  | append_singleton arrivals a ih =>
    rw [Mealy.trace_append, List.forall_mem_append] at h
    obtain ⟨done, pending, hreturns⟩ := ih h.1
    exact hreturns.snoc reception a (h.2 _ (List.mem_singleton_self _))

/-- The pumps before the end return messages in the order of the frames, unless a send or a receive
raises, and they return all of them exactly when they keep up with what arrives. -/
theorem returned_iff_keepsUp :
    (∀ e ∈ (receiver codec).trace
      (.start reception.binary reception.outgoing reception.frames) reception.arrivals,
        Answers e) ∧
      reception.returned <+: reception.frames.map Frame.message ∧
      (reception.returned = reception.frames.map Frame.message ↔ reception.KeepsUp) := by
  obtain ⟨done, pending, h⟩ := reception.returns reception.before
  have hreturned : reception.returned = done.map Frame.message := h.returned
  refine ⟨h.outputs, ?_, ?_⟩
  · rw [hreturned, h.split, List.map_append]
    exact List.prefix_append _ _
  · unfold KeepsUp
    rw [← h.count reception.frames.length, hreturned, h.split, List.map_append, List.length_append]
    constructor
    · intro heq
      have hlength := congrArg List.length heq
      simp only [List.length_append, List.length_map] at hlength
      omega
    · intro hle
      have hnil : pending = [] := List.length_eq_zero_iff.mp (by omega)
      rw [hnil, List.map_nil, List.append_nil]

end Reception

/-- A frame with one field. -/
def testFrame : Frame := ⟨frameBytes testText [], ⟨[("a", .int 1), ("version", .int 2)], none⟩⟩

/-- One receive brings more frames than a pump parses, and the next pump meets the end. -/
def lateEnd : Reception testCodec where
  binary := false
  outgoing := []
  frames := List.replicate 17 testFrame
  wellFormed := by
    intro f hf
    rw [List.eq_of_mem_replicate hf]
    rfl
  arrivals := [⟨.blocked, 65536, none⟩]
  last := ⟨.blocked, 1, none⟩
  before := by decide +kernel
  ended := by decide +kernel

/-- The last frame is lost. -/
theorem returned_lateEnd : lateEnd.returned ≠ lateEnd.frames.map Frame.message := by
  have hlost : lateEnd.returned.length ≠ lateEnd.frames.length := by decide +kernel
  intro heq
  apply hlost
  rw [heq, List.length_map]

end RobotHarness.Transport
