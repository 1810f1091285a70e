import Mathlib.Data.List.Nodup
import Mathlib.Tactic.Common
import RobotHarness.Transport.Channel

/-!
# The frames of a channel

A frame is told from its front: its length prefix gives the length of the JSON text, and the text
gives the length of the payload.
-/

namespace RobotHarness.Transport

/-- The keys that a channel adds to a message. -/
def reservedKeys : List String := ["version", "_payload_size", "_payload"]

/-- A JSON object that uses no reserved key. -/
structure Sendable (message : Dict) : Prop where
  nodup : (message.map Prod.fst).Nodup
  unreserved : ∀ key ∈ reservedKeys, key ∉ message.map Prod.fst

/-- What the receiver of a message gets: its fields with the version, and its payload. -/
def delivered (message : Dict) (payload : List UInt8) : Message :=
  ⟨message ++ [("version", .int version)], if payload = [] then none else some payload⟩

/-- A message that was queued, with the text that it was written as. -/
structure Entry where
  message : Dict
  payload : List UInt8
  data : List UInt8

/-! ### Length prefixes -/

/-- A length prefix is four bytes. -/
@[simp] theorem length_pack (n : ℕ) : (pack n).length = 4 := rfl

/-- A length below `2 ^ 32` is read as it was written. -/
theorem unpack_pack {n : ℕ} (h : n < 2 ^ 32) : unpack (pack n) = n := by
  simp only [unpack, pack, List.foldl_cons, List.foldl_nil, UInt8.toNat_ofNat']
  omega

/-- A frame is as long as its header, its data and its payload. -/
@[simp] theorem length_frameBytes (data payload : List UInt8) :
    (frameBytes data payload).length = 4 + data.length + payload.length := by
  rw [frameBytes, List.length_append, List.length_append, length_pack]

/-! ### Envelopes -/

section Envelope

variable {message : Dict} {payload : List UInt8}

/-- The envelope of a sendable message ends with the version and the size of the payload. -/
theorem Sendable.envelope_eq (h : Sendable message) :
    envelope message payload =
      message ++ [("version", .int version), ("_payload_size", .int payload.length)] := by
  have hversion := h.unreserved "version" (by simp [reservedKeys])
  have hsize := h.unreserved "_payload_size" (by simp [reservedKeys])
  have hkeys : "_payload_size" ∉ (message ++ [("version", Json.int version)]).map Prod.fst := by
    simpa using hsize
  rw [envelope, Dict.set, Dict.set, if_neg hversion, if_neg hkeys, List.append_assoc]
  rfl

/-- Its keys are distinct. -/
theorem Sendable.nodup_envelope (h : Sendable message) :
    ((envelope message payload).map Prod.fst).Nodup := by
  have hversion := h.unreserved "version" (by simp [reservedKeys])
  have hsize := h.unreserved "_payload_size" (by simp [reservedKeys])
  rw [h.envelope_eq, List.map_append]
  refine h.nodup.append (by simp) ?_
  intro key hkey hadded
  simp only [List.map_cons, List.map_nil, List.mem_cons, List.not_mem_nil, or_false] at hadded
  rcases hadded with rfl | rfl
  · exact hversion hkey
  · exact hsize hkey

private theorem find_append_of_notMem {d later : Dict} {key : String}
    (h : key ∉ d.map Prod.fst) :
    (d ++ later).find? (fun entry ↦ entry.1 = key) =
      later.find? fun entry ↦ entry.1 = key := by
  rw [List.find?_append]
  have hnone : d.find? (fun entry ↦ entry.1 = key) = none := by
    rw [List.find?_eq_none]
    intro entry hentry hkey
    exact h (List.mem_map.mpr ⟨entry, hentry, by simpa using hkey⟩)
  rw [hnone, Option.none_or]

private theorem erase_of_notMem {d : Dict} {key : String} (h : key ∉ d.map Prod.fst) :
    Dict.erase d key = d := by
  rw [Dict.erase, List.filter_eq_self]
  intro entry hentry
  simp only [ne_eq, decide_not, Bool.not_eq_eq_eq_not, Bool.not_true, decide_eq_false_iff_not]
  rintro rfl
  exact h (List.mem_map_of_mem hentry)

/-- The parser finds the version of an envelope. -/
theorem Sendable.get_version (h : Sendable message) :
    Dict.get? (envelope message payload) "version" = some (.int version) := by
  rw [h.envelope_eq, Dict.get?,
    find_append_of_notMem (h.unreserved "version" (by simp [reservedKeys]))]
  rfl

/-- The parser finds the size of the payload. -/
theorem Sendable.get_payloadSize (h : Sendable message) :
    Dict.get? (envelope message payload) "_payload_size" = some (.int payload.length) := by
  rw [h.envelope_eq, Dict.get?,
    find_append_of_notMem (h.unreserved "_payload_size" (by simp [reservedKeys]))]
  rfl

/-- Without the size the envelope is the message with its version. -/
theorem Sendable.erase_payloadSize (h : Sendable message) :
    Dict.erase (envelope message payload) "_payload_size" =
      message ++ [("version", .int version)] := by
  have hsize := erase_of_notMem (h.unreserved "_payload_size" (by simp [reservedKeys]))
  rw [h.envelope_eq, Dict.erase, List.filter_append]
  exact congrArg (· ++ _) hsize

/-- A message with its version has no payload key. -/
theorem Sendable.erase_payload (h : Sendable message) :
    Dict.erase (message ++ [("version", .int version)]) "_payload" =
      message ++ [("version", .int version)] := by
  apply erase_of_notMem
  simpa using h.unreserved "_payload" (by simp [reservedKeys])

end Envelope

/-! ### Parsing -/

section Parsing

variable {codec : JsonCodec} {binary : Bool} {message : Dict} {payload data : List UInt8}

/-- The parser on a buffer that the stream continues to a whole frame. -/
theorem parseFrame_eq (hcodec : codec.Inverts) (hmessage : Sendable message)
    (hpayload : payload.length ≤ payloadLimit binary)
    (hdumps : codec.dumps (envelope message payload) = some data)
    (hdata : data.length ≤ maxFrame) {buffer rest later : List UInt8}
    (h : buffer ++ rest = frameBytes data payload ++ later) :
    parseFrame codec binary buffer =
      if buffer.length < 4 + data.length + payload.length then .incomplete
      else .frame (delivered message payload) (4 + data.length + payload.length) := by
  have hloads := hcodec.loads_dumps _ data hmessage.nodup_envelope hdumps
  have hpositive : data.length ≠ 0 := by
    intro hzero
    rw [List.length_eq_zero_iff.mp hzero, hcodec.loads_nil] at hloads
    cases hloads
  have hlength : data.length < 2 ^ 32 := Nat.lt_of_le_of_lt hdata (by decide)
  unfold parseFrame
  by_cases hshort : buffer.length < 4
  · rw [if_pos hshort, if_pos (by omega)]
  rw [if_neg hshort]
  have hfront : buffer.take 4 = pack data.length := by
    have htake := congrArg (List.take 4) h
    rw [List.take_append_of_le_length (by omega), frameBytes, List.append_assoc,
      List.append_assoc, List.take_left' (length_pack _)] at htake
    exact htake
  simp only [hfront, unpack_pack hlength]
  rw [if_neg (by omega)]
  by_cases htext : buffer.length < data.length + 4
  · rw [if_pos htext, if_pos (by omega)]
  rw [if_neg htext]
  have hbody : (buffer.drop 4).take data.length = data := by
    have hdrop := congrArg (fun bytes ↦ (bytes.drop 4).take data.length) h
    simp only [frameBytes, List.append_assoc] at hdrop
    rw [List.drop_append_of_le_length (by omega), List.take_append_of_le_length
      (by rw [List.length_drop]; omega), List.drop_left' (length_pack _),
      List.take_left' rfl] at hdrop
    exact hdrop
  simp only [hbody, hloads, hmessage.get_version, hmessage.get_payloadSize, Option.getD_some]
  rw [if_neg (by simp), if_neg (by simpa using hpayload)]
  simp only [Int.toNat_natCast, hmessage.erase_payloadSize]
  by_cases hframe : buffer.length < 4 + data.length + payload.length
  · rw [if_pos hframe, if_pos (by omega)]
  rw [if_neg hframe, if_neg (by omega), Nat.add_comm data.length 4]
  have hrest : (buffer.drop (4 + data.length)).take payload.length = payload := by
    have hdrop := congrArg (fun bytes ↦ (bytes.drop (4 + data.length)).take payload.length) h
    simp only [frameBytes, List.append_assoc] at hdrop
    rw [List.drop_append_of_le_length (by omega), List.take_append_of_le_length
      (by rw [List.length_drop]; omega), ← List.append_assoc,
      List.drop_left' (by rw [List.length_append, length_pack]), List.take_left' rfl] at hdrop
    exact hdrop
  simp only [hrest, hmessage.erase_payload, delivered]
  by_cases hempty : payload = []
  · subst hempty
    rfl
  · rw [if_pos (by simpa using hempty), if_neg hempty]

/-- The frames that a channel may queue for a reader in this mode, as a self-delimiting
encoding. -/
def channelFraming (codec : JsonCodec) (hcodec : codec.Inverts) (binary : Bool) :
    Framing Entry UInt8 Message ChannelError where
  valid e := Sendable e.message ∧ e.payload.length ≤ payloadLimit binary ∧
    codec.dumps (envelope e.message e.payload) = some e.data ∧ e.data.length ≤ maxFrame
  encode e := frameBytes e.data e.payload
  decoded e := delivered e.message e.payload
  look := parseFrame codec binary
  look_nil := by
    unfold parseFrame
    rw [if_pos (by simp)]
  look_encode := by
    rintro e rest ⟨hmessage, hpayload, hdumps, hdata⟩
    rw [parseFrame_eq hcodec hmessage hpayload hdumps hdata (List.append_nil _),
      length_frameBytes, if_neg]
    rw [List.length_append, length_frameBytes]
    omega
  look_partial := by
    rintro e buffer rest ⟨hmessage, hpayload, hdumps, hdata⟩ hrest h
    rw [parseFrame_eq hcodec hmessage hpayload hdumps hdata
      (h.trans (List.append_nil _).symm), if_pos]
    have hlength := congrArg List.length h
    have hpositive := List.length_pos_iff.mpr hrest
    rw [List.length_append, length_frameBytes] at hlength
    omega

end Parsing

end RobotHarness.Transport
