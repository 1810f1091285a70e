import Mathlib.Algebra.Group.Nat.Defs
import RobotHarness.Base.Framing

/-!
# Channels between Python processes

`Channel` of `bindings/python/robot_harness/_transport.py`. The `json` module is a parameter,
and so are the answers of the socket. A method that raises leaves the state it has reached.
-/

namespace RobotHarness.Transport

/-- What `json` reads and writes. -/
inductive Json where
  | null
  | bool (value : Bool)
  | int (value : ℤ)
  | float (bits : UInt64)
  | string (value : String)
  | array (values : List Json)
  | object (fields : List (String × Json))

/-- A dictionary in the order of its insertions. -/
abbrev Dict := List (String × Json)

namespace Dict

/-- The assignment of a key, in place when the key is there. -/
def set (d : Dict) (key : String) (value : Json) : Dict :=
  if key ∈ d.map Prod.fst then d.map fun entry ↦ if entry.1 = key then (key, value) else entry
  else d ++ [(key, value)]

/-- `get` of a dictionary, without its default. -/
def get? (d : Dict) (key : String) : Option Json :=
  (d.find? fun entry ↦ entry.1 = key).map Prod.snd

/-- The dictionary that `pop` leaves. -/
def erase (d : Dict) (key : String) : Dict := d.filter fun entry ↦ entry.1 ≠ key

end Dict

/-- The functions of `json` that a channel uses, `none` where they raise. -/
structure JsonCodec where
  /-- `json.dumps` without spaces and non-finite numbers, encoded. -/
  dumps : Dict → Option (List UInt8)
  /-- `json.loads` with `_reject_constant`. -/
  loads : List UInt8 → Option Json

/-- `loads` inverts `dumps` on objects, and an empty text is none. -/
structure JsonCodec.Inverts (codec : JsonCodec) : Prop where
  loads_dumps : ∀ (d : Dict) (data : List UInt8), (d.map Prod.fst).Nodup →
    codec.dumps d = some data → codec.loads data = some (.object d)
  loads_nil : codec.loads [] = none

/-- `MAX_FRAME`. -/
def maxFrame : ℕ := 65536

/-- `MAX_BUFFER`. -/
def maxBuffer : ℕ := 2 * (maxFrame + 4)

/-- `MAX_PAYLOAD`. -/
def maxPayload : ℕ := 640 * 480 * 3

/-- `VERSION`. -/
def version : ℤ := 2

/-- What the methods raise. -/
inductive ChannelError where
  | bufferError (text : String)
  | valueError (text : String)
  | eofError (text : String)
  | osError (text : String)
  | json
  deriving DecidableEq, Repr

/-- A message that `pump` returns, with its `_payload`. -/
structure Message where
  fields : Dict
  payload : Option (List UInt8)

/-- What `send` does: it takes some of the bytes, would block, or raises an `OSError`, as when the
peer has closed its end. -/
inductive SendAnswer where
  | taken (count : ℕ)
  | blocked
  | failed (text : String)

/-- What `recv` does: it brings bytes, none when the peer has closed its end, would block, or raises
an `OSError`. -/
inductive ReceiveAnswer where
  | data (bytes : List UInt8)
  | blocked
  | failed (text : String)

/-- `Channel`. -/
structure Channel where
  binary : Bool
  incoming : List UInt8 := []
  outgoing : List UInt8 := []
  deriving DecidableEq, Repr

/-- `struct.pack('!I', n)`. -/
def pack (n : ℕ) : List UInt8 :=
  [.ofNat (n / 2 ^ 24), .ofNat (n / 2 ^ 16), .ofNat (n / 2 ^ 8), .ofNat n]

/-- `struct.unpack('!I', bytes)[0]`. -/
def unpack (bytes : List UInt8) : ℕ := bytes.foldl (fun n byte ↦ n * 256 + byte.toNat) 0

/-- The largest payload in a mode. -/
def payloadLimit (binary : Bool) : ℕ := if binary then maxPayload else 0

/-- The dictionary that `queue` writes. -/
def envelope (message : Dict) (payload : List UInt8) : Dict :=
  (message.set "version" (.int version)).set "_payload_size" (.int payload.length)

/-- The bytes of a frame. -/
def frameBytes (data payload : List UInt8) : List UInt8 := pack data.length ++ data ++ payload

/-- One pass of the loop of `pump` that parses frames. -/
def parseFrame (codec : JsonCodec) (binary : Bool) (buffer : List UInt8) :
    Look Message ChannelError :=
  if buffer.length < 4 then .incomplete
  else
    let size := unpack (buffer.take 4)
    if size = 0 ∨ maxFrame < size then .invalid (.valueError "invalid frame length")
    else if buffer.length < size + 4 then .incomplete
    else
      match codec.loads ((buffer.drop 4).take size) with
      | none => .invalid .json
      | some (.object message) =>
        match Dict.get? message "version" with
        | some (.int number) =>
          if number ≠ version then .invalid (.valueError "unsupported message version")
          else
            -- `integer` on the popped size, which is 0 where the key is absent.
            match (Dict.get? message "_payload_size").getD (.int 0) with
            | .int payloadSize =>
              if ¬ (0 ≤ payloadSize ∧ payloadSize ≤ payloadLimit binary) then
                .invalid (.valueError "invalid payload size")
              else
                let «end» := size + 4 + payloadSize.toNat
                let message := Dict.erase message "_payload_size"
                if buffer.length < «end» then .incomplete
                else if payloadSize ≠ 0 then
                  .frame ⟨Dict.erase message "_payload",
                    some ((buffer.drop (size + 4)).take payloadSize.toNat)⟩ «end»
                else .frame ⟨message, none⟩ «end»
            | _ => .invalid (.valueError "invalid payload size")
        | _ => .invalid (.valueError "unsupported message version")
      | some _ => .invalid (.valueError "unsupported message version")

namespace Channel

/-- The limit of both buffers. -/
def limit (channel : Channel) : ℕ := maxBuffer + payloadLimit channel.binary

/-- `Channel.queue`. -/
def queue (codec : JsonCodec) (channel : Channel) (message : Dict) (payload : List UInt8) :
    Except ChannelError Channel :=
  if payloadLimit channel.binary < payload.length then
    .error (.bufferError "invalid binary payload")
  else
    match codec.dumps (envelope message payload) with
    | none => .error .json
    | some data =>
      if maxFrame < data.length ∨
          channel.limit < channel.outgoing.length + data.length + 4 + payload.length then
        .error (.bufferError "channel capacity exceeded")
      else .ok { channel with outgoing := channel.outgoing ++ frameBytes data payload }

/-- The part of `pump` that sends. -/
def flush (channel : Channel) (sent : SendAnswer) : Except ChannelError Channel :=
  if channel.outgoing = [] then .ok channel
  else
    match sent with
    | .taken count => .ok { channel with outgoing := channel.outgoing.drop count }
    | .blocked => .ok channel
    | .failed text => .error (.osError text)

/-- The part of `pump` that receives, unless the buffer is full. -/
def fill (channel : Channel) (received : ReceiveAnswer) : Except ChannelError Channel :=
  if channel.incoming.length < channel.limit then
    match received with
    | .data [] => .error (.eofError "peer disconnected")
    | .data data => .ok { channel with incoming := channel.incoming ++ data }
    | .blocked => .ok channel
    | .failed text => .error (.osError text)
  else .ok channel

/-- The number of frames that one `pump` parses at most. -/
def framesPerPump : ℕ := 16

/-- `Channel.pump`, with the answers of `send` and `recv`: the messages it returns or what it
raises, and the channel after it. -/
def pump (codec : JsonCodec) (channel : Channel) (sent : SendAnswer) (received : ReceiveAnswer) :
    Except ChannelError (List Message) × Channel :=
  match channel.flush sent with
  | .error error => (.error error, channel)
  | .ok channel =>
    match channel.fill received with
    | .error error => (.error error, channel)
    | .ok channel =>
      let (messages, error, rest) :=
        readFrames (parseFrame codec channel.binary) framesPerPump channel.incoming
      let channel := { channel with incoming := rest }
      match error with
      | some error => (.error error, channel)
      | none => (.ok messages, channel)

end Channel

end RobotHarness.Transport
