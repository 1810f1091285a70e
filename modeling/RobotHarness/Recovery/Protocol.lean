import RobotHarness.Compute.Protocol

/-!
# The messages of recovery

`src/compute/recovery_protocol.hpp`: the one frame that owner and client exchange over a channel
that keeps message boundaries.
-/

namespace RobotHarness.Recovery

/-- `kMaximumIterations`. -/
def maximumIterations : UInt64 := 100000000

/-- `kEvidenceLifetimeMs`. -/
def evidenceLifetimeMs : UInt64 := 1000

/-- `kMagic`. -/
def magic : UInt32 := 0x52485231

/-- `Kind`, with the values that no kind has. -/
inductive Kind where
  | hello | query | snapshot | activate | activated | submit | accepted | result
  | unknown (value : UInt32)
  deriving DecidableEq, Repr

/-- `kClear`. -/
def clearFlag : UInt64 := 1

/-- `kSucceeded`. -/
def succeeded : UInt64 := 1

/-- `kFailed`. -/
def failed : UInt64 := 2

/-- `kCancelled`. -/
def cancelled : UInt64 := 3

/-- `kNotLaunched`. -/
def notLaunched : UInt64 := 4

/-- `Message`, without its magic number. -/
structure Message where
  kind : Kind := .hello
  session : UInt64 := 0
  request : UInt64 := 0
  operation : UInt64 := 0
  amount : UInt64 := 0
  value : UInt64 := 0
  flags : UInt64 := 0
  deriving DecidableEq, Repr

/-- `sizeof(Message)`. -/
def messageBytes : ℕ := 56

/-- How a transfer ends. -/
inductive Io where
  | done | again | closed
  deriving DecidableEq, Repr

/-- What `send` returns: a number of bytes, or an error that may be one to retry. -/
inductive SendAnswer where
  | sent (count : ℕ)
  | failed (retry : Bool)

/-- `send_message`. -/
def sendMessage : SendAnswer → Io
  | .sent count => if count = messageBytes then .done else .closed
  | .failed retry => if retry then .again else .closed

/-- What `recv` returns: the length of the next datagram, its magic number and what it holds, or
an error that may be one to retry. The end of the stream is a datagram without bytes. -/
inductive ReceiveAnswer where
  | received (count : ℕ) (magic : UInt32) (message : Message)
  | failed (retry : Bool)

/-- `receive_message`, with the message of a datagram that is accepted. -/
def receiveMessage : ReceiveAnswer → Io × Message
  | .failed retry => (if retry then .again else .closed, {})
  | .received count magic message =>
    (if count = messageBytes ∧ magic = Recovery.magic then .done else .closed, message)

end RobotHarness.Recovery
