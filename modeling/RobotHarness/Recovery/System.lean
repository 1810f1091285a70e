import Mathlib.Logic.Function.Basic
import RobotHarness.Recovery.Conservation
import RobotHarness.Recovery.Delivery

/-!
# Owner and clients together

One owner, and the channels that a launcher provisions for it. Each channel has one end for the
owner and one for a client of its own; a message that is sent joins the queue of its direction and
is received in that order, unless the channel is cut. The calls of the two sides interleave freely.
-/

namespace RobotHarness.Recovery

/-- A channel: the session of the owner that its one end is attached in, the client that its other
end belongs to, and the messages under way in both directions, oldest first. -/
structure Link where
  session : Option UInt64 := none
  client : Option Client := none
  toOwner : List Message := []
  toClient : List Message := []

/-- What a receive meets: the next message of its queue, nothing as yet, or the end of a channel that
was cut. -/
inductive Arrival where
  | delivered | delayed | cut

/-- The answer of `recv` on a queue. -/
def Arrival.answer : Arrival → List Message → ReceiveAnswer
  | .delivered, message :: _ => .received messageBytes magic message
  | .delivered, [] => .failed true
  | .delayed, _ => .failed true
  | .cut, _ => .received 0 0 {}

/-- The message that the owner sends. -/
def OwnerEvent.sentMessage : OwnerEvent → Option Message
  | .sent _ message => some message
  | _ => none

/-- The message that the owner receives. -/
def OwnerEvent.receivedMessage : OwnerEvent → Option Message
  | .received _ _ message => some message
  | _ => none

/-- The message that the client sends. -/
def ClientEvent.sentMessage : ClientEvent → Option Message
  | .sent message => some message
  | _ => none

/-- The message that the client receives. -/
def ClientEvent.receivedMessage : ClientEvent → Option Message
  | .received message => some message
  | _ => none

/-- The channel after its owner went on by some events. -/
def Link.served (link : Link) (news : List OwnerEvent) : Link :=
  { link with
    toOwner := link.toOwner.drop (news.filterMap OwnerEvent.receivedMessage).length
    toClient := link.toClient ++ news.filterMap OwnerEvent.sentMessage }

/-- The channel after its client went on by some events. -/
def Link.used (link : Link) (client : Client) (news : List ClientEvent) : Link :=
  { link with
    client := some client
    toOwner := link.toOwner ++ news.filterMap ClientEvent.sentMessage
    toClient := link.toClient.drop (news.filterMap ClientEvent.receivedMessage).length }

/-- Owner and channels, and the channel that was attached last. -/
structure System where
  owner : Owner
  links : ℕ → Link := fun _ ↦ {}
  attached : Option ℕ := none

/-- A call on one of the two sides. -/
inductive SystemInput where
  | openClient (link : ℕ) (now : MonotonicTime)
  | attach (link : ℕ) (now : UInt64) (answer : AttachAnswer)
  | pollOwner (now : UInt64) (answer : OwnerAnswer) (arrival : Arrival)
  | pollClient (link : ℕ) (now : MonotonicTime) (send : SendAnswer) (arrival : Arrival)
  | recover (link : ℕ) (now : MonotonicTime)
  | submit (link : ℕ) (iterations : UInt64) (now : MonotonicTime)
  | close (link : ℕ)

namespace System

/-- The messages that wait for the owner in the channel it was attached to last. -/
def inbox (s : System) : List Message :=
  match s.attached with
  | none => []
  | some link => (s.links link).toOwner

/-- A client is constructed on a channel that has none. -/
def openClient (s : System) (link : ℕ) (now : MonotonicTime) : System :=
  match (s.links link).client with
  | some _ => s
  | none =>
    { s with
      links := Function.update s.links link { s.links link with client := some (.create now) } }

/-- The owner is given its end of a channel that it was not attached to. -/
def attach (s : System) (link : ℕ) (now : UInt64) (answer : AttachAnswer) : Bool × System :=
  match (s.links link).session with
  | some _ => (false, s)
  | none =>
    match s.owner.attach now answer with
    | (false, o) => (false, { s with owner := o })
    | (true, o) =>
      (true,
        { s with
          owner := o
          links := Function.update s.links link { s.links link with session := some o.epoch }
          attached := some link })

/-- The owner polls. -/
def pollOwner (s : System) (now : UInt64) (answer : OwnerAnswer) (arrival : Arrival) : System :=
  let o := s.owner.poll now { answer with receive := arrival.answer s.inbox }
  match s.attached with
  | none => { s with owner := o }
  | some link =>
    { s with
      owner := o
      links := Function.update s.links link
        ((s.links link).served (o.log.drop s.owner.log.length)) }

/-- The client of a channel, if there is one, is called. -/
def call (s : System) (link : ℕ) (input : ClientInput) : Bool × System :=
  match (s.links link).client with
  | none => (false, s)
  | some c =>
    let (answer, c') := c.step input
    (answer,
      { s with
        links := Function.update s.links link
          ((s.links link).used c' (c'.log.drop c.log.length)) })

/-- One call. -/
def step (s : System) : SystemInput → Bool × System
  | .openClient link now => (false, s.openClient link now)
  | .attach link now answer => s.attach link now answer
  | .pollOwner now answer arrival => (false, s.pollOwner now answer arrival)
  | .pollClient link now send arrival =>
    s.call link (.poll now ⟨send, arrival.answer (s.links link).toClient⟩)
  | .recover link now => s.call link (.recover now)
  | .submit link iterations now => s.call link (.submit iterations now)
  | .close link => s.call link .close

end System

/-- Owner and clients as one machine. -/
def recoverySystem : Mealy System SystemInput Bool := ⟨System.step⟩

end RobotHarness.Recovery
