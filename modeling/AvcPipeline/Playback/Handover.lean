import AvcPipeline.Device.Raced
import AvcPipeline.Device.Simulated
import AvcPipeline.Playback.Basic

/-!
# Two sides of a strict playback

One side reads the units of the stream and puts what they deliver into a queue of bounded length.
The other side takes it out in order and submits the pictures. The sides take their steps in any
order. The first ends after a unit that cannot be read, at the end of the stream, or when it finds
that the other side is gone; the second ends at a unit that could not be read, at a picture that is
refused, or when nothing more can come.
-/

namespace AvcPipeline.Playback

/-- The side that reads: the units that are left, after `index` others. -/
structure Sender where
  grouper : Grouper := .empty
  index : Nat := 0
  units : List Bytes

/-- What the next step puts into the queue, and what is left to do after it. -/
def Sender.next (sender : Sender) : Option Delivery × Option Sender :=
  match sender.units with
  | [] => (sender.grouper.flush.1.map .picture, none)
  | unit :: rest =>
    match sender.grouper.push unit with
    | .error e => (some (.unreadable sender.index e), none)
    | .ok (completed, grouper) =>
      (completed.map .picture, some { grouper, index := sender.index + 1, units := rest })

inductive Receiver where
  | receiving (s : Session)
  | ended (stopped : Option Failure) (s : Session)

def receive (s : Session) : Delivery → Action Receiver
  | .unreadable index e => return .ended (some (.unreadable index e)) s
  | .picture unit => do
    let (status, s) ← s.submit unit
    if status = .needKeyframe then return .ended (some (.keyframeRequested unit.frameNumber)) s
    return .receiving s

structure Handover where
  /-- Nothing once the side has ended. -/
  sender : Option Sender
  queue : List Delivery := []
  receiver : Receiver
  calls : List (Program.Event Call Call.Reply) := []
  device : Raced Device

namespace Handover

def start (stream : Bytes) (s : Session) (x : Raced Device) : Handover where
  sender := some { units := Nal.units stream }
  receiver := .receiving s
  device := x

/-- The submitting side takes this delivery, and leaves the others in the queue. -/
def taking (h : Handover) (s : Session) (delivery : Delivery) (rest : List Delivery) : Handover :=
  let ((receiver, calls), device) :=
    (receive s delivery).trace (Raced.interpreter Device.simulated) h.device
  { h with queue := rest, receiver, calls := h.calls ++ calls, device }

/-- One side takes a step, with a queue of this length. -/
inductive Step (depth : Nat) : Handover → Handover → Prop
  | send {h : Handover} {sender : Sender} {s : Session} (hsender : h.sender = some sender)
      (hreceiver : h.receiver = .receiving s)
      (hroom : sender.next.1.isSome → h.queue.length < depth) :
    Step depth h { h with sender := sender.next.2, queue := h.queue ++ sender.next.1.toList }
  /-- Nobody takes what would be put into the queue, and that ends the side that reads. -/
  | hangUp {h : Handover} {sender : Sender} {stopped : Option Failure} {s : Session}
      (hsender : h.sender = some sender) (hreceiver : h.receiver = .ended stopped s) :
    Step depth h { h with sender := if sender.next.1.isSome then none else sender.next.2 }
  | take {h : Handover} {s : Session} {delivery : Delivery} {rest : List Delivery}
      (hreceiver : h.receiver = .receiving s) (hqueue : h.queue = delivery :: rest) :
    Step depth h (h.taking s delivery rest)
  | finish {h : Handover} {s : Session} (hsender : h.sender = none) (hqueue : h.queue = [])
      (hreceiver : h.receiver = .receiving s) :
    Step depth h { h with receiver := .ended none s }

end Handover
end AvcPipeline.Playback
