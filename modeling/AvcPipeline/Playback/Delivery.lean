import AvcPipeline.DecodeUnit.Grouping
import AvcPipeline.Nal.ByteStream

/-!
# What a stream delivers

The units of a stream are grouped into pictures. A unit without a readable header is delivered as
such, with its place in the stream, and leaves the picture being collected as it is.
-/

namespace AvcPipeline.Playback

inductive Delivery where
  | picture (unit : DecodeUnit)
  | unreadable (index : Nat) (cause : Nal.Error)
  deriving DecidableEq, Repr

/-- What the units from `index` on deliver after those already collected. -/
def deliveriesFrom (g : Grouper) (index : Nat) : List Bytes → List Delivery
  | [] => g.flush.1.toList.map .picture
  | unit :: rest =>
    match g.push unit with
    | .error e => .unreadable index e :: deliveriesFrom g (index + 1) rest
    | .ok (completed, g) =>
      completed.toList.map .picture ++ deliveriesFrom g (index + 1) rest

def deliveries (stream : Bytes) : List Delivery :=
  deliveriesFrom .empty 0 (Nal.units stream)

def Delivery.picture? : Delivery → Option DecodeUnit
  | .picture unit => some unit
  | .unreadable _ _ => none

def pictures (stream : Bytes) : List DecodeUnit :=
  (deliveries stream).filterMap Delivery.picture?

end AvcPipeline.Playback
