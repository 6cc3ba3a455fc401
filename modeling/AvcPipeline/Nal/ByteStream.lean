import AvcPipeline.Nal.Header

/-!
# The units of a byte stream

A byte stream is cut before every occurrence of `00 00 01`. A zero byte directly before it belongs
to the start code, which then has four bytes. What stands before the first start code is skipped.

A `Cursor` reads the stream unit by unit. It stands before a unit, or at the end. To read the unit
it passes the start code and looks for the next `00 00 01`. If the byte before that is a zero that
it has passed, the cursor steps back to it, so that the zero is part of the start code.
-/

namespace AvcPipeline.Nal

/-- Cuts a stream into pieces. `done` holds the finished pieces and `piece` the bytes of the current
one, both last first. A piece with no bytes after its start code ends in `1`, so the zero taken
over into a longer start code is never part of the one before. -/
def cutFrom (done : List Bytes) (piece : Bytes) : Bytes → List Bytes
  | 0 :: 0 :: 1 :: rest =>
    match piece with
    | 0 :: before => cutFrom (before.reverse :: done) [1, 0, 0, 0] rest
    | _ => cutFrom (piece.reverse :: done) [1, 0, 0] rest
  | byte :: rest => cutFrom done (byte :: piece) rest
  | [] => (piece.reverse :: done).reverse

def units (stream : Bytes) : List Bytes :=
  (cutFrom [] [] stream).tail

/-! ## Unit by unit -/

/-- The position of the first `00 00 01` in these bytes, of which the first is at `position`. -/
def findMark (position : Nat) : Bytes → Option Nat
  | 0 :: 0 :: 1 :: _ => some position
  | _ :: rest => findMark (position + 1) rest
  | [] => none

/-- Where the next start code begins, if nothing before `position` is looked at. -/
def findStartCode (stream : Bytes) (position : Nat) : Option Nat :=
  (findMark position (stream.drop position)).map fun found =>
    if position < found ∧ stream[found - 1]? = some 0 then found - 1 else found

structure Cursor where
  stream : Bytes
  position : Nat
  deriving DecidableEq, Repr

namespace Cursor

def start (stream : Bytes) : Cursor :=
  ⟨stream, (findStartCode stream 0).getD stream.length⟩

/-- The unit that the cursor stands before, and the cursor behind it. -/
def next? (c : Cursor) : Option (Bytes × Cursor) :=
  if c.stream.length ≤ c.position then none
  else
    let code := (startCodeLength? (c.stream.drop c.position)).getD 0
    let stop := (findStartCode c.stream (c.position + code)).getD c.stream.length
    some (c.stream.extract c.position stop, ⟨c.stream, stop⟩)

/-- Reading one unit after the other, the cursor gives these and then comes to the end. -/
inductive Yields : Cursor → List Bytes → Prop
  | done {c : Cursor} (h : c.next? = none) : Yields c []
  | next {c c' : Cursor} {unit : Bytes} {units : List Bytes} (h : c.next? = some (unit, c'))
      (hrest : Yields c' units) : Yields c (unit :: units)

end Cursor
end AvcPipeline.Nal
