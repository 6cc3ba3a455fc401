import AvcPipeline.Bits.Basic

/-!
# Writing bit strings

Each kind of syntax element has a code word, a list of bits. A `Writer` collects code words. Its
position is the number of bits asked for, also when a field was refused, and it is this position
that the trailing bits align.
-/

namespace AvcPipeline.Bits

inductive WriteError where
  | fieldTooWide
  | valueTooLarge
  deriving DecidableEq, Repr

def WriteError.message : WriteError → String
  | .fieldTooWide => "excessive bits for type written"
  | .valueTooLarge => "excessive value for bits written"

def ueWord (value : UInt32) : List Bool :=
  let code := value.toNat + 1
  let width := code.log2 + 1
  List.replicate (width - 1) false ++ toBits width code

def codeOfSigned (value : Int) : Nat :=
  if 0 < value then (2 * value - 1).toNat else (-2 * value).toNat

/-- The signed exponential Golomb code word of `value`. The code is kept to 32 bits, so the least
value shares the word of zero. -/
def seWord (value : Int32) : List Bool :=
  ueWord (UInt32.ofNat (codeOfSigned value.toInt))

/-- A fixed-width field. A field of no bits is empty whatever its value. -/
def fieldWord (width value : Nat) : Except WriteError (List Bool) :=
  if width = 0 ∨ value < 1 <<< width then .ok (toBits width value) else .error .valueTooLarge

/-- A stop bit, then zeros up to the next multiple of eight bits. -/
def trailingWord (position : Nat) : List Bool :=
  true :: List.replicate (7 - position % 8) false

structure Writer where
  bits : List Bool
  position : Nat
  deriving DecidableEq, Repr

namespace Writer

def empty : Writer := ⟨[], 0⟩

def append (w : Writer) (word : List Bool) : Writer :=
  ⟨w.bits ++ word, w.position + word.length⟩

def putBit (w : Writer) (bit : Bool) : Writer := w.append [bit]

def putUe (w : Writer) (value : UInt32) : Writer := w.append (ueWord value)

def putSe (w : Writer) (value : Int32) : Writer := w.append (seWord value)

/-- Writes a field whose value comes from a number type of `capacity` bits. The position counts the
field even when it is refused. -/
def putField (w : Writer) (capacity width value : Nat) : Except WriteError Unit × Writer :=
  let refused : Writer := ⟨w.bits, w.position + width⟩
  if capacity < width then (.error .fieldTooWide, refused)
  else match fieldWord width value with
    | .ok word => (.ok (), w.append word)
    | .error e => (.error e, refused)

def putTrailing (w : Writer) : Writer := w.append (trailingWord w.position)

def toBytes (w : Writer) : Bytes := pack w.bits

end Writer
end AvcPipeline.Bits
