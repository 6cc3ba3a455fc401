import AvcPipeline.Bits.Basic

/-!
# Reading bit strings

A `Reader` holds the bits still ahead and the count of those already consumed. Reads run in
`ReadM`, which keeps the reader as it stands when a read fails.

Exponential Golomb codes carry at most 31 leading zeros, so that every code value fits 32 bits.
-/

namespace AvcPipeline.Bits

structure Reader where
  ahead : List Bool
  position : Nat
  deriving DecidableEq, Repr

namespace Reader

def ofBytes (data : Bytes) : Reader :=
  ⟨unpack data, 0⟩

def available (r : Reader) : Nat :=
  r.ahead.length

def advance (r : Reader) (count : Nat) : Reader :=
  ⟨r.ahead.drop count, r.position + count⟩

/-- Where a failed read of a `width`-bit field stops. Whole bytes are taken from the data after the
bits left over in the current byte; only a field that ends on a byte boundary uses those up. -/
def cutPosition (r : Reader) (width : Nat) : Nat :=
  let length := r.position + r.ahead.length
  let leftover := (8 - r.position % 8) % 8
  let missing := width - leftover
  if 8 ≤ missing ∧ missing % 8 = 0 then length else length - leftover

end Reader

inductive ReadError where
  | endOfData
  | fieldCut (width position : Nat)
  | skipPastEnd
  | fieldTooWide
  | codeTooLong (position : Nat)
  deriving DecidableEq, Repr

def maxCodeZeros : Nat := 31

def ReadError.message : ReadError → String
  | .endOfData => "failed to fill whole buffer"
  | .fieldCut width position => s!"get_n({width}): out of bounds bits at {position}"
  | .skipPastEnd => "skip_n: out of bounds bits"
  | .fieldTooWide => "excessive bits for type read"
  | .codeTooLong position => s!"get_ue: prefix longer than {maxCodeZeros} bits at {position}"

abbrev ReadM := EStateM ReadError Reader

def readBit : ReadM Bool := fun r =>
  match r.ahead with
  | [] => .error .endOfData r
  | bit :: rest => .ok bit ⟨rest, r.position + 1⟩

def readField (width : Nat) : ReadM Nat := fun r =>
  let field := r.ahead.take width
  if field.length = width then .ok (ofBits field) (r.advance width)
  else .error (.fieldCut width (r.cutPosition width)) r

/-- Reads a field into a number type of `capacity` bits. -/
def readFieldInto (capacity width : Nat) : ReadM Nat := fun r =>
  if capacity < width then .error .fieldTooWide r else readField width r

def skip (count : Nat) : ReadM Unit := fun r =>
  if (r.ahead.take count).length = count then .ok () (r.advance count)
  else .error .skipPastEnd r

def position : ReadM Nat := fun r => .ok r.position r

/-- Counts zeros up to the next one bit, which it consumes; fails once `budget` zeros went by. -/
def readZeros : Nat → ReadM Nat
  | 0 => fun r => .error (.codeTooLong r.position) r
  | budget + 1 => do
    if ← readBit then return 0
    let zeros ← readZeros budget
    return zeros + 1

def readUe : ReadM UInt32 := do
  let zeros ← readZeros (maxCodeZeros + 1)
  let suffix ← readField zeros
  return UInt32.ofNat (1 <<< zeros - 1 + suffix)

/-- The signed value of a code: odd codes count up from 1, even ones down from 0. -/
def signedOfCode (code : Nat) : Int :=
  if code % 2 = 1 then (code + 1) / 2 else -(code / 2 : Nat)

def readSe : ReadM Int32 := do
  let code ← readUe
  return Int32.ofInt (signedOfCode code.toNat)

end AvcPipeline.Bits
