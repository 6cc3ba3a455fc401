/-!
# Bytes as bit strings

Every syntax element is read and written most significant bit first. `unpack` lays bytes out as
bits, `pack` gathers bits into bytes and fills the last byte with zeros. `ofBits` is the number that
a bit string spells, `toBits` the string of a given width that spells a number.
-/

namespace AvcPipeline

abbrev Bytes := List UInt8

namespace Bits

/-- The lowest `width` bits of `value`, most significant bit first. -/
def toBits : Nat → Nat → List Bool
  | 0, _ => []
  | width + 1, value => value.testBit width :: toBits width value

def ofBits (bits : List Bool) : Nat :=
  bits.foldl (fun value bit => 2 * value + bit.toNat) 0

def unpack (data : Bytes) : List Bool :=
  data.flatMap fun byte => toBits 8 byte.toNat

/-- The byte that starts with `bits` and is filled up with zeros. -/
def packByte (bits : List Bool) : UInt8 :=
  UInt8.ofNat (ofBits (bits ++ List.replicate (8 - bits.length) false))

def pack (bits : List Bool) : Bytes :=
  match bits with
  | [] => []
  | first :: rest => packByte (first :: rest.take 7) :: pack (rest.drop 7)
termination_by bits.length
decreasing_by
  simp only [List.length_drop, List.length_cons]
  omega

end Bits
end AvcPipeline
