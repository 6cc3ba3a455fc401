import AvcPipeline.Bits.Basic

/-!
# Start codes and the unit header

A unit of a byte stream is a start code of three or four bytes, one header byte, and an escaped
payload.
-/

namespace AvcPipeline.Nal

inductive Error where
  | missingStartCode
  | forbiddenBit
  deriving DecidableEq, Repr

def Error.message : Error → String
  | .missingStartCode => "Parameter set fragment has no Annex B start code"
  | .forbiddenBit => "forbidden_zero_bit must be 0"

def refreshSliceType : UInt8 := 5

def parameterSetType : UInt8 := 7

structure Header where
  refIdc : UInt8
  unitType : UInt8
  deriving DecidableEq, Repr

namespace Header

def ofByte? (byte : UInt8) : Except Error Header :=
  if byte &&& 0x80 = 0 then .ok ⟨(byte >>> 5) &&& 0x3, byte &&& 0x1F⟩ else .error .forbiddenBit

/-- Keeps two bits of the reference field and five of the type. -/
def toByte (h : Header) : UInt8 :=
  ((h.refIdc &&& 0x3) <<< 5) ||| (h.unitType &&& 0x1F)

def isPicture (h : Header) : Bool :=
  1 ≤ h.unitType && h.unitType ≤ 5

end Header

def startCode : Bytes := [0, 0, 0, 1]

def startCodeLength? : Bytes → Option Nat
  | 0 :: 0 :: 1 :: _ => some 3
  | 0 :: 0 :: 0 :: 1 :: _ => some 4
  | _ => none

def split? (unit : Bytes) : Except Error (Header × Bytes) :=
  match startCodeLength? unit with
  | none => .error .missingStartCode
  | some length =>
    match unit.drop length with
    | [] => .error .missingStartCode
    | byte :: payload => (Header.ofByte? byte).map fun header => (header, payload)

end AvcPipeline.Nal
