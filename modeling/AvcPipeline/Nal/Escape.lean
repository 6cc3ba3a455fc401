import AvcPipeline.Bits.Basic

/-!
# Emulation prevention

Inside a unit two zero bytes are never followed by a byte of at most three, which could be taken for
a start code: the guard byte `3` is put between. Both directions walk the bytes once and count the
zeros just before in a word of 32 bits; `done` holds the output so far, last byte first.
-/

namespace AvcPipeline.Nal

def guardByte : UInt8 := 3

/-- The number of zero bytes that end at `byte`, when `zeros` of them stood before it. -/
def zerosAfter (zeros : Int32) (byte : UInt8) : Int32 :=
  if byte = 0 then zeros + 1 else 0

def escapeFrom (done : Bytes) (zeros : Int32) : Bytes → Bytes
  | [] => done.reverse
  | byte :: rest =>
    if 2 ≤ zeros ∧ byte ≤ guardByte then
      escapeFrom (byte :: guardByte :: done) (zerosAfter 0 byte) rest
    else escapeFrom (byte :: done) (zerosAfter zeros byte) rest

/-- Puts the payload behind `out`, with guard bytes put in. The bytes of `out` are not looked at. -/
def escapeBehind (out payload : Bytes) : Bytes :=
  escapeFrom out.reverse 0 payload

def escape (payload : Bytes) : Bytes :=
  escapeBehind [] payload

def unescapeFrom (done : Bytes) (zeros : Int32) : Bytes → Bytes
  | [] => done.reverse
  | byte :: rest =>
    if 2 ≤ zeros ∧ byte = guardByte then unescapeFrom done 0 rest
    else unescapeFrom (byte :: done) (zerosAfter zeros byte) rest

def unescape (escaped : Bytes) : Bytes :=
  unescapeFrom [] 0 escaped

end AvcPipeline.Nal
