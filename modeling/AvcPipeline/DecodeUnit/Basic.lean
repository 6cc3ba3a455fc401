import AvcPipeline.Bits.Basic

/-!
# Decode units

A decode unit is what the transport delivers for one picture: a chain of fragments, and the total
length that the transport declares for it, which need not be the true one.
-/

namespace AvcPipeline

inductive FragmentKind where
  | ordinary
  /-- A parameter set unit, which is adapted to the decoder. -/
  | parameterSet
  deriving DecidableEq, Repr

structure Fragment where
  kind : FragmentKind
  data : Bytes
  deriving DecidableEq, Repr

inductive FrameKind where
  | predicted
  /-- A point from which decoding can start. -/
  | refresh
  deriving DecidableEq, Repr

structure DecodeUnit where
  frameNumber : UInt32
  kind : FrameKind
  declaredLength : Nat
  fragments : List Fragment
  deriving DecidableEq, Repr

namespace DecodeUnit

def totalLength (fragments : List Fragment) : Nat :=
  fragments.foldl (fun total f => total + f.data.length) 0

/-- A unit that declares its true length. -/
def ofFragments (frameNumber : UInt32) (kind : FrameKind) (fragments : List Fragment) :
    DecodeUnit :=
  ⟨frameNumber, kind, totalLength fragments, fragments⟩

def hasParameterSet (u : DecodeUnit) : Bool :=
  u.fragments.any fun f => f.kind = .parameterSet

end DecodeUnit
end AvcPipeline
