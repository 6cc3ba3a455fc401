import AvcPipeline.Word32

/-!
# Decoder geometry

The decoder takes sizes that are multiples of 16, at least 64 on either axis and at most 1920x1088.
-/

namespace AvcPipeline

structure InitInfo where
  horizontal : UInt32
  vertical : UInt32
  refFrames : UInt32 := 5
  streams : UInt32 := 1
  deriving DecidableEq, Repr

/-- The size of a stream, and the size that the decoder is asked for. -/
structure Geometry where
  width : UInt32
  height : UInt32
  horizontal : UInt32
  vertical : UInt32
  deriving DecidableEq, Repr

namespace Geometry

def alignment : Nat := 16

def minSize : UInt32 := 64

def maxWidth : UInt32 := 1920

def maxHeight : UInt32 := 1088

/-- The next legal size that is not below `size`, or the largest aligned one. -/
def roundUp (size : UInt32) : UInt32 :=
  let blocks := (size.toNat + (alignment - 1)) / alignment
  let rounded := min (blocks * alignment) (0xFFFFFFFF / alignment * alignment)
  max minSize (UInt32.ofNat rounded)

/-- The library refuses 960x540 and takes 960x544 for it. -/
def requestedHeight (width height : UInt32) : UInt32 :=
  if width = 960 ∧ height = 540 then 544 else height

def supported (width height : UInt32) : Bool :=
  width ≠ 0 && height ≠ 0 && width ≤ maxWidth && height ≤ maxHeight

def negotiate? (width height : UInt32) : Option Geometry :=
  if supported width height then
    some ⟨width, height, roundUp width, roundUp (requestedHeight width height)⟩
  else none

def initInfo (g : Geometry) : InitInfo where
  horizontal := g.horizontal
  vertical := g.vertical

end Geometry
end AvcPipeline
