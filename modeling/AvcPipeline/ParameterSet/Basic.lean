import AvcPipeline.Word32

/-!
# Sequence parameter sets

The syntax elements of an H.264 sequence parameter set, named as in the standard, with the usability
information (`Vui`) and the buffering parameters (`Hrd`). A group that may be absent is an option.
The last section gives the picture sizes that a parameter set describes.
-/

namespace AvcPipeline

/-- A transmitted scaling list, kept as its differences. -/
abbrev ScalingList := List Int32

structure BufferSchedule where
  bitRateValueMinus1 : UInt32 := 0
  cpbSizeValueMinus1 : UInt32 := 0
  constantRate : Bool := false
  deriving DecidableEq, Repr, Inhabited

structure Hrd where
  bitRateScale : UInt8 := 0
  cpbSizeScale : UInt8 := 0
  schedules : List BufferSchedule := []
  initialRemovalDelayLengthMinus1 : UInt8 := 0
  removalDelayLengthMinus1 : UInt8 := 0
  outputDelayLengthMinus1 : UInt8 := 0
  timeOffsetLength : UInt8 := 0
  deriving DecidableEq, Repr, Inhabited

structure AspectRatio where
  idc : UInt8 := 0
  sarWidth : UInt16 := 0
  sarHeight : UInt16 := 0
  deriving DecidableEq, Repr, Inhabited

/-- The aspect ratio code that is followed by an explicit sample aspect ratio. -/
def AspectRatio.explicitIdc : UInt8 := 255

structure ColourDescription where
  primaries : UInt8 := 0
  transfer : UInt8 := 0
  matrix : UInt8 := 0
  deriving DecidableEq, Repr, Inhabited

structure VideoSignal where
  format : UInt8 := 0
  fullRange : Bool := false
  colour : Option ColourDescription := none
  deriving DecidableEq, Repr, Inhabited

structure Timing where
  unitsInTick : UInt32 := 0
  timeScale : UInt32 := 0
  fixedFrameRate : Bool := false
  deriving DecidableEq, Repr, Inhabited

structure Restriction where
  vectorsOverBoundaries : Bool := false
  maxBytesPerPicDenom : UInt32 := 0
  maxBitsPerMbDenom : UInt32 := 0
  log2MaxMvLengthHorizontal : UInt32 := 0
  log2MaxMvLengthVertical : UInt32 := 0
  maxNumReorderFrames : UInt32 := 0
  maxDecFrameBuffering : UInt32 := 0
  deriving DecidableEq, Repr, Inhabited

structure Vui where
  aspectRatio : Option AspectRatio := none
  overscanAppropriate : Option Bool := none
  videoSignal : Option VideoSignal := none
  /-- The chroma sample locations of the top and the bottom field. -/
  chromaLocation : Option (UInt32 × UInt32) := none
  timing : Option Timing := none
  nalHrd : Option Hrd := none
  vclHrd : Option Hrd := none
  lowDelay : Bool := false
  picStructPresent : Bool := false
  restriction : Option Restriction := none
  deriving DecidableEq, Repr, Inhabited

inductive OrderCount where
  | lsb (log2MaxLsbMinus4 : UInt32)
  | cycle (deltaAlwaysZero : Bool) (offsetNonRef offsetTopToBottom : Int32) (offsets : List Int32)
  | decodingOrder
  deriving DecidableEq, Repr, Inhabited

structure Cropping where
  left : UInt32 := 0
  right : UInt32 := 0
  top : UInt32 := 0
  bottom : UInt32 := 0
  deriving DecidableEq, Repr, Inhabited

structure HighProfile where
  chromaFormatIdc : UInt32 := 0
  separateColourPlane : Bool := false
  bitDepthLumaMinus8 : UInt32 := 0
  bitDepthChromaMinus8 : UInt32 := 0
  transformBypass : Bool := false
  /-- One entry a list, `none` where the list is not transmitted. -/
  scalingLists : Option (List (Option ScalingList)) := none
  deriving DecidableEq, Repr, Inhabited

structure ParameterSet where
  profileIdc : UInt8 := 0
  constraintFlags : UInt8 := 0
  levelIdc : UInt8 := 0
  id : UInt32 := 0
  high : Option HighProfile := none
  log2MaxFrameNumMinus4 : UInt32 := 0
  orderCount : OrderCount := .decodingOrder
  maxNumRefFrames : UInt32 := 0
  gapsAllowed : Bool := false
  widthInMbsMinus1 : UInt32 := 0
  heightInMapUnitsMinus1 : UInt32 := 0
  frameMbsOnly : Bool := false
  mbAdaptiveFrameField : Bool := false
  direct8x8Inference : Bool := false
  cropping : Option Cropping := none
  vui : Option Vui := none
  deriving DecidableEq, Repr, Inhabited

namespace ParameterSet

def highProfiles : List UInt8 :=
  [100, 110, 122, 244, 44, 83, 86, 118, 128, 138, 139, 134, 135]

/-- The largest picture dimension of any level, in macroblocks. -/
def maxSizeInMbs : UInt32 := 1055

def scalingListCount (chromaFormatIdc : UInt32) : Nat :=
  if chromaFormatIdc = 3 then 12 else 8

def scalingListSize (index : Nat) : Nat :=
  if index < 6 then 16 else 64

/-! ## Picture sizes -/

open Word32

/-- The number of fields that a map unit row counts for. -/
def fieldFactor (s : ParameterSet) : UInt32 :=
  if s.frameMbsOnly then 1 else 2

/-- Whether chroma is subsampled horizontally and vertically. Without the high profile syntax the
format is 4:2:0, and separately coded planes are each cropped like luma. -/
def chromaSubsampling (s : ParameterSet) : Bool × Bool :=
  match s.high with
  | none => (true, true)
  | some high =>
    if high.chromaFormatIdc = 1 then (true, true)
    else if high.chromaFormatIdc = 2 then (true, false)
    else (false, false)

/-- The cropping units in luma samples, horizontal and vertical. -/
def cropUnits (s : ParameterSet) : UInt32 × UInt32 :=
  let (horizontal, vertical) := s.chromaSubsampling
  (if horizontal then 2 else 1, if vertical then 2 * s.fieldFactor else s.fieldFactor)

def codedWidth (s : ParameterSet) : UInt32 :=
  satMul (satAdd s.widthInMbsMinus1 1) 16

def codedHeight (s : ParameterSet) : UInt32 :=
  satMul (satAdd s.heightInMapUnitsMinus1 1) (16 * s.fieldFactor)

def width (s : ParameterSet) : UInt32 :=
  match s.cropping with
  | none => s.codedWidth
  | some c => satSub s.codedWidth (satMul s.cropUnits.1 (satAdd c.left c.right))

def height (s : ParameterSet) : UInt32 :=
  match s.cropping with
  | none => s.codedHeight
  | some c => satSub s.codedHeight (satMul s.cropUnits.2 (satAdd c.top c.bottom))

/-- The level as it is usually written: `42` is level 4.2. -/
def levelText (s : ParameterSet) : String :=
  s!"{s.levelIdc.toNat / 10}.{s.levelIdc.toNat % 10}"

end ParameterSet
end AvcPipeline
