import AvcPipeline.Nal.Escape
import AvcPipeline.ParameterSet.Basic
import AvcPipeline.ParameterSet.Error

/-!
# Reading parameter sets

One reader for each group of syntax elements, in the order in which the elements are transmitted.
`ParameterSet.read` reads an unescaped payload, `ParameterSet.ofUnit?` a unit with its start code.
Nothing is asked of the bits after the last element.
-/

namespace AvcPipeline

namespace ParameterSet

abbrev ReadM := EStateM Error Bits.Reader

instance : MonadLift Bits.ReadM ReadM where
  monadLift x := EStateM.adaptExcept Error.bits x

def readFlag : ReadM Bool := Bits.readBit

def readNumber : ReadM UInt32 := Bits.readUe

def readSigned : ReadM Int32 := Bits.readSe

def readByte (width : Nat) : ReadM UInt8 :=
  return UInt8.ofNat (← Bits.readField width)

def readShort : ReadM UInt16 :=
  return UInt16.ofNat (← Bits.readField 16)

def readLong : ReadM UInt32 :=
  return UInt32.ofNat (← Bits.readField 32)

def readIf {α : Type} (present : Bool) (absent : α) (element : ReadM α) : ReadM α :=
  if present then element else pure absent

def readOptional {α : Type} (group : ReadM α) : ReadM (Option α) := do
  if ← readFlag then return some (← group)
  return none

def readTimes {α : Type} (item : ReadM α) : Nat → ReadM (List α)
  | 0 => return []
  | count + 1 => do
    let first ← item
    let rest ← readTimes item count
    return first :: rest

def demand (holds : Bool) (e : Error) : ReadM Unit :=
  if holds then pure () else throw e

end ParameterSet

open ParameterSet

/-- Reads differences until the running scale becomes zero or `size` values are known. -/
def ScalingList.read : (size : Nat) → (scale : Int) → ReadM ScalingList
  | 0, _ => return []
  | size + 1, scale => do
    let delta ← readSigned
    demand (-128 ≤ delta && delta ≤ 127) (.deltaOutOfRange delta)
    let next := (scale + delta.toInt) % 256
    if next = 0 then return [delta]
    let rest ← ScalingList.read size next
    return delta :: rest

def ScalingList.initialScale : Int := 8

def BufferSchedule.read : ReadM BufferSchedule := do
  let bitRateValueMinus1 ← readNumber
  let cpbSizeValueMinus1 ← readNumber
  let constantRate ← readFlag
  return { bitRateValueMinus1, cpbSizeValueMinus1, constantRate }

def Hrd.read : ReadM Hrd := do
  let countMinus1 ← readNumber
  demand (countMinus1 ≤ 31) (.tooManySchedules countMinus1)
  let bitRateScale ← readByte 4
  let cpbSizeScale ← readByte 4
  let schedules ← readTimes BufferSchedule.read (countMinus1.toNat + 1)
  let initialRemovalDelayLengthMinus1 ← readByte 5
  let removalDelayLengthMinus1 ← readByte 5
  let outputDelayLengthMinus1 ← readByte 5
  let timeOffsetLength ← readByte 5
  return { bitRateScale, cpbSizeScale, schedules, initialRemovalDelayLengthMinus1,
           removalDelayLengthMinus1, outputDelayLengthMinus1, timeOffsetLength }

def AspectRatio.readSizes : ReadM (UInt16 × UInt16) := do
  let sarWidth ← readShort
  let sarHeight ← readShort
  return (sarWidth, sarHeight)

def AspectRatio.read : ReadM AspectRatio := do
  let idc ← readByte 8
  let (sarWidth, sarHeight) ← readIf (idc = explicitIdc) (0, 0) AspectRatio.readSizes
  return { idc, sarWidth, sarHeight }

def ColourDescription.read : ReadM ColourDescription := do
  let primaries ← readByte 8
  let transfer ← readByte 8
  let matrix ← readByte 8
  return { primaries, transfer, matrix }

def VideoSignal.read : ReadM VideoSignal := do
  let format ← readByte 3
  let fullRange ← readFlag
  let colour ← readOptional ColourDescription.read
  return { format, fullRange, colour }

def Timing.read : ReadM Timing := do
  let unitsInTick ← readLong
  let timeScale ← readLong
  let fixedFrameRate ← readFlag
  return { unitsInTick, timeScale, fixedFrameRate }

def Restriction.read : ReadM Restriction := do
  let vectorsOverBoundaries ← readFlag
  let maxBytesPerPicDenom ← readNumber
  let maxBitsPerMbDenom ← readNumber
  let log2MaxMvLengthHorizontal ← readNumber
  let log2MaxMvLengthVertical ← readNumber
  let maxNumReorderFrames ← readNumber
  let maxDecFrameBuffering ← readNumber
  return { vectorsOverBoundaries, maxBytesPerPicDenom, maxBitsPerMbDenom,
           log2MaxMvLengthHorizontal, log2MaxMvLengthVertical, maxNumReorderFrames,
           maxDecFrameBuffering }

def Vui.readChromaLocation : ReadM (UInt32 × UInt32) := do
  let top ← readNumber
  let bottom ← readNumber
  return (top, bottom)

def Vui.read : ReadM Vui := do
  let aspectRatio ← readOptional AspectRatio.read
  let overscanAppropriate ← readOptional readFlag
  let videoSignal ← readOptional VideoSignal.read
  let chromaLocation ← readOptional Vui.readChromaLocation
  let timing ← readOptional Timing.read
  let nalHrd ← readOptional Hrd.read
  let vclHrd ← readOptional Hrd.read
  let lowDelay ← readIf (nalHrd.isSome || vclHrd.isSome) false readFlag
  let picStructPresent ← readFlag
  let restriction ← readOptional Restriction.read
  return { aspectRatio, overscanAppropriate, videoSignal, chromaLocation, timing, nalHrd, vclHrd,
           lowDelay, picStructPresent, restriction }

def OrderCount.readCycle : ReadM OrderCount := do
  let deltaAlwaysZero ← readFlag
  let offsetNonRef ← readSigned
  let offsetTopToBottom ← readSigned
  let length ← readNumber
  demand (length ≤ 255) (.cycleTooLong length)
  let offsets ← readTimes readSigned length.toNat
  return .cycle deltaAlwaysZero offsetNonRef offsetTopToBottom offsets

def OrderCount.read : ReadM OrderCount := do
  let kind ← readNumber
  if kind = 0 then OrderCount.lsb <$> readNumber
  else if kind = 1 then OrderCount.readCycle
  else
    demand (kind = 2) (.unknownOrderCount kind)
    return .decodingOrder

def Cropping.read : ReadM Cropping := do
  let left ← readNumber
  let right ← readNumber
  let top ← readNumber
  let bottom ← readNumber
  return { left, right, top, bottom }

def HighProfile.readLists : (count index : Nat) → ReadM (List (Option ScalingList))
  | 0, _ => return []
  | count + 1, index => do
    let list ← readOptional (ScalingList.read (scalingListSize index) ScalingList.initialScale)
    let rest ← HighProfile.readLists count (index + 1)
    return list :: rest

def HighProfile.read : ReadM HighProfile := do
  let chromaFormatIdc ← readNumber
  demand (chromaFormatIdc ≤ 3) (.unknownChromaFormat chromaFormatIdc)
  let separateColourPlane ← readIf (chromaFormatIdc = 3) false readFlag
  let bitDepthLumaMinus8 ← readNumber
  let bitDepthChromaMinus8 ← readNumber
  let transformBypass ← readFlag
  let scalingLists ← readOptional (HighProfile.readLists (scalingListCount chromaFormatIdc) 0)
  return { chromaFormatIdc, separateColourPlane, bitDepthLumaMinus8, bitDepthChromaMinus8,
           transformBypass, scalingLists }

namespace ParameterSet

def sizeAllowed (widthInMbsMinus1 heightInMapUnitsMinus1 : UInt32) : Bool :=
  widthInMbsMinus1 < maxSizeInMbs && heightInMapUnitsMinus1 < maxSizeInMbs

def read : ReadM ParameterSet := do
  let profileIdc ← readByte 8
  let constraintFlags ← readByte 8
  let levelIdc ← readByte 8
  let id ← readNumber
  demand (id ≤ 31) (.idTooLarge id)
  let high ← readIf (profileIdc ∈ highProfiles) none (some <$> HighProfile.read)
  let log2MaxFrameNumMinus4 ← readNumber
  let orderCount ← OrderCount.read
  let maxNumRefFrames ← readNumber
  let gapsAllowed ← readFlag
  let widthInMbsMinus1 ← readNumber
  let heightInMapUnitsMinus1 ← readNumber
  let frameMbsOnly ← readFlag
  demand (sizeAllowed widthInMbsMinus1 heightInMapUnitsMinus1)
    (.pictureTooLarge (Word32.satAdd widthInMbsMinus1 1) (Word32.satAdd heightInMapUnitsMinus1 1))
  let mbAdaptiveFrameField ← readIf (!frameMbsOnly) false readFlag
  let direct8x8Inference ← readFlag
  let cropping ← readOptional Cropping.read
  let vui ← readOptional Vui.read
  return { profileIdc, constraintFlags, levelIdc, id, high, log2MaxFrameNumMinus4, orderCount,
           maxNumRefFrames, gapsAllowed, widthInMbsMinus1, heightInMapUnitsMinus1, frameMbsOnly,
           mbAdaptiveFrameField, direct8x8Inference, cropping, vui }

/-- Reads an unescaped payload; gives the reader as it stands after the last element. -/
def ofPayload? (payload : Bytes) : Except Error (ParameterSet × Bits.Reader) :=
  match read (.ofBytes payload) with
  | .ok s r => .ok (s, r)
  | .error e _ => .error e

def ofUnit? (unit : Bytes) : Except Error (Nal.Header × ParameterSet) :=
  match Nal.split? unit with
  | .error e => .error (.unit e)
  | .ok (header, payload) =>
    if header.unitType ≠ Nal.parameterSetType then .error (.unexpectedType header.unitType)
    else (ofPayload? (Nal.unescape payload)).map fun result => (header, result.1)

end ParameterSet
end AvcPipeline
