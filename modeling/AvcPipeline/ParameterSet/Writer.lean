import AvcPipeline.Nal.Escape
import AvcPipeline.ParameterSet.Basic
import AvcPipeline.ParameterSet.Error

/-!
# Writing parameter sets

The code word of each group of syntax elements, in the order of transmission. Only a few fixed-width
fields of the usability information can hold a value too large for them; nothing else fails.
-/

namespace AvcPipeline

open Bits

namespace ParameterSet

/-- The result of writing: bits, or the reason why a field cannot hold its value. -/
abbrev Word := Except WriteError (List Bool)

namespace Word

def flag (bit : Bool) : Word := .ok [bit]

def ue (value : UInt32) : Word := .ok (ueWord value)

def se (value : Int32) : Word := .ok (seWord value)

def field (width value : Nat) : Word := fieldWord width value

def join : List Word → Word
  | [] => .ok []
  | word :: rest => return (← word) ++ (← join rest)

def onlyIf (present : Bool) (word : Word) : Word :=
  if present then word else .ok []

def optional {α : Type} (word : α → Word) : Option α → Word
  | none => flag false
  | some group => join [flag true, word group]

end Word
end ParameterSet

open ParameterSet

def ScalingList.word (list : ScalingList) : Word :=
  .join (list.map .se)

def BufferSchedule.word (s : BufferSchedule) : Word :=
  .join [.ue s.bitRateValueMinus1, .ue s.cpbSizeValueMinus1, .flag s.constantRate]

/-- An empty list of schedules is counted like a list of one. -/
def Hrd.word (h : Hrd) : Word :=
  .join [.ue (.ofNat (h.schedules.length - 1)), .field 4 h.bitRateScale.toNat,
    .field 4 h.cpbSizeScale.toNat, .join (h.schedules.map BufferSchedule.word),
    .field 5 h.initialRemovalDelayLengthMinus1.toNat, .field 5 h.removalDelayLengthMinus1.toNat,
    .field 5 h.outputDelayLengthMinus1.toNat, .field 5 h.timeOffsetLength.toNat]

def AspectRatio.sizesWord (sarWidth sarHeight : UInt16) : Word :=
  .join [.field 16 sarWidth.toNat, .field 16 sarHeight.toNat]

def AspectRatio.word (a : AspectRatio) : Word :=
  .join [.field 8 a.idc.toNat,
    .onlyIf (a.idc = explicitIdc) (AspectRatio.sizesWord a.sarWidth a.sarHeight)]

def ColourDescription.word (c : ColourDescription) : Word :=
  .join [.field 8 c.primaries.toNat, .field 8 c.transfer.toNat, .field 8 c.matrix.toNat]

def VideoSignal.word (v : VideoSignal) : Word :=
  .join [.field 3 v.format.toNat, .flag v.fullRange, .optional ColourDescription.word v.colour]

def Timing.word (t : Timing) : Word :=
  .join [.field 32 t.unitsInTick.toNat, .field 32 t.timeScale.toNat, .flag t.fixedFrameRate]

def Restriction.word (r : Restriction) : Word :=
  .join [.flag r.vectorsOverBoundaries, .ue r.maxBytesPerPicDenom, .ue r.maxBitsPerMbDenom,
    .ue r.log2MaxMvLengthHorizontal, .ue r.log2MaxMvLengthVertical, .ue r.maxNumReorderFrames,
    .ue r.maxDecFrameBuffering]

def Vui.chromaLocationWord (location : UInt32 × UInt32) : Word :=
  .join [.ue location.1, .ue location.2]

def Vui.word (v : Vui) : Word :=
  .join [.optional AspectRatio.word v.aspectRatio, .optional .flag v.overscanAppropriate,
    .optional VideoSignal.word v.videoSignal, .optional Vui.chromaLocationWord v.chromaLocation,
    .optional Timing.word v.timing, .optional Hrd.word v.nalHrd, .optional Hrd.word v.vclHrd,
    .onlyIf (v.nalHrd.isSome || v.vclHrd.isSome) (.flag v.lowDelay), .flag v.picStructPresent,
    .optional Restriction.word v.restriction]

/-- The length of a cycle of offsets is written in 32 bits. -/
def OrderCount.word : OrderCount → Word
  | .lsb log2MaxLsbMinus4 => .join [.ue 0, .ue log2MaxLsbMinus4]
  | .cycle deltaAlwaysZero offsetNonRef offsetTopToBottom offsets =>
    .join [.ue 1, .flag deltaAlwaysZero, .se offsetNonRef, .se offsetTopToBottom,
      .ue (.ofNat offsets.length), .join (offsets.map .se)]
  | .decodingOrder => .ue 2

def Cropping.word (c : Cropping) : Word :=
  .join [.ue c.left, .ue c.right, .ue c.top, .ue c.bottom]

def HighProfile.listsWord (lists : List (Option ScalingList)) : Word :=
  .join (lists.map (.optional ScalingList.word))

def HighProfile.word (h : HighProfile) : Word :=
  .join [.ue h.chromaFormatIdc, .onlyIf (h.chromaFormatIdc = 3) (.flag h.separateColourPlane),
    .ue h.bitDepthLumaMinus8, .ue h.bitDepthChromaMinus8, .flag h.transformBypass,
    .optional HighProfile.listsWord h.scalingLists]

namespace ParameterSet

def word (s : ParameterSet) : Word :=
  .join [.field 8 s.profileIdc.toNat, .field 8 s.constraintFlags.toNat, .field 8 s.levelIdc.toNat,
    .ue s.id, s.high.elim (.join []) HighProfile.word, .ue s.log2MaxFrameNumMinus4,
    s.orderCount.word, .ue s.maxNumRefFrames, .flag s.gapsAllowed, .ue s.widthInMbsMinus1,
    .ue s.heightInMapUnitsMinus1, .flag s.frameMbsOnly,
    .onlyIf (!s.frameMbsOnly) (.flag s.mbAdaptiveFrameField), .flag s.direct8x8Inference,
    .optional Cropping.word s.cropping, .optional Vui.word s.vui]

/-- The unescaped payload: all elements, a stop bit, and zeros up to a whole byte. -/
def toPayload (s : ParameterSet) : Except WriteError Bytes := do
  let word ← s.word
  return pack (word ++ trailingWord word.length)

/-- Puts the unit with start code, header and escaped payload behind `out`, which stays as it is
when the payload cannot be written. -/
def appendUnit (s : ParameterSet) (header : Nal.Header) (out : Bytes) :
    Except WriteError Unit × Bytes :=
  match s.toPayload with
  | .error e => (.error e, out)
  | .ok payload => (.ok (), Nal.escapeBehind (out ++ Nal.startCode ++ [header.toByte]) payload)

def toUnit (s : ParameterSet) (header : Nal.Header) : Except WriteError Bytes :=
  let (written, out) := s.appendUnit header []
  written.map fun _ => out

end ParameterSet
end AvcPipeline
