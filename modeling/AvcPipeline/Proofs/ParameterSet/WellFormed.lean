import AvcPipeline.ParameterSet.Reader
import AvcPipeline.Proofs.CodeWords
import Mathlib.Tactic.MkIffOfInductiveProp

/-!
# Well-formed parameter sets

The parameter sets that have a written form: every element fits its field or has a readable code,
a group is present exactly where the elements before it announce it, and what is not written has its
default value. Each predicate can be decided. What is asked of the numbers in a list is decided by
going through the list, and not by trying every number of 32 bits.
-/

namespace AvcPipeline

open Bits

namespace ScalingList

def scaleAfter (scale : Int) (list : ScalingList) (count : Nat) : Int :=
  (scale + ((list.take count).map Int32.toInt).sum) % 256

/-- A list of at most `size` differences that ends where the scale first becomes zero, and not
before full size otherwise. -/
@[mk_iff]
structure Complete (size : Nat) (scale : Int) (list : ScalingList) : Prop where
  inRange : ∀ delta ∈ list, -128 ≤ delta ∧ delta ≤ 127
  running : ∀ count < list.length, scaleAfter scale list count ≠ 0
  length_le : list.length ≤ size
  ended : list.length = size ∨ scaleAfter scale list list.length = 0

instance (size : Nat) (scale : Int) (list : ScalingList) : Decidable (Complete size scale list) :=
  have : Decidable (∀ delta ∈ list, -128 ≤ delta ∧ delta ≤ 127) := List.decidableBAll _ list
  decidable_of_iff _ (complete_iff size scale list).symm

end ScalingList

@[mk_iff]
structure BufferSchedule.WellFormed (s : BufferSchedule) : Prop where
  bitRate : s.bitRateValueMinus1 ≠ unreadable
  cpbSize : s.cpbSizeValueMinus1 ≠ unreadable

instance (s : BufferSchedule) : Decidable s.WellFormed :=
  decidable_of_iff _ s.wellFormed_iff.symm

@[mk_iff]
structure Hrd.WellFormed (h : Hrd) : Prop where
  some_schedule : 1 ≤ h.schedules.length
  schedules_le : h.schedules.length ≤ 32
  bitRateScale : h.bitRateScale.toNat < 16
  cpbSizeScale : h.cpbSizeScale.toNat < 16
  schedules : ∀ s ∈ h.schedules, s.WellFormed
  initialRemovalDelayLength : h.initialRemovalDelayLengthMinus1.toNat < 32
  removalDelayLength : h.removalDelayLengthMinus1.toNat < 32
  outputDelayLength : h.outputDelayLengthMinus1.toNat < 32
  timeOffsetLength : h.timeOffsetLength.toNat < 32

instance (h : Hrd) : Decidable h.WellFormed :=
  decidable_of_iff _ h.wellFormed_iff.symm

def AspectRatio.WellFormed (a : AspectRatio) : Prop :=
  a.idc ≠ explicitIdc → a.sarWidth = 0 ∧ a.sarHeight = 0

instance (a : AspectRatio) : Decidable a.WellFormed :=
  inferInstanceAs (Decidable (_ → _))

def VideoSignal.WellFormed (v : VideoSignal) : Prop :=
  v.format.toNat < 8

instance (v : VideoSignal) : Decidable v.WellFormed :=
  inferInstanceAs (Decidable (_ < _))

@[mk_iff]
structure Restriction.WellFormed (r : Restriction) : Prop where
  maxBytesPerPicDenom : r.maxBytesPerPicDenom ≠ unreadable
  maxBitsPerMbDenom : r.maxBitsPerMbDenom ≠ unreadable
  log2MaxMvLengthHorizontal : r.log2MaxMvLengthHorizontal ≠ unreadable
  log2MaxMvLengthVertical : r.log2MaxMvLengthVertical ≠ unreadable
  maxNumReorderFrames : r.maxNumReorderFrames ≠ unreadable
  maxDecFrameBuffering : r.maxDecFrameBuffering ≠ unreadable

instance (r : Restriction) : Decidable r.WellFormed :=
  decidable_of_iff _ r.wellFormed_iff.symm

@[mk_iff]
structure Vui.WellFormed (v : Vui) : Prop where
  aspectRatio : ∀ a ∈ v.aspectRatio, a.WellFormed
  videoSignal : ∀ s ∈ v.videoSignal, s.WellFormed
  chromaLocation : ∀ l ∈ v.chromaLocation, l.1 ≠ unreadable ∧ l.2 ≠ unreadable
  nalHrd : ∀ h ∈ v.nalHrd, h.WellFormed
  vclHrd : ∀ h ∈ v.vclHrd, h.WellFormed
  lowDelay : (v.nalHrd.isSome || v.vclHrd.isSome) = false → v.lowDelay = false
  restriction : ∀ r ∈ v.restriction, r.WellFormed

instance (v : Vui) : Decidable v.WellFormed :=
  have : Decidable (∀ l ∈ v.chromaLocation, l.1 ≠ unreadable ∧ l.2 ≠ unreadable) :=
    Option.decidableForallMem v.chromaLocation
  decidable_of_iff _ v.wellFormed_iff.symm

def OrderCount.WellFormed : OrderCount → Prop
  | .lsb log2MaxLsbMinus4 => log2MaxLsbMinus4 ≠ unreadable
  | .cycle _ offsetNonRef offsetTopToBottom offsets =>
    offsetNonRef ≠ Int32.minValue ∧ offsetTopToBottom ≠ Int32.minValue ∧ offsets.length ≤ 255 ∧
      ∀ offset ∈ offsets, offset ≠ Int32.minValue
  | .decodingOrder => True

instance : (c : OrderCount) → Decidable c.WellFormed
  | .lsb _ => inferInstanceAs (Decidable (_ ≠ _))
  | .cycle _ _ _ offsets =>
    have : Decidable (∀ offset ∈ offsets, offset ≠ Int32.minValue) := List.decidableBAll _ offsets
    inferInstanceAs (Decidable (_ ∧ _))
  | .decodingOrder => inferInstanceAs (Decidable True)

@[mk_iff]
structure Cropping.WellFormed (c : Cropping) : Prop where
  left : c.left ≠ unreadable
  right : c.right ≠ unreadable
  top : c.top ≠ unreadable
  bottom : c.bottom ≠ unreadable

instance (c : Cropping) : Decidable c.WellFormed :=
  decidable_of_iff _ c.wellFormed_iff.symm

/-- Every list that is transmitted is complete for its place, the first place being `index`. -/
def HighProfile.ListsComplete (index : Nat) (lists : List (Option ScalingList)) : Prop :=
  ∀ entry ∈ lists.zipIdx index, ∀ list ∈ entry.1,
    list.Complete (ParameterSet.scalingListSize entry.2) ScalingList.initialScale

instance (index : Nat) (lists : List (Option ScalingList)) :
    Decidable (HighProfile.ListsComplete index lists) :=
  inferInstanceAs (Decidable (∀ _ ∈ _, _))

@[mk_iff]
structure HighProfile.WellFormed (h : HighProfile) : Prop where
  chromaFormatIdc : h.chromaFormatIdc ≤ 3
  separateColourPlane : h.chromaFormatIdc ≠ 3 → h.separateColourPlane = false
  bitDepthLumaMinus8 : h.bitDepthLumaMinus8 ≠ unreadable
  bitDepthChromaMinus8 : h.bitDepthChromaMinus8 ≠ unreadable
  scalingLists : ∀ lists ∈ h.scalingLists,
    lists.length = ParameterSet.scalingListCount h.chromaFormatIdc ∧
      HighProfile.ListsComplete 0 lists

instance (h : HighProfile) : Decidable h.WellFormed :=
  decidable_of_iff _ h.wellFormed_iff.symm

@[mk_iff]
structure ParameterSet.WellFormed (s : ParameterSet) : Prop where
  id : s.id ≤ 31
  high_isSome : s.high.isSome ↔ s.profileIdc ∈ ParameterSet.highProfiles
  high : ∀ h ∈ s.high, h.WellFormed
  log2MaxFrameNumMinus4 : s.log2MaxFrameNumMinus4 ≠ unreadable
  orderCount : s.orderCount.WellFormed
  maxNumRefFrames : s.maxNumRefFrames ≠ unreadable
  width : s.widthInMbsMinus1 < 1055
  height : s.heightInMapUnitsMinus1 < 1055
  mbAdaptiveFrameField : s.frameMbsOnly = true → s.mbAdaptiveFrameField = false
  cropping : ∀ c ∈ s.cropping, c.WellFormed
  vui : ∀ v ∈ s.vui, v.WellFormed

instance (s : ParameterSet) : Decidable s.WellFormed :=
  decidable_of_iff _ s.wellFormed_iff.symm

end AvcPipeline
