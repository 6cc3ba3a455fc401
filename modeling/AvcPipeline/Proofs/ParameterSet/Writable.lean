import AvcPipeline.Proofs.ParameterSet.WellFormed
import AvcPipeline.Proofs.ParameterSet.Word

/-!
# Parameter sets that can be written

A word is written unless it contains a field too narrow for its value. Whole bytes always fit their
fields and codes have no bound, so only the video format and the narrow fields of the buffer
descriptions are left to ask for.
-/

namespace AvcPipeline

open Bits ParameterSet

/-! ## Words -/

namespace ParameterSet

def Written (word : Word) : Prop :=
  ∃ bits, word = .ok bits

variable {α : Type}

theorem written_ok (bits : List Bool) : Written (.ok bits) :=
  ⟨bits, rfl⟩

theorem written_join_nil : Written (.join []) :=
  written_ok []

theorem written_join_cons {word : Word} {words : List Word} :
    Written (.join (word :: words)) ↔ Written word ∧ Written (.join words) := by
  constructor
  · rintro ⟨bits, hbits⟩
    obtain ⟨front, back, hfront, hback, -⟩ := join_cons_eq_ok.mp hbits
    exact ⟨⟨front, hfront⟩, back, hback⟩
  · rintro ⟨⟨front, hfront⟩, back, hback⟩
    exact ⟨front ++ back, join_cons_eq_ok.mpr ⟨front, back, hfront, hback, rfl⟩⟩

theorem written_flag (bit : Bool) : Written (.flag bit) :=
  written_ok _

theorem written_ue (value : UInt32) : Written (.ue value) :=
  written_ok _

theorem written_se (value : Int32) : Written (.se value) :=
  written_ok _

theorem written_field {width value : Nat} (h : 0 < width) :
    Written (.field width value) ↔ value < 2 ^ width := by
  simp only [Written, field_eq_ok h, exists_and_left]
  exact and_iff_left ⟨_, rfl⟩

theorem written_octet (value : UInt8) : Written (.field 8 value.toNat) :=
  (written_field (by decide)).mpr value.toNat_lt

theorem written_short (value : UInt16) : Written (.field 16 value.toNat) :=
  (written_field (by decide)).mpr value.toNat_lt

theorem written_long (value : UInt32) : Written (.field 32 value.toNat) :=
  (written_field (by decide)).mpr value.toNat_lt

theorem written_onlyIf {present : Bool} {word : Word} (h : Written word) :
    Written (.onlyIf present word) := by
  cases present
  · exact written_ok []
  · exact h

theorem written_optional {word : α → Word} {group : Option α} :
    Written (.optional word group) ↔ ∀ a ∈ group, Written (word a) := by
  cases group with
  | none => exact iff_of_true (written_flag false) nofun
  | some a =>
    rw [Word.optional, written_join_cons, written_join_cons,
      and_iff_right (written_flag true), and_iff_left written_join_nil]
    exact ⟨fun h _ ha => Option.some.inj ha ▸ h, fun h => h a rfl⟩

theorem written_map {word : α → Word} {list : List α} :
    Written (.join (list.map word)) ↔ ∀ a ∈ list, Written (word a) := by
  induction list with
  | nil => exact iff_of_true written_join_nil nofun
  | cons a rest ih => rw [List.map_cons, written_join_cons, ih, List.forall_mem_cons]

end ParameterSet

/-! ## Narrow fields -/

@[mk_iff]
structure Hrd.FieldsFit (h : Hrd) : Prop where
  bitRateScale : h.bitRateScale.toNat < 16
  cpbSizeScale : h.cpbSizeScale.toNat < 16
  initialRemovalDelayLength : h.initialRemovalDelayLengthMinus1.toNat < 32
  removalDelayLength : h.removalDelayLengthMinus1.toNat < 32
  outputDelayLength : h.outputDelayLengthMinus1.toNat < 32
  timeOffsetLength : h.timeOffsetLength.toNat < 32

@[mk_iff]
structure Vui.FieldsFit (v : Vui) : Prop where
  videoFormat : ∀ s ∈ v.videoSignal, s.format.toNat < 8
  nalHrd : ∀ h ∈ v.nalHrd, h.FieldsFit
  vclHrd : ∀ h ∈ v.vclHrd, h.FieldsFit

def ParameterSet.FieldsFit (s : ParameterSet) : Prop :=
  ∀ v ∈ s.vui, v.FieldsFit

theorem written_schedule (s : BufferSchedule) : Written s.word := by
  simp [BufferSchedule.word, written_join_cons, written_join_nil, written_ue, written_flag]

theorem written_hrd {h : Hrd} : Written h.word ↔ h.FieldsFit := by
  simp only [Hrd.word, written_join_cons, written_ue, written_map, written_schedule,
    written_join_nil, implies_true, written_field (by decide : 0 < 4),
    written_field (by decide : 0 < 5), Nat.reducePow, Hrd.fieldsFit_iff, true_and, and_true]

theorem written_aspectRatio (a : AspectRatio) : Written a.word := by
  have hsizes : Written (AspectRatio.sizesWord a.sarWidth a.sarHeight) := by
    simp [AspectRatio.sizesWord, written_join_cons, written_join_nil, written_short]
  simp [AspectRatio.word, written_join_cons, written_join_nil, written_octet,
    written_onlyIf hsizes]

theorem written_videoSignal {s : VideoSignal} : Written s.word ↔ s.format.toNat < 8 := by
  simp only [VideoSignal.word, ColourDescription.word, written_join_cons, written_flag,
    written_field (by decide : 0 < 3), Nat.reducePow, written_octet, written_optional,
    written_join_nil, implies_true, and_true]

theorem written_timing (t : Timing) : Written t.word := by
  simp [Timing.word, written_join_cons, written_join_nil, written_long, written_flag]

theorem written_restriction (r : Restriction) : Written r.word := by
  simp [Restriction.word, written_join_cons, written_join_nil, written_ue, written_flag]

theorem written_vui {v : Vui} : Written v.word ↔ v.FieldsFit := by
  simp only [Vui.word, Vui.chromaLocationWord, written_join_cons, written_join_nil,
    written_optional, written_aspectRatio, written_flag, written_videoSignal, written_ue,
    written_timing, written_hrd, written_onlyIf, written_restriction, implies_true, and_true,
    true_and, Vui.fieldsFit_iff]

theorem written_orderCount (c : OrderCount) : Written c.word := by
  cases c <;> simp [OrderCount.word, written_join_cons, written_join_nil, written_ue, written_flag,
    written_se, written_map]

theorem written_cropping (c : Cropping) : Written c.word := by
  simp [Cropping.word, written_join_cons, written_join_nil, written_ue]

theorem written_highProfile (h : HighProfile) : Written h.word := by
  simp [HighProfile.word, HighProfile.listsWord, ScalingList.word, written_join_cons,
    written_join_nil, written_ue, written_flag, written_se, written_onlyIf, written_optional,
    written_map]

theorem written_parameterSet {s : ParameterSet} : Written s.word ↔ s.FieldsFit := by
  have hhigh : Written (s.high.elim (.join []) HighProfile.word) := by
    cases s.high
    · exact written_join_nil
    · exact written_highProfile _
  simp only [ParameterSet.word, ParameterSet.FieldsFit, written_join_cons, written_join_nil, hhigh,
    written_octet, written_ue, written_orderCount, written_flag, written_onlyIf, written_optional,
    written_cropping, written_vui, implies_true, true_and, and_true]

namespace ParameterSet

theorem WellFormed.fieldsFit {s : ParameterSet} (h : s.WellFormed) : s.FieldsFit := by
  have hhrd {d : Hrd} (hd : d.WellFormed) : d.FieldsFit :=
    ⟨hd.bitRateScale, hd.cpbSizeScale, hd.initialRemovalDelayLength, hd.removalDelayLength,
      hd.outputDelayLength, hd.timeOffsetLength⟩
  intro v hv
  have hvui := h.vui v hv
  exact ⟨hvui.videoSignal, fun d hd => hhrd (hvui.nalHrd d hd),
    fun d hd => hhrd (hvui.vclHrd d hd)⟩

end ParameterSet

end AvcPipeline
