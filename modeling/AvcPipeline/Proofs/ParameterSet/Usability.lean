import AvcPipeline.Proofs.ParameterSet.Word

/-!
# The usability information in a bit string

Every group of the usability information, the buffer descriptions included, is read exactly where
the word of a well-formed group lies.
-/

namespace AvcPipeline

open Bits ParameterSet

variable {r r' : Reader}

theorem reads_schedule {s : BufferSchedule} :
    Reads BufferSchedule.read r s r' ↔ s.WellFormed ∧ Spells s.word r r' := by
  obtain ⟨bitRate, cpbSize, constant⟩ := s
  simp only [BufferSchedule.read, BufferSchedule.word, BufferSchedule.wellFormed_iff, reads_bind,
    reads_number, reads_flag, reads_pure, spells_join_cons, spells_join_nil,
    BufferSchedule.mk.injEq]
  simp only [existsAndEq, and_true]
  simp only [exists_and_left_comm, exists_and_left, and_assoc]

theorem reads_sizes {sizes : UInt16 × UInt16} :
    Reads AspectRatio.readSizes r sizes r' ↔
      True ∧ Spells (AspectRatio.sizesWord sizes.1 sizes.2) r r' := by
  obtain ⟨width, height⟩ := sizes
  simp only [AspectRatio.readSizes, AspectRatio.sizesWord, reads_bind, reads_short, reads_pure,
    spells_join_cons, spells_join_nil, Prod.mk.injEq, true_and]
  simp only [existsAndEq, and_true]

theorem reads_aspectRatio {a : AspectRatio} :
    Reads AspectRatio.read r a r' ↔ a.WellFormed ∧ Spells a.word r r' := by
  obtain ⟨idc, width, height⟩ := a
  simp only [AspectRatio.read, AspectRatio.word, AspectRatio.WellFormed, reads_bind, reads_octet,
    reads_if reads_sizes, reads_pure, spells_join_cons, spells_join_nil, Prod.exists,
    Prod.mk.injEq, AspectRatio.mk.injEq, decide_eq_false_iff_not, implies_true, true_and, ne_eq]
  simp only [existsAndEq, and_true]
  simp only [exists_and_left_comm]

theorem reads_colourDescription {c : ColourDescription} :
    Reads ColourDescription.read r c r' ↔ True ∧ Spells c.word r r' := by
  obtain ⟨primaries, transfer, matrix⟩ := c
  simp only [ColourDescription.read, ColourDescription.word, reads_bind, reads_octet, reads_pure,
    spells_join_cons, spells_join_nil, ColourDescription.mk.injEq, true_and]
  simp only [existsAndEq, and_true, exists_and_left]

theorem reads_videoSignal {v : VideoSignal} :
    Reads VideoSignal.read r v r' ↔ v.WellFormed ∧ Spells v.word r r' := by
  obtain ⟨format, full, colour⟩ := v
  simp only [VideoSignal.read, VideoSignal.word, VideoSignal.WellFormed, reads_bind,
    reads_byte (by decide : 0 < 3) (by decide), reads_flag, reads_optional reads_colourDescription,
    reads_pure, spells_join_cons, spells_join_nil, VideoSignal.mk.injEq, Nat.reducePow]
  simp only [existsAndEq, and_true, implies_true, true_and]
  simp only [exists_and_left, and_assoc]

theorem reads_chromaLocation {l : UInt32 × UInt32} :
    Reads Vui.readChromaLocation r l r' ↔
      (l.1 ≠ unreadable ∧ l.2 ≠ unreadable) ∧ Spells (Vui.chromaLocationWord l) r r' := by
  obtain ⟨top, bottom⟩ := l
  simp only [Vui.readChromaLocation, Vui.chromaLocationWord, reads_bind, reads_number, reads_pure,
    spells_join_cons, spells_join_nil, Prod.mk.injEq]
  simp only [existsAndEq, and_true]
  simp only [exists_and_left_comm, exists_and_left, and_assoc]

theorem reads_timing {t : Timing} : Reads Timing.read r t r' ↔ True ∧ Spells t.word r r' := by
  obtain ⟨units, scale, fixed⟩ := t
  simp only [Timing.read, Timing.word, reads_bind, reads_long, reads_flag, reads_pure,
    spells_join_cons, spells_join_nil, Timing.mk.injEq, true_and]
  simp only [existsAndEq, and_true, exists_and_left]

theorem scheduleCount_iff {countMinus1 : UInt32} {length : Nat} :
    countMinus1 ≤ 31 ∧ length = countMinus1.toNat + 1 ↔
      countMinus1 = .ofNat (length - 1) ∧ 1 ≤ length ∧ length ≤ 32 := by
  constructor
  · rintro ⟨hcount, rfl⟩
    have hle : countMinus1.toNat ≤ 31 := UInt32.le_iff_toNat_le.mp hcount
    refine ⟨?_, by omega, by omega⟩
    rw [Nat.add_sub_cancel, UInt32.ofNat_toNat]
  · rintro ⟨rfl, hpos, hle⟩
    have hto : (UInt32.ofNat (length - 1)).toNat = length - 1 :=
      UInt32.toNat_ofNat_of_lt' (lt_of_le_of_lt (by omega) (by decide : 31 < UInt32.size))
    rw [UInt32.le_iff_toNat_le, hto]
    exact ⟨by change length - 1 ≤ 31; omega, by omega⟩

theorem reads_hrd {h : Hrd} : Reads Hrd.read r h r' ↔ h.WellFormed ∧ Spells h.word r r' := by
  obtain ⟨rateScale, sizeScale, schedules, initial, removal, output, offset⟩ := h
  simp only [Hrd.read, Hrd.word, Hrd.wellFormed_iff, reads_bind, reads_number, reads_demand,
    reads_byte (by decide : 0 < 4) (by decide), reads_byte (by decide : 0 < 5) (by decide),
    reads_times reads_schedule, reads_pure, spells_join_cons, spells_join_nil,
    Hrd.mk.injEq, decide_eq_true_eq, Nat.reducePow]
  simp only [existsAndEq, and_true, exists_const]
  simp only [exists_and_left_comm, exists_and_left, and_assoc]
  constructor
  · rintro ⟨count, -, hle, hrate, hsize, hcount, hrest⟩
    obtain ⟨rfl, hpos, hmax⟩ := scheduleCount_iff.mp ⟨hle, hcount⟩
    exact ⟨hpos, hmax, hrate, hsize, hrest⟩
  · rintro ⟨hpos, hmax, hrate, hsize, hrest⟩
    obtain ⟨hle, hcount⟩ := scheduleCount_iff.mpr ⟨rfl, hpos, hmax⟩
    exact ⟨_, ne_unreadable_of_le hle (by decide), hle, hrate, hsize, hcount, hrest⟩

theorem reads_restriction {x : Restriction} :
    Reads Restriction.read r x r' ↔ x.WellFormed ∧ Spells x.word r r' := by
  obtain ⟨vectors, bytes, bits, horizontal, vertical, reorder, buffering⟩ := x
  simp only [Restriction.read, Restriction.word, Restriction.wellFormed_iff, reads_bind, reads_flag,
    reads_number, reads_pure, spells_join_cons, spells_join_nil, Restriction.mk.injEq]
  simp only [existsAndEq, and_true]
  simp only [exists_and_left_comm, exists_and_left, and_assoc]

/-- The flag for low delay is transmitted only with one of the buffer descriptions. -/
theorem reads_vui {v : Vui} : Reads Vui.read r v r' ↔ v.WellFormed ∧ Spells v.word r r' := by
  obtain ⟨aspectRatio, overscan, videoSignal, chroma, timing, nalHrd, vclHrd, lowDelay, picStruct,
    restriction⟩ := v
  have hflag {r r' : Reader} {bit : Bool} :
      Reads readFlag r bit r' ↔ True ∧ Spells (.flag bit) r r' := by
    rw [reads_flag, true_and]
  simp only [Vui.read, Vui.word, Vui.wellFormed_iff, reads_bind, reads_optional reads_aspectRatio,
    reads_optional hflag, reads_optional reads_videoSignal, reads_optional reads_chromaLocation,
    reads_optional reads_timing, reads_optional reads_hrd, reads_optional reads_restriction,
    reads_flagIf, reads_flag, reads_pure, spells_join_cons, spells_join_nil, Vui.mk.injEq]
  simp only [existsAndEq, and_true, implies_true, true_and]
  simp only [exists_and_left_comm, exists_and_left, and_assoc]

end AvcPipeline
