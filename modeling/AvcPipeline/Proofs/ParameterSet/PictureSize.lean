import AvcPipeline.Proofs.ParameterSet.Syntax

/-!
# Picture sizes in exact numbers

The sizes of a picture are defined by formulas on whole numbers. Saturating arithmetic gives what
they give for every parameter set that can be read: the limits on the dimensions keep the coded size
small, and whatever is cropped by offsets so large that their sum or its product saturates, nothing
is left of the picture either way.
-/

namespace AvcPipeline.ParameterSet

open Word32

/-- `ChromaArrayType`: planes that are coded separately have no chroma arrays. The format is 4:2:0
where it is not transmitted. -/
def chromaArrayType (s : ParameterSet) : Nat :=
  match s.high with
  | none => 1
  | some high => if high.separateColourPlane then 0 else high.chromaFormatIdc.toNat

/-- `SubWidthC` and `SubHeightC`: the luma samples that a sample of a chroma array stands for,
across and down. -/
def samplesPerChroma : Nat → Nat × Nat
  | 1 => (2, 2)
  | 2 => (2, 1)
  | _ => (1, 1)

def fieldCount (s : ParameterSet) : Nat :=
  if s.frameMbsOnly then 1 else 2

/-- `CropUnitX`, in luma samples. -/
def cropUnitX (s : ParameterSet) : Nat :=
  if s.chromaArrayType = 0 then 1 else (samplesPerChroma s.chromaArrayType).1

/-- `CropUnitY`, in luma samples. -/
def cropUnitY (s : ParameterSet) : Nat :=
  if s.chromaArrayType = 0 then s.fieldCount
  else (samplesPerChroma s.chromaArrayType).2 * s.fieldCount

/-- The picture sizes are those of the formulas, in exact numbers. -/
structure ExactSizes (s : ParameterSet) : Prop where
  codedWidth : s.codedWidth.toNat = 16 * (s.widthInMbsMinus1.toNat + 1)
  codedWidth_le : s.codedWidth.toNat ≤ 16880
  codedHeight :
    s.codedHeight.toNat = 16 * s.fieldCount * (s.heightInMapUnitsMinus1.toNat + 1)
  codedHeight_le : s.codedHeight.toNat ≤ 33760
  width : (s.width.toNat : Int) = max 0 ((s.codedWidth.toNat : Int) -
    s.cropUnitX * ((s.cropping.getD {}).left.toNat + (s.cropping.getD {}).right.toNat))
  height : (s.height.toNat : Int) = max 0 ((s.codedHeight.toNat : Int) -
    s.cropUnitY * ((s.cropping.getD {}).top.toNat + (s.cropping.getD {}).bottom.toNat))

/-! ## Cropping -/

/-- If a sum or a product saturates, it is no less than any size, and so is the exact one. -/
theorem toNat_cropped {size unit first second : UInt32} (hunit : 1 ≤ unit.toNat) :
    ((satSub size (satMul unit (satAdd first second))).toNat : Int) =
      max 0 ((size.toNat : Int) - unit.toNat * (first.toNat + second.toNat)) := by
  have hsize : size.toNat ≤ 0xFFFFFFFF := Nat.le_of_lt_succ size.toNat_lt
  rw [toNat_satSub, toNat_satMul, toNat_satAdd, ← Nat.cast_add, ← Nat.cast_mul]
  by_cases hsum : first.toNat + second.toNat ≤ 0xFFFFFFFF
  · rw [Nat.min_eq_left hsum]
    omega
  · have hexact : 0xFFFFFFFF ≤ unit.toNat * (first.toNat + second.toNat) :=
      (Nat.le_of_not_le hsum).trans (Nat.le_mul_of_pos_left _ hunit)
    have hsaturated : 0xFFFFFFFF ≤ unit.toNat * 0xFFFFFFFF := Nat.le_mul_of_pos_left _ hunit
    rw [Nat.min_eq_right (Nat.le_of_not_le hsum)]
    omega

variable {s : ParameterSet}

theorem toNat_fieldFactor (s : ParameterSet) : s.fieldFactor.toNat = s.fieldCount := by
  unfold fieldFactor fieldCount
  split <;> rfl

theorem toNat_mul_fieldFactor {count : UInt32} (h : count ≤ 16) :
    (count * s.fieldFactor).toNat = count.toNat * s.fieldCount := by
  have hcount : count.toNat ≤ 16 := UInt32.le_iff_toNat_le.mp h
  rw [UInt32.toNat_mul, toNat_fieldFactor, Nat.mod_eq_of_lt]
  unfold fieldCount
  split <;> omega

/-- Planes that are coded separately are sampled alike, so that they are cropped by the sample. -/
theorem toNat_cropUnits (h : s.WellFormed) :
    s.cropUnits.1.toNat = s.cropUnitX ∧ s.cropUnits.2.toNat = s.cropUnitY := by
  have hsingle := toNat_fieldFactor s
  have hdouble : (2 * s.fieldFactor).toNat = 2 * s.fieldCount := toNat_mul_fieldFactor (by decide)
  cases hhigh : s.high with
  | none =>
    simp [cropUnits, chromaSubsampling, cropUnitX, cropUnitY, chromaArrayType, samplesPerChroma,
      hhigh, hdouble]
  | some high =>
    simp only [cropUnits, chromaSubsampling, cropUnitX, cropUnitY, chromaArrayType, hhigh]
    cases hseparate : high.separateColourPlane with
    | true =>
      have hidc : high.chromaFormatIdc = 3 := by
        by_contra hother
        rw [(h.high high hhigh).separateColourPlane hother] at hseparate
        cases hseparate
      simp [hidc, hsingle]
    | false =>
      by_cases hone : high.chromaFormatIdc = 1
      · simp [hone, samplesPerChroma, hdouble]
      · by_cases htwo : high.chromaFormatIdc = 2
        · simp [htwo, samplesPerChroma, hsingle]
        · have hsame : samplesPerChroma high.chromaFormatIdc.toNat = (1, 1) := by
            rw [samplesPerChroma]
            · exact fun heq => hone (UInt32.toNat_inj.mp heq)
            · exact fun heq => htwo (UInt32.toNat_inj.mp heq)
          simp [hone, htwo, hsame, hsingle]

theorem cropUnits_pos (s : ParameterSet) : 1 ≤ s.cropUnits.1.toNat ∧ 1 ≤ s.cropUnits.2.toNat := by
  unfold cropUnits fieldFactor
  refine ⟨?_, ?_⟩
  · dsimp only
    split <;> decide
  · dsimp only
    split <;> split <;> decide

/-! ## All sizes -/

theorem toNat_codedWidth (h : s.WellFormed) :
    s.codedWidth.toNat = 16 * (s.widthInMbsMinus1.toNat + 1) := by
  have hwidth : s.widthInMbsMinus1.toNat < 1055 := UInt32.lt_iff_toNat_lt.mp h.width
  have hone : (1 : UInt32).toNat = 1 := rfl
  have hblock : (16 : UInt32).toNat = 16 := rfl
  rw [codedWidth, toNat_satMul, toNat_satAdd, hone, hblock]
  omega

theorem toNat_codedHeight (h : s.WellFormed) :
    s.codedHeight.toNat = 16 * s.fieldCount * (s.heightInMapUnitsMinus1.toNat + 1) := by
  have hheight : s.heightInMapUnitsMinus1.toNat < 1055 := UInt32.lt_iff_toNat_lt.mp h.height
  have hone : (1 : UInt32).toNat = 1 := rfl
  have hblock : (16 * s.fieldFactor).toNat = 16 * s.fieldCount := toNat_mul_fieldFactor (by decide)
  rw [codedHeight, toNat_satMul, toNat_satAdd, hone, hblock]
  unfold fieldCount
  split <;> omega

theorem WellFormed.exactSizes (h : s.WellFormed) : s.ExactSizes := by
  have hwidth : s.widthInMbsMinus1.toNat < 1055 := UInt32.lt_iff_toNat_lt.mp h.width
  have hheight : s.heightInMapUnitsMinus1.toNat < 1055 := UInt32.lt_iff_toNat_lt.mp h.height
  obtain ⟨hunitX, hunitY⟩ := toNat_cropUnits h
  obtain ⟨hposX, hposY⟩ := cropUnits_pos s
  refine ⟨toNat_codedWidth h, ?_, toNat_codedHeight h, ?_, ?_, ?_⟩
  · rw [toNat_codedWidth h]
    omega
  · rw [toNat_codedHeight h]
    unfold fieldCount
    split <;> omega
  · cases hcropping : s.cropping with
    | none => simp [ParameterSet.width, hcropping]
    | some c =>
      simp only [ParameterSet.width, hcropping, toNat_cropped hposX, hunitX, Option.getD_some]
  · cases hcropping : s.cropping with
    | none => simp [ParameterSet.height, hcropping]
    | some c =>
      simp only [ParameterSet.height, hcropping, toNat_cropped hposY, hunitY, Option.getD_some]

/-- Whatever bits a parameter set is read from, its picture sizes are exact. -/
theorem exactSizes_of_read {r r' : Bits.Reader} (h : read r = .ok s r') : s.ExactSizes :=
  (reads_parameterSet.mp h).1.exactSizes

/-- Pictures of two fields in the format 4:2:2, cropped at both sides by the largest offsets that
can be read. -/
def interlaced : ParameterSet where
  profileIdc := 122
  levelIdc := 40
  high := some { chromaFormatIdc := 2 }
  maxNumRefFrames := 1
  widthInMbsMinus1 := 119
  heightInMapUnitsMinus1 := 33
  direct8x8Inference := true
  cropping := some { left := 0xFFFFFFFE, right := 0xFFFFFFFE, top := 1, bottom := 2 }

def interlacedPayload : Bytes :=
  [122, 0, 40, 188, 180, 3, 192, 34, 48, 0, 0, 0, 31, 255, 255, 255, 224, 0, 0, 0, 63, 255, 255,
    255, 211, 64]

theorem exactSizes_interlaced :
    (∃ r', read (.ofBytes interlacedPayload) = .ok interlaced r') ∧ interlaced.ExactSizes ∧
      interlaced.width = 0 ∧ interlaced.height = 16 * 2 * 34 - 2 * (1 + 2) := by
  have hread : read (.ofBytes interlacedPayload) =
      .ok interlaced ⟨(Bits.unpack [64]).drop 1, 201⟩ := by rfl
  exact ⟨⟨_, hread⟩, exactSizes_of_read hread, by decide, by decide⟩

end AvcPipeline.ParameterSet
