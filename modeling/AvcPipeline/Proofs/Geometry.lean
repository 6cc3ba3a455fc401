import AvcPipeline.Device.Simulated
import AvcPipeline.Session.Lifecycle
import Mathlib.Order.Bounds.Defs

/-!
# Legal geometries and the memory they take

Rounding up cannot leave the largest legal size, since that is aligned itself. So the memory of a
decoder stays far below what a block can have.
-/

namespace AvcPipeline

structure InitInfo.Legal (i : InitInfo) : Prop where
  horizontal : i.horizontal.toNat ≤ 1920
  vertical : i.vertical.toNat ≤ 1088
  refFrames : i.refFrames = 5

namespace Geometry

theorem toNat_roundUp (size : UInt32) :
    (roundUp size).toNat = max 64 (min ((size.toNat + 15) / 16 * 16) 0xFFFFFFF0) := by
  let rounded := min ((size.toNat + 15) / 16 * 16) 0xFFFFFFF0
  have hto : (UInt32.ofNat rounded).toNat = rounded :=
    UInt32.toNat_ofNat_of_lt' (Nat.lt_of_le_of_lt (Nat.min_le_right _ _) (by decide))
  have hmax : roundUp size = if minSize ≤ .ofNat rounded then .ofNat rounded else minSize := rfl
  by_cases hle : minSize ≤ .ofNat rounded
  · rw [hmax, if_pos hle, hto]
    rw [UInt32.le_iff_toNat_le, hto] at hle
    exact (Nat.max_eq_right hle).symm
  · rw [hmax, if_neg hle]
    rw [UInt32.le_iff_toNat_le, hto, Nat.not_le] at hle
    exact (Nat.max_eq_left (Nat.le_of_lt hle)).symm

theorem isLeast_roundUp {size : UInt32} (h : size.toNat ≤ 0xFFFFFFF0) :
    IsLeast {n | 16 ∣ n ∧ max 64 size.toNat ≤ n} (roundUp size).toNat := by
  have hblocks : (size.toNat + 15) / 16 * 16 ≤ 0xFFFFFFF0 := by omega
  rw [toNat_roundUp, Nat.min_eq_left hblocks]
  refine ⟨⟨?_, ?_⟩, ?_⟩
  · omega
  · omega
  · rintro n ⟨haligned, hle⟩
    omega

/-- The height that is asked for in place of 540 is the one that 540 is rounded up to. -/
theorem roundUp_requestedHeight (width height : UInt32) :
    roundUp (requestedHeight width height) = roundUp height := by
  unfold requestedHeight
  split
  · rename_i hsize
    rw [hsize.2]
    decide
  · rfl

theorem supported_iff {width height : UInt32} : supported width height = true ↔
    (1 ≤ width.toNat ∧ width.toNat ≤ 1920) ∧ 1 ≤ height.toNat ∧ height.toNat ≤ 1088 := by
  have hpos (size : UInt32) : size ≠ 0 ↔ 1 ≤ size.toNat := by
    rw [Nat.one_le_iff_ne_zero, ne_eq, ← UInt32.toNat_inj]
    rfl
  have hwidth : width ≤ maxWidth ↔ width.toNat ≤ 1920 := UInt32.le_iff_toNat_le
  have hheight : height ≤ maxHeight ↔ height.toNat ≤ 1088 := UInt32.le_iff_toNat_le
  simp only [supported, Bool.and_eq_true, decide_eq_true_eq, hpos, hwidth, hheight]
  omega

theorem legal_of_negotiate {width height : UInt32} {g : Geometry}
    (h : negotiate? width height = some g) : g.initInfo.Legal := by
  unfold negotiate? at h
  by_cases hsupported : supported width height = true
  · rw [if_pos hsupported] at h
    obtain rfl := Option.some.inj h
    obtain ⟨⟨-, hwidth⟩, -, hheight⟩ := supported_iff.mp hsupported
    refine ⟨?_, ?_, rfl⟩
    · change (roundUp width).toNat ≤ 1920
      rw [toNat_roundUp]
      omega
    · change (roundUp (requestedHeight width height)).toNat ≤ 1088
      rw [roundUp_requestedHeight, toNat_roundUp]
      omega
  · rw [if_neg hsupported] at h
    cases h

end Geometry

theorem memoryNeeded_lt {info : InitInfo} (h : info.Legal) :
    Device.memoryNeeded info.decoderInfo < UInt32.size := by
  have hpixels : info.horizontal.toNat * info.vertical.toNat ≤ 1920 * 1088 :=
    Nat.mul_le_mul h.horizontal h.vertical
  have hframes : info.refFrames.toNat = 5 := by rw [h.refFrames]; rfl
  simp only [Device.memoryNeeded, InitInfo.decoderInfo, hframes, UInt32.size]
  omega

namespace Device

theorem toNat_memorySize {info : DecoderInfo} (h : sizeFits info = true) :
    (memorySize info).toNat = memoryNeeded info := by
  obtain ⟨hpixels, hneeded⟩ : info.horizontal.toNat * info.vertical.toNat * 3 < UInt64.size ∧
      memoryNeeded info < UInt64.size := by simpa [sizeFits] using h
  have hpictures : (info.horizontal.toUInt64 * info.vertical.toUInt64 * 3).toNat =
      info.horizontal.toNat * info.vertical.toNat * 3 := by
    rw [UInt64.size] at hpixels
    rw [UInt64.toNat_mul, UInt64.toNat_mul, UInt32.toNat_toUInt64, UInt32.toNat_toUInt64]
    simp only [UInt64.reduceToNat]
    omega
  have hframes : (info.refFrames.toUInt64 + 1).toNat = info.refFrames.toNat + 1 := by
    have hword := info.refFrames.toNat_lt_size
    rw [UInt32.size] at hword
    rw [UInt64.toNat_add, UInt32.toNat_toUInt64]
    simp only [UInt64.reduceToNat]
    omega
  rw [memoryNeeded, UInt64.size] at hneeded
  rw [memorySize, UInt64.toNat_add, UInt64.toNat_mul, hframes, UInt64.toNat_div, hpictures,
    memoryNeeded]
  simp only [UInt64.reduceToNat]
  omega

end Device

theorem sizeFits_of_legal {info : InitInfo} (h : info.Legal) :
    Device.sizeFits info.decoderInfo = true := by
  have hpixels : info.horizontal.toNat * info.vertical.toNat ≤ 1920 * 1088 :=
    Nat.mul_le_mul h.horizontal h.vertical
  have hneeded := Nat.lt_trans (memoryNeeded_lt h) (by decide : UInt32.size < UInt64.size)
  have hroom : 1920 * 1088 * 3 < UInt64.size := by decide
  rw [Device.sizeFits, Bool.and_eq_true, decide_eq_true_eq, decide_eq_true_eq]
  exact ⟨Nat.lt_of_le_of_lt (Nat.mul_le_mul_right 3 hpixels) hroom, hneeded⟩

theorem exists_blockSize {info : InitInfo} (h : info.Legal) :
    ∃ size, Session.blockSize? (Device.memorySize info.decoderInfo) = some size := by
  have hneeded := memoryNeeded_lt h
  have hroom : UInt32.size + Session.blockAlignment.toNat ≤ UInt64.size := by decide
  refine ⟨_, if_pos ?_⟩
  rw [Device.toNat_memorySize (sizeFits_of_legal h)]
  omega

end AvcPipeline
