/-!
# Saturating 32-bit arithmetic

Sizes and counters stay at the largest value instead of wrapping around, and at zero instead of
going below it.
-/

namespace AvcPipeline.Word32

def clamp (n : Nat) : UInt32 :=
  UInt32.ofNat (min n 0xFFFFFFFF)

def satAdd (a b : UInt32) : UInt32 := clamp (a.toNat + b.toNat)

def satMul (a b : UInt32) : UInt32 := clamp (a.toNat * b.toNat)

def satSub (a b : UInt32) : UInt32 := clamp (a.toNat - b.toNat)

theorem toNat_clamp (n : Nat) : (clamp n).toNat = min n 0xFFFFFFFF :=
  UInt32.toNat_ofNat_of_lt' (Nat.lt_of_le_of_lt (Nat.min_le_right _ _) (by decide))

theorem toNat_satAdd (a b : UInt32) : (satAdd a b).toNat = min (a.toNat + b.toNat) 0xFFFFFFFF :=
  toNat_clamp _

theorem toNat_satMul (a b : UInt32) : (satMul a b).toNat = min (a.toNat * b.toNat) 0xFFFFFFFF :=
  toNat_clamp _

theorem toNat_satSub (a b : UInt32) : (satSub a b).toNat = a.toNat - b.toNat := by
  have hle : a.toNat - b.toNat ≤ 0xFFFFFFFF :=
    Nat.le_trans (Nat.sub_le _ _) (Nat.le_of_lt_succ a.toNat_lt)
  rw [satSub, toNat_clamp, Nat.min_eq_left hle]

end AvcPipeline.Word32
