import AvcPipeline.Bits.Basic
import Mathlib.Tactic.Ring

/-!
# Numbers and bytes as bit strings

A bit string of a given width and the number that it spells determine each other, and so do bytes
and bit strings of whole bytes. Packing a bit string and unpacking the bytes gives it back, filled
up with zeros to a whole byte.
-/

namespace AvcPipeline.Bits

@[simp] theorem length_toBits (width value : Nat) : (toBits width value).length = width := by
  induction width with
  | zero => rfl
  | succ width ih => simp only [toBits, List.length_cons, ih]

@[simp] theorem ofBits_nil : ofBits [] = 0 := rfl

theorem foldl_ofBits (bits : List Bool) (value : Nat) :
    bits.foldl (fun value bit => 2 * value + bit.toNat) value =
      value * 2 ^ bits.length + ofBits bits := by
  induction bits generalizing value with
  | nil => simp
  | cons bit bits ih =>
    have hzero := ih (2 * 0 + bit.toNat)
    simp only [ofBits, List.foldl_cons, List.length_cons, ih (2 * value + bit.toNat)] at hzero ⊢
    rw [hzero]
    ring

theorem ofBits_cons (bit : Bool) (bits : List Bool) :
    ofBits (bit :: bits) = bit.toNat * 2 ^ bits.length + ofBits bits := by
  rw [ofBits, List.foldl_cons, foldl_ofBits, Nat.mul_zero, Nat.zero_add]

theorem ofBits_lt (bits : List Bool) : ofBits bits < 2 ^ bits.length := by
  induction bits with
  | nil => simp
  | cons bit bits ih =>
    rw [ofBits_cons, List.length_cons, Nat.pow_succ]
    cases bit <;> simp only [Bool.toNat_false, Bool.toNat_true] <;> omega

theorem toBits_mod {width large : Nat} (h : width ≤ large) (value : Nat) :
    toBits width (value % 2 ^ large) = toBits width value := by
  induction width with
  | zero => rfl
  | succ width ih =>
    have hlt : width < large := by omega
    simp only [toBits, Nat.testBit_mod_two_pow, hlt, decide_true, Bool.true_and, ih (by omega)]

theorem ofBits_toBits (width value : Nat) : ofBits (toBits width value) = value % 2 ^ width := by
  induction width with
  | zero => simp [toBits, Nat.mod_one]
  | succ width ih =>
    rw [toBits, ofBits_cons, ih, length_toBits, Nat.testBit_eq_decide_div_mod_eq,
      Nat.mod_pow_succ]
    rcases Nat.mod_two_eq_zero_or_one (value / 2 ^ width) with h | h <;> simp [h, Nat.add_comm]

theorem toBits_ofBits (bits : List Bool) : toBits bits.length (ofBits bits) = bits := by
  induction bits with
  | nil => rfl
  | cons bit bits ih =>
    have hlt := ofBits_lt bits
    have hmod : ofBits (bit :: bits) % 2 ^ bits.length = ofBits bits := by
      rw [ofBits_cons, Nat.add_comm, Nat.add_mul_mod_self_right, Nat.mod_eq_of_lt hlt]
    have hbit : (ofBits (bit :: bits)).testBit bits.length = bit := by
      rw [Nat.testBit_eq_decide_div_mod_eq, ofBits_cons, Nat.add_comm,
        Nat.add_mul_div_right _ _ (Nat.two_pow_pos _), Nat.div_eq_of_lt hlt]
      cases bit <;> simp
    rw [List.length_cons, toBits, hbit, ← toBits_mod le_rfl, hmod, ih]

/-! ## Bytes -/

@[simp] theorem unpack_nil : unpack [] = [] := rfl

@[simp] theorem unpack_cons (byte : UInt8) (data : Bytes) :
    unpack (byte :: data) = toBits 8 byte.toNat ++ unpack data := rfl

theorem length_unpack (data : Bytes) : (unpack data).length = 8 * data.length := by
  induction data with
  | nil => rfl
  | cons byte data ih =>
    rw [unpack_cons, List.length_append, length_toBits, ih, List.length_cons]
    omega

/-- A chunk of at most eight bits is the front of its byte, and zeros are the rest. -/
theorem toBits_packByte {chunk : List Bool} (h : chunk.length ≤ 8) :
    toBits 8 (packByte chunk).toNat = chunk ++ List.replicate (8 - chunk.length) false := by
  let filled := chunk ++ List.replicate (8 - chunk.length) false
  have hlength : filled.length = 8 := by
    rw [List.length_append, List.length_replicate]
    omega
  have hlt : ofBits filled < 2 ^ 8 := hlength ▸ ofBits_lt filled
  calc
    toBits 8 (packByte chunk).toNat = toBits 8 (ofBits filled) := by
      rw [packByte, UInt8.toNat_ofNat', Nat.mod_eq_of_lt hlt]
    _ = filled := by rw [← hlength, toBits_ofBits]

theorem unpack_pack (bits : List Bool) :
    unpack (pack bits) = bits ++ List.replicate ((8 - bits.length % 8) % 8) false := by
  fun_induction pack bits with
  | case1 => rfl
  | case2 first rest ih =>
    have hchunk : (first :: rest.take 7).length ≤ 8 := by simp
    rw [unpack_cons, toBits_packByte hchunk, ih]
    by_cases hlong : 7 ≤ rest.length
    · have hfull : (first :: rest.take 7).length = 8 := by simp; omega
      have hrest : (8 - (rest.drop 7).length % 8) % 8 = (8 - (first :: rest).length % 8) % 8 := by
        simp only [List.length_drop, List.length_cons]; omega
      rw [hfull, hrest, Nat.sub_self, List.replicate_zero, List.append_nil, List.cons_append,
        ← List.append_assoc, List.take_append_drop, List.cons_append]
    · have hend : rest.drop 7 = [] := List.drop_eq_nil_of_le (by omega)
      have hall : rest.take 7 = rest := List.take_of_length_le (by omega)
      have hfill : (8 - (first :: rest).length % 8) % 8 = 8 - (first :: rest).length := by
        simp only [List.length_cons]; omega
      rw [hend, hall, hfill]
      simp

theorem unpack_pack_of_dvd {bits : List Bool} (h : 8 ∣ bits.length) :
    unpack (pack bits) = bits := by
  have hfill : (8 - bits.length % 8) % 8 = 0 := by omega
  rw [unpack_pack, hfill, List.replicate_zero, List.append_nil]

theorem unpack_append (data more : Bytes) : unpack (data ++ more) = unpack data ++ unpack more :=
  List.flatMap_append

/-- The last byte holds the last one, if fewer than eight zeros follow it. -/
theorem getLast?_ne_zero {data : Bytes} {bits : List Bool} {fill : Nat} (hfill : fill < 8)
    (h : unpack data = bits ++ true :: List.replicate fill false) : data.getLast? ≠ some 0 := by
  intro hzero
  obtain ⟨init, rfl⟩ := List.getLast?_eq_some_iff.mp hzero
  have hlast : unpack (init ++ [0]) = unpack init ++ List.replicate 8 false :=
    unpack_append init [0]
  have hreversed : List.replicate 8 false ++ (unpack init).reverse =
      List.replicate fill false ++ true :: bits.reverse := by
    have hends := congrArg List.reverse (hlast.symm.trans h)
    rwa [List.reverse_append, List.reverse_replicate, List.reverse_append, List.reverse_cons,
      List.reverse_replicate, List.append_assoc] at hends
  have hzeros : (List.replicate 8 false ++ (unpack init).reverse)[fill]? = some false := by
    rw [List.getElem?_append_left (by rwa [List.length_replicate]), List.getElem?_replicate,
      if_pos hfill]
  have hone : (List.replicate fill false ++ true :: bits.reverse)[fill]? = some true := by
    rw [List.getElem?_append_right (Nat.le_of_eq List.length_replicate), List.length_replicate,
      Nat.sub_self]
    rfl
  rw [hreversed, hone] at hzeros
  cases hzeros

end AvcPipeline.Bits
