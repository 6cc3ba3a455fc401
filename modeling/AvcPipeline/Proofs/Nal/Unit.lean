import AvcPipeline.Nal.Header
import AvcPipeline.Proofs.Nal.Escape

/-!
# Header bytes and units

Header bytes with the top bit clear stand for exactly the headers whose fields fit their bits. A
unit is cut where its start code ends.
-/

namespace AvcPipeline.Nal

namespace Header

structure Fits (h : Header) : Prop where
  refIdc : h.refIdc ≤ 3
  unitType : h.unitType ≤ 31

theorem fits_of_clear {byte : UInt8} (h : byte &&& 0x80 = 0) :
    (byte >>> 5) &&& 0x3 ≤ 3 ∧ byte &&& 0x1F ≤ 31 ∧
      toByte ⟨(byte >>> 5) &&& 0x3, byte &&& 0x1F⟩ = byte := by
  obtain ⟨bits⟩ := byte
  revert bits
  decide +kernel

theorem fields_toByte {h : Header} (hfits : h.Fits) :
    h.toByte &&& 0x80 = 0 ∧ (⟨(h.toByte >>> 5) &&& 0x3, h.toByte &&& 0x1F⟩ : Header) = h := by
  have hall : ∀ r < 4, ∀ t < 32,
      let byte := toByte ⟨.ofNat r, .ofNat t⟩
      byte &&& 0x80 = 0 ∧
        (⟨(byte >>> 5) &&& 0x3, byte &&& 0x1F⟩ : Header) = ⟨.ofNat r, .ofNat t⟩ := by
    decide +kernel
  have href : h.refIdc.toNat < 4 := Nat.lt_succ_of_le hfits.refIdc
  have htype : h.unitType.toNat < 32 := Nat.lt_succ_of_le hfits.unitType
  have hbyte := hall _ href _ htype
  rwa [UInt8.ofNat_toNat, UInt8.ofNat_toNat] at hbyte

theorem toNat_toByte (h : Header) :
    h.toByte.toNat = 32 * (h.refIdc.toNat % 4) + h.unitType.toNat % 32 := by
  have href : (h.refIdc &&& 0x3).toNat = h.refIdc.toNat % 4 :=
    Nat.and_two_pow_sub_one_eq_mod h.refIdc.toNat 2
  have htype : (h.unitType &&& 0x1F).toNat = h.unitType.toNat % 32 :=
    Nat.and_two_pow_sub_one_eq_mod h.unitType.toNat 5
  have hlow : h.unitType.toNat % 32 < 2 ^ 5 := Nat.mod_lt _ (by decide)
  have hhigh : ((h.refIdc &&& 0x3) <<< 5).toNat = (h.refIdc.toNat % 4) <<< 5 := by
    have hfits : (h.refIdc.toNat % 4) <<< 5 < 2 ^ 8 := by
      rw [Nat.shiftLeft_eq]
      omega
    rw [UInt8.toNat_shiftLeft, href]
    exact Nat.mod_eq_of_lt hfits
  rw [toByte, UInt8.toNat_or, hhigh, htype, ← Nat.shiftLeft_add_eq_or_of_lt hlow, Nat.shiftLeft_eq,
    Nat.mul_comm]

theorem toByte_ne_zero {h : Header} (hfits : h.Fits) (htype : h.unitType ≠ 0) : h.toByte ≠ 0 := by
  intro hzero
  have hfields := (fields_toByte hfits).2
  rw [hzero] at hfields
  exact htype (congrArg unitType hfields).symm

theorem ofByte?_toByte {h : Header} (hfits : h.Fits) : ofByte? h.toByte = .ok h := by
  obtain ⟨hclear, hfields⟩ := fields_toByte hfits
  rw [ofByte?, if_pos hclear, hfields]

theorem ofByte?_eq_ok {byte : UInt8} {h : Header} :
    ofByte? byte = .ok h ↔ h.Fits ∧ h.toByte = byte := by
  constructor
  · intro hread
    unfold ofByte? at hread
    by_cases hclear : byte &&& 0x80 = 0
    · rw [if_pos hclear] at hread
      obtain ⟨href, htype, hbyte⟩ := fits_of_clear hclear
      injection hread with hheader
      subst hheader
      exact ⟨⟨href, htype⟩, hbyte⟩
    · rw [if_neg hclear] at hread
      cases hread
  · rintro ⟨hfits, rfl⟩
    exact ofByte?_toByte hfits

end Header

theorem split?_eq_ok {unit payload : Bytes} {h : Header} :
    split? unit = .ok (h, payload) ↔
      ∃ length, startCodeLength? unit = some length ∧
        unit.drop length = h.toByte :: payload ∧ h.Fits := by
  constructor
  · intro hsplit
    unfold split? at hsplit
    cases hlength : startCodeLength? unit with
    | none => simp [hlength] at hsplit
    | some length =>
      cases hrest : unit.drop length with
      | nil => simp [hlength, hrest] at hsplit
      | cons byte rest =>
        cases hbyte : Header.ofByte? byte with
        | error e => simp [hlength, hrest, hbyte, Except.map] at hsplit
        | ok header =>
          simp only [hlength, hrest, hbyte, Except.map, Except.ok.injEq, Prod.mk.injEq] at hsplit
          obtain ⟨rfl, rfl⟩ := hsplit
          obtain ⟨hfits, rfl⟩ := Header.ofByte?_eq_ok.mp hbyte
          exact ⟨length, rfl, hrest, hfits⟩
  · rintro ⟨length, hlength, hrest, hfits⟩
    simp only [split?, hlength, hrest, Header.ofByte?_toByte hfits, Except.map]

def unitType? (unit : Bytes) : Option UInt8 :=
  (split? unit).toOption.map fun split => split.1.unitType

theorem unitType?_of_split {unit payload : Bytes} {header : Header}
    (h : split? unit = .ok (header, payload)) : unitType? unit = some header.unitType := by
  rw [unitType?, h]
  rfl

def isReadable (unit : Bytes) : Bool := (split? unit).isOk

def frame (h : Header) (payload : Bytes) : Bytes :=
  startCode ++ h.toByte :: escape payload

theorem split?_frame {h : Header} (hfits : h.Fits) (payload : Bytes) :
    split? (frame h payload) = .ok (h, escape payload) :=
  split?_eq_ok.mpr ⟨4, rfl, rfl, hfits⟩

end AvcPipeline.Nal
