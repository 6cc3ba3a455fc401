import AvcPipeline.Proofs.Nal.Escape
import AvcPipeline.Proofs.Nal.Unit
import AvcPipeline.Proofs.ParameterSet.Syntax
import AvcPipeline.Proofs.ParameterSet.Writable

/-!
# Payloads and units, there and back

A payload is the word of a parameter set, a stop bit and zeros up to a whole byte. What the reader
accepts from any payload is well-formed, and its word is the bits that were read. A unit is put
whole behind a buffer or not at all. Exactly the well-formed parameter sets survive as units.
-/

namespace AvcPipeline

open Bits ParameterSet

theorem dvd_length_trailing (bits : List Bool) :
    8 ∣ (bits ++ trailingWord bits.length).length := by
  rw [List.length_append, trailingWord, List.length_cons, List.length_replicate]
  omega

namespace ParameterSet

variable {s : ParameterSet} {header : Nal.Header} {payload unit : Bytes} {r : Reader}

theorem toPayload_eq {bits : List Bool} (h : s.word = .ok bits) :
    s.toPayload = .ok (pack (bits ++ trailingWord bits.length)) := by
  simp only [toPayload, h, bind, Except.bind, pure, Except.pure]

theorem getLast?_toPayload (h : s.toPayload = .ok payload) : payload.getLast? ≠ some 0 := by
  cases hbits : s.word with
  | error e =>
    rw [toPayload, hbits] at h
    cases h
  | ok bits =>
    rw [toPayload_eq hbits, Except.ok.injEq] at h
    have hfill : 7 - bits.length % 8 < 8 := by omega
    rw [← h]
    exact getLast?_ne_zero hfill (unpack_pack_of_dvd (dvd_length_trailing bits))

theorem ofPayload?_eq_ok :
    ofPayload? payload = .ok (s, r) ↔ s.WellFormed ∧ Spells s.word (.ofBytes payload) r := by
  rw [← reads_parameterSet, ofPayload?, Reads]
  cases ParameterSet.read (.ofBytes payload) <;> simp

theorem ofPayload?_toPayload (h : s.WellFormed) :
    ∃ payload r, s.toPayload = .ok payload ∧ ofPayload? payload = .ok (s, r) := by
  obtain ⟨bits, hbits⟩ := written_parameterSet.mpr h.fieldsFit
  have hunpack := unpack_pack_of_dvd (dvd_length_trailing bits)
  refine ⟨_, ⟨trailingWord bits.length, bits.length⟩, toPayload_eq hbits, ?_⟩
  refine ofPayload?_eq_ok.mpr ⟨h, bits, hbits, hunpack, ?_⟩
  exact (Nat.zero_add bits.length).symm

/-! ## Units -/

theorem appendUnit_eq (h : s.toPayload = .ok payload) (header : Nal.Header) (out : Bytes) :
    s.appendUnit header out = (.ok (), out ++ Nal.frame header payload) := by
  simp only [appendUnit, h, Nal.escapeBehind_eq, Nal.frame, List.append_assoc,
    List.singleton_append]

theorem toPayload_eq_error {e : WriteError} (h : s.word = .error e) : s.toPayload = .error e := by
  simp only [toPayload, h, bind, Except.bind]

theorem toPayload_ne_nil (h : s.toPayload = .ok payload) : payload ≠ [] := by
  rintro rfl
  cases hbits : s.word with
  | error e =>
    rw [toPayload_eq_error hbits] at h
    cases h
  | ok bits =>
    rw [toPayload_eq hbits, Except.ok.injEq] at h
    have hunpack := unpack_pack_of_dvd (dvd_length_trailing bits)
    rw [h, unpack_nil, trailingWord] at hunpack
    exact List.append_ne_nil_of_right_ne_nil _ (List.cons_ne_nil _ _) hunpack.symm

/-- A unit is not appended exactly if a narrow field holds too large a value, and then every buffer
stays as it is. Otherwise the same bytes are put behind every buffer: the start code, the header
byte and the escaped payload, which does not end in a zero. -/
theorem appendUnit_outcome (s : ParameterSet) (header : Nal.Header) :
    (¬ s.FieldsFit ∧ ∃ e, ∀ out, s.appendUnit header out = (.error e, out)) ∨
      s.FieldsFit ∧ ∃ payload byte last, s.toPayload = .ok payload ∧
        byte.toNat = 32 * (header.refIdc.toNat % 4) + header.unitType.toNat % 32 ∧
        (Nal.escape payload).getLast? = some last ∧ last ≠ 0 ∧
        ∀ out, s.appendUnit header out =
          (.ok (), out ++ ([0, 0, 0, 1] ++ byte :: Nal.escape payload)) := by
  cases hword : s.word with
  | error e =>
    refine .inl ⟨fun hfits => ?_, e, fun out => ?_⟩
    · obtain ⟨bits, hbits⟩ := written_parameterSet.mpr hfits
      rw [hword] at hbits
      cases hbits
    · simp only [appendUnit, toPayload_eq_error hword]
  | ok bits =>
    have hpayload := toPayload_eq hword
    have hlast := getLast?_toPayload hpayload
    obtain ⟨last, hsome⟩ := Option.ne_none_iff_exists'.mp
      (mt List.getLast?_eq_none_iff.mp (toPayload_ne_nil hpayload))
    rw [hsome] at hlast
    refine .inr ⟨written_parameterSet.mp ⟨bits, hword⟩, _, header.toByte, last, hpayload,
      header.toNat_toByte, (Nal.getLast?_escape _).trans hsome, ?_, appendUnit_eq hpayload header⟩
    exact fun hzero => hlast (congrArg some hzero)

theorem toUnit_eq (h : s.toPayload = .ok payload) (header : Nal.Header) :
    s.toUnit header = .ok (Nal.frame header payload) := by
  simp only [toUnit, appendUnit_eq h, Except.map, List.nil_append]

theorem ofUnit?_eq_ok :
    ofUnit? unit = .ok (header, s) ↔
      ∃ payload r, Nal.split? unit = .ok (header, payload) ∧
        header.unitType = Nal.parameterSetType ∧
          ofPayload? (Nal.unescape payload) = .ok (s, r) := by
  constructor
  · intro hread
    unfold ofUnit? at hread
    cases hsplit : Nal.split? unit with
    | error e => simp [hsplit] at hread
    | ok parts =>
      obtain ⟨found, payload⟩ := parts
      by_cases htype : found.unitType = Nal.parameterSetType
      · cases hset : ofPayload? (Nal.unescape payload) with
        | error e => simp [hsplit, htype, hset, Except.map] at hread
        | ok result =>
          obtain ⟨set, r⟩ := result
          simp only [hsplit, htype, hset, Except.map, ne_eq, not_true, if_false, Except.ok.injEq,
            Prod.mk.injEq] at hread
          obtain ⟨rfl, rfl⟩ := hread
          exact ⟨payload, r, rfl, htype, hset⟩
      · simp [hsplit, htype] at hread
  · rintro ⟨payload, r, hsplit, htype, hset⟩
    simp only [ofUnit?, hsplit, htype, hset, Except.map, ne_eq, not_true, if_false]

theorem of_ofUnit?_eq_ok (h : ofUnit? unit = .ok (header, s)) :
    header.Fits ∧ header.unitType = Nal.parameterSetType ∧ s.WellFormed := by
  obtain ⟨payload, r, hsplit, htype, hset⟩ := ofUnit?_eq_ok.mp h
  obtain ⟨_, _, _, hfits⟩ := Nal.split?_eq_ok.mp hsplit
  exact ⟨hfits, htype, (ofPayload?_eq_ok.mp hset).1⟩

theorem exists_payload (hset : s.WellFormed) (hfits : header.Fits)
    (htype : header.unitType = Nal.parameterSetType) :
    ∃ payload, s.toPayload = .ok payload ∧
      ofUnit? (Nal.frame header payload) = .ok (header, s) := by
  obtain ⟨payload, r, hpayload, hread⟩ := ofPayload?_toPayload hset
  refine ⟨payload, hpayload, ofUnit?_eq_ok.mpr ⟨_, r, Nal.split?_frame hfits _, htype, ?_⟩⟩
  rwa [Nal.unescape_escape]

/-- A parameter set is read back from the unit that is written for it if and only if it is
well-formed. -/
theorem survives_iff_wellFormed (s : ParameterSet) (header : Nal.Header)
    (href : header.refIdc ≤ 3) (htype : header.unitType = Nal.parameterSetType) :
    (∃ unit, s.toUnit header = .ok unit ∧ ofUnit? unit = .ok (header, s)) ↔ s.WellFormed := by
  constructor
  · rintro ⟨unit, -, hread⟩
    exact (of_ofUnit?_eq_ok hread).2.2
  · intro hset
    have hfits : header.Fits := ⟨href, htype ▸ by decide⟩
    obtain ⟨payload, hpayload, hread⟩ := exists_payload hset hfits htype
    exact ⟨_, toUnit_eq hpayload header, hread⟩

def manyGroups : ParameterSet where
  profileIdc := 100
  levelIdc := 40
  id := 3
  high := some
    { chromaFormatIdc := 3
      separateColourPlane := true
      scalingLists := some
        [some [-8], none, some [8, 0, -16], none, none, none, none, none, none, none, none, none] }
  orderCount := .cycle true (-1) 2 [-3, 4]
  maxNumRefFrames := 4
  widthInMbsMinus1 := 119
  heightInMapUnitsMinus1 := 33
  mbAdaptiveFrameField := true
  cropping := some { bottom := 2 }
  vui := some
    { aspectRatio := some { idc := 255, sarWidth := 4, sarHeight := 3 }
      videoSignal := some { format := 5, colour := some {} }
      nalHrd := some { schedules := [{ constantRate := true }, {}] }
      lowDelay := true
      restriction := some { maxNumReorderFrames := 1 } }

theorem manyGroups_survives :
    ∃ unit, manyGroups.toUnit ⟨3, 7⟩ = .ok unit ∧ ofUnit? unit = .ok (⟨3, 7⟩, manyGroups) :=
  (survives_iff_wellFormed manyGroups ⟨3, 7⟩ (by decide) rfl).mpr (by decide)

/-- Writing what was read gives the bits that were read, a stop bit, and zeros up to a whole
byte. -/
theorem toPayload_of_readable (h : ofPayload? payload = .ok (s, r)) :
    ∃ out, s.toPayload = .ok out ∧ r.position ≤ (unpack payload).length ∧
      unpack out = (unpack payload).take r.position ++
        true :: List.replicate (7 - r.position % 8) false := by
  obtain ⟨-, bits, hbits, hahead, hposition⟩ := ofPayload?_eq_ok.mp h
  have hlength : r.position = bits.length := hposition.trans (Nat.zero_add _)
  have hpayload : unpack payload = bits ++ r.ahead := hahead
  refine ⟨_, toPayload_eq hbits, ?_, ?_⟩
  · rw [hpayload, hlength, List.length_append]
    exact Nat.le_add_right _ _
  · rw [unpack_pack_of_dvd (dvd_length_trailing bits), hpayload, hlength, List.take_left]
    rfl

/-- The last element ends inside a byte, and other bytes follow. -/
theorem toPayload_of_readable_unaligned :
    ∃ out, toPayload
        { profileIdc := 66, levelIdc := 30, maxNumRefFrames := 1, widthInMbsMinus1 := 10,
          heightInMapUnitsMinus1 := 8, frameMbsOnly := true } = .ok out ∧
      51 ≤ (unpack [66, 0, 30, 218, 11, 19, 27, 99]).length ∧
      unpack out = (unpack [66, 0, 30, 218, 11, 19, 27, 99]).take 51 ++
        true :: List.replicate (7 - 51 % 8) false := by
  have hread : ofPayload? [66, 0, 30, 218, 11, 19, 27, 99] =
      .ok (_, ⟨(unpack [27, 99]).drop 3, 51⟩) := rfl
  exact toPayload_of_readable hread

end ParameterSet
end AvcPipeline
