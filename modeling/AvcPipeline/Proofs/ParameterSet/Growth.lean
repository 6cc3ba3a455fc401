import AvcPipeline.Proofs.ParameterSet.Fixup
import AvcPipeline.Proofs.ParameterSet.Truncation

/-!
# How much adapting adds

The word of a parameter set is as long as its elements together. Adapting changes the restriction,
puts empty usability information around it where there was none, and keeps the length of everything
else. The longest code that it can put in is one of 63 bits, so it adds 98 bits at most, whatever
the set contains. Guard bytes are put in behind every second byte at most.
-/

namespace AvcPipeline

open Bits ParameterSet

namespace ParameterSet

variable {α : Type} {s : ParameterSet} {payload : Bytes} {r : Reader}

/-! ## Lengths of words -/

def Word.length : Word → Nat
  | .ok bits => bits.length
  | .error _ => 0

theorem length_join {words : List Word} (h : Written (.join words)) :
    (Word.join words).length = (words.map Word.length).sum := by
  induction words with
  | nil => rfl
  | cons word words ih =>
    obtain ⟨⟨front, rfl⟩, back, hback⟩ := written_join_cons.mp h
    have hwhole : Word.join (.ok front :: words) = .ok (front ++ back) :=
      join_cons_eq_ok.mpr ⟨front, back, rfl, hback, rfl⟩
    have hrest := ih ⟨back, hback⟩
    rw [hback] at hrest
    rw [hwhole, List.map_cons, List.sum_cons, ← hrest]
    exact List.length_append

@[simp] theorem length_flag (bit : Bool) : (Word.flag bit).length = 1 := rfl

@[simp] theorem length_ue (value : UInt32) : (Word.ue value).length = (ueWord value).length := rfl

theorem length_octet (value : UInt8) : (Word.field 8 value.toNat).length = 8 := by
  rw [(field_eq_ok (by decide)).mpr ⟨value.toNat_lt, rfl⟩]
  exact length_toBits 8 value.toNat

theorem length_optional_none (word : α → Word) : (Word.optional word none).length = 1 := rfl

theorem length_optional_some {word : α → Word} {a : α} (h : Written (word a)) :
    (Word.optional word (some a)).length = (word a).length + 1 := by
  rw [Word.optional, length_join (written_join_cons.mpr ⟨written_flag true,
    written_join_cons.mpr ⟨h, written_join_nil⟩⟩)]
  simp [Nat.add_comm]

theorem length_toPayload (h : s.toPayload = .ok payload) :
    payload.length = s.word.length / 8 + 1 := by
  cases hword : s.word with
  | error e =>
    rw [toPayload_eq_error hword] at h
    cases h
  | ok bits =>
    rw [toPayload_eq hword, Except.ok.injEq] at h
    have hunpack := congrArg List.length (unpack_pack_of_dvd (dvd_length_trailing bits))
    rw [h, length_unpack, List.length_append, trailingWord, List.length_cons,
      List.length_replicate] at hunpack
    change payload.length = bits.length / 8 + 1
    omega

theorem length_word (h : ofPayload? payload = .ok (s, r)) : s.word.length = r.position := by
  obtain ⟨-, bits, hbits, -, hposition⟩ := ofPayload?_eq_ok_iff_unpack.mp h
  rw [hbits, hposition]
  rfl

end ParameterSet

namespace Fixup

variable {f : Fixup} {s : ParameterSet} {refFrames : UInt32}

/-! ## What adapting adds to the word -/

theorem length_restriction (r : Restriction) :
    r.word.length = 1 + (ueWord r.maxBytesPerPicDenom).length +
      (ueWord r.maxBitsPerMbDenom).length + (ueWord r.log2MaxMvLengthHorizontal).length +
      (ueWord r.log2MaxMvLengthVertical).length + (ueWord r.maxNumReorderFrames).length +
      (ueWord r.maxDecFrameBuffering).length := by
  rw [Restriction.word, length_join (written_restriction r)]
  simp [Nat.add_assoc]

/-- Two codes become three bits long, and the one for the buffering 63 bits at most. -/
theorem length_tighten_le (h : refFrames ≠ unreadable) (r : Restriction) :
    (tighten refFrames r).word.length ≤ r.word.length + 66 := by
  have hbytes : (ueWord 2).length = 3 := rfl
  have hbits : (ueWord 1).length = 3 := rfl
  have hbuffering := length_ueWord_le h
  have hbytesOld := length_ueWord r.maxBytesPerPicDenom
  have hbitsOld := length_ueWord r.maxBitsPerMbDenom
  have hbufferingOld := length_ueWord r.maxDecFrameBuffering
  simp only [length_restriction, tighten]
  omega

theorem length_tighten_new_le (h : refFrames ≠ unreadable) :
    (tighten refFrames newRestriction).word.length ≤ 89 := by
  have hcodes : (ueWord 2).length = 3 ∧ (ueWord 1).length = 3 ∧ (ueWord 16).length = 9 ∧
      (ueWord 0).length = 1 := ⟨rfl, rfl, rfl, rfl⟩
  have hbuffering := length_ueWord_le h
  simp only [length_restriction, tighten, newRestriction, hcodes]
  omega

theorem length_optional_tighten_le (h : refFrames ≠ unreadable) (old : Option Restriction) :
    (Word.optional Restriction.word (some (tighten refFrames (old.getD newRestriction)))).length ≤
      (Word.optional Restriction.word old).length + 89 := by
  rw [length_optional_some (written_restriction _)]
  cases old with
  | none =>
    have hnew := length_tighten_new_le h
    rw [length_optional_none, Option.getD_none]
    omega
  | some r =>
    have htightened := length_tighten_le h r
    rw [length_optional_some (written_restriction r), Option.getD_some]
    omega

theorem written_restricted {v : Vui} (h : v.FieldsFit) (restriction : Option Restriction) :
    Written ({ v with restriction } : Vui).word :=
  written_vui.mpr ⟨h.videoFormat, h.nalHrd, h.vclHrd⟩

/-- Only the restriction makes a difference to the length. -/
theorem length_restricted_add {v : Vui} (h : v.FieldsFit) (restriction : Option Restriction) :
    ({ v with restriction } : Vui).word.length +
        (Word.optional Restriction.word v.restriction).length =
      v.word.length + (Word.optional Restriction.word restriction).length := by
  rw [Vui.word, length_join (written_restricted h restriction), Vui.word,
    length_join (written_vui.mpr h)]
  simp only [List.map_cons, List.map_nil, List.sum_cons, List.sum_nil]
  omega

theorem length_tightened_le {v : Vui} (h : v.FieldsFit) (hframes : refFrames ≠ unreadable) :
    ({ v with
        restriction := some (tighten refFrames (v.restriction.getD newRestriction)) } :
      Vui).word.length ≤ v.word.length + 89 := by
  have hvui := length_restricted_add h
    (some (tighten refFrames (v.restriction.getD newRestriction)))
  have hadded := length_optional_tighten_le hframes v.restriction
  omega

theorem length_unrestricted_le {v : Vui} (h : v.FieldsFit) :
    ({ v with restriction := none } : Vui).word.length ≤ v.word.length := by
  have hvui := length_restricted_add h none
  have hold : 1 ≤ (Word.optional Restriction.word v.restriction).length := by
    cases v.restriction with
    | none => exact Nat.le_refl 1
    | some r => exact length_optional_some (written_restriction r) ▸ Nat.le_add_left 1 _
  rw [length_optional_none] at hvui
  omega

/-- Usability information that is empty is nine bits long; what is put in comes on top. -/
theorem length_optional_applyVui_le {vui : Option Vui} (h : ∀ v ∈ vui, v.FieldsFit)
    (hframes : refFrames ≠ unreadable) :
    (Word.optional Vui.word (f.applyVui refFrames vui)).length ≤
      (Word.optional Vui.word vui).length + 98 := by
  unfold applyVui
  cases vui with
  | none =>
    have hempty : ({} : Vui).FieldsFit := ⟨nofun, nofun, nofun⟩
    have hnine : ({} : Vui).word.length = 9 := rfl
    split
    · have htightened := length_tightened_le hempty hframes
      rw [Option.getD_none, length_optional_some (written_restricted hempty _),
        length_optional_none]
      omega
    · exact Nat.le_add_right _ _
  | some v =>
    have hv := h v rfl
    rw [length_optional_some (written_vui.mpr hv)]
    split
    · have htightened := length_tightened_le hv hframes
      rw [Option.getD_some, length_optional_some (written_restricted hv _)]
      omega
    · have hremoved := length_unrestricted_le hv
      rw [Option.map_some, length_optional_some (written_restricted hv none)]
      omega

/-- The level keeps its eight bits, so that only the usability information grows. -/
theorem length_apply_le (h : s.WellFormed) :
    (f.apply s).word.length ≤ s.word.length + 98 := by
  have hvui := length_optional_applyVui_le (f := f) (fun v hv => h.fieldsFit v hv) h.maxNumRefFrames
  rw [ParameterSet.word, length_join (written_parameterSet.mpr (wellFormed_apply h).fieldsFit),
    ParameterSet.word, length_join (written_parameterSet.mpr h.fieldsFit)]
  simp only [apply, List.map_cons, List.map_nil, List.sum_cons, List.sum_nil, length_octet,
    Nat.add_assoc, Nat.add_le_add_iff_left, Nat.add_zero]
  exact hvui

/-! ## Units -/

variable {unit out : Bytes}

/-- Adapting makes a payload thirteen bytes longer at most, and with the start code, the header byte
and the guard bytes that bounds the unit. -/
theorem length_fix (h : (f.fix unit).1 = .ok out) :
    ∃ header payload escaped, Nal.split? unit = .ok (header, payload) ∧
      Nal.split? out = .ok (header, escaped) ∧
      (Nal.unescape escaped).length ≤ (Nal.unescape payload).length + 13 ∧
      out.length ≤ 5 + 3 * ((Nal.unescape payload).length + 13) / 2 := by
  cases hread : ofUnit? unit with
  | error e =>
    rw [fix_of_unreadable f hread] at h
    cases h
  | ok result =>
    obtain ⟨header, s⟩ := result
    obtain ⟨written, hfix, hwritten, -⟩ := fix_of_readable f hread
    obtain ⟨payload, r, hsplit, -, hpayload⟩ := ofUnit?_eq_ok.mp hread
    obtain ⟨hfits, -, hset⟩ := of_ofUnit?_eq_ok hread
    rw [hfix] at h
    obtain rfl : Nal.frame header written = out := Except.ok.inj h
    have hlength : written.length ≤ (Nal.unescape payload).length + 13 := by
      have hbits := position_le hpayload
      have hadded := length_apply_le (f := f) hset
      rw [length_word hpayload] at hadded
      rw [length_toPayload hwritten]
      omega
    refine ⟨header, payload, Nal.escape written, hsplit, Nal.split?_frame hfits written, ?_, ?_⟩
    · rwa [Nal.unescape_escape]
    · have hescaped := Nal.length_escape_le written
      have hframe : (Nal.frame header written).length = 4 + ((Nal.escape written).length + 1) := by
        rw [Nal.frame, List.length_append, List.length_cons]
        rfl
      omega

/-- A unit whose payload has thirteen bytes and no room for a stop bit. It refers to as many frames
as a code can stand for. -/
def manyFrames : Bytes :=
  [0, 0, 1, 0x67, 66, 0, 30, 145, 128, 0, 0, 3, 0, 255, 255, 255, 255, 96]

def manyFramesAdapted : Bytes :=
  [0, 0, 0, 1, 0x67, 66, 0, 30, 145, 128, 0, 0, 3, 0, 255, 255, 255, 255, 97, 0, 218, 8, 132, 96,
    0, 0, 3, 0, 63, 255, 255, 255, 224]

/-- No smaller number of bytes will do. -/
theorem length_fix_manyFrames :
    (fix { width := 16, height := 16 } manyFrames).1 = .ok manyFramesAdapted ∧
      (∃ header payload escaped, Nal.split? manyFrames = .ok (header, payload) ∧
        Nal.split? manyFramesAdapted = .ok (header, escaped) ∧
        (Nal.unescape escaped).length ≤ (Nal.unescape payload).length + 13 ∧
        manyFramesAdapted.length ≤ 5 + 3 * ((Nal.unescape payload).length + 13) / 2) ∧
      (Nal.split? manyFrames).map (fun parts => (Nal.unescape parts.2).length) = .ok 13 ∧
      (Nal.split? manyFramesAdapted).map (fun parts => (Nal.unescape parts.2).length) = .ok 26 := by
  have hfix : (fix { width := 16, height := 16 } manyFrames).1 = .ok manyFramesAdapted := by
    decide +kernel
  exact ⟨hfix, length_fix hfix, rfl, rfl⟩

end Fixup
end AvcPipeline
