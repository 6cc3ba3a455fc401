import AvcPipeline.Proofs.Nal.Escape
import Mathlib.Data.Set.Function

/-!
# Legal escaped payloads

Escaped bytes are legal if two zeros are never followed by a byte below the guard byte, and if every
guard byte behind two zeros stands before a byte that needs it. These are the bytes that escaping
gives, each from a payload of its own, and the ones that come back when guard bytes are taken out
and put in again.
-/

namespace AvcPipeline.Nal

structure Legal (escaped : Bytes) : Prop where
  apart : ∀ byte, [0, 0, byte] <:+: escaped → guardByte ≤ byte
  /-- The guard byte is not the last one, and what follows could be taken for a start code or for a
  guard byte. -/
  needed : ∀ before after, escaped = before ++ [0, 0, guardByte] ++ after →
    ∃ byte ∈ after.head?, byte ≤ guardByte

variable {zeros : Int32} {escaped : Bytes}

theorem Legal.behind {before : Bytes} (h : Legal (before ++ escaped)) : Legal escaped where
  apart byte hbyte := h.apart byte (hbyte.trans (List.suffix_append before escaped).isInfix)
  needed earlier after hescaped := by
    refine h.needed (before ++ earlier) after ?_
    rw [hescaped, List.append_assoc, List.append_assoc, List.append_assoc]

/-! ## Escaped payloads are legal -/

theorem legal_escape (payload : Bytes) : Legal (escape payload) where
  apart _ hbyte := (guarded_escapeFrom 0 payload).apart hbyte
  needed before after hescaped := by
    have hguarded : Guarded 0 (escape payload) := guarded_escapeFrom 0 payload
    rw [hescaped, List.append_assoc] at hguarded
    obtain ⟨zeros, hzeros, hlater⟩ := hguarded.behind counted_zero
    have hguard : Guarded 2 (guardByte :: after) := hlater.behind_zeros hzeros
    exact hguard.2.1 ⟨by decide, rfl⟩

/-! ## Legal bytes come back -/

/-- Every byte that is taken out is put in again at the same place, and no other is. -/
theorem escapeFrom_unescapeFrom (hzeros : Counted zeros)
    (h : Legal (List.replicate zeros.toNatClampNeg 0 ++ escaped)) :
    escapeFrom [] zeros (unescapeFrom [] zeros escaped) = escaped := by
  induction escaped generalizing zeros with
  | nil => rfl
  | cons byte rest ih =>
    have hrest : Legal rest := by
      rw [List.append_cons] at h
      exact h.behind
    by_cases hguard : 2 ≤ zeros ∧ byte = guardByte
    · -- The byte behind the guard byte is one that puts it in again, and counts anew after it.
      obtain ⟨htwo, rfl⟩ := hguard
      obtain rfl := hzeros.eq_two htwo
      obtain ⟨next, hnext, hlow⟩ := h.needed [] rest rfl
      obtain ⟨after, rfl⟩ := List.head?_eq_some_iff.mp hnext
      have hkept : ¬ (2 ≤ (0 : Int32) ∧ next = guardByte) := nofun
      have hplain : ¬ (2 ≤ (0 : Int32) ∧ next ≤ guardByte) := nofun
      have hlater : escapeFrom [] 0 (unescapeFrom [] 0 (next :: after)) = next :: after :=
        ih counted_zero hrest
      rw [unescapeFrom, if_neg hkept, unescapeFrom_eq] at hlater
      rw [unescapeFrom, if_pos ⟨htwo, rfl⟩, unescapeFrom, if_neg hkept, unescapeFrom_eq]
      change escapeFrom [] 0 (next :: _) = _ at hlater
      change escapeFrom [] 2 (next :: _) = _
      rw [escapeFrom, if_neg hplain, escapeFrom_eq] at hlater
      rw [escapeFrom, if_pos ⟨htwo, hlow⟩, escapeFrom_eq]
      exact congrArg (guardByte :: ·) hlater
    · have hplain : ¬ (2 ≤ zeros ∧ byte ≤ guardByte) := by
        rintro ⟨htwo, hlow⟩
        obtain rfl := hzeros.eq_two htwo
        exact hguard ⟨htwo, UInt8.le_antisymm hlow (h.apart byte ⟨[], rest, rfl⟩)⟩
      have hcounted := (hzeros.zerosAfter (not_end_of_plain hplain)).1
      have hlater : Legal (List.replicate (zerosAfter zeros byte).toNatClampNeg 0 ++ rest) := by
        by_cases hzero : byte = 0
        · subst hzero
          rcases hzeros with rfl | rfl | rfl
          · exact h
          · exact h
          · exact absurd ⟨by decide, by decide⟩ hplain
        · rwa [zerosAfter, if_neg hzero]
      rw [unescapeFrom, if_neg hguard, unescapeFrom_eq]
      change escapeFrom [] zeros (byte :: _) = _
      rw [escapeFrom, if_neg hplain, escapeFrom_eq]
      exact congrArg (byte :: ·) (ih hcounted hlater)

theorem escape_unescape (h : Legal escaped) : escape (unescape escaped) = escaped :=
  escapeFrom_unescapeFrom counted_zero h

/-- Escaping only adds to the output, without a look at it. It takes the payloads one to one onto
the legal bytes, and unescaping takes those back; bytes that are not legal do not survive being
unescaped and escaped. -/
theorem escape_bijOn :
    (∀ out payload, escapeBehind out payload = out ++ escape payload) ∧
      Set.BijOn escape Set.univ {escaped | Legal escaped} ∧
      (∀ payload, unescape (escape payload) = payload) ∧
      ∀ escaped, escape (unescape escaped) = escaped ↔ Legal escaped := by
  have hinjective : Function.Injective escape := Function.LeftInverse.injective unescape_escape
  refine ⟨escapeBehind_eq, ⟨fun payload _ => legal_escape payload, hinjective.injOn, ?_⟩,
    unescape_escape, fun escaped => ⟨fun hsame => ?_, escape_unescape⟩⟩
  · exact fun escaped hlegal => ⟨unescape escaped, trivial, escape_unescape hlegal⟩
  · exact hsame ▸ legal_escape (unescape escaped)

/-- A guard byte at the end guards nothing and is lost. -/
example : escape (unescape [7, 0, 0, 3]) = [7, 0, 0] := by decide

end AvcPipeline.Nal
