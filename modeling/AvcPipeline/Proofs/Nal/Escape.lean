import AvcPipeline.Nal.Escape

/-!
# Guard bytes put in and taken out

Both walks only add to what is done, so each is what is done followed by a walk of its own. They
count the same zeros: after a guard byte both begin again, and no other byte that is kept can be
taken for one. What was escaped is `Guarded`, so that no start code begins in it, and it ends as the
payload does.
-/

namespace AvcPipeline.Nal

theorem escapeFrom_eq (done : Bytes) (zeros : Int32) (payload : Bytes) :
    escapeFrom done zeros payload = done.reverse ++ escapeFrom [] zeros payload := by
  induction payload generalizing done zeros with
  | nil => simp only [escapeFrom, List.reverse_nil, List.append_nil]
  | cons byte rest ih =>
    simp only [escapeFrom]
    split
    · rw [ih, ih [byte, guardByte], List.reverse_cons, List.reverse_cons]
      simp only [List.append_assoc, List.reverse_cons, List.reverse_nil, List.nil_append]
    · rw [ih, ih [byte], List.reverse_cons, List.reverse_singleton, List.append_assoc]

theorem unescapeFrom_eq (done : Bytes) (zeros : Int32) (escaped : Bytes) :
    unescapeFrom done zeros escaped = done.reverse ++ unescapeFrom [] zeros escaped := by
  induction escaped generalizing done zeros with
  | nil => simp only [unescapeFrom, List.reverse_nil, List.append_nil]
  | cons byte rest ih =>
    simp only [unescapeFrom]
    split
    · rw [ih]
    · rw [ih, ih [byte], List.reverse_cons, List.reverse_singleton, List.append_assoc]

theorem escapeBehind_eq (out payload : Bytes) :
    escapeBehind out payload = out ++ escape payload := by
  rw [escapeBehind, escapeFrom_eq, List.reverse_reverse]
  rfl

theorem unescapeFrom_escapeFrom (zeros : Int32) (payload : Bytes) :
    unescapeFrom [] zeros (escapeFrom [] zeros payload) = payload := by
  induction payload generalizing zeros with
  | nil => rfl
  | cons byte rest ih =>
    by_cases hguard : 2 ≤ zeros ∧ byte ≤ guardByte
    · have hkept : ¬ (2 ≤ (0 : Int32) ∧ byte = guardByte) := nofun
      rw [escapeFrom, if_pos hguard, escapeFrom_eq]
      change unescapeFrom [] zeros (guardByte :: byte :: escapeFrom [] (zerosAfter 0 byte) rest) = _
      rw [unescapeFrom, if_pos ⟨hguard.1, rfl⟩, unescapeFrom, if_neg hkept, unescapeFrom_eq, ih]
      rfl
    · have hkept : ¬ (2 ≤ zeros ∧ byte = guardByte) := by
        rintro ⟨hzeros, rfl⟩
        exact hguard ⟨hzeros, UInt8.le_refl guardByte⟩
      rw [escapeFrom, if_neg hguard, escapeFrom_eq]
      change unescapeFrom [] zeros (byte :: escapeFrom [] (zerosAfter zeros byte) rest) = _
      rw [unescapeFrom, if_neg hkept, unescapeFrom_eq, ih]
      rfl

theorem unescape_escape (payload : Bytes) : unescape (escape payload) = payload :=
  unescapeFrom_escapeFrom 0 payload

/-! ## The zeros counted -/

/-- Between guard bytes no count passes two, so that it stays far from the end of its word. -/
def Counted (zeros : Int32) : Prop := zeros = 0 ∨ zeros = 1 ∨ zeros = 2

variable {zeros : Int32} {byte : UInt8}

theorem counted_zero : Counted 0 := .inl rfl

theorem Counted.eq_two (h : Counted zeros) (hzeros : 2 ≤ zeros) : zeros = 2 := by
  rcases h with rfl | rfl | rfl
  · exact absurd hzeros (by decide)
  · exact absurd hzeros (by decide)
  · rfl

theorem Counted.zerosAfter (h : Counted zeros) (hbyte : ¬ (2 ≤ zeros ∧ byte < guardByte)) :
    Counted (zerosAfter zeros byte) ∧
      (zerosAfter zeros byte).toNatClampNeg ≤ zeros.toNatClampNeg + 1 := by
  unfold Nal.zerosAfter
  split
  case isFalse => exact ⟨counted_zero, Nat.zero_le _⟩
  case isTrue hzero =>
    subst hzero
    rcases h with rfl | rfl | rfl
    · exact ⟨.inr (.inl rfl), by decide⟩
    · exact ⟨.inr (.inr rfl), by decide⟩
    · exact absurd ⟨by decide, by decide⟩ hbyte

theorem counted_zerosAfter_zero (byte : UInt8) : Counted (zerosAfter 0 byte) :=
  (counted_zero.zerosAfter nofun).1

theorem not_end_of_plain (h : ¬ (2 ≤ zeros ∧ byte ≤ guardByte)) :
    ¬ (2 ≤ zeros ∧ byte < guardByte) :=
  fun hend => h ⟨hend.1, UInt8.le_of_lt hend.2⟩

/-! ## The room that guard bytes take -/

/-- Between two guard bytes there are two bytes of the payload, for the zero behind the first one is
only one of the two that the second one needs. Zeros that stand in front are credited. -/
theorem length_escapeFrom_le (h : Counted zeros) (payload : Bytes) :
    2 * (escapeFrom [] zeros payload).length ≤ 3 * payload.length + zeros.toNatClampNeg := by
  induction payload generalizing zeros with
  | nil => exact Nat.zero_le _
  | cons byte rest ih =>
    rw [escapeFrom, List.length_cons]
    split
    case isTrue hguard =>
      have htwo : zeros.toNatClampNeg = 2 := h.eq_two hguard.1 ▸ rfl
      have hnext : (zerosAfter 0 byte).toNatClampNeg ≤ 0 + 1 := (counted_zero.zerosAfter nofun).2
      have hrest := ih (counted_zerosAfter_zero byte)
      rw [escapeFrom_eq, List.length_append, List.length_reverse, List.length_cons,
        List.length_singleton]
      omega
    case isFalse hplain =>
      obtain ⟨hcounted, hnext⟩ := h.zerosAfter (not_end_of_plain hplain)
      have hrest := ih hcounted
      rw [escapeFrom_eq, List.length_append, List.length_reverse, List.length_singleton]
      omega

theorem length_escape_le (payload : Bytes) : (escape payload).length ≤ 3 * payload.length / 2 := by
  have hbound : 2 * (escape payload).length ≤ 3 * payload.length + 0 :=
    length_escapeFrom_le counted_zero payload
  omega

/-! ## No start code -/

/-- Two zeros are never followed by a byte below the guard byte, and a guard byte behind two zeros
is followed by a byte of at most its value. -/
def Guarded (zeros : Int32) : Bytes → Prop
  | [] => True
  | byte :: rest =>
    ¬ (2 ≤ zeros ∧ byte < guardByte) ∧
      (2 ≤ zeros ∧ byte = guardByte → ∃ next ∈ rest.head?, next ≤ guardByte) ∧
      Guarded (zerosAfter zeros byte) rest

theorem guarded_escapeFrom (zeros : Int32) (payload : Bytes) :
    Guarded zeros (escapeFrom [] zeros payload) := by
  induction payload generalizing zeros with
  | nil => trivial
  | cons byte rest ih =>
    by_cases hguard : 2 ≤ zeros ∧ byte ≤ guardByte
    · have hself : ¬ (2 ≤ zeros ∧ guardByte < guardByte) := fun h => UInt8.lt_irrefl _ h.2
      have hbyte : ¬ (2 ≤ (0 : Int32) ∧ byte < guardByte) := nofun
      have hlater : ¬ (2 ≤ (0 : Int32) ∧ byte = guardByte) := nofun
      rw [escapeFrom, if_pos hguard, escapeFrom_eq]
      exact ⟨hself, fun _ => ⟨byte, rfl, hguard.2⟩, hbyte, fun h => absurd h hlater, ih _⟩
    · rw [escapeFrom, if_neg hguard, escapeFrom_eq]
      refine ⟨not_end_of_plain hguard, fun h => ?_, ih _⟩
      exact absurd ⟨h.1, h.2 ▸ UInt8.le_refl byte⟩ hguard

theorem Guarded.behind {before after : Bytes} (h : Guarded zeros (before ++ after))
    (hzeros : Counted zeros) : ∃ later, Counted later ∧ Guarded later after := by
  induction before generalizing zeros with
  | nil => exact ⟨zeros, hzeros, h⟩
  | cons byte before ih => exact ih h.2.2 (hzeros.zerosAfter h.1).1

theorem Guarded.behind_zeros {after : Bytes} (h : Guarded zeros ([0, 0] ++ after))
    (hzeros : Counted zeros) : Guarded 2 after := by
  rcases hzeros with rfl | rfl | rfl
  · exact h.2.2.2.2
  · exact absurd ⟨by decide, by decide⟩ h.2.2.1
  · exact absurd ⟨by decide, by decide⟩ h.1

theorem Guarded.apart {escaped : Bytes} (h : Guarded 0 escaped)
    (hbyte : [0, 0, byte] <:+: escaped) : guardByte ≤ byte := by
  obtain ⟨before, after, rfl⟩ := hbyte
  rw [List.append_assoc] at h
  obtain ⟨zeros, hzeros, hlater⟩ := h.behind counted_zero
  have htwo : Guarded 2 (byte :: after) := hlater.behind_zeros hzeros
  have hclose : ¬ (2 ≤ (2 : Int32) ∧ byte < guardByte) := htwo.1
  exact UInt8.not_lt.mp fun hlow => hclose ⟨by decide, hlow⟩

theorem getLast?_escapeFrom (zeros : Int32) (payload : Bytes) :
    (escapeFrom [] zeros payload).getLast? = payload.getLast? := by
  induction payload generalizing zeros with
  | nil => rfl
  | cons byte rest ih =>
    rw [escapeFrom]
    split
    · rw [escapeFrom_eq, List.getLast?_append, ih, List.getLast?_cons]
      cases rest.getLast? <;> rfl
    · rw [escapeFrom_eq, List.getLast?_append, ih, List.getLast?_cons]
      cases rest.getLast? <;> rfl

theorem lacks_mark_escape (payload : Bytes) : ¬ [0, 0, 1] <:+: escape payload :=
  fun hmark => absurd ((guarded_escapeFrom 0 payload).apart hmark) (by decide)

theorem getLast?_escape (payload : Bytes) : (escape payload).getLast? = payload.getLast? :=
  getLast?_escapeFrom 0 payload

end AvcPipeline.Nal
