import AvcPipeline.ParameterSet.Fixup
import AvcPipeline.Proofs.ParameterSet.RoundTrip

/-!
# Adapted parameter sets

Adapting keeps a parameter set well-formed and asks nothing more of one that was adapted before. So
the adapted unit is always written and read back, and it is its own adapted form. The buffer that
the units are written into never shows in the result.

The buffering that is stated always has room for the reference frames. It may be too small for the
reordering that the stream states, which is kept.
-/

namespace AvcPipeline.Fixup

open Bits ParameterSet

variable {f : Fixup} {s : ParameterSet} {unit : Bytes}

/-- What adapting may change: the level, in sessions of two picture sizes, and the restriction,
for which a session that states one makes empty usability information where there is none. -/
structure Adapts (f : Fixup) (s s' : ParameterSet) : Prop where
  others : s' = { s with levelIdc := s'.levelIdc, vui := s'.vui }
  level : s'.levelIdc ≠ s.levelIdc →
    f.width = 1280 ∧ f.height = 720 ∨ f.width = 1920 ∧ f.height = 1080
  present : s'.vui.isSome = (f.restrict || s.vui.isSome)
  vui : ∀ v ∈ s'.vui, v = { s.vui.getD {} with restriction := v.restriction }

theorem level?_eq_some {level : UInt8} (h : f.level? = some level) :
    f.width = 1280 ∧ f.height = 720 ∨ f.width = 1920 ∧ f.height = 1080 := by
  unfold level? at h
  split at h
  · exact .inl ‹_›
  · split at h
    · exact .inr ‹_›
    · cases h

theorem apply_adapts (f : Fixup) (s : ParameterSet) : f.Adapts s (f.apply s) where
  others := rfl
  level := by
    intro hne
    cases hlevel : f.level? with
    | none => exact absurd (by simp only [apply, hlevel, Option.getD_none]) hne
    | some level => exact level?_eq_some hlevel
  present := by
    cases hrestrict : f.restrict <;> simp [apply, applyVui, hrestrict]
  vui := by
    intro v hv
    cases hrestrict : f.restrict with
    | true =>
      simp only [apply, applyVui, hrestrict, if_true, Option.mem_def, Option.some.injEq] at hv
      subst hv
      rfl
    | false =>
      simp only [apply, applyVui, hrestrict, Bool.false_eq_true, if_false, Option.mem_def,
        Option.map_eq_some_iff] at hv
      obtain ⟨old, hold, rfl⟩ := hv
      rw [hold]
      rfl

/-! ## Adapting keeps a parameter set well-formed -/

theorem wellFormed_default : ({} : Vui).WellFormed :=
  ⟨nofun, nofun, nofun, nofun, nofun, fun _ => rfl, nofun⟩

theorem wellFormed_newRestriction : newRestriction.WellFormed := by decide

theorem wellFormed_tighten {refFrames : UInt32} {r : Restriction} (h : r.WellFormed)
    (hframes : refFrames ≠ unreadable) : (tighten refFrames r).WellFormed :=
  { h with
    maxBytesPerPicDenom := (by decide : (2 : UInt32) ≠ unreadable)
    maxBitsPerMbDenom := (by decide : (1 : UInt32) ≠ unreadable)
    maxDecFrameBuffering := hframes }

theorem wellFormed_applyVui {refFrames : UInt32} {vui : Option Vui}
    (h : ∀ v ∈ vui, v.WellFormed) (hframes : refFrames ≠ unreadable) :
    ∀ v ∈ f.applyVui refFrames vui, v.WellFormed := by
  intro v hv
  unfold applyVui at hv
  split at hv
  · obtain rfl := Option.some.inj hv
    have hold : (vui.getD {}).WellFormed := by
      cases vui with
      | none => exact wellFormed_default
      | some old => exact h old rfl
    refine { hold with restriction := ?_ }
    intro r hr
    obtain rfl := Option.some.inj hr
    refine wellFormed_tighten ?_ hframes
    cases hnone : (vui.getD {}).restriction with
    | none => exact wellFormed_newRestriction
    | some old => exact hold.restriction old hnone
  · obtain ⟨old, hold, rfl⟩ := Option.map_eq_some_iff.mp hv
    exact { h old hold with restriction := nofun }

theorem wellFormed_apply (h : s.WellFormed) : (f.apply s).WellFormed :=
  { h with vui := wellFormed_applyVui h.vui h.maxNumRefFrames }

/-! ## Adapting twice -/

theorem applyVui_applyVui (refFrames : UInt32) (vui : Option Vui) :
    f.applyVui refFrames (f.applyVui refFrames vui) = f.applyVui refFrames vui := by
  cases hrestrict : f.restrict with
  | true => simp only [applyVui, hrestrict, if_true, Option.getD_some, tighten]
  | false =>
    simp only [applyVui, hrestrict, Bool.false_eq_true, if_false, Option.map_map]
    rfl

theorem apply_apply (f : Fixup) (s : ParameterSet) : f.apply (f.apply s) = f.apply s := by
  have hlevel : f.level?.getD (f.level?.getD s.levelIdc) = f.level?.getD s.levelIdc := by
    cases f.level? <;> rfl
  simp only [apply, applyVui_applyVui, hlevel]

/-! ## Reordering and buffering -/

/-- What restriction there is states a buffer that has room for the frames to reorder and for those
that others refer to. -/
def BuffersEnough (s : ParameterSet) : Prop :=
  ∀ v ∈ s.vui, ∀ r ∈ v.restriction,
    r.maxNumReorderFrames ≤ r.maxDecFrameBuffering ∧ s.maxNumRefFrames ≤ r.maxDecFrameBuffering

instance (s : ParameterSet) : Decidable (BuffersEnough s) :=
  inferInstanceAs (Decidable (∀ v ∈ s.vui, _))

theorem forall_restriction_apply {p : Restriction → Prop} :
    (∀ v ∈ (f.apply s).vui, ∀ r ∈ v.restriction, p r) ↔
      (f.restrict = true →
        p (tighten s.maxNumRefFrames ((s.vui.getD {}).restriction.getD newRestriction))) := by
  cases hrestrict : f.restrict <;> simp [apply, applyVui, hrestrict]

theorem reorder_getD_le_iff {frames : UInt32} :
    ((s.vui.getD {}).restriction.getD newRestriction).maxNumReorderFrames ≤ frames ↔
      ∀ v ∈ s.vui, ∀ r ∈ v.restriction, r.maxNumReorderFrames ≤ frames := by
  cases hvui : s.vui with
  | none => simp [newRestriction]
  | some v => cases hrestriction : v.restriction <;> simp [hrestriction, newRestriction]

/-- Adapting states a buffer that has room for the reference frames. It has room for the frames to
reorder exactly if the stream reorders no more than its reference frames, or if the restriction is
removed. -/
theorem buffersEnough_apply_iff (f : Fixup) (s : ParameterSet) :
    (∀ v ∈ (f.apply s).vui, ∀ r ∈ v.restriction, s.maxNumRefFrames ≤ r.maxDecFrameBuffering) ∧
      (BuffersEnough (f.apply s) ↔
        (f.restrict = true → ∀ v ∈ s.vui, ∀ r ∈ v.restriction,
          r.maxNumReorderFrames ≤ s.maxNumRefFrames)) := by
  refine ⟨?_, ?_⟩
  · exact forall_restriction_apply.mpr fun _ => UInt32.le_refl _
  · unfold BuffersEnough
    rw [forall_restriction_apply, ← reorder_getD_le_iff]
    exact forall_congr' fun _ => and_iff_left (UInt32.le_refl _)

def reordersTwo : ParameterSet where
  profileIdc := 77
  levelIdc := 31
  orderCount := .lsb 4
  maxNumRefFrames := 1
  widthInMbsMinus1 := 63
  heightInMapUnitsMinus1 := 35
  frameMbsOnly := true
  direct8x8Inference := true
  vui := some { restriction := some { maxNumReorderFrames := 2, maxDecFrameBuffering := 4 } }

theorem reordersTwo_apply :
    reordersTwo.WellFormed ∧ BuffersEnough reordersTwo ∧
      ¬ BuffersEnough (apply { width := 1024, height := 576 } reordersTwo) := by
  decide

/-! ## Units -/

theorem fix_of_unreadable (f : Fixup) {e : ParameterSet.Error} (h : ofUnit? unit = .error e) :
    f.fix unit = (.error e, f) := by
  simp only [fix, h]

theorem fix_of_readable (f : Fixup) {header : Nal.Header} (h : ofUnit? unit = .ok (header, s)) :
    ∃ payload, f.fix unit =
        (.ok (Nal.frame header payload), { f with output := Nal.frame header payload }) ∧
      (f.apply s).toPayload = .ok payload ∧
      ofUnit? (Nal.frame header payload) = .ok (header, f.apply s) := by
  obtain ⟨hfits, htype, hset⟩ := of_ofUnit?_eq_ok h
  obtain ⟨payload, hpayload, hread⟩ := exists_payload (wellFormed_apply hset) hfits htype
  refine ⟨payload, ?_, hpayload, hread⟩
  simp only [fix, h, appendUnit_eq hpayload, List.nil_append]

theorem fix_eq_ok {out : Bytes} (h : (f.fix unit).1 = .ok out) :
    ∃ header payload, out = Nal.frame header payload ∧ header.Fits ∧
      header.unitType = Nal.parameterSetType ∧ payload.getLast? ≠ some 0 := by
  cases hread : ofUnit? unit with
  | error e =>
    rw [fix_of_unreadable f hread] at h
    cases h
  | ok result =>
    obtain ⟨header, s⟩ := result
    obtain ⟨payload, hfix, hpayload, -⟩ := fix_of_readable f hread
    obtain ⟨hfits, htype, -⟩ := of_ofUnit?_eq_ok hread
    rw [hfix] at h
    exact ⟨header, payload, (Except.ok.inj h).symm, hfits, htype, getLast?_toPayload hpayload⟩

/-- A unit written for an adapted set is adapted to itself. -/
theorem fix_frame (f : Fixup) {header : Nal.Header} {payload : Bytes}
    (hpayload : (f.apply s).toPayload = .ok payload)
    (hread : ofUnit? (Nal.frame header payload) = .ok (header, f.apply s)) :
    (f.fix (Nal.frame header payload)).1 = .ok (Nal.frame header payload) := by
  obtain ⟨again, hfix, hagain, -⟩ := fix_of_readable f hread
  rw [apply_apply, hpayload] at hagain
  rw [hfix, Except.ok.inj hagain]

/-! ## Units one after the other -/

def after (f : Fixup) (units : List Bytes) : Fixup :=
  units.foldl (fun f unit => (f.fix unit).2) f

theorem fix_snd (f : Fixup) (unit : Bytes) : ∃ output, (f.fix unit).2 = { f with output } := by
  cases hread : ofUnit? unit with
  | error e => exact ⟨f.output, by rw [fix_of_unreadable f hread]⟩
  | ok result =>
    obtain ⟨payload, hfix, -⟩ := fix_of_readable f hread
    exact ⟨Nal.frame result.1 payload, by rw [hfix]⟩

theorem after_eq (f : Fixup) (units : List Bytes) :
    ∃ output, f.after units = { f with output } := by
  induction units generalizing f with
  | nil => exact ⟨f.output, rfl⟩
  | cons unit units ih =>
    obtain ⟨output, houtput⟩ := fix_snd f unit
    obtain ⟨last, hlast⟩ := ih (f.fix unit).2
    refine ⟨last, ?_⟩
    change (f.fix unit).2.after units = _
    rw [hlast, houtput]

/-- Whatever units went before, a unit is refused exactly when it cannot be read, and for the same
reason. Otherwise it keeps its header byte, is read as the adapted parameter set, and comes out
unchanged when it goes through once more, at once or later. -/
theorem fix_after (f : Fixup) (earlier : List Bytes) (unit : Bytes) :
    (∀ e, ((f.after earlier).fix unit).1 = .error e ↔ ofUnit? unit = .error e) ∧
      ∀ header s, ofUnit? unit = .ok (header, s) →
        ∃ out length byte payload,
          ((f.after earlier).fix unit).1 = .ok out ∧
          Nal.startCodeLength? unit = some length ∧ unit[length]? = some byte ∧
          out = [0, 0, 0, 1] ++ byte :: payload ∧
          ofUnit? out = .ok (header, f.apply s) ∧ f.Adapts s (f.apply s) ∧
          ∀ later, ((f.after (earlier ++ unit :: later)).fix out).1 = .ok out := by
  obtain ⟨output, hafter⟩ := after_eq f earlier
  rw [hafter]
  refine ⟨?_, ?_⟩
  · intro e
    cases hread : ofUnit? unit with
    | error e' =>
      rw [fix_of_unreadable _ hread]
      simp only [Except.error.injEq]
    | ok result =>
      obtain ⟨payload, hfix, -⟩ := fix_of_readable { f with output } hread
      rw [hfix]
      exact iff_of_false nofun nofun
  · intro header s hread
    obtain ⟨payload, hfix, hpayload, hout⟩ := fix_of_readable { f with output } hread
    obtain ⟨_, _, hsplit, -⟩ := ofUnit?_eq_ok.mp hread
    obtain ⟨length, hlength, hrest, -⟩ := Nal.split?_eq_ok.mp hsplit
    have hbyte : unit[length]? = some header.toByte := by
      rw [← Nat.add_zero length, ← List.getElem?_drop, hrest]
      rfl
    refine ⟨_, length, header.toByte, _, congrArg Prod.fst hfix, hlength, hbyte, rfl, hout,
      apply_adapts f s, ?_⟩
    intro later
    obtain ⟨last, hlast⟩ := after_eq f (earlier ++ unit :: later)
    rw [hlast]
    exact fix_frame { f with output := last } hpayload hout

end AvcPipeline.Fixup
