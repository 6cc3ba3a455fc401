import AvcPipeline.Proofs.ParameterSet.Word

/-!
# Scaling lists in a bit string

A scaling list has no count in front of it. That the reader stops at the same difference as the
writer is a property of the running scale: a complete list is either full or ends with the first
scale of zero.
-/

namespace AvcPipeline

open Bits ParameterSet

variable {r r' : Reader}

namespace ScalingList

theorem scaleAfter_zero (scale : Int) (list : ScalingList) :
    scaleAfter scale list 0 = scale % 256 := by
  simp [scaleAfter]

theorem scaleAfter_cons (scale : Int) (delta : Int32) (rest : ScalingList) (count : Nat) :
    scaleAfter scale (delta :: rest) (count + 1) =
      scaleAfter ((scale + delta.toInt) % 256) rest count := by
  simp only [scaleAfter, List.take_succ_cons, List.map_cons, List.sum_cons]
  rw [Int.emod_add_emod, add_assoc]

theorem complete_zero_iff {scale : Int} {list : ScalingList} :
    list.Complete 0 scale ↔ list = [] := by
  constructor
  · intro h
    exact List.eq_nil_of_length_eq_zero (Nat.le_zero.mp h.length_le)
  · rintro rfl
    exact ⟨nofun, nofun, le_rfl, .inl rfl⟩

theorem complete_zero_scale_iff {size : Nat} {list : ScalingList} :
    list.Complete size 0 ↔ list = [] := by
  have hstart : scaleAfter 0 list 0 = 0 := scaleAfter_zero 0 list
  constructor
  · intro h
    by_contra hne
    exact h.running 0 (List.length_pos_iff.mpr hne) hstart
  · rintro rfl
    exact ⟨nofun, nofun, Nat.zero_le size, .inr hstart⟩

/-- After its first difference a list goes on as a complete list from the next scale. -/
theorem complete_cons_iff {size : Nat} {scale : Int} {delta : Int32} {rest : ScalingList}
    (hscale : scale % 256 ≠ 0) :
    Complete (size + 1) scale (delta :: rest) ↔
      (-128 ≤ delta ∧ delta ≤ 127) ∧ rest.Complete size ((scale + delta.toInt) % 256) := by
  constructor
  · intro h
    obtain ⟨hdelta, hrest⟩ := List.forall_mem_cons.mp h.inRange
    refine ⟨hdelta, hrest, ?_, Nat.le_of_succ_le_succ h.length_le, ?_⟩
    · intro count hcount
      have hne := h.running (count + 1) (Nat.succ_lt_succ hcount)
      rwa [scaleAfter_cons] at hne
    · rcases h.ended with hfull | hzero
      · exact .inl (Nat.succ.inj hfull)
      · rw [List.length_cons, scaleAfter_cons] at hzero
        exact .inr hzero
  · rintro ⟨hdelta, hrest⟩
    refine ⟨List.forall_mem_cons.mpr ⟨hdelta, hrest.inRange⟩, ?_,
      Nat.succ_le_succ hrest.length_le, ?_⟩
    · intro count hcount
      cases count with
      | zero => rwa [scaleAfter_zero]
      | succ count =>
        rw [scaleAfter_cons]
        exact hrest.running count (Nat.lt_of_succ_lt_succ hcount)
    · rw [List.length_cons, scaleAfter_cons]
      exact hrest.ended.imp_left (congrArg (· + 1))

theorem not_complete_nil {size : Nat} {scale : Int} (hscale : scale % 256 ≠ 0) :
    ¬ Complete (size + 1) scale [] := by
  intro h
  rcases h.ended with hfull | hzero
  · cases hfull
  · exact hscale ((scaleAfter_zero scale []).symm.trans hzero)

end ScalingList

theorem reads_scalingList {size : Nat} {scale : Int} {list : ScalingList}
    (hscale : scale % 256 ≠ 0) :
    Reads (ScalingList.read size scale) r list r' ↔
      list.Complete size scale ∧ Spells list.word r r' := by
  induction size generalizing scale r r' list with
  | zero =>
    rw [ScalingList.read, reads_pure, ScalingList.complete_zero_iff]
    constructor
    · rintro ⟨rfl, hr⟩
      exact ⟨rfl, spells_join_nil.mpr hr⟩
    · rintro ⟨rfl, hword⟩
      exact ⟨rfl, spells_join_nil.mp hword⟩
  | succ size ih =>
    simp only [ScalingList.read, reads_bind, reads_signed, reads_demand]
    constructor
    · rintro ⟨delta, r₁, ⟨-, hdelta⟩, _, r₂, ⟨hrange, rfl⟩, hrest⟩
      simp only [Bool.and_eq_true, decide_eq_true_eq] at hrange
      by_cases hzero : (scale + delta.toInt) % 256 = 0
      · rw [if_pos hzero] at hrest
        obtain ⟨rfl, rfl⟩ := reads_pure.mp hrest
        rw [ScalingList.complete_cons_iff hscale, hzero]
        exact ⟨⟨hrange, ScalingList.complete_zero_scale_iff.mpr rfl⟩,
          spells_join_cons.mpr ⟨r₁, hdelta, spells_join_nil.mpr rfl⟩⟩
      · rw [if_neg hzero, reads_bind] at hrest
        obtain ⟨rest, r₂, hrest, hlast⟩ := hrest
        obtain ⟨rfl, rfl⟩ := reads_pure.mp hlast
        obtain ⟨hcomplete, hword⟩ := (ih (by rwa [Int.emod_emod])).mp hrest
        rw [ScalingList.complete_cons_iff hscale]
        exact ⟨⟨hrange, hcomplete⟩, spells_join_cons.mpr ⟨r₁, hdelta, hword⟩⟩
    · rintro ⟨hcomplete, hword⟩
      cases list with
      | nil => exact absurd hcomplete (ScalingList.not_complete_nil hscale)
      | cons delta rest =>
        obtain ⟨r₁, hdelta, hrest⟩ := spells_join_cons.mp hword
        obtain ⟨hrange, hcomplete⟩ := (ScalingList.complete_cons_iff hscale).mp hcomplete
        have hmin : delta ≠ Int32.minValue := by
          rintro rfl
          exact absurd hrange.1 (by decide)
        refine ⟨delta, r₁, ⟨hmin, hdelta⟩, (), r₁, ⟨by simpa using hrange, rfl⟩, ?_⟩
        by_cases hzero : (scale + delta.toInt) % 256 = 0
        · rw [hzero, ScalingList.complete_zero_scale_iff] at hcomplete
          subst hcomplete
          rw [if_pos hzero, reads_pure]
          exact ⟨rfl, spells_join_nil.mp hrest⟩
        · have hread := (ih (by rwa [Int.emod_emod])).mpr ⟨hcomplete, hrest⟩
          rw [if_neg hzero, reads_bind]
          exact ⟨rest, r', hread, reads_pure.mpr ⟨rfl, rfl⟩⟩

end AvcPipeline
