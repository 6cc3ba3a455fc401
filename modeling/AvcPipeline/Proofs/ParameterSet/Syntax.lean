import AvcPipeline.Proofs.ParameterSet.ScalingList
import AvcPipeline.Proofs.ParameterSet.Usability

/-!
# Parameter sets in a bit string

The groups outside the usability information, and from all of them the parameter set: it is read
exactly where the word of a well-formed set lies. The word of a well-formed set can always be
written.
-/

namespace AvcPipeline

open Bits ParameterSet

variable {r r' : Reader}

/-! ## Picture order and cropping -/

theorem offsetCount_iff {count : UInt32} {length : Nat} :
    count ≤ 255 ∧ length = count.toNat ↔ count = .ofNat length ∧ length ≤ 255 := by
  constructor
  · rintro ⟨hcount, rfl⟩
    exact ⟨UInt32.ofNat_toNat.symm, UInt32.le_iff_toNat_le.mp hcount⟩
  · rintro ⟨rfl, hle⟩
    have hto : (UInt32.ofNat length).toNat = length :=
      UInt32.toNat_ofNat_of_lt' (hle.trans_lt (by decide : 255 < UInt32.size))
    rw [UInt32.le_iff_toNat_le, hto]
    exact ⟨hle, rfl⟩

theorem reads_cycle {c : OrderCount} :
    Reads OrderCount.readCycle r c r' ↔
      ∃ alwaysZero nonRef topToBottom offsets,
        c = .cycle alwaysZero nonRef topToBottom offsets ∧ c.WellFormed ∧
          Spells (.join [.flag alwaysZero, .se nonRef, .se topToBottom,
            .ue (.ofNat offsets.length), .join (offsets.map .se)]) r r' := by
  simp only [OrderCount.readCycle, reads_bind, reads_flag, reads_signed, reads_number,
    reads_demand, reads_times reads_signed, reads_pure, decide_eq_true_eq]
  constructor
  · rintro ⟨alwaysZero, r₁, hzero, nonRef, r₂, ⟨hmin, hnonRef⟩, topToBottom, r₃, ⟨hmin', htop⟩,
      count, r₄, ⟨-, hcount⟩, -, r₅, ⟨hle, rfl⟩, offsets, r₆, ⟨hlength, hvalid, hoffsets⟩, rfl,
      rfl⟩
    obtain ⟨rfl, hmax⟩ := offsetCount_iff.mp ⟨hle, hlength⟩
    refine ⟨_, _, _, _, rfl, ⟨hmin, hmin', hmax, hvalid⟩, ?_⟩
    simp only [spells_join_cons, spells_join_nil]
    exact ⟨r₁, hzero, r₂, hnonRef, r₃, htop, r₄, hcount, r₆, hoffsets, rfl⟩
  · rintro ⟨alwaysZero, nonRef, topToBottom, offsets, rfl, ⟨hmin, hmin', hmax, hvalid⟩, hword⟩
    simp only [spells_join_cons, spells_join_nil] at hword
    obtain ⟨r₁, hzero, r₂, hnonRef, r₃, htop, r₄, hcount, r₅, hoffsets, rfl⟩ := hword
    obtain ⟨hle, hlength⟩ := offsetCount_iff.mpr ⟨rfl, hmax⟩
    exact ⟨_, r₁, hzero, _, r₂, ⟨hmin, hnonRef⟩, _, r₃, ⟨hmin', htop⟩, _, r₄,
      ⟨ne_unreadable_of_le hle (by decide), hcount⟩, (), r₄, ⟨hle, rfl⟩, _, r₅,
      ⟨hlength, hvalid, hoffsets⟩, rfl, rfl⟩

theorem reads_orderCount {c : OrderCount} :
    Reads OrderCount.read r c r' ↔ c.WellFormed ∧ Spells c.word r r' := by
  simp only [OrderCount.read, reads_bind, reads_number]
  constructor
  · rintro ⟨kind, r₁, ⟨-, hkind⟩, hrest⟩
    by_cases hzero : kind = 0
    · subst hzero
      rw [if_pos rfl] at hrest
      obtain ⟨lsb, hread, rfl⟩ := reads_map.mp hrest
      obtain ⟨hlsb, hword⟩ := reads_number.mp hread
      refine ⟨hlsb, ?_⟩
      simp only [OrderCount.word, spells_join_cons, spells_join_nil]
      exact ⟨r₁, hkind, r', hword, rfl⟩
    · rw [if_neg hzero] at hrest
      by_cases hone : kind = 1
      · subst hone
        rw [if_pos rfl] at hrest
        obtain ⟨_, _, _, _, rfl, hvalid, hword⟩ := reads_cycle.mp hrest
        exact ⟨hvalid, spells_join_cons.mpr ⟨r₁, hkind, hword⟩⟩
      · rw [if_neg hone, reads_bind] at hrest
        obtain ⟨_, r₂, hdemand, hlast⟩ := hrest
        obtain ⟨hkinds, rfl⟩ := reads_demand.mp hdemand
        obtain ⟨rfl, rfl⟩ := reads_pure.mp hlast
        obtain rfl := of_decide_eq_true hkinds
        exact ⟨trivial, hkind⟩
  · rintro ⟨hvalid, hword⟩
    cases c with
    | lsb log2MaxLsbMinus4 =>
      simp only [OrderCount.word, spells_join_cons, spells_join_nil] at hword
      obtain ⟨r₁, hkind, r₂, hlsb, rfl⟩ := hword
      refine ⟨0, r₁, ⟨by decide, hkind⟩, ?_⟩
      rw [if_pos rfl, reads_map]
      exact ⟨_, reads_number.mpr ⟨hvalid, hlsb⟩, rfl⟩
    | cycle alwaysZero nonRef topToBottom offsets =>
      obtain ⟨r₁, hkind, hrest⟩ := spells_join_cons.mp hword
      refine ⟨1, r₁, ⟨by decide, hkind⟩, ?_⟩
      rw [if_neg (by decide), if_pos rfl, reads_cycle]
      exact ⟨_, _, _, _, rfl, hvalid, hrest⟩
    | decodingOrder =>
      refine ⟨2, r', ⟨by decide, hword⟩, ?_⟩
      rw [if_neg (by decide), if_neg (by decide), reads_bind]
      exact ⟨(), r', reads_demand.mpr ⟨rfl, rfl⟩, reads_pure.mpr ⟨rfl, rfl⟩⟩

theorem reads_cropping {c : Cropping} :
    Reads Cropping.read r c r' ↔ c.WellFormed ∧ Spells c.word r r' := by
  obtain ⟨left, right, top, bottom⟩ := c
  simp only [Cropping.read, Cropping.word, Cropping.wellFormed_iff, reads_bind, reads_number,
    reads_pure, spells_join_cons, spells_join_nil, Cropping.mk.injEq]
  simp only [existsAndEq, and_true]
  simp only [exists_and_left_comm, exists_and_left, and_assoc]

/-! ## The high profiles -/

theorem listsComplete_cons {index : Nat} {list : Option ScalingList}
    {lists : List (Option ScalingList)} :
    HighProfile.ListsComplete index (list :: lists) ↔
      (∀ l ∈ list, l.Complete (scalingListSize index) ScalingList.initialScale) ∧
        HighProfile.ListsComplete (index + 1) lists := by
  simp only [HighProfile.ListsComplete, List.zipIdx_cons, List.forall_mem_cons]

theorem reads_lists {count index : Nat} {lists : List (Option ScalingList)} :
    Reads (HighProfile.readLists count index) r lists r' ↔
      (lists.length = count ∧ HighProfile.ListsComplete index lists) ∧
        Spells (HighProfile.listsWord lists) r r' := by
  have hlist {size : Nat} {list : ScalingList} {r r' : Reader} :
      Reads (ScalingList.read size ScalingList.initialScale) r list r' ↔
        list.Complete size ScalingList.initialScale ∧ Spells list.word r r' :=
    reads_scalingList (by decide)
  induction count generalizing r r' index lists with
  | zero =>
    rw [HighProfile.readLists, reads_pure]
    constructor
    · rintro ⟨rfl, rfl⟩
      exact ⟨⟨rfl, nofun⟩, spells_join_nil.mpr rfl⟩
    · rintro ⟨⟨hlength, -⟩, hword⟩
      obtain rfl := List.eq_nil_of_length_eq_zero hlength
      exact ⟨rfl, spells_join_nil.mp hword⟩
  | succ count ih =>
    simp only [HighProfile.readLists, reads_bind, reads_optional hlist, ih, reads_pure]
    constructor
    · rintro ⟨list, r₁, ⟨hcomplete, hfirst⟩, rest, r₂, ⟨⟨hlength, hvalid⟩, hrest⟩, rfl, rfl⟩
      refine ⟨⟨congrArg (· + 1) hlength, listsComplete_cons.mpr ⟨hcomplete, hvalid⟩⟩, ?_⟩
      exact spells_join_cons.mpr ⟨r₁, hfirst, hrest⟩
    · rintro ⟨⟨hlength, hvalid⟩, hword⟩
      cases lists with
      | nil => cases hlength
      | cons list rest =>
        obtain ⟨r₁, hfirst, hrest⟩ := spells_join_cons.mp hword
        obtain ⟨hcomplete, hvalid⟩ := listsComplete_cons.mp hvalid
        exact ⟨list, r₁, ⟨hcomplete, hfirst⟩, rest, r', ⟨⟨Nat.succ.inj hlength, hvalid⟩, hrest⟩,
          rfl, rfl⟩

theorem reads_highProfile {h : HighProfile} :
    Reads HighProfile.read r h r' ↔ h.WellFormed ∧ Spells h.word r r' := by
  obtain ⟨chroma, separate, luma, chromaDepth, bypass, lists⟩ := h
  simp only [HighProfile.read, HighProfile.word, HighProfile.wellFormed_iff, reads_bind,
    reads_number, reads_demand, reads_flagIf, reads_flag, reads_optional reads_lists, reads_pure,
    spells_join_cons, spells_join_nil, HighProfile.mk.injEq, decide_eq_true_eq,
    decide_eq_false_iff_not, ne_eq]
  simp only [existsAndEq, and_true, exists_const]
  simp only [exists_and_left_comm, exists_and_left, and_assoc]
  exact and_iff_right_of_imp fun h => ne_unreadable_of_le h.1 (by decide)

/-! ## The whole set -/

theorem reads_high {profileIdc : UInt8} {high : Option HighProfile} :
    Reads (readIf (profileIdc ∈ highProfiles) none (some <$> HighProfile.read)) r high r' ↔
      ((high.isSome ↔ profileIdc ∈ highProfiles) ∧ ∀ h ∈ high, h.WellFormed) ∧
        Spells (high.elim (.join []) HighProfile.word) r r' := by
  by_cases hprofile : profileIdc ∈ highProfiles
  · simp only [readIf, hprofile, decide_true, if_true, iff_true, reads_map, reads_highProfile]
    constructor
    · rintro ⟨h, ⟨hvalid, hword⟩, rfl⟩
      refine ⟨⟨rfl, ?_⟩, hword⟩
      intro e he
      cases he
      exact hvalid
    · rintro ⟨⟨hsome, hvalid⟩, hword⟩
      obtain ⟨h, rfl⟩ := Option.isSome_iff_exists.mp hsome
      exact ⟨h, ⟨hvalid h rfl, hword⟩, rfl⟩
  · simp only [readIf, hprofile, decide_false, Bool.false_eq_true, if_false, iff_false, reads_pure]
    constructor
    · rintro ⟨rfl, rfl⟩
      refine ⟨⟨Bool.false_ne_true, ?_⟩, spells_join_nil.mpr rfl⟩
      intro e he
      cases he
    · rintro ⟨⟨hnone, -⟩, hword⟩
      obtain rfl := Option.not_isSome_iff_eq_none.mp hnone
      exact ⟨rfl, spells_join_nil.mp hword⟩

theorem sizeAllowed_iff {width height : UInt32} :
    sizeAllowed width height = true ↔ width < 1055 ∧ height < 1055 := by
  simp only [sizeAllowed, Bool.and_eq_true, decide_eq_true_eq]
  rfl

theorem reads_parameterSet {s : ParameterSet} :
    Reads ParameterSet.read r s r' ↔ s.WellFormed ∧ Spells s.word r r' := by
  obtain ⟨profile, constraints, level, id, high, frameNum, orderCount, refFrames, gaps, width,
    height, frameMbsOnly, adaptive, direct, cropping, vui⟩ := s
  simp only [ParameterSet.read, ParameterSet.word, ParameterSet.wellFormed_iff, reads_bind,
    reads_octet, reads_number, reads_demand, reads_high, reads_orderCount, reads_flag, reads_flagIf,
    reads_optional reads_cropping, reads_optional reads_vui, reads_pure, spells_join_cons,
    spells_join_nil, ParameterSet.mk.injEq, decide_eq_true_eq, sizeAllowed_iff,
    Bool.not_eq_false']
  simp only [existsAndEq, and_true, exists_const]
  simp only [exists_and_left_comm, exists_and_left, and_assoc]
  constructor
  · rintro ⟨-, hid, hsome, hhigh, hframe, horder, href, -, -, hwidth, hheight, hrest⟩
    exact ⟨hid, hsome, hhigh, hframe, horder, href, hwidth, hheight, hrest⟩
  · rintro ⟨hid, hsome, hhigh, hframe, horder, href, hwidth, hheight, hrest⟩
    refine ⟨ne_unreadable_of_le hid (by decide), hid, hsome, hhigh, hframe, horder, href, ?_, ?_,
      hwidth, hheight, hrest⟩
    · exact ne_unreadable_of_le (UInt32.le_of_lt hwidth) (by decide)
    · exact ne_unreadable_of_le (UInt32.le_of_lt hheight) (by decide)

end AvcPipeline
