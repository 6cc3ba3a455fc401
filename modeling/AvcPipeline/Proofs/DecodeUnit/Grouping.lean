import AvcPipeline.DecodeUnit.Grouping
import AvcPipeline.Playback.Delivery
import AvcPipeline.Proofs.DecodeUnit.Assembly

/-!
# Pictures grouped, assembled and found again

Every decode unit of a stream is a row of framed units, and every one but the last has picture data.
An assembled unit has picture data exactly when one of its fragments has, however parameter sets are
rewritten and zeros move between the units when the device cuts it again.
-/

namespace AvcPipeline

open Nal

structure Fragment.Grouped (fragment : Fragment) : Prop where
  framed : Framed fragment.data
  kind : fragment.kind = .parameterSet → isPictureUnit fragment.data = false

namespace DecodeUnit

def hasPicture (u : DecodeUnit) : Bool :=
  u.fragments.any fun fragment => isPictureUnit fragment.data

structure Grouped (u : DecodeUnit) : Prop where
  nonempty : u.fragments ≠ []
  fragments : ∀ fragment ∈ u.fragments, fragment.Grouped

end DecodeUnit

/-! ## Assembled units -/

namespace Assembler

variable {f : Fixup} {fragment : Fragment} {fragments : List Fragment} {piece : Bytes}
  {pieces : List Bytes} {a : Assembler} {u : DecodeUnit} {out : Bytes}

theorem piece_grouped (h : fragment.Grouped) (hpiece : (f.piece fragment).1 = .ok piece) :
    Framed piece ∧ isPictureUnit piece = isPictureUnit fragment.data := by
  cases hkind : fragment.kind with
  | ordinary =>
    simp only [Fixup.piece, hkind, Except.ok.injEq] at hpiece
    rw [← hpiece]
    exact ⟨h.framed, rfl⟩
  | parameterSet =>
    refine ⟨(framed_of_parameterSet hkind hpiece).1, ?_⟩
    simp only [Fixup.piece, hkind] at hpiece
    obtain ⟨header, payload, rfl, hfits, htype, -⟩ := Fixup.fix_eq_ok hpiece
    rw [h.kind hkind, isPictureUnit, split?_frame hfits]
    simp only [Header.isPicture, htype]
    rfl

theorem pieces_grouped (h : f.Replaces fragments pieces)
    (hgrouped : ∀ fragment ∈ fragments, fragment.Grouped) :
    (∀ piece ∈ pieces, Framed piece) ∧
      pieces.any isPictureUnit = fragments.any fun fragment => isPictureUnit fragment.data := by
  induction h with
  | nil => exact ⟨nofun, rfl⟩
  | cons hpiece _ ih =>
    obtain ⟨hfirst, hrest⟩ := List.forall_mem_cons.mp hgrouped
    obtain ⟨hframed, hpicture⟩ := piece_grouped hfirst hpiece
    obtain ⟨hframed', hpicture'⟩ := ih hrest
    refine ⟨List.forall_mem_cons.mpr ⟨hframed, hframed'⟩, ?_⟩
    rw [List.any_cons, List.any_cons, hpicture, hpicture']

theorem flatten_ne_nil (hpieces : pieces ≠ []) (hframed : ∀ piece ∈ pieces, Framed piece) :
    pieces.flatten ≠ [] := by
  intro hempty
  obtain ⟨piece, hmem⟩ := List.exists_mem_of_ne_nil pieces hpieces
  obtain ⟨code, body, hcode, rfl, -⟩ := hframed piece hmem
  have hnil : code = [] :=
    (List.append_eq_nil_iff.mp (List.flatten_eq_nil_iff.mp hempty _ hmem)).1
  rcases hcode with rfl | rfl <;> cases hnil

/-- The device finds a picture in an assembled unit exactly when a fragment has one. -/
theorem hasPicture_assemble (hgrouped : u.Grouped) (h : (a.assemble f u).1 = .ok out) :
    Device.hasPicture out = u.hasPicture ∧ out ≠ [] := by
  obtain ⟨-, pieces, hpieces, -, rfl⟩ := assemble_eq_ok.mp h
  obtain ⟨hframed, hpicture⟩ := pieces_grouped hpieces hgrouped.fragments
  refine ⟨(hasPicture_flatten hframed).trans hpicture, flatten_ne_nil ?_ hframed⟩
  rintro rfl
  exact hgrouped.nonempty (List.length_eq_zero_iff.mp hpieces.length_eq)

end Assembler

/-! ## Grouping -/

namespace Grouper

variable {g g' : Grouper} {unit payload : Bytes} {header : Header} {completed : Option DecodeUnit}

structure Sound (g : Grouper) : Prop where
  held : ∀ fragment ∈ g.held, fragment.Grouped
  hasPicture : g.hasPicture = g.held.any fun fragment => isPictureUnit fragment.data

theorem sound_empty : empty.Sound := ⟨nofun, rfl⟩

theorem Sound.flush (h : g.Sound) :
    (∀ u ∈ g.flush.1, u.Grouped ∧ u.hasPicture = g.hasPicture) ∧ g.flush.2.Sound := by
  unfold Grouper.flush
  by_cases hheld : g.held = []
  · rw [if_pos (List.isEmpty_iff.mpr hheld)]
    exact ⟨nofun, h⟩
  · rw [if_neg (mt List.isEmpty_iff.mp hheld)]
    refine ⟨?_, nofun, rfl⟩
    rintro u ⟨⟩
    refine ⟨⟨mt List.reverse_eq_nil_iff.mp hheld, fun fragment hmem => ?_⟩, ?_⟩
    · exact h.held fragment (List.mem_reverse.mp hmem)
    · exact List.any_reverse.trans h.hasPicture.symm

theorem Sound.hold (h : g.Sound) (hframed : Framed unit)
    (hsplit : split? unit = .ok (header, payload)) : (g.hold header unit).Sound := by
  have hpicture := isPictureUnit_of_split hsplit
  refine ⟨List.forall_mem_cons.mpr ⟨⟨hframed, fun hkind => ?_⟩, h.held⟩, ?_⟩
  · by_cases htype : header.unitType = parameterSetType
    · rw [hpicture, Header.isPicture, htype]
      rfl
    · rw [if_neg htype] at hkind
      cases hkind
  · change (g.hasPicture || header.isPicture) = (isPictureUnit unit || _)
    rw [hpicture, h.hasPicture, Bool.or_comm]

/-- What was collected before is completed first, if it has picture data and the unit opens an
access unit. -/
theorem push_eq (g : Grouper) (hsplit : split? unit = .ok (header, payload)) :
    let before := if g.hasPicture && header.opensAccessUnit payload then g.flush else (none, g)
    g.push unit = .ok (before.1, before.2.hold header unit) := by
  rw [push, hsplit]
  rfl

theorem Sound.push (h : g.Sound) (hframed : Framed unit)
    (hpush : g.push unit = .ok (completed, g')) :
    g'.Sound ∧ ∀ u ∈ completed, u.Grouped ∧ u.hasPicture = true := by
  cases hsplit : split? unit with
  | error e =>
    rw [Grouper.push, hsplit] at hpush
    cases hpush
  | ok split =>
    obtain ⟨header, payload⟩ := split
    rw [push_eq g hsplit, Except.ok.injEq, Prod.mk.injEq] at hpush
    obtain ⟨rfl, rfl⟩ := hpush
    by_cases hopens : (g.hasPicture && header.opensAccessUnit payload) = true
    · obtain ⟨hcompleted, hsound⟩ := h.flush
      rw [(Bool.and_eq_true_iff.mp hopens).1] at hcompleted
      rw [if_pos hopens]
      exact ⟨hsound.hold hframed hsplit, hcompleted⟩
    · rw [if_neg hopens]
      exact ⟨h.hold hframed hsplit, fun u hu => nomatch hu⟩

end Grouper

namespace Playback

open Grouper

/-- Units grouped from a stream: all but the last, if there is one, have picture data. -/
structure GroupedUnits (earlier : List DecodeUnit) (last : Option DecodeUnit) : Prop where
  earlier : ∀ u ∈ earlier, u.Grouped ∧ u.hasPicture = true
  last : ∀ u ∈ last, u.Grouped

theorem pictures_deliveriesFrom {g : Grouper} (h : g.Sound) (index : Nat) {units : List Bytes}
    (hunits : ∀ unit ∈ units, Framed unit) : ∃ earlier last,
      (deliveriesFrom g index units).filterMap Delivery.picture? = earlier ++ last.toList ∧
      GroupedUnits earlier last := by
  induction units generalizing g index with
  | nil =>
    refine ⟨[], g.flush.1, ?_, nofun, fun u hu => (h.flush.1 u hu).1⟩
    rw [deliveriesFrom]
    cases g.flush.1 <;> rfl
  | cons unit rest ih =>
    obtain ⟨hframed, hrest⟩ := List.forall_mem_cons.mp hunits
    rw [deliveriesFrom]
    cases hpush : g.push unit with
    | error e => exact ih h (index + 1) hrest
    | ok result =>
      obtain ⟨completed, g'⟩ := result
      obtain ⟨hsound, hcompleted⟩ := h.push hframed hpush
      obtain ⟨earlier, last, hlater, hgrouped⟩ := ih hsound (index + 1) hrest
      cases completed with
      | none => exact ⟨earlier, last, hlater, hgrouped⟩
      | some u =>
        refine ⟨u :: earlier, last, congrArg (u :: ·) hlater, ?_, hgrouped.last⟩
        exact List.forall_mem_cons.mpr ⟨hcompleted u rfl, hgrouped.earlier⟩

theorem exists_groupedUnits (stream : Bytes) :
    ∃ earlier last, pictures stream = earlier ++ last.toList ∧ GroupedUnits earlier last :=
  pictures_deliveriesFrom sound_empty 0 fun _ => framed_of_mem_units

theorem grouped_of_mem_pictures {stream : Bytes} {u : DecodeUnit} (h : u ∈ pictures stream) :
    u.Grouped := by
  obtain ⟨earlier, last, hpictures, hgrouped⟩ := exists_groupedUnits stream
  rw [hpictures] at h
  rcases List.mem_append.mp h with hmem | hmem
  · exact (hgrouped.earlier u hmem).1
  · exact hgrouped.last u (Option.mem_toList.mp hmem)

/-- Units without picture data can only be counted at the end of a stream. -/
theorem countP_pictures (stream : Bytes) {p : DecodeUnit → Bool}
    (hp : ∀ u, p u = true → u.hasPicture = false) :
    (pictures stream).countP p = ((pictures stream).getLast?.any p).toNat := by
  obtain ⟨earlier, last, hpictures, hgrouped⟩ := exists_groupedUnits stream
  have hnone : ∀ u ∈ earlier, ¬ p u = true := by
    intro u hu hcounted
    exact Bool.false_ne_true ((hp u hcounted).symm.trans (hgrouped.earlier u hu).2)
  rw [hpictures, List.countP_append, List.countP_eq_zero.mpr hnone, Nat.zero_add]
  cases last with
  | some u =>
    rw [Option.toList_some, List.getLast?_concat, List.countP_singleton, Option.any_some]
    cases p u <;> rfl
  | none =>
    rw [Option.toList, List.append_nil]
    cases hlast : earlier.getLast? with
    | none => rfl
    | some u =>
      have hlacks := hnone u (List.mem_of_getLast? hlast)
      rw [Option.any_some, Bool.eq_false_iff.mpr hlacks]
      rfl

end Playback
end AvcPipeline
