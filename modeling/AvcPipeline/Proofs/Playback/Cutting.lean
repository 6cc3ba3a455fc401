import AvcPipeline.Proofs.Playback.Problem

/-!
# Where a stream is cut into decode units

However units that can be read and others follow each other, a grouper gives every readable unit
back once and in order. What was emitted and what is held make up the accepted units after each
push (`Holds`), and a unit begins where picture data is followed by a unit that opens another
picture, and nowhere else (`DecodeUnit.Cut`).
-/

namespace AvcPipeline

open Nal

namespace Nal

/-- Supplementary information, parameter sets, delimiters, reserved types, and picture data that
begins with a one bit. -/
def Opens (unit : Bytes) : Prop :=
  ∃ header payload, split? unit = .ok (header, payload) ∧
    ((6 ≤ header.unitType ∧ header.unitType ≤ 9) ∨ (14 ≤ header.unitType ∧ header.unitType ≤ 18) ∨
      (1 ≤ header.unitType ∧ header.unitType ≤ 5) ∧ ∃ byte ∈ payload.head?, 0x80 ≤ byte)

theorem opensAccessUnit_iff (h : Header) (payload : Bytes) :
    h.opensAccessUnit payload = true ↔
      (6 ≤ h.unitType ∧ h.unitType ≤ 9) ∨ (14 ≤ h.unitType ∧ h.unitType ≤ 18) ∨
        (1 ≤ h.unitType ∧ h.unitType ≤ 5) ∧ ∃ byte ∈ payload.head?, 0x80 ≤ byte := by
  unfold Header.opensAccessUnit Header.isPicture
  simp only [Bool.or_eq_true, Bool.and_eq_true, decide_eq_true_eq]
  rw [← or_assoc]
  by_cases hother : (6 ≤ h.unitType ∧ h.unitType ≤ 9) ∨ (14 ≤ h.unitType ∧ h.unitType ≤ 18)
  · rw [if_pos hother]
    exact iff_of_true rfl (.inl hother)
  · rw [if_neg hother, or_iff_right hother]
    by_cases hpicture : 1 ≤ h.unitType ∧ h.unitType ≤ 5
    · rw [if_pos hpicture, and_iff_right hpicture]
      cases payload with
      | nil => exact iff_of_false Bool.false_ne_true nofun
      | cons byte rest =>
        simp only [decide_eq_true_eq, List.head?_cons, Option.mem_some_iff, exists_eq_left']
    · rw [if_neg hpicture]
      exact iff_of_false Bool.false_ne_true fun h => hpicture h.1

theorem opens_iff {unit payload : Bytes} {header : Header}
    (hsplit : split? unit = .ok (header, payload)) :
    Opens unit ↔ header.opensAccessUnit payload = true := by
  rw [opensAccessUnit_iff]
  constructor
  · rintro ⟨header', payload', hsplit', hopens⟩
    cases hsplit.symm.trans hsplit'
    exact hopens
  · intro hopens
    exact ⟨header, payload, hsplit, hopens⟩

end Nal

def Fragment.ofUnit? (unit : Bytes) : Option Fragment :=
  (unitType? unit).map fun unitType =>
    ⟨if unitType = parameterSetType then .parameterSet else .ordinary, unit⟩

namespace DecodeUnit

def hasRefresh (u : DecodeUnit) : Bool :=
  u.fragments.any fun fragment => unitType? fragment.data = some refreshSliceType

/-- Nothing in a unit begins another picture, and what it says of its fragments is true. -/
structure Cut (u : DecodeUnit) : Prop where
  length : u.declaredLength = (u.fragments.map fun fragment => fragment.data.length).sum
  kind : u.kind = .refresh ↔ u.hasRefresh = true
  closed : u.fragments.Pairwise fun earlier later =>
    isPictureUnit earlier.data = true → ¬ Opens later.data

def Begins (u : DecodeUnit) : Prop :=
  ∃ first ∈ u.fragments.head?, Opens first.data

end DecodeUnit

namespace Grouper

variable {g g' : Grouper} {unit payload : Bytes} {header : Header} {completed : Option DecodeUnit}
  {emitted : List DecodeUnit} {accepted : List Fragment}

/-- The replies to these units, pushed one after the other, and the grouper then. A unit that is
refused leaves the grouper as it was. -/
def pushAll (g : Grouper) : List Bytes → List (Except Nal.Error (Option DecodeUnit)) × Grouper
  | [] => ([], g)
  | unit :: rest =>
    match g.push unit with
    | .error e =>
      let later := g.pushAll rest
      (.error e :: later.1, later.2)
    | .ok (completed, g) =>
      let later := g.pushAll rest
      (.ok completed :: later.1, later.2)

def emissions (replies : List (Except Nal.Error (Option DecodeUnit))) : List DecodeUnit :=
  replies.filterMap fun reply => reply.toOption.join

/-- What was emitted and what is held are the accepted units, cut as they are to be. -/
structure Holds (emitted : List DecodeUnit) (accepted : List Fragment) (g : Grouper) : Prop where
  fragments : emitted.flatMap (·.fragments) ++ g.held.reverse = accepted
  numbers : emitted.map (·.frameNumber) = (List.range emitted.length).map UInt32.ofNat
  next : g.nextFrame = UInt32.ofNat emitted.length
  hasPicture : g.hasPicture = g.held.any fun fragment => isPictureUnit fragment.data
  hasRefresh : g.hasRefresh = g.held.any fun fragment =>
    unitType? fragment.data = some refreshSliceType
  cut : ∀ u ∈ emitted, u.Cut
  begun : ∀ u ∈ emitted.tail, u.Begins
  closed : g.held.Pairwise fun later earlier =>
    isPictureUnit earlier.data = true → ¬ Opens later.data
  begins : emitted ≠ [] → ∀ first ∈ g.held.getLast?, Opens first.data

theorem holds_empty : Holds [] [] empty where
  fragments := rfl
  numbers := rfl
  next := rfl
  hasPicture := rfl
  hasRefresh := rfl
  cut := nofun
  begun := nofun
  closed := .nil
  begins := nofun

theorem flush_of_nil (h : g.held = []) : g.flush = (none, g) := by
  rw [flush, if_pos (List.isEmpty_iff.mpr h)]

theorem flush_of_ne_nil (h : g.held ≠ []) :
    g.flush = (some (.ofFragments g.nextFrame (if g.hasRefresh then .refresh else .predicted)
      g.held.reverse), { nextFrame := g.nextFrame + 1 }) := by
  rw [flush, if_neg (mt List.isEmpty_iff.mp h)]

theorem reverse_held_hold (hsplit : split? unit = .ok (header, payload)) :
    (g.hold header unit).held.reverse = g.held.reverse ++ (Fragment.ofUnit? unit).toList := by
  rw [Fragment.ofUnit?, unitType?, hsplit]
  exact List.reverse_cons

theorem Holds.flush (h : Holds emitted accepted g) :
    Holds (emitted ++ g.flush.1.toList) accepted g.flush.2 ∧ g.flush.2.held = [] ∧
      ∀ u ∈ g.flush.1, u.hasPicture = g.hasPicture := by
  by_cases hheld : g.held = []
  · rw [flush_of_nil hheld]
    refine ⟨?_, hheld, nofun⟩
    rwa [Option.toList_none, List.append_nil]
  · rw [flush_of_ne_nil hheld]
    let u := DecodeUnit.ofFragments g.nextFrame (if g.hasRefresh then .refresh else .predicted)
      g.held.reverse
    have hcut : u.Cut := by
      refine ⟨DecodeUnit.totalLength_eq _, ?_, List.pairwise_reverse.mpr h.closed⟩
      have hrefresh : u.hasRefresh = g.hasRefresh := List.any_reverse.trans h.hasRefresh.symm
      rw [hrefresh]
      change (if g.hasRefresh = true then FrameKind.refresh else .predicted) = .refresh ↔ _
      cases g.hasRefresh <;> decide
    have hbegins : emitted ≠ [] → u.Begins := by
      intro hemitted
      obtain ⟨first, hfirst⟩ := Option.isSome_iff_exists.mp (List.getLast?_isSome.mpr hheld)
      exact ⟨first, List.head?_reverse.trans hfirst, h.begins hemitted first hfirst⟩
    refine ⟨?_, rfl, ?_⟩
    · exact {
        fragments := by
          have hall := h.fragments
          rw [Option.toList_some, List.flatMap_append, List.flatMap_singleton]
          rwa [List.reverse_nil, List.append_nil]
        numbers := by
          rw [Option.toList_some, List.map_append, h.numbers, List.length_append,
            List.length_singleton, List.range_succ, List.map_append, List.map_singleton,
            List.map_singleton, ← h.next]
          rfl
        next := by
          rw [Option.toList_some, List.length_append, List.length_singleton, UInt32.ofNat_add,
            ← h.next]
          rfl
        hasPicture := rfl
        hasRefresh := rfl
        cut := List.forall_mem_append.mpr ⟨h.cut, List.forall_mem_singleton.mpr hcut⟩
        begun := by
          cases emitted with
          | nil => exact nofun
          | cons first rest =>
            exact List.forall_mem_append.mpr
              ⟨h.begun, List.forall_mem_singleton.mpr (hbegins (List.cons_ne_nil _ _))⟩
        closed := .nil
        begins := fun _ => nofun }
    · rintro u ⟨⟩
      exact List.any_reverse.trans h.hasPicture.symm

theorem Holds.hold (h : Holds emitted accepted g) (hsplit : split? unit = .ok (header, payload))
    (hcloses : g.hasPicture = true → ¬ Opens unit)
    (hbegins : emitted ≠ [] → g.held = [] → Opens unit) :
    Holds emitted (accepted ++ (Fragment.ofUnit? unit).toList) (g.hold header unit) where
  fragments := by rw [reverse_held_hold hsplit, ← List.append_assoc, h.fragments]
  numbers := h.numbers
  next := h.next
  hasPicture := by
    have hpicture := isPictureUnit_of_split hsplit
    change (g.hasPicture || header.isPicture) = (isPictureUnit unit || _)
    rw [hpicture, h.hasPicture, Bool.or_comm]
  hasRefresh := by
    have hrefresh : decide (unitType? unit = some refreshSliceType) =
        decide (header.unitType = refreshSliceType) := by
      rw [unitType?_of_split hsplit]
      exact decide_eq_decide.mpr Option.some_inj
    change (g.hasRefresh || decide (header.unitType = refreshSliceType)) =
      (decide (unitType? unit = some refreshSliceType) || _)
    rw [hrefresh, h.hasRefresh, Bool.or_comm]
  cut := h.cut
  begun := h.begun
  closed := by
    refine List.pairwise_cons.mpr ⟨?_, h.closed⟩
    intro earlier hmem hpicture
    apply hcloses
    rw [h.hasPicture]
    exact List.any_eq_true.mpr ⟨earlier, hmem, hpicture⟩
  begins := by
    intro hemitted first hfirst
    by_cases hheld : g.held = []
    · rw [Grouper.hold, hheld] at hfirst
      cases hfirst
      exact hbegins hemitted hheld
    · apply h.begins hemitted
      change first ∈ (_ :: g.held).getLast? at hfirst
      rwa [List.getLast?_cons_of_ne_nil hheld] at hfirst

/-- Between two pushes every emitted unit has picture data, and nothing is emitted without the unit
that completed it. -/
structure Collects (emitted : List DecodeUnit) (accepted : List Fragment) (g : Grouper) : Prop
    extends Holds emitted accepted g where
  pictures : ∀ u ∈ emitted, u.hasPicture = true
  collects : emitted ≠ [] → g.held ≠ []

theorem collects_empty : Collects [] [] empty := ⟨holds_empty, nofun, nofun⟩

theorem Collects.push (h : Collects emitted accepted g)
    (hpush : g.push unit = .ok (completed, g')) :
    Collects (emitted ++ completed.toList) (accepted ++ (Fragment.ofUnit? unit).toList) g' := by
  cases hsplit : split? unit with
  | error e => exact absurd (hpush.symm.trans (push_eq_error.mpr hsplit)) nofun
  | ok split =>
    obtain ⟨header, payload⟩ := split
    rw [push_eq g hsplit, Except.ok.injEq, Prod.mk.injEq] at hpush
    obtain ⟨rfl, rfl⟩ := hpush
    by_cases hopens : (g.hasPicture && header.opensAccessUnit payload) = true
    · obtain ⟨hpicture, hopens'⟩ := Bool.and_eq_true_iff.mp hopens
      obtain ⟨hflush, hempty, hpictures⟩ := h.toHolds.flush
      rw [if_pos hopens]
      refine ⟨hflush.hold hsplit ?_ ?_, ?_, ?_⟩
      · intro hagain
        rw [hflush.hasPicture, hempty] at hagain
        cases hagain
      · exact fun _ _ => (opens_iff hsplit).mpr hopens'
      · refine List.forall_mem_append.mpr ⟨h.pictures, fun u hu => ?_⟩
        exact (hpictures u (Option.mem_toList.mp hu)).trans hpicture
      · exact fun _ => List.cons_ne_nil _ _
    · rw [if_neg hopens, Option.toList_none, List.append_nil]
      refine ⟨h.toHolds.hold hsplit ?_ ?_, h.pictures, ?_⟩
      · intro hpicture hopens'
        apply hopens
        rw [hpicture, (opens_iff hsplit).mp hopens']
        rfl
      · exact fun hemitted hheld => absurd hheld (h.collects hemitted)
      · exact fun _ => List.cons_ne_nil _ _

/-! ## Pushing many units -/

theorem ofUnit?_of_error {e : Nal.Error} (hsplit : split? unit = .error e) :
    Fragment.ofUnit? unit = none := by
  rw [Fragment.ofUnit?, unitType?, hsplit]
  rfl

theorem pushAll_error {e : Nal.Error} (hpush : g.push unit = .error e) (rest : List Bytes) :
    g.pushAll (unit :: rest) = (.error e :: (g.pushAll rest).1, (g.pushAll rest).2) := by
  rw [Grouper.pushAll, hpush]

theorem pushAll_ok (hpush : g.push unit = .ok (completed, g')) (rest : List Bytes) :
    g.pushAll (unit :: rest) = (.ok completed :: (g'.pushAll rest).1, (g'.pushAll rest).2) := by
  rw [Grouper.pushAll, hpush]

theorem emissions_ok (completed : Option DecodeUnit)
    (later : List (Except Nal.Error (Option DecodeUnit))) :
    emissions (.ok completed :: later) = completed.toList ++ emissions later := by
  cases completed <;> rfl

theorem Collects.pushAll (h : Collects emitted accepted g) (units : List Bytes) :
    Collects (emitted ++ emissions (g.pushAll units).1)
      (accepted ++ units.filterMap Fragment.ofUnit?) (g.pushAll units).2 := by
  induction units generalizing g emitted accepted with
  | nil =>
    change Collects (emitted ++ []) (accepted ++ []) g
    rwa [List.append_nil, List.append_nil]
  | cons unit rest ih =>
    cases hpush : g.push unit with
    | error e =>
      rw [pushAll_error hpush, List.filterMap_cons_none (ofUnit?_of_error (push_eq_error.mp hpush))]
      exact ih h
    | ok result =>
      obtain ⟨completed, g'⟩ := result
      have hrest := ih (h.push hpush)
      have hunits : (unit :: rest).filterMap Fragment.ofUnit? =
          (Fragment.ofUnit? unit).toList ++ rest.filterMap Fragment.ofUnit? := by
        rw [List.filterMap_cons]
        cases Fragment.ofUnit? unit <;> rfl
      rw [List.append_assoc, List.append_assoc, ← hunits, ← emissions_ok] at hrest
      rw [pushAll_ok hpush]
      exact hrest

theorem pushAll_replies (g : Grouper) (units : List Bytes) :
    List.Forall₂ (fun unit reply => ∀ e, reply = .error e ↔ split? unit = .error e) units
      (g.pushAll units).1 := by
  induction units generalizing g with
  | nil => exact .nil
  | cons unit rest ih =>
    cases hpush : g.push unit with
    | error e =>
      rw [pushAll_error hpush]
      refine .cons ?_ (ih g)
      intro e'
      rw [← push_eq_error, hpush, Except.error.injEq, Except.error.injEq]
    | ok result =>
      rw [pushAll_ok hpush]
      refine .cons ?_ (ih result.2)
      intro e
      rw [← push_eq_error, hpush]
      exact iff_of_false nofun nofun

theorem pushAll_filter (g : Grouper) (units : List Bytes) :
    emissions (g.pushAll (units.filter isReadable)).1 = emissions (g.pushAll units).1 ∧
      (g.pushAll (units.filter isReadable)).2 = (g.pushAll units).2 := by
  induction units generalizing g with
  | nil => exact ⟨rfl, rfl⟩
  | cons unit rest ih =>
    cases hpush : g.push unit with
    | error e =>
      have hrefused : ¬ isReadable unit = true := by
        rw [isReadable, push_eq_error.mp hpush]
        exact Bool.false_ne_true
      rw [List.filter_cons_of_neg hrefused, pushAll_error hpush]
      exact ih g
    | ok result =>
      obtain ⟨completed, g'⟩ := result
      have haccepted : isReadable unit = true := by
        obtain ⟨split, hsplit⟩ := Playback.readable_of_push hpush
        rw [isReadable, hsplit]
        rfl
      obtain ⟨hemissions, hend⟩ := ih g'
      rw [List.filter_cons_of_pos haccepted, pushAll_ok hpush, pushAll_ok hpush, emissions_ok,
        emissions_ok, hemissions, hend]
      exact ⟨rfl, rfl⟩

/-- For any units pushed and two times a finish: what is emitted are the accepted units in order,
numbered, and cut before each unit that opens a picture after picture data. -/
theorem grouping_lossless (units : List Bytes) :
    let run := empty.pushAll units
    let readable := units.filter isReadable
    let finished := run.2.flush
    let emitted := emissions run.1 ++ finished.1.toList
    emitted.flatMap (·.fragments) = units.filterMap Fragment.ofUnit? ∧
      emitted.map (·.frameNumber) = (List.range emitted.length).map UInt32.ofNat ∧
      (∀ u ∈ emitted, u.Cut) ∧ (∀ u ∈ emissions run.1, u.hasPicture = true) ∧
      (∀ u ∈ emitted.tail, u.Begins) ∧
      List.Forall₂ (fun unit reply => ∀ e, reply = .error e ↔ split? unit = .error e) units run.1 ∧
      emissions (empty.pushAll readable).1 = emissions run.1 ∧ (empty.pushAll readable).2 = run.2 ∧
      finished.2.flush = (none, finished.2) := by
  intro run readable finished emitted
  have hrun : Collects (emissions run.1) (units.filterMap Fragment.ofUnit?) run.2 :=
    collects_empty.pushAll units
  obtain ⟨hfinished, hempty, -⟩ := hrun.toHolds.flush
  obtain ⟨hemissions, hend⟩ := pushAll_filter empty units
  refine ⟨?_, hfinished.numbers, hfinished.cut, hrun.pictures, hfinished.begun,
    pushAll_replies empty units, hemissions, hend, flush_of_nil hempty⟩
  have hall := hfinished.fragments
  rwa [hempty, List.reverse_nil, List.append_nil] at hall

end Grouper

/-! ## Streams -/

namespace Playback

open Grouper

theorem formed_eq_emissions (g : Grouper) (units : List Bytes) :
    formed g units = emissions (g.pushAll units).1 ++ (g.pushAll units).2.flush.1.toList := by
  induction units generalizing g with
  | nil => exact formed_nil g
  | cons unit rest ih =>
    cases hpush : g.push unit with
    | error e =>
      have hskipped : formed g (unit :: rest) = formed g rest := by
        rw [formed, deliveriesFrom, hpush]
        exact filterMap_deliveriesFrom g 1 rest
      rw [hskipped, pushAll_error hpush]
      exact ih g
    | ok result =>
      obtain ⟨completed, g'⟩ := result
      rw [formed_cons hpush, pushAll_ok hpush, emissions_ok, ih g', List.append_assoc]

theorem pictures_eq (stream : Bytes) :
    let run := Grouper.empty.pushAll (Nal.units stream)
    pictures stream = emissions run.1 ++ run.2.flush.1.toList :=
  formed_eq_emissions .empty (Nal.units stream)

end Playback
end AvcPipeline
