import AvcPipeline.Playback.Basic
import AvcPipeline.Proofs.Session.Serving

/-!
# The first problem of a stream

A strict playback submits pictures until a unit cannot be read or a picture is not accepted. The
units are read ahead by one: a picture is complete when the next unit opens another one, or at the
end. So an unreadable unit comes before the picture that is being collected, and `Breaks` says which
pictures are submitted up to the first problem, in terms of those that are formed from the units
before it.
-/

namespace AvcPipeline

namespace Grouper

variable {g g' : Grouper} {unit : Bytes} {completed : Option DecodeUnit} {e : Nal.Error}

theorem push_eq_error : g.push unit = .error e ↔ Nal.split? unit = .error e := by
  cases hsplit : Nal.split? unit with
  | error e' =>
    have hpush : g.push unit = .error e' := by rw [push, hsplit]; rfl
    rw [hpush, Except.error.injEq, Except.error.injEq]
  | ok split =>
    simp only [push_eq g hsplit, reduceCtorEq]

theorem push_eq_ok (h : g.push unit = .ok (completed, g')) :
    g'.held ≠ [] ∧ ∀ u ∈ completed, g.flush.1 = some u := by
  cases hsplit : Nal.split? unit with
  | error e => exact absurd (h.symm.trans (push_eq_error.mpr hsplit)) nofun
  | ok split =>
    rw [push_eq g hsplit, Except.ok.injEq, Prod.mk.injEq] at h
    obtain ⟨rfl, rfl⟩ := h
    refine ⟨List.cons_ne_nil _ _, ?_⟩
    split
    · exact fun u hu => hu
    · exact nofun

theorem exists_flush (h : g.held ≠ []) : ∃ u, g.flush.1 = some u := by
  rw [flush, if_neg (mt List.isEmpty_iff.mp h)]
  exact ⟨_, rfl⟩

end Grouper

namespace Playback

open Assembler Grouper

variable {f : Fixup} {g g' : Grouper} {index : Nat} {unit : Bytes} {units rest : List Bytes}
  {pictures : List DecodeUnit} {completed : Option DecodeUnit} {failure : Failure}
  {list : List Delivery}

def Readable (unit : Bytes) : Prop := ∃ split, Nal.split? unit = .ok split

def formed (g : Grouper) (units : List Bytes) : List DecodeUnit :=
  (deliveriesFrom g 0 units).filterMap Delivery.picture?

def strictly (f : Fixup) : List Delivery → List DecodeUnit × Option Failure
  | [] => ([], none)
  | .unreadable index e :: _ => ([], some (.unreadable index e))
  | .picture u :: rest =>
    if accepts f u then
      let later := strictly f rest
      (u :: later.1, later.2)
    else ([u], some (.keyframeRequested u.frameNumber))

/-- The first problem in these units, from `index` on, and the pictures submitted up to it. -/
inductive Breaks (f : Fixup) (g : Grouper) (index : Nat) (units : List Bytes) :
    List DecodeUnit → Failure → Prop
  /-- All pictures are submitted that are formed from the units before, but for the last of them,
  which is still being collected. -/
  | unreadable {before after : List Bytes} {unit : Bytes} {e : Nal.Error}
      (hunits : units = before ++ unit :: after) (hreadable : ∀ unit ∈ before, Readable unit)
      (hunreadable : Nal.split? unit = .error e)
      (haccepted : ∀ u ∈ (formed g before).dropLast, accepts f u = true) :
    Breaks f g index units (formed g before).dropLast (.unreadable (index + before.length) e)
  /-- The picture is the last that is formed from the units before, and the next unit, if there is
  one, can be read and opens another picture. -/
  | refused {before after : List Bytes} {pictures : List DecodeUnit} {u : DecodeUnit}
      (hunits : units = before ++ after) (hreadable : ∀ unit ∈ before, Readable unit)
      (hformed : formed g before = pictures ++ [u])
      (hcomplete : ∀ unit ∈ after.head?, Readable unit ∧
        ∃ next, formed g (before ++ [unit]) = pictures ++ [u, next])
      (haccepted : ∀ u ∈ pictures, accepts f u = true) (hrefused : accepts f u = false) :
    Breaks f g index units (pictures ++ [u]) (.keyframeRequested u.frameNumber)

/-! ## Forming pictures -/

theorem filterMap_deliveriesFrom (g : Grouper) (index : Nat) (units : List Bytes) :
    (deliveriesFrom g index units).filterMap Delivery.picture? = formed g units := by
  unfold formed
  generalize 0 = start
  induction units generalizing g index start with
  | nil => rfl
  | cons unit rest ih =>
    rw [deliveriesFrom, deliveriesFrom]
    cases g.push unit with
    | error e => exact ih g (index + 1) (start + 1)
    | ok result =>
      dsimp only
      rw [List.filterMap_append, List.filterMap_append, ih result.2 (index + 1) (start + 1)]

theorem filterMap_picture (pictures : List DecodeUnit) :
    (pictures.map Delivery.picture).filterMap Delivery.picture? = pictures := by
  rw [List.filterMap_map]
  exact List.filterMap_some

theorem formed_nil (g : Grouper) : formed g [] = g.flush.1.toList :=
  filterMap_picture _

theorem formed_cons (h : g.push unit = .ok (completed, g')) (rest : List Bytes) :
    formed g (unit :: rest) = completed.toList ++ formed g' rest := by
  rw [formed, deliveriesFrom, h]
  dsimp only
  rw [List.filterMap_append, filterMap_picture, filterMap_deliveriesFrom]

theorem readable_of_push (h : g.push unit = .ok (completed, g')) : Readable unit := by
  cases hsplit : Nal.split? unit with
  | ok split => exact ⟨split, hsplit⟩
  | error e => exact absurd (h.symm.trans (push_eq_error.mpr hsplit)) nofun

theorem formed_ne_nil (h : g.held ≠ []) (hreadable : ∀ unit ∈ units, Readable unit) :
    formed g units ≠ [] := by
  induction units generalizing g with
  | nil =>
    obtain ⟨u, hflush⟩ := exists_flush h
    rw [formed_nil, hflush]
    exact List.cons_ne_nil _ _
  | cons unit rest ih =>
    obtain ⟨⟨split, hsplit⟩, hrest⟩ := List.forall_mem_cons.mp hreadable
    rw [formed_cons (push_eq g hsplit)]
    exact List.append_ne_nil_of_right_ne_nil _ (ih (List.cons_ne_nil _ _) hrest)

theorem dropLast_formed_nil (g : Grouper) : (formed g []).dropLast = [] := by
  rw [formed_nil]
  cases g.flush.1 <;> rfl

theorem dropLast_formed_cons (hpush : g.push unit = .ok (completed, g'))
    (hreadable : ∀ unit ∈ units, Readable unit) :
    (formed g (unit :: units)).dropLast = completed.toList ++ (formed g' units).dropLast := by
  rw [formed_cons hpush,
    List.dropLast_append_of_ne_nil (formed_ne_nil (push_eq_ok hpush).1 hreadable)]

/-- Units that can be read deliver what is formed from them, but for what is still collected. -/
theorem exists_deliveriesFrom (g : Grouper) (index : Nat) (h : ∀ unit ∈ units, Readable unit)
    (rest : List Bytes) : ∃ g', deliveriesFrom g index (units ++ rest) =
      (formed g units).dropLast.map .picture ++ deliveriesFrom g' (index + units.length) rest := by
  induction units generalizing g index with
  | nil => exact ⟨g, by rw [dropLast_formed_nil]; rfl⟩
  | cons unit units ih =>
    obtain ⟨⟨split, hsplit⟩, hunits⟩ := List.forall_mem_cons.mp h
    have hpush := push_eq g hsplit
    obtain ⟨g', hlater⟩ := ih _ (index + 1) hunits
    have hindex : index + 1 + units.length = index + (unit :: units).length := by
      rw [List.length_cons]
      omega
    rw [hindex] at hlater
    refine ⟨g', ?_⟩
    rw [dropLast_formed_cons hpush hunits, List.map_append, List.append_assoc, ← hlater,
      List.cons_append, deliveriesFrom, hpush]

/-! ## No problem -/

theorem strictly_append (h : ∀ u ∈ pictures, accepts f u = true) (list : List Delivery) :
    strictly f (pictures.map .picture ++ list) =
      (pictures ++ (strictly f list).1, (strictly f list).2) := by
  induction pictures with
  | nil => rfl
  | cons u pictures ih =>
    obtain ⟨hfirst, hrest⟩ := List.forall_mem_cons.mp h
    rw [List.map_cons, List.cons_append, strictly, if_pos hfirst, ih hrest]
    rfl

theorem strictly_pictures (h : ∀ u ∈ pictures, accepts f u = true) :
    strictly f (pictures.map .picture) = (pictures, none) := by
  have happend := strictly_append h []
  rwa [List.append_nil, strictly, List.append_nil] at happend

theorem strictly_refused {u : DecodeUnit} (h : accepts f u = false) (list : List Delivery) :
    strictly f (.picture u :: list) = ([u], some (.keyframeRequested u.frameNumber)) := by
  rw [strictly, if_neg (Bool.eq_false_iff.mp h)]

theorem strictly_prefix (f : Fixup) (list : List Delivery) :
    (strictly f list).1 <+: list.filterMap Delivery.picture? := by
  induction list with
  | nil => exact List.prefix_rfl
  | cons delivery rest ih =>
    cases delivery with
    | unreadable index e => exact List.nil_prefix
    | picture u =>
      cases haccepts : accepts f u with
      | false =>
        rw [strictly_refused haccepts]
        exact List.cons_prefix_cons.mpr ⟨rfl, List.nil_prefix⟩
      | true =>
        rw [strictly, if_pos haccepts]
        exact List.cons_prefix_cons.mpr ⟨rfl, ih⟩

theorem eq_of_strictly (h : strictly f list = (pictures, none)) :
    list = pictures.map .picture ∧ ∀ u ∈ pictures, accepts f u = true := by
  induction list generalizing pictures with
  | nil =>
    cases h
    exact ⟨rfl, List.forall_mem_nil _⟩
  | cons delivery rest ih =>
    cases delivery with
    | unreadable index e => cases h
    | picture u =>
      cases haccepts : accepts f u with
      | false => cases (strictly_refused haccepts rest).symm.trans h
      | true =>
        rw [strictly, if_pos haccepts, Prod.mk.injEq] at h
        obtain ⟨rfl, hnone⟩ := h
        obtain ⟨hrest, haccepted⟩ := ih (Prod.ext rfl hnone)
        exact ⟨congrArg (_ :: ·) hrest, List.forall_mem_cons.mpr ⟨haccepts, haccepted⟩⟩

theorem deliveriesFrom_of_readable (g : Grouper) (index : Nat)
    (h : ∀ unit ∈ units, Readable unit) :
    deliveriesFrom g index units = (formed g units).map .picture := by
  induction units generalizing g index with
  | nil => rw [formed_nil, deliveriesFrom]
  | cons unit rest ih =>
    obtain ⟨⟨split, hsplit⟩, hrest⟩ := List.forall_mem_cons.mp h
    have hpush := push_eq g hsplit
    rw [formed_cons hpush, deliveriesFrom, hpush, List.map_append]
    exact congrArg (_ ++ ·) (ih _ (index + 1) hrest)

theorem readable_of_deliveriesFrom (h : deliveriesFrom g index units = pictures.map .picture) :
    ∀ unit ∈ units, Readable unit := by
  induction units generalizing g index pictures with
  | nil => exact nofun
  | cons unit rest ih =>
    rw [deliveriesFrom] at h
    cases hpush : g.push unit with
    | error e =>
      rw [hpush] at h
      cases pictures <;> cases h
    | ok result =>
      obtain ⟨completed, g'⟩ := result
      rw [hpush] at h
      obtain ⟨_, later, -, -, hlater⟩ := List.append_eq_map_iff.mp h
      exact List.forall_mem_cons.mpr ⟨readable_of_push hpush, ih hlater.symm⟩

/-- A strict playback meets no problem exactly when every unit can be read and every picture is
accepted. -/
theorem strictly_none_iff : (strictly f (deliveriesFrom g index units)).2 = none ↔
    (∀ unit ∈ units, Readable unit) ∧ ∀ u ∈ formed g units, accepts f u = true := by
  constructor
  · intro h
    obtain ⟨hpictures, haccepted⟩ := eq_of_strictly (Prod.ext rfl h)
    have hformed := filterMap_deliveriesFrom g index units
    rw [hpictures, filterMap_picture] at hformed
    exact ⟨readable_of_deliveriesFrom hpictures, hformed ▸ haccepted⟩
  · rintro ⟨hreadable, haccepted⟩
    rw [deliveriesFrom_of_readable g index hreadable, strictly_pictures haccepted]

/-! ## The first problem -/

/-- A unit that was read, and did not complete a picture that is refused, is before the problem. -/
theorem Breaks.cons (hpush : g.push unit = .ok (completed, g'))
    (haccepts : ∀ u ∈ completed.toList, accepts f u = true)
    (h : Breaks f g' (index + 1) rest pictures failure) :
    Breaks f g index (unit :: rest) (completed.toList ++ pictures) failure := by
  have hread (before : List Bytes) (hreadable : ∀ unit ∈ before, Readable unit) :
      ∀ earlier ∈ unit :: before, Readable earlier :=
    List.forall_mem_cons.mpr ⟨readable_of_push hpush, hreadable⟩
  have hcompleted (pictures : List DecodeUnit) (hpictures : ∀ u ∈ pictures, accepts f u = true) :
      ∀ u ∈ completed.toList ++ pictures, accepts f u = true :=
    List.forall_mem_append.mpr ⟨haccepts, hpictures⟩
  cases h with
  | @unreadable before after broken e hunits hreadable hunreadable haccepted =>
    have hformed := dropLast_formed_cons hpush hreadable
    have hindex : index + 1 + before.length = index + (unit :: before).length := by
      rw [List.length_cons]
      omega
    rw [← hformed, hindex]
    exact .unreadable (congrArg (unit :: ·) hunits) (hread before hreadable) hunreadable
      (hformed ▸ hcompleted _ haccepted)
  | @refused before after earlier u hunits hreadable hformed hcomplete haccepted hrefused =>
    rw [← List.append_assoc]
    refine .refused (congrArg (unit :: ·) hunits) (hread before hreadable) ?_ ?_
      (hcompleted earlier haccepted) hrefused
    · rw [formed_cons hpush, hformed, List.append_assoc]
    · intro last hlast
      obtain ⟨hlast, next, hnext⟩ := hcomplete last hlast
      refine ⟨hlast, next, ?_⟩
      rw [List.cons_append, formed_cons hpush, hnext, List.append_assoc]

theorem breaks_unreadable {e : Nal.Error} (hsplit : Nal.split? unit = .error e)
    (rest : List Bytes) : Breaks f g index (unit :: rest) [] (.unreadable index e) := by
  have hnone := dropLast_formed_nil g
  rw [← hnone]
  exact .unreadable (List.nil_append _).symm (List.forall_mem_nil _) hsplit
    (hnone ▸ List.forall_mem_nil _)

theorem breaks_completed {u : DecodeUnit} (hpush : g.push unit = .ok (some u, g'))
    (hrefused : accepts f u = false) (rest : List Bytes) :
    Breaks f g index (unit :: rest) [u] (.keyframeRequested u.frameNumber) := by
  obtain ⟨hheld, hcompleted⟩ := push_eq_ok hpush
  obtain ⟨next, hnext⟩ := exists_flush hheld
  change Breaks f g index ([] ++ unit :: rest) ([] ++ [u]) _
  refine .refused rfl (List.forall_mem_nil _) ?_ ?_ (List.forall_mem_nil _) hrefused
  · rw [formed_nil, hcompleted u rfl]
    rfl
  · rintro _ ⟨⟩
    refine ⟨readable_of_push hpush, next, ?_⟩
    rw [List.nil_append, formed_cons hpush, formed_nil, hnext]
    rfl

theorem breaks_flushed {u : DecodeUnit} (hflush : g.flush.1 = some u)
    (hrefused : accepts f u = false) :
    Breaks f g index [] [u] (.keyframeRequested u.frameNumber) := by
  change Breaks f g index ([] ++ []) ([] ++ [u]) _
  refine .refused rfl (List.forall_mem_nil _) ?_ nofun (List.forall_mem_nil _) hrefused
  rw [formed_nil, hflush]
  rfl

theorem breaks_of_strictly
    (h : strictly f (deliveriesFrom g index units) = (pictures, some failure)) :
    Breaks f g index units pictures failure := by
  induction units generalizing g index pictures with
  | nil =>
    rw [deliveriesFrom] at h
    cases hflush : g.flush.1 with
    | none =>
      rw [hflush] at h
      cases h
    | some u =>
      rw [hflush] at h
      cases haccepts : accepts f u with
      | true =>
        cases (strictly_pictures (List.forall_mem_singleton.mpr haccepts)).symm.trans h
      | false =>
        cases (strictly_refused haccepts []).symm.trans h
        exact breaks_flushed hflush haccepts
  | cons unit rest ih =>
    rw [deliveriesFrom] at h
    cases hpush : g.push unit with
    | error e =>
      rw [hpush] at h
      cases h
      exact breaks_unreadable (push_eq_error.mp hpush) rest
    | ok result =>
      obtain ⟨completed, g'⟩ := result
      rw [hpush] at h
      -- What this unit completes is submitted first: the problem is there, or later.
      by_cases haccepts : ∀ u ∈ completed.toList, accepts f u = true
      · dsimp only at h
        rw [strictly_append haccepts, Prod.mk.injEq] at h
        obtain ⟨rfl, hfailure⟩ := h
        exact .cons hpush haccepts (ih (Prod.ext rfl hfailure))
      · cases completed with
        | none => exact absurd (List.forall_mem_nil _) haccepts
        | some u =>
          have hrefused : accepts f u = false :=
            Bool.eq_false_iff.mpr fun h => haccepts (List.forall_mem_singleton.mpr h)
          cases (strictly_refused hrefused _).symm.trans h
          exact breaks_completed hpush hrefused rest

theorem strictly_of_breaks (h : Breaks f g index units pictures failure) :
    strictly f (deliveriesFrom g index units) = (pictures, some failure) := by
  cases h with
  | @unreadable before after unit e hunits hreadable hunreadable haccepted =>
    obtain ⟨g', hbefore⟩ := exists_deliveriesFrom g index hreadable (unit :: after)
    rw [hunits, hbefore, strictly_append haccepted, deliveriesFrom, push_eq_error.mpr hunreadable]
    exact Prod.ext (List.append_nil _) rfl
  | @refused before after earlier u hunits hreadable hformed hcomplete haccepted hrefused =>
    have hdelivered : ∃ more, deliveriesFrom g index units =
        earlier.map .picture ++ .picture u :: more := by
      cases after with
      | nil =>
        refine ⟨[], ?_⟩
        rw [hunits, List.append_nil, deliveriesFrom_of_readable g index hreadable, hformed,
          List.map_append]
        rfl
      | cons opening after =>
        obtain ⟨hopening, next, hnext⟩ := hcomplete opening rfl
        have hread : ∀ unit ∈ before ++ [opening], Readable unit :=
          List.forall_mem_append.mpr ⟨hreadable, List.forall_mem_singleton.mpr hopening⟩
        obtain ⟨g', hbefore⟩ := exists_deliveriesFrom g index hread after
        have hlast : (earlier ++ [u, next]).dropLast = earlier ++ [u] := by
          rw [List.dropLast_append_of_ne_nil (List.cons_ne_nil _ _)]
          rfl
        rw [← List.append_cons, ← hunits, hnext, hlast, List.map_append, List.append_assoc]
          at hbefore
        exact ⟨_, hbefore⟩
    obtain ⟨more, hdelivered⟩ := hdelivered
    rw [hdelivered, strictly_append haccepted, strictly_refused hrefused]

theorem strictly_eq_some_iff :
    strictly f (deliveriesFrom g index units) = (pictures, some failure) ↔
      Breaks f g index units pictures failure :=
  ⟨breaks_of_strictly, strictly_of_breaks⟩

end Playback
end AvcPipeline
