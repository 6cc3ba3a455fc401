import AvcPipeline.Proofs.Playback.Cutting
import Mathlib.Data.List.SplitBy

/-!
# Coded pictures and the units they are cut into

A coded picture is a row of leading units, such as parameter sets, and its slices, each of them
whole or in partitions. The first bit of picture data tells whether its first element is zero. In a
slice that element is the number of a macroblock, so a slice opens a picture where it should. In a
partition of type 3 or 4 it is the number of the slice, so a partition of slice zero is taken for
the beginning of a picture: there, and nowhere else, a picture is cut in two.
-/

namespace AvcPipeline

open Bits Nal

namespace Nal

variable {unit payload : Bytes} {header : Header}

/-- The element that the payload of a unit begins with: the number of the first macroblock in slices
and in partitions of type 2, the number of the slice in partitions of type 3 and 4. -/
def firstElement? (unit : Bytes) : Option UInt32 :=
  (split? unit).toOption.bind fun split =>
    match readUe (.ofBytes (unescape split.2)) with
    | .ok value _ => some value
    | .error _ _ => none

theorem firstElement?_eq_some {value : UInt32} (hsplit : split? unit = .ok (header, payload)) :
    firstElement? unit = some value ↔ ∃ r, Reads readUe (.ofBytes (unescape payload)) value r := by
  simp only [firstElement?, hsplit, Except.toOption, Option.bind_some, Reads]
  cases readUe (.ofBytes (unescape payload)) <;> simp

theorem head?_unescape (payload : Bytes) : (unescape payload).head? = payload.head? := by
  cases payload with
  | nil => rfl
  | cons byte rest =>
    have hkept : ¬ (2 ≤ (0 : Int32) ∧ byte = guardByte) := nofun
    rw [unescape, unescapeFrom, if_neg hkept, unescapeFrom_eq]
    rfl

theorem head?_unpack_eq_true (data : Bytes) :
    (unpack data).head? = some true ↔ ∃ byte ∈ data.head?, 0x80 ≤ byte := by
  cases data with
  | nil => exact iff_of_false nofun nofun
  | cons byte rest =>
    have hbyte := byte.toNat_lt
    have hhead : (unpack (byte :: rest)).head? = some (byte.toNat.testBit 7) := rfl
    rw [hhead, Option.some.injEq, Nat.testBit_eq_decide_div_mod_eq, decide_eq_true_eq]
    simp only [List.head?_cons, Option.mem_some_iff, exists_eq_left', UInt8.le_iff_toNat_le]
    change byte.toNat / 128 % 2 = 1 ↔ 128 ≤ byte.toNat
    omega

theorem exists_reads_zero_iff (data : Bytes) :
    (∃ r, Reads readUe (.ofBytes data) 0 r) ↔ ∃ byte ∈ data.head?, 0x80 ≤ byte := by
  rw [← head?_unpack_eq_true]
  have hword : ueWord 0 = [true] := by decide
  simp only [reads_readUe, hword, Consumes]
  constructor
  · rintro ⟨r, -, hahead, -⟩
    have hahead : unpack data = [true] ++ r.ahead := hahead
    rw [hahead]
    rfl
  · intro hhead
    obtain ⟨rest, hrest⟩ := List.head?_eq_some_iff.mp hhead
    exact ⟨⟨rest, 1⟩, by decide, hrest, rfl⟩

/-- Picture data opens a picture if its first element is zero, whatever it stands for. -/
theorem opens_iff_type : Opens unit ↔ ∃ unitType ∈ unitType? unit,
    (6 ≤ unitType ∧ unitType ≤ 9) ∨ (14 ≤ unitType ∧ unitType ≤ 18) ∨
      (1 ≤ unitType ∧ unitType ≤ 5) ∧ firstElement? unit = some 0 := by
  cases hsplit : split? unit with
  | error e =>
    refine iff_of_false ?_ ?_
    · rintro ⟨header, payload, hsplit', -⟩
      cases hsplit.symm.trans hsplit'
    · rintro ⟨unitType, htype, -⟩
      rw [unitType?, hsplit] at htype
      cases htype
  | ok split =>
    obtain ⟨header, payload⟩ := split
    rw [opens_iff hsplit, opensAccessUnit_iff, firstElement?_eq_some hsplit, exists_reads_zero_iff,
      head?_unescape, unitType?_of_split hsplit]
    simp only [Option.mem_some_iff, exists_eq_left']

theorem isPictureUnit_iff :
    isPictureUnit unit = true ↔ ∃ unitType ∈ unitType? unit, 1 ≤ unitType ∧ unitType ≤ 5 := by
  unfold isPictureUnit unitType?
  cases split? unit <;> simp [Except.toOption, Header.isPicture]

theorem exists_split (h : isPictureUnit unit = true ∨ Opens unit) :
    ∃ header payload, split? unit = .ok (header, payload) := by
  rcases h with hpicture | ⟨header, payload, hsplit, -⟩
  · unfold isPictureUnit at hpicture
    split at hpicture
    · exact ⟨_, _, ‹_›⟩
    · cases hpicture
  · exact ⟨header, payload, hsplit⟩

instance (unit : Bytes) : Decidable (Opens unit) :=
  decidable_of_iff _ opens_iff_type.symm

def staysWith (unit next : Bytes) : Bool :=
  !(isPictureUnit unit && decide (Opens next))

theorem staysWith_eq_false {unit next : Bytes} :
    staysWith unit next = false ↔ isPictureUnit unit = true ∧ Opens next := by
  simp [staysWith]

end Nal

/-! ## Cutting between neighbours -/

def DecodeUnit.contents (u : DecodeUnit) : List Bytes :=
  u.fragments.map (·.data)

namespace Grouper

variable {g g' : Grouper} {unit payload : Bytes} {header : Header}

def heldUnits (g : Grouper) : List Bytes :=
  g.held.reverse.map (·.data)

theorem heldUnits_hold (g : Grouper) (header : Header) (unit : Bytes) :
    (g.hold header unit).heldUnits = g.heldUnits ++ [unit] := by
  simp [heldUnits, hold]

/-- What is held stays in one decode unit, and the last of it tells whether there is picture
data. -/
structure Joined (g : Grouper) : Prop where
  chain : g.heldUnits.IsChain fun unit next => staysWith unit next = true
  hasPicture : g.hasPicture = g.heldUnits.getLast?.any isPictureUnit

theorem joined_empty : empty.Joined := ⟨.nil, rfl⟩

theorem Joined.ends_iff (h : g.Joined) (hsplit : split? unit = .ok (header, payload)) :
    (g.hasPicture && header.opensAccessUnit payload) = true ↔
      ∃ last ∈ g.heldUnits.getLast?, staysWith last unit = false := by
  rw [Bool.and_eq_true, h.hasPicture, Option.any_eq_true, ← opens_iff hsplit]
  simp only [staysWith_eq_false]
  constructor
  · rintro ⟨⟨last, hlast, hpicture⟩, hopens⟩
    exact ⟨last, hlast, hpicture, hopens⟩
  · rintro ⟨last, hlast, hpicture, hopens⟩
    exact ⟨⟨last, hlast, hpicture⟩, hopens⟩

theorem Joined.flush (h : g.Joined) :
    g.flush.1.toList.map DecodeUnit.contents = g.heldUnits.splitBy staysWith ∧
      g.flush.2.heldUnits = [] ∧ g.flush.2.Joined := by
  by_cases hempty : g.held = []
  · rw [flush_of_nil hempty]
    have hheld : g.heldUnits = [] := by rw [heldUnits, hempty]; rfl
    rw [hheld]
    exact ⟨rfl, rfl, h⟩
  · have hheld : g.heldUnits ≠ [] := by simpa [heldUnits] using hempty
    rw [flush_of_ne_nil hempty, List.splitBy_of_isChain hheld h.chain]
    exact ⟨rfl, rfl, .nil, rfl⟩

theorem Joined.hold (h : g.Joined) (hsplit : split? unit = .ok (header, payload))
    (hunit : isPictureUnit unit = true ∨ Opens unit)
    (hstays : ∀ last ∈ g.heldUnits.getLast?, staysWith last unit = true) :
    (g.hold header unit).Joined := by
  have hpicture := isPictureUnit_of_split hsplit
  refine ⟨?_, ?_⟩
  · rw [heldUnits_hold]
    refine h.chain.append (.singleton unit) ?_
    rintro last hlast next ⟨⟩
    exact hstays last hlast
  · rw [heldUnits_hold, List.getLast?_concat, Option.any_some, hpicture]
    change (g.hasPicture || header.isPicture) = header.isPicture
    cases hkind : header.isPicture with
    | true => exact Bool.or_true _
    | false =>
      -- the unit opens a picture, so it would not stay with picture data
      rw [hpicture, hkind] at hunit
      have hopens := hunit.resolve_left Bool.false_ne_true
      rw [Bool.or_false, h.hasPicture, Bool.eq_false_iff, Ne, Option.any_eq_true]
      rintro ⟨last, hlast, hbefore⟩
      have hends : staysWith last unit = false := staysWith_eq_false.mpr ⟨hbefore, hopens⟩
      exact Bool.false_ne_true (hends.symm.trans (hstays last hlast))

/-- A unit that is picture data or opens a picture stays with the last one held, or ends what is
held. -/
theorem Joined.push (h : g.Joined) (hunit : isPictureUnit unit = true ∨ Opens unit)
    (rest : List Bytes) : ∃ completed g', g.push unit = .ok (completed, g') ∧ g'.Joined ∧
      (g.heldUnits ++ unit :: rest).splitBy staysWith =
        completed.toList.map DecodeUnit.contents ++ (g'.heldUnits ++ rest).splitBy staysWith := by
  obtain ⟨header, payload, hsplit⟩ := exists_split hunit
  refine ⟨_, _, push_eq g hsplit, ?_⟩
  by_cases hends : (g.hasPicture && header.opensAccessUnit payload) = true
  · obtain ⟨last, hlast, hapart⟩ := (h.ends_iff hsplit).mp hends
    obtain ⟨hcompleted, hempty, hjoined⟩ := h.flush
    rw [if_pos hends]
    refine ⟨hjoined.hold hsplit hunit ?_, ?_⟩
    · rw [hempty]
      exact nofun
    · rw [heldUnits_hold, hempty, hcompleted]
      refine List.splitBy_append_cons rest ?_
      intro last' hlast'
      rwa [Option.mem_unique hlast' hlast]
  · rw [if_neg hends]
    refine ⟨h.hold hsplit hunit ?_, ?_⟩
    · intro last hlast
      by_contra hapart
      exact hends ((h.ends_iff hsplit).mpr ⟨last, hlast, Bool.eq_false_iff.mpr hapart⟩)
    · rw [heldUnits_hold, List.append_assoc]
      rfl

/-- Where every unit is picture data or opens a picture, two neighbours alone tell whether a decode
unit ends between them. -/
theorem Joined.pushAll (h : g.Joined) {units : List Bytes}
    (hunits : ∀ unit ∈ units, isPictureUnit unit = true ∨ Opens unit) :
    (emissions (g.pushAll units).1 ++ (g.pushAll units).2.flush.1.toList).map
      DecodeUnit.contents = (g.heldUnits ++ units).splitBy staysWith := by
  induction units generalizing g with
  | nil =>
    rw [List.append_nil]
    exact h.flush.1
  | cons unit rest ih =>
    obtain ⟨hunit, hrest⟩ := List.forall_mem_cons.mp hunits
    obtain ⟨completed, g', hpush, hjoined, hcut⟩ := h.push hunit rest
    rw [hcut, ← ih hjoined hrest, pushAll_ok hpush, emissions_ok, List.append_assoc,
      List.map_append]

end Grouper

/-! ## Pictures -/

/-- A slice in a unit of type 1 or 5, or in a partition of type 2 and those of types 3 and 4 that it
has. -/
structure CodedSlice where
  first : Bytes
  partitions : List Bytes
  types : (unitType? first = some 1 ∨ unitType? first = some 5) ∧ partitions = [] ∨
    unitType? first = some 2 ∧ (partitions.map unitType?).Sublist [some 3, some 4]

/-- Leading units of types 6 to 9 and 14 to 18, and slices. The first macroblock is in the first
slice and in no other. -/
structure CodedPicture where
  leading : List Bytes
  firstSlice : CodedSlice
  laterSlices : List CodedSlice
  leads : ∀ unit ∈ leading, ∃ unitType ∈ unitType? unit,
    (6 ≤ unitType ∧ unitType ≤ 9) ∨ (14 ≤ unitType ∧ unitType ≤ 18)
  begins : firstElement? firstSlice.first = some 0
  continues : ∀ slice ∈ laterSlices, firstElement? slice.first ≠ some 0

def Nal.restarts (unit : Bytes) : Bool :=
  (unitType? unit = some 3 || unitType? unit = some 4) && firstElement? unit = some 0

namespace Nal

variable {unit next : Bytes}

theorem restarts_iff :
    restarts unit = true ↔
      (unitType? unit = some 3 ∨ unitType? unit = some 4) ∧ firstElement? unit = some 0 := by
  simp [restarts]

theorem isPictureUnit_of_restarts (h : restarts unit = true) : isPictureUnit unit = true := by
  rcases (restarts_iff.mp h).1 with htype | htype <;>
    exact isPictureUnit_iff.mpr ⟨_, htype, by decide⟩

theorem opens_of_isPictureUnit (h : isPictureUnit unit = true) :
    Opens unit ↔ firstElement? unit = some 0 := by
  obtain ⟨unitType, htype, hlow, hhigh⟩ := isPictureUnit_iff.mp h
  rw [opens_iff_type]
  constructor
  · rintro ⟨unitType', htype', hopens⟩
    rw [Option.mem_unique htype' htype] at hopens
    rcases hopens with ⟨hother, -⟩ | ⟨hother, -⟩ | ⟨-, hzero⟩
    · exact absurd (UInt8.le_trans hother hhigh) (by decide)
    · exact absurd (UInt8.le_trans hother hhigh) (by decide)
    · exact hzero
  · exact fun hzero => ⟨unitType, htype, .inr (.inr ⟨⟨hlow, hhigh⟩, hzero⟩)⟩

theorem staysWith_of_isPictureUnit (h : isPictureUnit unit = true)
    (hnext : Opens next ↔ restarts next = true) : staysWith unit next = !restarts next := by
  simp only [staysWith, h, hnext, Bool.true_and, Bool.decide_eq_true]

theorem staysWith_of_not_isPictureUnit (h : isPictureUnit unit = false)
    (hnext : restarts next = false) : staysWith unit next = !restarts next := by
  rw [staysWith, h, hnext]
  rfl

end Nal

namespace CodedSlice

variable {slice : CodedSlice} {unit : Bytes}

def units (slice : CodedSlice) : List Bytes :=
  slice.first :: slice.partitions

theorem unitType?_first (slice : CodedSlice) :
    ∃ unitType, unitType? slice.first = some unitType ∧
      (unitType = 1 ∨ unitType = 2 ∨ unitType = 5) := by
  rcases slice.types with ⟨hwhole | hwhole, -⟩ | ⟨hpartition, -⟩
  · exact ⟨1, hwhole, .inl rfl⟩
  · exact ⟨5, hwhole, .inr (.inr rfl)⟩
  · exact ⟨2, hpartition, .inr (.inl rfl)⟩

theorem unitType?_partition (h : unit ∈ slice.partitions) :
    unitType? unit = some 3 ∨ unitType? unit = some 4 := by
  rcases slice.types with ⟨-, hnone⟩ | ⟨-, htypes⟩
  · rw [hnone] at h
    cases h
  · have hmem := htypes.subset (List.mem_map_of_mem h)
    simpa using hmem

theorem isPictureUnit_first (slice : CodedSlice) : isPictureUnit slice.first = true := by
  obtain ⟨unitType, htype, rfl | rfl | rfl⟩ := slice.unitType?_first <;>
    exact isPictureUnit_iff.mpr ⟨_, htype, by decide⟩

theorem restarts_first (slice : CodedSlice) : restarts slice.first = false := by
  obtain ⟨unitType, htype, hslice⟩ := slice.unitType?_first
  rw [Bool.eq_false_iff, Ne, restarts_iff, htype]
  rcases hslice with rfl | rfl | rfl <;> simp

theorem isPictureUnit_partition (h : unit ∈ slice.partitions) : isPictureUnit unit = true := by
  rcases unitType?_partition h with htype | htype <;>
    exact isPictureUnit_iff.mpr ⟨_, htype, by decide⟩

theorem restarts_partition (h : unit ∈ slice.partitions) :
    restarts unit = true ↔ firstElement? unit = some 0 := by
  rw [restarts_iff, and_iff_right (unitType?_partition h)]

end CodedSlice

namespace CodedPicture

variable {p : CodedPicture} {unit : Bytes}

def slices (p : CodedPicture) : List CodedSlice :=
  p.firstSlice :: p.laterSlices

def units (p : CodedPicture) : List Bytes :=
  p.leading ++ p.slices.flatMap CodedSlice.units

def partitions (p : CodedPicture) : List Bytes :=
  p.slices.flatMap CodedSlice.partitions

/-- The units of the picture, cut before each partition that belongs to slice zero. -/
def parts (p : CodedPicture) : List (List Bytes) :=
  p.units.splitBy fun _ next => !restarts next

def rest (p : CodedPicture) : List Bytes :=
  p.firstSlice.partitions ++ p.laterSlices.flatMap CodedSlice.units

theorem units_eq (p : CodedPicture) : p.units = p.leading ++ p.firstSlice.first :: p.rest := rfl

theorem units_ne_nil (p : CodedPicture) : p.units ≠ [] :=
  List.append_ne_nil_of_right_ne_nil _ (List.cons_ne_nil _ _)

/-! ### The units of a picture -/

theorem opens_leading (h : unit ∈ p.leading) : Opens unit := by
  obtain ⟨unitType, htype, hleads⟩ := p.leads unit h
  exact opens_iff_type.mpr ⟨unitType, htype, or_assoc.mp (.inl hleads)⟩

theorem isPictureUnit_leading (h : unit ∈ p.leading) : isPictureUnit unit = false := by
  obtain ⟨unitType, htype, hleads⟩ := p.leads unit h
  rw [Bool.eq_false_iff, Ne, isPictureUnit_iff]
  rintro ⟨unitType', htype', -, hhigh⟩
  rw [Option.mem_unique htype' htype] at hhigh
  rcases hleads with ⟨hlow, -⟩ | ⟨hlow, -⟩ <;>
    exact absurd (UInt8.le_trans hlow hhigh) (by decide)

theorem restarts_leading (h : unit ∈ p.leading) : restarts unit = false := by
  rw [Bool.eq_false_iff]
  intro hrestarts
  have hpicture := isPictureUnit_of_restarts hrestarts
  rw [isPictureUnit_leading h] at hpicture
  cases hpicture

theorem opens_first (p : CodedPicture) : Opens p.firstSlice.first :=
  (opens_of_isPictureUnit p.firstSlice.isPictureUnit_first).mpr p.begins

theorem mem_rest : unit ∈ p.rest ↔
    unit ∈ p.partitions ∨ ∃ slice ∈ p.laterSlices, unit = slice.first := by
  simp only [rest, partitions, slices, List.mem_append, List.flatMap_cons, List.mem_flatMap,
    CodedSlice.units, List.mem_cons]
  constructor
  · rintro (hfirst | ⟨slice, hslice, hunit | hunit⟩)
    · exact .inl (.inl hfirst)
    · exact .inr ⟨slice, hslice, hunit⟩
    · exact .inl (.inr ⟨slice, hslice, hunit⟩)
  · rintro ((hfirst | ⟨slice, hslice, hunit⟩) | ⟨slice, hslice, hunit⟩)
    · exact .inl hfirst
    · exact .inr ⟨slice, hslice, .inr hunit⟩
    · exact .inr ⟨slice, hslice, .inl hunit⟩

theorem isPictureUnit_rest (h : unit ∈ p.rest) : isPictureUnit unit = true := by
  rcases mem_rest.mp h with hpartition | ⟨slice, -, rfl⟩
  · obtain ⟨slice, -, hunit⟩ := List.mem_flatMap.mp hpartition
    exact CodedSlice.isPictureUnit_partition hunit
  · exact slice.isPictureUnit_first

theorem opens_rest (h : unit ∈ p.rest) : Opens unit ↔ restarts unit = true := by
  rw [opens_of_isPictureUnit (isPictureUnit_rest h)]
  rcases mem_rest.mp h with hpartition | ⟨slice, hslice, rfl⟩
  · obtain ⟨slice, -, hunit⟩ := List.mem_flatMap.mp hpartition
    exact (CodedSlice.restarts_partition hunit).symm
  · rw [slice.restarts_first]
    exact iff_of_false (p.continues slice hslice) Bool.false_ne_true

/-! ### Where a picture is cut -/

theorem isChain_units (p : CodedPicture) :
    p.units.IsChain fun unit next => staysWith unit next = !restarts next := by
  rw [units_eq, List.isChain_append]
  refine ⟨?_, ?_, ?_⟩
  · refine (List.pairwise_of_forall_mem_list ?_).isChain
    intro unit hunit next hnext
    exact staysWith_of_not_isPictureUnit (isPictureUnit_leading hunit) (restarts_leading hnext)
  · refine (List.pairwise_cons.mpr ⟨?_, List.pairwise_of_forall_mem_list ?_⟩).isChain
    · intro next hnext
      exact staysWith_of_isPictureUnit p.firstSlice.isPictureUnit_first (opens_rest hnext)
    · intro unit hunit next hnext
      exact staysWith_of_isPictureUnit (isPictureUnit_rest hunit) (opens_rest hnext)
  · rintro unit hunit next ⟨⟩
    exact staysWith_of_not_isPictureUnit (isPictureUnit_leading (List.mem_of_getLast? hunit))
      p.firstSlice.restarts_first

theorem splitBy_loop_congr {α : Type} {r r' : α → α → Bool} {a : α} {l held : List α}
    {done : List (List α)} (h : (a :: l).IsChain fun a b => r a b = r' a b) :
    List.splitBy.loop r l a held done = List.splitBy.loop r' l a held done := by
  induction l generalizing a held done with
  | nil => rfl
  | cons b l ih =>
    obtain ⟨hfirst, hrest⟩ := List.isChain_cons_cons.mp h
    simp only [List.splitBy.loop, hfirst]
    split <;> exact ih hrest

theorem parts_eq (p : CodedPicture) : p.units.splitBy staysWith = p.parts := by
  have hchain := p.isChain_units
  unfold parts
  cases hunits : p.units with
  | nil => rfl
  | cons unit rest =>
    rw [hunits] at hchain
    exact splitBy_loop_congr hchain

theorem opens_head (p : CodedPicture) : ∀ unit ∈ p.units.head?, Opens unit := by
  rw [units_eq]
  cases hleading : p.leading with
  | nil =>
    rintro unit ⟨⟩
    exact p.opens_first
  | cons lead rest =>
    rintro unit ⟨⟩
    exact opens_leading (hleading ▸ List.mem_cons_self)

theorem isPictureUnit_last (p : CodedPicture) :
    ∀ unit ∈ p.units.getLast?, isPictureUnit unit = true := by
  intro unit hunit
  rw [units_eq, List.getLast?_append_of_ne_nil _ (List.cons_ne_nil _ _)] at hunit
  rcases List.mem_cons.mp (List.mem_of_getLast? hunit) with rfl | hrest
  · exact p.firstSlice.isPictureUnit_first
  · exact isPictureUnit_rest hrest

theorem opens_or_isPictureUnit (h : unit ∈ p.units) : isPictureUnit unit = true ∨ Opens unit := by
  rcases List.mem_append.mp h with hleading | hdata
  · exact .inr (opens_leading hleading)
  · rcases List.mem_cons.mp hdata with rfl | hrest
    · exact .inl p.firstSlice.isPictureUnit_first
    · exact .inl (isPictureUnit_rest hrest)

/-- Pictures are cut between each other, and each of them on its own. -/
theorem splitBy_flatMap_units (pictures : List CodedPicture) :
    (pictures.flatMap units).splitBy staysWith = pictures.flatMap parts := by
  induction pictures with
  | nil => rfl
  | cons p pictures ih =>
    rw [List.flatMap_cons, List.flatMap_cons, ← parts_eq, ← ih]
    refine List.splitBy_append ?_
    intro last hlast next hnext
    refine staysWith_eq_false.mpr ⟨p.isPictureUnit_last last hlast, ?_⟩
    cases pictures with
    | nil => cases hnext
    | cons q pictures =>
      rw [List.flatMap_cons, List.head?_append_of_ne_nil _ q.units_ne_nil] at hnext
      exact q.opens_head next hnext

/-! ### Pictures that are not cut -/

theorem isChain_cons_iff_forall {α : Type} {q : α → Prop} {a : α} {l : List α} :
    (a :: l).IsChain (fun _ b => q b) ↔ ∀ b ∈ l, q b := by
  induction l generalizing a with
  | nil => exact iff_of_true (.singleton a) nofun
  | cons b l ih => rw [List.isChain_cons_cons, List.forall_mem_cons, ih]

theorem restarts_iff_of_mem (h : unit ∈ p.units) :
    restarts unit = true ↔ unit ∈ p.partitions ∧ firstElement? unit = some 0 := by
  constructor
  · intro hrestarts
    refine ⟨?_, (restarts_iff.mp hrestarts).2⟩
    rcases List.mem_append.mp h with hleading | hdata
    · exact absurd ((restarts_leading hleading).symm.trans hrestarts) Bool.false_ne_true
    · rcases List.mem_cons.mp hdata with rfl | hrest
      · exact absurd (p.firstSlice.restarts_first.symm.trans hrestarts) Bool.false_ne_true
      · rcases mem_rest.mp hrest with hpartition | ⟨slice, -, rfl⟩
        · exact hpartition
        · exact absurd (slice.restarts_first.symm.trans hrestarts) Bool.false_ne_true
  · rintro ⟨hpartition, hzero⟩
    obtain ⟨slice, -, hunit⟩ := List.mem_flatMap.mp hpartition
    exact (CodedSlice.restarts_partition hunit).mpr hzero

theorem parts_eq_singleton_iff (p : CodedPicture) :
    p.parts = [p.units] ↔ ∀ unit ∈ p.partitions, firstElement? unit ≠ some 0 := by
  constructor
  · intro hwhole unit hunit hzero
    have hmem : p.units ∈ p.parts := hwhole ▸ List.mem_singleton_self _
    have hchain := (List.isChain_of_mem_splitBy hmem).right_of_append
    have hrest : unit ∈ p.rest := mem_rest.mpr (.inl hunit)
    have hstays := isChain_cons_iff_forall.mp hchain unit hrest
    have hunits : unit ∈ p.units := List.mem_append_right _ (List.mem_cons_of_mem _ hrest)
    rw [(restarts_iff_of_mem hunits).mpr ⟨hunit, hzero⟩] at hstays
    cases hstays
  · intro hnone
    refine List.splitBy_of_isChain p.units_ne_nil (List.pairwise_of_forall_mem_list ?_).isChain
    intro _ _ next hnext
    rw [Bool.not_eq_true', Bool.eq_false_iff]
    intro hrestarts
    obtain ⟨hpartition, hzero⟩ := (restarts_iff_of_mem hnext).mp hrestarts
    exact hnone next hpartition hzero

theorem flatMap_parts_eq_iff (pictures : List CodedPicture) :
    pictures.flatMap parts = pictures.map units ↔ ∀ p ∈ pictures, p.parts = [p.units] := by
  induction pictures with
  | nil => exact iff_of_true rfl nofun
  | cons p pictures ih =>
    rw [List.flatMap_cons, List.map_cons, List.forall_mem_cons, ← ih]
    constructor
    · intro h
      have hflatten : p.parts.flatten = p.units := List.flatten_splitBy _ _
      cases hparts : p.parts with
      | nil => exact absurd (hparts ▸ hflatten).symm p.units_ne_nil
      | cons first others =>
        rw [hparts, List.cons_append, List.cons.injEq] at h
        obtain ⟨rfl, hrest⟩ := h
        -- the first part is everything, and no part is empty
        rw [hparts, List.flatten_cons, List.append_right_eq_self] at hflatten
        have hothers : others = [] := by
          refine List.eq_nil_iff_forall_not_mem.mpr fun part hpart => ?_
          have hmem : part ∈ p.parts := hparts ▸ List.mem_cons_of_mem _ hpart
          exact List.ne_nil_of_mem_splitBy hmem (List.flatten_eq_nil_iff.mp hflatten part hpart)
        rw [hothers] at hrest ⊢
        exact ⟨rfl, hrest⟩
    · rintro ⟨hwhole, hrest⟩
      rw [hwhole, hrest]
      rfl

end CodedPicture

/-- Pictures pushed one after the other come out as they are, each in one decode unit, but for the
partitions that belong to slice zero: a decode unit ends before each of them. -/
theorem Grouper.cut_pictures (pictures : List CodedPicture) :
    let run := empty.pushAll (pictures.flatMap CodedPicture.units)
    let emitted := (emissions run.1 ++ run.2.flush.1.toList).map DecodeUnit.contents
    emitted = pictures.flatMap CodedPicture.parts ∧
      (emitted = pictures.map CodedPicture.units ↔
        ∀ p ∈ pictures, ∀ unit ∈ p.partitions, firstElement? unit ≠ some 0) := by
  intro run emitted
  have hunits : ∀ unit ∈ pictures.flatMap CodedPicture.units,
      isPictureUnit unit = true ∨ Opens unit := by
    intro unit hunit
    obtain ⟨p, -, hmem⟩ := List.mem_flatMap.mp hunit
    exact CodedPicture.opens_or_isPictureUnit hmem
  have hemitted : emitted = pictures.flatMap CodedPicture.parts :=
    (joined_empty.pushAll hunits).trans (CodedPicture.splitBy_flatMap_units pictures)
  refine ⟨hemitted, ?_⟩
  rw [hemitted, CodedPicture.flatMap_parts_eq_iff]
  simp only [CodedPicture.parts_eq_singleton_iff]

/-- A picture of one slice, which is the slice zero, in partitions of types 2 and 3. -/
def partitionedPicture : CodedPicture where
  leading := []
  firstSlice :=
    { first := [0, 0, 1, 0x42, 0x9A, 0x02]
      partitions := [[0, 0, 1, 0x43, 0xA0, 0x15]]
      types := by decide }
  laterSlices := []
  leads := nofun
  begins := by decide
  continues := nofun

theorem Grouper.cut_partitioned :
    let run := empty.pushAll ([partitionedPicture].flatMap CodedPicture.units)
    (emissions run.1 ++ run.2.flush.1.toList).map DecodeUnit.contents ≠
      [partitionedPicture].map CodedPicture.units := by
  decide

end AvcPipeline
