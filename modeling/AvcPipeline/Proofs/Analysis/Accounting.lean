import AvcPipeline.CommandLine.Run
import AvcPipeline.Proofs.ParameterSet.Fixup
import Mathlib.Algebra.BigOperators.Group.Finset.Basic

/-!
# What an analysis counts and reports

An analysis that has gone through some units accounts for them (`Analysis.Accounts`): one more unit
is counted, its type is counted if its header can be read, and it is reported if it is read as a
parameter set and did not appear before. Whether a unit is at fault depends on that unit alone, for
one that was reported before is no fault either. So a strict analysis of units without fault is the
same as one that is not strict, and otherwise it has reported on the units before the first fault.
-/

namespace AvcPipeline

namespace Analysis

/-- What is wrong with a unit by itself: its header cannot be read, or it is a parameter set by its
type and is not read as one. -/
def fault? (unit : Bytes) : Option Fault :=
  match Nal.split? unit with
  | .error e => some (.malformed e)
  | .ok (header, _) =>
    if header.unitType = Nal.parameterSetType then
      match ParameterSet.ofUnit? unit with
      | .ok _ => none
      | .error e => some (.parameterSet e)
    else none

/-- The units that are read as parameter sets, each of them where it first appears. -/
def parameterSets (units : List Bytes) : List Bytes :=
  (units.filter fun unit => (ParameterSet.ofUnit? unit).isOk).eraseDups

/-- The report gives the set that is read from the unit. What it gives as the adapted set is read
from the unit that adapting makes, and what it gives as the new length is the length of that unit.
-/
structure Report.Describes (r : Report) (unit : Bytes) : Prop where
  set : ∃ header, ParameterSet.ofUnit? unit = .ok (header, r.set)
  length : r.length = unit.length
  fixed : ∃ out header adapted,
    (Fixup.fix { width := r.set.width, height := r.set.height } unit).1 = .ok out ∧
      ParameterSet.ofUnit? out = .ok (header, adapted) ∧ r.fixed = .ok ⟨adapted, out.length⟩

structure Accounts (units : List Bytes) (a : Analysis) : Prop where
  total : a.total = units.length
  types : a.types.reverse = units.filterMap Nal.unitType?
  reported : a.reports.reverse.map Prod.fst = parameterSets units
  described : ∀ entry ∈ a.reports, entry.2.Describes entry.1

variable {a : Analysis} {before units : List Bytes} {unit : Bytes}

/-! ## Parameter sets, each once -/

theorem mem_parameterSets :
    unit ∈ parameterSets units ↔ unit ∈ units ∧ (ParameterSet.ofUnit? unit).isOk = true := by
  rw [parameterSets, List.mem_eraseDups, List.mem_filter]

theorem eraseDups_append_singleton (units : List Bytes) (unit : Bytes) :
    (units ++ [unit]).eraseDups =
      if unit ∈ units then units.eraseDups else units.eraseDups ++ [unit] := by
  rw [List.eraseDups_append]
  by_cases h : unit ∈ units <;> simp [List.removeAll, List.eraseDups_cons, h]

theorem parameterSets_append_new (hset : (ParameterSet.ofUnit? unit).isOk = true)
    (hnew : unit ∉ parameterSets before) :
    parameterSets (before ++ [unit]) = parameterSets before ++ [unit] := by
  rw [parameterSets, List.mem_eraseDups] at hnew
  rw [parameterSets, List.filter_append, List.filter_singleton, hset, cond_true,
    eraseDups_append_singleton, if_neg hnew]
  rfl

theorem parameterSets_append_old (hold : unit ∈ parameterSets before) :
    parameterSets (before ++ [unit]) = parameterSets before := by
  have hset := (mem_parameterSets.mp hold).2
  rw [parameterSets, List.mem_eraseDups] at hold
  rw [parameterSets, List.filter_append, List.filter_singleton, hset, cond_true,
    eraseDups_append_singleton, if_pos hold]
  rfl

theorem parameterSets_append_error {e : ParameterSet.Error}
    (h : ParameterSet.ofUnit? unit = .error e) :
    parameterSets (before ++ [unit]) = parameterSets before := by
  rw [parameterSets, List.filter_append, List.filter_singleton, h]
  exact congrArg List.eraseDups (List.append_nil _)

/-! ## One unit -/

/-- A report adapts the set itself and takes the length from the adapted unit. The two belong
together, for the adapted unit is read as the adapted set. -/
theorem describes_ofUnit {header : Nal.Header} {set : ParameterSet}
    (h : ParameterSet.ofUnit? unit = .ok (header, set)) :
    (Report.ofUnit unit set).Describes unit where
  set := ⟨header, h⟩
  length := rfl
  fixed := by
    let fixup : Fixup := { width := set.width, height := set.height }
    obtain ⟨payload, hfix, -, hread⟩ := Fixup.fix_of_readable fixup h
    refine ⟨Nal.frame header payload, header, fixup.apply set, congrArg Prod.fst hfix, hread, ?_⟩
    change (fixup.fix unit).1.map _ = _
    rw [hfix]
    rfl

theorem Accounts.empty : ({} : Analysis).Accounts [] where
  total := rfl
  types := rfl
  reported := rfl
  described := fun _ hentry => absurd hentry List.not_mem_nil

theorem Accounts.warn (h : a.Accounts units) (message : String) :
    (a.warn message).Accounts units :=
  ⟨h.total, h.types, h.reported, h.described⟩

theorem Accounts.hasSeen_eq (h : a.Accounts before) (total : Nat) (types : List UInt8) :
    ({ a with total, types } : Analysis).hasSeen unit = decide (unit ∈ parameterSets before) := by
  rw [Bool.eq_iff_iff, decide_eq_true_iff, ← h.reported]
  simp [hasSeen]

theorem Accounts.types_append (h : a.Accounts before) {header : Nal.Header} {payload : Bytes}
    (hsplit : Nal.split? unit = .ok (header, payload)) :
    (header.unitType :: a.types).reverse = (before ++ [unit]).filterMap Nal.unitType? := by
  rw [List.reverse_cons, h.types, List.filterMap_append, List.filterMap_cons,
    Nal.unitType?_of_split hsplit, List.filterMap_nil]

theorem Accounts.counted (h : a.Accounts before) {types : List UInt8}
    (htypes : types.reverse = (before ++ [unit]).filterMap Nal.unitType?)
    (hsame : parameterSets (before ++ [unit]) = parameterSets before) :
    ({ a with total := a.total + 1, types } : Analysis).Accounts (before ++ [unit]) where
  total := by rw [h.total, List.length_append, List.length_singleton]
  types := htypes
  reported := h.reported.trans hsame.symm
  described := h.described

theorem Accounts.reporting (h : a.Accounts before) {types : List UInt8} {r : Report}
    (hr : r.Describes unit) (hnew : unit ∉ parameterSets before)
    (htypes : types.reverse = (before ++ [unit]).filterMap Nal.unitType?) :
    ({ a with total := a.total + 1, types, reports := (unit, r) :: a.reports } :
      Analysis).Accounts (before ++ [unit]) where
  total := by rw [h.total, List.length_append, List.length_singleton]
  types := htypes
  reported := by
    obtain ⟨header, hread⟩ := hr.set
    have hset : (ParameterSet.ofUnit? unit).isOk = true := by
      rw [hread]
      rfl
    rw [parameterSets_append_new hset hnew, ← h.reported, List.reverse_cons, List.map_append]
    rfl
  described := List.forall_mem_cons.mpr ⟨hr, h.described⟩

/-- Adapting a set that was read never fails, so there is nothing to warn of. -/
theorem addReport_eq {r : Report} (h : r.Describes unit) :
    a.addReport unit r = { a with reports := (unit, r) :: a.reports } := by
  obtain ⟨out, header, adapted, -, -, hfixed⟩ := h.fixed
  simp only [addReport, hfixed]

/-- One more unit is counted, it is reported if it is a new parameter set, and it is at fault by
itself or not at all. -/
theorem Accounts.add (h : a.Accounts before) (unit : Bytes) :
    (a.add unit).2 = fault? unit ∧ (a.add unit).1.Accounts (before ++ [unit]) := by
  cases hsplit : Nal.split? unit with
  | error e =>
    have hread : ParameterSet.ofUnit? unit = .error (.unit e) := by
      simp only [ParameterSet.ofUnit?, hsplit]
    have htypes : a.types.reverse = (before ++ [unit]).filterMap Nal.unitType? := by
      rw [h.types, List.filterMap_append, List.filterMap_cons, Nal.unitType?, hsplit]
      exact (List.append_nil _).symm
    simp only [Analysis.add, fault?, hsplit, true_and]
    exact h.counted htypes (parameterSets_append_error hread)
  | ok parts =>
    obtain ⟨header, payload⟩ := parts
    have htypes := h.types_append hsplit
    by_cases htype : header.unitType = Nal.parameterSetType
    · rw [htype] at htypes
      cases hread : ParameterSet.ofUnit? unit with
      | error e =>
        -- only a unit that is read is ever seen, so this one is looked at however often it appears
        have hnew : unit ∉ parameterSets before := by
          rw [mem_parameterSets, hread]
          exact fun hold => Bool.false_ne_true hold.2
        simp only [Analysis.add, fault?, hsplit, htype, hread, h.hasSeen_eq, hnew, decide_true,
          decide_false, Bool.true_and, Bool.not_false, if_true, true_and]
        exact h.counted htypes (parameterSets_append_error hread)
      | ok result =>
        obtain ⟨header', set⟩ := result
        by_cases hold : unit ∈ parameterSets before
        · simp only [Analysis.add, fault?, hsplit, htype, hread, h.hasSeen_eq, hold, decide_true,
            Bool.true_and, Bool.not_true, Bool.false_eq_true, if_true, if_false, true_and]
          exact h.counted htypes (parameterSets_append_old hold)
        · have hreport := describes_ofUnit hread
          simp only [Analysis.add, fault?, hsplit, htype, hread, h.hasSeen_eq, hold,
            addReport_eq hreport, decide_true, decide_false, Bool.true_and, Bool.not_false,
            if_true, true_and]
          exact h.reporting hreport hold htypes
    · have hread : ParameterSet.ofUnit? unit = .error (.unexpectedType header.unitType) := by
        simp only [ParameterSet.ofUnit?, hsplit, ne_eq, htype, not_false_eq_true, if_true]
      simp only [Analysis.add, fault?, hsplit, htype, decide_false, Bool.false_and,
        Bool.false_eq_true, if_false, true_and]
      exact h.counted htypes (parameterSets_append_error hread)

theorem Accounts.addAll (h : a.Accounts before) (units : List Bytes) :
    (a.addAll false units).2 = none ∧ (a.addAll false units).1.Accounts (before ++ units) := by
  induction units generalizing a before with
  | nil => exact ⟨rfl, (List.append_nil before).symm ▸ h⟩
  | cons unit rest ih =>
    obtain ⟨-, hnext⟩ := h.add unit
    rw [List.append_cons, Analysis.addAll]
    cases hadd : a.add unit with
    | mk next fault =>
      rw [hadd] at hnext
      cases fault with
      | none => exact ih hnext
      | some fault => exact ih (hnext.warn _)

end Analysis

namespace CommandLine

variable {files : Files} {input : String} {stream : Bytes}

end CommandLine
end AvcPipeline
