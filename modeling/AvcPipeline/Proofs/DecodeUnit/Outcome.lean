import AvcPipeline.Proofs.DecodeUnit.Assembly

/-!
# What an assembly leaves behind

`Assembled` lists the ways an assembly can end, with the contents of the buffer: the pieces joined,
or nothing because the declared length is too large, or the pieces before the first fragment that
fails. Which of them it is depends on the unit alone, and on no unit before it.

The length of what is assembled is that of the fragments and what the parameter sets grow by. The
declared length is compared with the capacity and with nothing else, so it is the length of the
fragments only where the transport declares it so.
-/

namespace AvcPipeline

inductive Fails (capacity used : Nat) (f : Fixup) (fragment : Fragment) : AssemblyError → Prop
  | refused {e : ParameterSet.Error} (hpiece : (f.piece fragment).1 = .error e) :
    Fails capacity used f fragment (.fixup e)
  | overflows {piece : Bytes} (hpiece : (f.piece fragment).1 = .ok piece)
      (hlong : capacity < used + piece.length) :
    Fails capacity used f fragment (.overflow piece.length capacity)

inductive Assembled (capacity : Nat) (f : Fixup) (u : DecodeUnit) :
    Except AssemblyError Bytes → Bytes → Prop
  | whole {pieces : List Bytes} (hdeclared : u.declaredLength ≤ capacity)
      (hpieces : f.Replaces u.fragments pieces) (hfits : pieces.flatten.length ≤ capacity) :
    Assembled capacity f u (.ok pieces.flatten) pieces.flatten
  | tooLarge (hdeclared : capacity < u.declaredLength) :
    Assembled capacity f u (.error (.unitTooLarge u.declaredLength capacity)) []
  | broken {before after : List Fragment} {fragment : Fragment} {pieces : List Bytes}
      {e : AssemblyError} (hdeclared : u.declaredLength ≤ capacity)
      (hfragments : u.fragments = before ++ fragment :: after) (hpieces : f.Replaces before pieces)
      (hfits : pieces.flatten.length ≤ capacity)
      (hfails : Fails capacity pieces.flatten.length f fragment e) :
    Assembled capacity f u (.error e) pieces.flatten

variable {capacity used : Nat} {f : Fixup} {fragments : List Fragment} {pieces pieces' : List Bytes}
  {outcome outcome' : Except AssemblyError Unit} {e : AssemblyError}

namespace Gathers

theorem unique (h : Gathers capacity f used fragments pieces outcome)
    (h' : Gathers capacity f used fragments pieces' outcome') :
    pieces = pieces' ∧ outcome = outcome' := by
  induction h generalizing pieces' with
  | all used =>
    cases h'
    exact ⟨rfl, rfl⟩
  | refused used rest hpiece =>
    cases h' with
    | refused _ _ hpiece' =>
      cases hpiece.symm.trans hpiece'
      exact ⟨rfl, rfl⟩
    | overflows _ hpiece' | fits hpiece' => cases hpiece.symm.trans hpiece'
  | overflows rest hpiece hlong =>
    cases h' with
    | refused _ _ hpiece' => cases hpiece.symm.trans hpiece'
    | overflows _ hpiece' =>
      cases hpiece.symm.trans hpiece'
      exact ⟨rfl, rfl⟩
    | fits hpiece' hfits =>
      cases hpiece.symm.trans hpiece'
      omega
  | fits hpiece hfits _ ih =>
    cases h' with
    | refused _ _ hpiece' => cases hpiece.symm.trans hpiece'
    | overflows _ hpiece' hlong =>
      cases hpiece.symm.trans hpiece'
      omega
    | fits hpiece' _ hrest' =>
      cases hpiece.symm.trans hpiece'
      obtain ⟨rfl, rfl⟩ := ih hrest'
      exact ⟨rfl, rfl⟩

theorem of_replaces (h : f.Replaces fragments pieces)
    (hfits : used + pieces.flatten.length ≤ capacity) :
    Gathers capacity f used fragments pieces (.ok ()) := by
  induction h generalizing used with
  | nil => exact .all used
  | @cons fragment piece _ pieces hpiece _ ih =>
    rw [List.flatten_cons, List.length_append, ← Nat.add_assoc] at hfits
    exact .fits hpiece (Nat.le_trans (Nat.le_add_right _ _) hfits) (ih hfits)

theorem eq_error :
    Gathers capacity f used fragments pieces (.error e) ∧ used ≤ capacity ↔
      ∃ before fragment after, fragments = before ++ fragment :: after ∧
        f.Replaces before pieces ∧ used + pieces.flatten.length ≤ capacity ∧
        Fails capacity (used + pieces.flatten.length) f fragment e := by
  constructor
  · rintro ⟨h, hused⟩
    generalize houtcome : (Except.error e : Except AssemblyError Unit) = outcome at h
    induction h with
    | all => cases houtcome
    | refused used rest hpiece =>
      cases houtcome
      exact ⟨[], _, rest, rfl, .nil, hused, .refused hpiece⟩
    | overflows rest hpiece hlong =>
      cases houtcome
      exact ⟨[], _, rest, rfl, .nil, hused, .overflows hpiece hlong⟩
    | fits hpiece hfits _ ih =>
      obtain ⟨before, fragment, after, rfl, hpieces, htotal, hfails⟩ := ih hfits houtcome
      refine ⟨_ :: before, fragment, after, rfl, .cons hpiece hpieces, ?_, ?_⟩
      · rwa [List.flatten_cons, List.length_append, ← Nat.add_assoc]
      · rwa [List.flatten_cons, List.length_append, ← Nat.add_assoc]
  · rintro ⟨before, fragment, after, rfl, hpieces, htotal, hfails⟩
    refine ⟨?_, Nat.le_trans (Nat.le_add_right _ _) htotal⟩
    induction hpieces generalizing used with
    | nil =>
      cases hfails with
      | refused hpiece => exact .refused used after hpiece
      | overflows hpiece hlong => exact .overflows after hpiece hlong
    | cons hpiece _ ih =>
      rw [List.flatten_cons, List.length_append, ← Nat.add_assoc] at htotal hfails
      exact .fits hpiece (Nat.le_trans (Nat.le_add_right _ _) htotal) (ih htotal hfails)

end Gathers

namespace Assembler

variable {a : Assembler} {u : DecodeUnit} {result : Except AssemblyError Bytes} {buffer : Bytes}

theorem assemble_gathers (a : Assembler) (f : Fixup) (output : Bytes) {u : DecodeUnit}
    (hdeclared : u.declaredLength ≤ a.capacity) : ∃ outcome pieces,
      Gathers a.capacity f 0 u.fragments pieces outcome ∧
        (a.assemble { f with output } u).1 = outcome.map (fun _ => pieces.flatten) ∧
        (a.assemble { f with output } u).2.1 = { a with buffer := pieces.flatten } := by
  obtain ⟨outcome, pieces, output', hgather, hgathers⟩ :=
    gather_gathers a.capacity f output [] 0 u.fragments
  refine ⟨outcome, pieces, hgathers, ?_⟩
  rw [assemble, if_neg (Nat.not_lt.mpr hdeclared), hgather]
  exact ⟨rfl, rfl⟩

theorem assembled_assemble (a : Assembler) (f : Fixup) (output : Bytes) (u : DecodeUnit) :
    Assembled a.capacity f u (a.assemble { f with output } u).1
      (a.assemble { f with output } u).2.1.buffer := by
  by_cases hdeclared : u.declaredLength ≤ a.capacity
  · obtain ⟨outcome, pieces, hgathers, hresult, hbuffer⟩ := assemble_gathers a f output hdeclared
    rw [hresult, hbuffer]
    cases outcome with
    | ok _ =>
      obtain ⟨hpieces, hfits⟩ := replaces_of_gathers hgathers (Nat.zero_le _)
      rw [Nat.zero_add] at hfits
      exact .whole hdeclared hpieces hfits
    | error e =>
      obtain ⟨before, fragment, after, hfragments, hpieces, hfits, hfails⟩ :=
        Gathers.eq_error.mp ⟨hgathers, Nat.zero_le _⟩
      rw [Nat.zero_add] at hfits hfails
      exact .broken hdeclared hfragments hpieces hfits hfails
  · rw [assemble, if_pos (Nat.not_le.mp hdeclared)]
    exact .tooLarge (Nat.not_le.mp hdeclared)

theorem assembled_unique {result' : Except AssemblyError Bytes} {buffer' : Bytes}
    (h : Assembled capacity f u result buffer) (h' : Assembled capacity f u result' buffer') :
    result = result' ∧ buffer = buffer' := by
  have hgathers {result : Except AssemblyError Bytes} {buffer : Bytes}
      (h : Assembled capacity f u result buffer) (hdeclared : u.declaredLength ≤ capacity) :
      ∃ outcome pieces, Gathers capacity f 0 u.fragments pieces outcome ∧
        result = outcome.map (fun _ => pieces.flatten) ∧ buffer = pieces.flatten := by
    cases h with
    | whole _ hpieces hfits =>
      exact ⟨_, _, .of_replaces hpieces ((Nat.zero_add _).symm ▸ hfits), rfl, rfl⟩
    | tooLarge hlarge => exact absurd hdeclared (Nat.not_le.mpr hlarge)
    | broken _ hfragments hpieces hfits hfails =>
      rw [← Nat.zero_add (List.length _)] at hfits hfails
      exact ⟨_, _, (Gathers.eq_error.mpr ⟨_, _, _, hfragments, hpieces, hfits, hfails⟩).1, rfl, rfl⟩
  by_cases hdeclared : u.declaredLength ≤ capacity
  · obtain ⟨outcome, pieces, hfirst, rfl, rfl⟩ := hgathers h hdeclared
    obtain ⟨outcome', pieces', hsecond, rfl, rfl⟩ := hgathers h' hdeclared
    obtain ⟨rfl, rfl⟩ := hfirst.unique hsecond
    exact ⟨rfl, rfl⟩
  · cases h with
    | whole hsmall | broken hsmall => exact absurd hsmall hdeclared
    | tooLarge =>
      cases h' with
      | whole hsmall | broken hsmall => exact absurd hsmall hdeclared
      | tooLarge => exact ⟨rfl, rfl⟩

theorem length_of_assembled (h : Assembled capacity f u result buffer) :
    buffer.length ≤ capacity := by
  cases h with
  | whole _ _ hfits | broken _ _ _ hfits => exact hfits
  | tooLarge => exact Nat.zero_le _

def after (a : Assembler) (earlier : List (Fixup × DecodeUnit)) : Assembler :=
  earlier.foldl (fun a (f, u) => (a.assemble f u).2.1) a

theorem after_eq (a : Assembler) (earlier : List (Fixup × DecodeUnit)) :
    ∃ buffer, a.after earlier = { a with buffer } := by
  induction earlier generalizing a with
  | nil => exact ⟨a.buffer, rfl⟩
  | cons entry earlier ih =>
    obtain ⟨buffer, output, hbuffers⟩ := assemble_snd a entry.1 entry.2
    obtain ⟨last, hlast⟩ := ih (a.assemble entry.1 entry.2).2.1
    refine ⟨last, hlast.trans ?_⟩
    rw [hbuffers]

/-- Whatever was assembled before, and whatever the buffer of the fixup holds, the result and the
buffer are the ones that `Assembled` lists for the unit, and no others. The buffer never exceeds the
capacity, and everything is as if the unit were the first one. -/
theorem assemble_after (capacity : Nat) (earlier : List (Fixup × DecodeUnit)) (f : Fixup)
    (output : Bytes) (u : DecodeUnit) :
    let done := (after { capacity } earlier).assemble { f with output } u
    (∀ result buffer, done.1 = result ∧ done.2.1.buffer = buffer ↔
        Assembled capacity f u result buffer) ∧
      done.2.1.buffer.length ≤ capacity ∧
      done.1 = (assemble { capacity } f u).1 ∧ done.2.1 = (assemble { capacity } f u).2.1 := by
  obtain ⟨held, hafter⟩ := after_eq { capacity } earlier
  rw [hafter]
  intro done
  have hdone : Assembled capacity f u done.1 done.2.1.buffer :=
    assembled_assemble { capacity, buffer := held } f output u
  have hfirst := assembled_assemble { capacity } f f.output u
  obtain ⟨hresult, hbuffer⟩ := assembled_unique hdone hfirst
  refine ⟨fun result buffer => ⟨?_, fun h => assembled_unique hdone h⟩,
    length_of_assembled hdone, hresult, ?_⟩
  · rintro ⟨rfl, rfl⟩
    exact hdone
  · obtain ⟨last, _, hlast⟩ := assemble_snd { capacity, buffer := held } { f with output } u
    obtain ⟨fresh, _, hfresh⟩ := assemble_snd { capacity } f u
    have hlast : done.2.1 = { capacity, buffer := last } := congrArg Prod.fst hlast
    have hfresh : (assemble { capacity } f u).2.1 = { capacity, buffer := fresh } :=
      congrArg Prod.fst hfresh
    rw [hlast, hfresh] at hbuffer
    rw [hlast, hfresh]
    exact congrArg (Assembler.mk capacity) hbuffer

end Assembler

/-! ## Lengths -/

namespace Fixup

def growth (f : Fixup) (unit : Bytes) : Int :=
  match (f.fix unit).1 with
  | .ok out => out.length - unit.length
  | .error _ => 0

def totalGrowth (f : Fixup) (fragments : List Fragment) : Int :=
  ((fragments.filter (·.kind = .parameterSet)).map fun fragment => f.growth fragment.data).sum

theorem totalGrowth_cons {fragment : Fragment} {piece : Bytes}
    (hpiece : (f.piece fragment).1 = .ok piece) (rest : List Fragment) :
    f.totalGrowth (fragment :: rest) =
      piece.length - fragment.data.length + f.totalGrowth rest := by
  unfold totalGrowth
  unfold Fixup.piece at hpiece
  cases hkind : fragment.kind with
  | ordinary =>
    simp only [hkind, Except.ok.injEq] at hpiece
    rw [List.filter_cons_of_neg (by simp [hkind]), hpiece]
    omega
  | parameterSet =>
    simp only [hkind] at hpiece
    rw [List.filter_cons_of_pos (by simp [hkind]), List.map_cons, List.sum_cons, growth, hpiece]

theorem Replaces.length_flatten (h : f.Replaces fragments pieces) :
    (pieces.flatten.length : Int) =
      DecodeUnit.totalLength fragments + f.totalGrowth fragments := by
  rw [DecodeUnit.totalLength_eq]
  induction h with
  | nil => rfl
  | @cons fragment piece rest pieces hpiece _ ih =>
    rw [List.flatten_cons, List.length_append, List.map_cons, List.sum_cons,
      totalGrowth_cons hpiece, Int.natCast_add, Int.natCast_add, ih]
    omega

end Fixup

namespace Assembler

variable {a : Assembler} {u : DecodeUnit} {out : Bytes}

/-- An assembled unit is as long as its fragments and what its parameter sets grow by. That is what
it declares and what they grow by only if it declares the length of its fragments. -/
theorem length_assemble (h : (a.assemble f u).1 = .ok out) :
    (out.length : Int) = DecodeUnit.totalLength u.fragments + f.totalGrowth u.fragments ∧
      ((out.length : Int) = u.declaredLength + f.totalGrowth u.fragments ↔
        u.declaredLength = DecodeUnit.totalLength u.fragments) := by
  obtain ⟨-, pieces, hpieces, -, rfl⟩ := assemble_eq_ok.mp h
  have hlength := hpieces.length_flatten
  refine ⟨hlength, ?_⟩
  rw [hlength]
  omega

theorem length_assemble_refresh :
    (assemble { capacity := 64 } { width := 176, height := 144 } refreshUnit).1 =
        .ok refreshPieces.flatten ∧
      (refreshPieces.flatten.length : Int) = refreshUnit.declaredLength +
        Fixup.totalGrowth { width := 176, height := 144 } refreshUnit.fragments := by
  have hassemble : (assemble { capacity := 64 } { width := 176, height := 144 } refreshUnit).1 =
      .ok refreshPieces.flatten := by decide +kernel
  exact ⟨hassemble, (length_assemble hassemble).2.mpr rfl⟩

def understatedUnit : DecodeUnit where
  frameNumber := 0
  kind := .refresh
  declaredLength := 8
  fragments := [⟨.ordinary, [0, 0, 0, 1, 0x68, 0xCE, 0x3C, 0x80]⟩,
    ⟨.ordinary, [0, 0, 0, 1, 0x65, 0x88, 0x84, 0, 0x33]⟩]

theorem length_assemble_understated :
    ∃ out, (assemble { capacity := decoderCapacity } { width := 1280, height := 720 }
        understatedUnit).1 = .ok out ∧
      (out.length : Int) ≠ understatedUnit.declaredLength +
        Fixup.totalGrowth { width := 1280, height := 720 } understatedUnit.fragments :=
  ⟨(understatedUnit.fragments.map (·.data)).flatten, by decide, by decide⟩

end Assembler
end AvcPipeline
