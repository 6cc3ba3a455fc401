import AvcPipeline.DecodeUnit.Assembly
import AvcPipeline.Proofs.Nal.Framing
import AvcPipeline.Proofs.ParameterSet.Fixup

/-!
# What assembling puts together

A unit is assembled exactly when it declares no more than the buffer takes, every parameter set in
it can be adapted, and the pieces fit. The result is the pieces joined, whatever the buffers held
before. Pieces that are framed, and of which none ends in a zero before a start code of three bytes,
are found again when the assembled unit is cut.
-/

namespace AvcPipeline

variable {f : Fixup} {fragment : Fragment} {fragments : List Fragment} {pieces : List Bytes}

theorem DecodeUnit.totalLength_eq (fragments : List Fragment) :
    totalLength fragments = (fragments.map fun fragment => fragment.data.length).sum := by
  rw [totalLength, List.sum_eq_foldl, List.foldl_map]

namespace Fixup

/-- The pieces stand for the fragments, one each: an ordinary one as it is, a parameter set
adapted. -/
def Replaces (f : Fixup) : List Fragment → List Bytes → Prop :=
  List.Forall₂ fun fragment piece => (f.piece fragment).1 = .ok piece

theorem Replaces.eq {all : List Bytes} (h : f.Replaces fragments pieces)
    (hall : f.Replaces fragments all) : pieces = all := by
  have hunique : Relator.RightUnique fun fragment piece => (f.piece fragment).1 = .ok piece :=
    fun _ _ _ hpiece hother => Except.ok.inj (hpiece.symm.trans hother)
  exact hunique.forall₂ h hall

theorem Replaces.exists_fragment {i : Nat} {piece : Bytes} (h : f.Replaces fragments pieces)
    (hpiece : pieces[i]? = some piece) :
    ∃ fragment, fragments[i]? = some fragment ∧ (f.piece fragment).1 = .ok piece := by
  obtain ⟨hi, rfl⟩ := List.getElem?_eq_some_iff.mp hpiece
  have hi' : i < fragments.length := h.length_eq ▸ hi
  exact ⟨fragments[i], List.getElem?_eq_getElem hi', h.get hi' hi⟩

theorem piece_withOutput (f : Fixup) (output : Bytes) (fragment : Fragment) :
    (piece { f with output } fragment).1 = (f.piece fragment).1 := by
  unfold piece
  cases fragment.kind with
  | ordinary => rfl
  | parameterSet =>
    simp only [fix]
    cases ParameterSet.ofUnit? fragment.data <;> rfl

theorem piece_snd (f : Fixup) (fragment : Fragment) :
    ∃ output, (f.piece fragment).2 = { f with output } := by
  unfold piece
  cases fragment.kind with
  | ordinary => exact ⟨f.output, rfl⟩
  | parameterSet => exact fix_snd f fragment.data

theorem piece_eq_error {e : ParameterSet.Error} :
    (f.piece fragment).1 = .error e ↔
      fragment.kind = .parameterSet ∧ ParameterSet.ofUnit? fragment.data = .error e := by
  unfold piece
  cases fragment.kind with
  | ordinary => exact iff_of_false nofun nofun
  | parameterSet =>
    have hfix : (f.fix fragment.data).1 = .error e ↔
        ParameterSet.ofUnit? fragment.data = .error e := (fix_after f [] fragment.data).1 e
    exact hfix.trans ⟨fun hread => ⟨rfl, hread⟩, And.right⟩

theorem exists_replaces_or (f : Fixup) (fragments : List Fragment) :
    (∃ pieces, f.Replaces fragments pieces) ∨
      ∃ fragment ∈ fragments, ∃ e, (f.piece fragment).1 = .error e := by
  induction fragments with
  | nil => exact .inl ⟨[], .nil⟩
  | cons fragment rest ih =>
    cases hpiece : (f.piece fragment).1 with
    | error e => exact .inr ⟨fragment, List.mem_cons_self, e, hpiece⟩
    | ok piece =>
      rcases ih with ⟨pieces, hpieces⟩ | ⟨other, hother, hrefused⟩
      · exact .inl ⟨piece :: pieces, .cons hpiece hpieces⟩
      · exact .inr ⟨other, List.mem_cons_of_mem _ hother, hrefused⟩

theorem Replaces.not_refused (h : f.Replaces fragments pieces) (hmem : fragment ∈ fragments)
    (e : ParameterSet.Error) : (f.piece fragment).1 ≠ .error e := by
  induction h with
  | nil => cases hmem
  | cons hpiece _ ih =>
    rcases List.mem_cons.mp hmem with rfl | hmem
    · rw [hpiece]
      nofun
    · exact ih hmem

end Fixup

/-- What comes of gathering pieces behind `used` bytes: all of them, or those before the first
fragment that is refused or does not fit. -/
inductive Gathers (capacity : Nat) (f : Fixup) :
    Nat → List Fragment → List Bytes → Except AssemblyError Unit → Prop
  | all (used : Nat) : Gathers capacity f used [] [] (.ok ())
  | refused (used : Nat) {fragment : Fragment} {e : ParameterSet.Error} (rest : List Fragment)
      (hpiece : (f.piece fragment).1 = .error e) :
      Gathers capacity f used (fragment :: rest) [] (.error (.fixup e))
  | overflows {used : Nat} {fragment : Fragment} {piece : Bytes} (rest : List Fragment)
      (hpiece : (f.piece fragment).1 = .ok piece) (hlong : capacity < used + piece.length) :
      Gathers capacity f used (fragment :: rest) [] (.error (.overflow piece.length capacity))
  | fits {used : Nat} {fragment : Fragment} {piece : Bytes} {rest : List Fragment}
      {pieces : List Bytes} {outcome : Except AssemblyError Unit}
      (hpiece : (f.piece fragment).1 = .ok piece) (hfits : used + piece.length ≤ capacity)
      (hrest : Gathers capacity f (used + piece.length) rest pieces outcome) :
      Gathers capacity f used (fragment :: rest) (piece :: pieces) outcome

namespace Assembler

variable {capacity used : Nat} {done : List Bytes}

theorem gather_gathers (capacity : Nat) (f : Fixup) (output : Bytes) (done : List Bytes)
    (used : Nat) (fragments : List Fragment) : ∃ outcome pieces output',
      gather capacity { f with output } done used fragments =
        (outcome, done.reverse ++ pieces, { f with output := output' }) ∧
      Gathers capacity f used fragments pieces outcome := by
  induction fragments generalizing output done used with
  | nil => exact ⟨_, [], output, by rw [gather, List.append_nil], .all used⟩
  | cons fragment rest ih =>
    have hpiece := f.piece_withOutput output fragment
    obtain ⟨output', houtput⟩ := Fixup.piece_snd { f with output } fragment
    rw [gather]
    generalize Fixup.piece { f with output } fragment = result at hpiece houtput ⊢
    obtain ⟨outcome, f'⟩ := result
    cases houtput
    cases outcome with
    | error e => exact ⟨_, [], output', by rw [List.append_nil], .refused used rest hpiece.symm⟩
    | ok piece =>
      dsimp only
      by_cases hlong : capacity < used + piece.length
      · rw [if_pos hlong]
        exact ⟨_, [], output', by rw [List.append_nil], .overflows rest hpiece.symm hlong⟩
      · rw [if_neg hlong]
        obtain ⟨outcome, pieces, output'', hgather, hrest⟩ :=
          ih output' (piece :: done) (used + piece.length)
        refine ⟨outcome, piece :: pieces, output'', ?_, .fits hpiece.symm (not_lt.mp hlong) hrest⟩
        rw [hgather, List.reverse_cons, List.append_assoc]
        rfl

theorem replaces_of_gathers (h : Gathers capacity f used fragments pieces (.ok ()))
    (hused : used ≤ capacity) :
    f.Replaces fragments pieces ∧ used + pieces.flatten.length ≤ capacity := by
  generalize houtcome : (Except.ok () : Except AssemblyError Unit) = outcome at h
  induction h with
  | all used => exact ⟨.nil, hused⟩
  | refused => cases houtcome
  | overflows => cases houtcome
  | fits hpiece hfits _ ih =>
    obtain ⟨hpieces, htotal⟩ := ih hfits houtcome
    rw [List.flatten_cons, List.length_append, ← Nat.add_assoc]
    exact ⟨.cons hpiece hpieces, htotal⟩

theorem eq_of_gathers {outcome : Except AssemblyError Unit} {all : List Bytes}
    (h : Gathers capacity f used fragments pieces outcome) (hall : f.Replaces fragments all)
    (hfits : used + all.flatten.length ≤ capacity) : outcome = .ok () ∧ pieces = all := by
  induction h generalizing all with
  | all used =>
    cases hall
    exact ⟨rfl, rfl⟩
  | refused used rest hpiece =>
    cases hall with
    | cons hpiece' _ =>
      rw [hpiece] at hpiece'
      cases hpiece'
  | overflows rest hpiece hlong =>
    cases hall with
    | cons hpiece' _ =>
      rw [hpiece, Except.ok.injEq] at hpiece'
      rw [← hpiece', List.flatten_cons, List.length_append] at hfits
      omega
  | fits hpiece _ _ ih =>
    cases hall with
    | cons hpiece' hrest' =>
      rw [hpiece, Except.ok.injEq] at hpiece'
      rw [← hpiece', List.flatten_cons, List.length_append, ← Nat.add_assoc] at hfits
      obtain ⟨houtcome, rfl⟩ := ih hrest' hfits
      exact ⟨houtcome, hpiece' ▸ rfl⟩

/-! ## Assembling -/

variable {a : Assembler} {u : DecodeUnit} {out : Bytes}

theorem assemble_eq_ok :
    (a.assemble f u).1 = .ok out ↔
      u.declaredLength ≤ a.capacity ∧ ∃ pieces, f.Replaces u.fragments pieces ∧
        pieces.flatten.length ≤ a.capacity ∧ out = pieces.flatten := by
  unfold assemble
  by_cases hlong : a.capacity < u.declaredLength
  · rw [if_pos hlong]
    exact iff_of_false nofun fun h => Nat.not_lt.mpr h.1 hlong
  · obtain ⟨outcome, pieces, output, hgather, hgathers⟩ :=
      gather_gathers a.capacity f f.output [] 0 u.fragments
    have hgather : gather a.capacity f [] 0 u.fragments = (outcome, pieces, { f with output }) :=
      hgather
    rw [if_neg hlong, hgather]
    constructor
    · intro hok
      cases outcome with
      | error e => cases hok
      | ok _ =>
        obtain ⟨hpieces, htotal⟩ := replaces_of_gathers hgathers (Nat.zero_le _)
        rw [Nat.zero_add] at htotal
        exact ⟨Nat.not_lt.mp hlong, pieces, hpieces, htotal, (Except.ok.inj hok).symm⟩
    · rintro ⟨-, all, hall, htotal, rfl⟩
      obtain ⟨rfl, rfl⟩ := eq_of_gathers hgathers hall (by rwa [Nat.zero_add])
      rfl

theorem assemble_snd (a : Assembler) (f : Fixup) (u : DecodeUnit) :
    ∃ buffer output, (a.assemble f u).2 = ({ a with buffer }, { f with output }) := by
  unfold assemble
  by_cases hlong : a.capacity < u.declaredLength
  · rw [if_pos hlong]
    exact ⟨[], f.output, rfl⟩
  · obtain ⟨outcome, pieces, output, hgather, -⟩ :=
      gather_gathers a.capacity f f.output [] 0 u.fragments
    have hgather : gather a.capacity f [] 0 u.fragments = (outcome, pieces, { f with output }) :=
      hgather
    rw [if_neg hlong, hgather]
    exact ⟨pieces.flatten, output, rfl⟩

/-- Why a unit is not assembled: it declares too much, it has a parameter set that cannot be read,
or its pieces are too long together. -/
def Refuses (capacity : Nat) (f : Fixup) (u : DecodeUnit) : Prop :=
  capacity < u.declaredLength ∨
    (∃ fragment ∈ u.fragments, fragment.kind = .parameterSet ∧
      ∃ e, ParameterSet.ofUnit? fragment.data = .error e) ∨
    ∃ pieces, f.Replaces u.fragments pieces ∧ capacity < pieces.flatten.length

theorem refuses_iff : Refuses a.capacity f u ↔ ∀ out, (a.assemble f u).1 ≠ .ok out := by
  constructor
  · intro hrefuses out hok
    obtain ⟨hdeclared, pieces, hpieces, htotal, -⟩ := assemble_eq_ok.mp hok
    rcases hrefuses with hlong | ⟨fragment, hmem, hkind, e, he⟩ | ⟨all, hall, hlong⟩
    · omega
    · exact hpieces.not_refused hmem e (Fixup.piece_eq_error.mpr ⟨hkind, he⟩)
    · rw [hall.eq hpieces] at hlong
      omega
  · intro hnone
    by_cases hlong : a.capacity < u.declaredLength
    · exact .inl hlong
    · rcases f.exists_replaces_or u.fragments with ⟨pieces, hpieces⟩ | ⟨fragment, hmem, e, he⟩
      · refine .inr (.inr ⟨pieces, hpieces, ?_⟩)
        by_contra htotal
        exact hnone _ (assemble_eq_ok.mpr
          ⟨Nat.not_lt.mp hlong, pieces, hpieces, Nat.not_lt.mp htotal, rfl⟩)
      · obtain ⟨hkind, hread⟩ := Fixup.piece_eq_error.mp he
        exact .inr (.inl ⟨fragment, hmem, hkind, e, hread⟩)

/-! ## Cutting an assembled unit -/

theorem framed_of_parameterSet {piece : Bytes} (hkind : fragment.kind = .parameterSet)
    (h : (f.piece fragment).1 = .ok piece) : Nal.Framed piece ∧ piece.getLast? ≠ some 0 := by
  simp only [Fixup.piece, hkind] at h
  obtain ⟨header, payload, rfl, hfits, htype, hlast⟩ := Fixup.fix_eq_ok h
  have hbyte : header.toByte ≠ 0 := header.toByte_ne_zero hfits (htype ▸ by decide)
  exact ⟨Nal.framed_frame hbyte payload, Nal.getLast?_frame hbyte hlast⟩

theorem getLast?_startCode_append {code body : Bytes} (hcode : Nal.IsStartCode code)
    (hzero : (code ++ body).getLast? = some 0) : body.getLast? = some 0 := by
  rw [List.getLast?_append] at hzero
  cases hbody : body.getLast? with
  | some byte => rwa [hbody] at hzero
  | none =>
    rw [hbody] at hzero
    rcases hcode with rfl | rfl <;> cases hzero

/-- Each ordinary fragment is a start code of three or four bytes and a body in which none begins,
and no zero ends such a body where the next piece begins with a start code of three bytes. -/
def KeepsApart (fragments : List Fragment) (pieces : List Bytes) : Prop :=
  ∀ i fragment, fragments[i]? = some fragment → fragment.kind = .ordinary →
    ∃ code body, Nal.IsStartCode code ∧ fragment.data = code ++ body ∧ ¬ Nal.mark <:+: body ∧
      ∀ next, pieces[i + 1]? = some next → Nal.mark <+: next → body.getLast? ≠ some 0

theorem units_of_keepsApart (hpieces : f.Replaces fragments pieces)
    (hapart : KeepsApart fragments pieces) : Nal.units pieces.flatten = pieces := by
  have hpiece (i : Nat) (piece : Bytes) (hi : pieces[i]? = some piece) : Nal.Framed piece ∧
      ∀ next, pieces[i + 1]? = some next → ¬ Nal.TakesZero piece next := by
    obtain ⟨fragment, hfragment, hreplaced⟩ := hpieces.exists_fragment hi
    cases hkind : fragment.kind with
    | parameterSet =>
      obtain ⟨hframed, hlast⟩ := framed_of_parameterSet hkind hreplaced
      exact ⟨hframed, fun next _ htakes => hlast htakes.1⟩
    | ordinary =>
      obtain ⟨code, body, hcode, hdata, hbody, hlast⟩ := hapart i fragment hfragment hkind
      have hsame : piece = code ++ body := by
        simp only [Fixup.piece, hkind, Except.ok.injEq] at hreplaced
        rw [← hreplaced, hdata]
      rw [hsame]
      refine ⟨⟨code, body, hcode, rfl, hbody⟩, fun next hnext htakes => ?_⟩
      exact hlast next hnext htakes.2 (getLast?_startCode_append hcode htakes.1)
  have hframed : ∀ piece ∈ pieces, Nal.Framed piece := by
    intro piece hmem
    obtain ⟨i, hi⟩ := List.mem_iff_getElem?.mp hmem
    exact (hpiece i piece hi).1
  refine Nal.units_flatten hframed (List.isChain_iff_getElem.mpr fun i hi => ?_)
  exact (hpiece i _ (List.getElem?_eq_getElem _)).2 _ (List.getElem?_eq_getElem hi)

/-- A unit that is accepted is its pieces joined, and cutting it gives them back. -/
theorem units_assemble (h : (a.assemble f u).1 = .ok out) :
    ∃ pieces, f.Replaces u.fragments pieces ∧ out = pieces.flatten ∧
      (KeepsApart u.fragments pieces → Nal.units out = pieces) := by
  obtain ⟨-, pieces, hpieces, -, rfl⟩ := assemble_eq_ok.mp h
  exact ⟨pieces, hpieces, rfl, units_of_keepsApart hpieces⟩

/-- A refresh picture: a parameter set, a unit with the short start code, and a slice that ends in a
zero before a unit with the long one. -/
def refreshUnit : DecodeUnit :=
  .ofFragments 0 .refresh [⟨.parameterSet, [0, 0, 1, 0x67, 66, 0, 30, 218, 11, 19, 27]⟩,
    ⟨.ordinary, [0, 0, 1, 0x68, 0xCE]⟩, ⟨.ordinary, [0, 0, 0, 1, 0x65, 0x88, 0]⟩,
    ⟨.ordinary, [0, 0, 0, 1, 0x0C]⟩]

def refreshPieces : List Bytes :=
  [[0, 0, 0, 1, 0x67, 66, 0, 30, 218, 11, 19, 32, 27, 65, 16, 141, 64], [0, 0, 1, 0x68, 0xCE],
    [0, 0, 0, 1, 0x65, 0x88, 0], [0, 0, 0, 1, 0x0C]]

theorem keepsApart_refresh : KeepsApart refreshUnit.fragments refreshPieces := by
  intro i fragment hfragment hkind
  match i with
  | 0 =>
    cases hfragment
    cases hkind
  | 1 =>
    cases hfragment
    exact ⟨Nal.mark, [0x68, 0xCE], .inl rfl, rfl, by decide, fun _ _ _ => by decide⟩
  | 2 =>
    cases hfragment
    refine ⟨Nal.startCode, [0x65, 0x88, 0], .inr rfl, rfl, by decide, ?_⟩
    rintro next hnext hmark
    cases hnext
    exact absurd hmark (by decide)
  | 3 =>
    cases hfragment
    exact ⟨Nal.startCode, [0x0C], .inr rfl, rfl, by decide, nofun⟩
  | i + 4 => cases hfragment

theorem units_assemble_refresh :
    (assemble { capacity := 64 } { width := 176, height := 144 } refreshUnit).1 =
        .ok refreshPieces.flatten ∧
      Nal.units refreshPieces.flatten = refreshPieces := by
  have hassemble : (assemble { capacity := 64 } { width := 176, height := 144 } refreshUnit).1 =
      .ok refreshPieces.flatten := by decide +kernel
  refine ⟨hassemble, ?_⟩
  obtain ⟨pieces, hpieces, -, hunits⟩ := units_assemble hassemble
  have hadapted : Fixup.Replaces { width := 176, height := 144 } refreshUnit.fragments
      refreshPieces :=
    .cons (by decide +kernel) (.cons rfl (.cons rfl (.cons rfl .nil)))
  have hunits := hunits (hpieces.eq hadapted ▸ keepsApart_refresh)
  rwa [hpieces.eq hadapted] at hunits

end Assembler
end AvcPipeline
