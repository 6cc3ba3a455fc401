import AvcPipeline.Nal.ByteStream
import AvcPipeline.Proofs.Nal.Joining

/-!
# The units are a partition of the stream

A cursor that passes one unit after the other finds the units that cutting gives, since the search
behind a start code stops exactly where the next unit begins. `marks` lists every occurrence of
`00 00 01`; there are as many units, and each stands at its mark.
-/

namespace AvcPipeline.Nal

variable {stream lead body unit next rest : Bytes} {pieces : List Bytes} {position : Nat}
  {byte : UInt8}

theorem Framed.ne_nil (h : Framed unit) : unit ≠ [] := by
  obtain ⟨code, body, rfl | rfl, rfl, -⟩ := h <;> exact List.cons_ne_nil _ _

theorem TakesZero.behind (h : TakesZero body next) (code : Bytes) :
    TakesZero (code ++ body) next := by
  refine ⟨?_, h.2⟩
  rw [List.getLast?_append, h.1]
  rfl

theorem TakesZero.of_append (h : TakesZero (lead ++ unit) next) (hunit : unit ≠ []) :
    TakesZero unit next := by
  refine ⟨?_, h.2⟩
  rw [← List.getLast?_append_of_ne_nil lead hunit]
  exact h.1

/-! ## A cursor finds the units -/

theorem findMark_byte (h : ¬ mark <+: byte :: rest) :
    findMark position (byte :: rest) = findMark (position + 1) rest := by
  apply findMark.eq_2
  rintro rest' rfl rfl
  exact h ⟨rest', rfl⟩

theorem findMark_body (h : ¬ mark <:+: body) (rest : Bytes) :
    findMark position (body ++ (mark ++ rest)) = some (position + body.length) := by
  induction body generalizing position with
  | nil => rfl
  | cons byte body ih =>
    rw [List.cons_append, findMark_byte (not_mark_append h rest), ih (lacks_mark_of_cons h),
      List.length_cons, Nat.add_right_comm]
    rfl

theorem findMark_last (h : ¬ mark <:+: body) : findMark position body = none := by
  induction body generalizing position with
  | nil => rfl
  | cons byte body ih =>
    have hfirst : ¬ mark <+: byte :: body := fun hmark => h hmark.isInfix
    rw [findMark_byte hfirst, ih (lacks_mark_of_cons h)]

theorem getElem?_before {before : Bytes} (h : 0 < before.length) (after : Bytes) :
    (before ++ after)[before.length - 1]? = before.getLast? := by
  rw [List.getElem?_append_left (by omega), List.getLast?_eq_getElem?]

theorem startCode_append (tail : Bytes) : startCode ++ tail = [0] ++ (mark ++ tail) := rfl

/-- The next mark is found, or the zero before it, if that was passed. -/
theorem findStartCode_mark (front : Bytes) (hbody : ¬ mark <:+: body) (rest : Bytes) :
    findStartCode (front ++ (body ++ (mark ++ rest))) front.length =
      some (if body.getLast? = some 0 then (front ++ body).length - 1
        else (front ++ body).length) := by
  have hpassed : front.length < front.length + body.length ∧
      (front ++ (body ++ (mark ++ rest)))[front.length + body.length - 1]? = some 0 ↔
        body.getLast? = some 0 := by
    by_cases hempty : body = []
    · subst hempty
      exact iff_of_false (fun h => Nat.lt_irrefl _ h.1) nofun
    · have hlonger : front.length < front.length + body.length :=
        Nat.lt_add_of_pos_right (List.length_pos_iff.mpr hempty)
      rw [and_iff_right hlonger, ← List.append_assoc, ← List.length_append,
        getElem?_before (by rw [List.length_append]; omega),
        List.getLast?_append_of_ne_nil front hempty]
  rw [findStartCode, List.drop_left, findMark_body hbody, Option.map_some, List.length_append]
  simp only [hpassed]

/-- Behind a start code the body is passed up to where the next unit begins. -/
theorem findStartCode_pieces (front : Bytes) (hbody : ¬ mark <:+: body)
    (hpieces : ∀ unit ∈ pieces, Framed unit)
    (hkeeps : ∀ next ∈ pieces.head?, ¬ TakesZero body next) :
    let stream := front ++ (body ++ pieces.flatten)
    (findStartCode stream front.length).getD stream.length = (front ++ body).length := by
  intro stream
  cases pieces with
  | nil =>
    have hstream : stream = front ++ body := by
      simp only [stream, List.flatten_nil, List.append_nil]
    rw [hstream, findStartCode, List.drop_left, findMark_last hbody]
    rfl
  | cons next rest =>
    obtain ⟨code, payload, hcode, rfl, -⟩ := hpieces next List.mem_cons_self
    rcases hcode with rfl | rfl
    · have hkept : body.getLast? ≠ some 0 := by
        intro hzero
        exact hkeeps _ rfl ⟨hzero, List.prefix_append _ _⟩
      have hstream : stream = front ++ (body ++ (mark ++ (payload ++ rest.flatten))) := by
        simp only [stream, List.flatten_cons, List.append_assoc]
      rw [hstream, findStartCode_mark front hbody, if_neg hkept, Option.getD_some]
    · -- The zero in front of the mark has been passed.
      have hstream : stream = front ++ (body ++ [0] ++ (mark ++ (payload ++ rest.flatten))) := by
        simp only [stream, List.flatten_cons, List.append_assoc, startCode_append]
      rw [hstream, findStartCode_mark front (lacks_mark_concat_zero hbody),
        if_pos List.getLast?_concat, Option.getD_some, ← List.append_assoc, List.length_append,
        List.length_singleton, Nat.add_sub_cancel]

namespace Cursor

theorem next?_eq (front : Bytes) (hpieces : ∀ piece ∈ unit :: pieces, Framed piece)
    (hkeeps : (unit :: pieces).IsChain fun unit next => ¬ TakesZero unit next) :
    let stream := front ++ (unit :: pieces).flatten
    next? ⟨stream, front.length⟩ = some (unit, ⟨stream, (front ++ unit).length⟩) := by
  intro stream
  obtain ⟨⟨code, body, hcode, rfl, hbody⟩, hrest⟩ := List.forall_mem_cons.mp hpieces
  have hstream : stream = (front ++ code) ++ (body ++ pieces.flatten) := by
    simp only [stream, List.flatten_cons, List.append_assoc]
  have hlonger : ¬ stream.length ≤ front.length := by
    have hcode' : 0 < code.length := by rcases hcode with rfl | rfl <;> decide
    simp only [hstream, List.length_append]
    omega
  have hbody' : ∀ next ∈ pieces.head?, ¬ TakesZero body next := by
    intro next hnext htakes
    exact (List.isChain_cons.mp hkeeps).1 next hnext (htakes.behind code)
  have hlength : startCodeLength? (stream.drop front.length) = some code.length := by
    rw [List.drop_left, List.flatten_cons, List.append_assoc, startCodeLength?_append hcode]
  have hstop := findStartCode_pieces (front ++ code) hbody hrest hbody'
  rw [← hstream, List.append_assoc, List.length_append] at hstop
  have hunit : stream.extract front.length (front ++ (code ++ body)).length = code ++ body := by
    rw [List.extract_eq_take_drop, List.drop_left, List.length_append, Nat.add_sub_cancel_left,
      List.flatten_cons, List.take_left]
  simp only [next?, if_neg hlonger, hlength, Option.getD_some, hstop, hunit]

theorem yields_pieces (front : Bytes) (hpieces : ∀ unit ∈ pieces, Framed unit)
    (hkeeps : pieces.IsChain fun unit next => ¬ TakesZero unit next) :
    Yields ⟨front ++ pieces.flatten, front.length⟩ pieces := by
  induction pieces generalizing front with
  | nil =>
    apply Yields.done
    exact if_pos (by rw [List.flatten_nil, List.append_nil])
  | cons unit rest ih =>
    refine .next (next?_eq front hpieces hkeeps) ?_
    have hrest := ih (front ++ unit) (fun piece h => hpieces piece (List.mem_cons_of_mem _ h))
      hkeeps.tail
    rwa [List.append_assoc] at hrest

theorem yields_units (stream : Bytes) : (start stream).Yields (units stream) := by
  obtain ⟨lead, hparted⟩ := parted_units stream
  have hkeeps := List.isChain_cons.mp hparted.keeps
  have hstart : (findStartCode stream 0).getD stream.length = lead.length := by
    rw [hparted.joined]
    exact findStartCode_pieces [] hparted.lacks hparted.framed hkeeps.1
  have hyields := yields_pieces lead hparted.framed hkeeps.2
  rwa [← hparted.joined, ← hstart] at hyields

theorem Yields.unique {c : Cursor} {later : List Bytes} (h : c.Yields pieces)
    (h' : c.Yields later) : pieces = later := by
  induction h generalizing later with
  | done hend =>
    cases h' with
    | done => rfl
    | next hnext => cases hend.symm.trans hnext
  | next hnext _ ih =>
    cases h' with
    | done hend => cases hend.symm.trans hnext
    | next hnext' hrest =>
      cases hnext.symm.trans hnext'
      rw [ih hrest]

theorem yields_iff (stream : Bytes) : (start stream).Yields pieces ↔ units stream = pieces := by
  constructor
  · intro hyields
    exact (yields_units stream).unique hyields
  · rintro rfl
    exact yields_units stream

end Cursor

/-! ## Marks -/

def marks (stream : Bytes) : List Nat :=
  (List.range stream.length).filter fun i => mark <+: stream.drop i

def ZeroBefore (stream : Bytes) (i : Nat) : Prop :=
  0 < i ∧ stream[i - 1]? = some 0

instance (stream : Bytes) (i : Nat) : Decidable (ZeroBefore stream i) :=
  inferInstanceAs (Decidable (_ ∧ _))

/-- Where the start code with the mark at this position begins. -/
def codeStart (stream : Bytes) (i : Nat) : Nat :=
  if ZeroBefore stream i then i - 1 else i

/-- The unit stands where the start code with the mark at `i` begins, and has this start code. -/
structure CutAt (stream : Bytes) (i : Nat) (unit : Bytes) : Prop where
  place : unit <+: stream.drop (codeStart stream i)
  code : startCodeLength? unit = some (if ZeroBefore stream i then 4 else 3)

theorem zeroBefore_iff (before after : Bytes) :
    ZeroBefore (before ++ after) before.length ↔ before.getLast? = some 0 := by
  unfold ZeroBefore
  by_cases hbefore : 0 < before.length
  · rw [getElem?_before hbefore]
    exact and_iff_right hbefore
  · have hnil : before = [] := List.eq_nil_of_length_eq_zero (by omega)
    subst hnil
    exact iff_of_false (fun h => hbefore h.1) nofun

theorem marks_cons (byte : UInt8) (rest : Bytes) :
    marks (byte :: rest) =
      (if mark <+: byte :: rest then [0] else []) ++ (marks rest).map (· + 1) := by
  unfold marks
  rw [List.length_cons, List.range_succ_eq_map, List.filter_cons, List.filter_map]
  simp only [List.drop_zero, decide_eq_true_eq]
  by_cases hmark : mark <+: byte :: rest
  · rw [if_pos hmark, if_pos hmark]
    rfl
  · rw [if_neg hmark, if_neg hmark]
    rfl

theorem marks_of_lacks (h : ¬ mark <:+: body) : marks body = [] := by
  induction body with
  | nil => rfl
  | cons byte body ih =>
    have hfirst : ¬ mark <+: byte :: body := fun hmark => h hmark.isInfix
    rw [marks_cons, if_neg hfirst, ih (lacks_mark_of_cons h)]
    rfl

theorem marks_body (h : ¬ mark <:+: body) (rest : Bytes) :
    marks (body ++ (mark ++ rest)) =
      body.length :: (marks rest).map (· + (body.length + mark.length)) := by
  induction body with
  | nil =>
    have hfirst : mark <+: 0 :: 0 :: 1 :: rest := List.prefix_append mark rest
    have hsecond : ¬ mark <+: 0 :: 1 :: rest := by simp [mark]
    have hthird : ¬ mark <+: 1 :: rest := by simp [mark]
    change marks (0 :: 0 :: 1 :: rest) = _
    rw [marks_cons, if_pos hfirst, marks_cons, if_neg hsecond, marks_cons, if_neg hthird]
    simp only [List.nil_append, List.map_map, List.singleton_append]
    rfl
  | cons byte body ih =>
    rw [List.cons_append, marks_cons, if_neg (not_mark_append h rest), ih (lacks_mark_of_cons h),
      List.nil_append, List.map_cons, List.map_map, List.length_cons]
    congr 2

/-- A unit that takes no zero over begins at its mark, or at the zero that belongs to it. -/
theorem Framed.cutAt {before : Bytes} (h : Framed next) (hkeeps : ¬ TakesZero before next)
    (after : Bytes) :
    let stream := before ++ (next ++ after)
    ∃ zeros payload, next = zeros ++ (mark ++ payload) ∧ ¬ mark <:+: payload ∧
      (∀ body, ¬ mark <:+: body → ¬ mark <:+: body ++ zeros) ∧
      codeStart stream (before ++ zeros).length = before.length ∧
      startCodeLength? next =
        some (if ZeroBefore stream (before ++ zeros).length then 4 else 3) := by
  intro stream
  obtain ⟨code, payload, hcode, rfl, hpayload⟩ := h
  rcases hcode with rfl | rfl
  · have hzero : ¬ ZeroBefore stream before.length := by
      intro hzero
      exact hkeeps ⟨(zeroBefore_iff before _).mp hzero, List.prefix_append _ _⟩
    refine ⟨[], payload, rfl, hpayload, ?_, ?_, ?_⟩
    · intro body hbody
      rwa [List.append_nil]
    · rw [List.append_nil]
      exact if_neg hzero
    · rw [List.append_nil, if_neg hzero]
      rfl
  · have hstream : stream = (before ++ [0]) ++ (mark ++ (payload ++ after)) := by
      simp only [stream, List.append_assoc, startCode_append]
    have hzero : ZeroBefore stream (before ++ [0]).length := by
      rw [hstream, zeroBefore_iff, List.getLast?_concat]
    refine ⟨[0], payload, rfl, hpayload, fun _ => lacks_mark_concat_zero, ?_, ?_⟩
    · rw [codeStart, if_pos hzero, List.length_append, List.length_singleton, Nat.add_sub_cancel]
    · rw [if_pos hzero]
      rfl

theorem marks_unit (front : Bytes) (hbody : ¬ mark <:+: body) (hunit : Framed next)
    (hkeeps : ¬ TakesZero (front ++ body) next) (after : Bytes) :
    let stream := front ++ (body ++ (next ++ after))
    ∃ code payload i, next = code ++ payload ∧ ¬ mark <:+: payload ∧
      codeStart stream (front.length + i) = (front ++ body).length ∧
      CutAt stream (front.length + i) next ∧
      (marks (body ++ (next ++ after))).map (front.length + ·) =
        (front.length + i) ::
          (marks (payload ++ after)).map ((front ++ body ++ code).length + ·) := by
  intro stream
  have hstream : front ++ body ++ (next ++ after) = stream := List.append_assoc _ _ _
  obtain ⟨zeros, payload, hnext, hpayload, hlacks, hstart, hcode⟩ := hunit.cutAt hkeeps after
  have hplace : (front ++ body ++ zeros).length = front.length + (body ++ zeros).length := by
    rw [List.append_assoc, List.length_append]
  have hjoined : body ++ (next ++ after) = body ++ zeros ++ (mark ++ (payload ++ after)) := by
    simp only [hnext, List.append_assoc]
  rw [hstream, hplace] at hstart hcode
  refine ⟨zeros ++ mark, payload, (body ++ zeros).length, ?_, hpayload, hstart, ⟨?_, hcode⟩, ?_⟩
  · rw [hnext, List.append_assoc]
  · rw [hstart, ← hstream, List.drop_left]
    exact List.prefix_append _ _
  · rw [hjoined, marks_body (hlacks body hbody), List.map_cons, List.map_map]
    congr 2
    funext i
    simp only [Function.comp_apply, List.length_append]
    omega

/-- Behind the front the marks are where the units begin, one for one. -/
theorem marks_pieces (front : Bytes) (hbody : ¬ mark <:+: body)
    (hpieces : ∀ unit ∈ pieces, Framed unit)
    (hkeeps : ((front ++ body) :: pieces).IsChain fun unit next => ¬ TakesZero unit next) :
    let stream := front ++ (body ++ pieces.flatten)
    List.Forall₂ (CutAt stream) ((marks (body ++ pieces.flatten)).map (front.length + ·))
      pieces := by
  intro stream
  induction pieces generalizing front body with
  | nil =>
    rw [List.flatten_nil, List.append_nil, marks_of_lacks hbody]
    exact .nil
  | cons next rest ih =>
    obtain ⟨hnext, hrest⟩ := List.forall_mem_cons.mp hpieces
    obtain ⟨hfirst, hlater⟩ := List.isChain_cons_cons.mp hkeeps
    obtain ⟨code, payload, i, hunit, hpayload, -, hcut, hmarks⟩ :=
      marks_unit front hbody hnext hfirst rest.flatten
    have hpassed : front ++ body ++ code ++ payload = front ++ body ++ next := by
      rw [hunit, List.append_assoc _ code]
    have hlonger : ((front ++ body ++ code ++ payload) :: rest).IsChain
        fun unit next => ¬ TakesZero unit next := by
      rw [hpassed]
      refine List.isChain_cons.mpr ⟨?_, hlater.tail⟩
      intro later hmem htakes
      exact (List.isChain_cons.mp hlater).1 later hmem (htakes.of_append hnext.ne_nil)
    have hih := ih (front ++ body ++ code) hpayload hrest hlonger
    have hstream : front ++ body ++ code ++ (payload ++ rest.flatten) = stream := by
      rw [← List.append_assoc, hpassed, List.append_assoc, List.append_assoc]
      rfl
    rw [hstream] at hih
    rw [List.flatten_cons, hmarks]
    exact .cons hcut hih

theorem Parted.lead_length (h : Parted stream lead pieces) :
    ((marks stream).head?.map (codeStart stream)).getD stream.length = lead.length := by
  cases pieces with
  | nil =>
    have hstream : stream = lead := by rw [h.joined, List.flatten_nil, List.append_nil]
    rw [hstream, marks_of_lacks h.lacks]
    rfl
  | cons first rest =>
    obtain ⟨code, payload, i, -, -, hstart, -, hmarks⟩ := marks_unit [] h.lacks
      (h.framed first List.mem_cons_self) (List.isChain_cons_cons.mp h.keeps).1 rest.flatten
    have hstream : lead ++ (first ++ rest.flatten) = stream := h.joined.symm
    simp only [List.nil_append, List.length_nil, Nat.zero_add, List.map_id', hstream]
      at hstart hmarks
    rw [hmarks, List.head?_cons, Option.map_some, Option.getD_some, hstart]

theorem Parted.forall₂_cutAt (h : Parted stream lead pieces) :
    List.Forall₂ (CutAt stream) (marks stream) pieces := by
  have hcut := marks_pieces [] h.lacks h.framed h.keeps
  simpa only [List.length_nil, Nat.zero_add, List.map_id', List.nil_append, ← h.joined] using hcut

/-- What a cursor reads, joined, is the stream from its first start code on. There is a unit for
every mark: it stands where the start code with this mark begins, and has no other mark behind its
start code, which has four bytes where a zero stands before the mark. -/
theorem units_partition (stream : Bytes) :
    (Cursor.start stream).Yields (units stream) ∧
      (units stream).flatten =
        stream.drop (((marks stream).head?.map (codeStart stream)).getD stream.length) ∧
      (∀ unit ∈ units stream, Framed unit) ∧
      (units stream).length = (marks stream).length ∧
      List.Forall₂ (CutAt stream) (marks stream) (units stream) := by
  obtain ⟨lead, hparted⟩ := parted_units stream
  have hcut := hparted.forall₂_cutAt
  have hjoined : stream.drop lead.length = (units stream).flatten := by
    rw [hparted.joined, List.drop_left, ← hparted.joined]
  refine ⟨Cursor.yields_units stream, ?_, hparted.framed, hcut.length_eq.symm, hcut⟩
  rw [hparted.lead_length, hjoined]

end AvcPipeline.Nal
