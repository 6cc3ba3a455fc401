import AvcPipeline.Device.Simulated
import AvcPipeline.Proofs.Nal.Unit
import Mathlib.Data.List.Chain
import Mathlib.Data.List.Infix

/-!
# Cutting what was joined

A `Framed` unit is a start code and a body in which no start code begins. Every stream is a lead
without a start code and framed units behind it. They are cut again where they were joined, but for
the zero at the end of a unit: a start code of three bytes that follows takes it over. `recut` says
so in general. Where no zero is taken over the units come back as they were, and a zero that is
taken over is never the header byte of a picture.
-/

namespace AvcPipeline.Nal

def mark : Bytes := [0, 0, 1]

def IsStartCode (code : Bytes) : Prop := code = mark ∨ code = startCode

def Framed (unit : Bytes) : Prop :=
  ∃ code body, IsStartCode code ∧ unit = code ++ body ∧ ¬ mark <:+: body

/-- The zero at the end of a unit belongs to the start code of the next one. -/
def TakesZero (unit next : Bytes) : Prop :=
  unit.getLast? = some 0 ∧ mark <+: next

instance (unit next : Bytes) : Decidable (TakesZero unit next) :=
  inferInstanceAs (Decidable (_ ∧ _))

/-- What cutting makes of a unit and of the units joined behind it. -/
def recut (unit : Bytes) : List Bytes → List Bytes
  | [] => [unit]
  | next :: rest =>
    if TakesZero unit next then unit.dropLast :: recut (0 :: next) rest
    else unit :: recut next rest

variable {body piece rest unit next code lead : Bytes} {done pieces : List Bytes} {byte : UInt8}

/-! ## Cutting up to the next mark -/

theorem cutFrom_append (done earlier : List Bytes) (piece stream : Bytes) :
    cutFrom (done ++ earlier) piece stream = earlier.reverse ++ cutFrom done piece stream := by
  fun_induction cutFrom done piece stream with
  | case1 done rest before ih => exact ih
  | case2 done piece rest hpiece ih =>
    rw [cutFrom.eq_2 _ _ _ hpiece]
    exact ih
  | case3 done piece byte rest hbyte ih =>
    rw [cutFrom.eq_3 _ _ _ _ hbyte]
    exact ih
  | case4 done piece =>
    rw [cutFrom, List.reverse_cons, List.reverse_append, List.reverse_cons, List.append_assoc]

theorem cutFrom_eq (done : List Bytes) (piece stream : Bytes) :
    cutFrom done piece stream = done.reverse ++ cutFrom [] piece stream :=
  cutFrom_append [] done piece stream

theorem cutFrom_byte (h : ¬ mark <+: byte :: rest) :
    cutFrom done piece (byte :: rest) = cutFrom done (byte :: piece) rest := by
  apply cutFrom.eq_3
  rintro rest' rfl rfl
  exact h ⟨rest', rfl⟩

theorem lacks_mark_of_cons (h : ¬ mark <:+: byte :: body) : ¬ mark <:+: body :=
  fun hmark => h (hmark.trans (List.suffix_cons byte body).isInfix)

theorem not_mark_append (h : ¬ mark <:+: byte :: body) (rest : Bytes) :
    ¬ mark <+: byte :: (body ++ (mark ++ rest)) := by
  intro hmark
  match body with
  | [] => simp [mark] at hmark
  | [_] => simp [mark] at hmark
  | second :: third :: more =>
    apply h
    obtain ⟨tail, htail⟩ := hmark
    simp only [mark, List.cons_append, List.nil_append, List.cons.injEq] at htail
    obtain ⟨rfl, rfl, rfl, -⟩ := htail
    exact ⟨[], more, rfl⟩

theorem cutFrom_body (h : ¬ mark <:+: body) (rest : Bytes) :
    cutFrom done piece (body ++ (mark ++ rest)) =
      cutFrom done (body.reverse ++ piece) (mark ++ rest) := by
  induction body generalizing piece with
  | nil => rfl
  | cons byte body ih =>
    rw [List.cons_append, cutFrom_byte (not_mark_append h rest), ih (lacks_mark_of_cons h),
      List.reverse_cons, List.append_assoc]
    rfl

theorem cutFrom_last (h : ¬ mark <:+: body) : cutFrom [] piece body = [piece.reverse ++ body] := by
  induction body generalizing piece with
  | nil => rw [cutFrom, List.append_nil]; rfl
  | cons byte body ih =>
    have hfirst : ¬ mark <+: byte :: body := fun hmark => h hmark.isInfix
    rw [cutFrom_byte hfirst, ih (lacks_mark_of_cons h), List.reverse_cons, List.append_assoc]
    rfl

/-- At a mark a zero before it is taken over, and a new piece begins. -/
theorem cutFrom_mark (piece rest : Bytes) :
    cutFrom [] piece (mark ++ rest) =
      if piece.head? = some 0 then piece.tail.reverse :: cutFrom [] [1, 0, 0, 0] rest
      else piece.reverse :: cutFrom [] [1, 0, 0] rest := by
  by_cases hzero : piece.head? = some 0
  · obtain ⟨before, rfl⟩ := List.head?_eq_some_iff.mp hzero
    rw [if_pos hzero]
    exact cutFrom_eq [before.reverse] _ _
  · have hcut : cutFrom [] piece (mark ++ rest) = cutFrom [piece.reverse] [1, 0, 0] rest := by
      apply cutFrom.eq_2
      rintro before rfl
      exact hzero rfl
    rw [if_neg hzero, hcut, cutFrom_eq]
    rfl

/-! ## Cutting what was joined -/

theorem lacks_mark_concat_zero (h : ¬ mark <:+: body) : ¬ mark <:+: body ++ [0] := by
  rintro ⟨before, after, heq⟩
  cases after using List.reverseRecOn with
  | nil =>
    have hlast := congrArg List.getLast? heq
    simp [mark] at hlast
  | append_singleton after byte =>
    rw [← List.append_assoc] at heq
    obtain ⟨heq, -⟩ := List.append_inj' heq rfl
    exact h ⟨before, after, heq⟩

theorem not_mark_startCode (payload : Bytes) : ¬ mark <+: startCode ++ payload := by
  rintro ⟨tail, htail⟩
  cases htail

theorem cutFrom_pieces (hbody : ¬ mark <:+: body) (hpieces : ∀ unit ∈ pieces, Framed unit) :
    cutFrom [] piece (body ++ pieces.flatten) = recut (piece.reverse ++ body) pieces := by
  induction pieces generalizing piece body with
  | nil => rw [List.flatten_nil, List.append_nil, cutFrom_last hbody, recut]
  | cons next rest ih =>
    obtain ⟨code, payload, hcode, rfl, hpayload⟩ := hpieces next List.mem_cons_self
    have hrest : ∀ unit ∈ rest, Framed unit := fun unit h => hpieces unit (List.mem_cons_of_mem _ h)
    have hpiece : piece.reverse ++ body = (body.reverse ++ piece).reverse := by
      rw [List.reverse_append, List.reverse_reverse]
    rw [List.flatten_cons, List.append_assoc, recut, hpiece]
    rcases hcode with rfl | rfl
    · rw [cutFrom_body hbody, cutFrom_mark, ih hpayload hrest, ih hpayload hrest]
      by_cases hzero : (body.reverse ++ piece).head? = some 0
      · have htakes : TakesZero (body.reverse ++ piece).reverse (mark ++ payload) :=
          ⟨List.getLast?_reverse.trans hzero, List.prefix_append _ _⟩
        rw [if_pos hzero, if_pos htakes, List.dropLast_reverse]
        rfl
      · have hkeeps : ¬ TakesZero (body.reverse ++ piece).reverse (mark ++ payload) :=
          fun htakes => hzero (List.getLast?_reverse.symm.trans htakes.1)
        rw [if_neg hzero, if_neg hkeeps]
        rfl
    · -- The zero in front of the mark is the first byte of the start code itself.
      have hjoined : body ++ (startCode ++ (payload ++ rest.flatten)) =
          (body ++ [0]) ++ (mark ++ (payload ++ rest.flatten)) := by
        rw [List.append_assoc]
        rfl
      have hcut : cutFrom [] [1, 0, 0, 0] (payload ++ rest.flatten) =
          recut (startCode ++ payload) rest := ih hpayload hrest
      rw [if_neg fun htakes => not_mark_startCode payload htakes.2, hjoined,
        cutFrom_body (lacks_mark_concat_zero hbody), cutFrom_mark, hcut, List.reverse_concat]
      exact if_pos rfl

theorem units_append (hlead : ¬ mark <:+: lead) (hpieces : ∀ unit ∈ pieces, Framed unit) :
    units (lead ++ pieces.flatten) = (recut lead pieces).tail := by
  rw [units, cutFrom_pieces hlead hpieces]
  rfl

theorem recut_eq (h : (unit :: pieces).IsChain fun unit next => ¬ TakesZero unit next) :
    recut unit pieces = unit :: pieces := by
  induction pieces generalizing unit with
  | nil => rfl
  | cons next rest ih =>
    obtain ⟨hkeeps, hrest⟩ := List.isChain_cons_cons.mp h
    rw [recut, if_neg hkeeps, ih hrest]

theorem lacks_mark_nil : ¬ mark <:+: [] := by decide

/-- Units of which none takes a zero over come back as they were. -/
theorem units_flatten (hpieces : ∀ unit ∈ pieces, Framed unit)
    (hkeeps : pieces.IsChain fun unit next => ¬ TakesZero unit next) :
    units pieces.flatten = pieces := by
  have hall : ([] :: pieces).IsChain fun unit next => ¬ TakesZero unit next := by
    refine List.isChain_cons.mpr ⟨?_, hkeeps⟩
    rintro next - ⟨hzero, -⟩
    cases hzero
  have hunits := units_append lacks_mark_nil hpieces
  rw [recut_eq hall] at hunits
  exact hunits

/-! ## Every stream is joined -/

theorem framed_mark (h : ¬ mark <:+: body) : Framed (mark ++ body) :=
  ⟨mark, body, .inl rfl, rfl, h⟩

theorem exists_pieces (stream : Bytes) :
    ∃ (lead : Bytes) (pieces : List Bytes), stream = lead ++ pieces.flatten ∧ ¬ mark <:+: lead ∧
      ∀ unit ∈ pieces, Framed unit := by
  induction stream with
  | nil => exact ⟨[], [], rfl, lacks_mark_nil, nofun⟩
  | cons byte stream ih =>
    obtain ⟨lead, pieces, rfl, hlead, hpieces⟩ := ih
    by_cases hmark : mark <:+: byte :: lead
    · -- A mark begins at the new byte, since none is in the lead.
      rcases List.infix_cons_iff.mp hmark with ⟨body, hbody⟩ | hlater
      · have hbody' : ¬ mark <:+: body := by
          intro hinfix
          apply hlead
          have hlead' : lead = [0, 1] ++ body := (List.tail_eq_of_cons_eq hbody).symm
          rw [hlead']
          exact hinfix.trans (List.suffix_append _ _).isInfix
        refine ⟨[], (mark ++ body) :: pieces, ?_, lacks_mark_nil, ?_⟩
        · rw [hbody]
          rfl
        · rintro unit (_ | ⟨_, hunit⟩)
          · exact framed_mark hbody'
          · exact hpieces unit hunit
      · exact absurd hlater hlead
    · exact ⟨byte :: lead, pieces, rfl, hmark, hpieces⟩

/-! ## Pictures -/

def isPictureUnit (unit : Bytes) : Bool :=
  match split? unit with
  | .ok (header, _) => header.isPicture
  | .error _ => false

theorem isPictureUnit_of_split {header : Header} {payload : Bytes}
    (h : split? unit = .ok (header, payload)) : isPictureUnit unit = header.isPicture := by
  rw [isPictureUnit, h]

theorem hasPicture_eq (stream : Bytes) :
    Device.hasPicture stream = (units stream).any isPictureUnit :=
  rfl

def isPictureByte (byte : UInt8) : Bool :=
  match Header.ofByte? byte with
  | .ok header => header.isPicture
  | .error _ => false

theorem startCodeLength?_append (hcode : IsStartCode code) (body : Bytes) :
    startCodeLength? (code ++ body) = some code.length := by
  rcases hcode with rfl | rfl <;> rfl

theorem isPictureUnit_eq (hcode : IsStartCode code) (body : Bytes) :
    isPictureUnit (code ++ body) = body.head?.any isPictureByte := by
  rw [isPictureUnit, split?, startCodeLength?_append hcode]
  dsimp only
  rw [List.drop_left]
  cases body with
  | nil => rfl
  | cons byte payload =>
    simp only [List.head?_cons, Option.any_some, isPictureByte]
    cases Header.ofByte? byte <;> rfl

/-- The zero that a unit loses is not the header byte of a picture. -/
theorem framed_dropLast (h : Framed unit) (hzero : unit.getLast? = some 0) :
    Framed unit.dropLast ∧ isPictureUnit unit.dropLast = isPictureUnit unit := by
  obtain ⟨code, body, hcode, rfl, hbody⟩ := h
  cases body using List.reverseRecOn with
  | nil => rcases hcode with rfl | rfl <;> cases hzero
  | append_singleton body last =>
    rw [← List.append_assoc, List.getLast?_concat, Option.some.injEq] at hzero
    have hbody' : ¬ mark <:+: body :=
      fun hmark => hbody (hmark.trans (List.prefix_append body [last]).isInfix)
    rw [← List.append_assoc, List.dropLast_concat, List.append_assoc, isPictureUnit_eq hcode,
      isPictureUnit_eq hcode, hzero]
    refine ⟨⟨code, body, hcode, rfl, hbody'⟩, ?_⟩
    cases body with
    | nil => rfl
    | cons byte body => rfl

theorem framed_cons_zero (h : Framed next) (hmark : mark <+: next) :
    Framed (0 :: next) ∧ isPictureUnit (0 :: next) = isPictureUnit next := by
  obtain ⟨code, body, rfl | rfl, rfl, hbody⟩ := h
  · have hlonger : 0 :: (mark ++ body) = startCode ++ body := rfl
    rw [hlonger, isPictureUnit_eq (.inr rfl), isPictureUnit_eq (.inl rfl)]
    exact ⟨⟨startCode, body, .inr rfl, rfl, hbody⟩, rfl⟩
  · exact absurd hmark (not_mark_startCode body)

theorem recut_keeps (hunit : Framed unit) (hpieces : ∀ piece ∈ pieces, Framed piece) :
    (∀ piece ∈ recut unit pieces, Framed piece) ∧
      (recut unit pieces).any isPictureUnit = (unit :: pieces).any isPictureUnit := by
  induction pieces generalizing unit with
  | nil => exact ⟨by rwa [recut, List.forall_mem_singleton], rfl⟩
  | cons next rest ih =>
    obtain ⟨hnext, hrest⟩ := List.forall_mem_cons.mp hpieces
    rw [recut]
    by_cases htakes : TakesZero unit next
    · obtain ⟨hshorter, hpicture⟩ := framed_dropLast hunit htakes.1
      obtain ⟨hlonger, hpicture'⟩ := framed_cons_zero hnext htakes.2
      obtain ⟨hframed, hany⟩ := ih hlonger hrest
      rw [if_pos htakes, List.any_cons, hany, List.any_cons, hpicture, hpicture']
      exact ⟨List.forall_mem_cons.mpr ⟨hshorter, hframed⟩, rfl⟩
    · obtain ⟨hframed, hany⟩ := ih hnext hrest
      rw [if_neg htakes, List.any_cons, hany]
      exact ⟨List.forall_mem_cons.mpr ⟨hunit, hframed⟩, rfl⟩

/-- What follows the lead is cut as if the lead were not there, but for a zero at its end. -/
theorem units_keeps (hlead : ¬ mark <:+: lead) (hpieces : ∀ piece ∈ pieces, Framed piece) :
    (∀ unit ∈ units (lead ++ pieces.flatten), Framed unit) ∧
      (units (lead ++ pieces.flatten)).any isPictureUnit = pieces.any isPictureUnit := by
  rw [units_append hlead hpieces]
  cases pieces with
  | nil => exact ⟨nofun, rfl⟩
  | cons first rest =>
    obtain ⟨hfirst, hrest⟩ := List.forall_mem_cons.mp hpieces
    rw [recut]
    by_cases htakes : TakesZero lead first
    · obtain ⟨hlonger, hpicture⟩ := framed_cons_zero hfirst htakes.2
      rw [if_pos htakes, List.any_cons, ← hpicture]
      exact recut_keeps hlonger hrest
    · rw [if_neg htakes]
      exact recut_keeps hfirst hrest

theorem framed_of_mem_units {stream : Bytes} (h : unit ∈ units stream) : Framed unit := by
  obtain ⟨lead, pieces, rfl, hlead, hpieces⟩ := exists_pieces stream
  exact (units_keeps hlead hpieces).1 unit h

/-- Joining units and cutting them again loses no picture and makes none. -/
theorem hasPicture_flatten (hpieces : ∀ piece ∈ pieces, Framed piece) :
    Device.hasPicture pieces.flatten = pieces.any isPictureUnit := by
  rw [hasPicture_eq]
  exact (units_keeps lacks_mark_nil hpieces).2

/-! ## Units that are written -/

theorem framed_frame {h : Header} (hbyte : h.toByte ≠ 0) (payload : Bytes) :
    Framed (frame h payload) := by
  refine ⟨startCode, h.toByte :: escape payload, .inr rfl, rfl, ?_⟩
  intro hmark
  rcases List.infix_cons_iff.mp hmark with ⟨tail, htail⟩ | hlater
  · exact hbyte (List.head_eq_of_cons_eq htail).symm
  · exact lacks_mark_escape payload hlater

theorem getLast?_frame {h : Header} (hbyte : h.toByte ≠ 0) {payload : Bytes}
    (hlast : payload.getLast? ≠ some 0) : (frame h payload).getLast? ≠ some 0 := by
  rw [frame, List.getLast?_append, List.getLast?_cons, getLast?_escape]
  cases hpayload : payload.getLast? with
  | none => exact fun hzero => hbyte (Option.some.inj hzero)
  | some byte =>
    rw [hpayload] at hlast
    exact hlast

end AvcPipeline.Nal
