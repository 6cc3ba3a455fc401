import AvcPipeline.ParameterSet.Writer
import AvcPipeline.Proofs.ParameterSet.WellFormed

/-!
# Words in a bit string

`Spells w r r'` says that the word `w` can be written and lies between `r` and `r'`. Each way of
building readers from readers matches a way of building words from words: if the parts are read
exactly where their words lie, so is the whole.
-/

namespace AvcPipeline

open Bits

namespace ParameterSet

variable {α β : Type} {r r' r'' : Reader}

def Spells (word : Word) (r r' : Reader) : Prop :=
  ∃ bits, word = .ok bits ∧ Consumes r bits r'

/-! ## Words one after the other -/

theorem spells_ok {bits : List Bool} : Spells (.ok bits) r r' ↔ Consumes r bits r' := by
  simp [Spells]

theorem spells_join_nil : Spells (.join []) r r' ↔ r = r' := by
  rw [Word.join, spells_ok, consumes_nil]

theorem join_cons_eq_ok {word : Word} {words : List Word} {bits : List Bool} :
    Word.join (word :: words) = .ok bits ↔
      ∃ front back, word = .ok front ∧ Word.join words = .ok back ∧ bits = front ++ back := by
  cases hword : word with
  | error e => simp [Word.join, bind, Except.bind]
  | ok front =>
    cases hwords : Word.join words with
    | error e => simp [Word.join, bind, Except.bind, hwords]
    | ok back => simp [Word.join, bind, Except.bind, pure, Except.pure, hwords, eq_comm]

theorem spells_join_cons {word : Word} {words : List Word} :
    Spells (.join (word :: words)) r r'' ↔
      ∃ r', Spells word r r' ∧ Spells (.join words) r' r'' := by
  constructor
  · rintro ⟨bits, hbits, hread⟩
    obtain ⟨front, back, hfront, hback, rfl⟩ := join_cons_eq_ok.mp hbits
    obtain ⟨r', hfront', hback'⟩ := consumes_append.mp hread
    exact ⟨r', ⟨front, hfront, hfront'⟩, back, hback, hback'⟩
  · rintro ⟨r', ⟨front, hfront, hfront'⟩, back, hback, hback'⟩
    exact ⟨front ++ back, join_cons_eq_ok.mpr ⟨front, back, hfront, hback, rfl⟩,
      consumes_append.mpr ⟨r', hfront', hback'⟩⟩

theorem field_eq_ok {width value : Nat} {bits : List Bool} (h : 0 < width) :
    Word.field width value = .ok bits ↔ value < 2 ^ width ∧ toBits width value = bits := by
  simp only [Word.field, fieldWord, Nat.one_shiftLeft, h.ne', false_or]
  by_cases hfits : value < 2 ^ width
  · rw [if_pos hfits, and_iff_right hfits, Except.ok.injEq]
  · rw [if_neg hfits]
    exact iff_of_false nofun (fun hbits => hfits hbits.1)

theorem spells_field {width value : Nat} (h : 0 < width) :
    Spells (.field width value) r r' ↔
      value < 2 ^ width ∧ Consumes r (toBits width value) r' := by
  simp only [Spells, field_eq_ok h]
  constructor
  · rintro ⟨_, ⟨hfits, rfl⟩, hread⟩
    exact ⟨hfits, hread⟩
  · rintro ⟨hfits, hread⟩
    exact ⟨_, ⟨hfits, rfl⟩, hread⟩

/-! ## Single elements -/

theorem reads_lift {x : Bits.ReadM α} {a : α} :
    Reads (liftM x : ParameterSet.ReadM α) r a r' ↔ Reads x r a r' := by
  change EStateM.adaptExcept Error.bits x r = .ok a r' ↔ x r = .ok a r'
  unfold EStateM.adaptExcept
  cases x r <;> simp

theorem reads_flag {bit : Bool} : Reads readFlag r bit r' ↔ Spells (.flag bit) r r' := by
  rw [readFlag, Word.flag, spells_ok, ← reads_readBit]
  exact reads_lift

theorem reads_number {value : UInt32} :
    Reads readNumber r value r' ↔ value ≠ unreadable ∧ Spells (.ue value) r r' := by
  rw [readNumber, Word.ue, spells_ok, ← reads_readUe]
  exact reads_lift

theorem reads_signed {value : Int32} :
    Reads readSigned r value r' ↔ value ≠ Int32.minValue ∧ Spells (.se value) r r' := by
  rw [readSigned, Word.se, spells_ok, ← reads_readSe]
  exact reads_lift

theorem reads_field {width : Nat} {ofNat : Nat → α} {toNat : α → Nat} {value : α}
    (hwidth : 0 < width) (hto : ∀ n < 2 ^ width, toNat (ofNat n) = n)
    (hof : ∀ a, ofNat (toNat a) = a) :
    Reads (do return ofNat (← Bits.readField width) : ParameterSet.ReadM α) r value r' ↔
      toNat value < 2 ^ width ∧ Spells (.field width (toNat value)) r r' := by
  rw [spells_field hwidth, ← and_assoc, and_self, ← reads_readField]
  constructor
  · intro h
    obtain ⟨n, r₁, hread, hvalue⟩ := reads_bind.mp h
    obtain ⟨rfl, rfl⟩ := reads_pure.mp hvalue
    have hfield := reads_lift.mp hread
    rwa [hto n (reads_readField.mp hfield).1]
  · intro h
    exact reads_bind.mpr ⟨_, r', reads_lift.mpr h, reads_pure.mpr ⟨hof value, rfl⟩⟩

theorem reads_byte {width : Nat} {value : UInt8} (hpos : 0 < width) (hwidth : width ≤ 8) :
    Reads (readByte width) r value r' ↔
      value.toNat < 2 ^ width ∧ Spells (.field width value.toNat) r r' := by
  refine reads_field hpos (fun n hn => ?_) (fun _ => UInt8.ofNat_toNat)
  exact UInt8.toNat_ofNat_of_lt' (hn.trans_le (Nat.pow_le_pow_right (by decide) hwidth))

theorem reads_octet {value : UInt8} :
    Reads (readByte 8) r value r' ↔ Spells (.field 8 value.toNat) r r' := by
  rw [reads_byte (by decide) le_rfl, and_iff_right value.toNat_lt]

theorem reads_short {value : UInt16} :
    Reads readShort r value r' ↔ Spells (.field 16 value.toNat) r r' := by
  have h : Reads readShort r value r' ↔
      value.toNat < 2 ^ 16 ∧ Spells (.field 16 value.toNat) r r' :=
    reads_field (by decide) (fun n hn => UInt16.toNat_ofNat_of_lt' hn)
      (fun _ => UInt16.ofNat_toNat)
  rwa [and_iff_right value.toNat_lt] at h

theorem reads_long {value : UInt32} :
    Reads readLong r value r' ↔ Spells (.field 32 value.toNat) r r' := by
  have h : Reads readLong r value r' ↔
      value.toNat < 2 ^ 32 ∧ Spells (.field 32 value.toNat) r r' :=
    reads_field (by decide) (fun n hn => UInt32.toNat_ofNat_of_lt' hn)
      (fun _ => UInt32.ofNat_toNat)
  rwa [and_iff_right value.toNat_lt] at h

theorem reads_demand {holds : Bool} {e : Error} {u : Unit} :
    Reads (demand holds e) r u r' ↔ holds = true ∧ r = r' := by
  cases holds with
  | true => simp only [demand, if_true, reads_pure, true_and]
  | false => exact iff_of_false nofun nofun

/-! ## Conditions, options and repetitions -/

theorem reads_if {read : ReadM α} {valid : α → Prop} {word : α → Word}
    (hread : ∀ {r r' a}, Reads read r a r' ↔ valid a ∧ Spells (word a) r r')
    {present : Bool} {absent a : α} :
    Reads (readIf present absent read) r a r' ↔
      ((present = true → valid a) ∧ (present = false → a = absent)) ∧
        Spells (.onlyIf present (word a)) r r' := by
  cases present with
  | true => simp [readIf, Word.onlyIf, hread]
  | false => simp [readIf, Word.onlyIf, reads_pure, spells_ok, consumes_nil, eq_comm]

theorem reads_flagIf {present bit : Bool} :
    Reads (readIf present false readFlag) r bit r' ↔
      (present = false → bit = false) ∧ Spells (.onlyIf present (.flag bit)) r r' := by
  cases present with
  | true => simp [readIf, Word.onlyIf, reads_flag]
  | false => simp [readIf, Word.onlyIf, reads_pure, spells_ok, consumes_nil, eq_comm]

theorem reads_optional {read : ReadM α} {valid : α → Prop} {word : α → Word}
    (hread : ∀ {r r' a}, Reads read r a r' ↔ valid a ∧ Spells (word a) r r') {group : Option α} :
    Reads (readOptional read) r group r' ↔
      (∀ a ∈ group, valid a) ∧ Spells (.optional word group) r r' := by
  simp only [readOptional, reads_bind, reads_flag]
  constructor
  · rintro ⟨bit, r₁, hbit, hrest⟩
    cases bit with
    | false =>
      obtain ⟨rfl, rfl⟩ := reads_pure.mp hrest
      exact ⟨nofun, hbit⟩
    | true =>
      rw [if_pos rfl, reads_bind] at hrest
      obtain ⟨a, r₂, ha, hlast⟩ := hrest
      obtain ⟨rfl, rfl⟩ := reads_pure.mp hlast
      obtain ⟨hvalid, hword⟩ := hread.mp ha
      refine ⟨fun b hb => Option.some.inj hb ▸ hvalid, ?_⟩
      exact spells_join_cons.mpr ⟨r₁, hbit, spells_join_cons.mpr
        ⟨r₂, hword, spells_join_nil.mpr rfl⟩⟩
  · rintro ⟨hvalid, hword⟩
    cases group with
    | none => exact ⟨false, r', hword, reads_pure.mpr ⟨rfl, rfl⟩⟩
    | some a =>
      obtain ⟨r₁, hbit, hrest⟩ := spells_join_cons.mp hword
      obtain ⟨r₂, ha, hnil⟩ := spells_join_cons.mp hrest
      obtain rfl := spells_join_nil.mp hnil
      refine ⟨true, r₁, hbit, reads_bind.mpr ⟨a, r₂, ?_, reads_pure.mpr ⟨rfl, rfl⟩⟩⟩
      exact hread.mpr ⟨hvalid a rfl, ha⟩

theorem reads_times {item : ReadM α} {valid : α → Prop} {word : α → Word}
    (hitem : ∀ {r r' a}, Reads item r a r' ↔ valid a ∧ Spells (word a) r r')
    {count : Nat} {list : List α} :
    Reads (readTimes item count) r list r' ↔
      list.length = count ∧ (∀ a ∈ list, valid a) ∧ Spells (.join (list.map word)) r r' := by
  induction count generalizing r r' list with
  | zero =>
    rw [readTimes, reads_pure]
    constructor
    · rintro ⟨rfl, rfl⟩
      exact ⟨rfl, nofun, spells_join_nil.mpr rfl⟩
    · rintro ⟨hlength, -, hword⟩
      obtain rfl := List.eq_nil_of_length_eq_zero hlength
      exact ⟨rfl, spells_join_nil.mp hword⟩
  | succ count ih =>
    simp only [readTimes, reads_bind, hitem, ih, reads_pure]
    constructor
    · rintro ⟨a, r₁, ⟨ha, hfirst⟩, rest, r₂, ⟨hlength, hvalid, hrest⟩, rfl, rfl⟩
      refine ⟨congrArg (· + 1) hlength, ?_, spells_join_cons.mpr ⟨r₁, hfirst, hrest⟩⟩
      exact List.forall_mem_cons.mpr ⟨ha, hvalid⟩
    · rintro ⟨hlength, hvalid, hword⟩
      cases list with
      | nil => cases hlength
      | cons a rest =>
        obtain ⟨r₁, hfirst, hrest⟩ := spells_join_cons.mp hword
        obtain ⟨ha, hvalid⟩ := List.forall_mem_cons.mp hvalid
        exact ⟨a, r₁, ⟨ha, hfirst⟩, rest, r', ⟨Nat.succ.inj hlength, hvalid, hrest⟩, rfl, rfl⟩

theorem exists_and_left_comm {p : Reader → Prop} {q : Reader → Prop} {b : Prop} :
    (∃ r, p r ∧ b ∧ q r) ↔ b ∧ ∃ r, p r ∧ q r := by
  constructor
  · rintro ⟨r, hp, hb, hq⟩
    exact ⟨hb, r, hp, hq⟩
  · rintro ⟨hb, r, hp, hq⟩
    exact ⟨r, hp, hb, hq⟩

end ParameterSet

end AvcPipeline
