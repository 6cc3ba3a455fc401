import AvcPipeline.Bits.Writer
import AvcPipeline.Proofs.CodeWords

/-!
# Rows of syntax elements

Elements of any kinds are written one behind the other, so that a code may start at any offset in a
byte. Read back by their kinds alone they give the same values, and reader and writer stand at the
same position after each of them. In the other direction, an exponential Golomb code that was read
anywhere has consumed just the word that would be written for its value, and every number that came
up on the way was in the range of its type.
-/

namespace AvcPipeline.Bits

inductive Element where
  | bit
  /-- A field of `width` bits in a number type of `capacity` bits. -/
  | field (capacity width : Nat)
  | ue
  | se
  deriving DecidableEq, Repr

namespace Element

abbrev Value : Element → Type
  | .bit => Bool
  | .field _ _ => Nat
  | .ue => UInt32
  | .se => Int32

/-- The values that an element can hold. The two exceptions among the codes are the value whose code
is one bit too long and the one that shares the word of zero. -/
def Fits : (e : Element) → e.Value → Prop
  | .bit, _ => True
  | .field capacity width, value => width ≤ capacity ∧ value < 2 ^ width
  | .ue, value => value.toNat ≤ 2 ^ 32 - 2
  | .se, value => -(2 ^ 31 - 1) ≤ value.toInt

def word : (e : Element) → e.Value → List Bool
  | .bit, value => [value]
  | .field _ width, value => toBits width value
  | .ue, value => ueWord value
  | .se, value => seWord value

def read : (e : Element) → ReadM e.Value
  | .bit => readBit
  | .field capacity width => readFieldInto capacity width
  | .ue => readUe
  | .se => readSe

end Element

abbrev Item := (e : Element) × e.Value

namespace Writer

def put (w : Writer) : Item → Except WriteError Unit × Writer
  | ⟨.bit, value⟩ => (.ok (), w.putBit value)
  | ⟨.field capacity width, value⟩ => w.putField capacity width value
  | ⟨.ue, value⟩ => (.ok (), w.putUe value)
  | ⟨.se, value⟩ => (.ok (), w.putSe value)

/-- Writes the items in order. The outcome of each comes with the position after it. -/
def putAll (w : Writer) : List Item → List (Except WriteError Unit × Nat) × Writer
  | [] => ([], w)
  | item :: items =>
    let (outcome, w) := w.put item
    let (outcomes, last) := putAll w items
    ((outcome, w.position) :: outcomes, last)

end Writer

/-- Reads elements in order. The value of each comes with the position after it. -/
def readAll : List Element → ReadM (List (Item × Nat))
  | [] => return []
  | e :: elements => do
    let value ← e.read
    let behind ← position
    let items ← readAll elements
    return (⟨e, value⟩, behind) :: items

variable {r r' : Reader}

theorem reads_readFieldInto {capacity width value : Nat} :
    Reads (readFieldInto capacity width) r value r' ↔
      width ≤ capacity ∧ Reads (readField width) r value r' := by
  unfold Reads readFieldInto
  by_cases h : capacity < width
  · rw [if_pos h]
    simp [Nat.not_le.mpr h]
  · rw [if_neg h]
    simp [Nat.not_lt.mp h]

theorem le_iff_ne_unreadable {value : UInt32} : value.toNat ≤ 2 ^ 32 - 2 ↔ value ≠ unreadable := by
  rw [ne_unreadable_iff]
  omega

theorem le_iff_ne_minValue {value : Int32} :
    -(2 ^ 31 - 1) ≤ value.toInt ↔ value ≠ Int32.minValue := by
  have hlow := value.le_toInt
  have hmin : value = Int32.minValue ↔ value.toInt = -2 ^ 31 := by
    rw [← Int32.toInt_inj, Int32.toInt_minValue]
  rw [Ne, hmin]
  omega

theorem reads_element {e : Element} {value : e.Value} :
    Reads e.read r value r' ↔ e.Fits value ∧ Consumes r (e.word value) r' := by
  cases e with
  | bit => exact reads_readBit.trans (iff_of_eq (true_and _)).symm
  | field capacity width =>
    exact reads_readFieldInto.trans
      ((and_congr_right fun _ => reads_readField).trans and_assoc.symm)
  | ue => exact reads_readUe.trans (and_congr_left fun _ => le_iff_ne_unreadable.symm)
  | se => exact reads_readSe.trans (and_congr_left fun _ => le_iff_ne_minValue.symm)

theorem put_eq {e : Element} {value : e.Value} (h : e.Fits value) (w : Writer) :
    w.put ⟨e, value⟩ = (.ok (), w.append (e.word value)) := by
  cases e with
  | bit => rfl
  | field capacity width =>
    obtain ⟨hwidth, hvalue⟩ := h
    have hword : fieldWord width value = .ok (toBits width value) :=
      if_pos (.inr (by rwa [Nat.one_shiftLeft]))
    change w.putField capacity width value = _
    rw [Writer.putField, if_neg (Nat.not_lt.mpr hwidth), hword]
    rfl
  | ue => rfl
  | se => rfl

theorem append_append (w : Writer) (word more : List Bool) :
    (w.append word).append more = w.append (word ++ more) := by
  simp only [Writer.append, List.append_assoc, List.length_append, Nat.add_assoc]

theorem reads_position {count : Nat} :
    Reads position r count r' ↔ r.position = count ∧ r = r' :=
  reads_pure (a := r.position)

def words (items : List Item) : List Bool :=
  items.flatMap fun item => item.1.word item.2

/-- A row of items that fit is written word by word, and read back where its words lie ahead. The
positions after each item are the same if reader and writer start at the same one. -/
theorem reads_readAll {items : List Item} (h : ∀ item ∈ items, item.1.Fits item.2) {w : Writer}
    (hstart : r.position = w.position) (hwords : Consumes r (words items) r') :
    ∃ positions, w.putAll items = (positions.map (.ok (), ·), w.append (words items)) ∧
      Reads (readAll (items.map Sigma.fst)) r (items.zip positions) r' := by
  induction items generalizing r w with
  | nil =>
    refine ⟨[], ?_, ?_⟩
    · simp only [Writer.putAll, Writer.append, words, List.flatMap_nil, List.append_nil,
        List.length_nil, Nat.add_zero, List.map_nil]
    · exact reads_pure.mpr ⟨rfl, consumes_nil.mp hwords⟩
  | cons item items ih =>
    obtain ⟨e, value⟩ := item
    rw [List.forall_mem_cons] at h
    obtain ⟨hfits, hrest⟩ := h
    obtain ⟨r₁, hfirst, hwords⟩ := consumes_append.mp hwords
    have hbehind : r₁.position = (w.append (e.word value)).position := by
      rw [hfirst.2, hstart]
      rfl
    obtain ⟨positions, hput, hread⟩ := ih hrest hbehind hwords
    refine ⟨r₁.position :: positions, ?_, ?_⟩
    · rw [Writer.putAll, put_eq hfits]
      dsimp only
      rw [hput, hbehind, append_append]
      rfl
    · refine reads_bind.mpr ⟨value, r₁, reads_element.mpr ⟨hfits, hfirst⟩, ?_⟩
      refine reads_bind.mpr ⟨r₁.position, r₁, reads_position.mpr ⟨rfl, rfl⟩, ?_⟩
      exact reads_bind.mpr ⟨items.zip positions, r', hread, reads_pure.mpr ⟨rfl, rfl⟩⟩

/-- The bytes of a writer hold its bits, and zeros up to the next byte. -/
theorem consumes_toBytes (word more : List Bool) :
    ∃ fill, Consumes (Reader.ofBytes ((Writer.empty.append word).append more).toBytes) word
      ⟨more ++ List.replicate fill false, word.length⟩ := by
  refine ⟨(8 - (word ++ more).length % 8) % 8, ?_, (Nat.zero_add _).symm⟩
  rw [append_append]
  change unpack (pack (word ++ more)) = _
  rw [unpack_pack, List.append_assoc]

/-! ## Codes at any offset -/

/-- Between the two readers lies what this is to write. -/
def Rewrites (r r' : Reader) (put : Writer → Writer) : Prop :=
  ∃ bits, Consumes r bits r' ∧ ∀ w, put w = w.append bits

/-- An unsigned code is made up of at most 31 zeros and of a suffix of as many bits. So neither the
power of two nor the sum leaves 32 bits. -/
theorem exists_suffix_of_readUe {value : UInt32} (h : Reads readUe r value r') :
    ∃ zeros suffix mid, Reads (readZeros (maxCodeZeros + 1)) r zeros mid ∧
      Reads (readField zeros) mid suffix r' ∧ zeros ≤ 31 ∧
      value.toNat = 1 <<< zeros - 1 + suffix := by
  unfold readUe at h
  obtain ⟨zeros, mid, hzeros, h⟩ := reads_bind.mp h
  obtain ⟨suffix, r₂, hsuffix, h⟩ := reads_bind.mp h
  obtain ⟨hvalue, rfl⟩ := reads_pure.mp h
  have hmost : zeros ≤ 31 := Nat.le_of_lt_succ (reads_readZeros.mp hzeros).1
  have hfield : suffix < 2 ^ zeros := (reads_readField.mp hsuffix).1
  have hpow : 2 ^ zeros ≤ 2 ^ 31 := Nat.pow_le_pow_right (by decide) hmost
  refine ⟨zeros, suffix, mid, hzeros, hsuffix, hmost, ?_⟩
  rw [← hvalue, UInt32.toNat_ofNat', Nat.mod_eq_of_lt]
  rw [Nat.one_shiftLeft]
  omega

theorem exists_code_of_readSe {value : Int32} (h : Reads readSe r value r') :
    ∃ code, Reads readUe r code r' ∧ code.toNat + 1 < 2 ^ 32 ∧
      value.toInt = signedOfCode code.toNat := by
  unfold readSe at h
  obtain ⟨code, r₁, hcode, h⟩ := reads_bind.mp h
  obtain ⟨rfl, rfl⟩ := reads_pure.mp h
  have hlt := ne_unreadable_iff.mp (reads_readUe.mp hcode).1
  exact ⟨code, hcode, hlt, (toInt_ofInt_signedOfCode hlt).1⟩

/-- Items that fit are all written, and read back by their kinds from the bytes of the writer,
whatever was written behind them: the same values, each ending at the same position. A code that is
read at any offset has consumed what is written for its value, and its value is the one that exact
numbers give. -/
theorem items_read_back :
    (∀ items : List Item, (∀ item ∈ items, item.1.Fits item.2) → ∀ more : List Bool,
      let written := Writer.empty.putAll items
      ∃ positions reader fill, written.1 = positions.map (.ok (), ·) ∧
        readAll (items.map Sigma.fst) (.ofBytes (written.2.append more).toBytes) =
          .ok (items.zip positions) reader ∧
        reader.position = written.2.position ∧ reader.ahead = more ++ List.replicate fill false) ∧
    (∀ r value r', readUe r = .ok value r' → Rewrites r r' (·.putUe value) ∧
      ∃ zeros suffix mid, readZeros (maxCodeZeros + 1) r = .ok zeros mid ∧
        readField zeros mid = .ok suffix r' ∧ zeros ≤ 31 ∧
        value.toNat = 1 <<< zeros - 1 + suffix) ∧
    (∀ r value r', readSe r = .ok value r' → Rewrites r r' (·.putSe value) ∧
      ∃ code, readUe r = .ok code r' ∧ code.toNat + 1 < 2 ^ 32 ∧
        value.toInt = signedOfCode code.toNat) := by
  refine ⟨?_, ?_, ?_⟩
  · intro items hfits more written
    obtain ⟨fill, hbytes⟩ := consumes_toBytes (words items) more
    obtain ⟨positions, hput, hread⟩ := reads_readAll hfits (w := .empty) rfl hbytes
    have hwritten : written = (positions.map (.ok (), ·), Writer.empty.append (words items)) := hput
    rw [hwritten]
    exact ⟨positions, _, fill, rfl, hread, (Nat.zero_add _).symm, rfl⟩
  · intro r value r' h
    exact ⟨⟨ueWord value, (reads_readUe.mp h).2, fun _ => rfl⟩, exists_suffix_of_readUe h⟩
  · intro r value r' h
    exact ⟨⟨seWord value, (reads_readSe.mp h).2, fun _ => rfl⟩, exists_code_of_readSe h⟩

/-- The longest codes of either kind, between elements that end inside a byte. -/
theorem items_read_back_longest :
    let items : List Item :=
      [⟨.bit, true⟩, ⟨.ue, 0xFFFFFFFE⟩, ⟨.field 8 3, 5⟩, ⟨.se, -0x7FFFFFFF⟩, ⟨.field 64 0, 0⟩]
    let written := Writer.empty.putAll items
    (∀ item ∈ items, item.1.Fits item.2) ∧
      ∃ reader, readAll (items.map Sigma.fst) (.ofBytes (written.2.append [true]).toBytes) =
        .ok (items.zip [1, 64, 67, 130, 130]) reader ∧ reader.position = 130 := by
  intro items written
  have hfits : ∀ item ∈ items, item.1.Fits item.2 := by
    simp only [items, List.forall_mem_cons, List.not_mem_nil, false_imp_iff, implies_true, and_true,
      Element.Fits]
    decide
  have hoffsets : written.1.map Prod.snd = [1, 64, 67, 130, 130] := by decide +kernel
  have hend : written.2.position = 130 := by decide +kernel
  obtain ⟨positions, reader, -, hwritten, hread, hposition, -⟩ :=
    items_read_back.1 items hfits [true]
  have hpositions : positions = [1, 64, 67, 130, 130] := by
    rw [← hoffsets, hwritten, List.map_map]
    exact (List.map_id positions).symm
  rw [hpositions] at hread
  exact ⟨hfits, reader, hread, hposition.trans hend⟩

end AvcPipeline.Bits
