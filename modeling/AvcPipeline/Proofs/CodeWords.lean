import AvcPipeline.Bits.Reader
import AvcPipeline.Bits.Writer
import AvcPipeline.Proofs.BitStrings

/-!
# Code words and the readers that take them

`Consumes r bits r'` says that `bits` lie ahead of `r` and that `r'` stands right behind them,
`Reads x r a r'` that reading `x` at `r` gives `a` and ends at `r'`. Each kind of syntax element has
one equivalence between the two: an element is read exactly where its code word lies ahead. So no
two words stand for the same value, and a word is never taken for another one.
-/

namespace AvcPipeline.Bits

def Consumes (r : Reader) (bits : List Bool) (r' : Reader) : Prop :=
  r.ahead = bits ++ r'.ahead ∧ r'.position = r.position + bits.length

def Reads {ε α : Type} (x : EStateM ε Reader α) (r : Reader) (a : α) (r' : Reader) : Prop :=
  x r = .ok a r'

variable {ε α β : Type} {r r' r'' : Reader}

theorem consumes_nil : Consumes r [] r' ↔ r = r' := by
  obtain ⟨ahead, position⟩ := r
  obtain ⟨ahead', position'⟩ := r'
  simp [Consumes, eq_comm]

theorem consumes_append {front back : List Bool} :
    Consumes r (front ++ back) r'' ↔ ∃ r', Consumes r front r' ∧ Consumes r' back r'' := by
  constructor
  · rintro ⟨hahead, hposition⟩
    refine ⟨⟨back ++ r''.ahead, r.position + front.length⟩, ⟨?_, rfl⟩, rfl, ?_⟩
    · rw [hahead, List.append_assoc]
    · rw [hposition, List.length_append, Nat.add_assoc]
  · rintro ⟨r', ⟨hfront, hmid⟩, hback, hend⟩
    refine ⟨?_, ?_⟩
    · rw [hfront, hback, List.append_assoc]
    · rw [hend, hmid, List.length_append, Nat.add_assoc]

theorem reads_pure {a b : α} : Reads (pure a : EStateM ε Reader α) r b r' ↔ a = b ∧ r = r' := by
  change EStateM.Result.ok a r = .ok b r' ↔ _
  simp

theorem reads_bind {x : EStateM ε Reader α} {f : α → EStateM ε Reader β} {b : β} :
    Reads (x >>= f) r b r'' ↔ ∃ a r', Reads x r a r' ∧ Reads (f a) r' b r'' := by
  change EStateM.bind x f r = .ok b r'' ↔ ∃ a r', x r = .ok a r' ∧ f a r' = .ok b r''
  cases h : x r <;> simp [EStateM.bind, h]

theorem reads_map {x : EStateM ε Reader α} {f : α → β} {b : β} :
    Reads (f <$> x) r b r' ↔ ∃ a, Reads x r a r' ∧ f a = b := by
  change EStateM.map f x r = .ok b r' ↔ ∃ a, x r = .ok a r' ∧ f a = b
  cases h : x r <;> simp [EStateM.map, h, and_comm]

/-! ## Bits and fields -/

theorem reads_readBit {bit : Bool} : Reads readBit r bit r' ↔ Consumes r [bit] r' := by
  obtain ⟨ahead, position⟩ := r
  obtain ⟨ahead', position'⟩ := r'
  cases ahead with
  | nil => simp [Reads, Consumes, readBit]
  | cons first rest => simp [Reads, Consumes, readBit, eq_comm, and_assoc]

theorem reads_readField {width value : Nat} :
    Reads (readField width) r value r' ↔
      value < 2 ^ width ∧ Consumes r (toBits width value) r' := by
  simp only [Reads, readField]
  by_cases hlength : (r.ahead.take width).length = width
  · rw [if_pos hlength]
    constructor
    · intro h
      injection h with hvalue hreader
      subst hvalue hreader
      refine ⟨?_, ?_, ?_⟩
      · have hlt := ofBits_lt (r.ahead.take width)
        rwa [hlength] at hlt
      · have hbits := toBits_ofBits (r.ahead.take width)
        rw [hlength] at hbits
        rw [hbits, Reader.advance, List.take_append_drop]
      · rw [length_toBits, Reader.advance]
    · rintro ⟨hvalue, hahead, hposition⟩
      have hfront : r.ahead.take width = toBits width value := by
        rw [hahead, List.take_left' (length_toBits width value)]
      have hrest : r.ahead.drop width = r'.ahead := by
        rw [hahead, List.drop_left' (length_toBits width value)]
      rw [length_toBits] at hposition
      rw [hfront, ofBits_toBits, Nat.mod_eq_of_lt hvalue, Reader.advance, hrest, ← hposition]
  · rw [if_neg hlength]
    refine ⟨nofun, ?_⟩
    rintro ⟨-, hahead, -⟩
    rw [hahead, List.take_left' (length_toBits width value), length_toBits] at hlength
    exact absurd rfl hlength

/-! ## Exponential Golomb codes -/

theorem reads_readZeros {budget zeros : Nat} :
    Reads (readZeros budget) r zeros r' ↔
      zeros < budget ∧ Consumes r (List.replicate zeros false ++ [true]) r' := by
  induction budget generalizing r zeros with
  | zero => simp [Reads, readZeros]
  | succ budget ih =>
    simp only [readZeros, reads_bind, reads_readBit]
    constructor
    · rintro ⟨bit, r₁, hbit, hrest⟩
      cases bit with
      | true =>
        obtain ⟨rfl, rfl⟩ := reads_pure.mp hrest
        exact ⟨Nat.succ_pos _, hbit⟩
      | false =>
        rw [if_neg Bool.false_ne_true, reads_bind] at hrest
        obtain ⟨rest, r₂, hrest, hlast⟩ := hrest
        obtain ⟨rfl, rfl⟩ := reads_pure.mp hlast
        obtain ⟨hlt, hword⟩ := ih.mp hrest
        refine ⟨by omega, ?_⟩
        rw [List.replicate_succ, List.cons_append, ← List.singleton_append, consumes_append]
        exact ⟨r₁, hbit, hword⟩
    · rintro ⟨hlt, hword⟩
      cases zeros with
      | zero => exact ⟨true, r', hword, reads_pure.mpr ⟨rfl, rfl⟩⟩
      | succ zeros =>
        rw [List.replicate_succ, List.cons_append, ← List.singleton_append, consumes_append]
          at hword
        obtain ⟨r₁, hbit, hrest⟩ := hword
        exact ⟨false, r₁, hbit, reads_bind.mpr
          ⟨zeros, r', ih.mpr ⟨by omega, hrest⟩, reads_pure.mpr ⟨rfl, rfl⟩⟩⟩

/-- A code of `zeros + 1` bits is its leading one followed by what it exceeds `2 ^ zeros` by. -/
theorem toBits_succ_of_log2 {zeros code : Nat} (h : code.log2 = zeros) (hcode : code ≠ 0) :
    toBits (zeros + 1) code = true :: toBits zeros (code - 2 ^ zeros) := by
  obtain ⟨hlow, hhigh⟩ := (Nat.log2_eq_iff hcode).mp h
  have hquotient : code / 2 ^ zeros = 1 := by
    rw [Nat.div_eq_iff (Nat.two_pow_pos _)]
    rw [Nat.pow_succ] at hhigh
    omega
  have hmod : code % 2 ^ zeros = code - 2 ^ zeros := by
    rw [Nat.mod_eq_sub, hquotient, Nat.mul_one]
  rw [toBits, Nat.testBit_eq_decide_div_mod_eq, hquotient, ← hmod, toBits_mod le_rfl]
  rfl

theorem succ_toNat_ne_zero (value : UInt32) : value.toNat + 1 ≠ 0 := by omega

theorem ueWord_eq {value : UInt32} {zeros : Nat} (h : (value.toNat + 1).log2 = zeros) :
    ueWord value = List.replicate zeros false ++ [true] ++
      toBits zeros (value.toNat + 1 - 2 ^ zeros) := by
  rw [ueWord, h, Nat.add_sub_cancel, toBits_succ_of_log2 h (succ_toNat_ne_zero value),
    List.append_assoc, List.singleton_append]

/-- The largest value of 32 bits, whose code is one bit too long to be read. -/
def unreadable : UInt32 := 0xFFFFFFFF

theorem ne_unreadable_iff {value : UInt32} : value ≠ unreadable ↔ value.toNat + 1 < 2 ^ 32 := by
  have hlt := value.toNat_lt
  rw [Ne, ← UInt32.toNat_inj, show unreadable.toNat = 2 ^ 32 - 1 from rfl]
  omega

theorem ne_unreadable_of_le {value bound : UInt32} (h : value ≤ bound)
    (hbound : bound < unreadable) : value ≠ unreadable := by
  rintro rfl
  exact absurd hbound (UInt32.not_lt.mpr h)

theorem length_ueWord (value : UInt32) :
    (ueWord value).length = 2 * (value.toNat + 1).log2 + 1 := by
  rw [ueWord_eq rfl, List.length_append, List.length_append, List.length_replicate,
    length_toBits, List.length_singleton]
  omega

theorem length_ueWord_le {value : UInt32} (h : value ≠ unreadable) :
    (ueWord value).length ≤ 63 := by
  have hlog : (value.toNat + 1).log2 < 32 :=
    (Nat.log2_lt (succ_toNat_ne_zero value)).mpr (ne_unreadable_iff.mp h)
  rw [length_ueWord]
  omega

theorem reads_readUe {value : UInt32} :
    Reads readUe r value r' ↔ value ≠ unreadable ∧ Consumes r (ueWord value) r' := by
  simp only [readUe, reads_bind, reads_readZeros, reads_readField, reads_pure, ne_unreadable_iff,
    Nat.one_shiftLeft]
  constructor
  · rintro ⟨zeros, r₁, ⟨hzeros, hprefix⟩, suffix, r₂, ⟨hsuffix, hword⟩, hvalue, rfl⟩
    have hpow : 2 ^ zeros ≤ 2 ^ maxCodeZeros := Nat.pow_le_pow_right (by decide) (by omega)
    have htoNat : value.toNat = 2 ^ zeros - 1 + suffix := by
      rw [← hvalue, UInt32.toNat_ofNat', Nat.mod_eq_of_lt]
      simp only [maxCodeZeros] at hpow
      omega
    have hpos := Nat.two_pow_pos zeros
    have hcode : value.toNat + 1 = 2 ^ zeros + suffix := by omega
    have hlog : (value.toNat + 1).log2 = zeros := by
      rw [Nat.log2_eq_iff (succ_toNat_ne_zero value), hcode, Nat.pow_succ]
      omega
    refine ⟨?_, ?_⟩
    · simp only [maxCodeZeros] at hpow
      omega
    · rw [ueWord_eq hlog, consumes_append, hcode, Nat.add_sub_cancel_left]
      exact ⟨r₁, hprefix, hword⟩
  · rintro ⟨hlt, hword⟩
    obtain ⟨hlow, hhigh⟩ := (Nat.log2_eq_iff (succ_toNat_ne_zero value)).mp rfl
    rw [ueWord_eq rfl, consumes_append] at hword
    obtain ⟨r₁, hprefix, hsuffix⟩ := hword
    have hzeros : (value.toNat + 1).log2 < maxCodeZeros + 1 :=
      (Nat.log2_lt (succ_toNat_ne_zero value)).mpr hlt
    refine ⟨_, r₁, ⟨hzeros, hprefix⟩, _, r', ⟨?_, hsuffix⟩, ?_, rfl⟩
    · rw [Nat.pow_succ] at hhigh
      omega
    · have hpos := Nat.two_pow_pos (value.toNat + 1).log2
      rw [show 2 ^ (value.toNat + 1).log2 - 1 + (value.toNat + 1 - 2 ^ (value.toNat + 1).log2) =
        value.toNat by omega, UInt32.ofNat_toNat]

theorem signedOfCode_codeOfSigned (value : Int) : signedOfCode (codeOfSigned value) = value := by
  unfold signedOfCode codeOfSigned
  split <;> split <;> omega

theorem codeOfSigned_signedOfCode (code : Nat) : codeOfSigned (signedOfCode code) = code := by
  unfold signedOfCode codeOfSigned
  split <;> split <;> omega

theorem toInt_ofInt_signedOfCode {code : Nat} (h : code + 1 < 2 ^ 32) :
    (Int32.ofInt (signedOfCode code)).toInt = signedOfCode code ∧ -2 ^ 31 < signedOfCode code := by
  have hlow : -2 ^ 31 < signedOfCode code := by
    unfold signedOfCode
    split <;> omega
  have hhigh : signedOfCode code < 2 ^ 31 := by
    unfold signedOfCode
    split <;> omega
  exact ⟨Int32.toInt_ofInt_of_le hlow.le hhigh, hlow⟩

theorem toNat_ofNat_codeOfSigned {value : Int32} (h : value ≠ Int32.minValue) :
    (UInt32.ofNat (codeOfSigned value.toInt)).toNat = codeOfSigned value.toInt ∧
      codeOfSigned value.toInt + 1 < 2 ^ 32 := by
  have hne : value.toInt ≠ -2 ^ 31 := fun heq => h (Int32.toInt.inj heq)
  have hlow := value.le_toInt
  have hhigh := value.toInt_lt
  have hcode : codeOfSigned value.toInt + 1 < 2 ^ 32 := by
    unfold codeOfSigned
    split <;> omega
  exact ⟨UInt32.toNat_ofNat_of_lt' (Nat.lt_of_succ_lt hcode), hcode⟩

/-- The least value shares the word of zero and is never read. -/
theorem reads_readSe {value : Int32} :
    Reads readSe r value r' ↔ value ≠ Int32.minValue ∧ Consumes r (seWord value) r' := by
  simp only [readSe, reads_bind, reads_readUe, reads_pure, ne_unreadable_iff]
  constructor
  · rintro ⟨code, r₁, ⟨hcode, hword⟩, rfl, rfl⟩
    obtain ⟨hvalue, hlow⟩ := toInt_ofInt_signedOfCode hcode
    refine ⟨?_, ?_⟩
    · intro hmin
      rw [hmin, Int32.toInt_minValue] at hvalue
      omega
    · rwa [seWord, hvalue, codeOfSigned_signedOfCode, UInt32.ofNat_toNat]
  · rintro ⟨hmin, hword⟩
    obtain ⟨hcode, hlt⟩ := toNat_ofNat_codeOfSigned hmin
    refine ⟨_, r', ⟨by rwa [hcode], hword⟩, ?_, rfl⟩
    rw [hcode, signedOfCode_codeOfSigned, Int32.ofInt_toInt]

end AvcPipeline.Bits
