import AvcPipeline.Proofs.ParameterSet.RoundTrip

/-!
# Parameter sets cut short or continued

A reader that has what it needs looks no further. `Settled` says so: what a reader gives is the
same when more bits follow, and so is the reason why it fails, unless the data ended. It is kept
when readers are put together, so the reader of a parameter set is settled because the readers of
bits and fields are. A payload that is cut before the last element can then only fail because it
ends.
-/

namespace AvcPipeline

open Bits ParameterSet

namespace Bits

def Reader.extend (r : Reader) (more : List Bool) : Reader :=
  ⟨r.ahead ++ more, r.position⟩

def ReadError.AtEnd : ReadError → Prop
  | .endOfData | .fieldCut _ _ | .skipPastEnd => True
  | .fieldTooWide | .codeTooLong _ => False

def Rejects {ε α : Type} (x : EStateM ε Reader α) (r : Reader) (e : ε) (r' : Reader) : Prop :=
  x r = .error e r'

/-- More bits change nothing, except for a failure that says that the data ended. -/
structure Settled {ε α : Type} (atEnd : ε → Prop) (x : EStateM ε Reader α) : Prop where
  reads : ∀ {r r' a}, Reads x r a r' → ∀ more, Reads x (r.extend more) a (r'.extend more)
  rejects : ∀ {r r' e}, Rejects x r e r' → ¬ atEnd e →
    ∀ more, Rejects x (r.extend more) e (r'.extend more)

variable {ε α β : Type} {atEnd : ε → Prop} {r r' r'' : Reader}

theorem Consumes.extend {bits : List Bool} (h : Consumes r bits r') (more : List Bool) :
    Consumes (r.extend more) bits (r'.extend more) := by
  refine ⟨?_, h.2⟩
  change r.ahead ++ more = bits ++ (r'.ahead ++ more)
  rw [h.1, List.append_assoc]

theorem rejects_bind {x : EStateM ε Reader α} {f : α → EStateM ε Reader β} {e : ε} :
    Rejects (x >>= f) r e r'' ↔
      Rejects x r e r'' ∨ ∃ a r', Reads x r a r' ∧ Rejects (f a) r' e r'' := by
  change EStateM.bind x f r = .error e r'' ↔
    x r = .error e r'' ∨ ∃ a r', x r = .ok a r' ∧ f a r' = .error e r''
  cases h : x r <;> simp [EStateM.bind, h]

theorem rejects_map {x : EStateM ε Reader α} {f : α → β} {e : ε} :
    Rejects (f <$> x) r e r' ↔ Rejects x r e r' := by
  change EStateM.map f x r = .error e r' ↔ x r = .error e r'
  cases h : x r <;> simp [EStateM.map, h]

/-! ## Readers put together -/

theorem settled_pure (a : α) : Settled atEnd (pure a : EStateM ε Reader α) where
  reads := by
    intro r r' b h more
    obtain ⟨rfl, rfl⟩ := reads_pure.mp h
    rfl
  rejects := by
    intro r r' e h
    cases h

theorem Settled.bind {x : EStateM ε Reader α} {f : α → EStateM ε Reader β} (hx : Settled atEnd x)
    (hf : ∀ a, Settled atEnd (f a)) : Settled atEnd (x >>= f) where
  reads := by
    intro r r'' b h more
    obtain ⟨a, r', ha, hb⟩ := reads_bind.mp h
    exact reads_bind.mpr ⟨a, r'.extend more, hx.reads ha more, (hf a).reads hb more⟩
  rejects := by
    intro r r'' e h hother more
    rcases rejects_bind.mp h with hfirst | ⟨a, r', ha, hrest⟩
    · exact rejects_bind.mpr (.inl (hx.rejects hfirst hother more))
    · exact rejects_bind.mpr
        (.inr ⟨a, r'.extend more, hx.reads ha more, (hf a).rejects hrest hother more⟩)

theorem Settled.map {x : EStateM ε Reader α} (hx : Settled atEnd x) (f : α → β) :
    Settled atEnd (f <$> x) where
  reads := by
    intro r r' b h more
    obtain ⟨a, ha, hb⟩ := reads_map.mp h
    exact reads_map.mpr ⟨a, hx.reads ha more, hb⟩
  rejects := by
    intro r r' e h hother more
    exact rejects_map.mpr (hx.rejects (rejects_map.mp h) hother more)

theorem settled_ite {p : Prop} [Decidable p] {x y : EStateM ε Reader α} (hx : Settled atEnd x)
    (hy : Settled atEnd y) : Settled atEnd (if p then x else y) := by
  by_cases hp : p
  · rwa [if_pos hp]
  · rwa [if_neg hp]

/-! ## Bits, fields and codes -/

theorem settled_readBit : Settled ReadError.AtEnd readBit where
  reads := by
    intro r r' bit h more
    exact reads_readBit.mpr ((reads_readBit.mp h).extend more)
  rejects := by
    intro r r' e h hother
    obtain ⟨ahead, position⟩ := r
    cases ahead with
    | nil =>
      cases h
      exact absurd trivial hother
    | cons bit rest => cases h

theorem settled_readField (width : Nat) : Settled ReadError.AtEnd (readField width) where
  reads := by
    intro r r' value h more
    obtain ⟨hvalue, hword⟩ := reads_readField.mp h
    exact reads_readField.mpr ⟨hvalue, hword.extend more⟩
  rejects := by
    intro r r' e h hother
    unfold Rejects readField at h
    by_cases hlength : (r.ahead.take width).length = width
    · rw [if_pos hlength] at h
      cases h
    · rw [if_neg hlength] at h
      cases h
      exact absurd trivial hother

/-- A code that is too long is refused before the bits behind its zeros are looked at. -/
theorem settled_readZeros (budget : Nat) : Settled ReadError.AtEnd (readZeros budget) := by
  induction budget with
  | zero =>
    refine ⟨?_, ?_⟩
    · intro r r' zeros h
      cases h
    · intro r r' e h _ more
      cases h
      rfl
  | succ budget ih =>
    exact settled_readBit.bind fun _ =>
      settled_ite (settled_pure 0) (ih.bind fun zeros => settled_pure (zeros + 1))

theorem settled_readUe : Settled ReadError.AtEnd readUe :=
  (settled_readZeros _).bind fun zeros => (settled_readField zeros).bind fun _ => settled_pure _

theorem settled_readSe : Settled ReadError.AtEnd readSe :=
  settled_readUe.bind fun _ => settled_pure _

end Bits

/-! ## Elements of the syntax -/

namespace ParameterSet

variable {α : Type} {read : ReadM α}

def Error.AtEnd : Error → Prop
  | .bits cause => cause.AtEnd
  | _ => False

abbrev Settled (read : ReadM α) : Prop := Bits.Settled Error.AtEnd read

theorem settled_lift {x : Bits.ReadM α} (hx : Bits.Settled ReadError.AtEnd x) :
    Settled (liftM x : ReadM α) where
  reads := by
    intro r r' a h more
    exact reads_lift.mpr (hx.reads (reads_lift.mp h) more)
  rejects := by
    intro r r' e h hother more
    change EStateM.adaptExcept Error.bits x r = .error e r' at h
    change EStateM.adaptExcept Error.bits x (r.extend more) = .error e (r'.extend more)
    unfold EStateM.adaptExcept at h ⊢
    cases hread : x r with
    | ok a r₁ =>
      rw [hread] at h
      cases h
    | error cause r₁ =>
      rw [hread] at h
      cases h
      have hmore : x (r.extend more) = .error cause (r'.extend more) := hx.rejects hread hother more
      rw [hmore]

theorem settled_flag : Settled readFlag := settled_lift settled_readBit

theorem settled_number : Settled readNumber := settled_lift settled_readUe

theorem settled_signed : Settled readSigned := settled_lift settled_readSe

theorem settled_byte (width : Nat) : Settled (readByte width) :=
  (settled_lift (settled_readField width)).bind fun _ => settled_pure _

theorem settled_short : Settled readShort :=
  (settled_lift (settled_readField 16)).bind fun _ => settled_pure _

theorem settled_long : Settled readLong :=
  (settled_lift (settled_readField 32)).bind fun _ => settled_pure _

theorem settled_demand (holds : Bool) (e : Error) : Settled (demand holds e) := by
  cases holds with
  | true => exact settled_pure ()
  | false =>
    refine ⟨?_, ?_⟩
    · intro r r' u h
      cases h
    · intro r r' e' h _ more
      cases h
      rfl

theorem settled_if (present : Bool) (absent : α) (h : Settled read) :
    Settled (readIf present absent read) :=
  settled_ite h (settled_pure absent)

theorem settled_optional (h : Settled read) : Settled (readOptional read) :=
  settled_flag.bind fun _ => settled_ite (h.bind fun a => settled_pure (some a)) (settled_pure none)

theorem settled_times (h : Settled read) (count : Nat) : Settled (readTimes read count) := by
  induction count with
  | zero => exact settled_pure []
  | succ count ih => exact h.bind fun a => ih.bind fun rest => settled_pure (a :: rest)

end ParameterSet

/-! ## Groups of elements -/

theorem settled_scalingList (size : Nat) (scale : Int) :
    ParameterSet.Settled (ScalingList.read size scale) := by
  induction size generalizing scale with
  | zero => exact settled_pure []
  | succ size ih =>
    refine settled_signed.bind fun delta => (settled_demand _ _).bind fun _ => ?_
    exact settled_ite (settled_pure [delta]) ((ih _).bind fun rest => settled_pure (delta :: rest))

theorem settled_schedule : ParameterSet.Settled BufferSchedule.read :=
  settled_number.bind fun _ => settled_number.bind fun _ => settled_flag.bind fun _ =>
    settled_pure _

theorem settled_hrd : ParameterSet.Settled Hrd.read := by
  refine settled_number.bind fun countMinus1 => (settled_demand _ _).bind fun _ => ?_
  refine (settled_byte 4).bind fun _ => (settled_byte 4).bind fun _ => ?_
  refine (settled_times settled_schedule (countMinus1.toNat + 1)).bind fun _ => ?_
  exact (settled_byte 5).bind fun _ => (settled_byte 5).bind fun _ => (settled_byte 5).bind fun _ =>
    (settled_byte 5).bind fun _ => settled_pure _

theorem settled_aspectRatio : ParameterSet.Settled AspectRatio.read := by
  have hsizes : ParameterSet.Settled AspectRatio.readSizes :=
    settled_short.bind fun _ => settled_short.bind fun _ => settled_pure _
  exact (settled_byte 8).bind fun _ => (settled_if _ _ hsizes).bind fun _ => settled_pure _

theorem settled_videoSignal : ParameterSet.Settled VideoSignal.read := by
  have hcolour : ParameterSet.Settled ColourDescription.read :=
    (settled_byte 8).bind fun _ => (settled_byte 8).bind fun _ => (settled_byte 8).bind fun _ =>
      settled_pure _
  exact (settled_byte 3).bind fun _ => settled_flag.bind fun _ =>
    (settled_optional hcolour).bind fun _ => settled_pure _

theorem settled_chromaLocation : ParameterSet.Settled Vui.readChromaLocation :=
  settled_number.bind fun _ => settled_number.bind fun _ => settled_pure _

theorem settled_timing : ParameterSet.Settled Timing.read :=
  settled_long.bind fun _ => settled_long.bind fun _ => settled_flag.bind fun _ => settled_pure _

theorem settled_restriction : ParameterSet.Settled Restriction.read := by
  refine settled_flag.bind fun _ => settled_number.bind fun _ => settled_number.bind fun _ => ?_
  exact settled_number.bind fun _ => settled_number.bind fun _ => settled_number.bind fun _ =>
    settled_number.bind fun _ => settled_pure _

theorem settled_vui : ParameterSet.Settled Vui.read := by
  refine (settled_optional settled_aspectRatio).bind fun _ => ?_
  refine (settled_optional settled_flag).bind fun _ => ?_
  refine (settled_optional settled_videoSignal).bind fun _ => ?_
  refine (settled_optional settled_chromaLocation).bind fun _ => ?_
  refine (settled_optional settled_timing).bind fun _ => ?_
  refine (settled_optional settled_hrd).bind fun _ => ?_
  refine (settled_optional settled_hrd).bind fun _ => ?_
  refine (settled_if _ _ settled_flag).bind fun _ => settled_flag.bind fun _ => ?_
  exact (settled_optional settled_restriction).bind fun _ => settled_pure _

theorem settled_orderCount : ParameterSet.Settled OrderCount.read := by
  have hcycle : ParameterSet.Settled OrderCount.readCycle := by
    refine settled_flag.bind fun _ => settled_signed.bind fun _ => settled_signed.bind fun _ => ?_
    refine settled_number.bind fun length => (settled_demand _ _).bind fun _ => ?_
    exact (settled_times settled_signed length.toNat).bind fun _ => settled_pure _
  refine settled_number.bind fun _ => settled_ite (settled_number.map _) (settled_ite hcycle ?_)
  exact (settled_demand _ _).bind fun _ => settled_pure _

theorem settled_cropping : ParameterSet.Settled Cropping.read :=
  settled_number.bind fun _ => settled_number.bind fun _ => settled_number.bind fun _ =>
    settled_number.bind fun _ => settled_pure _

theorem settled_lists (count index : Nat) :
    ParameterSet.Settled (HighProfile.readLists count index) := by
  induction count generalizing index with
  | zero => exact settled_pure []
  | succ count ih =>
    exact (settled_optional (settled_scalingList _ _)).bind fun list =>
      (ih (index + 1)).bind fun rest => settled_pure (list :: rest)

theorem settled_highProfile : ParameterSet.Settled HighProfile.read := by
  refine settled_number.bind fun _ => (settled_demand _ _).bind fun _ => ?_
  refine (settled_if _ _ settled_flag).bind fun _ => settled_number.bind fun _ => ?_
  refine settled_number.bind fun _ => settled_flag.bind fun _ => ?_
  exact (settled_optional (settled_lists _ 0)).bind fun _ => settled_pure _

theorem settled_parameterSet : ParameterSet.Settled ParameterSet.read := by
  refine (settled_byte 8).bind fun _ => (settled_byte 8).bind fun _ => ?_
  refine (settled_byte 8).bind fun _ => ?_
  refine settled_number.bind fun _ => (settled_demand _ _).bind fun _ => ?_
  refine (settled_if _ _ (settled_highProfile.map some)).bind fun _ => ?_
  refine settled_number.bind fun _ => settled_orderCount.bind fun _ => ?_
  refine settled_number.bind fun _ => settled_flag.bind fun _ => settled_number.bind fun _ => ?_
  refine settled_number.bind fun _ => settled_flag.bind fun _ => ?_
  refine (settled_demand _ _).bind fun _ => ?_
  refine (settled_if _ _ settled_flag).bind fun _ => settled_flag.bind fun _ => ?_
  refine (settled_optional settled_cropping).bind fun _ => ?_
  exact (settled_optional settled_vui).bind fun _ => settled_pure _

/-! ## Payloads -/

theorem Bits.ofBytes_append (data more : Bytes) :
    Reader.ofBytes (data ++ more) = (Reader.ofBytes data).extend (unpack more) := by
  rw [Reader.ofBytes, unpack_append]
  rfl

namespace ParameterSet

variable {s : ParameterSet} {payload front : Bytes} {r : Reader}

/-- A payload is read as a set if it begins with the word of the set, which ends at the
position. -/
theorem ofPayload?_eq_ok_iff_unpack :
    ofPayload? payload = .ok (s, r) ↔ s.WellFormed ∧ ∃ bits, s.word = .ok bits ∧
      unpack payload = bits ++ r.ahead ∧ r.position = bits.length := by
  simp only [ofPayload?_eq_ok, Spells, Consumes, Reader.ofBytes, Nat.zero_add]

theorem position_le (h : ofPayload? payload = .ok (s, r)) : r.position ≤ 8 * payload.length := by
  obtain ⟨-, bits, -, hpayload, hposition⟩ := ofPayload?_eq_ok_iff_unpack.mp h
  rw [← length_unpack, hpayload, List.length_append, hposition]
  exact Nat.le_add_right _ _

theorem ofPayload?_append (h : ofPayload? front = .ok (s, r)) (more : Bytes) :
    ofPayload? (front ++ more) = .ok (s, r.extend (unpack more)) := by
  have hread : Reads read (.ofBytes front) s r := reads_parameterSet.mpr (ofPayload?_eq_ok.mp h)
  rw [ofPayload?_eq_ok, ← reads_parameterSet, ofBytes_append]
  exact settled_parameterSet.reads hread (unpack more)

theorem ofPayload?_eq_error {e : Error} :
    ofPayload? payload = .error e ↔ ∃ r, Rejects read (.ofBytes payload) e r := by
  unfold ofPayload? Rejects
  cases ParameterSet.read (.ofBytes payload) <;> simp

theorem ofPayload?_of_take (h : ofPayload? payload = .ok (s, r)) {other : Bytes}
    (hshared : (unpack other).take r.position = (unpack payload).take r.position) :
    ∃ r', ofPayload? other = .ok (s, r') ∧ r'.position = r.position := by
  obtain ⟨hset, bits, hbits, hpayload, hposition⟩ := ofPayload?_eq_ok_iff_unpack.mp h
  have hother : unpack other = bits ++ (unpack other).drop r.position := by
    rw [hpayload, hposition, List.take_left] at hshared
    rw [← hshared, ← hposition, List.take_append_drop]
  refine ⟨⟨(unpack other).drop r.position, r.position⟩, ?_, rfl⟩
  exact ofPayload?_eq_ok_iff_unpack.mpr ⟨hset, bits, hbits, hother, hposition⟩

/-- A payload that is cut before the last element is never taken for a parameter set, nor for
anything else than a payload that ends too early. -/
theorem ofPayload?_of_cut (h : ofPayload? payload = .ok (s, r)) (hfront : front <+: payload)
    (hcut : 8 * front.length < r.position) : ∃ e, ofPayload? front = .error e ∧ e.AtEnd := by
  obtain ⟨more, rfl⟩ := hfront
  cases hread : ofPayload? front with
  | ok result =>
    obtain ⟨s', r'⟩ := result
    -- the front would be read as a whole set, and then the payload to the same position
    have hwhole := ofPayload?_append hread more
    rw [h, Except.ok.injEq, Prod.mk.injEq] at hwhole
    have hposition : r.position = r'.position := by
      rw [hwhole.2]
      rfl
    have hbound := position_le hread
    omega
  | error e =>
    refine ⟨e, rfl, ?_⟩
    by_contra hother
    obtain ⟨r', hrejects⟩ := ofPayload?_eq_error.mp hread
    have hmore := settled_parameterSet.rejects hrejects hother (unpack more)
    rw [← ofBytes_append] at hmore
    rw [ofPayload?_eq_error.mpr ⟨_, hmore⟩] at h
    cases h

/-- A parameter set is what the bits up to its last element say: a payload that shares them is read
alike, and one that ends before them is refused because it ends. -/
theorem only_bits_read_matter (h : ofPayload? payload = .ok (s, r)) :
    (∀ other, (unpack other).take r.position = (unpack payload).take r.position →
      ∃ r', ofPayload? other = .ok (s, r') ∧ r'.position = r.position) ∧
    ∀ front, front <+: payload → 8 * front.length < r.position →
      ∃ e, ofPayload? front = .error e ∧ e.AtEnd :=
  ⟨fun _ hshared => ofPayload?_of_take h hshared,
    fun _ hfront hcut => ofPayload?_of_cut h hfront hcut⟩

/-- The last element ends in the seventh byte: another seventh byte may share its bits, and six
bytes are too few. -/
theorem only_bits_read_matter_unaligned :
    (∃ s r', ofPayload? [66, 0, 30, 218, 11, 19, 0] = .ok (s, r') ∧ r'.position = 51) ∧
      ∃ e, ofPayload? [66, 0, 30, 218, 11, 19] = .error e ∧ e.AtEnd := by
  have hread : ofPayload? [66, 0, 30, 218, 11, 19, 27, 99] =
      .ok (_, ⟨(unpack [27, 99]).drop 3, 51⟩) := rfl
  obtain ⟨hshared, hcut⟩ := only_bits_read_matter hread
  refine ⟨⟨_, hshared [66, 0, 30, 218, 11, 19, 0] (by decide)⟩, ?_⟩
  exact hcut [66, 0, 30, 218, 11, 19] ⟨[27, 99], rfl⟩ (by decide)

end ParameterSet
end AvcPipeline
