import AvcPipeline.Proofs.Session.Acquisition
import AvcPipeline.Proofs.Session.Managing

/-!
# The size of the memory block

A setup asks the device once at most how much memory the decoder needs, and then for one block. The
block is the least number of whole mebibytes that is not below the answer. Working that out takes a
mebibyte of room above the answer, and without it the setup ends where it stands.
-/

namespace AvcPipeline

open Program CallEvent

namespace Session

/-! ## Rounding up -/

/-- Without its lowest bits a word is a multiple of the power of two that they count up to. -/
theorem toNat_clearLow (a : UInt64) : (a &&& ~~~(blockAlignment - 1)).toNat =
    a.toNat / blockAlignment.toNat * blockAlignment.toNat := by
  have hmask : (~~~(blockAlignment - 1)).toNat = (2 ^ 44 - 1) <<< 20 := by decide
  have halign : blockAlignment.toNat = 2 ^ 20 := by decide
  rw [UInt64.toNat_and, hmask, halign, ← Nat.shiftRight_eq_div_pow, ← Nat.shiftLeft_eq]
  apply Nat.eq_of_testBit_eq
  intro bit
  rw [Nat.testBit_and, Nat.testBit_shiftLeft, Nat.testBit_shiftLeft, Nat.testBit_two_pow_sub_one,
    Nat.testBit_shiftRight]
  by_cases hbit : 20 ≤ bit
  · have hsplit : 20 + (bit - 20) = bit := Nat.add_sub_of_le hbit
    by_cases hhigh : bit - 20 < 44
    · simp only [hbit, hhigh, hsplit, decide_true, Bool.and_true, Bool.true_and]
    · have htop : 2 ^ 64 ≤ 2 ^ bit := Nat.pow_le_pow_right (by decide) (by omega)
      have hnone : a.toNat.testBit bit = false :=
        Nat.testBit_lt_two_pow (Nat.lt_of_lt_of_le a.toNat_lt htop)
      simp only [hsplit, hnone, Bool.false_and, Bool.and_false]
  · simp only [hbit, decide_false, Bool.false_and, Bool.and_false]

/-- The least number of whole mebibytes that is not below `required`. -/
structure RoundsUp (required size : UInt64) : Prop where
  aligned : blockAlignment.toNat ∣ size.toNat
  covers : required.toNat ≤ size.toNat
  close : size.toNat < required.toNat + blockAlignment.toNat

theorem roundsUp_blockSize {required size : UInt64} (h : blockSize? required = some size) :
    ¬ TooLarge required ∧ RoundsUp required size := by
  unfold blockSize? at h
  by_cases hroom : required.toNat < UInt64.size - blockAlignment.toNat
  · rw [if_pos hroom] at h
    obtain rfl := Option.some.inj h
    have hlow : (blockAlignment - 1).toNat = blockAlignment.toNat - 1 := by decide
    have halign : blockAlignment.toNat = 0x100000 := by decide
    have hroom : required.toNat + blockAlignment.toNat < UInt64.size := Nat.add_lt_of_lt_sub hroom
    have hsum : (required + (blockAlignment - 1)).toNat =
        required.toNat + (blockAlignment.toNat - 1) := by
      rw [UInt64.toNat_add, hlow]
      exact Nat.mod_eq_of_lt (Nat.lt_of_le_of_lt (Nat.add_le_add_left (Nat.sub_le _ _) _) hroom)
    have hsize := toNat_clearLow (required + (blockAlignment - 1))
    rw [hsum, halign] at hsize
    refine ⟨Nat.not_le.mpr hroom, ?_, ?_, ?_⟩
    · rw [hsize, halign]
      exact Nat.dvd_mul_left _ _
    · omega
    · rw [halign]
      omega
  · rw [if_neg hroom] at h
    cases h

end Session

/-! ## Calls about sizes -/

def DeviceCall.sizes : DeviceCall → Bool
  | .queryMemory _ | .allocate _ _ => true
  | _ => false

def Call.Sizeless : Call → Prop
  | .device c => c.sizes = false
  | _ => True

theorem Call.Frees.sizeless {c : Call} (h : c.Frees) : c.Sizeless := by
  cases c with
  | device c => cases c <;> first | rfl | exact h.elim
  | counter op => trivial
  | log record => trivial

def sizings (calls : List DeviceEvent) : List DeviceEvent :=
  calls.filter fun call => call.1.sizes

theorem sizings_append (calls more : List DeviceEvent) :
    sizings (calls ++ more) = sizings calls ++ sizings more :=
  List.filter_append ..

theorem sizings_eq_nil {events : List CallEvent} (h : ∀ e ∈ events, e.1.Sizeless) :
    sizings (deviceCalls events) = [] := by
  induction events with
  | nil => rfl
  | cons e events ih =>
    obtain ⟨hfirst, hlater⟩ := List.forall_mem_cons.mp h
    obtain ⟨c, reply⟩ := e
    cases c with
    | device c =>
      have hcall : sizings (⟨c, reply⟩ :: deviceCalls events) = sizings (deviceCalls events) :=
        List.filter_cons_of_neg (Bool.not_eq_true _ ▸ hfirst)
      exact hcall.trans (ih hlater)
    | counter op => exact ih hlater
    | log record => exact ih hlater

namespace Session

def GoesOn (outcome : Except SetupFailure Unit) : Prop :=
  ∀ required, outcome ≠ .error (.oversized required)

/-- The queries for a size and the requests for a block that a setup makes, with its outcome. -/
inductive Sized : List DeviceEvent → Except SetupFailure Unit → Prop
  | unasked {e} : Sized [] (.error (.refused e))
  | unknown {info cause} :
    Sized [⟨.queryMemory info, .error cause⟩] (.error (.refused (.queryMemory cause)))
  | oversized {info required} (h : TooLarge required) :
    Sized [⟨.queryMemory info, .ok required⟩] (.error (.oversized required))
  | allocated {info required size reply outcome} (hroom : ¬ TooLarge required)
    (hsize : RoundsUp required size) (h : GoesOn outcome) :
    Sized [⟨.queryMemory info, .ok required⟩, ⟨.allocate blockName size, reply⟩] outcome

variable {stage : Stage} {events later : List CallEvent} {calls : List DeviceEvent}
  {outcome : Except SetupFailure Unit} {result : Result SetupFailure}

theorem goesOn_ok : GoesOn (.ok ()) :=
  nofun

theorem goesOn_refused {e : SetupError} : GoesOn (.error (.refused e)) :=
  nofun

theorem Sized.of_ok (h : Sized calls (.ok ())) (hgoes : GoesOn outcome) : Sized calls outcome := by
  cases h with
  | allocated hroom hsize _ => exact .allocated hroom hsize hgoes

abbrev SizedBy (events : List CallEvent) (result : Result SetupFailure) : Prop :=
  Sized (sizings (deviceCalls events)) result.1

theorem SizedBy.then_sizeless (h : Sized (sizings (deviceCalls events)) result.1)
    (hlater : ∀ e ∈ later, e.1.Sizeless) : SizedBy (events ++ later) result := by
  change Sized (sizings (deviceCalls (events ++ later))) result.1
  rw [deviceCalls_append, sizings_append, sizings_eq_nil hlater, List.append_nil]
  exact h

theorem SizedBy.after_sizeless (hevents : ∀ e ∈ events, e.1.Sizeless) (h : SizedBy later result) :
    SizedBy (events ++ later) result := by
  change Sized (sizings (deviceCalls (events ++ later))) result.1
  rw [deviceCalls_append, sizings_append, sizings_eq_nil hevents]
  exact h

/-! ## Acquiring a stage -/

def Acquiring (s : Session) : Call → Prop
  | .device (.reserve _) | .device (.initLibrary _) | .device (.spawn _ _ _) => True
  | .device (.createTexture width height format) =>
    width = screenWidth ∧ height = screenHeight ∧ format = .abgr8888
  | .device (.createDecoder frame info) =>
    ∃ memory ∈ s.memory, memory.frame = frame ∧ memory.info = info
  | .counter .reset | .log _ => True
  | _ => False

theorem sizeless_of_acquiring {s : Session} {c : Call} (h : s.Acquiring c) : c.Sizeless := by
  cases c with
  | device c => cases c <;> first | rfl | exact h.elim
  | counter op => trivial
  | log record => trivial

theorem acquire_calls (s : Session) (p : SetupParams) (hstage : stage ≠ .memory) :
    (s.acquire p stage).Ensures s.Acquiring fun result => GoesOn result.1 := by
  cases stage with
  | memory => exact absurd rfl hstage
  | idle => exact ensures_pure goesOn_ok
  | format =>
    simp only [acquire, negotiate]
    split
    · exact ensures_pure goesOn_refused
    · split
      · exact ensures_pure goesOn_refused
      · split
        · exact ensures_call trivial fun _ => ensures_pure goesOn_ok
        · exact ensures_pure goesOn_ok
  | frameBuffer =>
    refine (makeAssembler_ensures trivial).bind fun assembler _ => ?_
    cases assembler with
    | none => exact ensures_pure goesOn_refused
    | some assembler =>
      refine ensures_call ⟨rfl, rfl, rfl⟩ fun (reply : Option Texture) => ?_
      cases reply with
      | none => exact ensures_pure goesOn_refused
      | some texture => exact ensures_pure goesOn_ok
  | library =>
    simp only [acquire, acquireLibrary]
    split
    · exact ensures_pure goesOn_refused
    · refine ensures_call trivial fun (reply : Except Status Unit) => ?_
      cases reply with
      | error e => exact ensures_pure goesOn_refused
      | ok _ => exact ensures_call trivial fun _ => ensures_pure goesOn_ok
  | decoder =>
    simp only [acquire, acquireDecoder]
    split
    · exact ensures_pure goesOn_refused
    · rename_i memory hmemory
      refine ensures_call ⟨memory, hmemory, rfl, rfl⟩
        fun (reply : Except Status DecoderHandle) => ?_
      cases reply with
      | error e => exact ensures_pure goesOn_refused
      | ok decoder => exact ensures_pure goesOn_ok
  | running =>
    have hstart := FramePacer.start_ensures s.Acquiring s.config s.settings trivial trivial
      fun _ => trivial
    refine hstart.bind fun outcome _ => ?_
    cases outcome with
    | error cause => exact ensures_pure goesOn_refused
    | ok pacer => exact ensures_pure goesOn_ok

theorem acquire_sizeless (s : Session) (p : SetupParams) (hstage : stage ≠ .memory) :
    (s.acquire p stage).Ensures Call.Sizeless fun result => GoesOn result.1 :=
  (s.acquire_calls p hstage).allow fun _ => sizeless_of_acquiring

theorem acquireMemory_sized (s : Session) : s.acquireMemory.Follows SizedBy := by
  unfold acquireMemory
  split
  · exact follows_pure .unasked
  · refine follows_call fun (reply : Except Status UInt64) => ?_
    cases reply with
    | error e => exact follows_pure .unknown
    | ok required =>
      cases hsize : blockSize? required with
      | none =>
        simp only [hsize]
        exact follows_pure (.oversized (tooLarge_of_blockSize hsize))
      | some size =>
        simp only [hsize]
        obtain ⟨hroom, hrounds⟩ := roundsUp_blockSize hsize
        refine follows_call fun (reply : Except Status MemoryBlock) => ?_
        cases reply with
        | error e => exact follows_pure (.allocated hroom hrounds goesOn_refused)
        | ok block =>
          refine follows_call fun (reply : Except Status UInt64) => ?_
          cases reply with
          | error e =>
            exact follows_call fun _ => follows_pure (.allocated hroom hrounds goesOn_refused)
          | ok base => exact follows_pure (.allocated hroom hrounds goesOn_ok)

/-! ## Up the ladder -/

theorem unwind_sizeless (s : Session) (stage : Stage) (e : SetupError) :
    (s.unwind stage e).Ensures Call.Sizeless fun result => result.1 = .error (.refused e) := by
  refine ensures_call trivial fun _ => ?_
  have hteardown := (teardown_frees s).allow fun _ => Call.Frees.sizeless
  refine hteardown.bind fun result _ => ?_
  obtain ⟨outcome, s'⟩ := result
  cases outcome with
  | ok _ => exact ensures_pure rfl
  | error _ => exact ensures_call trivial fun _ => ensures_pure rfl

theorem climb_sizeless (s : Session) (p : SetupParams) {rest : List Stage}
    (hrest : .memory ∉ rest) :
    (s.climb p rest).Ensures Call.Sizeless fun result => GoesOn result.1 := by
  induction rest generalizing s with
  | nil => exact ensures_pure goesOn_ok
  | cons stage rest ih =>
    obtain ⟨hstage, hlater⟩ := List.ne_and_not_mem_of_not_mem_cons hrest
    refine (acquire_sizeless s p (Ne.symm hstage)).bind fun result hgoes => ?_
    obtain ⟨outcome, s'⟩ := result
    cases outcome with
    | ok _ => exact ih _ hlater
    | error e =>
      cases e with
      | refused e =>
        exact (unwind_sizeless s' stage e).mono fun result hrefused => hrefused ▸ goesOn_refused
      | oversized required => exact absurd rfl (hgoes required)

theorem climb_sized (s : Session) (p : SetupParams) {rest : List Stage} (hrest : rest.Nodup)
    (hmem : .memory ∈ rest) : (s.climb p rest).Follows SizedBy := by
  induction rest generalizing s with
  | nil => cases hmem
  | cons stage rest ih =>
    obtain ⟨honce, hlater⟩ := List.nodup_cons.mp hrest
    -- Sizes come up in one stage only, and no stage is acquired twice.
    by_cases hmemory : stage = .memory
    · subst hmemory
      refine (acquireMemory_sized s).bind fun events result hsized => ?_
      obtain ⟨outcome, s'⟩ := result
      cases outcome with
      | ok _ =>
        refine (climb_sizeless _ p honce).follows.mono fun later result habove => ?_
        exact .then_sizeless (hsized.of_ok habove.2) habove.1
      | error e =>
        cases e with
        | refused e =>
          refine (unwind_sizeless s' .memory e).follows.mono fun later result hunwound => ?_
          exact .then_sizeless (hunwound.2 ▸ hsized) hunwound.1
        | oversized required =>
          refine follows_pure ?_
          rw [List.append_nil]
          exact hsized
    · refine (acquire_sizeless s p hmemory).follows.bind fun events result hstage => ?_
      obtain ⟨hsizeless, hgoes⟩ := hstage
      obtain ⟨outcome, s'⟩ := result
      cases outcome with
      | ok _ =>
        have habove : .memory ∈ rest := (List.mem_cons.mp hmem).resolve_left (Ne.symm hmemory)
        exact (ih _ hlater habove).mono fun later result hsized =>
          .after_sizeless hsizeless hsized
      | error e =>
        cases e with
        | refused e =>
          refine (unwind_sizeless s' stage e).follows.mono fun later result hunwound => ?_
          refine .after_sizeless hsizeless ?_
          change Sized (sizings (deviceCalls later)) result.1
          rw [sizings_eq_nil hunwound.1, hunwound.2]
          exact .unasked
        | oversized required => exact absurd rfl (hgoes required)

/-- A setup asks at most once how much memory is needed, and it has asked if it succeeds. An answer
that leaves a mebibyte of room in 64 bits is followed by the request for one block of just as many
whole mebibytes, and the setup goes on. An answer that does not ends the setup, and nothing else
does so. -/
theorem setup_sized (s : Session) (p : SetupParams) {σ : Type} (device : AbstractDevice σ)
    (c : Counters) (d : σ) :
    let done := (s.setup p).trace (Call.interpreter device) (c, d)
    Sized (sizings (deviceCalls done.1.2)) done.1.1.1 := by
  have hsetup : (s.setup p).Follows SizedBy := by
    unfold setup
    split
    · exact follows_pure .unasked
    · refine follows_call fun _ => ?_
      refine (climb_sized s p (by decide) (by decide)).bind fun events result hsized => ?_
      obtain ⟨outcome, s'⟩ := result
      cases outcome with
      | ok _ =>
        refine follows_call fun _ => follows_pure ?_
        exact .then_sizeless hsized (List.forall_mem_singleton.mpr trivial)
      | error e =>
        refine follows_pure ?_
        rw [List.append_nil]
        exact hsized
  exact hsetup.trace (Call.interpreter device) (c, d)

/-- The largest number of whole mebibytes needs no rounding, and yet it ends a setup. -/
theorem oversized_whole_mebibytes :
    let required : UInt64 := 0xFFFFFFFFFFF00000
    let d : Device := { faults := { memorySize := some required } }
    let done := (setup {} { width := 1280, height := 720 }).trace
      (Call.interpreter Device.simulated) ({}, d)
    RoundsUp required required ∧ sizings (deviceCalls done.1.2) =
        [⟨.queryMemory ⟨1280, 720, 5⟩, (.ok required : Except Status UInt64)⟩] ∧
      done.1.1.1 = .error (.oversized required) :=
  ⟨⟨by decide, by decide, by decide⟩, rfl, rfl⟩

end Session
end AvcPipeline
