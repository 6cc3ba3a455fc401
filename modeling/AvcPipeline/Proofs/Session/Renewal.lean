import AvcPipeline.Proofs.Device.Alike
import AvcPipeline.Proofs.Session.Atomicity

/-!
# Nothing crosses from one session to the next

An idle session holds nothing but its settings, its indicator and its statistics, whatever it went
through. A setup that succeeds builds everything else anew from its parameters and from what the
device replies, and clears the counters but for the video flag. So two decoders with different pasts
that agree on these few things cannot be told apart after a setup, whatever is asked of them next
and whatever steps the pacer takes in between.
-/

namespace AvcPipeline

open Program CallEvent DeviceEvent

namespace Session

variable {s : Session} {stage : Stage} {g : Geometry}

structure Negotiated (g : Geometry) (s : Session) : Prop where
  geometry : s.geometry = some g
  initInfo : s.initInfo = some g.initInfo
  memory : ∀ memory ∈ s.memory, memory.info = g.initInfo.decoderInfo

/-- What comes of a step of a setup, by these steps on the counters. A failed step does not matter
here. -/
def Renews (g : Geometry) (steps : List CounterOp) (events : List CallEvent) :
    Result SetupFailure → Prop
  | (.ok (), s') => Negotiated g s' ∧ counterSteps events = steps
  | (.error _, _) => True

def Negotiates (g : Geometry) : Result SetupFailure → Prop
  | (.ok (), s') => Negotiated g s'
  | (.error _, _) => True

/-! ## The stages -/

theorem negotiate_negotiates (hmemory : s.memory = none) (p : SetupParams) :
    (s.negotiate p).Ensures (fun _ => True) fun result => result.1 = .ok () →
      ∃ g, Geometry.negotiate? p.width p.height = some g ∧ Negotiated g result.2 := by
  unfold negotiate
  split
  · exact ensures_pure nofun
  · cases hgeometry : Geometry.negotiate? p.width p.height with
    | none => exact ensures_pure nofun
    | some g =>
      have hnone : ∀ memory ∈ s.memory, memory.info = g.initInfo.decoderInfo := by
        rw [hmemory]
        nofun
      dsimp only
      split
      · exact ensures_call trivial fun _ => ensures_pure fun _ => ⟨g, rfl, rfl, rfl, hnone⟩
      · exact ensures_pure fun _ => ⟨g, rfl, rfl, rfl, hnone⟩

theorem acquireMemory_negotiates (h : Negotiated g s) :
    s.acquireMemory.Ensures (fun _ => True) (Negotiates g) := by
  simp only [acquireMemory, h.initInfo]
  refine ensures_call trivial fun (reply : Except Status UInt64) => ?_
  cases reply with
  | error e => exact ensures_pure trivial
  | ok required =>
    dsimp only
    split
    · exact ensures_pure trivial
    · refine ensures_call trivial fun (reply : Except Status MemoryBlock) => ?_
      cases reply with
      | error e => exact ensures_pure trivial
      | ok block =>
        refine ensures_call trivial fun (reply : Except Status UInt64) => ?_
        cases reply with
        | error e => exact ensures_call trivial fun _ => ensures_pure trivial
        | ok base =>
          refine ensures_pure ⟨h.geometry, h.initInfo, ?_⟩
          rintro memory ⟨⟩
          rfl

/-- The stages above the format leave it as it was negotiated. -/
theorem acquire_negotiates (h : Negotiated g s) (p : SetupParams) (hstage : stage ≠ .format) :
    (s.acquire p stage).Ensures (fun _ => True) (Negotiates g) := by
  cases stage with
  | idle => exact ensures_pure h
  | format => exact absurd rfl hstage
  | frameBuffer =>
    refine (makeAssembler_ensures trivial).bind fun assembler _ => ?_
    cases assembler with
    | none => exact ensures_pure trivial
    | some assembler =>
      refine ensures_call trivial fun (reply : Option Texture) => ?_
      cases reply with
      | none => exact ensures_pure trivial
      | some texture => exact ensures_pure { h with }
  | library =>
    simp only [acquire, acquireLibrary, h.initInfo]
    refine ensures_call trivial fun (reply : Except Status Unit) => ?_
    cases reply with
    | error e => exact ensures_pure trivial
    | ok _ => exact ensures_call trivial fun _ => ensures_pure h
  | memory => exact acquireMemory_negotiates h
  | decoder =>
    simp only [acquire, acquireDecoder]
    split
    · exact ensures_pure trivial
    · refine ensures_call trivial fun (reply : Except Status DecoderHandle) => ?_
      cases reply with
      | error e => exact ensures_pure trivial
      | ok decoder => exact ensures_pure { h with }
  | running =>
    have hstart := FramePacer.start_ensures (fun _ => True) s.config s.settings trivial trivial
      fun _ => trivial
    refine hstart.bind fun outcome _ => ?_
    cases outcome with
    | error cause => exact ensures_pure trivial
    | ok pacer => exact ensures_pure { h with }

/-! ## The ladder -/

theorem climb_renews (p : SetupParams) {rest : List Stage} (hg : Negotiated g s)
    (h : s.Filled s.stage) (hidle : s.stage ≠ .idle) (habove : s.stage.above = rest) :
    (s.climb p rest).Follows (Renews g (rest.flatMap clearing)) := by
  induction rest generalizing s with
  | nil => exact follows_pure ⟨hg, rfl⟩
  | cons stage rest ih =>
    -- No stage above the format negotiates again, and only the last one touches the counters.
    obtain ⟨hacquire, hrest⟩ := acquire_acquires p h hidle habove
    have hformat : stage ≠ .format := by
      rintro rfl
      cases hbelow : s.stage <;> rw [hbelow] at habove hidle <;> cases habove
      exact hidle rfl
    have hnegotiates := (acquire_negotiates hg p hformat).follows
    refine (hacquire.and hnegotiates).bind fun events result hacquired => ?_
    obtain ⟨hacquired, -, hnegotiated⟩ := hacquired
    obtain ⟨outcome, s'⟩ := result
    cases outcome with
    | ok _ =>
      obtain ⟨-, hfilled, -, -, hsteps⟩ := hacquired
      have hnegotiated : Negotiated g s' := hnegotiated
      refine (ih (s := { s' with stage := stage }) { hnegotiated with } { hfilled with }
        (Stage.ne_idle_of_above habove) hrest).mono fun later result hlater => ?_
      obtain ⟨outcome, s''⟩ := result
      cases outcome with
      | error e => trivial
      | ok _ =>
        refine ⟨hlater.1, ?_⟩
        rw [counterSteps_append, hsteps, hlater.2, List.flatMap_cons]
    | error e =>
      cases e with
      | oversized required => exact follows_pure trivial
      | refused e =>
        obtain ⟨rfl, -⟩ := hacquired
        refine (unwind_follows stage h (Stage.ne_running_of_above habove) e).mono
          fun later result hlater => ?_
        obtain ⟨rfl, -⟩ := hlater
        trivial

theorem setup_renews (p : SetupParams) (h : s.Filled .idle) (hstage : s.stage = .idle) :
    (s.setup p).Follows fun events result => result.1 = .ok () →
      ∃ g, Geometry.negotiate? p.width p.height = some g ∧ Negotiated g result.2 ∧
        counterSteps events = [.reset] := by
  have hclimb : (s.climb p Stage.ladder).Follows fun events result => result.1 = .ok () →
      ∃ g, Geometry.negotiate? p.width p.height = some g ∧ Negotiated g result.2 ∧
        counterSteps events = [.reset] := by
    have hformat := (negotiate_negotiates h.empty.memory p).follows
    refine ((negotiate_follows h p).and hformat).bind fun events result hformat => ?_
    obtain ⟨⟨-, hsteps, hnegotiated⟩, -, hgeometry⟩ := hformat
    rcases hnegotiated with ⟨e, -, -, rfl⟩ | ⟨s', -, rfl, -, hfilled⟩
    · refine (unwind_follows .format (hstage ▸ h : s.Filled s.stage) (by rw [hstage]; nofun)
        e).mono fun later result hlater => ?_
      obtain ⟨rfl, -⟩ := hlater
      exact nofun
    · obtain ⟨g, hg, hnegotiated⟩ := hgeometry rfl
      refine (climb_renews (s := { s' with stage := .format }) p { hnegotiated with }
        { hfilled with } nofun rfl).mono fun later result hlater => ?_
      obtain ⟨outcome, s''⟩ := result
      cases outcome with
      | error e => exact nofun
      | ok _ =>
        intro _
        refine ⟨g, hg, hlater.1, ?_⟩
        rw [counterSteps_append, hsteps, hlater.2]
        rfl
  have hidle : ¬ s.stage ≠ .idle := not_not_intro hstage
  rw [setup, if_neg hidle]
  refine follows_call fun _ => ?_
  refine hclimb.bind fun events result hrenewed => ?_
  obtain ⟨outcome, s'⟩ := result
  cases outcome with
  | error e => exact follows_pure nofun
  | ok _ =>
    refine follows_call fun _ => follows_pure fun hok => ?_
    obtain ⟨g, hg, hnegotiated, hsteps⟩ := hrenewed hok
    refine ⟨g, hg, hnegotiated, ?_⟩
    change counterSteps (events ++ [_]) = _
    rw [counterSteps_append, hsteps]
    rfl

/-! ## The new session -/

/-- A running session as a setup with these parameters and these calls makes it. Its buffers are
empty, and nothing in it is of an earlier session. -/
structure Renewed (p : SetupParams) (calls : List DeviceEvent) (s : Session) : Prop where
  stage : s.stage = .running
  geometry : s.geometry = Geometry.negotiate? p.width p.height
  initInfo : s.initInfo = s.geometry.map Geometry.initInfo
  fixup : s.fixup = some { width := p.width, height := p.height }
  assembler : s.assembler = some { capacity := Assembler.decoderCapacity }
  memory : s.memory.map DecoderMemory.info = s.initInfo.map InitInfo.decoderInfo
  pacer : ∃ task, s.pacer = some (.ofTask task)
  handles : s.handles .running = acquired calls

theorem renewed_setup (p : SetupParams) (h : s.Filled .idle) (hstage : s.stage = .idle) :
    (s.setup p).Follows fun events result => result.1 = .ok () →
      Renewed p (deviceCalls events) result.2 ∧ counterSteps events = [.reset] := by
  have hprepares := (setup_prepares s p).follows
  refine (((setup_setsUpOnce p h hstage {}).and hprepares).and (setup_renews p h hstage)).mono ?_
  rintro events ⟨outcome, s'⟩ ⟨⟨hsetup, -, hprepared⟩, hrenews⟩ hok
  obtain rfl : outcome = .ok () := hok
  obtain ⟨-, -, hrunning, hfilled, -, hhandles⟩ := hsetup
  obtain ⟨-, hprepared⟩ := hprepared
  obtain ⟨g, hg, hnegotiated, hsteps⟩ := hrenews rfl
  obtain ⟨memory, hmemory⟩ := Option.isSome_iff_exists.mp hfilled.full.memory
  refine ⟨⟨hrunning, hnegotiated.geometry.trans hg.symm, ?_, hprepared.fixup (by decide),
    hprepared.assembler (by decide), ?_, hprepared.pacer (by decide), hhandles⟩, hsteps⟩
  · rw [hnegotiated.initInfo, hnegotiated.geometry]
    rfl
  · rw [hnegotiated.initInfo, hmemory]
    exact congrArg some (hnegotiated.memory memory hmemory)

theorem Arises.emptied (h : s.Arises) (hstage : s.stage = .idle) : s.emptied = s :=
  Filled.emptied (hstage ▸ h.filled) hstage

theorem countersAfter_cleared {events : List CallEvent} (h : counterSteps events = [.reset])
    (c : Counters) : countersAfter events c = { active := c.active } := by
  rw [countersAfter, h]
  rfl

def operateAll (s : Session) : List Operation → Action (List Answer × Session)
  | [] => return ([], s)
  | op :: rest => do
    let (answer, s) ← s.operate op
    let (answers, s) ← s.operateAll rest
    return (answer :: answers, s)

/-- Two idle sessions of any past are set up with the same parameters and asked for the same
operations, each on its own device. If the settings, the statistics, the indicator and the video
flag are the same, and the devices reply alike, then both setups succeed with the same calls, and
after them the answers, the calls and the sessions are the same, whatever the pacer does. The setup
has cleared the counters but for the video flag, and the session is built from the parameters and
the replies alone. -/
theorem setup_forgets {s s' : Session} (hs : s.Arises) (hs' : s'.Arises) (hidle : s.stage = .idle)
    (hidle' : s'.stage = .idle) (hconfig : s'.config = s.config)
    (hsettings : s'.settings = s.settings) (hstats : s'.stats = s.stats)
    (hindicator : s'.indicator = s.indicator) {c c' : Counters} (hactive : c'.active = c.active)
    (p : SetupParams) {σ τ : Type} (device : AbstractDevice σ) (device' : AbstractDevice τ) (d : σ)
    (d' : τ) (ops : List Operation) (pacing : Program CounterOp CounterOp.Reply Unit)
    (schedule : List Nat) :
    let opened := (s.setup p).trace (Call.interpreter device) (c, d)
    let opened' := (s'.setup p).trace (Call.interpreter device') (c', d')
    let after := (opened.1.1.2.operateAll ops).trace (Raced.interpreter device)
      ⟨opened.2.1, opened.2.2, pacing, schedule⟩
    let after' := (opened'.1.1.2.operateAll ops).trace (Raced.interpreter device')
      ⟨opened'.2.1, opened'.2.2, pacing, schedule⟩
    opened.1.1.1 = .ok () →
    AnsweredAlike Call.Outward (opened.1.2 ++ after.1.2) (opened'.1.2 ++ after'.1.2) →
      opened'.1 = opened.1 ∧ Renewed p (deviceCalls opened.1.2) opened.1.1.2 ∧
        opened.2.1 = { active := c.active } ∧ opened'.2.1 = opened.2.1 ∧
        after'.1 = after.1 ∧ after'.2.counters = after.2.counters := by
  have hsame : s = s' := by
    rw [← hs.emptied hidle, ← hs'.emptied hidle']
    simp only [Session.emptied, hconfig, hsettings, hstats, hindicator]
  subst hsame
  intro opened opened' after after' hok halike
  obtain ⟨hopened, -⟩ := (lockstep_managing device device' True).trace (setup_manages s p) trivial
    halike.left
  have hopened : opened'.1 = opened.1 := hopened.symm
  obtain ⟨hrenewed, hsteps⟩ := (renewed_setup p (hidle ▸ hs.filled) hidle).trace
    (Call.interpreter device) (c, d) hok
  have hsteps' : counterSteps opened'.1.2 = [.reset] := hopened ▸ hsteps
  have hcleared : opened.2.1 = { active := c.active } :=
    (countersAfter_trace device _ c d).trans (countersAfter_cleared hsteps c)
  have hcounters : opened'.2.1 = opened.2.1 := by
    rw [hcleared, ← hactive]
    exact (countersAfter_trace device' _ c' d').trans (countersAfter_cleared hsteps' c')
  rw [hopened] at halike
  have hsession : opened'.1.1.2 = opened.1.1.2 := by rw [hopened]
  have hafter' : after' = (opened.1.1.2.operateAll ops).trace (Raced.interpreter device')
      ⟨opened'.2.1, opened'.2.2, pacing, schedule⟩ := by
    rw [← hsession]
  have hlater := halike.right
  rw [hafter'] at hlater ⊢
  have hbeside : Raced.Beside (⟨opened.2.1, opened.2.2, pacing, schedule⟩ : Raced σ)
      ⟨opened'.2.1, opened'.2.2, pacing, schedule⟩ := ⟨hcounters.symm, rfl, rfl⟩
  obtain ⟨hsame, hbeside'⟩ :=
    (Raced.lockstep_raced device device').trace (ensures_true _) hbeside hlater
  exact ⟨hopened, hrenewed, hcleared, hcounters, hsame.symm, hbeside'.counters.symm⟩

end Session

theorem System.arises_run {s : System} (h : s.session.Arises) (events : List Event) :
    (s.run events).session.Arises := by
  induction events generalizing s with
  | nil => exact h
  | cons e events ih =>
    cases e with
    | operate op => exact ih (.operate h Device.interpreter s.device op)
    | incident i => exact ih h

namespace Session

def refreshUnit : DecodeUnit := .ofFragments 0 .refresh [⟨.ordinary, [0, 0, 0, 1, 0x65, 0x88]⟩]

/-- The second session has decoded a picture of another size, and was torn down with a frame still
to be dropped. -/
theorem setup_forgets_picture :
    let past := (System.fresh {} {}).run [.operate (.setup { width := 640, height := 480 }),
      .operate (.decode refreshUnit), .incident (.wake (.start { fps := 0 } 0 0 0) 60),
      .operate .teardown]
    let opened := (setup {} hdStream).trace (Call.interpreter Device.simulated) ({}, {})
    let opened' := (past.session.setup hdStream).trace (Call.interpreter Device.simulated)
      (past.device.counters, {})
    let after := (opened.1.1.2.operateAll [.start, .submit refreshUnit, .teardown]).trace
      (Raced.interpreter Device.simulated) ⟨opened.2.1, opened.2.2, .done (), []⟩
    let after' := (opened'.1.1.2.operateAll [.start, .submit refreshUnit, .teardown]).trace
      (Raced.interpreter Device.simulated) ⟨opened'.2.1, opened'.2.2, .done (), []⟩
    past.device.counters.quota = 1 ∧ opened.1.1.1 = .ok () ∧ opened'.1 = opened.1 ∧
      opened'.2.1 = {} ∧ after'.1 = after.1 := by
  intro past opened opened' after after'
  have hpast : past.session.Arises := System.arises_run (.fresh {} {}) _
  have hsame : past.session = {} := by decide +kernel
  have hactive : past.device.counters.active = true := by decide +kernel
  have hfresh := replays_then Device.simulated {} {} (setup {} hdStream)
    (fun result => result.2.operateAll [.start, .submit refreshUnit, .teardown]) (.done ()) []
  have hagain := replays_then Device.simulated past.device.counters {} (past.session.setup hdStream)
    (fun result => result.2.operateAll [.start, .submit refreshUnit, .teardown]) (.done ()) []
  obtain ⟨hopened, -, hcleared, hcounters, hafter, -⟩ := setup_forgets (.fresh {} {}) hpast rfl
    (congrArg stage hsame) (congrArg config hsame) (congrArg settings hsame) (congrArg stats hsame)
    (congrArg indicator hsame) hactive hdStream Device.simulated Device.simulated {} {}
    [.start, .submit refreshUnit, .teardown] (.done ()) [] rfl
    (answeredAlike_of_replays hfresh hagain)
  exact ⟨by decide +kernel, rfl, hopened, hcounters.trans hcleared, hafter⟩

end Session
end AvcPipeline
