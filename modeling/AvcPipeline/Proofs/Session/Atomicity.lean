import AvcPipeline.Proofs.Session.Acquisition
import AvcPipeline.Proofs.Session.Frame
import AvcPipeline.Session.Run

/-!
# A setup succeeds whole or leaves no trace

On any device a setup makes its requests in order until one is refused. Then it releases what it
acquired, newest first, and the session is what it was. Only a reported memory size within a
mebibyte of the end of the words is different: the setup ends where it stands, and what it acquired
stays held.
-/

namespace AvcPipeline

open Program CallEvent DeviceEvent

namespace Session

variable {s : Session} {stage : Stage}

/-! ## Climbing -/

def ClimbsBy (requests : List Request) (s : Session) (events : List CallEvent) :
    Result SetupFailure → Prop
  | (.ok (), s') =>
    s'.stage = .running ∧ s'.Filled .running ∧ s'.emptied = s.emptied ∧
      Grants requests (deviceCalls events) ∧
      s'.handles .running = acquired (deviceCalls events) ++ s.handles s.stage
  | (.error (.refused e), s') =>
    s' = s.emptied ∧ BreaksOff requests (s.handles s.stage) (deviceCalls events) e ∧
      counterSteps events = clearedBy e
  | (.error (.oversized required), s') =>
    s'.stage = .library ∧ s'.Filled .library ∧ s'.emptied = s.emptied ∧ TooLarge required ∧
      StopsAt requests (deviceCalls events) required ∧
      s'.handles .library = acquired (deviceCalls events) ++ s.handles s.stage ∧
      counterSteps events = []

theorem unwind_follows (stage : Stage) (h : s.Filled s.stage) (hne : s.stage ≠ .running)
    (e : SetupError) :
    (s.unwind stage e).Follows fun events result =>
      result = (.error (.refused e), s.emptied) ∧
        Releases (s.handles s.stage) (deviceCalls events) ∧ counterSteps events = [] := by
  refine follows_call fun _ => ?_
  refine (teardown_givesAllBack h hne).bind fun events result hall => ?_
  obtain ⟨outcome, s'⟩ := result
  cases outcome with
  | error e => exact hall.elim
  | ok _ =>
    obtain ⟨rfl, hreleased, hsteps⟩ := hall
    exact follows_pure ⟨rfl, by rwa [List.append_nil], by rwa [List.append_nil]⟩

theorem ClimbsBy.after {s' : Session} {requests : List Request} {events later : List CallEvent}
    {result : Result SetupFailure}
    (hacquired : Acquires stage.requests s.stage stage s events (.ok (), s'))
    (hlast : stage ≠ .running) (h : ClimbsBy requests { s' with stage := stage } later result) :
    ClimbsBy (stage.requests ++ requests) s (events ++ later) result := by
  obtain ⟨hsame, -, hgrants, hhandles, hsteps⟩ := hacquired
  have hquiet : counterSteps events = [] := by
    cases stage with
    | running => exact absurd rfl hlast
    | _ => exact hsteps
  have hheld : handles { s' with stage := stage } stage =
    acquired (deviceCalls events) ++ s.handles s.stage := hhandles
  obtain ⟨outcome, s''⟩ := result
  cases outcome with
  | ok _ =>
    obtain ⟨hstage, hfilled, hsame', hgrants', hhandles'⟩ := h
    refine ⟨hstage, hfilled, hsame'.trans hsame, ?_, ?_⟩
    · rw [deviceCalls_append]
      exact hgrants.append hgrants'
    · rw [deviceCalls_append, acquired_append, List.append_assoc, hhandles', hheld]
  | error e =>
    cases e with
    | refused e =>
      obtain ⟨hsame', hbreaks, hsteps'⟩ := h
      refine ⟨hsame'.trans hsame, ?_, ?_⟩
      · rw [deviceCalls_append]
        rw [hheld] at hbreaks
        exact .after hgrants hbreaks
      · rw [counterSteps_append, hquiet, hsteps', List.nil_append]
    | oversized required =>
      obtain ⟨hstage, hfilled, hsame', hlarge, hstops, hhandles', hsteps'⟩ := h
      refine ⟨hstage, hfilled, hsame'.trans hsame, hlarge, ?_, ?_, ?_⟩
      · rw [deviceCalls_append]
        exact .after hgrants hstops
      · rw [deviceCalls_append, acquired_append, List.append_assoc, hhandles', hheld]
      · rw [counterSteps_append, hquiet, hsteps', List.nil_append]

theorem climb_climbsBy (p : SetupParams) {rest : List Stage} (h : s.Filled s.stage)
    (hidle : s.stage ≠ .idle) (habove : s.stage.above = rest) :
    (s.climb p rest).Follows (ClimbsBy (rest.flatMap Stage.requests) s) := by
  induction rest generalizing s with
  | nil =>
    have hstage : s.stage = .running := Stage.eq_running_of_above habove
    rw [hstage] at h
    refine follows_pure ⟨hstage, h, rfl, grants_nil, ?_⟩
    rw [hstage]
    rfl
  | cons stage rest ih =>
    obtain ⟨hacquire, hrest⟩ := acquire_acquires p h hidle habove
    refine hacquire.bind fun events result hacquired => ?_
    obtain ⟨outcome, s'⟩ := result
    cases outcome with
    | ok _ =>
      -- Nothing can fail once the counters are cleared and the last stage is acquired.
      by_cases hlast : stage = .running
      · subst hlast
        cases hrest
        obtain ⟨hsame, hfilled, hgrants, hhandles, -⟩ := hacquired
        refine follows_pure ⟨rfl, { hfilled with }, hsame, ?_, ?_⟩
        · rw [List.append_nil]
          exact hgrants
        · rw [List.append_nil]
          exact hhandles
      · have hclimb := ih (s := { s' with stage := stage }) { hacquired.2.1 with }
          (Stage.ne_idle_of_above habove) hrest
        exact hclimb.mono fun later result hlater => .after hacquired hlast hlater
    | error e =>
      cases e with
      | refused e =>
        -- The stage has released its own handles; the unwinding releases those below it.
        obtain ⟨rfl, hbreaks, hsteps⟩ := hacquired
        refine (unwind_follows stage h (Stage.ne_running_of_above habove) e).mono
          fun later result hlater => ?_
        obtain ⟨rfl, hreleased, hsteps'⟩ := hlater
        refine ⟨rfl, ?_, ?_⟩
        · rw [deviceCalls_append]
          exact hbreaks.release hreleased _
        · rw [counterSteps_append, hsteps, hsteps', List.append_nil]
      | oversized required =>
        obtain ⟨rfl, hlarge, hstops, hnothing, hsteps⟩ := hacquired
        obtain ⟨hbelow, rfl⟩ := Stage.below_memory habove hstops.memorySize_mem
        refine follows_pure ⟨hbelow, hbelow ▸ h, rfl, hlarge, ?_⟩
        rw [List.append_nil, hnothing, hbelow]
        exact ⟨hstops.append _, rfl, hsteps⟩

/-! ## Setting up -/

/-- The counters after this error: cleared, but for the video flag, if it was the task that could
not be started. -/
def clearedFor (c : Counters) : SetupError → Counters
  | .startPacer _ => { active := c.active }
  | _ => c

/-- What comes of a setup of an idle session with these calls of the device, and of the counters. -/
def SetsUpOnce (s : Session) (p : SetupParams) (c : Counters) (calls : List DeviceEvent) :
    Result SetupFailure → Counters → Prop
  | (.ok (), s'), _ =>
    p.objection? = none ∧ Grants Request.inOrder calls ∧ s'.stage = .running ∧
      s'.Filled .running ∧ s'.emptied = s.emptied ∧ s'.handles .running = acquired calls
  | (.error (.refused e), s'), c' =>
    s' = s ∧ c' = clearedFor c e ∧
      (p.objection? = some e ∧ calls = [] ∨
        p.objection? = none ∧ BreaksOff Request.inOrder [] calls e)
  | (.error (.oversized required), s'), c' =>
    p.objection? = none ∧ TooLarge required ∧ StopsAt Request.inOrder calls required ∧
      s'.stage = .library ∧ s'.Filled .library ∧ s'.emptied = s.emptied ∧
      s'.handles .library = acquired calls ∧ c' = c

theorem countersAfter_clearedBy {events : List CallEvent} {e : SetupError}
    (h : counterSteps events = clearedBy e) (c : Counters) :
    countersAfter events c = clearedFor c e := by
  rw [countersAfter, h]
  cases e <;> rfl

theorem ClimbsBy.setsUpOnce {s' : Session} {p : SetupParams} {events : List CallEvent}
    {result : Result SetupFailure} (hobjection : p.objection? = none) (hs' : s'.emptied = s)
    (hnothing : s'.handles s'.stage = []) (h : ClimbsBy Request.inOrder s' events result)
    (c : Counters) :
    SetsUpOnce s p c (deviceCalls events) result (countersAfter events c) := by
  subst hs'
  obtain ⟨outcome, s''⟩ := result
  cases outcome with
  | ok _ =>
    obtain ⟨hrunning, hfilled, hsame, hgrants, hhandles⟩ := h
    rw [hnothing, List.append_nil] at hhandles
    exact ⟨hobjection, hgrants, hrunning, hfilled, hsame, hhandles⟩
  | error e =>
    cases e with
    | refused e =>
      obtain ⟨hsame, hbreaks, hcleared⟩ := h
      rw [hnothing] at hbreaks
      exact ⟨hsame, countersAfter_clearedBy hcleared c, .inr ⟨hobjection, hbreaks⟩⟩
    | oversized required =>
      obtain ⟨hlibrary, hfilled, hsame, hlarge, hstops, hhandles, hsteps⟩ := h
      rw [hnothing, List.append_nil] at hhandles
      have hcounters : countersAfter events c = c := by
        rw [countersAfter, hsteps]
        rfl
      exact ⟨hobjection, hlarge, hstops, hlibrary, hfilled, hsame, hhandles, hcounters⟩

theorem climb_setsUpOnce (p : SetupParams) (h : s.Filled .idle) (hstage : s.stage = .idle)
    (c : Counters) : (s.climb p Stage.ladder).Follows fun events result =>
      SetsUpOnce s p c (deviceCalls events) result (countersAfter events c) := by
  have hempty := h.emptied hstage
  refine (negotiate_follows h p).bind fun events result hformat => ?_
  obtain ⟨hcalls, hsteps, hnegotiated⟩ := hformat
  have hcalls' (later : List CallEvent) : deviceCalls (events ++ later) = deviceCalls later := by
    rw [deviceCalls_append, hcalls, List.nil_append]
  have hsteps' (later : List CallEvent) : counterSteps (events ++ later) = counterSteps later := by
    rw [counterSteps_append, hsteps, List.nil_append]
  rcases hnegotiated with ⟨e, hobjection, hcleared, rfl⟩ | ⟨s', hobjection, rfl, hsame, hfilled⟩
  · have hunwind := unwind_follows .format (hstage ▸ h : s.Filled s.stage)
      (by rw [hstage]; nofun) e
    refine hunwind.mono fun later result hlater => ?_
    obtain ⟨rfl, hreleased, hquiet⟩ := hlater
    rw [hstage] at hreleased
    have hnothing : deviceCalls later = [] := List.map_eq_nil_iff.mp hreleased
    refine ⟨hempty, countersAfter_clearedBy ?_ c, .inl ⟨hobjection, ?_⟩⟩
    · rw [hsteps', hquiet, hcleared]
    · rw [hcalls', hnothing]
  · have hclimb := climb_climbsBy (s := { s' with stage := .format }) p { hfilled with } nofun rfl
    refine hclimb.mono fun later result hlater => ?_
    have hlater : ClimbsBy Request.inOrder { s' with stage := .format } later result := hlater
    have hempty' : emptied { s' with stage := .format } = s := hsame.trans hempty
    rw [hcalls', countersAfter, hsteps']
    exact hlater.setsUpOnce hobjection hempty' rfl c

theorem setup_setsUpOnce (p : SetupParams) (h : s.Filled .idle) (hstage : s.stage = .idle)
    (c : Counters) : (s.setup p).Follows fun events result =>
      SetsUpOnce s p c (deviceCalls events) result (countersAfter events c) := by
  have hidle : ¬ s.stage ≠ .idle := not_not_intro hstage
  rw [setup, if_neg hidle]
  refine follows_call fun _ => ?_
  refine (climb_setsUpOnce p h hstage c).bind fun events result hclimb => ?_
  obtain ⟨outcome, s'⟩ := result
  cases outcome with
  | ok _ =>
    refine follows_call fun _ => follows_pure ?_
    change SetsUpOnce s p c (deviceCalls (events ++ [_])) _ (countersAfter (events ++ [_]) c)
    rw [deviceCalls_concat_log, countersAfter_concat_log]
    exact hclimb
  | error e =>
    refine follows_pure ?_
    rw [List.append_nil]
    exact hclimb

/-! ## Sessions that can arise -/

/-- The session came about by operations on any devices. -/
inductive Arises : Session → Prop
  | fresh (config : VideoConfig) (settings : PacerSettings) : Arises { config, settings }
  | operate {s : Session} (h : Arises s) {σ : Type} (i : Interpreter Call Call.Reply σ) (d : σ)
      (op : Operation) : Arises ((s.operate op).run i d).1.2

theorem filled_setup (h : s.Filled s.stage) (p : SetupParams) :
    (s.setup p).Follows fun _ result => result.2.Filled result.2.stage := by
  by_cases hidle : s.stage = .idle
  · refine (setup_setsUpOnce p (hidle ▸ h) hidle {}).mono fun events result hsetup => ?_
    obtain ⟨outcome, s'⟩ := result
    cases outcome with
    | ok _ =>
      obtain ⟨-, -, hrunning, hfilled, -⟩ := hsetup
      rw [hrunning]
      exact hfilled
    | error e =>
      cases e with
      | refused e =>
        obtain ⟨rfl, -⟩ := hsetup
        exact h
      | oversized required =>
        obtain ⟨-, -, -, hlibrary, hfilled, -⟩ := hsetup
        rw [hlibrary]
        exact hfilled
  · rw [setup, if_pos hidle]
    exact follows_pure h

theorem filled_teardown (h : s.Filled s.stage) :
    s.teardown.Follows fun _ result => result.2.Filled result.2.stage := by
  by_cases hrunning : s.stage = .running
  · rw [hrunning] at h
    obtain ⟨p, task, hpacer, hawaits⟩ := h.exists_pacer
    refine (teardown_closesBy h hrunning hpacer hawaits).mono fun events result hcloses => ?_
    cases hcloses with
    | late hstops =>
      cases hstops
      exact hrunning ▸ h.unpaced.paced hawaits.told
    | closed => exact filled_emptied s
  · refine (teardown_givesAllBack h hrunning).mono fun events result hall => ?_
    obtain ⟨outcome, s'⟩ := result
    cases outcome with
    | error e => exact hall.elim
    | ok _ =>
      obtain ⟨rfl, -⟩ := hall
      exact filled_emptied s

theorem filled_cleanup (h : s.Filled s.stage) :
    s.cleanup.Follows fun _ result => result.2.Filled result.2.stage :=
  follows_call fun _ => filled_teardown h

theorem filled_operate (h : s.Filled s.stage) (op : Operation) :
    (s.operate op).Follows fun _ result => result.2.Filled result.2.stage := by
  have hquiet {α : Type} {p : Action α} {answer : α → Answer} {session : α → Session}
      (hp : p.Ensures Call.Quiet fun a => s.Keeps (session a)) :
      (do let a ← p; return (answer a, session a) : Action (Answer × Session)).Follows
        fun _ result => result.2.Filled result.2.stage := by
    refine hp.follows.bind fun events a hkeeps => follows_pure ?_
    rw [hkeeps.2.stage]
    exact h.keeps hkeeps.2
  cases op with
  | setup p => exact (filled_setup h p).bind fun _ _ hfilled => follows_pure hfilled
  | teardown => exact (filled_teardown h).bind fun _ _ hfilled => follows_pure hfilled
  | cleanup => exact (filled_cleanup h).bind fun _ _ hfilled => follows_pure hfilled
  | submit u => exact hquiet (s.submit_keeps u)
  | decode u => exact hquiet (s.decodeUnit_keeps u)
  | start => exact hquiet (quiet_start.mono fun _ _ => .refl s)
  | stop => exact hquiet (quiet_stop.mono fun _ _ => .refl s)
  | showIndicator => exact follows_pure { h with }
  | hideIndicator => exact follows_pure { h with }

theorem Arises.filled (h : s.Arises) : s.Filled s.stage := by
  induction h with
  | fresh config settings => exact (stands_fresh config settings).filled
  | operate h i d op ih =>
    obtain ⟨events, hfilled⟩ := (filled_operate ih op).run i d
    exact hfilled

/-- A setup of an idle session runs it, with every request granted; or the session and the device
are as before, and the error is that of the first check or request that failed. Only the counters
may have been cleared, before the task was asked for. A memory size that leaves no room to be
rounded up is the one thing that ends a setup half way. A session that is not idle is not touched.
-/
theorem setup_once (h : s.Arises) (p : SetupParams) {σ : Type} (device : AbstractDevice σ)
    (c : Counters) (d : σ) :
    let done := (s.setup p).trace (Call.interpreter device) (c, d)
    (s.stage = .idle → SetsUpOnce s p c (deviceCalls done.1.2) done.1.1 done.2.1) ∧
      (s.stage ≠ .idle → done = (((.error (.refused (.alreadyAt s.stage)), s), []), c, d)) := by
  intro done
  refine ⟨fun hidle => ?_, fun hidle => ?_⟩
  · have hfilled : s.Filled .idle := hidle ▸ h.filled
    have hsetup := (setup_setsUpOnce p hfilled hidle c).trace (Call.interpreter device) (c, d)
    rw [← countersAfter_trace] at hsetup
    exact hsetup
  · change (s.setup p).trace _ _ = _
    rw [setup, if_pos hidle]
    rfl

def hdStream : SetupParams := { width := 1280, height := 720 }

/-- The block whose base cannot be found is freed, and so is what was acquired before it. -/
theorem setup_once_without_base :
    let d : Device := { faults := { failing := [.blockBase] } }
    let done := (setup {} hdStream).trace (Call.interpreter Device.simulated) ({}, d)
    Arises {} ∧ done.1.1.1 = .error (.refused (.blockBase Device.failure)) ∧
      done.2.2.ledger.events = [.acquire .texture, .acquire .library, .acquire .memoryBlock,
        .release .memoryBlock, .release .library, .release .texture] ∧
      SetsUpOnce {} hdStream {} (deviceCalls done.1.2) done.1.1 done.2.1 := by
  intro d done
  have hfresh : Arises {} := .fresh {} {}
  exact ⟨hfresh, rfl, by decide, (setup_once hfresh hdStream Device.simulated {} d).1 rfl⟩

/-- The largest multiple of a mebibyte is its own round-up, and yet it ends a setup half way. -/
theorem setup_oversized :
    let required : UInt64 := 0xFFFFFFFFFFF00000
    let d : Device := { faults := { failing := [.allocate], memorySize := some required } }
    let done := (setup {} hdStream).run Device.interpreter d
    let blocks := (required.toNat + (blockAlignment.toNat - 1)) / blockAlignment.toNat
    blocks * blockAlignment.toNat < UInt64.size ∧ done.1.1 = .error (.oversized required) ∧
      done.1.2.stage = .library ∧ done.2.ledger.library = true ∧ done.2.ledger.textures = 1 :=
  ⟨by decide, rfl, by decide, by decide, by decide⟩

end Session
end AvcPipeline
