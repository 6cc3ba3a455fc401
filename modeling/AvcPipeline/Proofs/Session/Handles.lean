import AvcPipeline.Proofs.Device.Handles
import AvcPipeline.Proofs.Session.Holdings

/-!
# The handles of a session

The handles that a session holds at a stage, and what a teardown does with them on any device: each
is released once, newest first, and what is left of the session is its settings, its indicator and
its statistics. A running session stops its pacer first. If the task is late, nothing is released
and only the pacer is another.
-/

namespace AvcPipeline

theorem Stage.eq_idle_of_held {stage : Stage} (h : stage.held = []) : stage = .idle := by
  cases stage with
  | idle => rfl
  | _ => cases h

namespace Session

open Program CallEvent

def emptied (s : Session) : Session where
  config := s.config
  settings := s.settings
  indicator := s.indicator
  stats := s.stats

def handlesAt (s : Session) : Stage → List Handle
  | .idle | .format => []
  | .frameBuffer => (s.texture.map Handle.texture).toList
  | .library => [.library]
  | .memory => (s.memory.map fun memory => Handle.block memory.block).toList
  | .decoder => (s.decoder.map Handle.decoder).toList
  | .running => ((s.pacer.bind FramePacer.handle).map Handle.task).toList

def handles (s : Session) (stage : Stage) : List Handle :=
  stage.held.flatMap s.handlesAt

variable {s s' : Session} {stage : Stage}

theorem Filled.emptied (h : s.Filled .idle) (hstage : s.stage = .idle) : s.emptied = s := by
  obtain ⟨hgeometry, hinit, hfixup, hassembler, htexture, hmemory, hdecoder, hpacer⟩ := h.empty
  cases s
  cases hstage
  cases hgeometry
  cases hinit
  cases hfixup
  cases hassembler
  cases htexture
  cases hmemory
  cases hdecoder
  cases hpacer
  rfl

theorem filled_emptied (s : Session) : s.emptied.Filled .idle :=
  { (stands_fresh s.config s.settings).filled with }

theorem handles_of_held {rest : List Stage} (hheld : stage.held = stage :: rest) :
    s.handles stage = s.handlesAt stage ++ s.handles (stage.prev?.getD .idle) := by
  rw [handles, hheld, List.flatMap_cons, handles, (Stage.held_prev hheld).2.2]

/-! ## Giving a stage back -/

def GivesBack (stage : Stage) (s : Session) (events : List CallEvent) :
    Result TeardownError → Prop
  | (.ok (), s') =>
    s'.emptied = s.emptied ∧ s'.Filled (stage.prev?.getD .idle) ∧
      s'.handles (stage.prev?.getD .idle) = s.handles (stage.prev?.getD .idle) ∧
      Releases (s.handlesAt stage) (deviceCalls events) ∧ counterSteps events = []
  | (.error _, _) => False

theorem release_frameBuffer_givesBack (h : s.Filled .frameBuffer) :
    (s.release .frameBuffer).Follows (GivesBack .frameBuffer s) := by
  obtain ⟨texture, htexture⟩ := Option.isSome_iff_exists.mp h.texture
  have hhandles : s.handlesAt .frameBuffer = [.texture texture] := by rw [handlesAt, htexture]; rfl
  simp only [release, htexture]
  refine follows_call fun _ => ?_
  exact ⟨rfl, { h with assembler := rfl, texture := rfl }, rfl, hhandles ▸ rfl, rfl⟩

theorem release_library_givesBack (h : s.Filled .library) :
    (s.release .library).Follows (GivesBack .library s) :=
  follows_call fun _ => ⟨rfl, { h with }, rfl, rfl, rfl⟩

theorem release_memory_givesBack (h : s.Filled .memory) :
    (s.release .memory).Follows (GivesBack .memory s) := by
  obtain ⟨memory, hmemory⟩ := Option.isSome_iff_exists.mp h.memory
  have hhandles : s.handlesAt .memory = [.block memory.block] := by rw [handlesAt, hmemory]; rfl
  simp only [release, hmemory]
  refine follows_call fun _ => ?_
  exact ⟨rfl, { h with memory := rfl }, rfl, hhandles ▸ rfl, rfl⟩

theorem release_decoder_givesBack (h : s.Filled .decoder) :
    (s.release .decoder).Follows (GivesBack .decoder s) := by
  obtain ⟨decoder, hdecoder⟩ := Option.isSome_iff_exists.mp h.decoder
  have hhandles : s.handlesAt .decoder = [.decoder decoder] := by rw [handlesAt, hdecoder]; rfl
  simp only [release, hdecoder]
  refine follows_call fun _ => ?_
  exact ⟨rfl, { h with decoder := rfl }, rfl, hhandles ▸ rfl, rfl⟩

theorem release_givesBack (h : s.Filled stage) (hidle : stage ≠ .idle)
    (hrunning : stage ≠ .running) : (s.release stage).Follows (GivesBack stage s) := by
  cases stage with
  | idle => exact absurd rfl hidle
  | format =>
    exact ⟨rfl, { h with geometry := rfl, initInfo := rfl, fixup := rfl, legal := nofun }, rfl, rfl,
      rfl⟩
  | frameBuffer => exact release_frameBuffer_givesBack h
  | library => exact release_library_givesBack h
  | memory => exact release_memory_givesBack h
  | decoder => exact release_decoder_givesBack h
  | running => exact absurd rfl hrunning

/-! ## Giving everything back -/

def GivesAllBack (s : Session) (events : List CallEvent) : Result TeardownError → Prop
  | (.ok (), s') =>
    s' = s.emptied ∧ Releases (s.handles s.stage) (deviceCalls events) ∧ counterSteps events = []
  | (.error _, _) => False

theorem descend_givesAllBack {list : List Stage} (h : s.Filled s.stage)
    (hrunning : s.stage ≠ .running) (hheld : s.stage.held = list) :
    (s.descend list).Follows (GivesAllBack s) := by
  induction list generalizing s with
  | nil =>
    have hidle : s.stage = .idle := Stage.eq_idle_of_held hheld
    rw [hidle] at h
    have hhandles : s.handles s.stage = [] := by rw [hidle]; rfl
    exact follows_pure ⟨(h.emptied hidle).symm, hhandles ▸ rfl, rfl⟩
  | cons top rest ih =>
    obtain ⟨rfl, hne, hrest⟩ := Stage.held_prev hheld
    refine (release_givesBack h hne hrunning).bind fun events result hback => ?_
    obtain ⟨outcome, s'⟩ := result
    cases outcome with
    | error e => exact hback.elim
    | ok _ =>
      obtain ⟨hsame, hfilled, hhandles, hreleased, hsteps⟩ := hback
      have hbelow := ih (s := { s' with stage := s.stage.prev?.getD .idle }) { hfilled with }
        (Stage.prev_ne_running _) hrest
      refine hbelow.mono fun later result hall => ?_
      obtain ⟨outcome, s''⟩ := result
      cases outcome with
      | error e => exact hall.elim
      | ok _ =>
        obtain ⟨hempty, hreleased', hsteps'⟩ := hall
        refine ⟨hempty.trans hsame, ?_, ?_⟩
        · rw [deviceCalls_append, handles_of_held hheld, ← hhandles]
          exact hreleased.append hreleased'
        · rw [counterSteps_append, hsteps, hsteps']
          rfl

theorem teardown_givesAllBack (h : s.Filled s.stage) (hrunning : s.stage ≠ .running) :
    s.teardown.Follows (GivesAllBack s) :=
  descend_givesAllBack h hrunning rfl

/-! ## A running session -/

/-- What comes of a teardown on any device of a running session with this pacer. -/
inductive ClosesBy (s : Session) (p : FramePacer) (task : TaskHandle) :
    List CallEvent → Result TeardownError → Prop
  | late {events : List CallEvent} {e : TeardownError} {p' : FramePacer}
      (hstops : p.StopsBy s.settings.shutdownTimeout task events (.error e, p')) :
      ClosesBy s p task events (.error e, { s with pacer := some p' })
  | closed {stopping rest : List CallEvent} {p' : FramePacer}
      (hstops : p.StopsBy s.settings.shutdownTimeout task stopping (.ok (), p'))
      (hreleased : Releases (s.handles .decoder) (deviceCalls rest))
      (hsteps : counterSteps rest = []) : ClosesBy s p task (stopping ++ rest) (.ok (), s.emptied)

variable {p : FramePacer} {task : TaskHandle}

def Stops (s : Session) (p : FramePacer) (task : TaskHandle) (events : List CallEvent) :
    Result TeardownError → Prop
  | (.ok (), s') => s' = { s with pacer := none } ∧
    ∃ p', p.StopsBy s.settings.shutdownTimeout task events (.ok (), p')
  | (.error e, s') => ∃ p', s' = { s with pacer := some p' } ∧
    p.StopsBy s.settings.shutdownTimeout task events (.error e, p')

theorem stopPacer_stops (hpacer : s.pacer = some p) (hawaits : p.Awaits task) :
    s.stopPacer.Follows (Stops s p task) := by
  simp only [stopPacer, hpacer]
  refine (FramePacer.stop_stopsBy hawaits _).bind fun events result hstops => ?_
  obtain ⟨outcome, p'⟩ := result
  cases outcome with
  | error e =>
    refine follows_pure ⟨p', rfl, ?_⟩
    rwa [List.append_nil]
  | ok _ =>
    refine follows_pure ⟨rfl, p', ?_⟩
    rwa [List.append_nil]

theorem teardown_closesBy (h : s.Filled .running) (hstage : s.stage = .running)
    (hpacer : s.pacer = some p) (hawaits : p.Awaits task) :
    s.teardown.Follows (ClosesBy s p task) := by
  have hheld : s.stage.held = .running :: Stage.decoder.held := by rw [hstage]; rfl
  rw [teardown, hheld]
  refine (stopPacer_stops hpacer hawaits).bind fun events result hstops => ?_
  obtain ⟨outcome, s'⟩ := result
  cases outcome with
  | error e =>
    obtain ⟨p', rfl, hstops⟩ := hstops
    refine follows_pure ?_
    rw [List.append_nil]
    exact .late hstops
  | ok _ =>
    obtain ⟨rfl, p', hstops⟩ := hstops
    let stopped : Session := { s with pacer := none, stage := .decoder }
    have hstopped : stopped.Filled stopped.stage := { h.unpaced with }
    refine (teardown_givesAllBack hstopped nofun).mono fun rest result hall => ?_
    obtain ⟨outcome, s''⟩ := result
    cases outcome with
    | error e => exact hall.elim
    | ok _ =>
      obtain ⟨rfl, hreleased, hsteps⟩ := hall
      exact .closed hstops hreleased hsteps

end Session
end AvcPipeline
