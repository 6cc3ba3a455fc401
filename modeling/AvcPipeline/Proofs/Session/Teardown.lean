import AvcPipeline.Proofs.Session.Holdings

/-!
# Descending from stage to stage

Each step of a teardown gives back its stage completely, newest first. Only the first step from a
running session can fail, while the pacer task does not exit in time; nothing is given back then.
-/

namespace AvcPipeline

open Program CallEvent

namespace Device

variable {d d' : Device} {task : TaskHandle} {p : FramePacer} {timeout : Nanos}

/-! ## Waiting for a task -/

theorem Paces.changeTask (h : d.Paces task) (other : TaskHandle) {change : Task → Task}
    (hsame : ∀ t, (change t).handle = t.handle ∧ (change t).panicked = t.panicked) :
    (d.changeTask other change).Paces task where
  backs := {
    ledger := by
      rw [Device.changeTask, List.map_map]
      exact h.backs.ledger
    tasks := fun hne => absurd rfl hne
    memorySize := h.backs.memorySize }
  runs := by
    rcases h.runs with hnone | ⟨t, htasks, hhandle, hwell⟩
    · exact .inl (congrArg (List.map _) hnone)
    · refine .inr ⟨if t.handle = other then change t else t, congrArg (List.map _) htasks, ?_, ?_⟩
      · split
        · exact (hsame t).1.trans hhandle
        · exact hhandle
      · split
        · exact (hsame t).2.trans hwell
        · exact hwell

theorem Paces.awaitDone (h : d.Paces task) (other : TaskHandle) (timeout : Nanos) :
    (d.awaitDone other timeout).2.Paces task := by
  unfold Device.awaitDone
  split
  · exact h
  · split
    · exact h
    · exact h.changeTask other fun t => ⟨rfl, rfl⟩

theorem Paces.join (h : d.Paces task) : (d.join task).2.Backs .decoder := by
  have hledger := h.backs.ledger
  rcases h.runs with hnone | ⟨t, htasks, hhandle, hwell⟩
  · have hgone : d.task? task = none := by rw [task?, hnone]; rfl
    rw [hnone] at hledger
    rw [Device.join, hgone]
    exact .of_holds hledger hnone h.backs.memorySize
  · have hhere : d.task? task = some t := task?_of_tasks htasks hhandle
    rw [htasks] at hledger
    rw [Device.join, hhere]
    simp only [hwell, Bool.false_eq_true, if_false]
    have hother : Resource.task ≠ .library := by decide
    have hreleased : (d.releaseOf .task).ledger.Holds Stage.decoder.resources :=
      hledger.release (absurd · hother)
    exact .of_holds hreleased (tasks_withoutTask (d := d.releaseOf .task) htasks hhandle)
      h.backs.memorySize

theorem paces_of_waiting {signal : Signal} (h : d.Paces task)
    (hreplays : Replays interpreter ((p.waiting timeout signal).map ofDevice) d d') :
    d'.Paces task := by
  refine (hreplays.keeps h fun e he d hpaces => ?_).1
  obtain ⟨call, hcall, rfl⟩ := List.mem_map.mp he
  rcases List.mem_append.mp hcall with hup | hwait
  · obtain ⟨sender, -, rfl⟩ := List.mem_map.mp hup
    exact hpaces.changeTask sender.task fun t => ⟨rfl, rfl⟩
  · obtain rfl := List.mem_singleton.mp hwait
    exact hpaces.awaitDone _ _

theorem backs_of_farewell {stage : Stage} {records : List LogRecord} (h : d.Backs stage)
    (hreplays : Replays interpreter (records.map ofLog) d d') : d'.Backs stage := by
  refine (hreplays.keeps h fun e he d hbacks => ?_).1
  obtain ⟨record, -, rfl⟩ := List.mem_map.mp he
  exact hbacks.congr rfl

theorem run_stop (hp : p.Awaits task) (h : d.Paces task) (timeout : Nanos) :
    (∃ d', (p.stop timeout).run interpreter d = ((.ok (), p.takenApart), d') ∧
      d'.Backs .decoder) ∨
    ∃ d', (p.stop timeout).run interpreter d = ((.error (.pacerTimeout timeout), p.told), d') ∧
      d'.Paces task := by
  obtain ⟨events, hstops, hreplays⟩ := (FramePacer.stop_stopsBy hp timeout).replays interpreter d
  generalize (p.stop timeout).run interpreter d = done at hstops hreplays
  obtain ⟨result, last⟩ := done
  cases hstops with
  | late => exact .inr ⟨last, rfl, paces_of_waiting h hreplays⟩
  | joined hsignal panicked =>
    obtain ⟨waited, hwaited, hrest⟩ := hreplays.of_append
    obtain ⟨joined, hjoined, hlogged⟩ := hrest.of_append
    have hpaces : waited.Paces task := paces_of_waiting h hwaited
    have hbacks : joined.Backs .decoder := hjoined.2 ▸ hpaces.join
    exact .inl ⟨last, rfl, backs_of_farewell hbacks hlogged⟩

end Device

namespace Session

variable {s : Session} {d : Device} {stage : Stage}

/-- What comes of releasing a stage: the session stands below it, or the task of a running session
did not exit in time. -/
def Descends (stage : Stage) (s : Session) : Result TeardownError × Device → Prop
  | ((.ok (), s'), d') => s'.stage = s.stage ∧ Stands (stage.prev?.getD .idle) s' d'
  | ((.error _, s'), d') => stage = .running ∧ s'.stage = s.stage ∧ Stands .running s' d'

theorem release_format (h : Stands .format s d) :
    Descends .format s ((s.release .format).run Device.interpreter d) := by
  have hbacks : d.Backs .idle :=
    .of_holds (h.backs.holds nofun) (h.backs.tasks nofun) h.backs.memorySize
  exact ⟨rfl, { h.filled with geometry := rfl, initInfo := rfl, fixup := rfl, legal := nofun },
    hbacks, nofun⟩

theorem release_frameBuffer (h : Stands .frameBuffer s d) :
    Descends .frameBuffer s ((s.release .frameBuffer).run Device.interpreter d) := by
  obtain ⟨texture, htexture⟩ := Option.isSome_iff_exists.mp h.filled.texture
  simp only [release, htexture, run_bind]
  exact ⟨rfl, { h.filled with assembler := rfl, texture := rfl },
    h.backs.lose (Device.loses_freeTexture d texture) nofun rfl nofun, nofun⟩

theorem release_library (h : Stands .library s d) :
    Descends .library s ((s.release .library).run Device.interpreter d) := by
  have hlose := Device.loses_termLibrary (h.backs.holds nofun)
  simp only [release, run_bind]
  exact ⟨rfl, { h.filled with }, h.backs.lose hlose nofun rfl (by decide), nofun⟩

theorem release_memory (h : Stands .memory s d) :
    Descends .memory s ((s.release .memory).run Device.interpreter d) := by
  obtain ⟨memory, hmemory⟩ := Option.isSome_iff_exists.mp h.filled.memory
  simp only [release, hmemory, run_bind]
  exact ⟨rfl, { h.filled with memory := rfl },
    h.backs.lose (Device.loses_free d memory.block) nofun rfl nofun, nofun⟩

theorem release_decoder (h : Stands .decoder s d) :
    Descends .decoder s ((s.release .decoder).run Device.interpreter d) := by
  obtain ⟨decoder, hdecoder⟩ := Option.isSome_iff_exists.mp h.filled.decoder
  simp only [release, hdecoder, run_bind]
  exact ⟨rfl, { h.filled with decoder := rfl },
    h.backs.lose (Device.loses_deleteDecoder d decoder) nofun rfl nofun, nofun⟩

theorem release_running (h : Stands .running s d) :
    Descends .running s ((s.release .running).run Device.interpreter d) := by
  obtain ⟨p, task, hpacer, hawaits, hpaces⟩ := h.exists_pacer
  simp only [release, stopPacer, hpacer, run_bind]
  rcases Device.run_stop hawaits hpaces s.settings.shutdownTimeout with
    ⟨d', hrun, hbacks⟩ | ⟨d', hrun, hpaces'⟩
  · rw [hrun]
    exact ⟨rfl, h.filled.unpaced, hbacks, nofun⟩
  · rw [hrun]
    exact ⟨rfl, rfl, stands_running (h.filled.unpaced.paced hawaits.told) rfl hawaits.told.handle
      hpaces'⟩

theorem release_descends (h : Stands stage s d) (hstage : stage ≠ .idle) :
    Descends stage s ((s.release stage).run Device.interpreter d) := by
  cases stage with
  | idle => exact absurd rfl hstage
  | format => exact release_format h
  | frameBuffer => exact release_frameBuffer h
  | library => exact release_library h
  | memory => exact release_memory h
  | decoder => exact release_decoder h
  | running => exact release_running h

/-! ## Down to idle -/

def TearsDown (s : Session) : Result TeardownError × Device → Prop
  | ((.ok (), s'), d') => s'.stage = .idle ∧ Stands .idle s' d'
  | ((.error _, s'), d') => s.stage = .running ∧ s'.stage = .running ∧ Stands .running s' d'

theorem descend_tearsDown {list : List Stage} (h : Stands stage s d) (hstage : s.stage = stage)
    (hheld : stage.held = list) : TearsDown s ((s.descend list).run Device.interpreter d) := by
  induction list generalizing s d stage with
  | nil =>
    cases stage with
    | idle => exact ⟨hstage, h⟩
    | _ => cases hheld
  | cons top rest ih =>
    obtain ⟨rfl, hne, hrest⟩ := Stage.held_prev hheld
    have hrelease := release_descends h hne
    rw [descend, run_bind]
    generalize (s.release top).run Device.interpreter d = result at hrelease ⊢
    obtain ⟨⟨outcome, s'⟩, d'⟩ := result
    cases outcome with
    | error e =>
      obtain ⟨hrunning, hsame, hstands⟩ := hrelease
      have hs : s.stage = .running := hstage.trans hrunning
      exact ⟨hs, hsame.trans hs, hstands⟩
    | ok _ =>
      obtain ⟨-, hstands⟩ := hrelease
      have hbelow := ih (hstands.withStage (top.prev?.getD .idle)) rfl hrest
      dsimp only
      generalize run Device.interpreter _ d' = last at hbelow ⊢
      obtain ⟨⟨outcome, s''⟩, d''⟩ := last
      cases outcome with
      | ok _ => exact hbelow
      | error e => exact absurd hbelow.1 (Stage.prev_ne_running top)

theorem teardown_tearsDown (h : Stands s.stage s d) :
    TearsDown s (s.teardown.run Device.interpreter d) :=
  descend_tearsDown h rfl rfl

theorem cleanup_tearsDown (h : Stands s.stage s d) :
    TearsDown s (s.cleanup.run Device.interpreter d) :=
  after_log fun _ hsame => teardown_tearsDown (h.congr hsame)

end Session
end AvcPipeline
