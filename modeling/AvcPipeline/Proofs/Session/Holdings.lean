import AvcPipeline.Proofs.Device.Calls
import AvcPipeline.Proofs.Geometry
import AvcPipeline.Proofs.Session.FramePacer

/-!
# What is held at a stage

`Stands stage s d` says that the session `s` on the device `d` holds what was acquired up to this
stage and nothing else, in its own fields and in the ledger. The stage field itself is left out,
since it lags behind while a stage is acquired or released. A running session awaits its task, which
is the only one of the device. A task that was held up may be gone before the session knows, so it
is counted as long as the device has it.
-/

namespace AvcPipeline

namespace Stage

/-- What is held at a stage apart from the task, newest first. -/
def resources : Stage → List Resource
  | .idle | .format => []
  | .frameBuffer => [.texture]
  | .library => [.library, .texture]
  | .memory => [.memoryBlock, .library, .texture]
  | .decoder | .running => [.decoder, .memoryBlock, .library, .texture]

def above (stage : Stage) : List Stage :=
  ladder.drop stage.rank

variable {stage next : Stage} {rest : List Stage}

theorem ne_running_of_above (h : stage.above = next :: rest) : stage ≠ .running := by
  rintro rfl
  cases h

theorem held_prev {top : Stage} (h : stage.held = top :: rest) :
    top = stage ∧ stage ≠ .idle ∧ (stage.prev?.getD .idle).held = rest := by
  cases stage <;> cases h <;> exact ⟨rfl, nofun, rfl⟩

theorem prev_ne_running (stage : Stage) : stage.prev?.getD .idle ≠ .running := by
  cases stage <;> decide

end Stage

namespace Device

variable {stage below : Stage} {d d' : Device}

structure Backs (stage : Stage) (d : Device) : Prop where
  ledger : d.ledger.Holds ((d.tasks.map fun _ => Resource.task) ++ stage.resources)
  tasks : stage ≠ .running → d.tasks = []
  memorySize : d.faults.memorySize = none

theorem Backs.holds (h : d.Backs stage) (hstage : stage ≠ .running) :
    d.ledger.Holds stage.resources := by
  have hledger := h.ledger
  rwa [h.tasks hstage] at hledger

theorem Backs.of_holds (hledger : d.ledger.Holds stage.resources) (htasks : d.tasks = [])
    (hsize : d.faults.memorySize = none) : d.Backs stage where
  ledger := by rwa [htasks]
  tasks := fun _ => htasks
  memorySize := hsize

theorem holdings_eq (h : d'.holdings = d.holdings) :
    d'.ledger = d.ledger ∧ d'.tasks = d.tasks ∧ d'.faults = d.faults := by
  simp only [holdings, Prod.mk.injEq] at h
  exact ⟨h.1, h.2.1, h.2.2.2⟩

theorem Backs.congr (h : d.Backs stage) (hsame : d'.holdings = d.holdings) : d'.Backs stage := by
  obtain ⟨hledger, htasks, hfaults⟩ := holdings_eq hsame
  exact ⟨by rw [hledger, htasks]; exact h.ledger, by rw [htasks]; exact h.tasks,
    by rw [hfaults]; exact h.memorySize⟩

theorem Backs.gain {r : Resource} (h : d.Backs below) (hgain : d.Gains r d')
    (hbelow : below ≠ .running) (hresources : stage.resources = r :: below.resources) :
    d'.Backs stage := by
  have hledger := hgain.ledger (h.holds hbelow)
  rw [← hresources] at hledger
  exact .of_holds hledger (hgain.tasks.trans (h.tasks hbelow)) (hgain.faults ▸ h.memorySize)

theorem Backs.lose {r : Resource} (h : d.Backs stage) (hlose : d.Loses r d')
    (hstage : stage ≠ .running) (hresources : stage.resources = r :: below.resources)
    (honce : r = .library → .library ∉ below.resources) : d'.Backs below := by
  have hledger := h.holds hstage
  rw [hresources] at hledger
  exact .of_holds (hlose.ledger honce hledger) (hlose.tasks.trans (h.tasks hstage))
    (hlose.faults ▸ h.memorySize)

/-- The task of a running session, which did not panic, if it is not gone. -/
structure Paces (task : TaskHandle) (d : Device) : Prop where
  backs : d.Backs .running
  runs : d.Runs task

theorem Paces.congr {task : TaskHandle} (h : d.Paces task) (hsame : d'.holdings = d.holdings) :
    d'.Paces task := by
  obtain ⟨-, htasks, -⟩ := holdings_eq hsame
  exact ⟨h.backs.congr hsame, by rw [Runs, htasks]; exact h.runs⟩

end Device

namespace Session

structure Filled (stage : Stage) (s : Session) : Prop where
  geometry : s.geometry.isSome = decide (1 ≤ stage.rank)
  initInfo : s.initInfo.isSome = decide (1 ≤ stage.rank)
  fixup : s.fixup.isSome = decide (1 ≤ stage.rank)
  assembler : s.assembler.isSome = decide (2 ≤ stage.rank)
  texture : s.texture.isSome = decide (2 ≤ stage.rank)
  memory : s.memory.isSome = decide (4 ≤ stage.rank)
  decoder : s.decoder.isSome = decide (5 ≤ stage.rank)
  pacer : s.pacer.isSome = decide (6 ≤ stage.rank)
  awaits : ∀ p ∈ s.pacer, ∃ task, p.Awaits task
  legal : ∀ info ∈ s.initInfo, info.Legal

structure Empty (s : Session) : Prop where
  geometry : s.geometry = none
  initInfo : s.initInfo = none
  fixup : s.fixup = none
  assembler : s.assembler = none
  texture : s.texture = none
  memory : s.memory = none
  decoder : s.decoder = none
  pacer : s.pacer = none

structure Full (s : Session) : Prop where
  geometry : s.geometry.isSome
  initInfo : s.initInfo.isSome
  fixup : s.fixup.isSome
  assembler : s.assembler.isSome
  texture : s.texture.isSome
  memory : s.memory.isSome
  decoder : s.decoder.isSome
  pacer : s.pacer.any FramePacer.isRunning

structure Stands (stage : Stage) (s : Session) (d : Device) : Prop where
  filled : s.Filled stage
  backs : d.Backs stage
  runs : stage = .running → ∀ p ∈ s.pacer, ∀ task ∈ p.handle, d.Runs task

variable {s : Session} {d d' : Device} {stage : Stage}

theorem Filled.empty (h : s.Filled .idle) : s.Empty := by
  have hnone {α : Type} {o : Option α} (ho : o.isSome = false) : o = none :=
    Option.not_isSome_iff_eq_none.mp (Bool.eq_false_iff.mp ho)
  exact ⟨hnone h.geometry, hnone h.initInfo, hnone h.fixup, hnone h.assembler, hnone h.texture,
    hnone h.memory, hnone h.decoder, hnone h.pacer⟩

theorem Filled.paced {p : FramePacer} {task : TaskHandle} (h : s.Filled .decoder)
    (hawaits : p.Awaits task) : Filled .running { s with pacer := some p } :=
  { h with
    pacer := rfl
    awaits := fun _ hp => ⟨task, Option.some.inj hp ▸ hawaits⟩ }

theorem Filled.unpaced (h : s.Filled .running) : Filled .decoder { s with pacer := none } :=
  { h with pacer := rfl, awaits := nofun }

theorem Filled.exists_pacer (h : s.Filled .running) :
    ∃ p task, s.pacer = some p ∧ p.Awaits task := by
  obtain ⟨p, hpacer⟩ := Option.isSome_iff_exists.mp h.pacer
  obtain ⟨task, hawaits⟩ := h.awaits p hpacer
  exact ⟨p, task, hpacer, hawaits⟩

theorem Filled.full (h : s.Filled .running) : s.Full := by
  obtain ⟨p, task, hpacer, hawaits⟩ := h.exists_pacer
  refine ⟨h.geometry, h.initInfo, h.fixup, h.assembler, h.texture, h.memory, h.decoder, ?_⟩
  rw [hpacer]
  exact hawaits.isRunning

theorem Stands.exists_pacer (h : Stands .running s d) :
    ∃ p task, s.pacer = some p ∧ p.Awaits task ∧ d.Paces task := by
  obtain ⟨p, task, hpacer, hawaits⟩ := h.filled.exists_pacer
  exact ⟨p, task, hpacer, hawaits, h.backs, h.runs rfl p hpacer task hawaits.handle⟩

theorem stands_running {p : FramePacer} {task : TaskHandle} (hfilled : s.Filled .running)
    (hpacer : s.pacer = some p) (hhandle : p.handle = some task) (hpaces : d.Paces task) :
    Stands .running s d where
  filled := hfilled
  backs := hpaces.backs
  runs := by
    rintro - p' hp' task' htask'
    cases hpacer.symm.trans hp'
    cases hhandle.symm.trans htask'
    exact hpaces.runs

theorem Stands.withStage (h : Stands stage s d) (other : Stage) :
    Stands stage { s with stage := other } d :=
  ⟨{ h.filled with }, h.backs, h.runs⟩

theorem Stands.congr (h : Stands stage s d) (hsame : d'.holdings = d.holdings) :
    Stands stage s d' where
  filled := h.filled
  backs := h.backs.congr hsame
  runs hstage p hp task htask := by
    rw [Device.Runs, (Device.holdings_eq hsame).2.1]
    exact h.runs hstage p hp task htask

theorem after_log {α : Type} {post : α × Device → Prop} {level : LogLevel} {source : LogSource}
    {message : String} {f : Unit → Action α}
    (h : ∀ d', d'.holdings = d.holdings → post ((f ()).run Device.interpreter d')) :
    post ((Action.log level source message >>= f).run Device.interpreter d) :=
  h _ rfl

theorem stands_fresh (config : VideoConfig) (settings : PacerSettings) :
    Stands .idle { config, settings } {} where
  filled := {
    geometry := rfl
    initInfo := rfl
    fixup := rfl
    assembler := rfl
    texture := rfl
    memory := rfl
    decoder := rfl
    pacer := rfl
    awaits := nofun
    legal := nofun }
  backs := .of_holds Ledger.holds_nil rfl rfl
  runs := nofun

end Session
end AvcPipeline
