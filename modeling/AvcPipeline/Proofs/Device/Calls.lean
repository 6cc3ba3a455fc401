import AvcPipeline.Proofs.Device.Ledger
import AvcPipeline.Proofs.Program

/-!
# What the calls of a session do to the device

Each call that acquires something either gains exactly that or leaves the device as it was; a call
that gives something back loses exactly that, if it was acquired last. The calls about a task leave
its count until it is joined. The calls that decode and show are quiet: they change only the screen,
the counters and the log, and the counters only as the presenting side may. Those among them that
draw do not even that.
-/

namespace AvcPipeline

open Program

namespace Device

variable {d d' : Device}

structure Gains (r : Resource) (d d' : Device) : Prop where
  ledger : ∀ {stack}, d.ledger.Holds stack → d'.ledger.Holds (r :: stack)
  tasks : d'.tasks = d.tasks
  faults : d'.faults = d.faults

structure Loses (r : Resource) (d d' : Device) : Prop where
  ledger : ∀ {stack}, (r = .library → .library ∉ stack) → d.ledger.Holds (r :: stack) →
    d'.ledger.Holds stack
  tasks : d'.tasks = d.tasks
  faults : d'.faults = d.faults

theorem gains_acquireId (d : Device) (r : Resource) : d.Gains r (d.acquireId r).2 :=
  ⟨fun h => h.acquire r, rfl, rfl⟩

theorem loses_releaseOf (d : Device) (r : Resource) : d.Loses r (d.releaseOf r) :=
  ⟨fun honce h => h.release honce, rfl, rfl⟩

/-! ## Calls that acquire -/

theorem run_createTexture (d : Device) (width height : UInt32) (format : PixelFormat) :
    (Action.createTexture width height format).run interpreter d = (none, d) ∨
      ∃ texture d', (Action.createTexture width height format).run interpreter d =
        (some texture, d') ∧ d.Gains .texture d' := by
  have hrun : (Action.createTexture width height format).run interpreter d =
      if d.fails .createTexture then (none, d)
      else (some { id := (d.acquireId .texture).1, width, height, format },
        (d.acquireId .texture).2) := rfl
  rw [hrun]
  split
  · exact .inl rfl
  · exact .inr ⟨_, _, rfl, d.gains_acquireId .texture⟩

theorem run_initLibrary (d : Device) (info : InitInfo) :
    (∃ e, (Action.initLibrary info).run interpreter d = (.error e, d)) ∨
      ∃ d', (Action.initLibrary info).run interpreter d = (.ok (), d') ∧ d.Gains .library d' := by
  have hrun : (Action.initLibrary info).run interpreter d =
      if d.fails .initLibrary || d.ledger.library then (.error failure, d)
      else (.ok (), { d with ledger := d.ledger.acquire .library }) := rfl
  rw [hrun]
  split
  · exact .inl ⟨_, rfl⟩
  · exact .inr ⟨_, rfl, fun h => h.acquire .library, rfl, rfl⟩

theorem run_allocate (d : Device) (name : String) (size : UInt64) :
    (∃ e, (Action.allocate name size).run interpreter d = (.error e, d)) ∨
      ∃ block d', (Action.allocate name size).run interpreter d = (.ok block, d') ∧
        d.Gains .memoryBlock d' := by
  let gained := (d.acquireId .memoryBlock).2
  have hrun : (Action.allocate name size).run interpreter d =
      if d.fails .allocate then (.error failure, d)
      else (.ok ⟨(d.acquireId .memoryBlock).1.toInt32, size⟩,
        { gained with ledger := { gained.ledger with lastBlockSize := size } }) := rfl
  rw [hrun]
  split
  · exact .inl ⟨_, rfl⟩
  · exact .inr ⟨_, _, rfl, fun h => h.acquire .memoryBlock, rfl, rfl⟩

theorem run_createDecoder (d : Device) (memory : FrameMemory) (info : DecoderInfo) :
    (∃ e, (Action.createDecoder memory info).run interpreter d = (.error e, d)) ∨
      ∃ decoder d', (Action.createDecoder memory info).run interpreter d = (.ok decoder, d') ∧
        d.Gains .decoder d' := by
  have hrun : (Action.createDecoder memory info).run interpreter d =
      if d.fails .createDecoder || memory.size < memorySize info then (.error failure, d)
      else (.ok ⟨(d.acquireId .decoder).1⟩, (d.acquireId .decoder).2) := rfl
  rw [hrun]
  split
  · exact .inl ⟨_, rfl⟩
  · exact .inr ⟨_, _, rfl, d.gains_acquireId .decoder⟩

/-! ## Calls that release -/

theorem loses_freeTexture (d : Device) (texture : Texture) :
    d.Loses .texture ((Action.freeTexture texture).run interpreter d).2 :=
  d.loses_releaseOf .texture

theorem loses_free (d : Device) (block : MemoryBlock) :
    d.Loses .memoryBlock ((Action.free block).run interpreter d).2 :=
  d.loses_releaseOf .memoryBlock

theorem loses_deleteDecoder (d : Device) (decoder : DecoderHandle) :
    d.Loses .decoder ((Action.deleteDecoder decoder).run interpreter d).2 :=
  d.loses_releaseOf .decoder

theorem loses_termLibrary {stack : List Resource} (h : d.ledger.Holds (.library :: stack)) :
    d.Loses .library (Action.termLibrary.run interpreter d).2 := by
  have hlibrary : d.ledger.library = true := h.2.1.trans (decide_eq_true List.mem_cons_self)
  have hrun : (Action.termLibrary.run interpreter d).2 =
      if d.ledger.library then d.releaseOf .library else d := rfl
  rw [hrun, if_pos hlibrary]
  exact d.loses_releaseOf .library

/-! ## Tasks -/

/-- There is no task but this one, which did not panic. -/
def Runs (task : TaskHandle) (d : Device) : Prop :=
  d.tasks = [] ∨ ∃ t, d.tasks = [t] ∧ t.handle = task ∧ t.panicked = false

/-- What comes of asking for a task when there is none. A host without a thread to give leaves an
acquisition with its release in the log; a new task was not told to stop yet. -/
inductive Spawned (d : Device) : Except String TaskHandle × Device → Prop
  | refused {e : String} {d' : Device} (hledger : ∀ {stack}, d.ledger.Holds stack →
      d'.ledger.Holds stack) (htasks : d'.tasks = []) (hfaults : d'.faults = d.faults) :
      Spawned d (.error e, d')
  | started {t : Task} {d' : Device} (hledger : ∀ {stack}, d.ledger.Holds stack →
      d'.ledger.Holds (.task :: stack)) (htasks : d'.tasks = [t]) (hfresh : t.stopping = false)
      (hwell : t.panicked = false) (hfaults : d'.faults = d.faults) :
      Spawned d (.ok t.handle, d')

theorem run_spawn (htasks : d.tasks = []) (name : String) (stackSize : Nat) (body : TaskBody) :
    d.Spawned ((Action.spawn name stackSize body).run interpreter d) := by
  have hrun : (Action.spawn name stackSize body).run interpreter d = d.spawn := rfl
  rw [hrun, spawn]
  split
  · exact .refused id htasks rfl
  · dsimp only
    split
    · exact .refused (fun h => (h.acquire .task).release nofun) htasks rfl
    · exact .started (t := { handle := ⟨d.started + 1⟩, stall := d.faults.stall })
        (fun h => h.acquire .task) (by rw [htasks]; rfl) rfl rfl rfl

theorem task?_of_tasks {task : TaskHandle} {t : Task} (htasks : d.tasks = [t])
    (hhandle : t.handle = task) : d.task? task = some t := by
  rw [task?, htasks]
  exact List.find?_cons_of_pos (decide_eq_true hhandle)

theorem tasks_withoutTask {task : TaskHandle} {t : Task} (htasks : d.tasks = [t])
    (hhandle : t.handle = task) : (d.withoutTask task).tasks = [] := by
  simp [withoutTask, htasks, hhandle]

/-! ## Quiet calls -/

/-- What a quiet call leaves alone. -/
def holdings (d : Device) : Ledger × List Task × Nat × Faults :=
  (d.ledger, d.tasks, d.started, d.faults)

end Device

/-- The calls that decode and show. -/
def Call.Quiet : Call → Prop
  | .device (.decode _ _ _) | .device .startDrawing | .device (.drawTexture _ _ _)
  | .device (.drawText _ _ _ _ _) | .device .endDrawing | .device .waitRenderingDone
  | .device .swapBuffers | .device (.setVblankWait _) => True
  | .device _ => False
  | .counter .takeFrames | .counter (.addQuota _) | .counter (.publish _) | .counter .reset => False
  | _ => True

def Call.Draws : Call → Prop
  | .device .startDrawing | .device (.drawTexture _ _ _) | .device (.drawText _ _ _ _ _)
  | .device .endDrawing | .device .waitRenderingDone | .device .swapBuffers => True
  | .counter .lastInterval => True
  | _ => False

theorem Call.Draws.quiet {c : Call} (h : c.Draws) : c.Quiet := by
  unfold Call.Draws at h
  split at h
  all_goals first | exact h.elim | trivial

namespace Device

theorem holdings_answer (c : Call) (d : Device) (h : c.Quiet) :
    (interpreter.answer c d).2.holdings = d.holdings := by
  cases c with
  | log record => rfl
  | counter op => rfl
  | device c =>
    cases c with
    | decode decoder unit target =>
      change (d.decode unit target).2.holdings = _
      unfold decode
      dsimp only
      split <;> rfl
    | startDrawing => rfl
    | drawTexture => rfl
    | drawText => rfl
    | endDrawing => rfl
    | waitRenderingDone => rfl
    | swapBuffers => rfl
    | setVblankWait => rfl
    | _ => exact h.elim

end Device
end AvcPipeline
