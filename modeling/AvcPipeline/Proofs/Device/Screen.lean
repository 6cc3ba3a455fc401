import AvcPipeline.Device.Simulated
import AvcPipeline.Proofs.Device.Handles
import AvcPipeline.Proofs.Program

/-!
# What is seen on the screen

What a call does to the screen of the simulated device does not depend on the rest of the device,
nor on whether the call fails. So the calls of a run tell what the run does to the screen, and in
the same way what it does to the counters.
-/

namespace AvcPipeline

open Program CallEvent

namespace Screen

def after (c : Call) (s : Screen) : Screen :=
  match c with
  | .device (.decode _ _ _) => { s with decodeCalls := s.decodeCalls + 1 }
  | .device .startDrawing => { s with captions := [] }
  | .device (.drawText x y colour _ text) =>
    { s with captions := ⟨x, y, colour, text⟩ :: s.captions }
  | .device .endDrawing => { s with renderPending := true }
  | .device .waitRenderingDone => { s with renderPending := false }
  | .device .swapBuffers =>
    { s with
      unsyncedSwaps := s.unsyncedSwaps + if s.renderPending then 1 else 0
      presented := s.presented + 1 }
  | .device (.setVblankWait on) => { s with vblankWait := on }
  | _ => s

def along (events : List CallEvent) (s : Screen) : Screen :=
  events.foldl (fun s e => s.after e.1) s

theorem along_append (events more : List CallEvent) (s : Screen) :
    s.along (events ++ more) = (s.along events).along more :=
  List.foldl_append

end Screen

namespace Device

variable {d d' : Device} {events : List CallEvent}

/-- No call is made to fail, and a task that is told to stop exits within this time. -/
structure Prompt (span : Nanos) (d : Device) : Prop where
  failing : d.faults.failing = []
  outputs : d.faults.outputs = none
  stall : d.faults.stall ≤ span
  tasks : ∀ t ∈ d.tasks, t.stall ≤ span

/-- What an answer does to the device, apart from what the device holds, and how long the tasks take
after it. -/
structure Alters (c : DeviceCall) (d d' : Device) : Prop where
  screen : d'.screen = d.screen.after (.device c)
  counters : d'.counters = d.counters
  faults : d'.faults = d.faults
  tasks : ∀ {span}, d.Prompt span → ∀ t ∈ d'.tasks, t.stall ≤ span

variable {span timeout : Nanos}

theorem stall_changeTask (task : TaskHandle) {change : Task → Task}
    (hchange : ∀ t, (change t).stall ≤ t.stall) (htasks : ∀ t ∈ d.tasks, t.stall ≤ span) :
    ∀ t ∈ (d.changeTask task change).tasks, t.stall ≤ span := by
  intro t ht
  obtain ⟨before, hbefore, rfl⟩ := List.mem_map.mp ht
  split
  · exact Nat.le_trans (hchange before) (htasks before hbefore)
  · exact htasks before hbefore

theorem stall_withoutTask (task : TaskHandle) (htasks : ∀ t ∈ d.tasks, t.stall ≤ span) :
    ∀ t ∈ (d.withoutTask task).tasks, t.stall ≤ span :=
  fun t ht => htasks t (List.mem_filter.mp ht).1

theorem alters_answerDevice (c : DeviceCall) (d : Device) : Alters c d (d.answerDevice c).2 := by
  cases c with
  | initLibrary _ | termLibrary | queryMemory _ | allocate _ _ | createDecoder _ _
  | createTexture _ _ _ =>
    rw [answerDevice]
    split <;> exact ⟨rfl, rfl, rfl, fun h => h.tasks⟩
  | decode decoder unit target =>
    change Alters _ d (d.decode unit target).2
    unfold decode
    dsimp only
    split <;> exact ⟨rfl, rfl, rfl, fun h => h.tasks⟩
  | spawn name stackSize body =>
    change Alters _ d d.spawn.2
    unfold spawn
    split
    · exact ⟨rfl, rfl, rfl, fun h => h.tasks⟩
    · dsimp only
      split
      · exact ⟨rfl, rfl, rfl, fun h => h.tasks⟩
      · refine ⟨rfl, rfl, rfl, fun h => List.forall_mem_append.mpr ⟨h.tasks, ?_⟩⟩
        exact List.forall_mem_singleton.mpr h.stall
  | hangUp sender =>
    exact ⟨rfl, rfl, rfl, fun h => stall_changeTask sender.task (fun _ => Nat.le_refl _) h.tasks⟩
  | awaitDone receiver timeout =>
    change Alters _ d (d.awaitDone receiver.task timeout).2
    unfold awaitDone
    split
    · exact ⟨rfl, rfl, rfl, fun h => h.tasks⟩
    · split
      · exact ⟨rfl, rfl, rfl, fun h => h.tasks⟩
      · exact ⟨rfl, rfl, rfl,
          fun h => stall_changeTask receiver.task (fun _ => Nat.sub_le _ _) h.tasks⟩
  | join task =>
    change Alters _ d (d.join task).2
    unfold join
    split
    · exact ⟨rfl, rfl, rfl, fun h => h.tasks⟩
    · split <;> exact ⟨rfl, rfl, rfl, fun h => stall_withoutTask task h.tasks⟩
  | _ => exact ⟨rfl, rfl, rfl, fun h => h.tasks⟩

theorem Prompt.answer (h : d.Prompt span) (c : DeviceCall) : (d.answerDevice c).2.Prompt span := by
  have halters := alters_answerDevice c d
  exact ⟨halters.faults ▸ h.failing, halters.faults ▸ h.outputs, halters.faults ▸ h.stall,
    halters.tasks h⟩

theorem decode_of_prompt (h : d.Prompt span) {unit : AccessUnit} (hunit : unit.stream ≠ [])
    (target : PictureTarget) :
    (d.decode unit target).1.1 = .ok (if hasPicture unit.stream then 1 else 0) := by
  have hfails : (d.fails .decode || unit.stream.isEmpty) = false := by
    rw [fails, h.failing, List.isEmpty_eq_false_iff.mpr hunit]
    rfl
  rw [decode]
  change Prod.fst (Prod.fst (if d.fails .decode || unit.stream.isEmpty then _ else _)) = _
  rw [hfails]
  change Except.ok (d.faults.outputs.getD _) = _
  rw [h.outputs]
  rfl

theorem awaitDone_of_prompt (h : d.Prompt span) (hexits : span ≤ timeout) (task : TaskHandle) :
    ((d.answerDevice (.hangUp ⟨task⟩)).2.awaitDone task timeout).1 = .disconnected := by
  let told := (d.answerDevice (.hangUp ⟨task⟩)).2
  change (told.awaitDone task timeout).1 = _
  unfold awaitDone
  split
  · rfl
  · rename_i t htask
    unfold task? at htask
    have hhandle : t.handle = task := by simpa using List.find?_some htask
    have hmem : t ∈ told.tasks := List.mem_of_find?_eq_some htask
    have hstall : t.stall ≤ timeout :=
      Nat.le_trans ((h.answer (.hangUp ⟨task⟩)).tasks t hmem) hexits
    obtain ⟨before, -, hbefore⟩ := List.mem_map.mp hmem
    have hstopping : t.stopping = true := by
      split at hbefore
      · exact hbefore ▸ rfl
      · exact absurd (hbefore ▸ hhandle) ‹_›
    split
    · rfl
    · dsimp only
      rw [hstopping, decide_eq_true hstall]
      rfl

/-- No call is made to fail, and no task is held up. -/
structure Calm (d : Device) : Prop where
  faults : d.faults = {}
  tasks : ∀ t ∈ d.tasks, t.stall = 0

theorem Calm.prompt (h : d.Calm) : d.Prompt 0 where
  failing := congrArg Faults.failing h.faults
  outputs := congrArg Faults.outputs h.faults
  stall := Nat.le_of_eq (congrArg Faults.stall h.faults)
  tasks t ht := Nat.le_of_eq (h.tasks t ht)

/-- What an answer does to the device, apart from what the device holds. -/
structure Seen (c : DeviceCall) (d d' : Device) : Prop where
  screen : d'.screen = d.screen.after (.device c)
  counters : d'.counters = d.counters
  calm : d.Calm → d'.Calm

theorem seen_answerDevice (c : DeviceCall) (d : Device) : Seen c d (d.answerDevice c).2 := by
  have halters := alters_answerDevice c d
  refine ⟨halters.screen, halters.counters, fun h => ⟨halters.faults.trans h.faults, ?_⟩⟩
  exact fun t ht => Nat.le_zero.mp (halters.tasks h.prompt t ht)

theorem screen_answer (c : Call) (d : Device) :
    (interpreter.answer c d).2.screen = d.screen.after c := by
  cases c with
  | device c => exact (seen_answerDevice c d).screen
  | counter op => rfl
  | log record => rfl

theorem screen_of_replays (h : Replays interpreter events d d') :
    d'.screen = d.screen.along events :=
  h.view Device.screen screen_answer

theorem counters_of_replays (h : Replays interpreter events d d') :
    d'.counters = countersAfter events d.counters := by
  induction events generalizing d with
  | nil =>
    cases h
    rfl
  | cons e events ih =>
    obtain ⟨c, reply⟩ := e
    rw [ih h.2]
    cases c with
    | device c =>
      have hsame : (interpreter.answer (.device c) d).2.counters = d.counters :=
        (seen_answerDevice c d).counters
      rw [hsame]
      rfl
    | counter op => rfl
    | log record => rfl

end Device
end AvcPipeline
