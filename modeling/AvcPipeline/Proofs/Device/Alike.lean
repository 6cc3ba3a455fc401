import AvcPipeline.Proofs.Device.Raced
import AvcPipeline.Proofs.Session.Managing

/-!
# Two runs with the same replies

A program is run twice, and the device gives the same replies as long as everything before was the
same. `AnsweredAlike` says so of the two lists of calls, for whatever devices they were made on.
What else answers calls, the shared counters and the log, has to be seen to reply alike: then the
two runs make the same calls and end in the same result. A program that only manages a session asks
the counters nothing, so they may differ; any other program needs them to be equal.
-/

namespace AvcPipeline

namespace Program

variable {C : Type} {R : C → Type} {α σ τ : Type} {seam allowed : C → Prop}
  {events events' more more' : List (Event C R)}

/-- The calls of the seam get the same replies as long as all calls before them, with their replies,
were the same. -/
def AnsweredAlike (seam : C → Prop) (events events' : List (Event C R)) : Prop :=
  ∀ earlier c reply reply' later later', events = earlier ++ ⟨c, reply⟩ :: later →
    events' = earlier ++ ⟨c, reply'⟩ :: later' → seam c → reply = reply'

theorem AnsweredAlike.left (h : AnsweredAlike seam (events ++ more) (events' ++ more')) :
    AnsweredAlike seam events events' := by
  rintro earlier c reply reply' later later' rfl rfl
  refine h earlier c reply reply' (later ++ more) (later' ++ more') ?_ ?_ <;>
    rw [List.append_assoc, List.cons_append]

theorem AnsweredAlike.right (h : AnsweredAlike seam (events ++ more) (events ++ more')) :
    AnsweredAlike seam more more' := by
  rintro earlier c reply reply' later later' rfl rfl
  exact h (events ++ earlier) c reply reply' later later' (List.append_assoc _ _ _).symm
    (List.append_assoc _ _ _).symm

/-- What two interpreters have to keep so that the seam alone can tell their runs apart. -/
structure Lockstep (allowed seam : C → Prop) (i : Interpreter C R σ) (j : Interpreter C R τ)
    (related : σ → τ → Prop) : Prop where
  reply : ∀ {c s t}, allowed c → ¬ seam c → related s t → (i.answer c s).1 = (j.answer c t).1
  step : ∀ {c s t}, allowed c → related s t → (i.answer c s).1 = (j.answer c t).1 →
    related (i.answer c s).2 (j.answer c t).2

/-- Runs in lockstep whose seam replies alike do not differ. -/
theorem Lockstep.trace {i : Interpreter C R σ} {j : Interpreter C R τ} {related : σ → τ → Prop}
    {post : α → Prop} {p : Program C R α} {s : σ} {t : τ}
    (h : Lockstep allowed seam i j related) (hp : p.Ensures allowed post) (hst : related s t)
    (halike : AnsweredAlike seam (p.trace i s).1.2 (p.trace j t).1.2) :
    (p.trace i s).1 = (p.trace j t).1 ∧ related (p.trace i s).2 (p.trace j t).2 := by
  induction p generalizing s t with
  | done a => exact ⟨rfl, hst⟩
  | call c next ih =>
    obtain ⟨hc, hnext⟩ := hp
    rw [trace_call, trace_call] at halike
    have hreply : (i.answer c s).1 = (j.answer c t).1 := by
      by_cases hseam : seam c
      · exact halike [] c _ _ _ _ rfl rfl hseam
      · exact h.reply hc hseam hst
    have hstep := h.step hc hst hreply
    rw [trace_call, trace_call]
    rw [← hreply] at halike ⊢
    have hrest : AnsweredAlike seam ([⟨c, (i.answer c s).1⟩] ++ _) ([_] ++ _) := halike
    obtain ⟨hsame, hrelated⟩ := ih _ (hnext _) hstep hrest.right
    exact ⟨congrArg (fun done => (done.1, ⟨c, (i.answer c s).1⟩ :: done.2)) hsame, hrelated⟩

theorem ensures_true (p : Program C R α) : p.Ensures (fun _ => True) fun _ => True := by
  induction p with
  | done a => trivial
  | call c next ih => exact ⟨trivial, ih⟩

end Program

open Program CallEvent

def Call.Outward : Call → Prop
  | .device _ => True
  | _ => False

variable {σ τ : Type}

theorem lockstep_managing (device : AbstractDevice σ) (device' : AbstractDevice τ)
    (mayClear : Prop) : Lockstep (Call.Manages mayClear) Call.Outward (Call.interpreter device)
      (Call.interpreter device') fun _ _ => True where
  reply {c _ _} hc houtward _ := by
    cases c with
    | device c => exact absurd trivial houtward
    | log record => rfl
    | counter op =>
      cases op with
      | reset => rfl
      | _ => exact hc.elim
  step _ _ _ := trivial

theorem answeredAlike_of_replays {device : AbstractDevice σ} {events events' : List CallEvent}
    {d e e' : σ} (h : Replays device (deviceCalls events) d e)
    (h' : Replays device (deviceCalls events') d e') :
    AnsweredAlike Call.Outward events events' := by
  rintro earlier c reply reply' later later' rfl rfl houtward
  cases c with
  | counter op => exact houtward.elim
  | log record => exact houtward.elim
  | device c =>
    induction earlier generalizing d with
    | nil => exact h.1.symm.trans h'.1
    | cons event earlier ih =>
      obtain ⟨c', reply⟩ := event
      cases c' with
      | device c' => exact ih h.2 h'.2
      | counter op => exact ih h h'
      | log record => exact ih h h'

namespace Raced

structure Beside (x : Raced σ) (y : Raced τ) : Prop where
  counters : x.counters = y.counters
  pacing : x.pacing = y.pacing
  schedule : x.schedule = y.schedule

theorem Beside.race {x : Raced σ} {y : Raced τ} (h : Beside x y) : Beside x.race y.race := by
  obtain ⟨counters, device, pacing, schedule⟩ := x
  obtain ⟨rfl, rfl, rfl⟩ := h
  exact ⟨rfl, rfl, rfl⟩

theorem lockstep_raced (device : AbstractDevice σ) (device' : AbstractDevice τ) :
    Lockstep (fun _ => True) Call.Outward (interpreter device) (interpreter device') Beside where
  reply {c x y} _ houtward h := by
    cases c with
    | device c => exact absurd trivial houtward
    | log record => rfl
    | counter op =>
      change (op.step x.race.counters).1 = (op.step y.race.counters).1
      rw [h.race.counters]
  step {c x y} _ h _ := by
    have hraced := h.race
    cases c with
    | device c => exact ⟨hraced.counters, hraced.pacing, hraced.schedule⟩
    | log record => exact hraced
    | counter op =>
      exact ⟨congrArg (fun c => (op.step c).2) hraced.counters, hraced.pacing, hraced.schedule⟩

end Raced

/-- What a device answers to one program, and then to another one while the pacer takes its steps.
-/
theorem replays_then {α β : Type} (device : AbstractDevice σ) (c : Counters) (d : σ)
    (p : Action α) (f : α → Action β) (pacing : Program CounterOp CounterOp.Reply Unit)
    (schedule : List Nat) :
    let first := p.trace (Call.interpreter device) (c, d)
    let second := (f first.1.1).trace (Raced.interpreter device)
      ⟨first.2.1, first.2.2, pacing, schedule⟩
    Replays device (deviceCalls (first.1.2 ++ second.1.2)) d second.2.device := by
  intro first second
  rw [deviceCalls_append]
  exact (CallEvent.replays_deviceCalls (replays_trace _ p (c, d))).append
    (Raced.replays_deviceCalls (replays_trace _ _ _))

/-! ## The simulated device -/

/-- What the device answers to a managing call depends on what it holds, and so does what it holds
then. -/
theorem Device.answer_of_holdings {d d' : Device} (h : d.holdings = d'.holdings) {mayClear : Prop}
    {c : DeviceCall} (hc : (Call.device c).Manages mayClear) :
    (d.answerDevice c).1 = (d'.answerDevice c).1 ∧
      (d.answerDevice c).2.holdings = (d'.answerDevice c).2.holdings := by
  obtain ⟨faults, ledger, screen, tasks, started, counters, log⟩ := d
  obtain ⟨faults', ledger', screen', tasks', started', counters', log'⟩ := d'
  cases h
  cases c with
  | initLibrary _ | queryMemory _ | allocate _ _ | createDecoder _ _ | createTexture _ _ _
  | termLibrary =>
    unfold answerDevice fails
    dsimp only
    split <;> exact ⟨rfl, rfl⟩
  | spawn name stackSize body =>
    unfold answerDevice spawn fails
    dsimp only
    split
    · exact ⟨rfl, rfl⟩
    · split <;> exact ⟨rfl, rfl⟩
  | awaitDone receiver timeout =>
    unfold answerDevice awaitDone task?
    dsimp only
    split
    · exact ⟨rfl, rfl⟩
    · split <;> exact ⟨rfl, rfl⟩
  | join task =>
    unfold answerDevice join task?
    dsimp only
    split
    · exact ⟨rfl, rfl⟩
    · split <;> exact ⟨rfl, rfl⟩
  | reserve _ | blockBase _ | free _ | deleteDecoder _ | freeTexture _ | hangUp _ =>
    exact ⟨rfl, rfl⟩
  | _ => exact hc.elim

namespace Raced

/-- Setting up and tearing down, a device beside its pacer does what it does alone. -/
theorem lockstep_alone (mayClear : Prop) : Lockstep (Call.Manages mayClear) (fun _ => False)
    simulation Device.interpreter fun x d => x.device.holdings = d.holdings where
  reply {c x d} hc _ h := by
    cases c with
    | device c => exact (Device.answer_of_holdings h hc).1
    | log record => rfl
    | counter op =>
      cases op with
      | reset => rfl
      | _ => exact hc.elim
  step {c x d} hc h _ := by
    cases c with
    | device c => exact (Device.answer_of_holdings h hc).2
    | log record => exact h
    | counter op => exact h

theorem run_alone {α : Type} {mayClear : Prop} {post : α → Prop} {p : Action α}
    (hp : p.Ensures (Call.Manages mayClear) post) (x : Raced Device) :
    (p.run simulation x).1 = (p.run Device.interpreter x.device).1 ∧
      (p.run simulation x).2.device.holdings = (p.run Device.interpreter x.device).2.holdings := by
  obtain ⟨hsame, hholdings⟩ := (lockstep_alone mayClear).trace hp (s := x) (t := x.device) rfl
    fun _ _ _ _ _ _ _ _ => False.elim
  rw [run_trace, run_trace]
  exact ⟨congrArg Prod.fst hsame, hholdings⟩

end Raced
end AvcPipeline
