import AvcPipeline.Device.Raced
import AvcPipeline.Proofs.Device.Calls
import AvcPipeline.Proofs.Device.Screen
import AvcPipeline.Proofs.Pacing.Counters

/-!
# Whatever the pacer does in between

A step of the pacer touches neither the screen nor the video flag. So while video is shown on a calm
device, it stays shown and the device stays calm, whatever steps of the pacer fall between the
calls; and the screen shows what the calls alone would show.
-/

namespace AvcPipeline

open Program CallEvent

def CounterOp.Paces : CounterOp → Prop
  | .takeFrames | .isActive | .addQuota _ | .publish _ => True
  | _ => False

theorem CounterOp.active_of_paces {op : CounterOp} (h : op.Paces) (c : Counters) :
    (op.step c).2.active = c.active := by
  cases op with
  | takeFrames | isActive | addQuota _ | publish _ => rfl
  | _ => exact h.elim

theorem Pacer.paces_sample (p : Pacer) (vblank : UInt64) :
    (p.sample vblank).Ensures CounterOp.Paces fun _ => True := by
  refine ensures_call trivial fun _ => ?_
  refine ensures_call trivial fun _ => ?_
  split
  · exact ensures_call trivial fun _ => ensures_perform trivial fun _ => trivial
  · exact ensures_perform trivial fun _ => trivial

theorem Pacer.paces_wakes (p : Pacer) (readings : List (UInt64 × Nanos)) :
    (p.wakes readings).Ensures CounterOp.Paces fun _ => True := by
  induction readings generalizing p with
  | nil => exact trivial
  | cons reading rest ih => exact (p.paces_sample reading.1).bind fun _ _ => ih _

theorem paces_advance {pacing : Program CounterOp CounterOp.Reply Unit}
    (h : pacing.Ensures CounterOp.Paces fun _ => True) (steps : Nat) (c : Counters) :
    let done := pacing.advance Counters.interpreter steps c
    done.1.Ensures CounterOp.Paces (fun _ => True) ∧ done.2.active = c.active := by
  induction steps generalizing pacing c with
  | zero => cases pacing <;> exact ⟨h, rfl⟩
  | succ steps ih =>
    cases pacing with
    | done a => exact ⟨h, rfl⟩
    | call op next =>
      obtain ⟨hrest, hactive⟩ := ih (h.2 (op.step c).1) (op.step c).2
      exact ⟨hrest, hactive.trans (CounterOp.active_of_paces h.1 c)⟩

namespace Raced

variable {x x' : Raced Device} {events : List CallEvent}

abbrev simulation : Interpreter Call Call.Reply (Raced Device) := interpreter Device.simulated

/-- The device is calm, and only the pacer takes steps of its own. -/
structure Calm (x : Raced Device) : Prop where
  device : x.device.Calm
  pacing : x.pacing.Ensures CounterOp.Paces fun _ => True

structure Showing (x : Raced Device) : Prop extends x.Calm where
  active : x.counters.active = true

theorem calm_start (pacer : Pacer) (readings : List (UInt64 × Nanos)) (schedule : List Nat) :
    (start ({} : Device) pacer readings schedule).Calm :=
  ⟨⟨rfl, nofun⟩, pacer.paces_wakes readings⟩

theorem Calm.race (h : x.Calm) : x.race.Calm ∧ x.race.counters.active = x.counters.active := by
  obtain ⟨hpacing, hactive⟩ := paces_advance h.pacing (x.schedule.headD 0) x.counters
  exact ⟨⟨h.device, hpacing⟩, hactive⟩

theorem Showing.race (h : x.Showing) : x.race.Showing :=
  ⟨h.toCalm.race.1, h.toCalm.race.2.trans h.active⟩

theorem Calm.answer (h : x.Calm) (c : Call) : (simulation.answer c x).2.Calm := by
  have hraced := h.race.1
  cases c with
  | device c => exact ⟨(Device.seen_answerDevice c x.race.device).calm hraced.device, hraced.pacing⟩
  | counter op => exact ⟨hraced.device, hraced.pacing⟩
  | log record => exact hraced

theorem Showing.answer (h : x.Showing) {c : Call} (hc : c ≠ .counter (.setActive false)) :
    (simulation.answer c x).2.Showing := by
  refine ⟨h.toCalm.answer c, ?_⟩
  have hactive := h.race.active
  cases c with
  | device c => exact hactive
  | log record => exact hactive
  | counter op =>
    change (op.step x.race.counters).2.active = true
    cases op with
    | setActive on =>
      cases on with
      | true => rfl
      | false => exact absurd rfl hc
    | consumeDrop =>
      rcases x.race.counters.step_consumeDrop with ⟨-, hstep⟩ | ⟨-, hstep⟩ <;> rw [hstep] <;>
        exact hactive
    | _ => exact hactive

theorem screen_answer (c : Call) (x : Raced Device) :
    (simulation.answer c x).2.device.screen = x.device.screen.after c := by
  cases c with
  | device c => exact (Device.seen_answerDevice c x.device).screen
  | counter op => rfl
  | log record => rfl

theorem screen_of_replays (h : Replays simulation events x x') :
    x'.device.screen = x.device.screen.along events :=
  h.view (fun x => x.device.screen) screen_answer

theorem replays_deviceCalls {σ : Type} {device : AbstractDevice σ} {y y' : Raced σ}
    (h : Replays (interpreter device) events y y') :
    Replays device (deviceCalls events) y.device y'.device := by
  induction events generalizing y with
  | nil => exact congrArg Raced.device h
  | cons e events ih =>
    obtain ⟨c, reply⟩ := e
    have hrest := ih h.2
    cases c with
    | device c => exact ⟨h.1, hrest⟩
    | counter op => exact hrest
    | log record => exact hrest

theorem prompt_run {α : Type} {span : Nanos} (p : Action α) (h : x.device.Prompt span) :
    (p.run simulation x).2.device.Prompt span := by
  rw [run_trace]
  exact ((replays_deviceCalls (replays_trace simulation p x)).keeps h
    fun call _ _ hprompt => hprompt.answer call.1).1

theorem holdings_answer {c : Call} (hc : c.Quiet) (x : Raced Device) :
    (simulation.answer c x).2.device.holdings = x.device.holdings := by
  cases c with
  | device c => exact Device.holdings_answer (.device c) x.device hc
  | counter op => rfl
  | log record => rfl

theorem quiet_run {α : Type} {post : α → Prop} {p : Action α} (hp : p.Ensures Call.Quiet post)
    (x : Raced Device) : post (p.run simulation x).1 ∧
      (p.run simulation x).2.device.holdings = x.device.holdings := by
  let held (x : Raced Device) := x.device.holdings
  have hkept : ∀ c x, c.Quiet → held (simulation.answer c x).2 = held x :=
    fun _ x hc => holdings_answer hc x
  exact hp.run hkept x

/-! ## Replies -/

theorem calm_of_replays (h : Replays simulation events x x') (hx : x.Calm) :
    x'.Calm ∧ ∀ e ∈ events, ∃ y : Raced Device, y.Calm ∧ (simulation.answer e.1 y).1 = e.2 :=
  h.keeps hx fun e _ _ hcalm => hcalm.answer e.1

theorem showing_of_replays (h : Replays simulation events x x') (hx : x.Showing)
    (hevents : ∀ e ∈ events, e.1 ≠ .counter (.setActive false)) :
    x'.Showing ∧ ∀ e ∈ events, ∃ y : Raced Device, y.Showing ∧ (simulation.answer e.1 y).1 = e.2 :=
  h.keeps hx fun e he _ hshowing => hshowing.answer (hevents e he)

end Raced
end AvcPipeline
