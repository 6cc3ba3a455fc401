import AvcPipeline.Device.Call

/-!
# A device beside its pacer

While a session makes its calls, the pacer takes its steps on the shared counters, and between any
two calls it may take any number of them. A `Raced` device holds what the pacer still does and how
many of its steps fall before each call.
-/

namespace AvcPipeline

/-- Makes at most this many calls of a program. The result is what is left of it, and the state. -/
def Program.advance {C : Type} {R : C → Type} {α σ : Type} (i : Interpreter C R σ) :
    Nat → Program C R α → σ → Program C R α × σ
  | steps + 1, .call c next, s =>
    let reply := i.answer c s
    advance i steps (next reply.1) reply.2
  | _, p, s => (p, s)

/-- All the wakes of a pacer, at these readings of the refresh counter and the clock. -/
def Pacer.wakes (p : Pacer) : List (UInt64 × Nanos) → Program CounterOp CounterOp.Reply Unit
  | [] => .done ()
  | (vblank, now) :: rest => do
    p.sample vblank
    (p.observe vblank now).wakes rest

structure Raced (σ : Type) where
  counters : Counters := {}
  device : σ
  pacing : Program CounterOp CounterOp.Reply Unit
  /-- The number of steps that the pacer takes before each call. -/
  schedule : List Nat

namespace Raced

variable {σ : Type}

def start (d : σ) (pacer : Pacer) (readings : List (UInt64 × Nanos)) (schedule : List Nat) :
    Raced σ where
  device := d
  pacing := pacer.wakes readings
  schedule := schedule

def race (x : Raced σ) : Raced σ :=
  let (pacing, counters) := x.pacing.advance Counters.interpreter (x.schedule.headD 0) x.counters
  { x with counters, pacing, schedule := x.schedule.tail }

def answer (device : AbstractDevice σ) (c : Call) (x : Raced σ) : c.Reply × Raced σ :=
  let x := x.race
  let (reply, counters, d) := Call.answer device c (x.counters, x.device)
  (reply, { x with counters, device := d })

def interpreter (device : AbstractDevice σ) : Interpreter Call Call.Reply (Raced σ) where
  answer := answer device

end Raced
end AvcPipeline
