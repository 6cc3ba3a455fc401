import AvcPipeline.Pacing.Counters
import AvcPipeline.Program
import AvcPipeline.Time

/-!
# The frame pacer

Once an interval the pacer compares the frames presented since its last wake with the target rate,
and adds the excess to the quota of frames to drop. A late wake is followed by a shorter sleep, so
that a single late wake does not put off those after it.

The task of the pacer sleeps for an interval, wakes, and then sleeps for as long as the wake says,
over and over. A wake comes late by as long as the platform takes to run the task again.
-/

namespace AvcPipeline

structure VideoConfig where
  fps : UInt32 := 60
  pacing : Bool := true
  showRate : Bool := false
  deriving DecidableEq, Repr

structure PacerSettings where
  interval : Nanos := .ofSeconds 1 0
  shutdownTimeout : Nanos := .ofSeconds 10 0
  deriving DecidableEq, Repr

structure Pacer where
  targetFps : UInt32
  enabled : Bool
  interval : Nanos
  lastVblank : UInt64
  lastCheck : Nanos
  deriving DecidableEq, Repr

/-- What a wake finds, apart from the time. -/
structure Finding where
  counters : Counters := {}
  vblank : UInt64 := 0
  deriving DecidableEq, Repr

namespace Counters

def takeFrames : Program CounterOp CounterOp.Reply UInt32 := .perform CounterOp.takeFrames

def isActive : Program CounterOp CounterOp.Reply Bool := .perform CounterOp.isActive

def addQuota (frames : UInt32) : Program CounterOp CounterOp.Reply Unit :=
  .perform (CounterOp.addQuota frames)

def publish (interval : Interval) : Program CounterOp CounterOp.Reply Unit :=
  .perform (CounterOp.publish interval)

def interpreter : Interpreter CounterOp CounterOp.Reply Counters where
  answer := CounterOp.step

end Counters

namespace Pacer

def start (config : VideoConfig) (interval : Nanos) (vblank : UInt64) (now : Nanos) : Pacer :=
  ⟨config.fps, config.pacing, interval, vblank, now⟩

/-- The sleep before the next wake, when the last sleep and the work after it took `lapse`. A wake
late by less than an interval is made up for. There is no result when twice the interval, which is
worked out on the way, is longer than any span. -/
def nextDelay? (lapse interval : Nanos) : Option Nanos :=
  if interval < lapse ∧ lapse - interval < interval then
    if 2 * interval ≤ Nanos.maxSpan then some (2 * interval - lapse) else none
  else some interval

def vblanksBetween (last now : UInt64) : UInt32 :=
  Word32.clamp (now.toNat - last.toNat)

def sample (p : Pacer) (vblank : UInt64) : Program CounterOp CounterOp.Reply Unit := do
  let decoded ← Counters.takeFrames
  let active ← Counters.isActive
  if active && p.enabled && p.targetFps < decoded then
    Counters.addQuota (decoded - p.targetFps)
  Counters.publish ⟨decoded, vblanksBetween p.lastVblank vblank⟩

def observe (p : Pacer) (vblank : UInt64) (now : Nanos) : Pacer :=
  { p with lastVblank := vblank, lastCheck := now }

/-- One wake at a reading of the refresh counter and the clock: the sleep that follows, the pacer
and the counters. -/
def tick (p : Pacer) (c : Counters) (vblank : UInt64) (now : Nanos) :
    Option Nanos × Pacer × Counters :=
  let (_, c) := (p.sample vblank).run Counters.interpreter c
  (nextDelay? (now - p.lastCheck) p.interval, p.observe vblank now, c)

/-! ## Wake after wake -/

def after (p : Pacer) (wakes : List (Finding × Nanos)) : Pacer :=
  wakes.foldl (fun p (found, now) => (p.tick found.counters found.vblank now).2.1) p

/-- The times of the wakes, from a first sleep on, when each finds this and comes so late. The task
ends with a wake that has no sleep to follow it. -/
def wakeTimes (p : Pacer) (sleep : Nanos) : List (Finding × Nanos) → List Nanos
  | [] => []
  | (found, late) :: rest =>
    let now := p.lastCheck + sleep + late
    let (sleep?, p, _) := p.tick found.counters found.vblank now
    now :: match sleep? with
      | some sleep => p.wakeTimes sleep rest
      | none => []

end Pacer
end AvcPipeline
