import AvcPipeline.Pacing.Pacer

/-!
# Presenting and pacing side by side

The presenting side and the pacer take single steps on the same counters, in any order. A wake of
the pacer is several such steps, and between any two of them the presenting side may take steps of
its own. Beside the counters an `Interplay` keeps an account, in exact numbers, of what either side
did.
-/

namespace AvcPipeline

inductive PresentStep where
  | isActive
  | consumeDrop
  | recordPresented
  | lastInterval
  | setActive (on : Bool)
  deriving DecidableEq, Repr

def PresentStep.op : PresentStep → CounterOp
  | .isActive => .isActive
  | .consumeDrop => .consumeDrop
  | .recordPresented => .recordPresented
  | .lastInterval => .lastInterval
  | .setActive on => .setActive on

structure Wake where
  vblanks : UInt32
  decoded : Option UInt32 := none
  addedQuota : Bool := false
  published : Bool := false
  deriving DecidableEq, Repr

namespace Wake

def taken (w : Wake) : Nat :=
  match w.decoded with
  | some frames => frames.toNat
  | none => 0

/-- The frames above the target rate, once they were added to the quota. -/
def excess (w : Wake) (targetFps : UInt32) : Nat :=
  if w.addedQuota then w.taken - targetFps.toNat else 0

end Wake

structure Account where
  presented : Nat := 0
  /-- The frames presented since the frame count was last taken. -/
  waiting : Nat := 0
  dropped : Nat := 0
  /-- The wakes so far, the latest first. -/
  wakes : List Wake := []
  deriving DecidableEq, Repr

namespace Account

def total (of : Wake → Nat) (wakes : List Wake) : Nat :=
  wakes.foldr (fun w rest => of w + rest) 0

def taken (a : Account) : Nat := total Wake.taken a.wakes

def excess (a : Account) (targetFps : UInt32) : Nat :=
  total (fun w => w.excess targetFps) a.wakes

def beginWake (a : Account) (vblanks : UInt32) : Account :=
  { a with wakes := { vblanks } :: a.wakes }

/-- Enters a step with the reply it got. Only the latest wake takes steps. -/
def enter : (op : CounterOp) → op.Reply → Account → Account
  | .recordPresented, (), a =>
    { a with presented := a.presented + 1, waiting := a.waiting + 1 }
  | .consumeDrop, true, a => { a with dropped := a.dropped + 1 }
  | .takeFrames, frames, a =>
    { a with
      waiting := 0
      wakes := a.wakes.modifyHead fun w => { w with decoded := some frames } }
  | .addQuota _, (), a =>
    { a with wakes := a.wakes.modifyHead fun w => { w with addedQuota := true } }
  | .publish _, (), a =>
    { a with wakes := a.wakes.modifyHead fun w => { w with published := true } }
  | _, _, a => a

end Account

structure Interplay where
  counters : Counters
  pacer : Pacer
  underWay : Program CounterOp CounterOp.Reply Unit := .done ()
  account : Account := {}

namespace Interplay

inductive Move where
  | present (step : PresentStep)
  /-- The pacer begins a wake, unless one is under way. -/
  | wake (vblank : UInt64) (now : Nanos)
  | sample
  deriving DecidableEq, Repr

/-- The counters are cleared before the pacer starts. -/
def start (pacer : Pacer) (c : Counters) : Interplay where
  counters := (CounterOp.step .reset c).2
  pacer := pacer

def step (x : Interplay) : Move → Interplay
  | .present s =>
    let (reply, counters) := s.op.step x.counters
    { x with counters, account := x.account.enter s.op reply }
  | .wake vblank now =>
    match x.underWay with
    | .call _ _ => x
    | .done () => { x with
        pacer := x.pacer.observe vblank now
        underWay := x.pacer.sample vblank
        account := x.account.beginWake (Pacer.vblanksBetween x.pacer.lastVblank vblank) }
  | .sample =>
    match x.underWay with
    | .done () => x
    | .call op next =>
      let (reply, counters) := op.step x.counters
      { x with counters, account := x.account.enter op reply, underWay := next reply }

def run (x : Interplay) (moves : List Move) : Interplay :=
  moves.foldl step x

end Interplay
end AvcPipeline
