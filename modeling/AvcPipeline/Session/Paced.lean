import AvcPipeline.Session.Run

/-!
# Sessions beside their pacer

A running session is fed units, video is shown and hidden, and once in a while the pacer wakes. A
`Period` is what happens up to a wake, and the wake. The device is whatever answers the calls.
-/

namespace AvcPipeline

inductive Feed where
  | submit (unit : DecodeUnit)
  | start
  | stop
  deriving DecidableEq, Repr

namespace Feed

def operation : Feed → Session.Operation
  | .submit unit => .submit unit
  | .start => .start
  | .stop => .stop

def isSubmit : Feed → Bool
  | .submit _ => true
  | _ => false

end Feed

structure Period where
  feeds : List Feed
  vblank : UInt64
  now : Nanos
  deriving DecidableEq, Repr

def Period.units (p : Period) : Nat := p.feeds.countP Feed.isSubmit

structure Paced (σ : Type) where
  session : Session
  pacer : Pacer
  counters : Counters := {}
  device : σ

namespace Paced

variable {σ : Type}

def stats (x : Paced σ) : Stats := x.session.stats

def feed (device : AbstractDevice σ) (x : Paced σ) (f : Feed) : Paced σ :=
  let ((_, session), counters, d) :=
    (x.session.operate f.operation).run (Call.interpreter device) (x.counters, x.device)
  { x with session, counters, device := d }

def feedAll (device : AbstractDevice σ) (x : Paced σ) (feeds : List Feed) : Paced σ :=
  feeds.foldl (feed device) x

def wake (x : Paced σ) (vblank : UInt64) (now : Nanos) : Paced σ :=
  let (_, pacer, counters) := x.pacer.tick x.counters vblank now
  { x with pacer, counters }

def period (device : AbstractDevice σ) (x : Paced σ) (p : Period) : Paced σ :=
  (x.feedAll device p.feeds).wake p.vblank p.now

def run (device : AbstractDevice σ) (x : Paced σ) (periods : List Period) : Paced σ :=
  periods.foldl (period device) x

end Paced
end AvcPipeline
