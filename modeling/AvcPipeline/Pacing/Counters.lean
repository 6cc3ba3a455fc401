import AvcPipeline.Word32

/-!
# Counters shared with the pacer

Presenting and pacing run side by side and share four words: the frames presented since the pacer
last looked, the quota of frames to drop, the figures of the last interval, and whether video is
shown. `CounterOp` lists the single steps that either side takes on them.
-/

namespace AvcPipeline

structure Interval where
  decoded : UInt32 := 0
  vblanks : UInt32 := 0
  deriving DecidableEq, Repr

namespace Interval

/-- Both figures in one word, so that a single step writes or reads them together. -/
def pack (i : Interval) : UInt64 :=
  (i.decoded.toUInt64 <<< 32) ||| i.vblanks.toUInt64

def unpack (word : UInt64) : Interval :=
  ⟨(word >>> 32).toUInt32, word.toUInt32⟩

end Interval

structure Counters where
  frames : UInt32 := 0
  quota : UInt32 := 0
  published : UInt64 := 0
  active : Bool := true
  deriving DecidableEq, Repr

def Counters.interval (c : Counters) : Interval := .unpack c.published

inductive CounterOp where
  | recordPresented
  /-- Reads the frame count and sets it to zero. -/
  | takeFrames
  /-- Takes one frame off the quota if it is positive, and says whether it was. -/
  | consumeDrop
  | addQuota (frames : UInt32)
  | publish (interval : Interval)
  | lastInterval
  | setActive (on : Bool)
  | isActive
  /-- Clears everything but the video flag. -/
  | reset
  deriving DecidableEq, Repr

namespace CounterOp

def Reply : CounterOp → Type
  | .takeFrames => UInt32
  | .consumeDrop | .isActive => Bool
  | .lastInterval => Interval
  | .recordPresented | .addQuota _ | .publish _ | .setActive _ | .reset => Unit

/-- One step on the counters. The frame count wraps around, the quota saturates. -/
def step : (op : CounterOp) → Counters → op.Reply × Counters
  | .recordPresented, c => ((), { c with frames := c.frames + 1 })
  | .takeFrames, c => (c.frames, { c with frames := 0 })
  | .consumeDrop, c => if c.quota = 0 then (false, c) else (true, { c with quota := c.quota - 1 })
  | .addQuota frames, c => ((), { c with quota := Word32.satAdd c.quota frames })
  | .publish interval, c => ((), { c with published := interval.pack })
  | .lastInterval, c => (c.interval, c)
  | .setActive on, c => ((), { c with active := on })
  | .isActive, c => (c.active, c)
  | .reset, c => ((), { active := c.active })

end CounterOp
end AvcPipeline
