import AvcPipeline.Device.Call
import AvcPipeline.Session.Error

/-!
# The pacer of a session

A `FramePacer` is what a session holds of the task that paces it: the handle of the task, the end of
the channel by which the task is told to stop, and the end of the one that tells that it is through.
To stop the task it takes handle and sender out. If the task is late the handle is put back, so that
another attempt can wait again; the sender is gone then, since the task has been told.
-/

namespace AvcPipeline

structure FramePacer where
  handle : Option TaskHandle
  stopSender : Option StopSender
  doneReceiver : DoneReceiver
  deriving DecidableEq, Repr

namespace FramePacer

def taskName : String := "frame_pacer"

def taskStackSize : Nat := 0x10000

def ofTask (task : TaskHandle) : FramePacer where
  handle := some task
  stopSender := some ⟨task⟩
  doneReceiver := ⟨task⟩

/-- The shared counters are cleared before the task is started. -/
def start (config : VideoConfig) (settings : PacerSettings) :
    Action (Except String FramePacer) := do
  Action.resetCounters
  match ← Action.spawn taskName taskStackSize (.pacer config settings.interval) with
  | .error cause => return .error cause
  | .ok task =>
    let pacing := if config.pacing then "on" else "off"
    Action.log .info .pacer s!"Frame pacer started: target {config.fps} fps, pacing {pacing}"
    return .ok (.ofTask task)

def isRunning (p : FramePacer) : Bool := p.handle.isSome

def takenApart (p : FramePacer) : FramePacer :=
  { p with handle := none, stopSender := none }

/-- Tells the task to stop, unless it was told before. -/
def hangUp (p : FramePacer) : Action Unit :=
  match p.stopSender with
  | none => return ()
  | some sender => Action.hangUp sender

def joinTask (task : TaskHandle) : Action Unit := do
  if ← Action.join task then Action.log .error .pacer "Frame pacer panicked"
  Action.log .info .pacer "Frame pacer stopped"

def stop (p : FramePacer) (timeout : Nanos) :
    Action (Except TeardownError Unit × FramePacer) := do
  match p.handle with
  | none => return (.ok (), p)
  | some task =>
    p.hangUp
    match ← Action.awaitDone p.doneReceiver timeout with
    | .timedOut =>
      return (.error (.pacerTimeout timeout), { p.takenApart with handle := some task })
    | .message | .disconnected =>
      joinTask task
      return (.ok (), p.takenApart)

end FramePacer
end AvcPipeline
