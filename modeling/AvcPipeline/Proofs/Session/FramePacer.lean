import AvcPipeline.Proofs.Device.Handles
import AvcPipeline.Session.FramePacer

/-!
# Stopping a pacer

The pacer that awaits a task has the handle of the task, and the sender as long as the task was not
told to stop. On any device an attempt to stop hangs up if the sender is there, and waits. If the
task is late, the pacer awaits it still and only the sender is gone; otherwise the task is joined,
and there is nothing left to stop.
-/

namespace AvcPipeline

open Program CallEvent

namespace FramePacer

structure Awaits (task : TaskHandle) (p : FramePacer) : Prop where
  handle : p.handle = some task
  doneReceiver : p.doneReceiver = ⟨task⟩
  stopSender : ∀ sender ∈ p.stopSender, sender = ⟨task⟩

def told (p : FramePacer) : FramePacer := { p with stopSender := none }

variable {p : FramePacer} {task : TaskHandle}

theorem Awaits.ofTask (task : TaskHandle) : (FramePacer.ofTask task).Awaits task where
  handle := rfl
  doneReceiver := rfl
  stopSender _ hsender := (Option.some.inj hsender).symm

theorem Awaits.told (h : p.Awaits task) : p.told.Awaits task :=
  { h with stopSender := nofun }

theorem Awaits.isRunning (h : p.Awaits task) : p.isRunning = true :=
  Option.isSome_iff_exists.mpr ⟨task, h.handle⟩

/-- A pacer that is stopped and whose task was late is put together again but for the sender. -/
theorem Awaits.putBack (h : p.Awaits task) :
    { p.takenApart with handle := some task } = p.told := by
  rw [FramePacer.told, takenApart, h.handle]

/-! ## The calls of an attempt -/

def hangUps (p : FramePacer) : List DeviceEvent :=
  p.stopSender.toList.map fun sender => ⟨.hangUp sender, ()⟩

def waiting (p : FramePacer) (timeout : Nanos) (signal : Signal) : List DeviceEvent :=
  p.hangUps ++ [⟨.awaitDone p.doneReceiver timeout, signal⟩]

def joining (task : TaskHandle) (panicked : Bool) : List DeviceEvent :=
  [⟨.join task, panicked⟩]

def farewell (panicked : Bool) : List LogRecord :=
  (if panicked then [⟨.error, .pacer, "Frame pacer panicked"⟩] else []) ++
    [⟨.info, .pacer, "Frame pacer stopped"⟩]

inductive StopsBy (p : FramePacer) (timeout : Nanos) (task : TaskHandle) :
    List CallEvent → Except TeardownError Unit × FramePacer → Prop
  | late : StopsBy p timeout task ((p.waiting timeout .timedOut).map ofDevice)
      (.error (.pacerTimeout timeout), p.told)
  | joined {signal : Signal} (hsignal : signal ≠ .timedOut) (panicked : Bool) :
      StopsBy p timeout task ((p.waiting timeout signal).map ofDevice ++
        ((joining task panicked).map ofDevice ++ (farewell panicked).map ofLog))
        (.ok (), p.takenApart)

variable {timeout : Nanos}

theorem hangUp_follows (p : FramePacer) :
    p.hangUp.Follows fun events _ => events = p.hangUps.map ofDevice := by
  unfold hangUp hangUps
  cases p.stopSender with
  | none => exact follows_pure rfl
  | some sender => exact fun _ => rfl

theorem joinTask_follows (task : TaskHandle) : (joinTask task).Follows fun events _ =>
    ∃ panicked, events = (joining task panicked).map ofDevice ++ (farewell panicked).map ofLog := by
  refine follows_call fun (panicked : Bool) => ?_
  cases panicked with
  | false => exact fun _ => ⟨false, rfl⟩
  | true => exact fun _ _ => ⟨true, rfl⟩

theorem waiting_append (p : FramePacer) (timeout : Nanos) (signal : Signal)
    (more : List CallEvent) : p.hangUps.map ofDevice ++
      ⟨.device (.awaitDone p.doneReceiver timeout), signal⟩ :: more =
        (p.waiting timeout signal).map ofDevice ++ more := by
  rw [waiting, List.map_append, List.append_assoc]
  rfl

theorem stop_stopsBy (h : p.Awaits task) (timeout : Nanos) :
    (p.stop timeout).Follows (StopsBy p timeout task) := by
  have hjoined {signal : Signal} (hsignal : signal ≠ .timedOut) :
      (joinTask task >>= fun _ => pure (.ok (), p.takenApart) :
        Action (Except TeardownError Unit × FramePacer)).Follows fun events result =>
          StopsBy p timeout task ((p.waiting timeout signal).map ofDevice ++ events) result := by
    refine (joinTask_follows task).bind fun events _ hevents => ?_
    obtain ⟨panicked, rfl⟩ := hevents
    refine follows_pure ?_
    rw [List.append_nil]
    exact .joined hsignal panicked
  unfold stop
  simp only [h.handle, h.putBack]
  refine (hangUp_follows p).bind fun events _ hevents => ?_
  subst hevents
  refine follows_call fun (signal : Signal) => ?_
  simp only [waiting_append]
  cases signal with
  | timedOut =>
    refine follows_pure ?_
    rw [List.append_nil]
    exact .late
  | message => exact hjoined nofun
  | disconnected => exact hjoined nofun

theorem stop_takenApart (p : FramePacer) (timeout : Nanos) :
    p.takenApart.stop timeout = pure (.ok (), p.takenApart) := rfl

/-! ## Starting -/

def spawning (config : VideoConfig) (settings : PacerSettings) : DeviceCall :=
  .spawn taskName taskStackSize (.pacer config settings.interval)

/-- What comes of starting on any device: the counters are cleared before the task is asked for. -/
inductive StartsBy (config : VideoConfig) (settings : PacerSettings) :
    List CallEvent → Except String FramePacer → Prop
  | refused (cause : String) : StartsBy config settings
      [⟨.counter .reset, ()⟩, ofDevice ⟨spawning config settings, .error cause⟩] (.error cause)
  | started (task : TaskHandle) (record : LogRecord) : StartsBy config settings
      [⟨.counter .reset, ()⟩, ofDevice ⟨spawning config settings, .ok task⟩, ofLog record]
      (.ok (.ofTask task))

theorem start_startsBy (config : VideoConfig) (settings : PacerSettings) :
    (start config settings).Follows (StartsBy config settings) := by
  refine follows_call fun _ => ?_
  refine follows_call fun (reply : Except String TaskHandle) => ?_
  cases reply with
  | error cause => exact follows_pure (.refused cause)
  | ok task => exact follows_call fun _ => follows_pure (.started task _)

end FramePacer
end AvcPipeline
