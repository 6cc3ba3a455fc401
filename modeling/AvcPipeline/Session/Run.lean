import AvcPipeline.Device.Simulated
import AvcPipeline.Session.Frame
import AvcPipeline.Session.Lifecycle

/-!
# Runs of a session on the simulated device

A session is asked for one operation after the other. In between the device meets incidents: calls
are made to fail, the pacer task wakes, is held up, or exits late. A `System` is a session with its
device, and a run takes it through any sequence of operations and incidents.
-/

namespace AvcPipeline

namespace Session

inductive Operation where
  | setup (params : SetupParams)
  | teardown
  | cleanup
  | submit (unit : DecodeUnit)
  | decode (unit : DecodeUnit)
  | start
  | stop
  | showIndicator
  | hideIndicator
  deriving DecidableEq, Repr

inductive Answer where
  | setup (outcome : Except SetupFailure Unit)
  /-- Also the answer to a cleanup. -/
  | teardown (outcome : Except TeardownError Unit)
  | submit (status : SubmitStatus)
  | decode (outcome : Except DecodeError Outcome)
  | done

def operate (s : Session) : Operation → Action (Answer × Session)
  | .setup params => do
    let (outcome, s) ← s.setup params
    return (.setup outcome, s)
  | .teardown => do
    let (outcome, s) ← s.teardown
    return (.teardown outcome, s)
  | .cleanup => do
    let (outcome, s) ← s.cleanup
    return (.teardown outcome, s)
  | .submit unit => do
    let (status, s) ← s.submit unit
    return (.submit status, s)
  | .decode unit => do
    let (outcome, s) ← s.decodeUnit unit
    return (.decode outcome, s)
  | .start => do
    start
    return (.done, s)
  | .stop => do
    stop
    return (.done, s)
  | .showIndicator => return (.done, s.showIndicator)
  | .hideIndicator => return (.done, s.hideIndicator)

end Session

inductive Incident where
  | failAt (point : FailPoint)
  | clearFailures
  | forceOutputs (outputs : Option UInt32)
  /-- A task that is started from now on takes so long to look at the time. -/
  | stall (span : Nanos)
  /-- The live tasks take so long to look at the time. -/
  | holdUp (span : Nanos)
  /-- This task, if it was told to stop, does so. -/
  | lateExit (task : TaskHandle)
  /-- The pacer takes its sample at a reading of the refresh counter. -/
  | wake (pacer : Pacer) (vblank : UInt64)
  deriving DecidableEq, Repr

def Device.undergo (d : Device) : Incident → Device
  | .failAt point => { d with faults := { d.faults with failing := point :: d.faults.failing } }
  | .clearFailures => { d with faults := { d.faults with failing := [] } }
  | .forceOutputs outputs => { d with faults := { d.faults with outputs } }
  | .stall span => { d with faults := { d.faults with stall := span } }
  | .holdUp span => { d with tasks := d.tasks.map fun t => { t with stall := span } }
  | .lateExit task => d.exitTask task
  | .wake pacer vblank =>
    { d with counters := ((pacer.sample vblank).run Counters.interpreter d.counters).2 }

structure System where
  session : Session
  device : Device := {}
  deriving DecidableEq, Repr

namespace System

def fresh (config : VideoConfig) (settings : PacerSettings) : System where
  session := { config, settings }

def operate (s : System) (op : Session.Operation) : Session.Answer × System :=
  let ((answer, session), device) := (s.session.operate op).run Device.interpreter s.device
  (answer, ⟨session, device⟩)

inductive Event where
  | operate (op : Session.Operation)
  | incident (i : Incident)
  deriving DecidableEq, Repr

def step (s : System) : Event → System
  | .operate op => (s.operate op).2
  | .incident i => { s with device := s.device.undergo i }

def run (s : System) (events : List Event) : System :=
  events.foldl step s

end System
end AvcPipeline
