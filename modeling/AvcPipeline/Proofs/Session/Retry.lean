import AvcPipeline.Proofs.Session.Atomicity

/-!
# A teardown that timed out can be tried again

While the task of a running session is late, every teardown fails. It takes the pacer apart and puts
it together again but for the sender, so that only the first one tells the task to stop; nothing is
released, and nothing else in the session changes. The first teardown that finds the task through
joins it and releases everything once, newest first, and after it there is nothing left to release.
In between the device and the counters may change in any way.
-/

namespace AvcPipeline

open Program CallEvent DeviceEvent

namespace Session

variable {s : Session} {p : FramePacer} {task : TaskHandle}

theorem operate_closesBy {op : Operation} (h : s.Filled .running) (hstage : s.stage = .running)
    (hpacer : s.pacer = some p) (hawaits : p.Awaits task) (hop : op = .teardown ∨ op = .cleanup) :
    (s.operate op).Follows fun events result => ∃ logged torn outcome s',
      events = logged ++ torn ∧ (logged = [] ∨ ∃ record, logged = [ofLog record]) ∧
        result = (.teardown outcome, s') ∧ ClosesBy s p task torn (outcome, s') := by
  have hteardown := teardown_closesBy h hstage hpacer hawaits
  rcases hop with rfl | rfl
  · refine hteardown.bind fun torn result htorn => follows_pure ?_
    exact ⟨[], torn, result.1, result.2, List.append_nil torn, .inl rfl, rfl, htorn⟩
  · refine follows_call fun _ => ?_
    refine hteardown.bind fun torn result htorn => follows_pure ?_
    exact ⟨[_], torn, result.1, result.2, congrArg _ (List.append_nil torn), .inr ⟨_, rfl⟩, rfl,
      htorn⟩

theorem handles_decoder (h : s.Filled .running) :
    ∃ decoder memory texture, s.decoder = some decoder ∧ s.memory = some memory ∧
      s.texture = some texture ∧ s.handles .decoder =
        [.decoder decoder, .block memory.block, .library, .texture texture] := by
  obtain ⟨decoder, hdecoder⟩ := Option.isSome_iff_exists.mp h.full.decoder
  obtain ⟨memory, hmemory⟩ := Option.isSome_iff_exists.mp h.full.memory
  obtain ⟨texture, htexture⟩ := Option.isSome_iff_exists.mp h.full.texture
  refine ⟨decoder, memory, texture, hdecoder, hmemory, htexture, ?_⟩
  have hhandles : s.handles .decoder = (s.decoder.map Handle.decoder).toList ++
      ((s.memory.map fun memory => Handle.block memory.block).toList ++
        (.library :: ((s.texture.map Handle.texture).toList ++ []))) := rfl
  rw [hhandles, hdecoder, hmemory, htexture]
  rfl

end Session

/-! ## Waiting for the task -/

/-- A session with the counters and the device that it runs on. -/
structure Closing (σ : Type) where
  session : Session
  counters : Counters
  device : σ

structure Report where
  answer : Session.Answer
  calls : List DeviceEvent

namespace Closing

variable {σ : Type} {device : AbstractDevice σ} {x : Closing σ}

inductive Move (σ : Type) where
  | operate (op : Session.Operation)
  /-- The counters and the device change by themselves. -/
  | elapse (change : Counters × σ → Counters × σ)

def ask (device : AbstractDevice σ) (x : Closing σ) (op : Session.Operation) :
    Report × Closing σ :=
  let done := (x.session.operate op).trace (Call.interpreter device) (x.counters, x.device)
  (⟨done.1.1.1, deviceCalls done.1.2⟩, ⟨done.1.1.2, done.2.1, done.2.2⟩)

def move (device : AbstractDevice σ) (x : Closing σ) : Move σ → Closing σ
  | .operate op => (x.ask device op).2
  | .elapse change =>
    let (counters, d) := change (x.counters, x.device)
    { x with counters, device := d }

def after (device : AbstractDevice σ) (x : Closing σ) (moves : List (Move σ)) : Closing σ :=
  moves.foldl (move device) x

def reports (device : AbstractDevice σ) (x : Closing σ) :
    List (Move σ) → List (Session.Operation × Report)
  | [] => []
  | .operate op :: rest => (op, (x.ask device op).1) :: reports device (x.ask device op).2 rest
  | .elapse change :: rest => reports device (x.move device (.elapse change)) rest

/-- How the wait for the task would end if it was told to stop now. -/
def signal (device : AbstractDevice σ) (x : Closing σ) (p : FramePacer) : Signal :=
  let d := match p.stopSender with
    | none => x.device
    | some sender => (device.answer (.hangUp sender) x.device).2
  (device.answer (.awaitDone p.doneReceiver x.session.settings.shutdownTimeout) d).1

/-- Whether the task has exited before a teardown that begins now gives up. -/
def exitsInTime (device : AbstractDevice σ) (x : Closing σ) : Bool :=
  x.session.pacer.all fun p => x.signal device p ≠ .timedOut

/-- The task would be late for a teardown; a setup or the passing of time does not ask for it. -/
def Awaits (device : AbstractDevice σ) (x : Closing σ) : Move σ → Prop
  | .operate .teardown | .operate .cleanup => x.exitsInTime device = false
  | .operate (.setup _) | .elapse _ => True
  | .operate _ => False

def Late (device : AbstractDevice σ) (x : Closing σ) : List (Move σ) → Prop
  | [] => True
  | m :: rest => x.Awaits device m ∧ Late device (x.move device m) rest

/-! ### One attempt -/

def waited (s : Session) (p : FramePacer) : Report where
  answer := .teardown (.error (.pacerTimeout s.settings.shutdownTimeout))
  calls := p.waiting s.settings.shutdownTimeout .timedOut

def notIdle (s : Session) : Report where
  answer := .setup (.error (.refused (.alreadyAt s.stage)))
  calls := []

variable {p : FramePacer} {task : TaskHandle} {signal : Signal}

theorem signal_of_replays {timeout : Nanos}
    (htimeout : x.session.settings.shutdownTimeout = timeout)
    {more : List CallEvent} {last : Counters × σ}
    (h : Replays (Call.interpreter device) ((p.waiting timeout signal).map ofDevice ++ more)
      (x.counters, x.device) last) : x.signal device p = signal := by
  subst htimeout
  unfold Closing.signal
  unfold FramePacer.waiting FramePacer.hangUps at h
  cases hsender : p.stopSender with
  | none =>
    rw [hsender] at h
    exact h.1
  | some sender =>
    rw [hsender] at h
    exact h.2.1

structure Attempted (device : AbstractDevice σ) (x : Closing σ) (p : FramePacer) (task : TaskHandle)
    (result : Report × Closing σ) : Prop where
  late : x.exitsInTime device = false → result.1 = waited x.session p ∧
    result.2.session = { x.session with pacer := some p.told }
  closed : x.exitsInTime device = true → result.1.answer = .teardown (.ok ()) ∧
    (∃ signal panicked rest, result.1.calls =
      p.waiting x.session.settings.shutdownTimeout signal ++
        FramePacer.joining task panicked ++ rest ∧
      Releases (x.session.handles .decoder) rest) ∧
    result.2.session = x.session.emptied

theorem attempted_ask {op : Session.Operation} (h : x.session.Filled .running)
    (hstage : x.session.stage = .running) (hpacer : x.session.pacer = some p)
    (hawaits : p.Awaits task) (hop : op = .teardown ∨ op = .cleanup) :
    x.Attempted device p task (x.ask device op) := by
  have hspec := (Session.operate_closesBy h hstage hpacer hawaits hop).trace
    (Call.interpreter device) (x.counters, x.device)
  have hreplays := replays_trace (Call.interpreter device) (x.session.operate op)
    (x.counters, x.device)
  have hexits : x.exitsInTime device = decide (x.signal device p ≠ .timedOut) := by
    rw [exitsInTime, hpacer]
    rfl
  unfold ask
  generalize (x.session.operate op).trace (Call.interpreter device) (x.counters, x.device) = done
    at hspec hreplays ⊢
  obtain ⟨⟨result, events⟩, counters, d⟩ := done
  obtain ⟨logged, torn, outcome, s', rfl, hlogged, rfl, htorn⟩ := hspec
  have htorn' : Replays (Call.interpreter device) torn (x.counters, x.device) (counters, d) := by
    rcases hlogged with rfl | ⟨record, rfl⟩
    · exact hreplays
    · exact hreplays.2
  have hcalls : deviceCalls (logged ++ torn) = deviceCalls torn := by
    rcases hlogged with rfl | ⟨record, rfl⟩ <;> rfl
  cases htorn with
  | late hstops =>
    cases hstops
    rw [← List.append_nil (List.map _ _)] at htorn'
    have hsignal : x.signal device p = .timedOut := signal_of_replays rfl htorn'
    refine ⟨fun _ => ⟨?_, rfl⟩, fun hintime => ?_⟩
    · dsimp only
      rw [hcalls, deviceCalls_ofDevice]
      rfl
    · rw [hexits, hsignal] at hintime
      cases hintime
  | @closed stopping rest p' hstops hreleased hsteps =>
    cases hstops with
    | @joined signal hsignal panicked =>
      rw [List.append_assoc] at htorn'
      have hintime : x.signal device p ≠ .timedOut := signal_of_replays rfl htorn' ▸ hsignal
      refine ⟨fun hlate => ?_,
        fun _ => ⟨rfl, ⟨signal, panicked, deviceCalls rest, ?_, hreleased⟩, rfl⟩⟩
      · rw [hexits, decide_eq_true hintime] at hlate
        cases hlate
      · dsimp only
        rw [hcalls, deviceCalls_append, deviceCalls_append, deviceCalls_append,
          deviceCalls_ofDevice, deviceCalls_ofDevice, deviceCalls_ofLog, List.append_nil]

theorem ask_setup (hstage : x.session.stage = .running) (p : SetupParams) :
    x.ask device (.setup p) = (notIdle x.session, x) := by
  have hbusy : x.session.stage ≠ .idle := by rw [hstage]; nofun
  rw [ask, Session.operate, Session.setup, if_pos hbusy]
  rfl

/-! ### Any number of attempts -/

/-- What is reported in order while the task is late. Only the first teardown tells the task to
stop. -/
def Refuses (s : Session) : FramePacer → List (Session.Operation × Report) → Prop
  | _, [] => True
  | p, (.setup _, report) :: rest => report = notIdle s ∧ Refuses s p rest
  | p, (_, report) :: rest => report = waited s p ∧ Refuses s p.told rest

theorem refuses_reports {s : Session} (h : s.Filled .running) (hstage : s.stage = .running)
    (hawaits : p.Awaits task) (hx : x.session = { s with pacer := some p }) {moves : List (Move σ)}
    (hlate : x.Late device moves) :
    Refuses s p (x.reports device moves) ∧ ∃ p', p'.Awaits task ∧
      (x.after device moves).session = { s with pacer := some p' } := by
  induction moves generalizing x p with
  | nil => exact ⟨trivial, p, hawaits, hx⟩
  | cons m rest ih =>
    obtain ⟨hm, hrest⟩ := hlate
    have hattempt {op : Session.Operation} (hop : op = .teardown ∨ op = .cleanup)
        (hlate : x.exitsInTime device = false) (hrest : (x.ask device op).2.Late device rest) :
        (x.ask device op).1 = waited s p ∧
          Refuses s p.told ((x.ask device op).2.reports device rest) ∧ ∃ p', p'.Awaits task ∧
            ((x.ask device op).2.after device rest).session = { s with pacer := some p' } := by
      have hfilled : x.session.Filled .running := hx ▸ h.unpaced.paced hawaits
      obtain ⟨hreport, hsession⟩ := (attempted_ask hfilled (hx ▸ hstage)
        (by rw [hx] : x.session.pacer = some p) hawaits hop).late hlate
      rw [hx] at hreport hsession
      exact ⟨hreport, ih hawaits.told hsession hrest⟩
    cases m with
    | elapse change => exact ih hawaits (x := x.move device (.elapse change)) hx hrest
    | operate op =>
      cases op with
      | teardown =>
        obtain ⟨hreport, hrefuses, hafter⟩ := hattempt (.inl rfl) hm hrest
        exact ⟨⟨hreport, hrefuses⟩, hafter⟩
      | cleanup =>
        obtain ⟨hreport, hrefuses, hafter⟩ := hattempt (.inr rfl) hm hrest
        exact ⟨⟨hreport, hrefuses⟩, hafter⟩
      | setup params =>
        have hrunning : x.session.stage = .running := hx ▸ hstage
        rw [after, List.foldl_cons, reports, move, ask_setup hrunning]
        rw [move, ask_setup hrunning] at hrest
        obtain ⟨hrefuses, hafter⟩ := ih hawaits hx hrest
        exact ⟨⟨by rw [hx]; rfl, hrefuses⟩, hafter⟩
      | _ => exact hm.elim

/-! ### Nothing left to release -/

def nothingHeld : Report where
  answer := .teardown (.ok ())
  calls := []

theorem ask_of_idle {op : Session.Operation} (hstage : x.session.stage = .idle)
    (hop : op = .teardown ∨ op = .cleanup) : x.ask device op = (nothingHeld, x) := by
  have hteardown : x.session.teardown = pure (.ok (), x.session) := by
    rw [Session.teardown, hstage]
    rfl
  rcases hop with rfl | rfl
  · rw [ask, Session.operate, hteardown]
    rfl
  · rw [ask, Session.operate, Session.cleanup, hteardown]
    rfl

theorem drop_of_idle {s : Session} (hstage : s.stage = .idle) : s.drop = pure s := by
  have hteardown : s.teardown = pure (.ok (), s) := by
    rw [Session.teardown, hstage]
    rfl
  rw [Session.drop, hteardown]
  rfl

theorem reports_of_idle (hstage : x.session.stage = .idle) {moves : List (Move σ)}
    (hmoves : ∀ op, .operate op ∈ moves → op = .teardown ∨ op = .cleanup) :
    (x.after device moves).session = x.session ∧
      ∀ entry ∈ x.reports device moves, entry.2 = nothingHeld := by
  induction moves generalizing x with
  | nil => exact ⟨rfl, List.forall_mem_nil _⟩
  | cons m rest ih =>
    have hrest : ∀ op, .operate op ∈ rest → op = .teardown ∨ op = .cleanup :=
      fun op hop => hmoves op (List.mem_cons_of_mem m hop)
    cases m with
    | elapse change => exact ih hstage hrest
    | operate op =>
      have hask : x.ask device op = (nothingHeld, x) :=
        ask_of_idle hstage (hmoves op List.mem_cons_self)
      rw [after, List.foldl_cons, reports, move, hask]
      obtain ⟨hsession, hreports⟩ := ih hstage hrest
      exact ⟨hsession, List.forall_mem_cons.mpr ⟨rfl, hreports⟩⟩

/-- However often a running session is torn down while its task is late, each time is answered with
the timeout, and a setup in between with the stage; nothing is released, and the session stays as it
is with a pacer for the same task. Once the task exits in time, the next teardown joins it, and the
decoder, the memory block, the library and the texture are released in that order, by calls that do
nothing else. After that no teardown, cleanup or drop calls the device. -/
theorem teardown_retried (h : x.session.Arises) (hstage : x.session.stage = .running)
    {moves : List (Move σ)} (hlate : x.Late device moves) :
    let y := x.after device moves
    ∃ p p' task, x.session.pacer = some p ∧ p.Awaits task ∧ p'.Awaits task ∧
      y.session = { x.session with pacer := some p' } ∧
      Refuses x.session p (x.reports device moves) ∧
      ∀ op, op = .teardown ∨ op = .cleanup → y.exitsInTime device = true →
        let report := (y.ask device op).1
        let z := (y.ask device op).2
        report.answer = .teardown (.ok ()) ∧
          (∃ signal decoder memory texture, x.session.decoder = some decoder ∧
            x.session.memory = some memory ∧ x.session.texture = some texture ∧
            report.calls.map (·.1) =
              (p'.waiting x.session.settings.shutdownTimeout signal).map (·.1) ++
                [.join task, .deleteDecoder decoder, .free memory.block, .termLibrary,
                  .freeTexture texture]) ∧
          z.session = x.session.emptied ∧
          ∀ more : List (Move σ), (∀ op, .operate op ∈ more → op = .teardown ∨ op = .cleanup) →
            (z.after device more).session = z.session ∧
              (∀ entry ∈ z.reports device more, entry.2 = nothingHeld) ∧
              (z.after device more).session.drop = pure z.session := by
  intro y
  have hfilled : x.session.Filled .running := hstage ▸ h.filled
  obtain ⟨p, task, hpacer, hawaits⟩ := hfilled.exists_pacer
  have hx : x.session = { x.session with pacer := some p } := by rw [← hpacer]
  obtain ⟨hrefuses, p', hawaits', hafter⟩ := refuses_reports hfilled hstage hawaits hx hlate
  refine ⟨p, p', task, hpacer, hawaits, hawaits', hafter, hrefuses, fun op hop hintime => ?_⟩
  intro report z
  have hstill : y.session.Filled .running := hafter ▸ hfilled.unpaced.paced hawaits'
  have hpacer' : y.session.pacer = some p' := by rw [hafter]
  have hattempted : y.Attempted device p' task (y.ask device op) :=
    attempted_ask hstill (hafter ▸ hstage) hpacer' hawaits' hop
  obtain ⟨hanswer, ⟨signal, panicked, rest, hcalls, hreleased⟩, hemptied⟩ :=
    hattempted.closed hintime
  rw [show y.session = _ from hafter] at hcalls hreleased hemptied
  obtain ⟨decoder, memory, texture, hdecoder, hmemory, htexture, hhandles⟩ :=
    Session.handles_decoder hfilled
  have hreleased : Releases (x.session.handles .decoder) rest := hreleased
  rw [hhandles] at hreleased
  refine ⟨hanswer, ⟨signal, decoder, memory, texture, hdecoder, hmemory, htexture, ?_⟩, hemptied,
    fun more hmore => ?_⟩
  · rw [hcalls, List.map_append, List.map_append, hreleased.map_call, List.append_assoc]
    rfl
  · have hidle : z.session.stage = .idle := congrArg Session.stage hemptied
    obtain ⟨hkept, hnothing⟩ : (z.after device more).session = z.session ∧
        ∀ entry ∈ z.reports device more, entry.2 = nothingHeld := reports_of_idle hidle hmore
    refine ⟨hkept, hnothing, ?_⟩
    rw [hkept]
    exact drop_of_idle hidle

/-- A running session on the simulated device, with a task that needs 25 seconds to look at the
time. -/
def heldUp : Closing Device :=
  let done := (Session.operate {} (.setup Session.hdStream)).run (Call.interpreter Device.simulated)
    ({}, { faults := { stall := .ofSeconds 25 0 } })
  ⟨done.1.2, done.2.1, done.2.2⟩

def twoAttempts : List (Move Device) :=
  [.operate .teardown, .operate (.setup Session.hdStream), .operate .cleanup]

def afterTwo : Closing Device := heldUp.after Device.simulated twoAttempts

/-- Two waits of ten seconds are too short, the third is not. The task was told to stop once. -/
theorem teardown_retried_third :
    heldUp.session.Arises ∧ heldUp.session.stage = .running ∧
      heldUp.Late Device.simulated twoAttempts ∧
      afterTwo.exitsInTime Device.simulated = true ∧
      afterTwo.session.pacer = some (FramePacer.ofTask ⟨1⟩).told ∧
      (afterTwo.ask Device.simulated .teardown).1.answer = .teardown (.ok ()) := by
  have harises : heldUp.session.Arises := .operate (.fresh {} {}) _ _ _
  have hstage : heldUp.session.stage = .running := by decide +kernel
  have hlate : heldUp.Late Device.simulated twoAttempts := by
    refine ⟨?_, trivial, ?_, trivial⟩ <;>
    · unfold Awaits
      decide +kernel
  have hintime : afterTwo.exitsInTime Device.simulated = true := by decide +kernel
  obtain ⟨p, p', task, -, -, -, -, -, hlast⟩ := teardown_retried harises hstage hlate
  exact ⟨harises, hstage, hlate, hintime, by decide +kernel, (hlast .teardown (.inl rfl) hintime).1⟩

end Closing
end AvcPipeline
