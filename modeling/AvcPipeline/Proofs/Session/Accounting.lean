import AvcPipeline.Proofs.Device.Screen
import AvcPipeline.Proofs.Pacing.Counters
import AvcPipeline.Proofs.Session.Atomicity
import AvcPipeline.Proofs.Session.Managing
import AvcPipeline.Proofs.Session.Outcome

/-!
# Every unit is accounted for

Each way out of a submission is counted once in the statistics, unless the session does not run; and
the device counts a decode for each unit that was assembled, and a picture shown for each unit that
was presented. One operation or incident after the other keeps the accounts, across setups and
teardowns, whatever fails in between.
-/

namespace AvcPipeline

open Program CallEvent

/-- So many units were decoded and so many pictures shown, all of them in step with the display. -/
structure Screen.Adds (decodes shown : Nat) (s s' : Screen) : Prop where
  decodeCalls : s'.decodeCalls = s.decodeCalls + decodes
  presented : s'.presented = s.presented + shown
  unsyncedSwaps : s'.unsyncedSwaps = s.unsyncedSwaps

theorem Screen.Adds.trans {decodes decodes' shown shown' : Nat} {s s' s'' : Screen}
    (h : s.Adds decodes shown s') (h' : s'.Adds decodes' shown' s'') :
    s.Adds (decodes + decodes') (shown + shown') s'' where
  decodeCalls := by rw [h'.decodeCalls, h.decodeCalls, Nat.add_assoc]
  presented := by rw [h'.presented, h.presented, Nat.add_assoc]
  unsyncedSwaps := h'.unsyncedSwaps.trans h.unsyncedSwaps

namespace Session

variable {s s' : Session} {u : DecodeUnit} {events : List CallEvent} {texture : Texture}
  {outcome : Except DecodeError Outcome}

def assembles (s : Session) (u : DecodeUnit) : Bool :=
  match s.assembler, s.fixup with
  | some a, some f => s.isRunning && (a.assemble f u).1.isOk
  | _, _ => false

def wasPresented : Except DecodeError Outcome → Bool
  | .ok .presented => true
  | _ => false

theorem assembles_of_ready {a : Assembler} {f : Fixup} {decoder : DecoderHandle}
    (h : s.Ready a f texture decoder) (u : DecodeUnit) :
    s.assembles u = (a.assemble f u).1.isOk := by
  have hrunning : s.isRunning = true := decide_eq_true h.stage
  simp only [assembles, h.assembler, h.fixup, hrunning, Bool.true_and]

theorem assembles_of_not_running (h : s.stage ≠ .running) (u : DecodeUnit) :
    s.assembles u = false := by
  have hidle : s.isRunning = false := decide_eq_false h
  unfold assembles
  split
  · rw [hidle, Bool.false_and]
  · rfl

/-! ## Screen and frame count -/

/-- What calls with which so many units are decoded and pictures shown do to the screen and to the
frame count. -/
structure Counts (decodes shown : Nat) (events : List CallEvent) : Prop where
  screen : ∀ sc : Screen, sc.Adds decodes shown (sc.along events)
  frames : ∀ c : Counters, (countersAfter events c).frames = c.frames + UInt32.ofNat shown

theorem counts_nil : Counts 0 0 [] :=
  ⟨fun _ => ⟨rfl, rfl, rfl⟩, fun c => (UInt32.add_zero c.frames).symm⟩

theorem Counts.append {decodes decodes' shown shown' : Nat} {more : List CallEvent}
    (h : Counts decodes shown events) (h' : Counts decodes' shown' more) :
    Counts (decodes + decodes') (shown + shown') (events ++ more) where
  screen sc := by
    rw [Screen.along_append]
    exact (h.screen sc).trans (h'.screen _)
  frames c := by
    rw [countersAfter_append, h'.frames, h.frames, UInt32.ofNat_add, UInt32.add_assoc]

theorem counts_consumeDrop (reply : Bool) :
    Counts 0 0 [⟨.counter .isActive, true⟩, ⟨.counter .consumeDrop, reply⟩] where
  screen _ := ⟨rfl, rfl, rfl⟩
  frames c := by
    change (CounterOp.step .consumeDrop c).2.frames = c.frames + 0
    rw [UInt32.add_zero]
    rcases c.step_consumeDrop with ⟨-, hstep⟩ | ⟨-, hstep⟩ <;> rw [hstep]

theorem counts_drawing (s : Session) (texture : Texture) (interval : Interval) :
    Counts 0 1 (s.drawing texture interval ++ [⟨.counter .recordPresented, ()⟩]) := by
  unfold drawing rateDrawing
  cases s.config.showRate <;> cases s.indicator.advance.1 <;>
    exact ⟨fun _ => ⟨rfl, rfl, rfl⟩, fun _ => rfl⟩

theorem ShownBy.counts {outcome : Outcome} (h : ShownBy s texture events (outcome, s')) :
    s'.stats = s.stats ∧ Counts 0 (wasPresented (.ok outcome)).toNat events := by
  cases h with
  | hidden => exact ⟨rfl, fun _ => ⟨rfl, rfl, rfl⟩, fun c => (UInt32.add_zero c.frames).symm⟩
  | dropped => exact ⟨rfl, counts_consumeDrop true⟩
  | presented interval =>
    exact ⟨rfl, (counts_consumeDrop false).append (counts_drawing s texture interval)⟩

theorem JudgedBy.counts {reply : Except Status UInt32}
    (h : JudgedBy s texture reply events (outcome, s')) :
    s'.stats = s.stats ∧ Counts 0 (wasPresented outcome).toNat events ∧
      outcome ≠ .error .notRunning := by
  cases h with
  | rejected e => exact ⟨rfl, counts_nil, nofun⟩
  | pending => exact ⟨rfl, counts_nil, nofun⟩
  | tooMany hsome hmany => exact ⟨rfl, counts_nil, nofun⟩
  | single h => exact ⟨h.counts.1, h.counts.2, nofun⟩

theorem Counts.afterDecode {shown : Nat} {call : CallEvent} {decoder : DecoderHandle}
    {stream : Bytes} (h : Counts 0 shown events)
    (hcall : call.1 = .device (.decode decoder (.untimed stream) texture.target)) :
    Counts 1 shown (call :: events) := by
  obtain ⟨c, reply⟩ := call
  cases hcall
  have hdecode : Counts 1 0 [⟨.device (.decode decoder (.untimed stream) texture.target), reply⟩] :=
    ⟨fun _ => ⟨rfl, rfl, rfl⟩, fun c => (UInt32.add_zero c.frames).symm⟩
  have hboth := hdecode.append h
  rwa [Nat.zero_add] at hboth

theorem DecodedBy.counts (h : DecodedBy s u events (outcome, s')) :
    s'.stats = s.stats ∧ Counts (s.assembles u).toNat (wasPresented outcome).toNat events ∧
      (outcome = .error .notRunning ↔ s.stage ≠ .running) := by
  cases h with
  | notRunning hstage =>
    rw [assembles_of_not_running hstage]
    exact ⟨rfl, counts_nil, iff_of_true rfl hstage⟩
  | unassembled hready hassemble =>
    rw [assembles_of_ready hready, hassemble]
    exact ⟨rfl, counts_nil, iff_of_false nofun (not_not_intro hready.stage)⟩
  | decoded hready hassemble hjudged =>
    obtain ⟨hstats, hcounts, hran⟩ := hjudged.counts
    rw [assembles_of_ready hready, hassemble]
    exact ⟨hstats, hcounts.afterDecode rfl, iff_of_false hran (not_not_intro hready.stage)⟩

end Session

/-! ## Systems -/

namespace Stats

def settled (s : Stats) : Nat :=
  s.presented + s.dropped + s.pending + s.hidden + s.needKeyframe

structure Grows (s s' : Stats) : Prop where
  submitted : s.submitted ≤ s'.submitted
  presented : s.presented ≤ s'.presented
  dropped : s.dropped ≤ s'.dropped
  pending : s.pending ≤ s'.pending
  hidden : s.hidden ≤ s'.hidden
  needKeyframe : s.needKeyframe ≤ s'.needKeyframe

theorem Grows.of_eq {s s' : Stats} (h : s' = s) : s.Grows s' := by
  subst h
  exact ⟨Nat.le_refl _, Nat.le_refl _, Nat.le_refl _, Nat.le_refl _, Nat.le_refl _, Nat.le_refl _⟩

end Stats

namespace System

variable {s s' s'' : System}

def stats (s : System) : Stats := s.session.stats

def outcome? (s : System) : Event → Option (Except DecodeError Outcome)
  | .operate (.submit u) =>
    some ((s.session.counted.decodeUnit u).run Device.interpreter s.device).1.1
  | .operate (.decode u) => some ((s.session.decodeUnit u).run Device.interpreter s.device).1.1
  | _ => none

def presents (s : System) (e : Event) : Bool := (s.outcome? e).any Session.wasPresented

def assembles (s : System) : Event → Bool
  | .operate (.submit u) | .operate (.decode u) => s.session.assembles u
  | _ => false

def refuses (s : System) : Event → Bool
  | .operate (.submit _) => !s.session.isRunning
  | _ => false

/-- The number of events in a run for which this holds, each in the state that it meets. -/
def tally (measure : System → Event → Bool) (s : System) : List Event → Nat
  | [] => 0
  | e :: rest => (measure s e).toNat + tally measure (s.step e) rest

/-- So many units were refused, decoded and shown from one state to the other. -/
structure Accounts (refused decodes shown : Nat) (s s' : System) : Prop where
  submitted : s'.stats.submitted + s.stats.settled = s.stats.submitted + s'.stats.settled + refused
  screen : s.device.screen.Adds decodes shown s'.device.screen

theorem Accounts.refl (s : System) : Accounts 0 0 0 s s :=
  ⟨rfl, rfl, rfl, rfl⟩

theorem Accounts.trans {refused refused' decodes decodes' shown shown' : Nat}
    (h : Accounts refused decodes shown s s') (h' : Accounts refused' decodes' shown' s' s'') :
    Accounts (refused + refused') (decodes + decodes') (shown + shown') s s'' where
  submitted := by
    have hfirst := h.submitted
    have hsecond := h'.submitted
    omega
  screen := h.screen.trans h'.screen

def frames (s : System) : UInt32 := s.device.counters.frames

/-- The pacer takes the frame count, or a setup clears it. -/
def TakesFrames : Event → Prop
  | .operate (.setup _) | .incident (.wake _ _) => True
  | _ => False

structure Steps (s : System) (e : Event) (s' : System) : Prop where
  accounts : Accounts (s.refuses e).toNat (s.assembles e).toNat (s.presents e).toNat s s'
  grows : s.stats.Grows s'.stats
  keeps : (∀ u, e ≠ .operate (.submit u)) → s'.stats = s.stats
  refused : s.refuses e = true → s' = { s with session := s.session.counted }
  shown : s.presents e = true → s'.frames = s.frames + 1
  others : s.presents e = false → s'.frames = s.frames ∨ TakesFrames e ∧ s'.frames = 0

theorem steps_of_quiet {e : Event} (hrefuses : s.refuses e = false)
    (hassembles : s.assembles e = false) (hpresents : s.presents e = false)
    (hstats : s'.stats = s.stats) (hscreen : s.device.screen.Adds 0 0 s'.device.screen)
    (hframes : s'.frames = s.frames ∨ TakesFrames e ∧ s'.frames = 0) : s.Steps e s' where
  accounts := by
    rw [hrefuses, hassembles, hpresents]
    exact ⟨by rw [hstats]; rfl, hscreen⟩
  grows := .of_eq hstats
  keeps _ := hstats
  refused hrefused := absurd (hrefuses.symm.trans hrefused) nofun
  shown hshown := absurd (hpresents.symm.trans hshown) nofun
  others _ := hframes

theorem steps_incident (s : System) (i : Incident) :
    s.Steps (.incident i) (s.step (.incident i)) := by
  have hquiet (hscreen : (s.device.undergo i).screen = s.device.screen)
      (hframes : (s.device.undergo i).counters.frames = s.frames ∨
        TakesFrames (.incident i) ∧ (s.device.undergo i).counters.frames = 0) :
      s.Steps (.incident i) (s.step (.incident i)) := by
    refine steps_of_quiet rfl rfl rfl rfl ?_ hframes
    change s.device.screen.Adds 0 0 (s.device.undergo i).screen
    rw [hscreen]
    exact ⟨rfl, rfl, rfl⟩
  cases i with
  | wake pacer vblank =>
    have htick : (s.device.undergo (.wake pacer vblank)).counters =
        (pacer.tick s.device.counters vblank 0).2.2 := rfl
    refine hquiet rfl (.inr ⟨trivial, ?_⟩)
    rw [htick, Pacer.counters_tick]
  | lateExit task =>
    have hexit : (s.device.exitTask task).screen = s.device.screen ∧
        (s.device.exitTask task).counters.frames = s.frames := by
      unfold Device.exitTask
      split
      · split <;> exact ⟨rfl, rfl⟩
      · exact ⟨rfl, rfl⟩
    exact hquiet hexit.1 (.inl hexit.2)
  | _ => exact hquiet rfl (.inl rfl)

theorem steps_managing {α : Type} {op : Session.Operation} {mayClear : Prop} {p : Action α}
    {answer : α → Session.Answer} {session : α → Session}
    (hop : s.session.operate op = p >>= fun a => pure (answer a, session a))
    (hmanages : p.Ensures (Call.Manages mayClear) fun a => (session a).stats = s.stats)
    (hclear : mayClear → TakesFrames (.operate op)) (hrefuses : s.refuses (.operate op) = false)
    (hassembles : s.assembles (.operate op) = false)
    (hpresents : s.presents (.operate op) = false) :
    s.Steps (.operate op) (s.step (.operate op)) := by
  obtain ⟨events, ⟨hallowed, hstats⟩, hreplays⟩ :=
    hmanages.follows.replays Device.interpreter s.device
  have hstep : s.step (.operate op) =
      ⟨session (p.run Device.interpreter s.device).1, (p.run Device.interpreter s.device).2⟩ := by
    rw [step, operate, hop, run_bind]
    rfl
  have hscreen := Device.screen_of_replays hreplays
  have hcounters := Device.counters_of_replays hreplays
  rw [Screen.along_of_manages hallowed] at hscreen
  rw [hstep]
  refine steps_of_quiet hrefuses hassembles hpresents hstats ?_ ?_
  · change s.device.screen.Adds 0 0 (p.run Device.interpreter s.device).2.screen
    rw [hscreen]
    exact ⟨rfl, rfl, rfl⟩
  · change (p.run Device.interpreter s.device).2.counters.frames = _ ∨
      _ ∧ (p.run Device.interpreter s.device).2.counters.frames = 0
    rw [hcounters]
    exact (frames_of_manages hallowed _).imp_right fun h => ⟨hclear h.1, h.2⟩

/-- What decoding a unit does to a device, and to the session but for the figures counted after. -/
theorem decodeUnit_accounts {s s' : Session} {d d' : Device} {u : DecodeUnit}
    {outcome : Except DecodeError Outcome} (h : s.Filled s.stage)
    (hrun : (s.decodeUnit u).run Device.interpreter d = ((outcome, s'), d')) :
    s'.stats = s.stats ∧ (outcome = .error .notRunning ↔ s.stage ≠ .running) ∧
      d.screen.Adds (s.assembles u).toNat (Session.wasPresented outcome).toNat d'.screen ∧
      d'.counters.frames =
        d.counters.frames + UInt32.ofNat (Session.wasPresented outcome).toNat := by
  obtain ⟨events, hdecoded, hreplays⟩ :=
    (Session.decodeUnit_decodedBy h u).replays Device.interpreter d
  rw [hrun] at hdecoded hreplays
  obtain ⟨hstats, hcounts, hran⟩ := hdecoded.counts
  refine ⟨hstats, hran, ?_, ?_⟩
  · rw [Device.screen_of_replays hreplays]
    exact hcounts.screen d.screen
  · rw [Device.counters_of_replays hreplays]
    exact hcounts.frames d.counters

theorem steps_decode (h : s.session.Filled s.session.stage) (u : DecodeUnit) :
    s.Steps (.operate (.decode u)) (s.step (.operate (.decode u))) := by
  obtain ⟨⟨⟨outcome, s'⟩, d'⟩, hrun⟩ :
      ∃ done, (s.session.decodeUnit u).run Device.interpreter s.device = done := ⟨_, rfl⟩
  have hstep : s.step (.operate (.decode u)) = ⟨s', d'⟩ := by
    rw [step, operate, Session.operate, run_bind, hrun]
    rfl
  have hpresents : s.presents (.operate (.decode u)) = Session.wasPresented outcome := by
    rw [presents, outcome?, hrun]
    rfl
  obtain ⟨hstats, -, hscreen, hframes⟩ := decodeUnit_accounts h hrun
  rw [hstep]
  refine ⟨⟨?_, ?_⟩, ?_, fun _ => hstats, nofun, ?_, ?_⟩
  · change s'.stats.submitted + s.session.stats.settled = _ + s'.stats.settled + 0
    rw [hstats]
    rfl
  · rwa [hpresents]
  · exact .of_eq hstats
  · intro hshown
    rw [← hpresents, hshown] at hframes
    exact hframes
  · intro hnone
    rw [← hpresents, hnone] at hframes
    exact .inl (hframes.trans (UInt32.add_zero _))

theorem submit_of_not_running {s : Session} (h : s.stage ≠ .running) (u : DecodeUnit) :
    s.submit u = pure (.notRunning, s.counted) := by
  have hcounted : s.counted.stage ≠ .running := h
  change (s.counted.decodeUnit u >>= _) = _
  rw [Session.decodeUnit_of_not_running hcounted]
  rfl

theorem settled_concluded {s : Session} {outcome : Except DecodeError Outcome}
    (h : outcome ≠ .error .notRunning) :
    (s.concluded outcome).stats.settled = s.stats.settled + 1 ∧
      (s.concluded outcome).stats.submitted = s.stats.submitted ∧
      s.stats.Grows (s.concluded outcome).stats := by
  cases outcome with
  | ok outcome =>
    cases outcome <;> simp only [Session.concluded, Stats.record, Stats.settled]
    all_goals exact ⟨by omega, trivial, by constructor <;> dsimp only <;> omega⟩
  | error e =>
    have hconcluded : s.concluded (.error e) =
        { s with stats := { s.stats with needKeyframe := s.stats.needKeyframe + 1 } } := by
      cases e with
      | notRunning => exact absurd rfl h
      | _ => rfl
    rw [hconcluded]
    exact ⟨rfl, rfl, by constructor <;> dsimp only <;> omega⟩

theorem steps_submit_refused (hstage : s.session.stage ≠ .running) (u : DecodeUnit) :
    s.Steps (.operate (.submit u)) (s.step (.operate (.submit u))) := by
  have hrefuses : s.refuses (.operate (.submit u)) = true := by
    rw [refuses, Session.isRunning, decide_eq_false hstage]
    rfl
  have hassembles : s.assembles (.operate (.submit u)) = false :=
    Session.assembles_of_not_running hstage u
  have hcounted : s.session.counted.stage ≠ .running := hstage
  have hnone : s.presents (.operate (.submit u)) = false := by
    rw [presents, outcome?, Session.decodeUnit_of_not_running hcounted]
    rfl
  have hstep : s.step (.operate (.submit u)) = { s with session := s.session.counted } := by
    rw [step, operate, Session.operate, submit_of_not_running hstage]
    rfl
  rw [hstep]
  refine ⟨⟨?_, ?_⟩, ?_, fun hother => absurd rfl (hother u), fun _ => rfl, ?_, fun _ => .inl rfl⟩
  · rw [hrefuses]
    change s.stats.submitted + 1 + s.stats.settled = s.stats.submitted + s.stats.settled + 1
    omega
  · rw [hassembles, hnone]
    exact ⟨rfl, rfl, rfl⟩
  · exact { Stats.Grows.of_eq rfl with submitted := Nat.le_succ _ }
  · exact fun hshown => absurd (hnone.symm.trans hshown) nofun

theorem steps_submit_running (h : s.session.Filled s.session.stage)
    (hstage : s.session.stage = .running) (u : DecodeUnit) :
    s.Steps (.operate (.submit u)) (s.step (.operate (.submit u))) := by
  obtain ⟨⟨⟨outcome, s'⟩, d'⟩, hrun⟩ :
      ∃ done, (s.session.counted.decodeUnit u).run Device.interpreter s.device = done := ⟨_, rfl⟩
  have hpresents : s.presents (.operate (.submit u)) = Session.wasPresented outcome := by
    rw [presents, outcome?, hrun]
    rfl
  have hrefuses : s.refuses (.operate (.submit u)) = false := by
    rw [refuses, Session.isRunning, hstage]
    rfl
  have hcounted : s.session.counted.Filled s.session.counted.stage := { h with }
  obtain ⟨hstats, hran, hscreen, hframes⟩ := decodeUnit_accounts hcounted hrun
  obtain ⟨after, hsubmit, hafter⟩ := Session.run_submit hrun
  have hstep : s.step (.operate (.submit u)) = ⟨s'.concluded outcome, after⟩ := by
    rw [step, operate, Session.operate, run_bind, hsubmit]
    rfl
  have hseen : after.screen = d'.screen ∧ after.counters.frames = d'.counters.frames := by
    rcases hafter with rfl | ⟨record, rfl⟩ <;> exact ⟨rfl, rfl⟩
  have hsettled : outcome ≠ .error .notRunning := fun hnone => hran.mp hnone hstage
  obtain ⟨hsettled, hsubmitted, hgrows⟩ := settled_concluded (s := s') hsettled
  rw [hstats] at hsettled hsubmitted hgrows
  rw [hstep]
  refine ⟨⟨?_, ?_⟩, ?_, fun hother => absurd rfl (hother u), ?_, ?_, ?_⟩
  · change (s'.concluded outcome).stats.submitted + s.stats.settled =
      s.stats.submitted + (s'.concluded outcome).stats.settled + _
    rw [hrefuses, hsettled, hsubmitted]
    change s.stats.submitted + 1 + s.stats.settled = s.stats.submitted + (s.stats.settled + 1) + 0
    omega
  · change s.device.screen.Adds _ _ after.screen
    rw [hseen.1, hpresents]
    exact hscreen
  · exact { hgrows with submitted := Nat.le_of_succ_le hgrows.submitted }
  · exact fun hrefused => absurd (hrefuses.symm.trans hrefused) nofun
  · intro hshown
    rw [← hpresents, hshown] at hframes
    exact hseen.2.trans hframes
  · intro hnone
    rw [← hpresents, hnone] at hframes
    exact .inl (hseen.2.trans (hframes.trans (UInt32.add_zero _)))

theorem steps_submit (h : s.session.Filled s.session.stage) (u : DecodeUnit) :
    s.Steps (.operate (.submit u)) (s.step (.operate (.submit u))) := by
  by_cases hstage : s.session.stage = .running
  · exact steps_submit_running h hstage u
  · exact steps_submit_refused hstage u

theorem step_steps (h : s.session.Filled s.session.stage) (e : Event) : s.Steps e (s.step e) := by
  cases e with
  | incident i => exact steps_incident s i
  | operate op =>
    cases op with
    | submit u => exact steps_submit h u
    | decode u => exact steps_decode h u
    | setup p =>
      exact steps_managing rfl (s.session.setup_manages p) (fun _ => trivial) rfl rfl rfl
    | teardown => exact steps_managing rfl s.session.teardown_manages False.elim rfl rfl rfl
    | cleanup => exact steps_managing rfl s.session.cleanup_manages False.elim rfl rfl rfl
    | start => exact steps_of_quiet rfl rfl rfl rfl ⟨rfl, rfl, rfl⟩ (.inl rfl)
    | stop => exact steps_of_quiet rfl rfl rfl rfl ⟨rfl, rfl, rfl⟩ (.inl rfl)
    | showIndicator => exact steps_of_quiet rfl rfl rfl rfl ⟨rfl, rfl, rfl⟩ (.inl rfl)
    | hideIndicator => exact steps_of_quiet rfl rfl rfl rfl ⟨rfl, rfl, rfl⟩ (.inl rfl)

theorem filled_step (h : s.session.Filled s.session.stage) (e : Event) :
    (s.step e).session.Filled (s.step e).session.stage := by
  cases e with
  | incident i => exact h
  | operate op =>
    obtain ⟨events, hfilled⟩ := (Session.filled_operate h op).run Device.interpreter s.device
    exact hfilled

theorem run_accounts_from (h : s.session.Filled s.session.stage) (events : List Event) :
    (s.run events).session.Filled (s.run events).session.stage ∧
      Accounts (s.tally refuses events) (s.tally assembles events) (s.tally presents events) s
        (s.run events) := by
  induction events generalizing s with
  | nil => exact ⟨h, .refl s⟩
  | cons e events ih =>
    obtain ⟨hfilled, haccounts⟩ := ih (filled_step h e)
    exact ⟨hfilled, (step_steps h e).accounts.trans haccounts⟩

/-- After any run from a fresh session, every submitted unit was presented, dropped, pending,
hidden, answered with a request for a refresh picture, or refused since the session did not run. The
device has counted what was presented and what was assembled, with every swap in step with the
display. And whatever happens next, `Steps` says what it does to the figures. -/
theorem run_accounts (config : VideoConfig) (settings : PacerSettings) (events : List Event) :
    let start := fresh config settings
    let after := start.run events
    let stats := after.stats
    stats.submitted = stats.presented + stats.dropped + stats.pending + stats.hidden +
        stats.needKeyframe + start.tally refuses events ∧
      after.device.screen.presented = start.tally presents events ∧
      after.device.screen.decodeCalls = start.tally assembles events ∧
      after.device.screen.unsyncedSwaps = 0 ∧
      ∀ e, after.Steps e (after.step e) := by
  intro start after stats
  obtain ⟨hfilled, haccounts⟩ := run_accounts_from (s := start)
    (Session.stands_fresh config settings).filled events
  refine ⟨?_, ?_, ?_, haccounts.screen.unsyncedSwaps, step_steps hfilled⟩
  · have hsubmitted := haccounts.submitted
    change stats.submitted + 0 = 0 + stats.settled + _ at hsubmitted
    rw [Nat.add_zero, Nat.zero_add] at hsubmitted
    exact hsubmitted
  · exact haccounts.screen.presented.trans (Nat.zero_add _)
  · exact haccounts.screen.decodeCalls.trans (Nat.zero_add _)

end System
end AvcPipeline
