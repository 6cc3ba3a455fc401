import AvcPipeline.Proofs.Session.Frame
import AvcPipeline.Proofs.Session.Setup
import AvcPipeline.Session.Run
import Mathlib.Data.List.Induction

/-!
# The life of a session

Between operations a session is idle and holds nothing, or it runs and holds everything. This is
kept by every operation, whatever calls fail, and by every incident. A running session is without
its task only after a teardown that timed out.
-/

namespace AvcPipeline

open Program

namespace System

variable {s : System}

/-! ## Operations -/

structure Settled (s : System) : Prop where
  stage : s.session.stage = .idle ∨ s.session.stage = .running
  stands : s.session.Stands s.session.stage s.device

/-- The session runs, but its task is gone or was told to stop. -/
def Overdue (s : System) : Prop :=
  s.session.stage = .running ∧ ∀ t ∈ s.device.tasks, t.stopping = true

def TimesOut (s : System) (op : Session.Operation) : Prop :=
  ∃ timeout, (s.operate op).1 = .teardown (.error (.pacerTimeout timeout))

/-- What comes of an operation: a session becomes overdue only by a teardown that timed out. -/
def Settles (s : System) : (Session.Answer × Session) × Device → Prop
  | ((answer, session), device) =>
    Settled ⟨session, device⟩ ∧
      (Overdue ⟨session, device⟩ →
        s.Overdue ∨ ∃ timeout, answer = .teardown (.error (.pacerTimeout timeout)))

theorem settles_same (h : s.Settled) {session : Session} {device : Device}
    (hkeeps : s.session.Keeps session) (hsame : device.holdings = s.device.holdings)
    (answer : Session.Answer) : s.Settles ((answer, session), device) := by
  have htasks : device.tasks = s.device.tasks := (Device.holdings_eq hsame).2.1
  refine ⟨⟨hkeeps.stage ▸ h.stage, ?_⟩, ?_⟩
  · have hstands := h.stands.keeps hkeeps hsame
    rwa [← hkeeps.stage] at hstands
  · rintro ⟨hrunning, hstopping⟩
    exact .inl ⟨hkeeps.stage ▸ hrunning, htasks ▸ hstopping⟩

theorem settles_setup (h : s.Settled) (p : SetupParams) :
    s.Settles ((s.session.operate (.setup p)).run Device.interpreter s.device) := by
  by_cases hidle : s.session.stage = .idle
  · have hsetup := Session.setup_setsUp p (hidle ▸ h.stands) hidle
    rw [Session.operate, run_bind]
    generalize (s.session.setup p).run Device.interpreter s.device = result at hsetup ⊢
    obtain ⟨⟨outcome, session⟩, device⟩ := result
    cases outcome with
    | ok _ =>
      obtain ⟨hstage, hstands, t, htask, hfresh⟩ := hsetup
      refine ⟨⟨.inr hstage, hstage ▸ hstands⟩, ?_⟩
      rintro ⟨-, hstopping⟩
      cases hfresh.symm.trans (hstopping t htask)
    | error e =>
      cases e with
      | refused e =>
        obtain ⟨hstage, hstands⟩ := hsetup
        refine ⟨⟨.inl hstage, hstage ▸ hstands⟩, ?_⟩
        rintro ⟨hrunning, -⟩
        cases hstage.symm.trans hrunning
      | oversized required => exact hsetup.elim
  · rw [Session.operate, Session.setup, if_pos hidle]
    exact settles_same h (.refl _) rfl _

theorem settles_tornDown {session : Session} {device : Device}
    {outcome : Except TeardownError Unit}
    (htorn : s.session.TearsDown ((outcome, session), device)) :
    s.Settles ((.teardown outcome, session), device) := by
  cases outcome with
  | ok _ =>
    obtain ⟨hstage, hstands⟩ := htorn
    refine ⟨⟨.inl hstage, hstage ▸ hstands⟩, ?_⟩
    rintro ⟨hrunning, -⟩
    cases hstage.symm.trans hrunning
  | error e =>
    obtain ⟨-, hstage, hstands⟩ := htorn
    obtain ⟨timeout⟩ := e
    exact ⟨⟨.inr hstage, hstage ▸ hstands⟩, fun _ => .inr ⟨timeout, rfl⟩⟩

theorem settles_quiet (h : s.Settled) {α : Type} {p : Action α} {answer : α → Session.Answer}
    {session : α → Session} (hquiet : p.Ensures Call.Quiet fun a => s.session.Keeps (session a)) :
    s.Settles ((do let a ← p; return (answer a, session a)).run Device.interpreter s.device) := by
  obtain ⟨hkeeps, hsame⟩ := hquiet.run Device.holdings_answer s.device
  rw [run_bind]
  exact settles_same h hkeeps hsame _

theorem settles_operate (h : s.Settled) (op : Session.Operation) :
    s.Settles ((s.session.operate op).run Device.interpreter s.device) := by
  cases op with
  | setup p => exact settles_setup h p
  | teardown =>
    have htorn := Session.teardown_tearsDown h.stands
    rw [Session.operate, run_bind]
    generalize s.session.teardown.run Device.interpreter s.device = result at htorn ⊢
    exact settles_tornDown htorn
  | cleanup =>
    have htorn := Session.cleanup_tearsDown h.stands
    rw [Session.operate, run_bind]
    generalize s.session.cleanup.run Device.interpreter s.device = result at htorn ⊢
    exact settles_tornDown htorn
  | submit u => exact settles_quiet h (s.session.submit_keeps u)
  | decode u => exact settles_quiet h (s.session.decodeUnit_keeps u)
  | start => exact settles_quiet h (Session.quiet_start.mono fun _ _ => .refl s.session)
  | stop => exact settles_quiet h (Session.quiet_stop.mono fun _ _ => .refl s.session)
  | showIndicator =>
    have hkeeps : s.session.Keeps s.session.showIndicator := { Session.Keeps.refl s.session with }
    exact settles_same h hkeeps rfl .done
  | hideIndicator =>
    have hkeeps : s.session.Keeps s.session.hideIndicator := { Session.Keeps.refl s.session with }
    exact settles_same h hkeeps rfl .done

/-! ## Incidents -/

theorem mem_of_task? {d : Device} {task : TaskHandle} {t : Task} (h : d.task? task = some t) :
    t ∈ d.tasks ∧ t.handle = task := by
  rw [Device.task?] at h
  exact ⟨List.mem_of_find?_eq_some h, by simpa using List.find?_some h⟩

theorem paces_exitTask {d : Device} {task : TaskHandle} (h : d.Paces task) (other : TaskHandle) :
    (d.exitTask other).Paces task := by
  unfold Device.exitTask
  split
  · rename_i t htask
    split
    · obtain ⟨hmem, hother⟩ := mem_of_task? htask
      rcases h.runs with hnone | ⟨only, htasks, hhandle, hwell⟩
      · rw [hnone] at hmem
        cases hmem
      · have hgone : (d.endTask other).tasks = [] := by
          rw [htasks] at hmem
          obtain rfl := List.mem_singleton.mp hmem
          exact Device.tasks_withoutTask (d := d.releaseOf .task) htasks hother
        have hledger := h.backs.ledger
        rw [htasks] at hledger
        have hreleased : (d.endTask other).ledger.Holds Stage.running.resources :=
          hledger.release nofun
        exact ⟨⟨by rwa [hgone], fun hne => absurd rfl hne, h.backs.memorySize⟩, .inl hgone⟩
    · exact h
  · exact h

theorem stands_exitTask {stage : Stage} {session : Session} {d : Device}
    (h : session.Stands stage d) (other : TaskHandle) :
    session.Stands stage (d.exitTask other) := by
  by_cases hrunning : stage = .running
  · subst hrunning
    obtain ⟨p, task, hpacer, hawaits, hpaces⟩ := h.exists_pacer
    exact Session.stands_running h.filled hpacer hawaits.handle (paces_exitTask hpaces other)
  · have hnone := h.backs.tasks hrunning
    have hgone : d.exitTask other = d := by
      rw [Device.exitTask, Device.task?, hnone]
      rfl
    rw [hgone]
    exact h

theorem stands_holdUp {stage : Stage} {session : Session} {d : Device}
    (h : session.Stands stage d) (span : Nanos) :
    session.Stands stage (d.undergo (.holdUp span)) := by
  refine ⟨h.filled, ⟨?_, fun hne => ?_, h.backs.memorySize⟩, fun hstage p hp task htask => ?_⟩
  · have hledger := h.backs.ledger
    simp only [Device.undergo, List.map_map]
    exact hledger
  · exact congrArg (List.map _) (h.backs.tasks hne)
  · rcases h.runs hstage p hp task htask with hnone | ⟨t, htasks, hhandle, hwell⟩
    · exact .inl (congrArg (List.map _) hnone)
    · exact .inr ⟨{ t with stall := span }, congrArg (List.map _) htasks, hhandle, hwell⟩

theorem settled_undergo (h : s.Settled) (i : Incident) :
    Settled { s with device := s.device.undergo i } := by
  obtain ⟨hstage, hstands⟩ := h
  refine ⟨hstage, ?_⟩
  cases i with
  | failAt point => exact ⟨hstands.filled, { hstands.backs with }, hstands.runs⟩
  | clearFailures => exact ⟨hstands.filled, { hstands.backs with }, hstands.runs⟩
  | forceOutputs outputs => exact ⟨hstands.filled, { hstands.backs with }, hstands.runs⟩
  | stall span => exact ⟨hstands.filled, { hstands.backs with }, hstands.runs⟩
  | holdUp span => exact stands_holdUp hstands span
  | lateExit task => exact stands_exitTask hstands task
  | wake pacer vblank => exact hstands.congr rfl

theorem exitTask_of_not_stopping {d : Device} {task : TaskHandle}
    (h : ∀ t ∈ d.tasks, t.stopping = false) : d.exitTask task = d := by
  unfold Device.exitTask
  split
  · rename_i t htask
    rw [h t (mem_of_task? htask).1]
    rfl
  · rfl

theorem overdue_undergo (hs : s.Settled) {i : Incident}
    (h : Overdue { s with device := s.device.undergo i }) : s.Overdue := by
  obtain ⟨hrunning, htasks⟩ := h
  refine ⟨hrunning, fun t ht => ?_⟩
  cases i with
  | holdUp span => exact htasks { t with stall := span } (List.mem_map_of_mem ht)
  | lateExit task =>
    by_contra hfresh
    obtain ⟨_, _, _, _, hpaces⟩ := (hrunning ▸ hs.stands).exists_pacer
    have honly : ∀ other ∈ s.device.tasks, other.stopping = false := by
      rcases hpaces.runs with hnone | ⟨only, hone, -⟩
      · rw [hnone] at ht
        cases ht
      · rw [hone] at ht ⊢
        obtain rfl := List.mem_singleton.mp ht
        exact List.forall_mem_singleton.mpr (Bool.eq_false_iff.mpr hfresh)
    have hstill : t ∈ (s.device.exitTask task).tasks := by rwa [exitTask_of_not_stopping honly]
    exact hfresh (htasks t hstill)
  | _ => exact htasks t ht

/-! ## Runs -/

theorem settled_fresh (config : VideoConfig) (settings : PacerSettings) :
    (fresh config settings).Settled :=
  ⟨.inl rfl, Session.stands_fresh config settings⟩

theorem run_append_singleton (s : System) (events : List Event) (e : Event) :
    s.run (events ++ [e]) = (s.run events).step e := by
  rw [run, List.foldl_append]
  rfl

theorem settled_step (h : s.Settled) (e : Event) : (s.step e).Settled := by
  cases e with
  | operate op => exact (settles_operate h op).1
  | incident i => exact settled_undergo h i

theorem settled_run (h : s.Settled) (events : List Event) : (s.run events).Settled := by
  induction events generalizing s with
  | nil => exact h
  | cons e events ih => exact ih (settled_step h e)

/-- A teardown or cleanup among these events timed out, and the session was running ever since. -/
def TimedOut (s : System) (events : List Event) : Prop :=
  ∃ earlier op later, events = earlier ++ .operate op :: later ∧ (s.run earlier).TimesOut op ∧
    ∀ seen, seen <+: later →
      (s.run (earlier ++ .operate op :: seen)).session.stage = .running

theorem timedOut_of_overdue (h : s.Settled) (hidle : s.session.stage = .idle) {events : List Event}
    (hoverdue : (s.run events).Overdue) : s.TimedOut events := by
  induction events using List.reverseRecOn with
  | nil => cases hidle.symm.trans hoverdue.1
  | append_singleton events e ih =>
    have hstep := hoverdue
    rw [run_append_singleton] at hstep
    have hbefore : (s.run events).Overdue ∨ ∃ op, e = .operate op ∧ (s.run events).TimesOut op := by
      cases e with
      | operate op =>
        rcases (settles_operate (settled_run h events) op).2 hstep with hbefore | htimeout
        · exact .inl hbefore
        · exact .inr ⟨op, rfl, htimeout⟩
      | incident i => exact .inl (overdue_undergo (settled_run h events) hstep)
    rcases hbefore with hbefore | ⟨op, rfl, htimeout⟩
    · obtain ⟨earlier, op, later, rfl, htimeout, hsince⟩ := ih hbefore
      refine ⟨earlier, op, later ++ [e], by simp, htimeout, ?_⟩
      intro seen hseen
      rcases List.prefix_concat_iff.mp hseen with rfl | hseen
      · simpa using hoverdue.1
      · exact hsince seen hseen
    · refine ⟨events, op, [], rfl, htimeout, ?_⟩
      intro seen hseen
      rw [List.prefix_nil.mp hseen]
      exact hoverdue.1

/-! ## What every run keeps -/

/-- After any operations and incidents a session is idle, empty, and nothing is held; or it runs,
full, and each resource is held once, the task at least until a teardown timed out. Every release
was of the resource acquired last. -/
theorem lifecycle (config : VideoConfig) (settings : PacerSettings) (events : List Event) :
    let s := (fresh config settings).run events
    let ledger := s.device.ledger
    (s.session.stage = .idle ∧ s.session.Empty ∧ ledger.isClean = true ∧
      unmatched ledger.events = some []) ∨
    (s.session.stage = .running ∧ s.session.Full ∧ ledger.library = true ∧
      ledger.memoryBlocks = 1 ∧ ledger.decoders = 1 ∧ ledger.textures = 1 ∧
      (ledger.tasks = 1 ∧
          unmatched ledger.events = some [.task, .decoder, .memoryBlock, .library, .texture] ∨
        ledger.tasks = 0 ∧
          unmatched ledger.events = some [.decoder, .memoryBlock, .library, .texture] ∧
          (fresh config settings).TimedOut events)) := by
  intro s ledger
  have hsettled : s.Settled := settled_run (settled_fresh config settings) events
  rcases hsettled.stage with hstage | hstage
  · have hstands := hsettled.stands
    rw [hstage] at hstands
    have hledger : ledger.Holds [] := hstands.backs.holds nofun
    exact .inl ⟨hstage, hstands.filled.empty, hledger.isClean, hledger.1⟩
  · have hstands := hsettled.stands
    rw [hstage] at hstands
    refine .inr ⟨hstage, hstands.filled.full, ?_⟩
    have hledger := hstands.backs.ledger
    obtain ⟨_, _, _, _, hpaces⟩ := hstands.exists_pacer
    rcases hpaces.runs with hnone | ⟨only, hone, -⟩
    case inr =>
      rw [hone] at hledger
      obtain ⟨hevents, hlibrary, hblocks, hdecoders, htextures, htasks⟩ := hledger
      exact ⟨hlibrary, hblocks, hdecoders, htextures, .inl ⟨htasks, hevents⟩⟩
    case inl =>
      rw [hnone] at hledger
      obtain ⟨hevents, hlibrary, hblocks, hdecoders, htextures, htasks⟩ := hledger
      have hoverdue : s.Overdue := ⟨hstage, by rw [hnone]; nofun⟩
      have htimeout := timedOut_of_overdue (settled_fresh config settings) rfl hoverdue
      exact ⟨hlibrary, hblocks, hdecoders, htextures, .inr ⟨htasks, hevents, htimeout⟩⟩

/-- A task that was held up can be gone while the session still runs. -/
example :
    let late := (fresh {} {}).run [.incident (.stall (.ofSeconds 20 0)),
      .operate (.setup { width := 1280, height := 720 }), .operate .teardown,
      .incident (.lateExit ⟨1⟩)]
    late.session.stage = .running ∧ late.device.ledger.tasks = 0 := by
  decide

end System
end AvcPipeline
