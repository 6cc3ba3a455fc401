import AvcPipeline.Proofs.Device.Screen
import AvcPipeline.Proofs.Session.Holdings
import AvcPipeline.Session.Lifecycle

/-!
# Setting up and tearing down shows nothing

Whatever the device replies, a setup or a teardown decodes nothing and draws nothing. It takes no
step on the counters, but for the one of a setup that clears them. The statistics stay, and a
session that was set up has an empty buffer, a fixup for its own picture size, and a pacer that has
told nothing to its task yet.
-/

namespace AvcPipeline

open Program CallEvent

/-- The calls that acquire and release, those that only ask, and, if it may be, the step that clears
the counters. -/
def Call.Manages (mayClear : Prop) : Call → Prop
  | .device (.decode _ _ _) | .device .startDrawing | .device (.drawTexture _ _ _)
  | .device (.drawText _ _ _ _ _) | .device .endDrawing | .device .waitRenderingDone
  | .device .swapBuffers | .device (.setVblankWait _) => False
  | .counter .reset => mayClear
  | .counter _ => False
  | _ => True

/-- The calls that release, and those that wait for a task. -/
def Call.Frees : Call → Prop
  | .device .termLibrary | .device (.free _) | .device (.deleteDecoder _)
  | .device (.freeTexture _) | .device (.hangUp _) | .device (.awaitDone _ _) | .device (.join _)
  | .log _ => True
  | _ => False

variable {mayClear : Prop} {events : List CallEvent}

theorem Call.Frees.manages {c : Call} (h : c.Frees) : c.Manages mayClear := by
  cases c with
  | log record => trivial
  | device c => cases c <;> trivial
  | counter op => exact h.elim

theorem Call.Manages.allow {c : Call} (h : c.Manages False) : c.Manages mayClear := by
  cases c with
  | log record => trivial
  | device c => cases c <;> trivial
  | counter op => cases op <;> exact False.elim h

theorem Screen.after_of_manages {c : Call} (h : c.Manages mayClear) (s : Screen) :
    s.after c = s := by
  cases c with
  | counter op => rfl
  | log record => rfl
  | device c => cases c <;> first | rfl | exact h.elim

theorem Screen.along_of_manages (h : ∀ e ∈ events, e.1.Manages mayClear) (s : Screen) :
    s.along events = s := by
  induction events with
  | nil => rfl
  | cons e events ih =>
    obtain ⟨hfirst, hlater⟩ := List.forall_mem_cons.mp h
    rw [along, List.foldl_cons, after_of_manages hfirst]
    exact ih hlater

theorem CallEvent.frames_of_manages (h : ∀ e ∈ events, e.1.Manages mayClear) (c : Counters) :
    (countersAfter events c).frames = c.frames ∨
      mayClear ∧ (countersAfter events c).frames = 0 := by
  induction events generalizing c with
  | nil => exact .inl rfl
  | cons e events ih =>
    obtain ⟨hfirst, hlater⟩ := List.forall_mem_cons.mp h
    obtain ⟨call, reply⟩ := e
    cases call with
    | device call => exact ih hlater c
    | log record => exact ih hlater c
    | counter op =>
      cases op with
      | reset =>
        rcases ih hlater (CounterOp.step .reset c).2 with hframes | hframes
        · exact .inr ⟨hfirst, hframes⟩
        · exact .inr hframes
      | _ => exact hfirst.elim

namespace FramePacer

theorem hangUp_frees (p : FramePacer) : p.hangUp.Ensures Call.Frees fun _ => True := by
  unfold hangUp
  split
  · exact ensures_pure trivial
  · exact ensures_perform trivial fun _ => trivial

theorem joinTask_frees (task : TaskHandle) : (joinTask task).Ensures Call.Frees fun _ => True := by
  refine ensures_call trivial fun (panicked : Bool) => ?_
  cases panicked with
  | false => exact ensures_perform trivial fun _ => trivial
  | true => exact ensures_call trivial fun _ => ensures_perform trivial fun _ => trivial

theorem stop_frees (p : FramePacer) (timeout : Nanos) :
    (p.stop timeout).Ensures Call.Frees fun _ => True := by
  unfold stop
  split
  · exact ensures_pure trivial
  · rename_i task _
    refine (hangUp_frees p).bind fun _ _ => ?_
    refine ensures_call trivial fun (signal : Signal) => ?_
    cases signal with
    | timedOut => exact ensures_pure trivial
    | message | disconnected => exact (joinTask_frees task).bind fun _ _ => ensures_pure trivial

theorem start_ensures (allowed : Call → Prop) (config : VideoConfig) (settings : PacerSettings)
    (hreset : allowed (.counter .reset)) (hspawn : allowed (.device (spawning config settings)))
    (hlog : ∀ record, allowed (.log record)) :
    (start config settings).Ensures allowed fun outcome =>
      ∀ p, outcome = .ok p → ∃ task, p = .ofTask task := by
  refine ensures_call hreset fun _ => ?_
  refine ensures_call hspawn fun (reply : Except String TaskHandle) => ?_
  cases reply with
  | error cause => exact ensures_pure nofun
  | ok task =>
    refine ensures_call (hlog _) fun _ => ensures_pure fun p hp => ⟨task, ?_⟩
    exact (Except.ok.inj hp).symm

end FramePacer

namespace Session

variable {s : Session} {stage below : Stage} {p : SetupParams}

/-! ## Down -/

theorem release_frees (s : Session) (stage : Stage) :
    (s.release stage).Ensures Call.Frees fun result => result.2.stats = s.stats := by
  cases stage with
  | idle => exact ensures_pure rfl
  | format => exact ensures_pure rfl
  | library => exact ensures_call trivial fun _ => ensures_pure rfl
  | frameBuffer =>
    simp only [release]
    split
    · exact ensures_call trivial fun _ => ensures_pure rfl
    · exact ensures_pure rfl
  | memory =>
    simp only [release]
    split
    · exact ensures_call trivial fun _ => ensures_pure rfl
    · exact ensures_pure rfl
  | decoder =>
    simp only [release]
    split
    · exact ensures_call trivial fun _ => ensures_pure rfl
    · exact ensures_pure rfl
  | running =>
    simp only [release, stopPacer]
    split
    · exact ensures_pure rfl
    · rename_i pacer _
      refine (pacer.stop_frees s.settings.shutdownTimeout).bind fun result _ => ?_
      obtain ⟨outcome, pacer⟩ := result
      cases outcome with
      | error e => exact ensures_pure rfl
      | ok _ => exact ensures_pure rfl

theorem descend_frees (s : Session) (stages : List Stage) :
    (s.descend stages).Ensures Call.Frees fun result => result.2.stats = s.stats := by
  induction stages generalizing s with
  | nil => exact ensures_pure rfl
  | cons stage rest ih =>
    refine (release_frees s stage).bind fun result hstats => ?_
    obtain ⟨outcome, s'⟩ := result
    cases outcome with
    | error e => exact ensures_pure hstats
    | ok _ => exact (ih _).mono fun _ hlater => hlater.trans hstats

theorem teardown_frees (s : Session) :
    s.teardown.Ensures Call.Frees fun result => result.2.stats = s.stats :=
  descend_frees s _

theorem teardown_manages (s : Session) :
    s.teardown.Ensures (Call.Manages False) fun result => result.2.stats = s.stats :=
  (teardown_frees s).allow fun _ => Call.Frees.manages

theorem cleanup_manages (s : Session) :
    s.cleanup.Ensures (Call.Manages False) fun result => result.2.stats = s.stats :=
  ensures_call trivial fun _ => teardown_manages s

/-! ## Up -/

structure Prepared (p : SetupParams) (stage : Stage) (s : Session) : Prop where
  fixup : 1 ≤ stage.rank → s.fixup = some { width := p.width, height := p.height }
  assembler : 2 ≤ stage.rank → s.assembler = some { capacity := Assembler.decoderCapacity }
  pacer : 6 ≤ stage.rank → ∃ task, s.pacer = some (.ofTask task)

def Prepares (p : SetupParams) (stage : Stage) (s : Session) : Result SetupFailure → Prop
  | (.ok (), s') => s'.stats = s.stats ∧ Prepared p stage s'
  | (.error _, s') => s'.stats = s.stats

theorem Prepared.next (h : Prepared p below s) (hbelow : 2 ≤ below.rank) (hstage : stage.rank < 6) :
    Prepared p stage s :=
  ⟨fun _ => h.fixup (by omega), fun _ => h.assembler hbelow, fun hrank => absurd hrank (by omega)⟩

theorem negotiate_prepares (s : Session) (p : SetupParams) :
    (s.negotiate p).Ensures (Call.Manages True) (Prepares p .format s) := by
  unfold negotiate
  split
  · exact ensures_pure rfl
  · split
    · exact ensures_pure rfl
    · split
      · exact ensures_call trivial fun _ => ensures_pure ⟨rfl, fun _ => rfl, nofun, nofun⟩
      · exact ensures_pure ⟨rfl, fun _ => rfl, nofun, nofun⟩

theorem makeAssembler_ensures {allowed : Call → Prop} {capacity : Nat}
    (hreserve : allowed (.device (.reserve capacity))) :
    (makeAssembler capacity).Ensures allowed fun made => ∀ a ∈ made, a = { capacity } := by
  unfold makeAssembler
  split
  · exact ensures_pure nofun
  · refine ensures_call hreserve fun (reserved : Bool) => ?_
    cases reserved with
    | false => exact ensures_pure nofun
    | true => exact ensures_pure fun a ha => (Option.some.inj ha).symm

theorem acquireFrameBuffer_prepares (h : Prepared p .format s) :
    s.acquireFrameBuffer.Ensures (Call.Manages True) (Prepares p .frameBuffer s) := by
  refine (makeAssembler_ensures (by trivial)).bind fun assembler hmade => ?_
  cases assembler with
  | none => exact ensures_pure rfl
  | some assembler =>
    refine ensures_call trivial fun (reply : Option Texture) => ?_
    cases reply with
    | none => exact ensures_pure rfl
    | some texture =>
      exact ensures_pure ⟨rfl, fun _ => h.fixup (by decide), fun _ => congrArg some (hmade _ rfl),
        nofun⟩

theorem acquireLibrary_prepares (h : Prepared p .frameBuffer s) :
    s.acquireLibrary.Ensures (Call.Manages True) (Prepares p .library s) := by
  unfold acquireLibrary
  split
  · exact ensures_pure rfl
  · refine ensures_call trivial fun (reply : Except Status Unit) => ?_
    cases reply with
    | error e => exact ensures_pure rfl
    | ok _ => exact ensures_call trivial fun _ => ensures_pure ⟨rfl, h.next (by decide) (by decide)⟩

theorem acquireMemory_prepares (h : Prepared p .library s) :
    s.acquireMemory.Ensures (Call.Manages True) (Prepares p .memory s) := by
  have hprepared : Prepared p .memory s := h.next (by decide) (by decide)
  unfold acquireMemory
  split
  · exact ensures_pure rfl
  · refine ensures_call trivial fun (reply : Except Status UInt64) => ?_
    cases reply with
    | error e => exact ensures_pure rfl
    | ok required =>
      dsimp only
      split
      · exact ensures_pure rfl
      · refine ensures_call trivial fun (reply : Except Status MemoryBlock) => ?_
        cases reply with
        | error e => exact ensures_pure rfl
        | ok block =>
          refine ensures_call trivial fun (reply : Except Status UInt64) => ?_
          cases reply with
          | error e => exact ensures_call trivial fun _ => ensures_pure rfl
          | ok base => exact ensures_pure ⟨rfl, hprepared.fixup, hprepared.assembler, nofun⟩

theorem acquireDecoder_prepares (h : Prepared p .memory s) :
    s.acquireDecoder.Ensures (Call.Manages True) (Prepares p .decoder s) := by
  have hprepared : Prepared p .decoder s := h.next (by decide) (by decide)
  unfold acquireDecoder
  split
  · exact ensures_pure rfl
  · refine ensures_call trivial fun (reply : Except Status DecoderHandle) => ?_
    cases reply with
    | error e => exact ensures_pure rfl
    | ok decoder => exact ensures_pure ⟨rfl, hprepared.fixup, hprepared.assembler, nofun⟩

theorem startPacer_prepares (h : Prepared p .decoder s) :
    s.startPacer.Ensures (Call.Manages True) (Prepares p .running s) := by
  have hstart := FramePacer.start_ensures (Call.Manages True) s.config s.settings trivial trivial
    fun _ => trivial
  refine hstart.bind fun outcome hstarted => ?_
  cases outcome with
  | error cause => exact ensures_pure rfl
  | ok pacer =>
    obtain ⟨task, rfl⟩ := hstarted pacer rfl
    exact ensures_pure ⟨rfl, fun _ => h.fixup (by decide), fun _ => h.assembler (by decide),
      fun _ => ⟨task, rfl⟩⟩

theorem acquire_prepares {rest : List Stage} (h : Prepared p below s)
    (habove : below.above = stage :: rest) :
    (s.acquire p stage).Ensures (Call.Manages True) (Prepares p stage s) ∧ stage.above = rest := by
  cases below <;> cases habove
  case idle => exact ⟨negotiate_prepares s p, rfl⟩
  case format => exact ⟨acquireFrameBuffer_prepares h, rfl⟩
  case frameBuffer => exact ⟨acquireLibrary_prepares h, rfl⟩
  case library => exact ⟨acquireMemory_prepares h, rfl⟩
  case memory => exact ⟨acquireDecoder_prepares h, rfl⟩
  case decoder => exact ⟨startPacer_prepares h, rfl⟩

theorem unwind_prepares {s' : Session} (hstats : s'.stats = s.stats) (failed : Stage)
    (e : SetupError) :
    (s'.unwind failed e).Ensures (Call.Manages True) (Prepares p stage s) := by
  refine ensures_call trivial fun _ => ?_
  have hteardown : s'.teardown.Ensures (Call.Manages True) fun result =>
      result.2.stats = s'.stats := (teardown_manages s').allow fun _ => Call.Manages.allow
  refine hteardown.bind fun result htorn => ?_
  obtain ⟨outcome, s''⟩ := result
  cases outcome with
  | ok _ => exact ensures_pure (htorn.trans hstats)
  | error e => exact ensures_call trivial fun _ => ensures_pure (htorn.trans hstats)

theorem climb_prepares {rest : List Stage} (h : Prepared p below s) (habove : below.above = rest) :
    (s.climb p rest).Ensures (Call.Manages True) (Prepares p .running s) := by
  induction rest generalizing s below with
  | nil =>
    cases below with
    | running => exact ensures_pure ⟨rfl, h⟩
    | _ => cases habove
  | cons stage rest ih =>
    obtain ⟨hacquire, hrest⟩ := acquire_prepares h habove
    refine hacquire.bind fun result hprepares => ?_
    obtain ⟨outcome, s'⟩ := result
    cases outcome with
    | ok _ =>
      obtain ⟨hstats, hprepared⟩ := hprepares
      have hclimb := ih (s := { s' with stage := stage })
        ⟨hprepared.fixup, hprepared.assembler, hprepared.pacer⟩ hrest
      refine hclimb.mono fun result hlater => ?_
      obtain ⟨outcome, s''⟩ := result
      cases outcome with
      | ok _ => exact ⟨hlater.1.trans hstats, hlater.2⟩
      | error e => exact hlater.trans hstats
    | error e =>
      cases e with
      | oversized required => exact ensures_pure hprepares
      | refused e => exact unwind_prepares hprepares stage e

theorem setup_prepares (s : Session) (p : SetupParams) :
    (s.setup p).Ensures (Call.Manages True) (Prepares p .running s) := by
  unfold setup
  split
  · exact ensures_pure rfl
  · refine ensures_call trivial fun _ => ?_
    have hidle : Prepared p .idle s := ⟨nofun, nofun, nofun⟩
    have hclimb := climb_prepares hidle rfl
    refine hclimb.bind fun result hprepares => ?_
    obtain ⟨outcome, s'⟩ := result
    cases outcome with
    | ok _ => exact ensures_call trivial fun _ => ensures_pure hprepares
    | error e => exact ensures_pure hprepares

theorem setup_manages (s : Session) (p : SetupParams) :
    (s.setup p).Ensures (Call.Manages True) fun result => result.2.stats = s.stats := by
  refine (setup_prepares s p).mono fun result hprepares => ?_
  obtain ⟨outcome, s'⟩ := result
  cases outcome with
  | ok _ => exact hprepares.1
  | error e => exact hprepares

end Session
end AvcPipeline
