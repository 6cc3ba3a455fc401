import AvcPipeline.Proofs.Session.Teardown

/-!
# Climbing the ladder of stages

Each step of a setup either acquires its stage completely or leaves what was held, for every set of
calls that fail. A failed step is followed by a teardown that cannot fail, since nothing runs yet.
So a setup of an idle session leaves it running or idle.
-/

namespace AvcPipeline.Session

open Program

variable {s : Session} {d : Device} {below stage : Stage}

/-- What comes of acquiring a stage: the session stands at it, with a task only if it runs and one
that was not told to stop, or it stands where it stood. There is always memory enough. -/
def Climbs (below stage : Stage) (s : Session) : Result SetupFailure × Device → Prop
  | ((.ok (), s'), d') =>
    s'.stage = s.stage ∧ Stands stage s' d' ∧
      (stage = .running → ∃ t ∈ d'.tasks, t.stopping = false)
  | ((.error (.refused _), s'), d') => s'.stage = s.stage ∧ Stands below s' d'
  | ((.error (.oversized _), _), _) => False

theorem negotiate_climbs (h : Stands .idle s d) (p : SetupParams) :
    Climbs .idle .format s ((s.negotiate p).run Device.interpreter d) := by
  unfold negotiate
  split
  · exact ⟨rfl, h⟩
  · cases hgeometry : Geometry.negotiate? p.width p.height with
    | none => exact ⟨rfl, h⟩
    | some geometry =>
      have hlegal : ∀ info ∈ some geometry.initInfo, info.Legal := by
        rintro _ ⟨⟩
        exact Geometry.legal_of_negotiate hgeometry
      have hfilled : Filled .format { s with
          fixup := some { width := p.width, height := p.height }
          initInfo := some geometry.initInfo
          geometry := some geometry } :=
        { h.filled with geometry := rfl, initInfo := rfl, fixup := rfl, legal := hlegal }
      have hbacks : d.Backs .format :=
        .of_holds (h.backs.holds nofun) (h.backs.tasks nofun) h.backs.memorySize
      dsimp only
      split
      · exact ⟨rfl, ⟨hfilled, hbacks.congr rfl, nofun⟩, nofun⟩
      · exact ⟨rfl, ⟨hfilled, hbacks, nofun⟩, nofun⟩

theorem run_makeAssembler (d : Device) :
    (makeAssembler Assembler.decoderCapacity).run Device.interpreter d =
      (if d.fails .reserve then none else some { capacity := Assembler.decoderCapacity }, d) := by
  have hroom : ¬ Assembler.maxCapacity < Assembler.decoderCapacity := by decide
  have hreserve : (Action.reserve Assembler.decoderCapacity).run Device.interpreter d =
      (!d.fails .reserve, d) := rfl
  rw [makeAssembler, if_neg hroom, run_bind, hreserve]
  cases d.fails .reserve <;> rfl

theorem acquireFrameBuffer_climbs (h : Stands .format s d) :
    Climbs .format .frameBuffer s (s.acquireFrameBuffer.run Device.interpreter d) := by
  rw [acquireFrameBuffer, run_bind, run_makeAssembler]
  split
  · exact ⟨rfl, h⟩
  · rename_i assembler hassembler
    rw [run_bind]
    rcases d.run_createTexture screenWidth screenHeight .abgr8888 with
      hcall | ⟨texture, d', hcall, hgain⟩
    · rw [hcall]
      exact ⟨rfl, h⟩
    · rw [hcall]
      exact ⟨rfl, ⟨{ h.filled with assembler := rfl, texture := rfl },
        h.backs.gain hgain nofun rfl, nofun⟩, nofun⟩

theorem exists_initInfo (h : Filled stage s) (hrank : 1 ≤ stage.rank) :
    ∃ info, s.initInfo = some info ∧ info.Legal := by
  have hsome : s.initInfo.isSome = true := h.initInfo.trans (decide_eq_true hrank)
  obtain ⟨info, hinfo⟩ := Option.isSome_iff_exists.mp hsome
  exact ⟨info, hinfo, h.legal info hinfo⟩

theorem acquireLibrary_climbs (h : Stands .frameBuffer s d) :
    Climbs .frameBuffer .library s (s.acquireLibrary.run Device.interpreter d) := by
  obtain ⟨info, hinfo, -⟩ := exists_initInfo h.filled (by decide)
  simp only [acquireLibrary, hinfo, run_bind]
  rcases d.run_initLibrary info with ⟨e, hcall⟩ | ⟨d', hcall, hgain⟩
  · rw [hcall]
    exact ⟨rfl, h⟩
  · rw [hcall]
    have hbacks : d'.Backs .library := h.backs.gain hgain nofun rfl
    exact ⟨rfl, ⟨{ h.filled with }, hbacks.congr rfl, nofun⟩, nofun⟩

theorem allocateMemory_climbs (h : Stands .library s d) (info : DecoderInfo) (size : UInt64) :
    Climbs .library .memory s ((s.allocateMemory info size).run Device.interpreter d) := by
  rw [allocateMemory, run_bind]
  rcases d.run_allocate blockName size with ⟨e, hcall⟩ | ⟨block, d', hcall, hgain⟩
  · rw [hcall]
    exact ⟨rfl, h⟩
  · have hbacks : d'.Backs .memory := h.backs.gain hgain nofun rfl
    have hbase : (Action.blockBase block).run Device.interpreter d' =
        (if d'.fails .blockBase then .error Device.failure else .ok (Device.baseOf block), d') :=
      rfl
    simp only [hcall, run_bind, hbase]
    split
    · exact ⟨rfl, h.filled, hbacks.lose (Device.loses_free d' block) nofun rfl nofun, nofun⟩
    · exact ⟨rfl, ⟨{ h.filled with memory := rfl }, hbacks, nofun⟩, nofun⟩

theorem run_queryMemory {info : InitInfo} (hlegal : info.Legal)
    (hsize : d.faults.memorySize = none) :
    ∃ reply, (Action.queryMemory info.decoderInfo).run Device.interpreter d = (reply, d) ∧
      ∀ required, reply = .ok required → ∃ size, blockSize? required = some size := by
  have hquery : (Action.queryMemory info.decoderInfo).run Device.interpreter d =
      d.answerDevice (.queryMemory info.decoderInfo) := rfl
  rw [hquery, Device.answerDevice, hsize, Option.getD_none]
  split
  · refine ⟨_, rfl, ?_⟩
    intro required hreply
    cases hreply
  · refine ⟨_, rfl, ?_⟩
    intro required hreply
    rw [← Except.ok.inj hreply]
    exact exists_blockSize hlegal

theorem acquireMemory_climbs (h : Stands .library s d) :
    Climbs .library .memory s (s.acquireMemory.run Device.interpreter d) := by
  obtain ⟨info, hinfo, hlegal⟩ := exists_initInfo h.filled (by decide)
  obtain ⟨reply, hquery, hsize⟩ := run_queryMemory hlegal h.backs.memorySize
  simp only [acquireMemory, hinfo, run_bind, hquery]
  cases reply with
  | error e => exact ⟨rfl, h⟩
  | ok required =>
    obtain ⟨size, hblock⟩ := hsize required rfl
    simp only [hblock]
    exact allocateMemory_climbs h info.decoderInfo size

theorem acquireDecoder_climbs (h : Stands .memory s d) :
    Climbs .memory .decoder s (s.acquireDecoder.run Device.interpreter d) := by
  obtain ⟨memory, hmemory⟩ := Option.isSome_iff_exists.mp h.filled.memory
  simp only [acquireDecoder, hmemory, run_bind]
  rcases d.run_createDecoder memory.frame memory.info with ⟨e, hcall⟩ | ⟨decoder, d', hcall, hgain⟩
  · rw [hcall]
    exact ⟨rfl, h⟩
  · rw [hcall]
    exact ⟨rfl, ⟨{ h.filled with memory := rfl, decoder := rfl },
      h.backs.gain hgain nofun rfl, nofun⟩, nofun⟩

theorem startPacer_climbs (h : Stands .decoder s d) :
    Climbs .decoder .running s (s.startPacer.run Device.interpreter d) := by
  let reset := (Action.resetCounters.run Device.interpreter d).2
  have hbacks : reset.Backs .decoder := h.backs.congr rfl
  have hspawned := Device.run_spawn (hbacks.tasks nofun) FramePacer.taskName
    FramePacer.taskStackSize (.pacer s.config s.settings.interval)
  have hheld := hbacks.holds nofun
  simp only [startPacer, FramePacer.start, run_bind]
  generalize run Device.interpreter (Action.spawn _ _ _) reset = reply at hspawned ⊢
  cases hspawned with
  | refused hledger htasks hfaults =>
    exact ⟨rfl, h.filled, .of_holds (hledger hheld) htasks (hfaults ▸ hbacks.memorySize), nofun⟩
  | @started t d' hledger htasks hfresh hwell hfaults =>
    have hpaces : d'.Paces t.handle :=
      { backs :=
          { ledger := by rw [htasks]; exact hledger hheld
            tasks := fun hne => absurd rfl hne
            memorySize := hfaults ▸ hbacks.memorySize }
        runs := .inr ⟨t, htasks, rfl, hwell⟩ }
    exact ⟨rfl, stands_running (h.filled.paced (.ofTask t.handle)) rfl rfl (hpaces.congr rfl),
      fun _ => ⟨t, htasks ▸ List.mem_singleton_self t, hfresh⟩⟩

/-! ## From stage to stage -/

theorem acquire_climbs (p : SetupParams) {rest : List Stage} (h : Stands below s d)
    (habove : below.above = stage :: rest) :
    Climbs below stage s ((s.acquire p stage).run Device.interpreter d) ∧ stage.above = rest := by
  cases below <;> cases habove
  case idle => exact ⟨negotiate_climbs h p, rfl⟩
  case format => exact ⟨acquireFrameBuffer_climbs h, rfl⟩
  case frameBuffer => exact ⟨acquireLibrary_climbs h, rfl⟩
  case library => exact ⟨acquireMemory_climbs h, rfl⟩
  case memory => exact ⟨acquireDecoder_climbs h, rfl⟩
  case decoder => exact ⟨startPacer_climbs h, rfl⟩

/-! ## Up to running, or back to idle -/

/-- What comes of a setup of an idle session: it runs, with a task that was not told to stop, or it
is idle again. -/
def SetsUp : Result SetupFailure × Device → Prop
  | ((.ok (), s'), d') =>
    s'.stage = .running ∧ Stands .running s' d' ∧ ∃ t ∈ d'.tasks, t.stopping = false
  | ((.error (.refused _), s'), d') => s'.stage = .idle ∧ Stands .idle s' d'
  | ((.error (.oversized _), _), _) => False

/-- A setup that fails is not running yet, so its teardown does not wait for a task. -/
theorem unwind_setsUp (h : Stands s.stage s d) (hne : s.stage ≠ .running) (e : SetupError) :
    SetsUp ((s.unwind stage e).run Device.interpreter d) := by
  refine after_log fun logged hsame => ?_
  have htorn := teardown_tearsDown (h.congr hsame)
  rw [run_bind]
  generalize s.teardown.run Device.interpreter logged = result at htorn ⊢
  obtain ⟨⟨outcome, s'⟩, d'⟩ := result
  cases outcome with
  | ok _ => exact htorn
  | error e => exact absurd htorn.1 hne

theorem climb_setsUp (p : SetupParams) {rest : List Stage} (h : Stands below s d)
    (hstage : s.stage = below) (habove : below.above = rest)
    (htask : below = .running → ∃ t ∈ d.tasks, t.stopping = false) :
    SetsUp ((s.climb p rest).run Device.interpreter d) := by
  induction rest generalizing s d below with
  | nil =>
    cases below with
    | running => exact ⟨hstage, h, htask rfl⟩
    | _ => cases habove
  | cons stage rest ih =>
    obtain ⟨hclimb, hrest⟩ := acquire_climbs p h habove
    rw [climb, run_bind]
    generalize (s.acquire p stage).run Device.interpreter d = result at hclimb ⊢
    obtain ⟨⟨outcome, s'⟩, d'⟩ := result
    cases outcome with
    | ok _ =>
      obtain ⟨-, hstands, htask'⟩ := hclimb
      exact ih (hstands.withStage stage) rfl hrest htask'
    | error e =>
      cases e with
      | refused e =>
        obtain ⟨hsame, hstands⟩ := hclimb
        have hs : s'.stage = below := hsame.trans hstage
        subst hs
        exact unwind_setsUp hstands (Stage.ne_running_of_above habove) e
      | oversized required => exact hclimb.elim

theorem setup_setsUp (p : SetupParams) (h : Stands .idle s d) (hstage : s.stage = .idle) :
    SetsUp ((s.setup p).run Device.interpreter d) := by
  have hidle : ¬ s.stage ≠ .idle := not_not_intro hstage
  rw [setup, if_neg hidle]
  refine after_log fun logged hsame => ?_
  have hclimb : SetsUp ((s.climb p Stage.ladder).run Device.interpreter logged) :=
    climb_setsUp p (h.congr hsame) hstage rfl nofun
  rw [run_bind]
  generalize (s.climb p Stage.ladder).run Device.interpreter logged = result at hclimb ⊢
  obtain ⟨⟨outcome, s'⟩, d'⟩ := result
  cases outcome with
  | ok _ => exact ⟨hclimb.1, hclimb.2.1.congr rfl, hclimb.2.2⟩
  | error e => exact hclimb

end AvcPipeline.Session
