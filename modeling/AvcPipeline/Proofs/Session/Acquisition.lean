import AvcPipeline.Proofs.Session.Handles
import AvcPipeline.Proofs.Session.Setup

/-!
# Acquiring a stage on any device

Each stage asks for its resources in order. Either every request is granted and the session holds
the handles, or the stage breaks off and the session is what it was. Only a memory size that cannot
be rounded up ends the stage with no request refused.
-/

namespace AvcPipeline

open Program CallEvent DeviceEvent

/-- Why parameters are refused before any request is made. -/
def SetupParams.objection? (p : SetupParams) : Option SetupError :=
  if p.format &&& Session.formatMask = 0 then some (.unsupportedFormat p.format)
  else if Geometry.supported p.width p.height then none
  else some (.unsupportedGeometry p.width p.height)

def Stage.requests : Stage → List Request
  | .idle | .format => []
  | .frameBuffer => [.buffer, .texture]
  | .library => [.library]
  | .memory => [.memorySize, .block, .blockBase]
  | .decoder => [.decoder]
  | .running => [.task]

theorem Stage.eq_running_of_above {stage : Stage} (h : stage.above = []) : stage = .running := by
  cases stage with
  | running => rfl
  | _ => cases h

theorem Stage.ne_idle_of_above {below stage : Stage} {rest : List Stage}
    (h : below.above = stage :: rest) : stage ≠ .idle := by
  rintro rfl
  cases below <;> cases h

/-- Only for its memory a session asks for a size. -/
theorem Stage.below_memory {below stage : Stage} {rest : List Stage}
    (h : below.above = stage :: rest) (hsize : .memorySize ∈ stage.requests) :
    below = .library ∧ stage = .memory := by
  cases below <;> cases h
  case library => exact ⟨rfl, rfl⟩
  all_goals exact absurd hsize (by decide)

def Request.inOrder : List Request :=
  [.buffer, .texture, .library, .memorySize, .block, .blockBase, .decoder, .task]

namespace Session

def TooLarge (required : UInt64) : Prop :=
  UInt64.size ≤ required.toNat + blockAlignment.toNat

theorem tooLarge_of_blockSize {required : UInt64} (h : blockSize? required = none) :
    TooLarge required := by
  have hroom : ¬ required.toNat < UInt64.size - blockAlignment.toNat := by
    intro hroom
    rw [blockSize?, if_pos hroom] at h
    cases h
  exact Nat.sub_le_iff_le_add.mp (Nat.not_lt.mp hroom)

variable {s : Session} {below stage : Stage}

/-! ## Acquiring a stage -/

/-- The counters are cleared when the last stage is acquired, and left alone before. -/
def clearing : Stage → List CounterOp
  | .running => [.reset]
  | _ => []

def clearedBy : SetupError → List CounterOp
  | .startPacer _ => [.reset]
  | _ => []

/-- What comes of acquiring a stage on any device by these requests. -/
def Acquires (requests : List Request) (below stage : Stage) (s : Session)
    (events : List CallEvent) : Result SetupFailure → Prop
  | (.ok (), s') =>
    s'.emptied = s.emptied ∧ s'.Filled stage ∧ Grants requests (deviceCalls events) ∧
      s'.handles stage = acquired (deviceCalls events) ++ s.handles below ∧
      counterSteps events = clearing stage
  | (.error (.refused e), s') =>
    s' = s ∧ BreaksOff requests [] (deviceCalls events) e ∧ counterSteps events = clearedBy e
  | (.error (.oversized required), s') =>
    s' = s ∧ TooLarge required ∧ StopsAt requests (deviceCalls events) required ∧
      acquired (deviceCalls events) = [] ∧ counterSteps events = []

theorem makeAssembler_follows : (makeAssembler Assembler.decoderCapacity).Follows fun events made =>
    ∃ granted : Bool, events = [ofDevice ⟨.reserve Assembler.decoderCapacity, granted⟩] ∧
      made = if granted then some { capacity := Assembler.decoderCapacity } else none := by
  have hroom : ¬ Assembler.maxCapacity < Assembler.decoderCapacity := by decide
  rw [makeAssembler, if_neg hroom]
  refine follows_call fun (granted : Bool) => ?_
  cases granted with
  | false => exact follows_pure ⟨false, rfl, rfl⟩
  | true => exact follows_pure ⟨true, rfl, rfl⟩

theorem acquireFrameBuffer_acquires (h : s.Filled .format) :
    s.acquireFrameBuffer.Follows (Acquires [.buffer, .texture] .format .frameBuffer s) := by
  refine makeAssembler_follows.bind fun events made hmade => ?_
  obtain ⟨granted, rfl, rfl⟩ := hmade
  cases granted with
  | false => exact follows_pure ⟨rfl, breaksOff_first rfl rfl, rfl⟩
  | true =>
    have hbuffer : Grants [.buffer] [⟨.reserve Assembler.decoderCapacity, true⟩] :=
      grants_one rfl rfl
    refine follows_call fun (reply : Option Texture) => ?_
    cases reply with
    | none => exact ⟨rfl, .after hbuffer (breaksOff_first rfl rfl), rfl⟩
    | some texture =>
      exact ⟨rfl, { h with assembler := rfl, texture := rfl }, hbuffer.append (grants_one rfl rfl),
        rfl, rfl⟩

theorem acquireLibrary_acquires (h : s.Filled .frameBuffer) :
    s.acquireLibrary.Follows (Acquires [.library] .frameBuffer .library s) := by
  obtain ⟨info, hinfo, -⟩ := exists_initInfo h (by decide)
  simp only [acquireLibrary, hinfo]
  refine follows_call fun (reply : Except Status Unit) => ?_
  cases reply with
  | error e => exact ⟨rfl, breaksOff_first rfl rfl, rfl⟩
  | ok _ =>
    refine follows_call fun _ => ?_
    exact ⟨rfl, { h with }, grants_one rfl rfl, rfl, rfl⟩

theorem allocateMemory_acquires (h : s.Filled .library) (info : DecoderInfo) (size : UInt64) :
    (s.allocateMemory info size).Follows
      (Acquires [.block, .blockBase] .library .memory s) := by
  refine follows_call fun (reply : Except Status MemoryBlock) => ?_
  cases reply with
  | error e => exact ⟨rfl, breaksOff_first rfl rfl, rfl⟩
  | ok block =>
    have hblock : Grants [.block] [⟨.allocate blockName size, .ok block⟩] := grants_one rfl rfl
    refine follows_call fun (reply : Except Status UInt64) => ?_
    cases reply with
    | error e =>
      refine follows_call fun _ => ?_
      have hbase : BreaksOff [.blockBase] [] [⟨.blockBase block, .error e⟩] (.blockBase e) :=
        breaksOff_first rfl rfl
      have hfreed : Releases [.block block] [⟨.free block, ()⟩] := rfl
      exact ⟨rfl, .after hblock (hbase.release hfreed []), rfl⟩
    | ok base =>
      exact ⟨rfl, { h with memory := rfl }, hblock.append (grants_one rfl rfl), rfl, rfl⟩

theorem acquireMemory_acquires (h : s.Filled .library) :
    s.acquireMemory.Follows (Acquires [.memorySize, .block, .blockBase] .library .memory s) := by
  obtain ⟨info, hinfo, -⟩ := exists_initInfo h (by decide)
  simp only [acquireMemory, hinfo]
  refine follows_call fun (reply : Except Status UInt64) => ?_
  cases reply with
  | error e => exact ⟨rfl, breaksOff_first rfl rfl, rfl⟩
  | ok required =>
    have hquery : Grants [.memorySize] [⟨.queryMemory info.decoderInfo, .ok required⟩] :=
      grants_one rfl rfl
    cases hsize : blockSize? required with
    | none =>
      simp only [hsize]
      have hstops : StopsAt [.memorySize, .block, .blockBase]
          [⟨.queryMemory info.decoderInfo, .ok required⟩] required :=
        ⟨[.memorySize], _, [], _, rfl, hquery, rfl⟩
      exact follows_pure ⟨rfl, tooLarge_of_blockSize hsize, hstops, rfl, rfl⟩
    | some size =>
      simp only [hsize]
      refine (allocateMemory_acquires h info.decoderInfo size).mono fun events result hmemory => ?_
      obtain ⟨outcome, s'⟩ := result
      cases outcome with
      | ok _ =>
        obtain ⟨hsame, hfilled, hgrants, hhandles, hsteps⟩ := hmemory
        exact ⟨hsame, hfilled, hquery.append hgrants, hhandles, hsteps⟩
      | error e =>
        cases e with
        | refused e =>
          obtain ⟨hsame, hbreaks, hsteps⟩ := hmemory
          exact ⟨hsame, .after hquery hbreaks, hsteps⟩
        | oversized required =>
          obtain ⟨-, -, hstops, -⟩ := hmemory
          exact absurd hstops.memorySize_mem (by decide)

theorem acquireDecoder_acquires (h : s.Filled .memory) :
    s.acquireDecoder.Follows (Acquires [.decoder] .memory .decoder s) := by
  unfold acquireDecoder
  split
  · rename_i hnone
    have hsome := h.memory
    rw [hnone] at hsome
    cases hsome
  · refine follows_call fun (reply : Except Status DecoderHandle) => ?_
    cases reply with
    | error e => exact ⟨rfl, breaksOff_first rfl rfl, rfl⟩
    | ok decoder => exact ⟨rfl, { h with decoder := rfl }, grants_one rfl rfl, rfl, rfl⟩

theorem startPacer_acquires (h : s.Filled .decoder) :
    s.startPacer.Follows (Acquires [.task] .decoder .running s) := by
  refine (FramePacer.start_startsBy s.config s.settings).bind fun events result hstarts => ?_
  cases hstarts with
  | refused cause => exact follows_pure ⟨rfl, breaksOff_first rfl rfl, rfl⟩
  | started task record =>
    exact follows_pure ⟨rfl, h.paced (.ofTask task), grants_one rfl rfl, rfl, rfl⟩

theorem negotiate_follows (h : s.Filled .idle) (p : SetupParams) :
    (s.negotiate p).Follows fun events result =>
      deviceCalls events = [] ∧ counterSteps events = [] ∧
        ((∃ e, p.objection? = some e ∧ clearedBy e = [] ∧ result = (.error (.refused e), s)) ∨
          ∃ s', p.objection? = none ∧ result = (.ok (), s') ∧ s'.emptied = s.emptied ∧
            s'.Filled .format) := by
  unfold negotiate
  by_cases hformat : p.format &&& formatMask = 0
  · rw [if_pos hformat]
    exact follows_pure ⟨rfl, rfl, .inl ⟨_, if_pos hformat, rfl, rfl⟩⟩
  · rw [if_neg hformat]
    by_cases hsupported : Geometry.supported p.width p.height
    · obtain ⟨geometry, hgeometry⟩ : ∃ g, Geometry.negotiate? p.width p.height = some g :=
        ⟨_, if_pos hsupported⟩
      have hlegal : ∀ info ∈ some geometry.initInfo, info.Legal := by
        rintro _ ⟨⟩
        exact Geometry.legal_of_negotiate hgeometry
      have hnone : p.objection? = none := by
        rw [SetupParams.objection?, if_neg hformat, if_pos hsupported]
      have hfilled : Filled .format { s with
          fixup := some { width := p.width, height := p.height }
          initInfo := some geometry.initInfo
          geometry := some geometry } :=
        { h with geometry := rfl, initInfo := rfl, fixup := rfl, legal := hlegal }
      rw [hgeometry]
      dsimp only
      split
      · refine follows_call fun _ => ?_
        exact ⟨rfl, rfl, .inr ⟨_, hnone, rfl, rfl, hfilled⟩⟩
      · exact ⟨rfl, rfl, .inr ⟨_, hnone, rfl, rfl, hfilled⟩⟩
    · have hrefused : p.objection? = some (.unsupportedGeometry p.width p.height) := by
        rw [SetupParams.objection?, if_neg hformat, if_neg hsupported]
      have hgeometry : Geometry.negotiate? p.width p.height = none := if_neg hsupported
      rw [hgeometry]
      exact follows_pure ⟨rfl, rfl, .inl ⟨_, hrefused, rfl, rfl⟩⟩

theorem acquire_acquires (p : SetupParams) {rest : List Stage} (h : s.Filled below)
    (hidle : below ≠ .idle) (habove : below.above = stage :: rest) :
    (s.acquire p stage).Follows (Acquires stage.requests below stage s) ∧ stage.above = rest := by
  cases below <;> cases habove
  case idle => exact absurd rfl hidle
  case format => exact ⟨acquireFrameBuffer_acquires h, rfl⟩
  case frameBuffer => exact ⟨acquireLibrary_acquires h, rfl⟩
  case library => exact ⟨acquireMemory_acquires h, rfl⟩
  case memory => exact ⟨acquireDecoder_acquires h, rfl⟩
  case decoder => exact ⟨startPacer_acquires h, rfl⟩

end Session
end AvcPipeline
