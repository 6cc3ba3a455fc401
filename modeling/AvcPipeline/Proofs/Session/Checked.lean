import AvcPipeline.Proofs.Device.Bookkeeping
import AvcPipeline.Proofs.Session.BlockSize
import AvcPipeline.Proofs.Session.Lifecycle
import AvcPipeline.Proofs.Session.Renewal

/-!
# Sessions on a device that checks its numbers

A session asks a device for the sizes of legal streams, for one surface, and for blocks that it was
given. So only the number of identifiers brings its calls near the end of a word. While that number
fits in half a word, a device that leaves a call unanswered where a number would pass its end
answers every call of a session, and as one does whose numbers wrap around.
-/

namespace AvcPipeline

open Program Device

/-! ## Calls that are answered -/

/-- A call whose own numbers are far from their ends. -/
def DeviceCall.Bounded : DeviceCall → Prop
  | .queryMemory info | .createDecoder _ info => Device.sizeFits info = true
  | .blockBase block => 0 ≤ block.uid
  | .createTexture width height format => width.toNat * height.toNat * 4 < UInt64.size ∧
    width.toUInt64 * height.toUInt64 * format.bytesPerPixel ≤ Device.maxTextureBytes
  | _ => True

def Call.Bounded : Call → Prop
  | .device c => c.Bounded
  | _ => True

namespace Device

variable {o : Overflow} {d : Device}

/-- Fewer identifiers were taken than half a word has numbers. -/
structure Few (d : Device) : Prop where
  sound : d.ledger.Sound
  taken : taken d.ledger.events < UInt32.size / 2

theorem Few.toNat_lastId (h : d.Few) :
    d.ledger.lastId.toNat = AvcPipeline.taken d.ledger.events := by
  have htaken := h.taken
  rw [UInt32.size] at htaken
  rw [h.sound.lastId]
  exact Nat.mod_eq_of_lt (by omega)

theorem Few.idFits (h : d.Few) : d.idFits = true := by
  have htaken := h.taken
  rw [UInt32.size] at htaken
  rw [Device.idFits, h.toNat_lastId, decide_eq_true_eq, UInt32.size]
  omega

theorem Few.uid_nonneg {block : MemoryBlock} (h : d.Few)
    (huid : block.uid.toUInt32 = d.ledger.lastId) : 0 ≤ block.uid := by
  have htaken := h.taken
  have hnumber : block.uid.toBitVec.toNat = AvcPipeline.taken d.ledger.events :=
    (congrArg UInt32.toNat huid).trans h.toNat_lastId
  have hsigned : block.uid.toInt = block.uid.toBitVec.toInt := rfl
  rw [UInt32.size] at htaken
  rw [Int32.le_iff_toInt_le, hsigned, BitVec.toInt_eq_toNat_of_lt (by omega)]
  exact Int.natCast_nonneg _

theorem admits_of_fits {fits : Bool} (h : fits = true) : o.admits fits = true := by
  rw [Overflow.admits, h, Bool.or_true]

theorem attempt_of_bounded {c : DeviceCall} (hc : c.Bounded) (h : d.Few) :
    d.attempt o c = (some (d.answerDevice c).1, (d.answerDevice c).2) := by
  have hanswers : d.canAnswer o c = true := by
    have hid := h.idFits
    cases c with
    | queryMemory info => exact (congrArg _ (admits_of_fits hc)).trans (Bool.or_true _)
    | allocate name size => exact (congrArg _ (admits_of_fits hid)).trans (Bool.or_true _)
    | blockBase block =>
      have hnonneg : 0 ≤ block.uid := hc
      exact (congrArg _ (admits_of_fits (decide_eq_true hnonneg))).trans (Bool.or_true _)
    | createDecoder memory info =>
      refine (congrArg _ (admits_of_fits ?_)).trans (Bool.or_true _)
      rw [show sizeFits info = true from hc, hid, Bool.or_true, Bool.and_true]
    | createTexture width height format =>
      exact (congrArg _ (admits_of_fits hid)).trans (Bool.or_true _)
    | _ => rfl
  have hgives : canGive o c (d.answerDevice c).1 = true := by
    cases c with
    | createTexture width height format =>
      simp only [answerDevice]
      split
      · rfl
      · exact Bool.and_eq_true_iff.mpr
          ⟨admits_of_fits (decide_eq_true hc.1), decide_eq_true hc.2⟩
    | _ => rfl
  rw [attempt, if_pos hanswers]
  dsimp only
  rw [if_pos hgives]

def attemptCall (o : Overflow) (d : Device) : (c : Call) → Option c.Reply × Device
  | .device c => d.attempt o c
  | c =>
    let (reply, after) := d.answer c
    (some reply, after)

theorem attemptCall_of_bounded {c : Call} (hc : c.Bounded) (h : d.Few) :
    d.attemptCall o c = (some (answer c d).1, (answer c d).2) := by
  cases c with
  | device c => exact attempt_of_bounded hc h
  | counter op => rfl
  | log record => rfl

theorem enters_answer (c : Call) (d : Device) :
    ∃ failed id, d.ledger.Enters failed id (answer c d).2.ledger := by
  cases c with
  | device c => exact ⟨_, _, d.enters_answerDevice c⟩
  | counter op => exact ⟨false, _, .nothing⟩
  | log record => exact ⟨false, _, .nothing⟩

end Device

/-! ## Programs that are answered -/

namespace Program

variable {α β : Type} {o : Overflow} {d : Device} {p : Action α} {f : α → Action β}

/-- Runs a program for as long as the device answers. -/
def attempt (o : Overflow) : Action α → Device → Option (α × Device)
  | .done a, d => some (a, d)
  | .call c next, d =>
    match d.attemptCall o c with
    | (some reply, after) => (next reply).attempt o after
    | (none, _) => none

/-- Each call of the run is answered, and as without limits. -/
def Answered (o : Overflow) : Action α → Device → Prop
  | .done _, _ => True
  | .call c next, d =>
    d.attemptCall o c = (some (d.answer c).1, (d.answer c).2) ∧
      (next (d.answer c).1).Answered o (d.answer c).2

theorem attempt_of_answered (h : p.Answered o d) :
    p.attempt o d = some (p.run Device.interpreter d) := by
  induction p generalizing d with
  | done a => rfl
  | call c next ih =>
    rw [attempt, h.1]
    exact ih _ h.2

theorem answered_bind : (p >>= f).Answered o d ↔ p.Answered o d ∧
    (f (p.run Device.interpreter d).1).Answered o (p.run Device.interpreter d).2 := by
  change (p.bind f).Answered o d ↔ _
  induction p generalizing d with
  | done a => exact (and_iff_right trivial).symm
  | call c next ih => exact (and_congr_right fun _ => ih _).trans and_assoc.symm

theorem sound_run (p : Action α) (h : d.ledger.Sound) :
    (p.run Device.interpreter d).2.ledger.Sound := by
  induction p generalizing d with
  | done a => exact h
  | call c next ih =>
    obtain ⟨_, _, henters⟩ := d.enters_answer c
    exact ih _ (h.enters henters)

theorem taken_le_run (p : Action α) (d : Device) :
    taken d.ledger.events ≤ taken (p.run Device.interpreter d).2.ledger.events := by
  induction p generalizing d with
  | done a => exact Nat.le_refl _
  | call c next ih =>
    obtain ⟨_, _, henters⟩ := d.enters_answer c
    exact Nat.le_trans henters.taken_le (ih _ _)

theorem few_of_run (hsound : d.ledger.Sound) (h : (p.run Device.interpreter d).2.Few) : d.Few :=
  ⟨hsound, Nat.lt_of_le_of_lt (p.taken_le_run d) h.taken⟩

theorem few_of_bind (hsound : d.ledger.Sound) (h : ((p >>= f).run Device.interpreter d).2.Few) :
    (p.run Device.interpreter d).2.Few := by
  rw [run_bind] at h
  exact few_of_run (p.sound_run hsound) h

theorem Ensures.answered {post : α → Prop} (hp : p.Ensures Call.Bounded post)
    (hsound : d.ledger.Sound) (h : (p.run Device.interpreter d).2.Few) : p.Answered o d := by
  induction p generalizing d with
  | done a => trivial
  | call c next ih =>
    obtain ⟨_, _, henters⟩ := d.enters_answer c
    have hfew : d.Few := few_of_run hsound h
    exact ⟨Device.attemptCall_of_bounded hp.1 hfew, ih _ (hp.2 _) (hsound.enters henters) h⟩

end Program

/-! ## Sessions -/

theorem Call.Frees.bounded {c : Call} (h : c.Frees) : c.Bounded := by
  cases c with
  | device c => cases c <;> trivial
  | counter op => trivial
  | log record => trivial

theorem Call.Quiet.bounded {c : Call} (h : c.Quiet) : c.Bounded := by
  cases c with
  | device c => cases c <;> trivial
  | counter op => trivial
  | log record => trivial

namespace Session

variable {s : Session} {d : Device} {o : Overflow} {g : Geometry}

theorem bounded_of_acquiring {c : Call}
    (hinfo : ∀ memory ∈ s.memory, Device.sizeFits memory.info = true) (h : s.Acquiring c) :
    c.Bounded := by
  cases c with
  | counter op => trivial
  | log record => trivial
  | device c =>
    cases c with
    | createTexture width height format =>
      obtain ⟨rfl, rfl, rfl⟩ := h
      exact ⟨by decide, by decide⟩
    | createDecoder frame info =>
      obtain ⟨memory, hmemory, -, rfl⟩ := h
      exact hinfo memory hmemory
    | queryMemory _ | blockBase _ => exact h.elim
    | _ => trivial

theorem allocateMemory_answered (info : DecoderInfo) (size : UInt64) (hsound : d.ledger.Sound)
    (h : ((s.allocateMemory info size).run Device.interpreter d).2.Few) :
    (s.allocateMemory info size).Answered o d := by
  have hafter := few_of_bind hsound h
  rw [allocateMemory, run_bind] at h
  refine answered_bind.mpr ⟨⟨?_, trivial⟩, ?_⟩
  · exact attemptCall_of_bounded trivial (few_of_run hsound hafter)
  -- A block that is granted has the identifier taken last.
  have hentered := d.enters_answerDevice (.allocate blockName size)
  generalize hdone : d.answerDevice (.allocate blockName size) = done at hentered
  have hrun : (Action.allocate blockName size).run interpreter d = done := hdone
  rw [hrun] at h hafter ⊢
  obtain ⟨reply, after⟩ := done
  cases reply with
  | error e => trivial
  | ok block =>
    have huid : block.uid.toUInt32 = after.ledger.lastId := hentered.identified.1
    have hblock : (Call.device (.blockBase block)).Bounded := hafter.uid_nonneg huid
    refine Ensures.answered (?_ : Ensures Call.Bounded (fun _ => True) _) hafter.sound h
    refine ensures_call hblock fun (reply : Except Status UInt64) => ?_
    cases reply with
    | error e => exact ensures_call trivial fun _ => ensures_pure trivial
    | ok base => exact ensures_pure trivial

theorem acquireMemory_answered (hg : Negotiated g s) (hlegal : g.initInfo.Legal)
    (hsound : d.ledger.Sound) (h : (s.acquireMemory.run interpreter d).2.Few) :
    s.acquireMemory.Answered o d := by
  simp only [acquireMemory, hg.initInfo] at h ⊢
  have hafter := few_of_bind hsound h
  rw [run_bind] at h
  refine answered_bind.mpr ⟨⟨?_, trivial⟩, ?_⟩
  · exact attemptCall_of_bounded (sizeFits_of_legal hlegal) (few_of_run hsound hafter)
  generalize (Action.queryMemory g.initInfo.decoderInfo).run interpreter d = done at h hafter ⊢
  obtain ⟨reply, after⟩ := done
  cases reply with
  | error e => trivial
  | ok required =>
    dsimp only at h ⊢
    split
    · trivial
    · rename_i size hsize
      rw [hsize] at h
      exact allocateMemory_answered g.initInfo.decoderInfo size hafter.sound h

theorem acquire_answered {stage : Stage} (hg : Negotiated g s) (hlegal : g.initInfo.Legal)
    (p : SetupParams) (hsound : d.ledger.Sound)
    (h : ((s.acquire p stage).run interpreter d).2.Few) : (s.acquire p stage).Answered o d := by
  by_cases hstage : stage = .memory
  · subst hstage
    exact acquireMemory_answered hg hlegal hsound h
  · have hinfo : ∀ memory ∈ s.memory, sizeFits memory.info = true := by
      intro memory hmemory
      rw [hg.memory memory hmemory]
      exact sizeFits_of_legal hlegal
    exact ((s.acquire_calls p hstage).allow fun _ => bounded_of_acquiring hinfo).answered hsound h

theorem unwind_bounded (s : Session) (stage : Stage) (e : SetupError) :
    (s.unwind stage e).Ensures Call.Bounded fun _ => True := by
  refine ensures_call trivial fun _ => ?_
  refine ((teardown_frees s).allow fun _ => Call.Frees.bounded).bind fun result _ => ?_
  obtain ⟨outcome, s'⟩ := result
  cases outcome with
  | ok _ => exact ensures_pure trivial
  | error e => exact ensures_call trivial fun _ => ensures_pure trivial

/-- A step that is refused is followed by bounded calls only. -/
theorem climb_cons_answered {stage : Stage} {rest : List Stage} (p : SetupParams)
    (hacquire : (s.acquire p stage).Answered o d) (hsound : d.ledger.Sound)
    (hnext : ∀ s' after, (s.acquire p stage).run interpreter d = ((.ok (), s'), after) →
      after.ledger.Sound → ((climb { s' with stage } p rest).run interpreter after).2.Few →
        (climb { s' with stage } p rest).Answered o after)
    (h : ((s.climb p (stage :: rest)).run interpreter d).2.Few) :
    (s.climb p (stage :: rest)).Answered o d := by
  have hafter := few_of_bind hsound h
  rw [climb, run_bind] at h
  refine answered_bind.mpr ⟨hacquire, ?_⟩
  generalize hdone : (s.acquire p stage).run interpreter d = done at h hafter hnext ⊢
  obtain ⟨⟨outcome, s'⟩, after⟩ := done
  cases outcome with
  | ok _ => exact hnext s' after rfl hafter.sound h
  | error e =>
    cases e with
    | oversized required => trivial
    | refused e => exact (unwind_bounded s' stage e).answered hafter.sound h

theorem climb_answered (p : SetupParams) {rest : List Stage} (hg : Negotiated g s)
    (hlegal : g.initInfo.Legal) (hrest : .format ∉ rest) (hsound : d.ledger.Sound)
    (h : ((s.climb p rest).run interpreter d).2.Few) : (s.climb p rest).Answered o d := by
  induction rest generalizing s d with
  | nil => trivial
  | cons stage rest ih =>
    obtain ⟨hstage, hrest⟩ := List.ne_and_not_mem_of_not_mem_cons hrest
    have hacquire := acquire_answered (o := o) hg hlegal p hsound (few_of_bind hsound h)
    refine climb_cons_answered p hacquire hsound (fun s' after hrun hsound' h' => ?_) h
    obtain ⟨_, -, hnegotiates⟩ :=
      (acquire_negotiates hg p (Ne.symm hstage)).follows.run interpreter d
    rw [hrun] at hnegotiates
    have hg' : Negotiated g s' := hnegotiates
    exact ih { hg' with } hrest hsound' h'

/-- The first stage makes no call of the device, and settles the geometry for the others. -/
theorem ladder_answered (p : SetupParams) (hs : s.Filled .idle) (hsound : d.ledger.Sound)
    (h : ((s.climb p Stage.ladder).run interpreter d).2.Few) :
    (s.climb p Stage.ladder).Answered o d := by
  have hinfo : ∀ memory ∈ s.memory, sizeFits memory.info = true := by
    rw [hs.empty.memory]
    nofun
  have hne : Stage.format ≠ .memory := nofun
  have hacquire : (s.acquire p .format).Answered o d :=
    ((s.acquire_calls p hne).allow fun _ => bounded_of_acquiring hinfo).answered hsound
      (few_of_bind hsound h)
  refine climb_cons_answered p hacquire hsound (fun s' after hrun hsound' h' => ?_) h
  obtain ⟨_, -, hnegotiates⟩ :=
    (negotiate_negotiates hs.empty.memory p).follows.run interpreter d
  have hnegotiate : (s.negotiate p).run interpreter d = ((.ok (), s'), after) := hrun
  rw [hnegotiate] at hnegotiates
  obtain ⟨g, hgeometry, hg⟩ := hnegotiates rfl
  exact climb_answered p { hg with } (Geometry.legal_of_negotiate hgeometry) (by decide) hsound' h'

theorem setup_answered (p : SetupParams) (hs : s.stage = .idle → s.Filled .idle)
    (hsound : d.ledger.Sound) (h : ((s.setup p).run interpreter d).2.Few) :
    (s.setup p).Answered o d := by
  unfold setup at h ⊢
  split
  · trivial
  · rename_i hidle
    rw [if_neg hidle] at h
    have hlog := few_of_bind hsound h
    rw [run_bind] at h
    refine answered_bind.mpr ⟨⟨rfl, trivial⟩, answered_bind.mpr ⟨?_, ?_⟩⟩
    · exact ladder_answered p (hs (not_not.mp hidle)) hlog.sound (few_of_bind hlog.sound h)
    · generalize (s.climb p Stage.ladder).run interpreter _ = done
      obtain ⟨⟨outcome, s'⟩, after⟩ := done
      cases outcome with
      | ok _ => exact ⟨rfl, trivial⟩
      | error e => trivial

theorem teardown_bounded (s : Session) : s.teardown.Ensures Call.Bounded fun _ => True :=
  ((teardown_frees s).allow fun _ => Call.Frees.bounded).mono fun _ _ => trivial

theorem operate_answered (op : Operation) (hs : s.stage = .idle → s.Filled .idle)
    (hsound : d.ledger.Sound) (h : ((s.operate op).run interpreter d).2.Few) :
    (s.operate op).Answered o d := by
  have hquiet {α : Type} {p : Action α} {post : α → Prop} (hp : p.Ensures Call.Quiet post)
      (hfew : (p.run interpreter d).2.Few) : p.Answered o d :=
    (hp.allow fun _ => Call.Quiet.bounded).answered hsound hfew
  cases op with
  | setup p => exact answered_bind.mpr ⟨setup_answered p hs hsound (few_of_bind hsound h), trivial⟩
  | teardown =>
    exact answered_bind.mpr ⟨(teardown_bounded s).answered hsound (few_of_bind hsound h), trivial⟩
  | cleanup =>
    have hcleanup : s.cleanup.Ensures Call.Bounded fun _ => True :=
      ensures_call trivial fun _ => teardown_bounded s
    exact answered_bind.mpr ⟨hcleanup.answered hsound (few_of_bind hsound h), trivial⟩
  | submit u =>
    exact answered_bind.mpr ⟨hquiet (s.submit_keeps u) (few_of_bind hsound h), trivial⟩
  | decode u =>
    exact answered_bind.mpr ⟨hquiet (s.decodeUnit_keeps u) (few_of_bind hsound h), trivial⟩
  | start => exact answered_bind.mpr ⟨hquiet quiet_start (few_of_bind hsound h), trivial⟩
  | stop => exact answered_bind.mpr ⟨hquiet quiet_stop (few_of_bind hsound h), trivial⟩
  | showIndicator => trivial
  | hideIndicator => trivial

end Session

/-! ## Runs -/

namespace System

variable {s : System} {o : Overflow}

def step? (o : Overflow) (s : System) : Event → Option System
  | .operate op => ((s.session.operate op).attempt o s.device).map fun done => ⟨done.1.2, done.2⟩
  | .incident i => some (s.step (.incident i))

def run? (o : Overflow) (s : System) (events : List Event) : Option System :=
  events.foldlM (step? o) s

theorem sound_step (e : Event) (h : s.device.ledger.Sound) : (s.step e).device.ledger.Sound := by
  cases e with
  | operate op => exact (s.session.operate op).sound_run h
  | incident i =>
    obtain ⟨_, _, henters⟩ := enters_undergo (d := s.device) i
    exact h.enters henters

theorem taken_le_step (s : System) (e : Event) :
    taken s.device.ledger.events ≤ taken (s.step e).device.ledger.events := by
  cases e with
  | operate op => exact (s.session.operate op).taken_le_run s.device
  | incident i =>
    obtain ⟨_, _, henters⟩ := enters_undergo (d := s.device) i
    exact henters.taken_le

theorem taken_le_run (s : System) (events : List Event) :
    taken s.device.ledger.events ≤ taken (s.run events).device.ledger.events := by
  induction events generalizing s with
  | nil => exact Nat.le_refl _
  | cons e events ih => exact Nat.le_trans (s.taken_le_step e) (ih _)

theorem step?_of_few (e : Event) (hs : s.Settled) (hsound : s.device.ledger.Sound)
    (h : (s.step e).device.Few) : s.step? o e = some (s.step e) := by
  cases e with
  | operate op =>
    have hfilled : s.session.stage = .idle → s.session.Filled .idle := by
      intro hidle
      exact hidle ▸ hs.stands.filled
    have hanswered := Session.operate_answered (o := o) op hfilled hsound h
    rw [step?, attempt_of_answered hanswered]
    rfl
  | incident i => rfl

theorem run?_of_few (events : List Event) (hs : s.Settled) (hsound : s.device.ledger.Sound)
    (h : taken (s.run events).device.ledger.events < UInt32.size / 2) :
    s.run? o events = some (s.run events) := by
  induction events generalizing s with
  | nil => rfl
  | cons e events ih =>
    have hfew : (s.step e).device.Few :=
      ⟨sound_step e hsound, Nat.lt_of_le_of_lt ((s.step e).taken_le_run events) h⟩
    rw [run?, List.foldlM_cons, step?_of_few e hs hsound hfew]
    exact ih (settled_step hs e) hfew.sound h

/-- Whatever becomes of a number that passes its end, a run with fewer identifiers than half a word
has numbers is the run on a device whose numbers wrap around. -/
theorem run_checked (o : Overflow) (config : VideoConfig) (settings : PacerSettings)
    (events : List Event)
    (h : taken ((fresh config settings).run events).device.ledger.events < UInt32.size / 2) :
    (fresh config settings).run? o events = some ((fresh config settings).run events) :=
  run?_of_few events (settled_fresh config settings) Ledger.sound_empty h

/-- A setup takes three identifiers. -/
example :
    let events : List Event := [.operate (.setup { width := 1280, height := 720 })]
    taken ((fresh {} {}).run events).device.ledger.events = 3 ∧
      (fresh {} {}).run? .stops events = some ((fresh {} {}).run events) :=
  ⟨by decide, run_checked .stops {} {} _ (by decide)⟩

end System
end AvcPipeline
