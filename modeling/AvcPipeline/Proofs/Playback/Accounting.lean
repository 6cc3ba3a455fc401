import AvcPipeline.Playback.Basic
import AvcPipeline.Proofs.Session.Retry
import AvcPipeline.Proofs.Session.Serving

/-!
# From the stream to the display

A lenient playback on a calm device submits every unit that was grouped from the stream, whatever
steps the pacer takes in between. Its statistics tell how many units the decoder did not accept, how
many pictures were shown or dropped, and whether the last unit had no picture data.
-/

namespace AvcPipeline.Playback

open Program Assembler Raced

variable {f : Fixup} {u : DecodeUnit} {s : Session} {x : Raced Device}
  {stats stats' stats'' : Stats} {shown shown' shown'' : Nat}

structure Adds (f : Fixup) (units : List DecodeUnit) (stats stats' : Stats) (shown shown' : Nat) :
    Prop where
  submitted : stats'.submitted = stats.submitted + units.length
  needKeyframe : stats'.needKeyframe = stats.needKeyframe + units.countP fun u => !accepts f u
  pending : stats'.pending =
    stats.pending + units.countP fun u => accepts f u && !u.hasPicture
  hidden : stats'.hidden = stats.hidden
  pictures : stats'.presented + stats'.dropped =
    stats.presented + stats.dropped + units.countP fun u => accepts f u && u.hasPicture
  shown : shown' + stats.presented = shown + stats'.presented

theorem Adds.none (f : Fixup) (stats : Stats) (shown : Nat) : Adds f [] stats stats shown shown :=
  ⟨rfl, rfl, rfl, rfl, rfl, rfl⟩

theorem Adds.append {units more : List DecodeUnit} (h : Adds f units stats stats' shown shown')
    (h' : Adds f more stats' stats'' shown' shown'') :
    Adds f (units ++ more) stats stats'' shown shown'' where
  submitted := by rw [h'.submitted, h.submitted, List.length_append, Nat.add_assoc]
  needKeyframe := by rw [h'.needKeyframe, h.needKeyframe, List.countP_append, Nat.add_assoc]
  pending := by rw [h'.pending, h.pending, List.countP_append, Nat.add_assoc]
  hidden := h'.hidden.trans h.hidden
  pictures := by rw [h'.pictures, h.pictures, List.countP_append, Nat.add_assoc]
  shown := by
    have hfirst := h.shown
    have hsecond := h'.shown
    omega

theorem adds_fate {outcome : Except DecodeError Outcome} (h : Session.Fate f u outcome)
    (s : Session) (shown : Nat) :
    Adds f [u] s.stats (s.counted.concluded outcome).stats shown
      (shown + (Session.wasPresented outcome).toNat) := by
  cases h with
  | refused haccepts =>
    constructor <;> simp [Session.counted, Session.concluded, Session.wasPresented, haccepts]
  | pending haccepts hpicture | dropped haccepts hpicture | presented haccepts hpicture =>
    constructor <;>
      simp [Session.counted, Session.concluded, Session.wasPresented, Stats.record, haccepts,
        hpicture]
    all_goals omega

theorem submitAll_adds (list : List Delivery) (hs : s.Serves f) (hx : x.Showing)
    (hgrouped : ∀ u ∈ list.filterMap Delivery.picture?, u.Grouped) :
    let done := (submitAll false s list).run simulation x
    done.1.1 = none ∧ done.1.2.Serves f ∧ done.2.Showing ∧
      Adds f (list.filterMap Delivery.picture?) s.stats done.1.2.stats
        x.device.screen.presented done.2.device.screen.presented := by
  induction list generalizing s x with
  | nil => exact ⟨rfl, hs, hx, .none f _ _⟩
  | cons delivery rest ih =>
    cases delivery with
    | unreadable index e =>
      exact ih hs (hx.answer (c := .log _) nofun) hgrouped
    | picture u =>
      obtain ⟨hfirst, hrest⟩ := List.forall_mem_cons.mp hgrouped
      obtain ⟨hs', hx', outcome, hfate, hstats, hscreen⟩ := hs.submit hx hfirst
      obtain ⟨hnone, hs'', hx'', hlater⟩ := ih hs' hx' hrest
      have hadds := adds_fate hfate s x.device.screen.presented
      rw [← hstats, ← hscreen] at hadds
      dsimp only
      rw [submitAll, run_bind]
      exact ⟨hnone, hs'', hx'', hadds.append hlater⟩

/-! ## Around the stream -/

theorem screen_of_manages {α : Type} {mayClear : Prop} {post : α → Prop} {p : Action α}
    (h : p.Ensures (Call.Manages mayClear) post) (x : Raced Device) :
    post (p.run simulation x).1 ∧ (p.run simulation x).2.device.screen = x.device.screen := by
  obtain ⟨events, ⟨hallowed, hpost⟩, hreplays⟩ := h.follows.replays simulation x
  exact ⟨hpost, (screen_of_replays hreplays).trans (Screen.along_of_manages hallowed _)⟩

theorem calm_run {α : Type} (p : Action α) (hx : x.Calm) : (p.run simulation x).2.Calm := by
  rw [run_trace]
  exact (calm_of_replays (replays_trace simulation p x) hx).1

def opening (settings : Settings.Resolved) (size : UInt32 × UInt32) :
    Action (Session.Result SetupFailure) :=
  Session.setup { config := settings.video, settings := settings.pacer }
    { width := size.1, height := size.2, rate := settings.video.fps }

def Opens (settings : Settings.Resolved) (size : UInt32 × UInt32) (x : Raced Device) : Prop :=
  ((opening settings size).run simulation x).1.1 = .ok ()

theorem serves_opening {settings : Settings.Resolved} {size : UInt32 × UInt32}
    (h : Opens settings size x) :
    let done := (opening settings size).run simulation x
    done.1.2.Serves { width := size.1, height := size.2 } ∧ done.1.2.stats = {} ∧
      done.1.2.settings = settings.pacer ∧ done.2.device.screen = x.device.screen := by
  intro done
  let p : SetupParams := { width := size.1, height := size.2, rate := settings.video.fps }
  have hfilled := (Session.stands_fresh settings.video settings.pacer).filled
  obtain ⟨events, hsetup⟩ := (Session.setup_setsUpOnce p hfilled rfl {}).run simulation x
  obtain ⟨hprepares, hscreen⟩ := screen_of_manages (Session.setup_prepares _ p) x
  change Session.SetsUpOnce _ p {} _ done.1 _ at hsetup
  change Session.Prepares p .running _ done.1 at hprepares
  have hok : done.1 = (.ok (), done.1.2) := Prod.ext h rfl
  rw [hok] at hsetup hprepares
  obtain ⟨-, -, hrunning, hfilled, hsame, -⟩ := hsetup
  obtain ⟨hstats, hprepared⟩ := hprepares
  exact ⟨⟨hrunning, hfilled, ⟨[], hprepared.assembler (by decide)⟩,
    ⟨[], hprepared.fixup (by decide)⟩, hprepared.pacer (by decide)⟩, hstats,
    congrArg Session.settings hsame, hscreen⟩

theorem showing_start (hx : x.Calm) :
    let after := (Session.start.run simulation x).2
    after.Showing ∧ after.device.screen.presented = x.device.screen.presented := by
  have hactive : (simulation.answer (.counter (.setActive true)) x).2.Showing :=
    ⟨hx.answer _, rfl⟩
  exact ⟨hactive.answer (c := .device (.setVblankWait false)) nofun, rfl⟩

theorem run_teardown {span : Nanos} (hs : s.Serves f) (hx : x.device.Prompt span)
    (hexits : span ≤ s.settings.shutdownTimeout) :
    (s.teardown.run simulation x).1 = (.ok (), s.emptied) := by
  obtain ⟨task, hpacer⟩ := hs.pacer
  obtain ⟨events, hcloses, hreplays⟩ := (Session.teardown_closesBy hs.filled hs.stage hpacer
    (.ofTask task)).replays simulation x
  generalize hdone : s.teardown.run simulation x = done at hcloses hreplays
  obtain ⟨result, x'⟩ := done
  cases hcloses with
  | late hstops =>
    cases hstops with
    | late =>
      have hstopped := Device.awaitDone_of_prompt hx hexits task
      exact absurd (hreplays.2.1.symm.trans hstopped) nofun
  | closed => rfl

def ended (stats : Stats) : Option Failure → Except Failure Stats
  | none => .ok stats
  | some failure => .error failure

theorem run_close {span : Nanos} (hs : s.Serves f) (hx : x.device.Prompt span)
    (hexits : span ≤ s.settings.shutdownTimeout) (stopped : Option Failure) :
    (close s stopped).run simulation x =
      (ended s.stats stopped, (s.teardown.run simulation (Session.stop.run simulation x).2).2) := by
  rw [close, run_bind, run_bind, run_teardown hs (prompt_run Session.stop hx) hexits]
  change (s.emptied.drop >>= _).run simulation _ = _
  rw [Closing.drop_of_idle rfl]
  cases stopped with
  | none => rfl
  | some failure => rfl

/-! ## A whole playback -/

/-- What a playback does after its setup, with the submitting left open. -/
def within (submitting : Action (Option Failure × Session)) : Action (Except Failure Stats) := do
  Session.start
  let (stopped, s) ← submitting
  close s stopped

def readyText (g : Geometry) : String :=
  s!"Decoder ready: stream {g.width}x{g.height}, hardware {g.horizontal}x{g.vertical}"

def around (settings : Settings.Resolved) (size : UInt32 × UInt32)
    (submitting : Session → Action (Option Failure × Session)) : Action (Except Failure Stats) := do
  let (outcome, s) ← opening settings size
  match outcome with
  | .error e =>
    let _ ← s.drop
    return .error (match e with
      | .refused cause => .setup cause
      | .oversized required => .oversized required)
  | .ok () =>
    if let some g := s.geometry then Action.log .info .playback (readyText g)
    within (submitting s)

theorem play_eq (strict : Bool) (settings : Settings.Resolved) (size : UInt32 × UInt32)
    (stream : Bytes) : play strict settings size stream =
      around settings size fun s => submitAll strict s (deliveries stream) :=
  rfl

theorem within_adds (hs : s.Serves f) (hx : x.Calm) (stream : Bytes) :
    let done := (within (submitAll false s (deliveries stream))).run simulation x
    ∃ stats, done.1 = .ok stats ∧
      Adds f (pictures stream) s.stats stats x.device.screen.presented
        done.2.device.screen.presented := by
  obtain ⟨hshowing, hstarted⟩ := showing_start hx
  have hsubmitted := submitAll_adds (deliveries stream) hs hshowing
    fun _ => grouped_of_mem_pictures
  dsimp only at hsubmitted ⊢
  rw [within, run_bind, run_bind]
  generalize (submitAll false s (deliveries stream)).run simulation
    (Session.start.run simulation x).2 = result at hsubmitted ⊢
  obtain ⟨⟨stopped, s'⟩, x'⟩ := result
  obtain ⟨rfl, hs', hshowing', hadds⟩ := hsubmitted
  rw [hstarted] at hadds
  refine ⟨s'.stats, ?_, ?_⟩
  · rw [run_close hs' hshowing'.device.prompt (Nat.zero_le _)]
    rfl
  · rw [run_close hs' hshowing'.device.prompt (Nat.zero_le _),
      (screen_of_manages s'.teardown_manages _).2]
    exact hadds

/-- The figures of a playback of these units, and the pictures shown. -/
structure Accounted (f : Fixup) (units : List DecodeUnit) (stats : Stats) (shown : Nat) : Prop where
  submitted : stats.submitted = units.length
  needKeyframe : stats.needKeyframe = units.countP fun u => !accepts f u
  /-- Only the last unit can be left pending. -/
  pending : stats.pending = (units.getLast?.any fun u => accepts f u && !u.hasPicture).toNat
  hidden : stats.hidden = 0
  pictures : stats.presented + stats.dropped = units.countP fun u => accepts f u && u.hasPicture
  shown : shown = stats.presented

theorem trace_around {settings : Settings.Resolved} {size : UInt32 × UInt32}
    (hopens : Opens settings size x) :
    let opened := (opening settings size).run simulation x
    ∃ before y, (y = opened.2 ∨ ∃ record, y = (simulation.answer (.log record) opened.2).2) ∧
      ∀ submitting, let rest := (within (submitting opened.1.2)).trace simulation y
        (around settings size submitting).trace simulation x =
          ((rest.1.1, before ++ rest.1.2), rest.2) := by
  unfold Opens at hopens
  rw [run_trace] at hopens ⊢
  obtain ⟨⟨⟨⟨outcome, s⟩, events⟩, x'⟩, hopened⟩ :
      ∃ done, (opening settings size).trace simulation x = done := ⟨_, rfl⟩
  rw [hopened] at hopens ⊢
  obtain rfl : outcome = .ok () := hopens
  cases hgeometry : s.geometry with
  | none =>
    refine ⟨events, x', .inl rfl, fun submitting => ?_⟩
    change (opening settings size >>= _).trace simulation x = _
    rw [trace_bind, hopened]
    dsimp only
    rw [hgeometry]
  | some g =>
    let record : LogRecord := ⟨.info, .playback, readyText g⟩
    refine ⟨events ++ [⟨.log record, ()⟩], _, .inr ⟨record, rfl⟩, fun submitting => ?_⟩
    change (opening settings size >>= _).trace simulation x = _
    rw [trace_bind, hopened]
    dsimp only
    rw [hgeometry]
    dsimp only
    rw [trace_bind, List.append_assoc]
    rfl

theorem run_around {settings : Settings.Resolved} {size : UInt32 × UInt32}
    (hopens : Opens settings size x) :
    let opened := (opening settings size).run simulation x
    ∃ y, (y = opened.2 ∨ ∃ record, y = (simulation.answer (.log record) opened.2).2) ∧
      ∀ submitting, (around settings size submitting).run simulation x =
        (within (submitting opened.1.2)).run simulation y := by
  obtain ⟨before, y, hy, haround⟩ := trace_around hopens
  refine ⟨y, hy, fun submitting => ?_⟩
  rw [run_trace, run_trace _ (within _), haround]

theorem play_adds {settings : Settings.Resolved} {size : UInt32 × UInt32} (hx : x.Calm)
    (hopens : Opens settings size x) (stream : Bytes) :
    let done := (play false settings size stream).run simulation x
    ∃ stats, done.1 = .ok stats ∧ Adds { width := size.1, height := size.2 } (pictures stream) {}
      stats x.device.screen.presented done.2.device.screen.presented := by
  obtain ⟨hs, hstats, -, hscreen⟩ := serves_opening hopens
  have hcalm := calm_run (opening settings size) hx
  obtain ⟨y, hy, hplay⟩ := run_around hopens
  obtain ⟨hy, hsame⟩ : y.Calm ∧ y.device.screen = x.device.screen := by
    rcases hy with rfl | ⟨record, rfl⟩
    · exact ⟨hcalm, hscreen⟩
    · exact ⟨hcalm.answer _, hscreen⟩
  obtain ⟨stats, hok, hadds⟩ := within_adds hs hy stream
  rw [hstats, hsame] at hadds
  dsimp only
  rw [play_eq, hplay]
  exact ⟨stats, hok, hadds⟩

/-- A lenient playback on a fresh device whose setup succeeds ends well, whatever the pacer does in
between, and its figures are those of the units that were grouped from the stream. The decoder does
not accept a unit that is too long or has a parameter set that cannot be read. It finds a picture in
what was assembled from a unit exactly when the unit has picture data. -/
theorem play_accounts (settings : Settings.Resolved) (size : UInt32 × UInt32) (stream : Bytes)
    (pacer : Pacer) (readings : List (UInt64 × Nanos)) (schedule : List Nat)
    (hopens : Opens settings size (.start {} pacer readings schedule)) :
    let done := (play false settings size stream).run simulation (.start {} pacer readings schedule)
    let f : Fixup := { width := size.1, height := size.2 }
    (∃ stats, done.1 = .ok stats ∧
        Accounted f (pictures stream) stats done.2.device.screen.presented) ∧
      ∀ u ∈ pictures stream, (accepts f u = false ↔ Refuses decoderCapacity f u) ∧
        ∀ out, (assemble { capacity := decoderCapacity } f u).1 = .ok out →
          Device.hasPicture out = u.hasPicture := by
  intro done f
  obtain ⟨stats, hok, hadds⟩ := play_adds (calm_start pacer readings schedule) hopens stream
  have hlacks (u : DecodeUnit) (h : (accepts f u && !u.hasPicture) = true) :
      u.hasPicture = false :=
    Bool.not_eq_true' _ ▸ (Bool.and_eq_true_iff.mp h).2
  refine ⟨⟨stats, hok, ?_⟩, fun u hu => ⟨accepts_eq_false_iff, fun out hout => ?_⟩⟩
  · have hpending := hadds.pending
    rw [countP_pictures stream hlacks] at hpending
    exact ⟨hadds.submitted.trans (Nat.zero_add _), hadds.needKeyframe.trans (Nat.zero_add _),
      hpending.trans (Nat.zero_add _), hadds.hidden, hadds.pictures.trans (Nat.zero_add _),
      hadds.shown.trans (Nat.zero_add _)⟩
  · exact (hasPicture_assemble (grouped_of_mem_pictures hu) hout).1

/-- Two pictures, a unit without a readable header, a picture with a parameter set that breaks off,
one more picture, and a delimiter. -/
def brokenStream : Bytes :=
  [0, 0, 0, 1, 0x65, 0x88, 0, 0, 1, 0x41, 0x9A, 0, 0, 1, 0x80, 0, 0, 1, 0x67, 66,
    0, 0, 1, 0x41, 0x9A, 0, 0, 1, 0x41, 0x9A, 0, 0, 1, 0x09, 0x10]

/-- The pacer for one picture a second wakes after the second picture. -/
theorem play_accounts_broken :
    let settings : Settings.Resolved := { video := {}, pacer := {}, deliveryFps := 60 }
    let x : Raced Device := .start {} (.start { fps := 1 } (.ofSeconds 1 0) 0 0)
      [(60, .ofSeconds 1 0)] (List.replicate 35 0 ++ [4])
    let done := (play false settings (176, 144) brokenStream).run simulation x
    Opens settings (176, 144) x ∧
      ∃ stats, done.1 = .ok stats ∧ stats.submitted = 5 ∧ stats.needKeyframe = 1 ∧
        stats.pending = 1 ∧ stats.hidden = 0 ∧ stats.presented + stats.dropped = 3 ∧
        done.2.device.screen.presented = stats.presented := by
  intro settings x done
  have hopens : Opens settings (176, 144) x := by
    unfold Opens
    decide +kernel
  obtain ⟨⟨stats, hok, haccounted⟩, -⟩ :=
    play_accounts settings (176, 144) brokenStream _ _ _ hopens
  refine ⟨hopens, stats, hok, haccounted.submitted.trans ?_, haccounted.needKeyframe.trans ?_,
    haccounted.pending.trans ?_, haccounted.hidden, haccounted.pictures.trans ?_, haccounted.shown⟩
  · decide +kernel
  · decide +kernel
  · decide +kernel
  · decide +kernel

end AvcPipeline.Playback
