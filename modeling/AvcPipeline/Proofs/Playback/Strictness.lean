import AvcPipeline.Proofs.Device.Alike
import AvcPipeline.Proofs.Playback.Accounting
import AvcPipeline.Proofs.Playback.Handover
import AvcPipeline.Proofs.Playback.Problem
import AvcPipeline.Proofs.Session.Teardown

/-!
# Strict and lenient playback

On a device that makes no call fail, a submitted picture is answered with a request for a refresh
picture exactly when it is not accepted. So the first problem of the stream decides what a strict
playback submits, and `Plays` is what every way through a playback keeps: the session serves, and
the device stands behind it. Whatever stopped the playback, its teardown gives everything back.
-/

namespace AvcPipeline

open Program CallEvent Assembler Raced

namespace Playback

variable {settings : Settings.Resolved} {size : UInt32 × UInt32} {f : Fixup} {span : Nanos}
  {s : Session} {x : Raced Device} {u : DecodeUnit} {stopped : Option Failure}
  {submitted : List DecodeUnit}

/-- The session serves on a device that holds what it needs, and a task of it exits in time. -/
structure Plays (f : Fixup) (span : Nanos) (s : Session) (x : Raced Device) : Prop where
  serves : s.Serves f
  patience : span ≤ s.settings.shutdownTimeout
  prompt : x.device.Prompt span
  stands : Session.Stands .running s x.device

theorem Plays.quietly {α : Type} {post : α → Prop} {p : Action α} (h : Plays f span s x)
    (hp : p.Ensures Call.Quiet post) : Plays f span s (p.run simulation x).2 :=
  ⟨h.serves, h.patience, prompt_run p h.prompt, h.stands.congr (quiet_run hp x).2⟩

theorem Plays.logged (h : Plays f span s x) (record : LogRecord) :
    Plays f span s (simulation.answer (.log record) x).2 :=
  ⟨h.serves, h.patience, h.prompt, h.stands⟩

theorem Plays.submit (h : Plays f span s x) (hgrouped : u.Grouped) :
    let done := (s.submit u).run simulation x
    Plays f span done.1.2 done.2 ∧ decide (done.1.1 = .needKeyframe) = !accepts f u := by
  obtain ⟨hs, hpatience, hprompt, hstands⟩ := h
  obtain ⟨events, outcome, s', x', after, hdecoded, hreplays, hsubmit, -⟩ := hs.run_submit u x
  have hprompt' := prompt_run (s.submit u) hprompt
  obtain ⟨hkeeps, hsame⟩ := quiet_run (s.submit_keeps u) x
  have hstands' := hstands.keeps hkeeps hsame
  have hsettings : (s'.concluded outcome).settings = s.settings :=
    (s'.concluded_settings outcome).trans hdecoded.settings
  dsimp only
  rw [hsubmit] at hprompt' hstands' ⊢
  refine ⟨⟨(hdecoded.serves hs.counted).concluded outcome, ?_, hprompt', hstands'⟩, ?_⟩
  · rwa [hsettings]
  · rw [hdecoded.judged hs.counted hgrouped hprompt hreplays]
    cases accepts f u <;> rfl

def resume (strict : Bool) (u : DecodeUnit) (list : List Delivery) (refused : Bool) (s : Session) :
    Action (Option Failure × Session) :=
  if strict && refused then return (some (.keyframeRequested u.frameNumber), s)
  else submitAll strict s list

theorem submitAll_picture (strict : Bool) (s : Session) (u : DecodeUnit) (list : List Delivery) :
    submitAll strict s (.picture u :: list) = s.submit u >>= fun done =>
      resume strict u list (done.1 = .needKeyframe) done.2 :=
  rfl

theorem Plays.submitAll (h : Plays f span s x) (strict : Bool) (list : List Delivery)
    (hgrouped : ∀ u ∈ list.filterMap Delivery.picture?, u.Grouped) :
    let done := (submitAll strict s list).run simulation x
    Plays f span done.1.2 done.2 ∧
      done.1.1 = if strict then (strictly f list).2 else none := by
  induction list generalizing s x with
  | nil => cases strict <;> exact ⟨h, rfl⟩
  | cons delivery rest ih =>
    cases delivery with
    | unreadable index e =>
      cases strict with
      | true => exact ⟨h, rfl⟩
      | false => exact ih (h.logged _) hgrouped
    | picture u =>
      obtain ⟨hfirst, hrest⟩ := List.forall_mem_cons.mp hgrouped
      obtain ⟨h', hrefused⟩ := h.submit hfirst
      have hlater := ih h' hrest
      dsimp only
      rw [submitAll_picture, run_bind, hrefused]
      cases strict with
      | false => exact hlater
      | true =>
        cases haccepts : accepts f u with
        | false =>
          rw [strictly_refused haccepts]
          exact ⟨h', rfl⟩
        | true =>
          rw [strictly, if_pos haccepts]
          exact hlater

def submitting (stopped : Option Failure) :
    Session → List DecodeUnit → Action (Option Failure × Session)
  | s, [] => return (stopped, s)
  | s, u :: rest => do
    let (_, s) ← s.submit u
    submitting stopped s rest

theorem submitAll_pictures (s : Session) (pictures : List DecodeUnit) :
    submitAll false s (pictures.map .picture) = submitting none s pictures := by
  induction pictures generalizing s with
  | nil => rfl
  | cons u rest ih =>
    rw [List.map_cons, submitAll_picture, submitting]
    congr 1
    funext done
    exact ih done.2

theorem Plays.trace_strict (h : Plays f span s x) (list : List Delivery)
    (hgrouped : ∀ u ∈ list.filterMap Delivery.picture?, u.Grouped) :
    (Playback.submitAll true s list).trace simulation x =
      (submitting (strictly f list).2 s (strictly f list).1).trace simulation x := by
  induction list generalizing s x with
  | nil => rfl
  | cons delivery rest ih =>
    cases delivery with
    | unreadable index e => rfl
    | picture u =>
      obtain ⟨hfirst, hrest⟩ := List.forall_mem_cons.mp hgrouped
      obtain ⟨h', hrefused⟩ := h.submit hfirst
      have hlater := ih h' hrest
      rw [run_trace] at hlater hrefused
      rw [submitAll_picture]
      cases haccepts : accepts f u with
      | false =>
        rw [strictly_refused haccepts, submitting]
        refine trace_bind_congr ?_
        rw [hrefused, haccepts]
        rfl
      | true =>
        rw [strictly, if_pos haccepts, submitting]
        refine trace_bind_congr ?_
        rw [hrefused, haccepts]
        exact hlater

/-! ## Around the stream -/

theorem plays_opening (hopens : Opens settings size x)
    (hexits : span ≤ settings.pacer.shutdownTimeout)
    (hprompt : x.device.Prompt span) (hbacks : x.device.Backs .idle) :
    let done := (opening settings size).run simulation x
    Plays { width := size.1, height := size.2 } span done.1.2 done.2 := by
  obtain ⟨hserves, -, hsettings, -⟩ := serves_opening hopens
  let fresh : Session := { config := settings.video, settings := settings.pacer }
  let p : SetupParams := { width := size.1, height := size.2, rate := settings.video.fps }
  have hfilled : fresh.Filled .idle := (Session.stands_fresh _ _).filled
  have hsetup := Session.setup_setsUp p ⟨hfilled, hbacks, nofun⟩ rfl
  obtain ⟨hsame, hholdings⟩ := run_alone (fresh.setup_manages p) x
  have hok : ((fresh.setup p).run Device.interpreter x.device).1.1 = .ok () :=
    (congrArg Prod.fst hsame).symm.trans hopens
  have hresult : ((opening settings size).run simulation x).1 =
      ((fresh.setup p).run Device.interpreter x.device).1 := hsame
  refine ⟨hserves, ?_, prompt_run _ hprompt, ?_⟩
  · rwa [hsettings]
  · rw [hresult]
    generalize (fresh.setup p).run Device.interpreter x.device = result at hsetup hok hholdings ⊢
    obtain ⟨⟨outcome, s'⟩, d'⟩ := result
    cases hok
    exact hsetup.2.1.congr hholdings

theorem Plays.close (h : Plays f span s x) (stopped : Option Failure) :
    let done := (close s stopped).run simulation x
    done.1 = ended s.stats stopped ∧ done.2.device.Backs .idle := by
  dsimp only
  rw [run_close h.serves h.prompt h.patience]
  refine ⟨rfl, ?_⟩
  -- That the task exits decides the result; what is held then is as on the device alone.
  have hstopped := h.quietly Session.quiet_stop
  have hresult := run_teardown hstopped.serves hstopped.prompt hstopped.patience
  generalize (Session.stop.run simulation x).2 = y at hstopped hresult
  have hstands : Session.Stands s.stage s y.device := by
    rw [h.serves.stage]
    exact hstopped.stands
  have htorn := Session.teardown_tearsDown hstands
  obtain ⟨hsame, hholdings⟩ := run_alone s.teardown_manages y
  rw [hresult] at hsame
  generalize s.teardown.run Device.interpreter y.device = torn at htorn hsame hholdings
  obtain ⟨result, d'⟩ := torn
  cases hsame
  exact htorn.2.backs.congr hholdings

/-- Plays these pictures, whatever becomes of them, and ends with this failure, if there is one. -/
def playPictures (settings : Settings.Resolved) (size : UInt32 × UInt32)
    (pictures : List DecodeUnit) (stopped : Option Failure) : Action (Except Failure Stats) :=
  around settings size fun s => submitting stopped s pictures

theorem play_lenient (settings : Settings.Resolved) (size : UInt32 × UInt32) (stream : Bytes)
    (h : deliveries stream = submitted.map .picture) :
    play false settings size stream = playPictures settings size submitted none := by
  rw [play_eq, playPictures, h]
  congr 1
  funext s
  exact submitAll_pictures s submitted

/-- Once the setup is done and video is shown, what is left of a playback is the submitting and the
end. -/
theorem trace_plays (hopens : Opens settings size x)
    (hexits : span ≤ settings.pacer.shutdownTimeout)
    (hprompt : x.device.Prompt span) (hbacks : x.device.Backs .idle) :
    ∃ before s z, Plays { width := size.1, height := size.2 } span s z ∧ ∀ submitting,
      let rest := (submitting s >>= fun done => close done.2 done.1).trace simulation z
      (around settings size submitting).trace simulation x =
        ((rest.1.1, before ++ rest.1.2), rest.2) := by
  obtain ⟨before, y, hy, haround⟩ := trace_around hopens
  have hopened := plays_opening hopens hexits hprompt hbacks
  have hplays : Plays { width := size.1, height := size.2 } span
      ((opening settings size).run simulation x).1.2 y := by
    rcases hy with rfl | ⟨record, rfl⟩
    · exact hopened
    · exact hopened.logged record
  have hstarted := hplays.quietly Session.quiet_start
  rw [run_trace simulation Session.start] at hstarted
  refine ⟨before ++ (Session.start.trace simulation y).1.2, _, _, hstarted, fun submitting => ?_⟩
  dsimp only
  rw [haround, within, trace_bind, List.append_assoc]

theorem play_plays (strict : Bool) (stream : Bytes) (hopens : Opens settings size x)
    (hexits : span ≤ settings.pacer.shutdownTimeout)
    (hprompt : x.device.Prompt span) (hbacks : x.device.Backs .idle) :
    let done := (play strict settings size stream).trace simulation x
    let f : Fixup := { width := size.1, height := size.2 }
    (∃ stats, done.1.1 =
        ended stats (if strict then (strictly f (deliveries stream)).2 else none)) ∧
      done.2.device.Backs .idle := by
  obtain ⟨before, s, z, hplays, haround⟩ := trace_plays hopens hexits hprompt hbacks
  have hsubmitted := hplays.submitAll strict (deliveries stream) fun _ => grouped_of_mem_pictures
  have hrest := run_bind simulation (submitAll strict s (deliveries stream))
    (fun done => close done.2 done.1) z
  generalize (submitAll strict s (deliveries stream)).run simulation z = done at hsubmitted hrest
  obtain ⟨hplays, hstopped⟩ := hsubmitted
  obtain ⟨hended, hreturned⟩ := hplays.close done.1.1
  rw [← hrest, run_trace] at hended hreturned
  rw [hstopped] at hended
  dsimp only
  rw [play_eq, haround]
  exact ⟨⟨_, hended⟩, hreturned⟩

theorem play_trace_strict {stream : Bytes}
    (hsubmits : strictly { width := size.1, height := size.2 } (deliveries stream) =
      (submitted, stopped))
    (hopens : Opens settings size x)
    (hexits : span ≤ settings.pacer.shutdownTimeout)
    (hprompt : x.device.Prompt span) (hbacks : x.device.Backs .idle) :
    (play true settings size stream).trace simulation x =
      (playPictures settings size submitted stopped).trace simulation x := by
  obtain ⟨before, s, z, hplays, haround⟩ := trace_plays hopens hexits hprompt hbacks
  have hstrict := hplays.trace_strict (deliveries stream) fun _ => grouped_of_mem_pictures
  rw [hsubmits] at hstrict
  rw [play_eq, playPictures, haround, haround, trace_bind, trace_bind, hstrict]

theorem ended_eq_ok {stats stats' : Stats} :
    ended stats stopped = .ok stats' ↔ stopped = none ∧ stats = stats' := by
  cases stopped with
  | none => simp only [ended, Except.ok.injEq, true_and]
  | some failure => simp only [ended, reduceCtorEq, false_and]

theorem ended_eq_error {stats : Stats} {failure : Failure} :
    ended stats stopped = .error failure ↔ stopped = some failure := by
  cases stopped with
  | none => simp only [ended, reduceCtorEq]
  | some other => simp only [ended, Except.error.injEq, Option.some.injEq]

/-- Whatever steps the pacer takes, and as long as its task exits in time, a lenient playback whose
setup succeeds ends well. A strict one ends well exactly when every unit can be read and every
picture is accepted, and then it is the lenient one, call by call. Else it ends with the first
problem, after just the pictures that were formed and submitted before it. Everything is given back
in each case. In whatever order the units are read and the pictures submitted, through a queue of
any length, the submitting ends in this way, and the reading ends too. -/
theorem play_strictness (settings : Settings.Resolved) (size : UInt32 × UInt32) (stream : Bytes)
    (stall : Nanos) (pacer : Pacer) (readings : List (UInt64 × Nanos)) (schedule : List Nat)
    (hopens : Opens settings size (.start { faults := { stall } } pacer readings schedule))
    (hexits : stall ≤ settings.pacer.shutdownTimeout) :
    let x : Raced Device := .start { faults := { stall } } pacer readings schedule
    let f : Fixup := { width := size.1, height := size.2 }
    let strict := (play true settings size stream).trace simulation x
    let lenient := (play false settings size stream).trace simulation x
    let played submitted stopped :=
      (playPictures settings size submitted stopped).trace simulation x
    (∃ stats, lenient.1.1 = .ok stats) ∧
      ((∃ stats, strict.1.1 = .ok stats) ↔
        (∀ unit ∈ Nal.units stream, Readable unit) ∧ ∀ u ∈ pictures stream, accepts f u = true) ∧
      (∀ stats, strict.1.1 = .ok stats →
        strict = lenient ∧ lenient = played (pictures stream) none) ∧
      (∀ failure, strict.1.1 = .error failure ↔
        ∃ submitted, Breaks f .empty 0 (Nal.units stream) submitted failure) ∧
      (∀ submitted failure, Breaks f .empty 0 (Nal.units stream) submitted failure →
        submitted <+: pictures stream ∧ strict = played submitted (some failure)) ∧
      (∀ done ∈ [strict, lenient], done.2.device.ledger.isClean = true ∧
        unmatched done.2.device.ledger.events = some [] ∧ done.2.device.tasks = []) ∧
      ∀ depth s z, 0 < depth → (Handover.start stream s z).EndsAs depth
        ((submitAll true s (deliveries stream)).trace simulation z) := by
  intro x f strict lenient played
  have hprompt : x.device.Prompt stall := ⟨rfl, rfl, Nat.le_refl _, nofun⟩
  have hbacks : x.device.Backs .idle := .of_holds Ledger.holds_nil rfl rfl
  obtain ⟨⟨stats, hstrict⟩, hreturned⟩ := play_plays true stream hopens hexits hprompt hbacks
  obtain ⟨⟨stats', hlenient⟩, hreturned'⟩ := play_plays false stream hopens hexits hprompt hbacks
  have hfirst : (strictly f (deliveries stream)).2 = none ↔ _ := strictly_none_iff
  obtain ⟨⟨submitted, stopped⟩, hsubmits⟩ : ∃ submits, strictly f (deliveries stream) = submits :=
    ⟨_, rfl⟩
  have htrace := play_trace_strict hsubmits hopens hexits hprompt hbacks
  rw [hsubmits] at hstrict hfirst
  refine ⟨⟨stats', hlenient⟩, ?_, fun stats' hended => ?_, fun failure => ?_,
    fun submitted failure hbreaks => ?_, ?_, ?_⟩
  · have hended : (∃ stats, strict.1.1 = .ok stats) ↔ stopped = none :=
      ⟨fun ⟨_, hok⟩ => (ended_eq_ok.mp (hstrict.symm.trans hok)).1,
        fun hnone => ⟨stats, hstrict.trans (ended_eq_ok.mpr ⟨hnone, rfl⟩)⟩⟩
    exact hended.trans hfirst
  · obtain ⟨rfl, -⟩ := ended_eq_ok.mp (hstrict.symm.trans hended)
    obtain ⟨hall, -⟩ := eq_of_strictly hsubmits
    have hpictures : pictures stream = submitted := by rw [pictures, hall, filterMap_picture]
    have hsame : lenient = played submitted none :=
      congrArg (fun p => p.trace simulation x) (play_lenient settings size stream hall)
    rw [hpictures, hsame]
    exact ⟨htrace, rfl⟩
  · constructor
    · intro hended
      obtain rfl := ended_eq_error.mp (hstrict.symm.trans hended)
      exact ⟨submitted, strictly_eq_some_iff.mp hsubmits⟩
    · rintro ⟨_, hbreaks⟩
      cases hsubmits.symm.trans (strictly_eq_some_iff.mpr hbreaks)
      exact hstrict.trans (ended_eq_error.mpr rfl)
  · have hearlier := strictly_prefix f (deliveries stream)
    cases hsubmits.symm.trans (strictly_eq_some_iff.mpr hbreaks)
    rw [hsubmits] at hearlier
    exact ⟨hearlier, htrace⟩
  · have hidle {d : Device} (h : d.Backs .idle) :
        d.ledger.isClean = true ∧ unmatched d.ledger.events = some [] ∧ d.tasks = [] :=
      ⟨(h.holds nofun).isClean, (h.holds nofun).1, h.tasks nofun⟩
    exact List.forall_mem_cons.mpr
      ⟨hidle hreturned, List.forall_mem_singleton.mpr (hidle hreturned')⟩
  · exact fun depth s z hdepth => Handover.start_endsAs hdepth stream s z

/-- The third unit has no readable header, and the task needs five seconds to exit. -/
theorem play_strictness_broken :
    let settings : Settings.Resolved := { video := {}, pacer := {}, deliveryFps := 60 }
    let x : Raced Device := .start { faults := { stall := .ofSeconds 5 0 } }
      (.start { fps := 1 } (.ofSeconds 1 0) 0 0) [(60, .ofSeconds 1 0)] (List.replicate 35 0 ++ [4])
    let strict := (play true settings (176, 144) brokenStream).trace simulation x
    Opens settings (176, 144) x ∧ .ofSeconds 5 0 ≤ settings.pacer.shutdownTimeout ∧
      ∃ failure submitted, strict.1.1 = .error failure ∧
        Breaks { width := 176, height := 144 } .empty 0 (Nal.units brokenStream) submitted failure ∧
        strict.2.device.ledger.isClean = true := by
  intro settings x strict
  have hopens : Opens settings (176, 144) x := by
    unfold Opens
    decide +kernel
  have hexits : .ofSeconds 5 0 ≤ settings.pacer.shutdownTimeout := by decide +kernel
  obtain ⟨-, hsucceeds, -, hfails, -, hreturned, -⟩ :=
    play_strictness settings (176, 144) brokenStream (.ofSeconds 5 0) _ _ _ hopens hexits
  have hunreadable : ¬ Readable [0, 0, 1, 0x80] := fun ⟨_, hsplit⟩ => by cases hsplit
  cases hended : strict.1.1 with
  | ok stats =>
    have hreadable := (hsucceeds.mp ⟨stats, hended⟩).1
    exact absurd (hreadable [0, 0, 1, 0x80] (by decide +kernel)) hunreadable
  | error failure =>
    obtain ⟨submitted, hbreaks⟩ := (hfails failure).mp hended
    exact ⟨hopens, hexits, failure, submitted, rfl, hbreaks,
      (hreturned strict List.mem_cons_self).1⟩

end Playback
end AvcPipeline
