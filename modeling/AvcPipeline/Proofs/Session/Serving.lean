import AvcPipeline.Proofs.DecodeUnit.Grouping
import AvcPipeline.Proofs.Device.Raced
import AvcPipeline.Proofs.Session.Accounting

/-!
# Submitting while video is shown

While a running session shows video on a calm device, what becomes of a unit is known but for the
quota: a unit that is not assembled is answered with a request for a refresh picture, one without
picture data is pending, and one with picture data is presented or dropped. Only the pacer decides
which, whatever its steps are.
-/

namespace AvcPipeline

open Program CallEvent Raced

namespace Assembler

variable {a : Assembler} {f : Fixup} {u : DecodeUnit} {out : Bytes}

theorem assemble_reused (buffer output : Bytes) :
    (assemble { a with buffer } { f with output } u).1 = .ok out ↔
      (a.assemble f u).1 = .ok out := by
  have hreplaces : Fixup.Replaces { f with output } = f.Replaces := by
    funext fragments pieces
    simp only [Fixup.Replaces, Fixup.piece_withOutput]
  rw [assemble_eq_ok, assemble_eq_ok, hreplaces]

/-- Whether a decoder that was set up with this fixup assembles a unit. -/
def accepts (f : Fixup) (u : DecodeUnit) : Bool :=
  (assemble { capacity := decoderCapacity } f u).1.isOk

theorem accepts_iff :
    accepts f u = true ↔ ∃ out, (assemble { capacity := decoderCapacity } f u).1 = .ok out := by
  unfold accepts
  cases (assemble { capacity := decoderCapacity } f u).1 with
  | error e => exact iff_of_false nofun fun h => nomatch h
  | ok out => exact iff_of_true rfl ⟨out, rfl⟩

theorem accepts_eq_false_iff : accepts f u = false ↔ Refuses decoderCapacity f u := by
  have hrefuses := refuses_iff (a := { capacity := decoderCapacity }) (f := f) (u := u)
  rw [hrefuses, ← not_exists, ← accepts_iff, Bool.not_eq_true]

end Assembler

namespace Session

open Assembler

variable {s s' : Session} {f : Fixup} {u : DecodeUnit} {texture : Texture} {x x' : Raced Device}
  {events : List CallEvent} {outcome : Except DecodeError Outcome} {a : Assembler} {f' : Fixup}
  {decoder : DecoderHandle} {span : Nanos}

structure Serves (f : Fixup) (s : Session) : Prop where
  stage : s.stage = .running
  filled : s.Filled .running
  assembler : ∃ buffer, s.assembler = some { capacity := decoderCapacity, buffer }
  fixup : ∃ output, s.fixup = some { f with output }
  /-- The task was not told to stop. -/
  pacer : ∃ task, s.pacer = some (.ofTask task)

/-- What becomes of a unit, if the quota is left aside. -/
inductive Fate (f : Fixup) (u : DecodeUnit) : Except DecodeError Outcome → Prop
  | refused {e : AssemblyError} (h : accepts f u = false) : Fate f u (.error (.assembly e))
  | pending (h : accepts f u = true) (hnone : u.hasPicture = false) : Fate f u (.ok .pending)
  | dropped (h : accepts f u = true) (hsome : u.hasPicture = true) : Fate f u (.ok .dropped)
  | presented (h : accepts f u = true) (hsome : u.hasPicture = true) : Fate f u (.ok .presented)

/-! ## The session -/

theorem Serves.buffers (h : s.Serves f) (hready : s.Ready a f' texture decoder) :
    ∃ buffer output, a = { capacity := decoderCapacity, buffer } ∧ f' = { f with output } := by
  obtain ⟨buffer, hassembler⟩ := h.assembler
  obtain ⟨output, hfixup⟩ := h.fixup
  exact ⟨buffer, output, Option.some.inj (hready.assembler.symm.trans hassembler),
    Option.some.inj (hready.fixup.symm.trans hfixup)⟩

theorem Serves.accepts_iff (h : s.Serves f) (hready : s.Ready a f' texture decoder) :
    accepts f u = true ↔ ∃ out, (a.assemble f' u).1 = .ok out := by
  obtain ⟨buffer, output, rfl, rfl⟩ := h.buffers hready
  rw [Assembler.accepts_iff]
  exact exists_congr fun out => (assemble_reused buffer output).symm

theorem Serves.not_accepts {e : AssemblyError} (h : s.Serves f)
    (hready : s.Ready a f' texture decoder) (hassemble : (a.assemble f' u).1 = .error e) :
    accepts f u = false := by
  refine Bool.eq_false_iff.mpr fun haccepts => ?_
  obtain ⟨out, hout⟩ := (h.accepts_iff hready).mp haccepts
  rw [hout] at hassemble
  cases hassemble

theorem Serves.gathered (h : s.Serves f)
    (hready : s.Ready a f' texture decoder) (u : DecodeUnit) :
    (s.gathered (a.assemble f' u).2).Serves f := by
  obtain ⟨buffer, output, rfl, rfl⟩ := h.buffers hready
  obtain ⟨buffer', output', hbuffers⟩ :=
    assemble_snd { capacity := decoderCapacity, buffer } { f with output } u
  rw [hbuffers]
  exact ⟨h.stage, { h.filled with assembler := rfl, fixup := rfl }, ⟨buffer', rfl⟩, ⟨output', rfl⟩,
    h.pacer⟩

theorem Serves.withFigures (h : s.Serves f) (stats : Stats) (indicator : Indicator) :
    Serves f { s with stats, indicator } :=
  ⟨h.stage, { h.filled with }, h.assembler, h.fixup, h.pacer⟩

theorem Serves.pictured (h : s.Serves f) (texture : Texture) : (s.pictured texture).Serves f :=
  ⟨h.stage, { h.filled with texture := rfl }, h.assembler, h.fixup, h.pacer⟩

theorem ShownBy.serves {outcome : Outcome} (h : ShownBy s texture events (outcome, s'))
    (hs : s.Serves f) : s'.Serves f := by
  cases h with
  | hidden | dropped => exact hs
  | presented interval => exact hs.withFigures s.stats s.indicator.advance.2

theorem DecodedBy.serves (h : DecodedBy s u events (outcome, s')) (hs : s.Serves f) :
    s'.Serves f := by
  cases h with
  | notRunning => exact hs
  | unassembled hready => exact hs.gathered hready u
  | decoded hready _ hjudged =>
    have hpictured := (hs.gathered hready u).pictured
    cases hjudged with
    | rejected | pending | tooMany => exact hpictured _
    | single hshown => exact hshown.serves (hpictured _)

theorem DecodedBy.settings (h : DecodedBy s u events (outcome, s')) :
    s'.settings = s.settings := by
  cases h with
  | notRunning | unassembled => rfl
  | decoded _ _ hjudged =>
    cases hjudged with
    | rejected | pending | tooMany => rfl
    | single hshown => cases hshown <;> rfl

/-! ## The unit -/

theorem ShownBy.stays_active {result : Outcome × Session} (h : ShownBy s texture events result) :
    ∀ e ∈ events, e.1 ≠ .counter (.setActive false) := by
  cases h with
  | hidden | dropped => simp
  | presented interval =>
    unfold drawing rateDrawing
    cases s.config.showRate <;> cases s.indicator.advance.1 <;> simp [iconDrawing]

theorem DecodedBy.stays_active {result : Except DecodeError Outcome × Session}
    (h : DecodedBy s u events result) : ∀ e ∈ events, e.1 ≠ .counter (.setActive false) := by
  cases h with
  | notRunning | unassembled => exact List.forall_mem_nil _
  | decoded _ _ hjudged =>
    refine List.forall_mem_cons.mpr ⟨nofun, ?_⟩
    cases hjudged with
    | rejected | pending | tooMany => exact List.forall_mem_nil _
    | single hshown => exact hshown.stays_active

def Answered (events : List CallEvent) : Prop :=
  ∀ e ∈ events, ∃ y : Raced Device, y.Showing ∧ (simulation.answer e.1 y).1 = e.2

theorem ShownBy.not_hidden {outcome : Outcome} (h : ShownBy s texture events (outcome, s'))
    (hanswered : Answered events) : outcome = .dropped ∨ outcome = .presented := by
  cases h with
  | hidden =>
    obtain ⟨y, hy, hreply⟩ := hanswered _ List.mem_cons_self
    exact absurd (hy.race.active.symm.trans hreply) nofun
  | dropped => exact .inl rfl
  | presented => exact .inr rfl

theorem JudgedBy.fate {reply : Except Status UInt32}
    (h : JudgedBy s texture reply events (outcome, s')) (haccepts : accepts f u = true)
    (hreply : reply = .ok (if u.hasPicture then 1 else 0)) (hanswered : Answered events) :
    Fate f u outcome := by
  cases hpicture : u.hasPicture with
  | false =>
    rw [hpicture] at hreply
    cases h with
    | rejected e => cases hreply
    | pending => exact .pending haccepts hpicture
    | tooMany hsome => exact absurd (Except.ok.inj hreply) hsome
    | single => exact absurd (Except.ok.inj hreply) (by decide)
  | true =>
    rw [hpicture] at hreply
    cases h with
    | rejected e => cases hreply
    | pending => exact absurd (Except.ok.inj hreply) (by decide)
    | tooMany _ hmany => exact absurd (Except.ok.inj hreply) hmany
    | single hshown =>
      rcases hshown.not_hidden hanswered with rfl | rfl
      · exact .dropped haccepts hpicture
      · exact .presented haccepts hpicture

theorem DecodedBy.fate (h : DecodedBy s u events (outcome, s')) (hs : s.Serves f)
    (hgrouped : u.Grouped) (hanswered : Answered events) : Fate f u outcome := by
  cases h with
  | notRunning hstage => exact absurd hs.stage hstage
  | unassembled hready hassemble => exact .refused (hs.not_accepts hready hassemble)
  | @decoded _ _ texture _ stream _ _ _ _ hready hassemble hjudged =>
    obtain ⟨⟨y, hy, hreply⟩, hlater⟩ := List.forall_mem_cons.mp hanswered
    obtain ⟨hpicture, hstream⟩ := hasPicture_assemble hgrouped hassemble
    have hcalm : (y.race.device.decode (.untimed stream) texture.target).1.1 =
        .ok (if Device.hasPicture stream then 1 else 0) :=
      Device.decode_of_prompt hy.device.prompt hstream texture.target
    rw [hpicture] at hcalm
    exact hjudged.fate ((hs.accepts_iff hready).mpr ⟨_, hassemble⟩)
      ((congrArg Prod.fst hreply).symm.trans hcalm) hlater

theorem JudgedBy.taken {reply : Except Status UInt32} {single : Bool}
    (h : JudgedBy s texture reply events (outcome, s'))
    (hreply : reply = .ok (if single then 1 else 0)) : statusOf outcome = .ok := by
  cases h with
  | rejected e => cases hreply
  | pending | single => rfl
  | tooMany hsome hmany =>
    cases single with
    | false => exact absurd (Except.ok.inj hreply) hsome
    | true => exact absurd (Except.ok.inj hreply) hmany

theorem DecodedBy.judged (h : DecodedBy s u events (outcome, s')) (hs : s.Serves f)
    (hgrouped : u.Grouped) (hx : x.device.Prompt span)
    (hreplays : Replays simulation events x x') :
    statusOf outcome = if accepts f u then .ok else .needKeyframe := by
  cases h with
  | notRunning hstage => exact absurd hs.stage hstage
  | unassembled hready hassemble =>
    rw [hs.not_accepts hready hassemble]
    rfl
  | @decoded _ _ texture _ stream _ _ _ _ hready hassemble hjudged =>
    obtain ⟨-, hstream⟩ := hasPicture_assemble hgrouped hassemble
    have hreply : (x.race.device.decode (.untimed stream) texture.target).1.1 =
        .ok (if Device.hasPicture stream then 1 else 0) :=
      Device.decode_of_prompt hx hstream texture.target
    rw [(hs.accepts_iff hready).mpr ⟨_, hassemble⟩, if_pos rfl]
    exact hjudged.taken ((congrArg Prod.fst hreplays.1).symm.trans hreply)

/-! ## Submitting -/

theorem Serves.concluded (h : s.Serves f) (outcome : Except DecodeError Outcome) :
    (s.concluded outcome).Serves f := by
  unfold Session.concluded
  split
  · exact h.withFigures _ s.indicator
  · exact h
  · exact h.withFigures _ s.indicator

theorem stats_concluded (hstats : s'.stats = s.stats) (outcome : Except DecodeError Outcome) :
    (s'.concluded outcome).stats = (s.concluded outcome).stats := by
  unfold Session.concluded
  split <;> simp only [hstats]

theorem concluded_settings (s : Session) (outcome : Except DecodeError Outcome) :
    (s.concluded outcome).settings = s.settings := by
  unfold Session.concluded
  split <;> rfl

theorem Serves.counted (h : s.Serves f) : s.counted.Serves f :=
  h.withFigures _ s.indicator

theorem Serves.run_submit (hs : s.Serves f) (u : DecodeUnit) (x : Raced Device) :
    ∃ events outcome s' x' after, DecodedBy s.counted u events (outcome, s') ∧
      Replays simulation events x x' ∧
      (s.submit u).run simulation x = ((statusOf outcome, s'.concluded outcome), after) ∧
      (after = x' ∨ ∃ record, after = (simulation.answer (.log record) x').2) := by
  have hfilled : s.counted.Filled s.counted.stage := hs.counted.stage ▸ hs.counted.filled
  obtain ⟨events, hdecoded, hreplays⟩ := (decodeUnit_decodedBy hfilled u).replays simulation x
  obtain ⟨⟨⟨outcome, s'⟩, x'⟩, hrun⟩ :
      ∃ done, (s.counted.decodeUnit u).run simulation x = done := ⟨_, rfl⟩
  rw [hrun] at hdecoded hreplays
  obtain ⟨after, hsubmit, hafter⟩ := Session.run_submit hrun
  exact ⟨events, outcome, s', x', after, hdecoded, hreplays, hsubmit, hafter⟩

theorem Serves.submit (hs : s.Serves f) (hx : x.Showing) (hgrouped : u.Grouped) :
    let done := (s.submit u).run simulation x
    done.1.2.Serves f ∧ done.2.Showing ∧
      ∃ outcome, Fate f u outcome ∧ done.1.2.stats = (s.counted.concluded outcome).stats ∧
        done.2.device.screen.presented =
          x.device.screen.presented + (wasPresented outcome).toNat := by
  obtain ⟨events, outcome, s', x', after, hdecoded, hreplays, hsubmit, hafter⟩ :=
    hs.run_submit u x
  obtain ⟨hshowing, hanswered⟩ := showing_of_replays hreplays hx hdecoded.stays_active
  obtain ⟨hstats, hcounts, -⟩ := hdecoded.counts
  have hscreen : x'.device.screen.presented =
      x.device.screen.presented + (wasPresented outcome).toNat := by
    rw [screen_of_replays hreplays]
    exact (hcounts.screen _).presented
  have hsame : after.Showing ∧ after.device.screen = x'.device.screen := by
    rcases hafter with rfl | ⟨record, rfl⟩
    · exact ⟨hshowing, rfl⟩
    · exact ⟨hshowing.answer nofun, rfl⟩
  rw [hsubmit]
  refine ⟨(hdecoded.serves hs.counted).concluded outcome, hsame.1, outcome,
    hdecoded.fate hs.counted hgrouped hanswered, stats_concluded hstats outcome, ?_⟩
  rw [hsame.2]
  exact hscreen

end Session
end AvcPipeline
