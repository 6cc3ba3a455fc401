import AvcPipeline.Pacing.Interleaving
import AvcPipeline.Proofs.Device.Handles
import AvcPipeline.Proofs.Pacing.Counters
import AvcPipeline.Proofs.Session.Frame
import AvcPipeline.Session.Paced

/-!
# What a unit does to the counters

What the streaming side asks of a session takes steps of the presenting side only. On any device a
submitted unit is presented and counted, or dropped against the quota, or it leaves the shared
counters alone. A `Tally` adds this up over any number of units: the statistics and the counters
agree on what was dropped and what was presented.
-/

namespace AvcPipeline

open Program

variable {σ : Type} {device : AbstractDevice σ} {c c' c'' : Counters} {d : σ}

theorem counters_answer_of_draws (device : AbstractDevice σ) (call : Call) (x : Counters × σ)
    (h : call.Draws) : ((Call.interpreter device).answer call x).2.1 = x.1 := by
  unfold Call.Draws at h
  split at h
  all_goals first | exact h.elim | rfl

/-! ## Steps -/

theorem presentStep_of_quiet {op : CounterOp} (h : (Call.counter op).Quiet) :
    ∃ step : PresentStep, step.op = op := by
  cases op with
  | recordPresented => exact ⟨.recordPresented, rfl⟩
  | consumeDrop => exact ⟨.consumeDrop, rfl⟩
  | lastInterval => exact ⟨.lastInterval, rfl⟩
  | setActive on => exact ⟨.setActive on, rfl⟩
  | isActive => exact ⟨.isActive, rfl⟩
  | _ => exact h.elim

theorem quiet_feed (s : Session) (f : Feed) :
    (s.operate f.operation).Ensures Call.Quiet fun _ => True := by
  cases f with
  | submit u => exact (s.submit_keeps u).bind fun _ _ => ensures_pure trivial
  | start => exact Session.quiet_start.bind fun _ _ => ensures_pure trivial
  | stop => exact Session.quiet_stop.bind fun _ _ => ensures_pure trivial

/-- Whatever the device replies, a session takes no step of the pacer. -/
theorem feed_presents (s : Session) (f : Feed) :
    (s.operate f.operation).Follows fun events _ =>
      ∀ op ∈ CallEvent.counterSteps events, ∃ step : PresentStep, step.op = op := by
  refine (quiet_feed s f).follows.mono fun events _ h op hop => ?_
  obtain ⟨⟨call, reply⟩, hevent, hcounter⟩ := List.mem_filterMap.mp hop
  have hquiet := h.1 _ hevent
  cases call with
  | counter op' =>
    cases hcounter
    exact presentStep_of_quiet hquiet
  | device call => cases hcounter
  | log record => cases hcounter

/-! ## Tallies -/

/-- So many units were dropped and so many presented, by the statistics and by the counters. Nothing
is presented while the quota is not used up. -/
structure Tally (drops shown : Nat) (s s' : Stats) (c c' : Counters) : Prop where
  dropped : s'.dropped = s.dropped + drops
  presented : s'.presented = s.presented + shown
  quota : c.quota.toNat = c'.quota.toNat + drops
  exhausted : 0 < shown → c'.quota = 0
  frames : c'.frames = c.frames + UInt32.ofNat shown

theorem Tally.none {s s' : Stats} (hdropped : s'.dropped = s.dropped)
    (hpresented : s'.presented = s.presented) (hquota : c'.quota = c.quota)
    (hframes : c'.frames = c.frames) : Tally 0 0 s s' c c' where
  dropped := hdropped
  presented := hpresented
  quota := by rw [hquota, Nat.add_zero]
  exhausted := nofun
  frames := hframes.trans (UInt32.add_zero _).symm

theorem Tally.add {drops drops' shown shown' : Nat} {s s' s'' : Stats}
    (h : Tally drops shown s s' c c') (h' : Tally drops' shown' s' s'' c' c'') :
    Tally (drops + drops') (shown + shown') s s'' c c'' where
  dropped := by rw [h'.dropped, h.dropped, Nat.add_assoc]
  presented := by rw [h'.presented, h.presented, Nat.add_assoc]
  quota := by rw [h.quota, h'.quota, Nat.add_assoc, Nat.add_comm drops]
  exhausted := by
    intro hpositive
    by_cases hlater : 0 < shown'
    · exact h'.exhausted hlater
    · have hquota := h'.quota
      rw [h.exhausted (by omega), UInt32.toNat_zero] at hquota
      exact UInt32.toNat_inj.mp (Nat.eq_zero_of_add_eq_zero_right hquota.symm)
  frames := by rw [h'.frames, h.frames, UInt32.ofNat_add, UInt32.add_assoc]

/-! ## One unit -/

namespace Session

variable {s : Session}

def Marks (c : Counters) : Except DecodeError Outcome → Counters → Prop
  | .ok .presented, c' => c.quota = 0 ∧ c' = { c with frames := c.frames + 1 }
  | .ok .dropped, c' => c.quota ≠ 0 ∧ c' = { c with quota := c.quota - 1 }
  | _, c' => c' = c

/-- The statistics are left to the caller. -/
def Shows (s : Session) (c : Counters) : (Outcome × Session) × Counters × σ → Prop
  | ((outcome, s'), c', _) => s'.stats = s.stats ∧ Marks c (.ok outcome) c'

def Decodes (s : Session) (c : Counters) :
    (Except DecodeError Outcome × Session) × Counters × σ → Prop
  | ((outcome, s'), c', _) => s'.stats = s.stats ∧ Marks c outcome c'

theorem run_present (s : Session) (texture : Texture) (device : AbstractDevice σ) (c : Counters)
    (d : σ) : ∃ s' d', (s.present texture).run (Call.interpreter device) (c, d) = (s', c, d') ∧
      s'.stats = s.stats := by
  obtain ⟨⟨-, hstats⟩, hcounters⟩ :=
    (s.draws_present texture).run (counters_answer_of_draws device) (c, d)
  generalize (s.present texture).run (Call.interpreter device) (c, d) = result at hstats hcounters
  obtain ⟨s', c', d'⟩ := result
  cases hcounters
  exact ⟨s', d', rfl, hstats⟩

theorem showPicture_shows (s : Session) (texture : Texture) :
    Shows s c ((s.showPicture texture).run (Call.interpreter device) (c, d)) := by
  have hactive : Action.isActive.run (Call.interpreter device) (c, d) = (c.active, c, d) := rfl
  have hdrop : Action.consumeDrop.run (Call.interpreter device) (c, d) =
      ((CounterOp.step .consumeDrop c).1, (CounterOp.step .consumeDrop c).2, d) := rfl
  rw [showPicture, run_bind, hactive]
  cases hshown : c.active with
  | false => exact ⟨rfl, rfl⟩
  | true =>
    change Shows s c (run _ (Action.consumeDrop >>= _) (c, d))
    rw [run_bind, hdrop]
    rcases c.step_consumeDrop with ⟨hquota, hstep⟩ | ⟨hquota, hstep⟩
    · rw [hstep]
      change Shows s c (run _ (s.present texture >>= _) (c, d))
      obtain ⟨s', d', hpresent, hstats⟩ := s.run_present texture device c d
      rw [run_bind, hpresent]
      exact ⟨hstats, hquota, rfl⟩
    · rw [hstep]
      exact ⟨rfl, hquota, rfl⟩

theorem decodeUnit_decodes (s : Session) (u : DecodeUnit) :
    Decodes s c ((s.decodeUnit u).run (Call.interpreter device) (c, d)) := by
  unfold decodeUnit
  split
  · exact ⟨rfl, rfl⟩
  · split
    · rename_i assembler fixup texture decoder _ _ _ _
      obtain ⟨assembled, assembler', fixup'⟩ := assembler.assemble fixup u
      cases assembled with
      | error e => exact ⟨rfl, rfl⟩
      | ok stream =>
        dsimp only
        obtain ⟨⟨decoded, shade⟩, d', hdecode⟩ : ∃ reply d',
            (Action.decode decoder (.untimed stream) texture.target).run
              (Call.interpreter device) (c, d) = (reply, c, d') := ⟨_, _, rfl⟩
        rw [run_bind, hdecode]
        cases decoded with
        | error e => exact ⟨rfl, rfl⟩
        | ok pictures =>
          dsimp only
          split
          · exact ⟨rfl, rfl⟩
          · split
            · exact ⟨rfl, rfl⟩
            · let s' : Session := { s with
                assembler := some assembler'
                fixup := some fixup'
                texture := some { texture with shade } }
              have hshows : Shows s c ((s'.showPicture { texture with shade }).run
                  (Call.interpreter device) (c, d')) := showPicture_shows s' _
              rw [run_bind]
              exact hshows
    · exact ⟨rfl, rfl⟩

def SubmitsOnce (s : Session) (c : Counters) : (SubmitStatus × Session) × Counters × σ → Prop
  | ((_, s'), c', _) => c'.active = c.active ∧ ∃ drops shown,
    drops + shown ≤ 1 ∧ Tally drops shown s.stats s'.stats c c'

theorem submit_submitsOnce (s : Session) (u : DecodeUnit) :
    SubmitsOnce s c ((s.submit u).run (Call.interpreter device) (c, d)) := by
  let counted : Session := { s with stats := { s.stats with submitted := s.stats.submitted + 1 } }
  have hdecodes : Decodes counted c
      ((counted.decodeUnit u).run (Call.interpreter device) (c, d)) := decodeUnit_decodes counted u
  change SubmitsOnce s c (run _ (counted.decodeUnit u >>= _) (c, d))
  rw [run_bind]
  generalize (counted.decodeUnit u).run (Call.interpreter device) (c, d) = result at hdecodes ⊢
  obtain ⟨⟨outcome, s'⟩, c', d'⟩ := result
  obtain ⟨hstats, hmarks⟩ := hdecodes
  have hdropped : s'.stats.dropped = s.stats.dropped := (congrArg Stats.dropped hstats).trans rfl
  have hpresented : s'.stats.presented = s.stats.presented :=
    (congrArg Stats.presented hstats).trans rfl
  cases outcome with
  | error e =>
    cases hmarks
    cases e with
    | notRunning => exact ⟨rfl, 0, 0, Nat.zero_le 1, .none hdropped hpresented rfl rfl⟩
    | _ => exact ⟨rfl, 0, 0, Nat.zero_le 1, .none hdropped hpresented rfl rfl⟩
  | ok outcome =>
    cases outcome with
    | presented =>
      obtain ⟨hquota, rfl⟩ := hmarks
      refine ⟨rfl, 0, 1, Nat.le_refl 1, hdropped, congrArg (· + 1) hpresented, rfl, ?_, rfl⟩
      exact fun _ => hquota
    | dropped =>
      obtain ⟨hquota, rfl⟩ := hmarks
      have hless := Counters.toNat_quota_consumeDrop hquota
      exact ⟨rfl, 1, 0, Nat.le_refl 1, congrArg (· + 1) hdropped, hpresented, hless.symm, nofun,
        (UInt32.add_zero _).symm⟩
    | pending =>
      cases hmarks
      exact ⟨rfl, 0, 0, Nat.zero_le 1, .none hdropped hpresented rfl rfl⟩
    | hidden =>
      cases hmarks
      exact ⟨rfl, 0, 0, Nat.zero_le 1, .none hdropped hpresented rfl rfl⟩

end Session

/-! ## Many units -/

namespace Paced

variable {x x' x'' : Paced σ}

structure Fed (units : Nat) (x x' : Paced σ) : Prop where
  pacer : x'.pacer = x.pacer
  tally : ∃ drops shown, drops + shown ≤ units ∧
    Tally drops shown x.stats x'.stats x.counters x'.counters

theorem Fed.trans {units units' : Nat} (h : Fed units x x') (h' : Fed units' x' x'') :
    Fed (units + units') x x'' where
  pacer := h'.pacer.trans h.pacer
  tally := by
    obtain ⟨drops, shown, hunits, htally⟩ := h.tally
    obtain ⟨drops', shown', hunits', htally'⟩ := h'.tally
    exact ⟨drops + drops', shown + shown', by omega, htally.add htally'⟩

theorem feed_submit (x : Paced σ) (u : DecodeUnit) :
    x.feed device (.submit u) =
      let done := (x.session.submit u).run (Call.interpreter device) (x.counters, x.device)
      { x with session := done.1.2, counters := done.2.1, device := done.2.2 } := by
  rw [feed, Feed.operation, Session.operate, run_bind]
  rfl

theorem fed_feed (device : AbstractDevice σ) (x : Paced σ) (f : Feed) :
    Fed (if f.isSubmit then 1 else 0) x (x.feed device f) ∧
      (f ≠ .stop → x.counters.active = true → (x.feed device f).counters.active = true) := by
  cases f with
  | submit u =>
    have hsubmit : x.session.SubmitsOnce x.counters ((x.session.submit u).run
        (Call.interpreter device) (x.counters, x.device)) := x.session.submit_submitsOnce u
    rw [feed_submit]
    generalize (x.session.submit u).run _ _ = done at hsubmit ⊢
    obtain ⟨⟨status, s⟩, c, d⟩ := done
    obtain ⟨hactive, htally⟩ := hsubmit
    exact ⟨⟨rfl, htally⟩, fun _ hshown => hactive.trans hshown⟩
  | start => exact ⟨⟨rfl, 0, 0, Nat.le_refl 0, .none rfl rfl rfl rfl⟩, fun _ _ => rfl⟩
  | stop => exact ⟨⟨rfl, 0, 0, Nat.le_refl 0, .none rfl rfl rfl rfl⟩, fun h => absurd rfl h⟩

theorem fed_feedAll (device : AbstractDevice σ) (x : Paced σ) (feeds : List Feed) :
    Fed (feeds.countP Feed.isSubmit) x (x.feedAll device feeds) ∧
      (.stop ∉ feeds → x.counters.active = true →
        (x.feedAll device feeds).counters.active = true) := by
  induction feeds generalizing x with
  | nil => exact ⟨⟨rfl, 0, 0, Nat.le_refl 0, .none rfl rfl rfl rfl⟩, fun _ hshown => hshown⟩
  | cons f feeds ih =>
    obtain ⟨hfirst, hactive⟩ := fed_feed device x f
    obtain ⟨hrest, hactive'⟩ := ih (x.feed device f)
    refine ⟨?_, fun hstop hshown => ?_⟩
    · rw [List.countP_cons, Nat.add_comm]
      exact hfirst.trans hrest
    · rw [List.mem_cons, not_or] at hstop
      exact hactive' hstop.2 (hactive (Ne.symm hstop.1) hshown)

end Paced
end AvcPipeline
