import AvcPipeline.Pacing.Interleaving
import AvcPipeline.Proofs.Pacing.Counters
import Mathlib.Data.List.Infix
import Mathlib.Tactic.MkIffOfInductiveProp

/-!
# No frame is lost and none is counted twice

`Balanced` compares the counters with the account: frames presented with frames counted, drops with
the excess that the wakes added, and the published figures with those of one wake. Every single
step keeps it, on either side, as long as the numbers fit in a word. `Remains` says how far a wake
has come, since its steps can lie far apart.
-/

namespace AvcPipeline

open Pacer

structure Wake.Published (w : Wake) (i : Interval) : Prop where
  published : w.published = true
  decoded : w.decoded = some i.decoded
  vblanks : w.vblanks = i.vblanks

@[mk_iff]
structure Account.InRange (a : Account) (targetFps : UInt32) : Prop where
  waiting : a.waiting < UInt32.size
  excess : a.excess targetFps < UInt32.size

instance (a : Account) (targetFps : UInt32) : Decidable (a.InRange targetFps) :=
  decidable_of_iff' _ (a.inRange_iff targetFps)

structure Balanced (targetFps : UInt32) (c : Counters) (a : Account) : Prop where
  frames : a.taken + a.waiting = a.presented
  waiting : c.frames.toNat = a.waiting
  quota : a.dropped + c.quota.toNat = a.excess targetFps
  interval : c.interval = {} ∨ ∃ w ∈ a.wakes, w.Published c.interval

/-- What is left of a wake, by what it has done so far. -/
inductive Remains (targetFps : UInt32) : CounterProgram → Wake → Prop
  | all (p : Pacer) (vblank : UInt64) (h : p.targetFps = targetFps) :
    Remains targetFps (p.sample vblank) { vblanks := vblanksBetween p.lastVblank vblank }
  | judging (p : Pacer) (decoded vblanks : UInt32) (h : p.targetFps = targetFps) :
    Remains targetFps (p.judging decoded vblanks) { vblanks, decoded := some decoded }
  | adding (decoded vblanks : UInt32) (h : targetFps < decoded) :
    Remains targetFps (adding targetFps decoded vblanks) { vblanks, decoded := some decoded }
  | publishing (decoded vblanks : UInt32) (addedQuota : Bool) :
    Remains targetFps (publishing decoded vblanks) { vblanks, decoded := some decoded, addedQuota }

variable {targetFps : UInt32} {c : Counters} {a : Account} {w : Wake} {earlier : List Wake}

theorem Remains.not_published {program : CounterProgram} (h : Remains targetFps program w) :
    w.published = false := by
  cases h <;> rfl

/-- Figures that were published before are not those of a wake that has not published yet. -/
theorem published_earlier {i : Interval} (hw : a.wakes = w :: earlier)
    (hnew : w.published = false) (h : i = {} ∨ ∃ v ∈ a.wakes, v.Published i) :
    i = {} ∨ ∃ v ∈ earlier, v.Published i := by
  rcases h with hempty | ⟨v, hv, hpublished⟩
  · exact .inl hempty
  · rw [hw] at hv
    rcases List.mem_cons.mp hv with rfl | hv
    · exact absurd hpublished.published (by simp [hnew])
    · exact .inr ⟨v, hv, hpublished⟩

theorem published_cons {i : Interval} (w : Wake)
    (h : i = {} ∨ ∃ v ∈ earlier, v.Published i) :
    i = {} ∨ ∃ v ∈ w :: earlier, v.Published i :=
  h.imp_right fun ⟨v, hv, hpublished⟩ => ⟨v, List.mem_cons_of_mem w hv, hpublished⟩

/-! ## Single steps -/

theorem balanced_present (h : Balanced targetFps c a) (s : PresentStep)
    (hrange : (a.enter s.op (s.op.step c).1).InRange targetFps) :
    Balanced targetFps (s.op.step c).2 (a.enter s.op (s.op.step c).1) := by
  cases s with
  | recordPresented =>
    have hframes : a.taken + (a.waiting + 1) = a.presented + 1 := by
      rw [← h.frames, Nat.add_assoc]
    exact ⟨hframes, Counters.toNat_frames_recordPresented h.waiting hrange.waiting, h.quota,
      h.interval⟩
  | consumeDrop =>
    change Balanced targetFps (CounterOp.step .consumeDrop c).2
      (a.enter .consumeDrop (CounterOp.step .consumeDrop c).1)
    rcases c.step_consumeDrop with ⟨-, hstep⟩ | ⟨hquota, hstep⟩
    · rw [hstep]
      exact h
    · rw [hstep]
      have hless := Counters.toNat_quota_consumeDrop hquota
      have hdropped : a.dropped + 1 + (c.quota - 1).toNat = a.excess targetFps := by
        rw [← h.quota, ← hless, Nat.add_assoc, Nat.add_comm 1]
      exact ⟨h.frames, h.waiting, hdropped, h.interval⟩
  | isActive => exact h
  | lastInterval => exact h
  | setActive on => exact ⟨h.frames, h.waiting, h.quota, h.interval⟩

theorem balanced_beginWake (h : Balanced targetFps c a) (vblanks : UInt32) :
    Balanced targetFps c (a.beginWake vblanks) where
  frames := by
    have htaken : (a.beginWake vblanks).taken = a.taken := Nat.zero_add _
    rw [htaken]
    exact h.frames
  waiting := h.waiting
  quota := by
    have hexcess : (a.beginWake vblanks).excess targetFps = a.excess targetFps := Nat.zero_add _
    rw [hexcess]
    exact h.quota
  interval := published_cons _ h.interval

theorem Account.taken_of_wakes (hw : a.wakes = w :: earlier) :
    a.taken = w.taken + total Wake.taken earlier := by
  rw [Account.taken, hw]
  rfl

theorem Account.excess_of_wakes (hw : a.wakes = w :: earlier) (targetFps : UInt32) :
    a.excess targetFps =
      w.excess targetFps + total (fun v => v.excess targetFps) earlier := by
  rw [Account.excess, hw]
  rfl

theorem balanced_takeFrames (h : Balanced targetFps c a)
    (hw : a.wakes = w :: earlier) (hnew : w.published = false) (htaken : w.decoded = none)
    (hadded : w.addedQuota = false) :
    Balanced targetFps (CounterOp.step .takeFrames c).2 (a.enter .takeFrames c.frames) := by
  have hw' : (a.enter .takeFrames c.frames).wakes =
      { w with decoded := some c.frames } :: earlier :=
    congrArg (List.modifyHead _) hw
  refine ⟨?_, rfl, ?_, ?_⟩
  · have hnone : w.taken = 0 := by rw [Wake.taken, htaken]
    have hsome : Wake.taken { w with decoded := some c.frames } = a.waiting := h.waiting
    have hframes := h.frames
    rw [Account.taken_of_wakes hw, hnone] at hframes
    rw [Account.taken_of_wakes hw', hsome]
    change _ + 0 = a.presented
    omega
  · have hunjudged (frames : Option UInt32) :
        Wake.excess { w with decoded := frames } targetFps = 0 := by
      rw [Wake.excess, hadded]
      rfl
    have hquota := h.quota
    rw [Account.excess_of_wakes hw, hunjudged w.decoded] at hquota
    rw [Account.excess_of_wakes hw', hunjudged]
    exact hquota
  · rw [hw']
    exact published_cons _ (published_earlier hw hnew h.interval)

theorem balanced_addQuota {decoded : UInt32} (h : Balanced targetFps c a)
    (hw : a.wakes = w :: earlier) (hnew : w.published = false)
    (htaken : w.decoded = some decoded) (hadded : w.addedQuota = false)
    (hover : targetFps < decoded)
    (hrange : (a.enter (.addQuota (decoded - targetFps)) ()).InRange targetFps) :
    Balanced targetFps (CounterOp.step (.addQuota (decoded - targetFps)) c).2
      (a.enter (.addQuota (decoded - targetFps)) ()) := by
  have hw' : (a.enter (.addQuota (decoded - targetFps)) ()).wakes =
      { w with addedQuota := true } :: earlier :=
    congrArg (List.modifyHead _) hw
  have hframes := h.frames
  rw [Account.taken_of_wakes hw] at hframes
  refine ⟨?_, h.waiting, ?_, ?_⟩
  · rw [Account.taken_of_wakes hw']
    exact hframes
  · have hunadded : w.excess targetFps = 0 := by
      rw [Wake.excess, hadded]
      rfl
    have hover : Wake.excess { w with addedQuota := true } targetFps =
        (decoded - targetFps).toNat := by
      rw [UInt32.toNat_sub_of_le _ _ (UInt32.le_of_lt hover), Wake.excess, if_pos rfl, Wake.taken,
        htaken]
    have hquota := h.quota
    have hexcess : _ < 0x100000000 := hrange.excess
    rw [Account.excess_of_wakes hw, hunadded] at hquota
    rw [Account.excess_of_wakes hw', hover] at hexcess ⊢
    have hsum := Word32.toNat_satAdd c.quota (decoded - targetFps)
    change a.dropped + (Word32.satAdd c.quota (decoded - targetFps)).toNat = _
    omega
  · rw [hw']
    exact published_cons _ (published_earlier hw hnew h.interval)

theorem balanced_publish {i : Interval} (h : Balanced targetFps c a)
    (hw : a.wakes = w :: earlier) (htaken : w.decoded = some i.decoded)
    (hvblanks : w.vblanks = i.vblanks) :
    Balanced targetFps (CounterOp.step (.publish i) c).2 (a.enter (.publish i) ()) := by
  have hw' : (a.enter (.publish i) ()).wakes = { w with published := true } :: earlier :=
    congrArg (List.modifyHead _) hw
  refine ⟨?_, h.waiting, ?_, .inr ?_⟩
  · have hframes := h.frames
    rw [Account.taken_of_wakes hw] at hframes
    rw [Account.taken_of_wakes hw']
    exact hframes
  · have hquota := h.quota
    rw [Account.excess_of_wakes hw] at hquota
    rw [Account.excess_of_wakes hw']
    exact hquota
  · rw [hw', Counters.interval_publish]
    exact ⟨_, List.mem_cons_self, rfl, htaken, hvblanks⟩

/-! ## A step of the wake under way -/

/-- The program is what the latest wake has still to do, if anything. -/
def UnderWay (targetFps : UInt32) (program : CounterProgram) (a : Account) : Prop :=
  program = .done () ∨ ∃ w earlier, a.wakes = w :: earlier ∧ Remains targetFps program w

theorem sample_step {op : CounterOp} {next : op.Reply → CounterProgram}
    (h : Balanced targetFps c a) (hw : a.wakes = w :: earlier)
    (hremains : Remains targetFps (.call op next) w)
    (hrange : (a.enter op (op.step c).1).InRange targetFps) :
    Balanced targetFps (op.step c).2 (a.enter op (op.step c).1) ∧
      UnderWay targetFps (next (op.step c).1) (a.enter op (op.step c).1) := by
  have hnew := hremains.not_published
  generalize hprogram : Program.call op next = program at hremains
  cases hremains with
  | all p vblank hfps =>
    rw [sample_eq] at hprogram
    cases hprogram
    exact ⟨balanced_takeFrames h hw hnew rfl rfl,
      .inr ⟨_, _, congrArg (List.modifyHead _) hw, .judging p c.frames _ hfps⟩⟩
  | judging p decoded vblanks hfps =>
    -- The count may have moved on since it was taken; the pacer goes by what it took.
    cases hprogram
    refine ⟨h, .inr ⟨_, _, hw, ?_⟩⟩
    change Remains targetFps (if c.active && p.enabled && p.targetFps < decoded then _ else _) _
    by_cases hover : (c.active && p.enabled && decide (p.targetFps < decoded)) = true
    · rw [if_pos hover, hfps]
      rw [Bool.and_eq_true, decide_eq_true_eq, hfps] at hover
      exact .adding decoded vblanks hover.2
    · rw [if_neg hover]
      exact .publishing decoded vblanks false
  | adding decoded vblanks hover =>
    cases hprogram
    exact ⟨balanced_addQuota h hw hnew rfl rfl hover hrange,
      .inr ⟨_, _, congrArg (List.modifyHead _) hw, .publishing decoded vblanks true⟩⟩
  | publishing decoded vblanks addedQuota =>
    cases hprogram
    exact ⟨balanced_publish h hw rfl rfl, .inl rfl⟩

/-! ## Whole runs -/

namespace Interplay

structure Sound (targetFps : UInt32) (x : Interplay) : Prop where
  target : x.pacer.targetFps = targetFps
  balanced : Balanced targetFps x.counters x.account
  underWay : UnderWay targetFps x.underWay x.account

theorem sound_start (pacer : Pacer) (c : Counters) : (start pacer c).Sound pacer.targetFps := by
  have hnone : Interval.unpack 0 = {} := by decide
  exact ⟨rfl, ⟨rfl, rfl, rfl, .inl hnone⟩, .inl rfl⟩

theorem wakes_enter_present (a : Account) (s : PresentStep) (reply : s.op.Reply) :
    (a.enter s.op reply).wakes = a.wakes := by
  cases s with
  | consumeDrop => cases reply <;> rfl
  | _ => rfl

theorem Sound.step {x : Interplay} (h : x.Sound targetFps) (move : Move)
    (hrange : (x.step move).account.InRange targetFps) : (x.step move).Sound targetFps := by
  obtain ⟨counters, pacer, underWay, account⟩ := x
  obtain ⟨htarget, hbalanced, hunderWay⟩ := h
  cases move with
  | present s =>
    refine ⟨htarget, balanced_present hbalanced s hrange, hunderWay.imp_right ?_⟩
    rintro ⟨w, earlier, hw, hremains⟩
    exact ⟨w, earlier, (wakes_enter_present _ _ _).trans hw, hremains⟩
  | wake vblank now =>
    cases underWay with
    | done =>
      exact ⟨htarget, balanced_beginWake hbalanced _, .inr ⟨_, _, rfl, .all pacer _ htarget⟩⟩
    | call op next => exact ⟨htarget, hbalanced, hunderWay⟩
  | sample =>
    cases underWay with
    | done => exact ⟨htarget, hbalanced, hunderWay⟩
    | call op next =>
      obtain hdone | ⟨w, earlier, hw, hremains⟩ := hunderWay
      · cases hdone
      · have hstep := sample_step hbalanced hw hremains hrange
        exact ⟨htarget, hstep.1, hstep.2⟩

theorem Sound.run {x : Interplay} (h : x.Sound targetFps) (moves : List Move)
    (hrange : ∀ earlier, earlier <+: moves → (x.run earlier).account.InRange targetFps) :
    (x.run moves).Sound targetFps := by
  induction moves generalizing x with
  | nil => exact h
  | cons move moves ih =>
    have hfirst : (x.step move).account.InRange targetFps :=
      hrange [move] (List.prefix_append [move] moves)
    exact ih (h.step move hfirst) fun earlier hearlier =>
      hrange (move :: earlier) ((List.cons_prefix_cons).mpr ⟨rfl, hearlier⟩)

/-- Between any two steps, every frame presented was either taken by a wake or still counts, every
frame above the target was either dropped or is still to be, and the figures of the last interval
were published together, by one wake. -/
theorem no_frame_lost (pacer : Pacer) (c : Counters) (moves : List Move)
    (hrange : ∀ earlier, earlier <+: moves →
      ((start pacer c).run earlier).account.InRange pacer.targetFps) :
    let x := (start pacer c).run moves
    x.account.taken + x.counters.frames.toNat = x.account.presented ∧
      x.account.dropped + x.counters.quota.toNat = x.account.excess pacer.targetFps ∧
      x.account.dropped ≤ x.account.excess pacer.targetFps ∧
      (x.counters.interval = {} ∨ ∃ w ∈ x.account.wakes, w.Published x.counters.interval) := by
  intro x
  have hbalanced : Balanced pacer.targetFps x.counters x.account :=
    ((sound_start pacer c).run moves hrange).balanced
  refine ⟨?_, hbalanced.quota, ?_, hbalanced.interval⟩
  · rw [hbalanced.waiting]
    exact hbalanced.frames
  · rw [← hbalanced.quota]
    exact Nat.le_add_right _ _

def overlap : List Move :=
  [.present .recordPresented, .present .recordPresented, .wake 60 (.ofSeconds 1 0), .sample,
    .present .recordPresented, .sample, .present .isActive, .sample, .present .consumeDrop,
    .present .consumeDrop, .sample, .present .recordPresented, .present .lastInterval]

def oneFrame : Pacer := .start { fps := 1 } (.ofSeconds 1 0) 0 0

theorem no_frame_lost_overlap :
    (∀ earlier, earlier <+: overlap →
      ((start oneFrame {}).run earlier).account.InRange oneFrame.targetFps) ∧
    let x := (start oneFrame {}).run overlap
    x.account.taken + x.counters.frames.toNat = x.account.presented ∧
      x.account.dropped + x.counters.quota.toNat = x.account.excess oneFrame.targetFps ∧
      x.account.dropped ≤ x.account.excess oneFrame.targetFps ∧
      (x.counters.interval = {} ∨ ∃ w ∈ x.account.wakes, w.Published x.counters.interval) := by
  have hrange : ∀ earlier, earlier <+: overlap →
      ((start oneFrame {}).run earlier).account.InRange oneFrame.targetFps := by
    simp only [← List.mem_inits]
    decide
  exact ⟨hrange, no_frame_lost oneFrame {} overlap hrange⟩

end Interplay
end AvcPipeline
