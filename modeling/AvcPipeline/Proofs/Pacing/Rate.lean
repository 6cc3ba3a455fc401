import AvcPipeline.Proofs.Session.Counting
import Mathlib.Data.List.Induction

/-!
# The rate that pacing holds

The pacer counts what is presented, not what is submitted. What one period presents above the target
is dropped in the next, and what that one presents is counted in turn; so of two periods in a row
the second makes up for the first, and every other period starts anew. `presented_run_le` adds this
up over a run of any length, and `presented_run_eq` says that a steady load comes to just that. A
session that presents no more than the target between two wakes has nothing dropped.
-/

namespace AvcPipeline.Paced

variable {σ : Type} {device : AbstractDevice σ} {x x' : Paced σ} {targetFps : UInt32} {p : Period}

/-! ## One period -/

structure Pacing (targetFps : UInt32) (x : Paced σ) : Prop where
  active : x.counters.active = true
  enabled : x.pacer.enabled = true
  target : x.pacer.targetFps = targetFps

/-- What a paced period drops and presents, and what it leaves to the next. -/
structure Spends (targetFps : UInt32) (units drops shown : Nat) (x x' : Paced σ) : Prop where
  units : drops + shown ≤ units
  dropped : x'.stats.dropped = x.stats.dropped + drops
  presented : x'.stats.presented = x.stats.presented + shown
  drops_le : drops ≤ x.counters.quota.toNat
  exhausted : 0 < shown → drops = x.counters.quota.toNat
  frames : x'.counters.frames = 0
  quota : x'.counters.quota.toNat = min (x.counters.quota.toNat - drops +
    (x.counters.frames.toNat + shown - targetFps.toNat)) 0xFFFFFFFF

theorem counters_wake (x : Paced σ) (vblank : UInt64) (now : Nanos) :
    (x.wake vblank now).counters.frames = 0 ∧
      (x.wake vblank now).counters.quota = x.pacer.quotaAfter x.counters ∧
      (x.wake vblank now).counters.active = x.counters.active := by
  have hcounters : (x.wake vblank now).counters = (x.pacer.tick x.counters vblank now).2.2 := rfl
  rw [hcounters, Pacer.counters_tick]
  exact ⟨rfl, rfl, rfl⟩

theorem toNat_frames_of_tally {drops shown : Nat} {s s' : Stats} {c c' : Counters}
    (h : Tally drops shown s s' c c') (hroom : c.frames.toNat + shown < UInt32.size) :
    c'.frames.toNat = c.frames.toNat + shown := by
  have hshown : (UInt32.ofNat shown).toNat = shown :=
    UInt32.toNat_ofNat_of_lt' (Nat.lt_of_le_of_lt (Nat.le_add_left _ _) hroom)
  rw [h.frames, UInt32.toNat_add, hshown]
  exact Nat.mod_eq_of_lt hroom

theorem period_spends (device : AbstractDevice σ) {units : Nat} (h : x.Pacing targetFps)
    (hstop : .stop ∉ p.feeds) (hle : p.units ≤ units)
    (hroom : x.counters.frames.toNat + units < UInt32.size) :
    (x.period device p).Pacing targetFps ∧
      ∃ drops shown, Spends targetFps units drops shown x (x.period device p) := by
  let fed := x.feedAll device p.feeds
  obtain ⟨hfed, hactive⟩ := fed_feedAll device x p.feeds
  obtain ⟨drops, shown, hsum, htally⟩ := hfed.tally
  have hunits : drops + shown ≤ units := Nat.le_trans hsum hle
  obtain ⟨hframes, hquota, hactive'⟩ := fed.counters_wake p.vblank p.now
  have hfedActive : fed.counters.active = true := hactive hstop h.active
  have hfedPacer : fed.pacer = x.pacer := hfed.pacer
  have hcounted : fed.counters.frames.toNat = x.counters.frames.toNat + shown :=
    toNat_frames_of_tally htally (by omega)
  have hleft : fed.counters.quota.toNat = x.counters.quota.toNat - drops :=
    (Nat.sub_eq_of_eq_add htally.quota).symm
  refine ⟨⟨hactive'.trans hfedActive, ?_, ?_⟩, drops, shown, hunits, htally.dropped,
    htally.presented, ?_, ?_, hframes, ?_⟩
  · change fed.pacer.enabled = true
    rw [hfedPacer]
    exact h.enabled
  · change fed.pacer.targetFps = targetFps
    rw [hfedPacer]
    exact h.target
  · rw [htally.quota]
    exact Nat.le_add_left _ _
  · intro hshown
    have hzero : fed.counters.quota = 0 := htally.exhausted hshown
    rw [htally.quota, hzero, UInt32.toNat_zero, Nat.zero_add]
  · change (fed.wake p.vblank p.now).counters.quota.toNat = _
    rw [hquota, hfedPacer, Pacer.toNat_quotaAfter hfedActive h.enabled, hcounted, hleft, h.target]

/-! ## Runs -/

/-- Two periods in a row present at most what the first may and the target. -/
theorem shown_add_shown_le {units drops drops' shown shown' : Nat} {x'' : Paced σ}
    (hroom : units < UInt32.size) (h : Spends targetFps units drops shown x x')
    (h' : Spends targetFps units drops' shown' x' x'') :
    shown + shown' ≤ 2 * targetFps.toNat + (units - targetFps.toNat) := by
  have hroom : units < 0x100000000 := hroom
  have hunits := h.units
  have hunits' := h'.units
  have hquota := h.quota
  by_cases hshown : 0 < shown'
  · have hdrops := h'.exhausted hshown
    omega
  · omega

theorem presented_run_le (device : AbstractDevice σ) (h : x.Pacing targetFps)
    (periods : List Period) (hstop : ∀ p ∈ periods, .stop ∉ p.feeds) {units : Nat}
    (hunits : ∀ p ∈ periods, p.units ≤ units)
    (hroom : x.counters.frames.toNat + units < UInt32.size) :
    (x.run device periods).stats.presented ≤ x.stats.presented +
      (periods.length * targetFps.toNat +
        (periods.length + 1) / 2 * (units - targetFps.toNat)) := by
  have hroom' : units < UInt32.size := Nat.lt_of_le_of_lt (Nat.le_add_left _ _) hroom
  induction periods using List.twoStepInduction generalizing x with
  | nil => exact Nat.le_add_right _ _
  | singleton p =>
    obtain ⟨-, drops, shown, hspends⟩ :=
      period_spends device h (hstop p (by simp)) (hunits p (by simp)) hroom
    have hshown := hspends.units
    change (x.period device p).stats.presented ≤ _
    rw [hspends.presented, List.length_singleton]
    omega
  | cons_cons p p' rest ih =>
    obtain ⟨h', drops, shown, hspends⟩ :=
      period_spends device h (hstop p (by simp)) (hunits p (by simp)) hroom
    obtain ⟨h'', drops', shown', hspends'⟩ :=
      period_spends device h' (hstop p' (by simp)) (hunits p' (by simp))
        (by rwa [hspends.frames, UInt32.toNat_zero, Nat.zero_add])
    -- This holds for whatever quota the two periods find, so nothing has to be carried along.
    have htwo := shown_add_shown_le hroom' hspends hspends'
    have hrest := ih h'' (fun q hq => hstop q (by simp [hq])) (fun q hq => hunits q (by simp [hq]))
      (by rwa [hspends'.frames, UInt32.toNat_zero, Nat.zero_add])
    rw [hspends'.presented, hspends.presented] at hrest
    have hhalf : (rest.length + 1 + 1 + 1) / 2 = (rest.length + 1) / 2 + 1 := by omega
    change (run device ((x.period device p).period device p') rest).stats.presented ≤ _
    rw [List.length_cons, List.length_cons, hhalf, Nat.add_mul, Nat.add_mul, Nat.add_mul]
    omega

/-! ## Steady loads -/

def handled (x : Paced σ) : Nat := x.stats.dropped + x.stats.presented

theorem handled_run_le (device : AbstractDevice σ) (x : Paced σ) (periods : List Period)
    {units : Nat} (hunits : ∀ p ∈ periods, p.units ≤ units) :
    (x.run device periods).handled ≤ x.handled + periods.length * units := by
  induction periods generalizing x with
  | nil => exact Nat.le_add_right _ _
  | cons p rest ih =>
    obtain ⟨drops, shown, hsum, htally⟩ := (fed_feedAll device x p.feeds).1.tally
    have hp := hunits p List.mem_cons_self
    have hrest := ih (x.period device p) fun q hq => hunits q (List.mem_cons_of_mem p hq)
    have hfirst : (x.period device p).handled = x.handled + (drops + shown) := by
      change (x.feedAll device p.feeds).stats.dropped +
        (x.feedAll device p.feeds).stats.presented = _
      rw [htally.dropped, htally.presented, handled]
      omega
    change (run device (x.period device p) rest).handled ≤ _
    rw [List.length_cons, Nat.add_mul]
    unfold Period.units at hp
    omega

theorem Spends.handled {units drops shown : Nat} (h : Spends targetFps units drops shown x x') :
    x'.handled = x.handled + (drops + shown) := by
  rw [Paced.handled, Paced.handled, h.dropped, h.presented]
  omega

/-- Two full periods from an empty quota present the load of the first and the target, and leave the
quota empty. -/
theorem shown_add_shown_eq {units drops drops' shown shown' : Nat} {x'' : Paced σ}
    (hquota : x.counters.quota = 0) (hframes : x.counters.frames = 0)
    (hload : targetFps.toNat ≤ units) (hroom : units < UInt32.size)
    (h : Spends targetFps units drops shown x x') (h' : Spends targetFps units drops' shown' x' x'')
    (hfull : drops + shown = units) (hfull' : drops' + shown' = units) :
    shown + shown' = 2 * targetFps.toNat + (units - targetFps.toNat) ∧ x''.counters.quota = 0 := by
  have hroom : units < 0x100000000 := hroom
  have hdrops := h.drops_le
  have hleft := h.quota
  rw [hquota, UInt32.toNat_zero] at hdrops hleft
  rw [hframes, UInt32.toNat_zero] at hleft
  have hdrops' := h'.drops_le
  have hleft' := h'.quota
  rw [h.frames, UInt32.toNat_zero] at hleft'
  -- What the first period presents above the target is just what the second drops.
  have hcleared : drops' = x'.counters.quota.toNat := by
    by_cases hshown : 0 < shown'
    · exact h'.exhausted hshown
    · omega
  refine ⟨by omega, UInt32.toNat_inj.mp ?_⟩
  rw [UInt32.toNat_zero]
  omega

/-- If every period brings the same number of units, no fewer than the target, and each unit is
dropped or presented, then the bound is what is presented. -/
theorem presented_run_eq (device : AbstractDevice σ) (h : x.Pacing targetFps)
    (hquota : x.counters.quota = 0) (hframes : x.counters.frames = 0) (periods : List Period)
    (hstop : ∀ p ∈ periods, .stop ∉ p.feeds) {units : Nat}
    (hunits : ∀ p ∈ periods, p.units = units) (hload : targetFps.toNat ≤ units)
    (hroom : units < UInt32.size)
    (hhandled : (x.run device periods).handled = x.handled + periods.length * units) :
    (x.run device periods).stats.presented = x.stats.presented +
      (periods.length * targetFps.toNat +
        (periods.length + 1) / 2 * (units - targetFps.toNat)) := by
  induction periods using List.twoStepInduction generalizing x with
  | nil => simp only [run, List.foldl_nil, List.length_nil]; omega
  | singleton p =>
    obtain ⟨-, drops, shown, hspends⟩ := period_spends device h (hstop p (by simp))
      (Nat.le_of_eq (hunits p (by simp))) (by rwa [hframes, UInt32.toNat_zero, Nat.zero_add])
    have hdrops := hspends.drops_le
    rw [hquota, UInt32.toNat_zero] at hdrops
    change (x.period device p).handled = _ at hhandled
    rw [hspends.handled, List.length_singleton] at hhandled
    change (x.period device p).stats.presented = _
    rw [hspends.presented, List.length_singleton]
    omega
  | cons_cons p p' rest ih =>
    have hle (q : Period) (hq : q ∈ p :: p' :: rest) : q.units ≤ units := Nat.le_of_eq (hunits q hq)
    obtain ⟨h', drops, shown, hspends⟩ := period_spends device h (hstop p (by simp))
      (hle p (by simp)) (by rwa [hframes, UInt32.toNat_zero, Nat.zero_add])
    obtain ⟨h'', drops', shown', hspends'⟩ := period_spends device h' (hstop p' (by simp))
      (hle p' (by simp)) (by rwa [hspends.frames, UInt32.toNat_zero, Nat.zero_add])
    have hrest := handled_run_le device ((x.period device p).period device p') rest
      fun q hq => hle q (by simp [hq])
    have htotal := hhandled
    change (run device ((x.period device p).period device p') rest).handled = _ at htotal
    rw [hspends'.handled, hspends.handled] at hrest
    rw [List.length_cons, List.length_cons, Nat.add_mul, Nat.add_mul] at htotal
    have hunits₁ := hspends.units
    have hunits₂ := hspends'.units
    obtain ⟨htwo, hquota''⟩ := shown_add_shown_eq hquota hframes hload hroom hspends hspends'
      (by omega) (by omega)
    have hlater := ih h'' hquota'' hspends'.frames (fun q hq => hstop q (by simp [hq]))
      (fun q hq => hunits q (by simp [hq]))
      (by rw [htotal, hspends'.handled, hspends.handled]; omega)
    rw [hspends'.presented, hspends.presented] at hlater
    have hhalf : (rest.length + 1 + 1 + 1) / 2 = (rest.length + 1) / 2 + 1 := by omega
    change (run device ((x.period device p).period device p') rest).stats.presented = _
    rw [List.length_cons, List.length_cons, hhalf, Nat.add_mul, Nat.add_mul, Nat.add_mul]
    omega

theorem feedAll_of_empty (device : AbstractDevice σ) (hquota : x.counters.quota = 0)
    (feeds : List Feed) :
    (x.feedAll device feeds).counters.quota = 0 ∧
      ∃ shown ≤ feeds.countP Feed.isSubmit,
        Tally 0 shown x.stats (x.feedAll device feeds).stats x.counters
          (x.feedAll device feeds).counters := by
  obtain ⟨drops, shown, hsum, htally⟩ := (fed_feedAll device x feeds).1.tally
  have hsum' := htally.quota
  rw [hquota, UInt32.toNat_zero] at hsum'
  obtain rfl : drops = 0 := by omega
  have hempty : (x.feedAll device feeds).counters.quota = 0 := UInt32.toNat_inj.mp hsum'.symm
  exact ⟨hempty, shown, by omega, htally⟩

/-- A period that presents as many frames as there are words looks like one that presents none. -/
theorem presented_run_unseen (device : AbstractDevice σ) (hquota : x.counters.quota = 0)
    (hframes : x.counters.frames = 0) (periods : List Period)
    (hunits : ∀ p ∈ periods, p.units = UInt32.size)
    (hhandled : (x.run device periods).handled = x.handled + periods.length * UInt32.size) :
    (x.run device periods).stats.presented = x.stats.presented + periods.length * UInt32.size := by
  induction periods generalizing x with
  | nil => rfl
  | cons p rest ih =>
    let fed := x.feedAll device p.feeds
    obtain ⟨hempty, shown, hle, htally⟩ := feedAll_of_empty device hquota p.feeds
    have hfirst : (x.period device p).handled = x.handled + shown := by
      change fed.stats.dropped + fed.stats.presented = _
      rw [htally.dropped, htally.presented, handled]
      omega
    have hlater := handled_run_le device (x.period device p) rest
      fun q hq => Nat.le_of_eq (hunits q (by simp [hq]))
    have htotal := hhandled
    change (run device (x.period device p) rest).handled = _ at htotal
    rw [List.length_cons, Nat.add_mul] at htotal
    have hshown : shown = UInt32.size := by
      have hp : p.feeds.countP Feed.isSubmit = UInt32.size := hunits p (by simp)
      omega
    have hunseen : fed.counters.frames = 0 := by
      rw [htally.frames, hframes, hshown]
      rfl
    obtain ⟨hframes', hquota', -⟩ := fed.counters_wake p.vblank p.now
    rw [Pacer.quotaAfter_of_le _ _ (by rw [hunseen]; exact UInt32.zero_le), hempty] at hquota'
    have hrest := ih (x := x.period device p) hquota' hframes' (fun q hq => hunits q (by simp [hq]))
      (by omega)
    have hpresented : (x.period device p).stats.presented = x.stats.presented + shown :=
      htally.presented
    change (run device (x.period device p) rest).stats.presented = _
    rw [hrest, hpresented, hshown, List.length_cons, Nat.add_mul]
    omega

/-- The overshoot of a run goes with its length: half of the periods may present all they are given,
and a steady load makes them. Only a load that the frame count cannot hold is not paced at all. -/
theorem presented_run (device : AbstractDevice σ) (h : x.Pacing targetFps)
    (periods : List Period) (hstop : ∀ p ∈ periods, .stop ∉ p.feeds) {units : Nat}
    (hunits : ∀ p ∈ periods, p.units ≤ units) :
    let y := x.run device periods
    let bound := periods.length * targetFps.toNat +
      (periods.length + 1) / 2 * (units - targetFps.toNat)
    (x.counters.frames.toNat + units < UInt32.size →
      y.stats.presented ≤ x.stats.presented + bound) ∧
    (x.counters.quota = 0 → x.counters.frames = 0 → (∀ p ∈ periods, p.units = units) →
      y.handled = x.handled + periods.length * units →
      (targetFps.toNat ≤ units → units < UInt32.size →
        y.stats.presented = x.stats.presented + bound) ∧
      (units = UInt32.size → y.stats.presented = x.stats.presented + periods.length * units)) := by
  refine ⟨presented_run_le device h periods hstop hunits, ?_⟩
  intro hquota hframes hsteady hhandled
  refine ⟨fun hload hroom => ?_, ?_⟩
  · exact presented_run_eq device h hquota hframes periods hstop hsteady hload hroom hhandled
  · rintro rfl
    exact presented_run_unseen device hquota hframes periods hsteady hhandled

/-- A running session with a target of one frame a second, whose device finds a picture in every
unit. -/
def oneFps : Paced Device :=
  let device : Device := { faults := { outputs := some 1 } }
  let session : Session := { config := { fps := 1 } }
  let ((_, session), counters, device) := (session.setup { width := 1280, height := 720 }).run
    (Call.interpreter Device.simulated) ({}, device)
  { session, pacer := .start session.config session.settings.interval 0 0, counters, device }

def picture : DecodeUnit := .ofFragments 0 .refresh [⟨.ordinary, [1]⟩]

def burst (pictures second : Nat) : Period :=
  ⟨List.replicate pictures (.submit picture), .ofNat (60 * second), .ofSeconds second 0⟩

theorem presented_run_bursts :
    oneFps.Pacing 1 ∧ (∀ p ∈ [burst 3 1, burst 2 2, burst 3 3], .stop ∉ p.feeds) ∧
    (∀ p ∈ [burst 3 1, burst 2 2, burst 3 3], p.units ≤ 3) ∧
    (oneFps.run Device.simulated [burst 3 1, burst 2 2, burst 3 3]).stats.presented ≤
      oneFps.stats.presented + (3 * 1 + (3 + 1) / 2 * (3 - 1)) := by
  have h : oneFps.Pacing 1 := ⟨by decide, by decide, by decide⟩
  have hstop : ∀ p ∈ [burst 3 1, burst 2 2, burst 3 3], .stop ∉ p.feeds := by decide
  have hunits : ∀ p ∈ [burst 3 1, burst 2 2, burst 3 3], p.units ≤ 3 := by decide
  exact ⟨h, hstop, hunits, (presented_run Device.simulated h _ hstop hunits).1 (by decide)⟩

/-- Three pictures a second come to seven in three seconds, four more than the target and one more
than a single interval accounts for. -/
theorem presented_three_bursts :
    let y := oneFps.run Device.simulated [burst 3 1, burst 3 2, burst 3 3]
    oneFps.Pacing 1 ∧ oneFps.counters.quota = 0 ∧ y.handled = oneFps.handled + 3 * 3 ∧
      oneFps.stats.presented + (3 * 1 + 3) < y.stats.presented := by
  exact ⟨⟨by decide, by decide, by decide⟩, by decide, by decide +kernel, by decide +kernel⟩

/-! ## Loads below the target -/

/-- The frames that the target rate has room for in a span, rounded up, but in no more than a
second. -/
def allowance (targetFps : UInt32) (span : Nanos) : Nat :=
  (targetFps.toNat * min span Nanos.perSecond + (Nanos.perSecond - 1)) / Nanos.perSecond

theorem allowance_le (targetFps : UInt32) (span : Nanos) :
    allowance targetFps span ≤ targetFps.toNat := by
  have hfull : targetFps.toNat * min span Nanos.perSecond ≤ targetFps.toNat * Nanos.perSecond :=
    Nat.mul_le_mul_left _ (Nat.min_le_right _ _)
  unfold allowance
  unfold Nanos.perSecond at hfull ⊢
  omega

/-- From wake to wake, and from the start to the first wake, no more is presented than the target
rate has room for. -/
def KeepsRate (device : AbstractDevice σ) (x : Paced σ) : List Period → Prop
  | [] => True
  | p :: rest =>
    (x.feedAll device p.feeds).stats.presented ≤
        x.stats.presented + allowance x.pacer.targetFps (p.now - x.pacer.lastCheck) ∧
      KeepsRate device (x.period device p) rest

theorem period_of_rate (device : AbstractDevice σ) (hquota : x.counters.quota = 0)
    (hframes : x.counters.frames = 0)
    (hrate : (x.feedAll device p.feeds).stats.presented ≤
      x.stats.presented + x.pacer.targetFps.toNat) :
    (x.period device p).counters.quota = 0 ∧ (x.period device p).counters.frames = 0 ∧
      (x.period device p).stats.dropped = x.stats.dropped := by
  let fed := x.feedAll device p.feeds
  have hpacer : fed.pacer = x.pacer := (fed_feedAll device x p.feeds).1.pacer
  obtain ⟨hempty, shown, -, htally⟩ := feedAll_of_empty device hquota p.feeds
  obtain ⟨hframes', hquota', -⟩ := fed.counters_wake p.vblank p.now
  have htarget : x.pacer.targetFps.toNat < UInt32.size := x.pacer.targetFps.toNat_lt
  have hshown : shown ≤ x.pacer.targetFps.toNat := by
    rw [htally.presented] at hrate
    omega
  have hnone : x.counters.frames.toNat = 0 := by rw [hframes, UInt32.toNat_zero]
  have hcounted : fed.counters.frames.toNat = x.counters.frames.toNat + shown :=
    toNat_frames_of_tally htally (by omega)
  have hunder : fed.counters.frames ≤ fed.pacer.targetFps := by
    rw [UInt32.le_iff_toNat_le, hcounted, hpacer]
    omega
  rw [Pacer.quotaAfter_of_le _ _ hunder, hempty] at hquota'
  exact ⟨hquota', hframes', htally.dropped⟩

/-- While the session keeps to the target rate, the quota stays empty and nothing is dropped. -/
theorem nothing_dropped (device : AbstractDevice σ) (hquota : x.counters.quota = 0)
    (hframes : x.counters.frames = 0) (periods : List Period) (hrate : KeepsRate device x periods)
    (feeds : List Feed) :
    let y := (x.run device periods).feedAll device feeds
    y.counters.quota = 0 ∧ y.stats.dropped = x.stats.dropped := by
  induction periods generalizing x with
  | nil =>
    obtain ⟨hempty, shown, -, htally⟩ := feedAll_of_empty device hquota feeds
    exact ⟨hempty, htally.dropped⟩
  | cons p rest ih =>
    obtain ⟨hfirst, hrest⟩ := hrate
    have hwithin := Nat.le_trans hfirst (Nat.add_le_add_left (allowance_le _ _) _)
    obtain ⟨hquota', hframes', hdropped⟩ := period_of_rate device hquota hframes hwithin
    obtain ⟨hempty, hdropped'⟩ := ih hquota' hframes' hrest
    exact ⟨hempty, hdropped'.trans hdropped⟩

theorem nothing_dropped_late :
    let periods := [⟨[.submit picture], 30, .ofMillis 500⟩, burst 1 2]
    oneFps.counters.quota = 0 ∧ oneFps.counters.frames = 0 ∧
      KeepsRate Device.simulated oneFps periods ∧
      let y := (oneFps.run Device.simulated periods).feedAll Device.simulated [.submit picture]
      y.counters.quota = 0 ∧ y.stats.dropped = oneFps.stats.dropped := by
  intro periods
  have hrate : KeepsRate Device.simulated oneFps periods := ⟨by decide, by decide, trivial⟩
  exact ⟨by decide, by decide, hrate,
    nothing_dropped Device.simulated (by decide) (by decide) periods hrate [.submit picture]⟩

/-- Two pictures in two seconds keep to one frame a second. But if the pacer sees them in one wake,
it has the next one dropped. -/
theorem dropped_after_two_seconds :
    let p : Period := ⟨[.submit picture, .submit picture], 120, .ofSeconds 2 0⟩
    let y := oneFps.run Device.simulated [p]
    oneFps.counters.quota = 0 ∧ oneFps.counters.frames = 0 ∧
      (y.stats.presented - oneFps.stats.presented) * Nanos.perSecond ≤
        1 * (p.now - oneFps.pacer.lastCheck) ∧
      y.counters.quota = 1 ∧
      (y.feed Device.simulated (.submit picture)).stats.dropped = oneFps.stats.dropped + 1 := by
  decide

end AvcPipeline.Paced
