import AvcPipeline.Pacing.Pacer
import AvcPipeline.Proofs.Pacing.Counters
import AvcPipeline.Settings.Resolve
import Mathlib.Data.List.Induction

/-!
# The sleeps of the pacer

A sleep cannot be worked out only if twice the interval is longer than any span. The settings give
the interval in milliseconds, in a word, so that this does not happen: whatever the pacer has found
so far, and however the clock and the refresh counter ran, a wake is followed by a sleep of at most
an interval, and never by none.
-/

namespace AvcPipeline

namespace Settings

variable {f : File} {args : PlayArgs} {r : Resolved}

theorem interval_of_resolve (h : f.resolve args = .ok r) :
    r.pacer.interval = (f.intervalMillis.map millis).getD (.ofSeconds 1 0) ∧
      f.intervalMillis ≠ some 0 := by
  unfold File.resolve at h
  dsimp only at h
  by_cases hrate : (args.fps <|> f.fps).getD 60 = 0
  · rw [if_pos hrate] at h
    cases h
  rw [if_neg hrate] at h
  by_cases hinterval : f.intervalMillis = some 0
  · rw [if_pos hinterval] at h
    cases h
  rw [if_neg hinterval] at h
  by_cases htimeout : f.timeoutMillis = some 0
  · rw [if_pos htimeout] at h
    cases h
  rw [if_neg htimeout] at h
  cases h
  exact ⟨rfl, hinterval⟩

theorem two_mul_millis_le (n : UInt64) : 2 * millis n ≤ Nanos.maxSpan := by
  have hn : n.toNat < 2 ^ 64 := n.toNat_lt
  change 2 * (n.toNat * 1000000) ≤ 2 ^ 64 * 1000000000 - 1
  omega

/-- A resolved interval is positive, and twice as long is still a span. -/
theorem interval_fits (h : f.resolve args = .ok r) :
    0 < r.pacer.interval ∧ 2 * r.pacer.interval ≤ Nanos.maxSpan := by
  obtain ⟨hinterval, hzero⟩ := interval_of_resolve h
  rw [hinterval]
  cases hmillis : f.intervalMillis with
  | none => decide
  | some n =>
    have hn : n.toNat ≠ 0 := fun hn =>
      hzero (hmillis.trans (congrArg some (UInt64.toNat_inj.mp hn)))
    refine ⟨?_, two_mul_millis_le n⟩
    change 0 < n.toNat * 1000000
    omega

end Settings

namespace Pacer

variable {lapse interval : Nanos}

/-! ## One sleep -/

theorem nextDelay?_of_late (hlate : interval < lapse) (hless : lapse < 2 * interval)
    (hfits : 2 * interval ≤ Nanos.maxSpan) :
    nextDelay? lapse interval = some (2 * interval - lapse) := by
  have hover : interval < lapse ∧ lapse - interval < interval := by
    unfold Nanos at *
    omega
  rw [nextDelay?, if_pos hover, if_pos hfits]

theorem nextDelay?_of_not_late (h : ¬ (interval < lapse ∧ lapse < 2 * interval)) :
    nextDelay? lapse interval = some interval := by
  have hover : ¬ (interval < lapse ∧ lapse - interval < interval) := by
    unfold Nanos at *
    omega
  rw [nextDelay?, if_neg hover]

theorem nextDelay?_eq_none_iff :
    nextDelay? lapse interval = none ↔
      Nanos.maxSpan < 2 * interval ∧ interval < lapse ∧ lapse < 2 * interval := by
  by_cases hlate : interval < lapse ∧ lapse < 2 * interval
  · by_cases hfits : 2 * interval ≤ Nanos.maxSpan
    · rw [nextDelay?_of_late hlate.1 hlate.2 hfits]
      simp only [reduceCtorEq, false_iff]
      exact fun h => absurd hfits (Nat.not_le.mpr h.1)
    · have hover : interval < lapse ∧ lapse - interval < interval := by
        unfold Nanos at *
        omega
      rw [nextDelay?, if_pos hover, if_neg hfits]
      simp only [true_iff]
      exact ⟨Nat.not_le.mp hfits, hlate⟩
  · rw [nextDelay?_of_not_late hlate]
    simp only [reduceCtorEq, false_iff]
    exact fun h => hlate h.2

theorem eq_of_nextDelay? {sleep : Nanos} (h : nextDelay? lapse interval = some sleep) :
    (interval < lapse ∧ lapse < 2 * interval ∧ sleep = 2 * interval - lapse) ∨
      (¬ (interval < lapse ∧ lapse < 2 * interval) ∧ sleep = interval) := by
  by_cases hlate : interval < lapse ∧ lapse < 2 * interval
  · have hfits : 2 * interval ≤ Nanos.maxSpan := by
      by_contra hover
      rw [nextDelay?_eq_none_iff.mpr ⟨Nat.not_le.mp hover, hlate⟩] at h
      cases h
    rw [nextDelay?_of_late hlate.1 hlate.2 hfits] at h
    exact .inl ⟨hlate.1, hlate.2, (Option.some.inj h).symm⟩
  · rw [nextDelay?_of_not_late hlate] at h
    exact .inr ⟨hlate, (Option.some.inj h).symm⟩

/-! ## The pacer between wakes -/

def lastReading (p : Pacer) (wakes : List (Finding × Nanos)) : UInt64 × Nanos :=
  match wakes.getLast? with
  | some (found, now) => (found.vblank, now)
  | none => (p.lastVblank, p.lastCheck)

theorem after_eq (p : Pacer) (wakes : List (Finding × Nanos)) :
    p.after wakes = p.observe (p.lastReading wakes).1 (p.lastReading wakes).2 := by
  induction wakes using List.reverseRecOn with
  | nil => rfl
  | append_singleton wakes wake ih =>
    have hlast : p.lastReading (wakes ++ [wake]) = (wake.1.vblank, wake.2) := by
      rw [lastReading, List.getLast?_concat]
    have hafter : p.after (wakes ++ [wake]) = (p.after wakes).observe wake.1.vblank wake.2 := by
      rw [after, List.foldl_append]
      rfl
    rw [hafter, hlast, ih]
    rfl

theorem toNat_vblanksBetween (last now : UInt64) :
    (vblanksBetween last now).toNat = min (now.toNat - last.toNat) 0xFFFFFFFF :=
  Word32.toNat_clamp _

/-! ## Any wake -/

theorem sleeps_of_fits (lapse : Nanos) (hpos : 0 < interval)
    (hfits : 2 * interval ≤ Nanos.maxSpan) :
    ∃ sleep, nextDelay? lapse interval = some sleep ∧ 0 < sleep ∧ sleep ≤ interval ∧
      (interval < lapse ∧ lapse < 2 * interval → sleep = 2 * interval - lapse) ∧
      (¬ (interval < lapse ∧ lapse < 2 * interval) → sleep = interval) := by
  by_cases hlate : interval < lapse ∧ lapse < 2 * interval
  · refine ⟨2 * interval - lapse, nextDelay?_of_late hlate.1 hlate.2 hfits, ?_, ?_, fun _ => rfl,
      fun h => absurd hlate h⟩
    · exact Nat.sub_pos_of_lt hlate.2
    · unfold Nanos at *
      omega
  · exact ⟨interval, nextDelay?_of_not_late hlate, hpos, Nat.le_refl _, fun h => absurd h hlate,
      fun _ => rfl⟩

theorem toNat_quota_tick (p : Pacer) (c : Counters) (vblank : UInt64) (now : Nanos) :
    (p.tick c vblank now).2.2.quota.toNat =
      if c.active && p.enabled then
        min (c.quota.toNat + (c.frames.toNat - p.targetFps.toNat)) 0xFFFFFFFF
      else c.quota.toNat := by
  rw [counters_tick]
  change (p.quotaAfter c).toNat = _
  by_cases hpaced : (c.active && p.enabled) = true
  · rw [if_pos hpaced]
    rw [Bool.and_eq_true] at hpaced
    exact toNat_quotaAfter hpaced.1 hpaced.2
  · rw [if_neg hpaced, quotaAfter, Bool.eq_false_iff.mpr hpaced]
    rfl

theorem interval_tick (p : Pacer) (c : Counters) (vblank : UInt64) (now : Nanos) :
    (p.tick c vblank now).2.2.interval = ⟨c.frames, vblanksBetween p.lastVblank vblank⟩ := by
  rw [counters_tick]
  exact Interval.unpack_pack _

/-- With settings that can be resolved, whatever the wakes before found and whenever they were, a
wake is followed by a sleep: by an interval, or by what is left of the second one if the wake was
late by less than an interval. The excess is added to the quota in exact numbers, up to the largest
word, and the refreshes are counted so. With any settings at all, only a late wake can be without a
sleep after it, and is if twice the interval is longer than any span. -/
theorem tick_after {f : Settings.File} {args : Settings.PlayArgs} {r : Settings.Resolved}
    (h : f.resolve args = .ok r) (vblank : UInt64) (now : Nanos) (wakes : List (Finding × Nanos))
    (found : Finding) (time : Nanos) :
    let interval := r.pacer.interval
    let started := start r.video interval vblank now
    let last := started.lastReading wakes
    let lapse := time - last.2
    let woken := (started.after wakes).tick found.counters found.vblank time
    (∃ sleep, woken.1 = some sleep ∧ 0 < sleep ∧ sleep ≤ interval ∧
      (interval < lapse ∧ lapse < 2 * interval → sleep = 2 * interval - lapse) ∧
      (¬ (interval < lapse ∧ lapse < 2 * interval) → sleep = interval)) ∧
    woken.2.2.frames = 0 ∧
    woken.2.2.quota.toNat = (if found.counters.active && r.video.pacing then
        min (found.counters.quota.toNat + (found.counters.frames.toNat - r.video.fps.toNat))
          0xFFFFFFFF
      else found.counters.quota.toNat) ∧
    woken.2.2.interval.decoded = found.counters.frames ∧
    woken.2.2.interval.vblanks.toNat = min (found.vblank.toNat - last.1.toNat) 0xFFFFFFFF ∧
    ∀ lapse interval, lapse ≤ Nanos.maxSpan →
      (nextDelay? lapse interval = none ↔ Nanos.maxSpan < 2 * interval ∧ interval < lapse) := by
  intro interval started last lapse woken
  obtain ⟨hpos, hfits⟩ := Settings.interval_fits h
  have hafter : started.after wakes = started.observe last.1 last.2 := started.after_eq wakes
  have hwoken : woken = (started.observe last.1 last.2).tick found.counters found.vblank time :=
    congrArg (fun p : Pacer => p.tick found.counters found.vblank time) hafter
  rw [hwoken]
  refine ⟨sleeps_of_fits _ hpos hfits, ?_, toNat_quota_tick _ _ _ _, ?_, ?_, ?_⟩
  · rw [counters_tick]
  · rw [interval_tick]
  · rw [interval_tick]
    exact toNat_vblanksBetween _ _
  · intro lapse interval hspan
    rw [nextDelay?_eq_none_iff]
    unfold Nanos at *
    omega

/-- The longest interval that a settings file can give. The wake is late by a nanosecond, the quota
is full, and the refresh counter went backwards. -/
theorem tick_after_longest :
    let f : Settings.File := { fps := some 30, intervalMillis := some 0xFFFFFFFFFFFFFFFF }
    let interval := Settings.millis 0xFFFFFFFFFFFFFFFF
    let r : Settings.Resolved := ⟨{ fps := 30 }, { interval }, 30⟩
    let found : Finding := { counters := { frames := 90, quota := 0xFFFFFFFF }, vblank := 3 }
    let woken := ((start r.video interval 10 0).after [({ vblank := 8 }, 1)]).tick found.counters
      found.vblank (interval + 2)
    f.resolve {} = .ok r ∧ woken.1 = some (interval - 1) ∧ woken.2.2.quota.toNat = 0xFFFFFFFF ∧
      woken.2.2.interval.vblanks.toNat = 0 := by
  intro f interval r found woken
  have hresolved : f.resolve {} = .ok r := by decide
  obtain ⟨⟨sleep, hsome, -, -, hlate, -⟩, -, hquota, -, hvblanks, -⟩ :=
    tick_after hresolved 10 0 [({ vblank := 8 }, 1)] found (interval + 2)
  have hlong : 1 < interval := by decide
  have hlate : interval < interval + 1 ∧ interval + 1 < 2 * interval →
      sleep = 2 * interval - (interval + 1) := hlate
  have hsleep : sleep = interval - 1 := by
    unfold Nanos at *
    omega
  exact ⟨hresolved, hsome.trans (congrArg some hsleep), hquota, hvblanks⟩

end Pacer
end AvcPipeline
