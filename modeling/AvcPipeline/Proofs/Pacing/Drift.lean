import AvcPipeline.Proofs.Pacing.Sleep

/-!
# How far the wakes of the pacer drift

Wakes in time would lie on a grid, one interval apart. A wake makes up for how far it is behind the
wake before it, so the next one is due as far behind the grid as the earlier of the two. No wake
comes before its place on the grid, and at most every other latency adds up; latencies that are all
the same add up just so.
-/

namespace AvcPipeline.Pacer

/-! ## Lags -/

/-- How far the last wake is behind the grid after wakes that came so late, when the two wakes
before them were `before` and `last` behind. -/
def lag (before last : Nanos) : List Nanos → Nanos
  | [] => last
  | late :: rest => lag last (min before last + late) rest

/-- What the last of these spans, the last but two and so on add up to. -/
def everyOther (before last : Nanos) : List Nanos → Nanos
  | [] => last
  | late :: rest => everyOther last (before + late) rest

theorem lag_le_everyOther {before last before' last' : Nanos} (hbefore : before ≤ before')
    (hlast : last ≤ last') (lates : List Nanos) :
    lag before last lates ≤ everyOther before' last' lates := by
  induction lates generalizing before last before' last' with
  | nil => exact hlast
  | cons late rest ih =>
    have hnext : min before last + late ≤ before' + late := by
      unfold Nanos at *
      omega
    exact ih hlast hnext

theorem everyOther_le {most before last : Nanos} {lates : List Nanos}
    (hlates : ∀ late ∈ lates, late ≤ most) {k : Nat} (hbefore : before ≤ k / 2 * most)
    (hlast : last ≤ (k + 1) / 2 * most) :
    everyOther before last lates ≤ (k + lates.length + 1) / 2 * most := by
  induction lates generalizing before last k with
  | nil => exact hlast
  | cons late rest ih =>
    have hlate := hlates late List.mem_cons_self
    have hnext : before + late ≤ (k + 1 + 1) / 2 * most := by
      have hhalf : (k + 1 + 1) / 2 = k / 2 + 1 := by omega
      rw [hhalf, Nat.add_one_mul]
      exact Nat.add_le_add hbefore hlate
    have hrest := ih (fun late h => hlates late (List.mem_cons_of_mem _ h)) hlast hnext
    have hlength : k + (late :: rest).length = k + 1 + rest.length := by
      rw [List.length_cons]
      omega
    rw [hlength]
    exact hrest

/-- The earlier of two wakes is the earlier one on the grid, so each latency adds to the last lag
but one. -/
theorem lag_replicate (k n : Nat) (late : Nanos) :
    lag (k / 2 * late) ((k + 1) / 2 * late) (List.replicate n late) = (k + n + 1) / 2 * late := by
  induction n generalizing k with
  | zero => rfl
  | succ n ih =>
    have hmin : min (k / 2 * late) ((k + 1) / 2 * late) = k / 2 * late :=
      Nat.min_eq_left (Nat.mul_le_mul_right _ (by omega))
    have hnext : k / 2 * late + late = (k + 1 + 1) / 2 * late := by
      have hhalf : (k + 1 + 1) / 2 = k / 2 + 1 := by omega
      rw [hhalf, Nat.add_one_mul]
    have hcount : k + (n + 1) + 1 = k + 1 + n + 1 := by omega
    rw [List.replicate_succ, lag, hmin, hnext, ih (k + 1), hcount]

/-- Latencies below half an interval add up to less than an interval over four wakes. -/
theorem lag_lt_interval {interval : Nanos} (hpos : 0 < interval) {lates : List Nanos}
    (hlates : ∀ late ∈ lates, 2 * late < interval) (hfour : lates.length ≤ 4) :
    lag 0 0 lates < interval := by
  let most := (interval - 1) / 2
  have hmost : ∀ late ∈ lates, late ≤ most := by
    intro late hmem
    have htwice := hlates late hmem
    change late ≤ (interval - 1) / 2
    unfold Nanos at *
    omega
  have hsum := everyOther_le hmost (k := 0) (Nat.zero_le _) (Nat.zero_le _)
  have hlag := lag_le_everyOther (Nat.le_refl 0) (Nat.le_refl 0) lates
  have hcount : (0 + lates.length + 1) / 2 * most ≤ 2 * most := Nat.mul_le_mul_right _ (by omega)
  have htwo : 2 * most ≤ interval - 1 := Nat.mul_div_le (interval - 1) 2
  unfold Nanos at *
  omega

/-! ## One wake -/

/-- The last wake was `last` behind its place on the grid and the one before it `before`, and the
sleep is over as far behind the next place as the earlier of the two was. -/
structure OnGrid (grid before last sleep : Nanos) (p : Pacer) : Prop where
  looked : p.lastCheck = grid + last
  due : p.lastCheck + sleep = grid + p.interval + min before last
  close : last < min before last + p.interval

variable {p : Pacer} {grid before last sleep late : Nanos}

theorem OnGrid.wake (h : OnGrid grid before last sleep p) (late : Nanos) :
    p.lastCheck + sleep + late = grid + p.interval + (min before last + late) := by
  rw [h.due]
  exact Nat.add_assoc _ _ _

theorem OnGrid.tick (h : OnGrid grid before last sleep p) (hlate : late < p.interval)
    (c : Counters) (vblank : UInt64) {next : Nanos}
    (hnext : (p.tick c vblank (p.lastCheck + sleep + late)).1 = some next) :
    OnGrid (grid + p.interval) last (min before last + late) next
      (p.tick c vblank (p.lastCheck + sleep + late)).2.1 := by
  have hwake := h.wake late
  obtain ⟨hlooked, hdue, hclose⟩ := h
  have hnext : nextDelay? (p.lastCheck + sleep + late - p.lastCheck) p.interval = some next := hnext
  refine ⟨hwake, ?_, ?_⟩
  · change p.lastCheck + sleep + late + next =
      grid + p.interval + p.interval + min last (min before last + late)
    -- The wake is behind the one before it exactly when the lapse is longer than an interval.
    rcases eq_of_nextDelay? hnext with ⟨hover, hless, rfl⟩ | ⟨hover, rfl⟩
    · unfold Nanos at *
      omega
    · unfold Nanos at *
      omega
  · change min before last + late < min last (min before last + late) + p.interval
    unfold Nanos at *
    omega

/-! ## All the wakes -/

theorem exists_sleep (hpos : 0 < p.interval) (hfits : 2 * p.interval ≤ Nanos.maxSpan)
    (c : Counters) (vblank : UInt64) (now : Nanos) :
    ∃ next, (p.tick c vblank now).1 = some next := by
  obtain ⟨next, hnext, -⟩ := sleeps_of_fits (now - p.lastCheck) hpos hfits
  exact ⟨next, hnext⟩

theorem length_wakeTimes (hpos : 0 < p.interval) (hfits : 2 * p.interval ≤ Nanos.maxSpan)
    (sleep : Nanos) (wakes : List (Finding × Nanos)) :
    (p.wakeTimes sleep wakes).length = wakes.length := by
  induction wakes generalizing p sleep with
  | nil => rfl
  | cons wake rest ih =>
    obtain ⟨found, late⟩ := wake
    obtain ⟨next, hnext⟩ :=
      exists_sleep hpos hfits found.counters found.vblank (p.lastCheck + sleep + late)
    simp only [wakeTimes, hnext, List.length_cons]
    rw [ih (p := (p.tick found.counters found.vblank (p.lastCheck + sleep + late)).2.1) hpos hfits]

theorem length_wakeTimes_le (p : Pacer) (sleep : Nanos) (wakes : List (Finding × Nanos)) :
    (p.wakeTimes sleep wakes).length ≤ wakes.length := by
  induction wakes generalizing p sleep with
  | nil => exact Nat.le_refl _
  | cons wake rest ih =>
    obtain ⟨found, late⟩ := wake
    simp only [wakeTimes, List.length_cons]
    apply Nat.succ_le_succ
    split
    · exact ih _ _
    · exact Nat.zero_le _

theorem OnGrid.wakeTimes (h : OnGrid grid before last sleep p) {wakes : List (Finding × Nanos)}
    (hlates : ∀ wake ∈ wakes, wake.2 < p.interval) {n : Nat} {time : Nanos}
    (htime : (p.wakeTimes sleep wakes)[n]? = some time) :
    time = grid + (n + 1) * p.interval +
      lag before last ((wakes.map Prod.snd).take (n + 1)) := by
  induction wakes generalizing p grid before last sleep n with
  | nil => cases htime
  | cons wake rest ih =>
    obtain ⟨found, late⟩ := wake
    have hlate : late < p.interval := hlates (found, late) List.mem_cons_self
    cases n with
    | zero =>
      rw [← Option.some.inj htime, h.wake late, Nat.zero_add, Nat.one_mul]
      rfl
    | succ n =>
      simp only [Pacer.wakeTimes, List.getElem?_cons_succ] at htime
      cases hnext : (p.tick found.counters found.vblank (p.lastCheck + sleep + late)).1 with
      | none =>
        rw [hnext] at htime
        cases htime
      | some next =>
        rw [hnext] at htime
        have hgrid := h.tick hlate found.counters found.vblank hnext
        have hrest := ih hgrid (fun wake hmem => hlates wake (List.mem_cons_of_mem _ hmem)) htime
        have hplace : grid + (n + 1 + 1) * p.interval =
            grid + p.interval + (n + 1) * p.interval := by
          rw [Nat.add_one_mul (n + 1)]
          unfold Nanos at *
          omega
        rw [hrest, hplace]
        rfl

theorem onGrid_start (config : VideoConfig) {interval : Nanos} (hpos : 0 < interval)
    (vblank : UInt64) (now : Nanos) :
    OnGrid now 0 0 interval (start config interval vblank now) :=
  ⟨rfl, rfl, Nat.lt_of_lt_of_le hpos (Nat.le_add_left _ _)⟩

/-- The wakes of the pacer's task, each late by less than half an interval. Every one takes place if
twice the interval is a span. None comes before its place on the grid. A wake is behind that place
by its latency and as much as the earlier of the two wakes before it, so by no more than every other
latency up to its own; so the first four are behind by less than an interval. If the latencies are
all the same, they add up at every other wake. -/
theorem wakes_drift (config : VideoConfig) (interval : Nanos) (vblank : UInt64) (now : Nanos)
    (wakes : List (Finding × Nanos)) (hlates : ∀ wake ∈ wakes, 2 * wake.2 < interval) :
    let times := (start config interval vblank now).wakeTimes interval wakes
    let lates := wakes.map Prod.snd
    (2 * interval ≤ Nanos.maxSpan → times.length = wakes.length) ∧
    ∀ n time, times[n]? = some time →
      time = now + (n + 1) * interval + lag 0 0 (lates.take (n + 1)) ∧
      lag 0 0 (lates.take (n + 1)) ≤ everyOther 0 0 (lates.take (n + 1)) ∧
      (n < 4 → time < now + (n + 2) * interval) ∧
      ∀ late, lates = List.replicate wakes.length late →
        time = now + (n + 1) * interval + (n + 2) / 2 * late := by
  intro times lates
  by_cases hpos : 0 < interval
  · refine ⟨fun hfits => length_wakeTimes hpos hfits interval wakes, fun n time htime => ?_⟩
    have hn : n < wakes.length := by
      obtain ⟨hlength, -⟩ := List.getElem?_eq_some_iff.mp htime
      exact Nat.lt_of_lt_of_le hlength (length_wakeTimes_le _ _ _)
    have hless : ∀ wake ∈ wakes, wake.2 < interval := by
      intro wake hmem
      have htwice := hlates wake hmem
      unfold Nanos at *
      omega
    have hplace := (onGrid_start config hpos vblank now).wakeTimes hless htime
    refine ⟨hplace, lag_le_everyOther (Nat.le_refl 0) (Nat.le_refl 0) _, fun hfour => ?_, ?_⟩
    · have hshort : (lates.take (n + 1)).length ≤ 4 := by
        rw [List.length_take]
        omega
      have htaken : ∀ late ∈ lates.take (n + 1), 2 * late < interval := by
        intro late hmem
        obtain ⟨wake, hwake, rfl⟩ := List.mem_map.mp (List.mem_of_mem_take hmem)
        exact hlates wake hwake
      have hlag := lag_lt_interval hpos htaken hshort
      rw [hplace, Nat.succ_mul (n + 1), ← Nat.add_assoc]
      exact Nat.add_lt_add_left hlag _
    · intro late hsame
      have hmin : min (n + 1) wakes.length = n + 1 := Nat.min_eq_left hn
      have hcount : 0 + (n + 1) + 1 = n + 2 := by omega
      rw [hplace]
      change now + (n + 1) * interval + lag 0 0 (lates.take (n + 1)) = _
      rw [hsame, List.take_replicate, hmin]
      have hsteady := lag_replicate 0 (n + 1) late
      rw [hcount, Nat.zero_div, Nat.zero_mul] at hsteady
      exact congrArg _ hsteady
  · -- With no interval there can be no wakes that are late by less.
    cases wakes with
    | nil => exact ⟨fun _ => rfl, nofun⟩
    | cons wake rest =>
      have hfirst := hlates wake List.mem_cons_self
      unfold Nanos at *
      omega

theorem wakes_drift_uneven :
    let interval : Nanos := .ofMillis 20
    let wakes : List (Finding × Nanos) := [({}, .ofMillis 9), ({ vblank := 9 }, .ofMillis 1),
      ({ counters := { frames := 75 } }, .ofMillis 8), ({}, .ofMillis 2), ({}, .ofMillis 9)]
    let times := (start {} interval 7 (.ofSeconds 3 0)).wakeTimes interval wakes
    (∀ wake ∈ wakes, 2 * wake.2 < interval) ∧ times.length = 5 ∧
      times[4]? = some (.ofMillis 3112) ∧
      lag 0 0 (wakes.map Prod.snd) = .ofMillis 12 ∧
      lag 0 0 (wakes.map Prod.snd) ≤ .ofMillis 26 := by
  intro interval wakes times
  have hlates : ∀ wake ∈ wakes, 2 * wake.2 < interval := by decide
  obtain ⟨hlength, hwakes⟩ := wakes_drift {} interval 7 (.ofSeconds 3 0) wakes hlates
  have hfifth : times[4]? = some (.ofMillis 3112) := by decide
  obtain ⟨-, hsum, -⟩ := hwakes 4 _ hfifth
  exact ⟨hlates, hlength (by decide), hfifth, by decide, hsum⟩

/-- Every wake is late by two fifths of an interval. The fifth is off by more than an interval. -/
theorem drifts_five_wakes :
    let interval : Nanos := .ofSeconds 1 0
    let wakes : List (Finding × Nanos) := List.replicate 5 ({}, .ofMillis 400)
    let times := (start {} interval 0 0).wakeTimes interval wakes
    (∀ wake ∈ wakes, 2 * wake.2 < interval) ∧
      times = [.ofMillis 1400, .ofMillis 2400, .ofMillis 3800, .ofMillis 4800, .ofMillis 6200] ∧
      ¬ ∀ n time, times[n]? = some time → time < 0 + (n + 2) * interval := by
  intro interval wakes times
  refine ⟨by decide, by decide, fun hgrid => ?_⟩
  have hfifth : Nanos.ofMillis 6200 < 0 + (4 + 2) * interval := hgrid 4 _ (by decide)
  exact absurd hfifth (by decide)

end AvcPipeline.Pacer
