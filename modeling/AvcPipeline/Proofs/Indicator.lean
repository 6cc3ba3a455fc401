import AvcPipeline.Indicator
import Mathlib.Data.List.DropRight
import Mathlib.Data.List.Induction

/-!
# The wave of the indicator

An active indicator stands at some frame of one wave: a first frame that is not seen, and then a
ramp that falls from 252 to 4 and rises again, in periods of 126 frames. Which frame it is depends
only on how many were drawn since the last reset. Switching on an indicator that is on changes
nothing, and an indicator that is off is as good as new.
-/

namespace AvcPipeline.Indicator

/-! ## The wave -/

/-- The alpha of frame `j` of a period. -/
def ramp (j : Nat) : Nat := if j < 63 then 252 - 4 * j else 4 * (j - 62)

/-- The alpha of frame `k`, counted from the last reset. -/
def wave : Nat → Nat
  | 0 => 0
  | k + 1 => ramp (k % 126)

theorem mod_period_lt (k : Nat) : k % 126 < 126 := Nat.mod_lt k (by decide)

theorem ramp_falling {j : Nat} (h : j < 63) : ramp j = 252 - 4 * j := if_pos h

theorem ramp_rising {j : Nat} (h : 63 ≤ j) : ramp j = 4 * (j - 62) := if_neg (Nat.not_lt.mpr h)

theorem ramp_bounds {j : Nat} (h : j < 126) : 4 ≤ ramp j ∧ ramp j ≤ 252 := by
  unfold ramp
  split <;> omega

theorem four_le_wave {k : Nat} (h : 0 < k) : 4 ≤ wave k := by
  obtain ⟨j, rfl⟩ := Nat.exists_eq_succ_of_ne_zero h.ne'
  exact (ramp_bounds (mod_period_lt j)).1

theorem wave_le (k : Nat) : wave k ≤ 252 := by
  cases k with
  | zero => exact Nat.zero_le _
  | succ j => exact (ramp_bounds (mod_period_lt j)).2

theorem wave_succ_near {k : Nat} (h : 0 < k) :
    wave (k + 1) ≤ wave k + 4 ∧ wave k ≤ wave (k + 1) + 4 := by
  obtain ⟨j, rfl⟩ := Nat.exists_eq_succ_of_ne_zero h.ne'
  have hlt := mod_period_lt j
  simp only [wave]
  by_cases hlast : j % 126 = 125
  · have hnext : (j + 1) % 126 = 0 := by omega
    rw [hlast, hnext]
    decide
  · have hnext : (j + 1) % 126 = j % 126 + 1 := by omega
    rw [hnext]
    unfold ramp
    split <;> split <;> omega

/-! ## One frame -/

def atPhase (j : Nat) : Indicator where
  active := true
  alpha := .ofNat (ramp j)
  rising := decide (63 ≤ j)

/-- An active indicator that is about to draw frame `k` since the last reset. -/
def atFrame : Nat → Indicator
  | 0 => { active := true }
  | k + 1 => atPhase (k % 126)

variable {i : Indicator}

theorem advance_of_inactive (h : i.active = false) : i.advance = (none, i) := by
  rw [advance, if_neg (by rw [h]; exact Bool.false_ne_true)]

theorem advance_of_ne_zero (h : i.active = true) (hstep : stepAlpha i.rising i.alpha ≠ 0) :
    i.advance = (some i.alpha, { i with alpha := stepAlpha i.rising i.alpha }) := by
  rw [advance, if_pos h]
  exact if_neg hstep

theorem toNat_ofNat_visible {n : Nat} (h : n ≤ 252) : (UInt8.ofNat n).toNat = n :=
  UInt8.toNat_ofNat_of_lt' (Nat.lt_of_le_of_lt h (by decide))

theorem ofNat_ne_zero {n : Nat} (hlow : 4 ≤ n) (hhigh : n ≤ 252) : UInt8.ofNat n ≠ 0 := by
  intro hzero
  have hnat : (UInt8.ofNat n).toNat = 0 := congrArg UInt8.toNat hzero
  rw [toNat_ofNat_visible hhigh] at hnat
  omega

theorem stepAlpha_ramp {j : Nat} (h : j ≠ 62) (hlast : j < 125) :
    stepAlpha (decide (63 ≤ j)) (.ofNat (ramp j)) = .ofNat (ramp (j + 1)) := by
  by_cases hrising : 63 ≤ j
  · have hramp : ramp (j + 1) = ramp j + 4 := by
      rw [ramp_rising hrising, ramp_rising (by omega)]
      omega
    rw [decide_eq_true hrising, hramp, UInt8.ofNat_add]
    rfl
  · have hramp : ramp j = ramp (j + 1) + 4 := by
      rw [ramp_falling (by omega), ramp_falling (by omega)]
      omega
    rw [decide_eq_false hrising, hramp, UInt8.ofNat_add]
    exact UInt8.add_sub_cancel _ 4

/-- At its two ends the ramp turns around, and the zero there is passed over. -/
theorem advance_atPhase {j : Nat} (h : j < 126) :
    (atPhase j).advance = (some (.ofNat (ramp j)), atPhase ((j + 1) % 126)) := by
  by_cases hbottom : j = 62
  · subst hbottom
    decide
  by_cases htop : j = 125
  · subst htop
    decide
  have hnext : (j + 1) % 126 = j + 1 := by omega
  have hstep : stepAlpha (atPhase j).rising (atPhase j).alpha = .ofNat (ramp (j + 1)) :=
    stepAlpha_ramp hbottom (by omega)
  have hseen := ramp_bounds (j := j + 1) (by omega)
  have hrising : decide (63 ≤ j + 1) = decide (63 ≤ j) := by
    rw [decide_eq_decide]
    omega
  have hne : stepAlpha (atPhase j).rising (atPhase j).alpha ≠ 0 :=
    hstep ▸ ofNat_ne_zero hseen.1 hseen.2
  rw [advance_of_ne_zero rfl hne, hstep, hnext]
  simp only [atPhase, hrising]

theorem advance_atFrame (k : Nat) :
    (atFrame k).advance = (some (.ofNat (wave k)), atFrame (k + 1)) := by
  cases k with
  | zero => decide
  | succ j =>
    have hnext : (j % 126 + 1) % 126 = (j + 1) % 126 := by omega
    simp only [atFrame, wave, advance_atPhase (mod_period_lt j), hnext]

theorem active_atFrame (k : Nat) : (atFrame k).active = true := by
  cases k <;> rfl

theorem activate_atFrame (k : Nat) : (atFrame k).activate = atFrame k := by
  cases k <;> rfl

/-! ## Any operations -/

inductive Operation where
  | activate
  | reset
  | advance
  deriving DecidableEq, Repr

def operate (i : Indicator) : Operation → Option UInt8 × Indicator
  | .activate => (none, i.activate)
  | .reset => (none, {})
  | .advance => i.advance

def after (ops : List Operation) : Indicator :=
  ops.foldl (fun i op => (i.operate op).2) {}

/-- The operations behind the last reset; all of them if there was none. -/
def sinceReset (ops : List Operation) : List Operation :=
  ops.rtakeWhile (· ≠ .reset)

/-- The number of frames that were drawn since the last reset: those behind the first activation. -/
def framesDrawn (ops : List Operation) : Nat :=
  ((sinceReset ops).dropWhile (· ≠ .activate)).count .advance

theorem after_append (ops more : List Operation) :
    after (ops ++ more) = more.foldl (fun i op => (i.operate op).2) (after ops) :=
  List.foldl_append

theorem foldl_activate {more : List Operation} (h : ∀ op ∈ more, op = .activate) (k : Nat) :
    more.foldl (fun i op => (i.operate op).2) (atFrame k) = atFrame k := by
  induction more with
  | nil => rfl
  | cons op more ih =>
    rw [List.forall_mem_cons] at h
    rw [List.foldl_cons, h.1, operate, activate_atFrame]
    exact ih h.2

theorem after_advance {ops more : List Operation} {k : Nat} (h : after ops = atFrame k)
    (hmore : ∀ op ∈ more, op = .activate) : after (ops ++ .advance :: more) = atFrame (k + 1) := by
  rw [after_append, List.foldl_cons, h, operate, advance_atFrame]
  exact foldl_activate hmore (k + 1)

theorem sinceReset_reset (ops : List Operation) : sinceReset (ops ++ [.reset]) = [] :=
  List.rtakeWhile_concat_neg _ _ _ (by decide)

section

variable {ops : List Operation} {op : Operation}

theorem sinceReset_of_ne (h : op ≠ .reset) : sinceReset (ops ++ [op]) = sinceReset ops ++ [op] :=
  List.rtakeWhile_concat_pos _ _ _ (decide_eq_true h)

theorem dropWhile_of_off (h : .activate ∉ sinceReset ops) :
    (sinceReset ops).dropWhile (· ≠ .activate) = [] := by
  rw [List.dropWhile_eq_nil_iff]
  intro op hop
  exact decide_eq_true fun heq => h (heq ▸ hop)

theorem framesDrawn_activate (h : .activate ∉ sinceReset ops) :
    framesDrawn (ops ++ [.activate]) = 0 := by
  rw [framesDrawn, sinceReset_of_ne (by decide), List.dropWhile_append, dropWhile_of_off h]
  rfl

theorem framesDrawn_of_on (h : .activate ∈ sinceReset ops) (hop : op ≠ .reset) :
    framesDrawn (ops ++ [op]) = framesDrawn ops + [op].count .advance := by
  have hne : (sinceReset ops).dropWhile (· ≠ .activate) ≠ [] := by
    intro hnil
    have hother := List.dropWhile_eq_nil_iff.mp hnil _ h
    exact of_decide_eq_true hother rfl
  rw [framesDrawn, sinceReset_of_ne hop, List.dropWhile_append, List.isEmpty_eq_false_iff.mpr hne,
    if_neg Bool.false_ne_true, List.count_append]
  rfl

end

/-- Where an indicator stands depends only on the operations since the last reset. -/
theorem after_eq (ops : List Operation) :
    after ops = if .activate ∈ sinceReset ops then atFrame (framesDrawn ops) else {} := by
  induction ops using List.reverseRecOn with
  | nil => rfl
  | append_singleton ops op ih =>
    rw [after_append, List.foldl_cons, List.foldl_nil]
    cases op with
    | reset =>
      rw [sinceReset_reset]
      rfl
    | activate =>
      have hon : .activate ∈ sinceReset (ops ++ [.activate]) := by
        rw [sinceReset_of_ne (by decide)]
        exact List.mem_append_right _ List.mem_cons_self
      rw [if_pos hon, ih]
      by_cases h : .activate ∈ sinceReset ops
      · rw [if_pos h, framesDrawn_of_on h (by decide)]
        exact activate_atFrame _
      · rw [if_neg h, framesDrawn_activate h]
        rfl
    | advance =>
      have hsame : .activate ∈ sinceReset (ops ++ [.advance]) ↔ .activate ∈ sinceReset ops := by
        rw [sinceReset_of_ne (by decide), List.mem_append, List.mem_singleton]
        exact or_iff_left (by decide)
      rw [ih]
      by_cases h : .activate ∈ sinceReset ops
      · rw [if_pos h, if_pos (hsame.mpr h), framesDrawn_of_on h (by decide)]
        exact congrArg Prod.snd (advance_atFrame _)
      · rw [if_neg h, if_neg (mt hsame.mp h)]
        rfl

/-- An indicator that is off draws nothing and stays as it is. One that is on draws the frame of the
wave that its count of frames says, however often it is switched on in between; so after the first
frame it is always seen, and the next frame is one step away at most. -/
theorem advance_wave (ops : List Operation) :
    let i := after ops
    let k := framesDrawn ops
    (i.active = true ↔ .activate ∈ sinceReset ops) ∧
    (i.active = false → i.advance = (none, i)) ∧
    (i.active = true → i.activate = i ∧
      ∃ alpha, i.advance.1 = some alpha ∧ alpha.toNat = wave k ∧
        (0 < k → alpha ≠ 0 ∧ ∀ more, (∀ op ∈ more, op = .activate) →
          ∃ next, (after (ops ++ .advance :: more)).advance.1 = some next ∧
            next.toNat ≤ alpha.toNat + 4 ∧ alpha.toNat ≤ next.toNat + 4)) := by
  intro i k
  by_cases hon : .activate ∈ sinceReset ops
  · have hi : i = atFrame k := (after_eq ops).trans (if_pos hon)
    have hactive : i.active = true := hi ▸ active_atFrame k
    refine ⟨iff_of_true hactive hon, ?_, ?_⟩
    · intro hoff
      exact absurd (hactive.symm.trans hoff) (by decide)
    intro _
    refine ⟨hi ▸ activate_atFrame k, .ofNat (wave k), ?_, toNat_ofNat_visible (wave_le k), ?_⟩
    · rw [hi, advance_atFrame]
    intro hk
    refine ⟨ofNat_ne_zero (four_le_wave hk) (wave_le k), ?_⟩
    intro more hmore
    refine ⟨.ofNat (wave (k + 1)), ?_, ?_⟩
    · rw [after_advance hi hmore, advance_atFrame]
    · rw [toNat_ofNat_visible (wave_le k), toNat_ofNat_visible (wave_le (k + 1))]
      exact wave_succ_near hk
  · have hi : i = {} := (after_eq ops).trans (if_neg hon)
    have hinactive : i.active = false := by rw [hi]
    refine ⟨iff_of_false ?_ hon, fun _ => advance_of_inactive hinactive, ?_⟩
    · rw [hinactive]
      exact Bool.false_ne_true
    · intro hactive
      exact absurd (hinactive.symm.trans hactive) (by decide)

/-- At the lower turn the least alpha is drawn twice. -/
example : (after (.activate :: List.replicate 64 .advance)).advance.1 = some 4 ∧
    (after (.activate :: List.replicate 63 .advance)).advance.1 = some 4 := by
  decide +kernel

end AvcPipeline.Indicator
