import AvcPipeline.Pacing.Pacer

/-!
# The shared counters in exact numbers

Packing loses nothing of an interval, and saturating addition is exact as long as the sum is a
word. `sample_eq` cuts a wake of the pacer at its steps, and `counters_tick` takes them together.
-/

namespace AvcPipeline

namespace Interval

theorem toNat_pack (i : Interval) :
    i.pack.toNat = i.decoded.toNat * 0x100000000 + i.vblanks.toNat := by
  have hv : i.vblanks.toNat < 0x100000000 := i.vblanks.toNat_lt
  have hshift : (i.decoded.toUInt64 <<< 32).toNat = i.decoded.toNat <<< 32 := by
    have hd : i.decoded.toNat < 0x100000000 := i.decoded.toNat_lt
    have hlt : i.decoded.toNat <<< 32 < 2 ^ 64 := by
      rw [Nat.shiftLeft_eq]
      omega
    rw [UInt64.toNat_shiftLeft, UInt32.toNat_toUInt64]
    exact Nat.mod_eq_of_lt hlt
  rw [pack, UInt64.toNat_or, hshift, UInt32.toNat_toUInt64, ← Nat.shiftLeft_add_eq_or_of_lt hv,
    Nat.shiftLeft_eq]

theorem unpack_pack (i : Interval) : unpack i.pack = i := by
  have hv : i.vblanks.toNat < 0x100000000 := i.vblanks.toNat_lt
  have hd : i.decoded.toNat < 0x100000000 := i.decoded.toNat_lt
  have hdecoded : (i.pack >>> 32).toUInt32 = i.decoded := by
    apply UInt32.toNat_inj.mp
    rw [UInt64.toNat_toUInt32, UInt64.toNat_shiftRight, toNat_pack, Nat.shiftRight_eq_div_pow]
    change (_ / 2 ^ 32) % 2 ^ 32 = _
    omega
  have hvblanks : i.pack.toUInt32 = i.vblanks := by
    apply UInt32.toNat_inj.mp
    rw [UInt64.toNat_toUInt32, toNat_pack]
    omega
  rw [unpack, hdecoded, hvblanks]

end Interval

namespace Counters

theorem toNat_frames_recordPresented {c : Counters} {n : Nat} (h : c.frames.toNat = n)
    (hn : n + 1 < UInt32.size) : (CounterOp.step .recordPresented c).2.frames.toNat = n + 1 := by
  change (c.frames + 1).toNat = n + 1
  rw [UInt32.toNat_add, h]
  exact Nat.mod_eq_of_lt hn

theorem toNat_quota_consumeDrop {c : Counters} (h : c.quota ≠ 0) :
    (c.quota - 1).toNat + 1 = c.quota.toNat := by
  have hpos : 1 ≤ c.quota.toNat :=
    Nat.one_le_iff_ne_zero.mpr fun hzero => h (UInt32.toNat_inj.mp hzero)
  have hle : 1 ≤ c.quota := UInt32.le_iff_toNat_le.mpr hpos
  rw [UInt32.toNat_sub_of_le _ _ hle]
  exact Nat.sub_add_cancel hpos

theorem step_consumeDrop (c : Counters) :
    (c.quota = 0 ∧ CounterOp.step .consumeDrop c = (false, c)) ∨
      (c.quota ≠ 0 ∧
        CounterOp.step .consumeDrop c = (true, { c with quota := c.quota - 1 })) := by
  by_cases hquota : c.quota = 0
  · exact .inl ⟨hquota, if_pos hquota⟩
  · exact .inr ⟨hquota, if_neg hquota⟩

theorem interval_publish (c : Counters) (i : Interval) :
    (CounterOp.step (.publish i) c).2.interval = i :=
  i.unpack_pack

end Counters

namespace Pacer

abbrev CounterProgram := Program CounterOp CounterOp.Reply Unit

/-- What is left of a wake once the excess is dealt with. -/
def publishing (decoded vblanks : UInt32) : CounterProgram :=
  .call (.publish ⟨decoded, vblanks⟩) .done

def adding (targetFps decoded vblanks : UInt32) : CounterProgram :=
  .call (.addQuota (decoded - targetFps)) fun _ => publishing decoded vblanks

def judging (p : Pacer) (decoded vblanks : UInt32) : CounterProgram :=
  .call .isActive fun (active : Bool) =>
    if active && p.enabled && p.targetFps < decoded then adding p.targetFps decoded vblanks
    else publishing decoded vblanks

theorem sample_eq (p : Pacer) (vblank : UInt64) :
    p.sample vblank =
      .call .takeFrames fun (decoded : UInt32) =>
        p.judging decoded (vblanksBetween p.lastVblank vblank) :=
  rfl

def quotaAfter (p : Pacer) (c : Counters) : UInt32 :=
  if c.active && p.enabled && p.targetFps < c.frames then
    Word32.satAdd c.quota (c.frames - p.targetFps)
  else c.quota

/-- A wake with no step of the presenting side in between. -/
theorem counters_tick (p : Pacer) (c : Counters) (vblank : UInt64) (now : Nanos) :
    (p.tick c vblank now).2.2 = { c with
      frames := 0
      quota := p.quotaAfter c
      published := Interval.pack ⟨c.frames, vblanksBetween p.lastVblank vblank⟩ } := by
  let vblanks := vblanksBetween p.lastVblank vblank
  have hrun : (p.tick c vblank now).2.2 =
      (Program.run Counters.interpreter
        (if c.active && p.enabled && p.targetFps < c.frames then
          adding p.targetFps c.frames vblanks
        else publishing c.frames vblanks) { c with frames := 0 }).2 := rfl
  rw [hrun, quotaAfter]
  by_cases hover : (c.active && p.enabled && decide (p.targetFps < c.frames)) = true
  · rw [if_pos hover, if_pos hover]
    rfl
  · rw [if_neg hover, if_neg hover]
    rfl

theorem quotaAfter_of_le (p : Pacer) (c : Counters) (h : c.frames ≤ p.targetFps) :
    p.quotaAfter c = c.quota := by
  have hunder : ¬ (c.active && p.enabled && decide (p.targetFps < c.frames)) = true := by
    rw [Bool.and_eq_true, decide_eq_true_eq]
    exact fun hover => absurd hover.2 (UInt32.not_lt.mpr h)
  exact if_neg hunder

theorem toNat_quotaAfter {p : Pacer} {c : Counters} (hactive : c.active = true)
    (henabled : p.enabled = true) :
    (p.quotaAfter c).toNat =
      min (c.quota.toNat + (c.frames.toNat - p.targetFps.toNat)) 0xFFFFFFFF := by
  have hquota : c.quota.toNat < 0x100000000 := c.quota.toNat_lt
  by_cases hover : p.targetFps < c.frames
  · have hsum : p.quotaAfter c = Word32.satAdd c.quota (c.frames - p.targetFps) := by
      rw [quotaAfter, hactive, henabled, decide_eq_true hover]
      rfl
    rw [hsum, Word32.toNat_satAdd, UInt32.toNat_sub_of_le _ _ (UInt32.le_of_lt hover)]
  · have hle : c.frames ≤ p.targetFps := UInt32.not_lt.mp hover
    rw [quotaAfter_of_le p c hle, Nat.sub_eq_zero_of_le (UInt32.le_iff_toNat_le.mp hle)]
    omega

end Pacer
end AvcPipeline
