import CpuSwitch.Cpufreq.Policy

/-! From which limits the fixed write order reaches the target. -/
namespace CpuSwitch.Cpufreq
open CLib

/-- A kernel that rejects exactly the stores that would cross the other bound. -/
def Kernel.strict : Kernel where
  opendirError := none
  reads _ _ := true
  accepts _ bound limits value :=
    decide ((limits.set bound value).min ≤ (limits.set bound value).max)

/-- The bound that is written first can move to the target at once. -/
def FirstWriteFits (limits : Limits) (range : Range) (targetKhz lowFrequencyKhz : UInt64) : Prop :=
  if targetKhz ≤ lowFrequencyKhz then range.clamp targetKhz ≤ limits.max
  else limits.min ≤ range.clamp targetKhz

section
variable {dir : Directory} {policy : DirName} {range : Range} {first : Bound}
  {targetKhz lowFrequencyKhz frequency value : UInt64} {sys : Sysfs} {bound : Bound}

/-- Both bounds end at the frequency exactly when the first store does not cross. -/
theorem pinBounds_strict_iff :
    ((pinBounds .strict policy first frequency sys).1 = true ∧
      (pinBounds .strict policy first frequency sys).2.scaling policy = ⟨frequency, frequency⟩) ↔
      ((sys.scaling policy).set first frequency).min ≤
        ((sys.scaling policy).set first frequency).max := by
  unfold pinBounds
  by_cases hfit : ((sys.scaling policy).set first frequency).min ≤
      ((sys.scaling policy).set first frequency).max
  · refine iff_of_true ?_ hfit
    -- The second store finds the first bound at the frequency and joins it.
    simp [writeU64File, Kernel.strict, hfit]
  · refine iff_of_false ?_ hfit
    simp [writeU64File, Kernel.strict, hfit]

theorem firstWriteFits_iff {limits : Limits} :
    FirstWriteFits limits range targetKhz lowFrequencyKhz ↔
      (limits.set (firstBound targetKhz lowFrequencyKhz) (range.clamp targetKhz)).min ≤
        (limits.set (firstBound targetKhz lowFrequencyKhz) (range.clamp targetKhz)).max := by
  unfold FirstWriteFits firstBound
  split_ifs <;> rfl

/-- Whatever the limits in force, a policy write on such a kernel pins the clamped target exactly
when its first store fits. -/
theorem prior_limits_iff (dir : Directory) (policy : DirName) (range : Range)
    (hrange : dir.range policy = some range) (targetKhz lowFrequencyKhz : UInt64) (sys : Sysfs) :
    ((setOnePolicyFrequency .strict dir policy targetKhz lowFrequencyKhz sys).1 = true ∧
      (setOnePolicyFrequency .strict dir policy targetKhz lowFrequencyKhz sys).2.scaling policy =
        ⟨range.clamp targetKhz, range.clamp targetKhz⟩) ↔
      FirstWriteFits (sys.scaling policy) range targetKhz lowFrequencyKhz := by
  have hreads : (Kernel.strict.reads policy .min && Kernel.strict.reads policy .max) = true := rfl
  rw [setOnePolicyFrequency_eq, hreads, if_pos rfl, hrange, firstWriteFits_iff]
  exact pinBounds_strict_iff

end

theorem range_single : Machine.single.dir.range policy0 = some ⟨800000, 4000000, by decide⟩ :=
  Machine.single.usable policy0 (by decide)

/-- Up to the high clock of the default configuration. -/
theorem prior_limits_single :
    (setOnePolicyFrequency .strict Machine.single.dir policy0 3500000 1200000
      ⟨fun _ => ⟨1200000, 1200000⟩, []⟩).2.scaling policy0 = ⟨3500000, 3500000⟩ :=
  ((prior_limits_iff Machine.single.dir policy0 ⟨800000, 4000000, by decide⟩ range_single 3500000
    1200000 ⟨fun _ => ⟨1200000, 1200000⟩, []⟩).mpr (by
      rw [FirstWriteFits, if_neg (by decide)]
      decide)).2.trans (by decide)

/-- A daemon restarted with a higher low clock cannot lift the minimum past the old maximum. -/
theorem prior_limits_counterexample :
    ¬ ∀ (dir : Directory) (policy : DirName) (range : Range), dir.range policy = some range →
      ∀ (targetKhz lowFrequencyKhz : UInt64) (sys : Sysfs),
        range.lowest ≤ (sys.scaling policy).min →
        (sys.scaling policy).min ≤ (sys.scaling policy).max →
        (sys.scaling policy).max ≤ range.highest →
        (setOnePolicyFrequency .strict dir policy targetKhz lowFrequencyKhz sys).1 = true ∧
          (setOnePolicyFrequency .strict dir policy targetKhz lowFrequencyKhz
            sys).2.scaling policy = ⟨range.clamp targetKhz, range.clamp targetKhz⟩ := by
  intro h
  have hok := (h Machine.single.dir policy0 ⟨800000, 4000000, by decide⟩ range_single 2000000
    2000000 ⟨fun _ => ⟨1200000, 1200000⟩, []⟩ (by decide) (by decide) (by decide)).1
  exact absurd hok (by decide +kernel)

end CpuSwitch.Cpufreq
