import CpuSwitch.Cpufreq.Order

/-! A walk over all policies on a kernel that rejects crossing stores. -/
namespace CpuSwitch.Cpufreq
open CLib

/-- The limits of a policy let a switch to the target through. -/
def Machine.Fits (m : Machine) (targetKhz lowFrequencyKhz : UInt64) (policy : DirName)
    (limits : Limits) : Prop :=
  FirstWriteFits limits (m.range policy) targetKhz lowFrequencyKhz

/-- Both bounds at the clamped target. -/
def Machine.pinned (m : Machine) (targetKhz : UInt64) (policy : DirName) : Limits :=
  ⟨(m.range policy).clamp targetKhz, (m.range policy).clamp targetKhz⟩

instance {m : Machine} {targetKhz lowFrequencyKhz : UInt64} {policy : DirName} {limits : Limits} :
    Decidable (m.Fits targetKhz lowFrequencyKhz policy limits) :=
  inferInstanceAs (Decidable (if targetKhz ≤ lowFrequencyKhz then _ else _))

section
variable {m : Machine} {policy other : DirName} {first : Bound} {sys : Sysfs}
  {targetKhz lowFrequencyKhz frequency : UInt64} {policies : List DirName} {walk : Walk}

theorem pinBounds_strict_ok_iff : (pinBounds .strict policy first frequency sys).1 = true ↔
    ((sys.scaling policy).set first frequency).min ≤
      ((sys.scaling policy).set first frequency).max := by
  rw [← pinBounds_strict_iff]
  exact ⟨fun h => ⟨h, pinBounds_scaling_of_ok h⟩, And.left⟩

/-- A rejected first store is the end of it: half-finished writes do not happen here. -/
theorem pinBounds_strict_scaling :
    (pinBounds .strict policy first frequency sys).2.scaling =
      if ((sys.scaling policy).set first frequency).min ≤
          ((sys.scaling policy).set first frequency).max then
        Function.update sys.scaling policy ⟨frequency, frequency⟩
      else sys.scaling := by
  split_ifs with h
  · funext other
    by_cases ho : other = policy
    · rw [ho, Function.update_self, pinBounds_scaling_of_ok (pinBounds_strict_ok_iff.mpr h)]
    · rw [pinBounds_scaling_of_ne ho, Function.update_of_ne ho]
  · unfold pinBounds
    simp [writeU64File, Kernel.strict, h]

theorem setOne_strict_ok_iff (hp : policy ∈ m.dir.policies) :
    (setOnePolicyFrequency .strict m.dir policy targetKhz lowFrequencyKhz sys).1 = true ↔
      m.Fits targetKhz lowFrequencyKhz policy (sys.scaling policy) := by
  rw [m.setOne_eq (fun _ _ => rfl) hp, pinBounds_strict_ok_iff, Machine.Fits, firstWriteFits_iff]

theorem setOne_strict_scaling (hp : policy ∈ m.dir.policies) :
    (setOnePolicyFrequency .strict m.dir policy targetKhz lowFrequencyKhz sys).2.scaling =
      if m.Fits targetKhz lowFrequencyKhz policy (sys.scaling policy) then
        Function.update sys.scaling policy (m.pinned targetKhz policy)
      else sys.scaling := by
  rw [m.setOne_eq (fun _ _ => rfl) hp, pinBounds_strict_scaling]
  simp only [Machine.Fits, firstWriteFits_iff, Machine.pinned]

/-- A pinned policy can be pinned to the same target again. -/
theorem fits_pinned_self : m.Fits targetKhz lowFrequencyKhz policy (m.pinned targetKhz policy) := by
  unfold Machine.Fits FirstWriteFits Machine.pinned
  split_ifs <;> exact le_rfl

/-- Writing one policy does not change which policies a switch to the same target fits. -/
theorem fits_setOne_strict (hp : policy ∈ m.dir.policies) :
    m.Fits targetKhz lowFrequencyKhz other
        ((setOnePolicyFrequency .strict m.dir policy targetKhz lowFrequencyKhz
          sys).2.scaling other) ↔
      m.Fits targetKhz lowFrequencyKhz other (sys.scaling other) := by
  rw [setOne_strict_scaling hp]
  split_ifs with hfits
  · by_cases ho : other = policy
    · rw [ho, Function.update_self]
      exact iff_of_true fits_pinned_self hfits
    · rw [Function.update_of_ne ho]
  · rfl

/-- The walk pins exactly the policies that the switch fits, and counts them. -/
theorem strict_foldl (hsub : ∀ p ∈ policies, p ∈ m.dir.policies) :
    let after := policies.foldl (visit .strict m.dir targetKhz lowFrequencyKhz) walk
    (∀ policy, after.sysfs.scaling policy =
      if policy ∈ policies ∧
          m.Fits targetKhz lowFrequencyKhz policy (walk.sysfs.scaling policy) then
        m.pinned targetKhz policy
      else walk.sysfs.scaling policy) ∧
    after.succeeded = walk.succeeded + policies.countP
      fun p => decide (m.Fits targetKhz lowFrequencyKhz p (walk.sysfs.scaling p)) := by
  induction policies generalizing walk with
  | nil => simp
  | cons p policies ih =>
    have hp := hsub p List.mem_cons_self
    obtain ⟨hscaling, hsucceeded⟩ := @ih (visit .strict m.dir targetKhz lowFrequencyKhz walk p)
      fun q hq => hsub q (List.mem_cons_of_mem _ hq)
    have hvisit : (visit .strict m.dir targetKhz lowFrequencyKhz walk p).sysfs =
        (setOnePolicyFrequency .strict m.dir p targetKhz lowFrequencyKhz walk.sysfs).2 := rfl
    rw [hvisit] at hscaling hsucceeded
    simp only [fits_setOne_strict hp] at hscaling hsucceeded
    rw [List.foldl_cons]
    refine ⟨fun policy => ?_, ?_⟩
    · rw [hscaling policy, setOne_strict_scaling hp]
      by_cases hpolicy : policy = p
      · subst hpolicy
        split_ifs <;> simp_all
      · have hother : Function.update walk.sysfs.scaling p (m.pinned targetKhz p) policy =
            walk.sysfs.scaling policy := Function.update_of_ne hpolicy ..
        split_ifs <;> simp_all
    · have hone : (visit .strict m.dir targetKhz lowFrequencyKhz walk p).succeeded =
          if m.Fits targetKhz lowFrequencyKhz p (walk.sysfs.scaling p) then walk.succeeded + 1
          else walk.succeeded := by
        simp only [visit, setOne_strict_ok_iff hp]
      rw [hsucceeded, hone, List.countP_cons]
      split_ifs <;> simp_all
      omega

theorem setAll_strict_ok_iff :
    (cpuLinuxSetAllPolicyFrequency .strict m.dir targetKhz lowFrequencyKhz sys).1 = .ok () ↔
      m.dir.policies ≠ [] ∧ ∀ policy ∈ m.dir.policies,
        m.Fits targetKhz lowFrequencyKhz policy (sys.scaling policy) := by
  rw [setAll_ok rfl, Directory.walk, attempted_foldl, (strict_foldl fun _ hp => hp).2]
  simp only [Nat.zero_add, List.countP_eq_length, decide_eq_true_eq, ne_eq,
    List.length_eq_zero_iff]

theorem setAll_strict_scaling :
    (cpuLinuxSetAllPolicyFrequency .strict m.dir targetKhz lowFrequencyKhz
        sys).2.scaling policy =
      if policy ∈ m.dir.policies ∧
          m.Fits targetKhz lowFrequencyKhz policy (sys.scaling policy) then
        m.pinned targetKhz policy
      else sys.scaling policy := by
  rw [setAll_sysfs rfl, Directory.walk]
  exact (strict_foldl fun _ hp => hp).1 policy

end

end CpuSwitch.Cpufreq
