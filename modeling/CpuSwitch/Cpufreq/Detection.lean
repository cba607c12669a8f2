import CpuSwitch.Cpufreq.Policy

/-! Detection and application classify the same directory entries. -/
namespace CpuSwitch.Cpufreq
open CLib

/-- The policies whose range can be read and is not inverted. -/
def Directory.usablePolicies (dir : Directory) : List DirName :=
  dir.policies.filter fun policy => (dir.range policy).isSome

/-- The detected range after one more usable policy. -/
def Detected.meet (common : Detected) (range : Range) : Detected where
  minKhz :=
    if common.policyCount = 0 ∨ range.lowest > common.minKhz then range.lowest else common.minKhz
  maxKhz :=
    if common.policyCount = 0 ∨ range.highest < common.maxKhz then range.highest else common.maxKhz
  policyCount := common.policyCount + 1

section
variable {k : Kernel} {dir : Directory} {entry policy : DirName} {common detected : Detected}
  {targetKhz lowFrequencyKhz : UInt64} {sys : Sysfs}

/-- One entry of the detection loop, when the reads work. -/
theorem detectEntry_eq (hr : ∀ policy bound, k.reads policy bound = true) :
    detectEntry k dir common entry =
      if isPolicyName entry.name then ((dir.range entry).map common.meet).getD common
      else common := by
  obtain ⟨cmin, hcmin⟩ := buildPolicyFilePath_isSome entry (.cpuinfo .min)
  obtain ⟨cmax, hcmax⟩ := buildPolicyFilePath_isSome entry (.cpuinfo .max)
  unfold detectEntry
  split
  · simp only [hcmin, hcmax, readU64File_eq, hr, if_true, Directory.range]
    cases dir.read entry .min with
    | none => rfl
    | some lowest =>
      cases dir.read entry .max with
      | none => rfl
      | some highest =>
        by_cases h : lowest ≤ highest
        · simp [h, not_lt.mpr h, Detected.meet]
        · simp [h, not_le.mp h]
  · rfl

/-- The loop counts exactly the usable policies. -/
theorem policyCount_foldl (hr : ∀ policy bound, k.reads policy bound = true)
    (entries : List DirName) :
    (entries.foldl (detectEntry k dir) common).policyCount =
      common.policyCount +
        ((entries.filter fun entry => isPolicyName entry.name).filter
          fun policy => (dir.range policy).isSome).length := by
  induction entries generalizing common with
  | nil => rfl
  | cons entry entries ih =>
    rw [List.foldl_cons, ih, detectEntry_eq hr]
    by_cases hp : isPolicyName entry.name
    · cases hrange : dir.range entry with
      | none => simp [hp, hrange]
      | some range =>
        simp [hp, hrange, Detected.meet]
        omega
    · simp [hp]

/-- What a detection that succeeds has found. -/
theorem detect_ok (h : cpuLinuxDetectFrequencyRange k dir = .ok detected) :
    detected = dir.entries.foldl (detectEntry k dir) ⟨0, UInt64.ofNat (2 ^ 64 - 1), 0⟩ ∧
      detected.policyCount ≠ 0 ∧ detected.minKhz ≤ detected.maxKhz := by
  unfold cpuLinuxDetectFrequencyRange at h
  cases hk : k.opendirError with
  | some reason => simp [hk] at h
  | none =>
    simp only [hk] at h
    split_ifs at h with hbad
    cases h
    obtain ⟨hcount, hordered⟩ := not_or.mp hbad
    exact ⟨rfl, hcount, not_lt.mp hordered⟩

theorem detected_policyCount (hr : ∀ policy bound, k.reads policy bound = true)
    (h : cpuLinuxDetectFrequencyRange k dir = .ok detected) :
    detected.policyCount = dir.usablePolicies.length ∧ dir.usablePolicies ≠ [] := by
  obtain ⟨hfold, hne, -⟩ := detect_ok h
  have hcount : detected.policyCount = dir.usablePolicies.length := by
    rw [hfold, policyCount_foldl hr dir.entries, Nat.zero_add]
    rfl
  refine ⟨hcount, fun hnil => hne ?_⟩
  rw [hcount, hnil, List.length_nil]

/-- On a machine that serves every request a policy write works exactly on usable policies. -/
theorem setOne_steady_ok :
    (setOnePolicyFrequency .steady dir policy targetKhz lowFrequencyKhz sys).1 =
      (dir.range policy).isSome := by
  have hreads : (Kernel.steady.reads policy .min && Kernel.steady.reads policy .max) = true := rfl
  rw [setOnePolicyFrequency_eq, hreads, if_pos rfl]
  cases dir.range policy with
  | none => rfl
  | some range => exact (pinBounds_ofPattern fun _ _ => true).1

/-- The call reports success exactly when no policy is unusable. -/
theorem setAll_steady_ok_iff (hne : dir.usablePolicies ≠ []) :
    (cpuLinuxSetAllPolicyFrequency .steady dir targetKhz lowFrequencyKhz sys).1 = .ok () ↔
      ∀ policy ∈ dir.policies, (dir.range policy).isSome = true := by
  have hp : dir.policies ≠ [] := by
    intro hnil
    simp [Directory.usablePolicies, hnil] at hne
  rw [setAll_ok_iff (fun policy => (dir.range policy).isSome) rfl fun _ _ _ => setOne_steady_ok]
  exact and_iff_right hp

/-- The call attempts as many policies as were detected exactly when no policy is unusable. -/
theorem attempted_eq_iff :
    (dir.walk .steady targetKhz lowFrequencyKhz sys).attempted = dir.usablePolicies.length ↔
      ∀ policy ∈ dir.policies, (dir.range policy).isSome = true := by
  rw [Directory.walk, attempted_foldl, Nat.zero_add, Directory.usablePolicies, eq_comm,
    List.length_filter_eq_length_iff]

end

end CpuSwitch.Cpufreq
