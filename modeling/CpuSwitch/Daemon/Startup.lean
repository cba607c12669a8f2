import CpuSwitch.Cpufreq.Detection
import CpuSwitch.Daemon.Hysteresis

/-! What the start-up check promises about the switches that follow. -/
namespace CpuSwitch.Daemon
open CLib Config Cpufreq

/-- A sample outside the band takes the daemon out of its initial state. -/
def LeavesUnknown (dir : Directory) (sys : Sysfs) : Prop :=
  ∀ config usage calls, classify config usage ≠ none →
    (hysteresis config dir .steady usage ⟨.unknown, sys, calls⟩).state ≠ .unknown

section
variable {dir : Directory} {detected : Detected} {sys : Sysfs}

theorem leavesUnknown (hne : dir.usablePolicies ≠ [])
    (h : ∀ policy ∈ dir.policies, (dir.range policy).isSome = true) : LeavesUnknown dir sys := by
  intro config usage calls hout
  have hrequest : request config .unknown usage = classify config usage := by
    simp [request, classify]
  cases hc : classify config usage with
  | none => exact (hout hc).elim
  | some direction =>
    change (sampled config dir ⟨.unknown, sys, calls⟩ (some usage, .steady)).state ≠ .unknown
    rw [sampled_of_request (hrequest.trans hc),
      switchTo_state_of_ok ((setAll_steady_ok_iff hne).mpr h)]
    cases direction <;> simp [Direction.state]

/-- After a start-up check that passed, every switch applies to the detected policies exactly
when no policy of the directory is unusable. -/
theorem startup_agreement_iff (dir : Directory) (detected : Detected)
    (h : cpuLinuxDetectFrequencyRange .steady dir = .ok detected)
    (targetKhz lowFrequencyKhz : UInt64) (sys : Sysfs) :
    ((cpuLinuxSetAllPolicyFrequency .steady dir targetKhz lowFrequencyKhz sys).1 = .ok () ∧
      (dir.walk .steady targetKhz lowFrequencyKhz sys).attempted = detected.policyCount ∧
      LeavesUnknown dir sys) ↔
      ∀ policy ∈ dir.policies, (dir.range policy).isSome = true := by
  obtain ⟨hcount, hne⟩ := detected_policyCount (fun _ _ => rfl) h
  rw [hcount, setAll_steady_ok_iff hne, attempted_eq_iff]
  exact ⟨fun hall => hall.1, fun hall => ⟨hall, hall, leavesUnknown hne hall⟩⟩

/-- Two policies, the second one offline: its range cannot be read. -/
def offlineDirectory : Directory where
  entries := [policy0, ⟨"policy1".toList, by decide⟩]
  cpuinfo policy bound := if policy = policy0 then Machine.single.dir.cpuinfo policy bound else none

theorem startup_agreement_single :
    cpuLinuxDetectFrequencyRange .steady Machine.single.dir = .ok ⟨800000, 4000000, 1⟩ ∧
      (cpuLinuxSetAllPolicyFrequency .steady Machine.single.dir 1200000 1200000
        ⟨fun _ => ⟨800000, 4000000⟩, []⟩).1 = .ok () :=
  ⟨by decide +kernel,
    ((startup_agreement_iff Machine.single.dir ⟨800000, 4000000, 1⟩ (by decide +kernel) 1200000
      1200000 ⟨fun _ => ⟨800000, 4000000⟩, []⟩).mpr (by decide +kernel)).1⟩

/-- The daemon starts with one usable policy, and then no switch can ever succeed. -/
theorem startup_agreement_counterexample :
    ¬ ∀ (dir : Directory) (detected : Detected) (targetKhz lowFrequencyKhz : UInt64) (sys : Sysfs),
      cpuLinuxDetectFrequencyRange .steady dir = .ok detected →
        detected.minKhz ≤ targetKhz → targetKhz ≤ detected.maxKhz →
          (cpuLinuxSetAllPolicyFrequency .steady dir targetKhz lowFrequencyKhz sys).1 = .ok () ∧
            (dir.walk .steady targetKhz lowFrequencyKhz sys).attempted = detected.policyCount := by
  intro h
  have hok := (h offlineDirectory ⟨800000, 4000000, 1⟩ 1200000 1200000
    ⟨fun _ => ⟨800000, 4000000⟩, []⟩ (by decide +kernel) (by decide) (by decide)).1
  exact absurd hok (by decide +kernel)

end

end CpuSwitch.Daemon
