import CpuSwitch.Gui.Normalize
import CpuSwitch.Daemon.Model

/-! The clocks on the frequency page and the clocks that the daemon pins. -/
namespace CpuSwitch.Gui
open CLib Config Cpufreq Daemon

/-- Whenever a policy write for one of the daemon's two targets succeeds, the policy is pinned to
the clock shown for this target. -/
def ShowsApplied (dir : Directory) (policy : DirName) (config shown : CpuConfig) : Prop :=
  ∀ direction k sys,
    (setOnePolicyFrequency k dir policy (Direction.target config direction)
      config.lowFrequencyKhz sys).1 = true →
    (setOnePolicyFrequency k dir policy (Direction.target config direction)
      config.lowFrequencyKhz sys).2.scaling policy =
        ⟨Direction.target shown direction, Direction.target shown direction⟩

section
variable {dir : Directory} {policy : DirName} {range : Range}
  {config shown : CpuConfig} {state : FrequencyState} {reportSuccess : Bool} {file : ConfigFile}

/-- What the page shows on a machine with a single policy. -/
theorem refresh_config_single (hpolicies : dir.policies = [policy])
    (hrange : dir.range policy = some range) :
    (refreshHardwareDetection .steady dir reportSuccess state).config =
      adaptClocks range state.config := by
  rw [refreshHardwareDetection, detectFrequencyRangeInto, detect_single hpolicies hrange]
  dsimp only
  rw [normalize_eq rfl range.ordered]
  split_ifs <;> rfl

/-- Clocks that are in order are adapted one by one. -/
theorem adaptClocks_of_ordered (h : config.lowFrequencyKhz ≤ config.highFrequencyKhz) :
    (adaptClocks range config).lowFrequencyKhz =
        range.orElse config.lowFrequencyKhz range.lowest ∧
      (adaptClocks range config).highFrequencyKhz =
        range.orElse config.highFrequencyKhz range.highest := by
  have hlow : range.orElse config.lowFrequencyKhz range.lowest ∈ range := Range.orElse_ends_mem.1
  have hhigh : range.orElse config.highFrequencyKhz range.highest ∈ range :=
    Range.orElse_ends_mem.2
  -- The third fix-up never finds the clocks crossed.
  have hle : range.orElse config.lowFrequencyKhz range.lowest ≤
      range.orElse config.highFrequencyKhz range.highest := by
    rcases range.position config.lowFrequencyKhz with hlo | hin | hhi
    · rw [Range.orElse_of_lt hlo]
      exact hhigh.1
    · rcases range.position config.highFrequencyKhz with hlo' | hin' | hhi'
      · exact (not_le.mpr hlo' (hin.1.trans h)).elim
      · rwa [Range.orElse_of_mem hin, Range.orElse_of_mem hin']
      · rw [Range.orElse_of_gt hhi']
        exact hlow.2
    · rw [Range.orElse_of_gt (hhi.trans_le h)]
      exact hlow.2
  simp only [adaptClocks]
  rw [if_neg (not_lt.mpr hle)]
  exact ⟨rfl, rfl⟩

/-- A write pins the nearest frequency, so this is what has to be shown. -/
theorem showsApplied_iff (hrange : dir.range policy = some range) :
    ShowsApplied dir policy config shown ↔
      shown.lowFrequencyKhz = range.clamp config.lowFrequencyKhz ∧
        shown.highFrequencyKhz = range.clamp config.highFrequencyKhz := by
  constructor
  · intro h
    have hclamp : ∀ direction : Direction,
        direction.target shown = range.clamp (direction.target config) := by
      intro direction
      have hok : (setOnePolicyFrequency .steady dir policy (direction.target config)
          config.lowFrequencyKhz ⟨fun _ => ⟨0, 0⟩, []⟩).1 = true := by
        rw [setOne_steady_ok, hrange]
        rfl
      have hshown := h direction .steady _ hok
      rw [setOne_scaling_of_ok hrange hok] at hshown
      exact (Limits.mk.inj hshown).1.symm
    exact ⟨hclamp .low, hclamp .high⟩
  · rintro ⟨hlow, hhigh⟩ direction k sys hok
    rw [setOne_scaling_of_ok hrange hok]
    cases direction with
    | low => rw [Direction.target, Direction.target, hlow]
    | high => rw [Direction.target, Direction.target, hhigh]

/-- Both programs take a valid configuration as it stands in the file. -/
theorem load_same (hvalid : cpuConfigValidate config 0 0 false = .ok ())
    (hload : cpuConfigLoad file = (.ok (), config)) :
    loadRuntimeConfig file = config ∧ (loadFrequencyState file).config = config := by
  rw [loadRuntimeConfig, loadFrequencyState, hload]
  dsimp only
  rw [hvalid]
  exact ⟨rfl, rfl⟩

end

/-- On a machine with one policy the page shows the clocks that the daemon pins exactly when the
low one is not above the range and the high one is not below it. -/
theorem shown_clocks_iff (state : FrequencyState)
    (hvalid : cpuConfigValidate state.config 0 0 false = .ok ()) (dir : Directory)
    (policy : DirName) (range : Range) (hpolicies : dir.policies = [policy])
    (hrange : dir.range policy = some range) (reportSuccess : Bool) :
    (∀ file, cpuConfigLoad file = (.ok (), state.config) →
      loadRuntimeConfig file = state.config ∧ (loadFrequencyState file).config = state.config) ∧
    (ShowsApplied dir policy state.config
        (refreshHardwareDetection .steady dir reportSuccess state).config ↔
      (state.config.lowFrequencyKhz ≤ range.highest ∧
        range.lowest ≤ state.config.highFrequencyKhz) ∨ range.lowest = range.highest) := by
  refine ⟨fun file hload => load_same hvalid hload, ?_⟩
  obtain ⟨hlow, hhigh⟩ := adaptClocks_of_ordered (validate_ok_iff.mp hvalid).2.2.2.1
  rw [refresh_config_single hpolicies hrange, showsApplied_iff hrange, hlow, hhigh,
    Range.orElse_lowest_eq_clamp_iff, Range.orElse_highest_eq_clamp_iff, ← and_or_right]

/-- Only the high clock is above the range. -/
theorem shown_clocks_above :
    let state := loadFrequencyState (.readable
      "\x7b\"low_frequency_khz\":900000,\"high_frequency_khz\":4800000\x7d".toList)
    state.config.highFrequencyKhz = 4800000 ∧
      ShowsApplied singleDirectory policy0 state.config
        (refreshHardwareDetection .steady singleDirectory false state).config := by
  intro state
  have hconfig : state.config = ⟨.finite 6, .finite 10, 900000, 4800000, 500⟩ := by decide +kernel
  refine ⟨by rw [hconfig], ?_⟩
  exact (shown_clocks_iff state (by rw [hconfig]; decide +kernel) singleDirectory policy0
    ⟨800000, 4000000, by decide⟩ (by decide) (by decide +kernel) false).2.mpr
      (by rw [hconfig]; decide)

/-- The clocks of a faster processor: the page shows the lowest clock for low load, and the daemon
pins the highest. -/
theorem shown_clocks_counterexample :
    let file := ConfigFile.readable
      "\x7b\"low_frequency_khz\":4200000,\"high_frequency_khz\":4500000\x7d".toList
    let shown := (refreshHardwareDetection .steady singleDirectory false
      (loadFrequencyState file)).config
    cpuConfigLoad file = (.ok (), loadRuntimeConfig file) ∧
      cpuConfigValidate (loadRuntimeConfig file) 0 0 false = .ok () ∧
      shown.lowFrequencyKhz = 800000 ∧
      ¬ ShowsApplied singleDirectory policy0 (loadRuntimeConfig file) shown := by
  intro file shown
  have hload : cpuConfigLoad file =
      (.ok (), ⟨.finite 6, .finite 10, 4200000, 4500000, 500⟩) := by decide +kernel
  have hvalid : cpuConfigValidate ⟨.finite 6, .finite 10, 4200000, 4500000, 500⟩ 0 0 false =
      .ok () := by decide +kernel
  have hrange := usable_singleDirectory policy0 (by decide)
  obtain ⟨hdaemon, hpage⟩ := load_same hvalid hload
  have hlow : shown.lowFrequencyKhz = 800000 := by
    rw [show shown = _ from refresh_config_single (by decide) hrange, hpage]
    decide
  refine ⟨hdaemon ▸ hload, hdaemon ▸ hvalid, hlow, fun h => ?_⟩
  have hshown := ((showsApplied_iff hrange).mp h).1
  rw [hlow, hdaemon] at hshown
  exact absurd hshown (by decide)

end CpuSwitch.Gui
