import CpuSwitch.Gui.Frequency
import CpuSwitch.Config.Runtime
import CpuSwitch.Cpufreq.Fallback

/-! What adapting a configuration to the detected range establishes. -/
namespace CpuSwitch.Gui
open CLib Config Cpufreq

/-- The clocks are in order and lie between two bounds. -/
structure ClocksFit (minKhz maxKhz : UInt64) (config : CpuConfig) : Prop where
  lowest : minKhz ≤ config.lowFrequencyKhz
  ordered : config.lowFrequencyKhz ≤ config.highFrequencyKhz
  highest : config.highFrequencyKhz ≤ maxKhz

/-- Once a range was detected, the clocks in memory fit it. -/
def Adapted (state : FrequencyState) : Prop :=
  state.haveFrequencyRange = true → ClocksFit state.minKhz state.maxKhz state.config

/-- The clocks that the three fix-ups end in. -/
def adaptClocks (range : Range) (config : CpuConfig) : CpuConfig :=
  let low := range.orElse config.lowFrequencyKhz range.lowest
  let high := range.orElse config.highFrequencyKhz range.highest
  if low > high then
    { config with lowFrequencyKhz := range.lowest, highFrequencyKhz := range.highest }
  else { config with lowFrequencyKhz := low, highFrequencyKhz := high }

section Adapt
variable {state : FrequencyState} {config : CpuConfig} {range : Range}
  {minKhz maxKhz : UInt64} {k : Kernel} {dir : Directory} {reportSuccess : Bool}

theorem normalize_eq (hdetected : state.haveFrequencyRange = true)
    (hrange : state.minKhz ≤ state.maxKhz) :
    normalizeConfigToHardware state =
      { state with config := adaptClocks ⟨state.minKhz, state.maxKhz, hrange⟩ state.config } := by
  rw [normalizeConfigToHardware, if_neg (by simp [hdetected])]
  simp only [adaptClocks, Range.orElse]
  split_ifs <;> rfl

/-- Each fix-up keeps what the ones before it established. -/
theorem clocksFit_adaptClocks (range : Range) (config : CpuConfig) :
    ClocksFit range.lowest range.highest (adaptClocks range config) := by
  have hlow : range.orElse config.lowFrequencyKhz range.lowest ∈ range := Range.orElse_ends_mem.1
  have hhigh : range.orElse config.highFrequencyKhz range.highest ∈ range :=
    Range.orElse_ends_mem.2
  simp only [adaptClocks]
  split_ifs with hcross
  · exact ⟨le_rfl, range.ordered, le_rfl⟩
  · exact ⟨hlow.1, not_lt.mp hcross, hhigh.2⟩

theorem adaptClocks_of_fit (h : ClocksFit range.lowest range.highest config) :
    adaptClocks range config = config := by
  have hlow : config.lowFrequencyKhz ∈ range := ⟨h.lowest, h.ordered.trans h.highest⟩
  have hhigh : config.highFrequencyKhz ∈ range := ⟨h.lowest.trans h.ordered, h.highest⟩
  simp only [adaptClocks, Range.orElse_of_mem hlow, Range.orElse_of_mem hhigh]
  rw [if_neg (not_lt.mpr h.ordered)]

/-- Only the clocks are adapted. -/
theorem adaptClocks_frame (range : Range) (config : CpuConfig) :
    (adaptClocks range config).lowThresholdPct = config.lowThresholdPct ∧
      (adaptClocks range config).highThresholdPct = config.highThresholdPct ∧
      (adaptClocks range config).intervalMs = config.intervalMs := by
  simp only [adaptClocks]
  split_ifs <;> exact ⟨rfl, rfl, rfl⟩

/-- The range check asks for clocks that fit, and for nothing else. -/
theorem validate_range_iff (h : ClocksFit minKhz maxKhz config) :
    cpuConfigValidate config minKhz maxKhz true = .ok () ↔
      cpuConfigValidate config 0 0 false = .ok () := by
  have hlow : minKhz ≤ config.lowFrequencyKhz ∧ config.lowFrequencyKhz ≤ maxKhz :=
    ⟨h.lowest, h.ordered.trans h.highest⟩
  have hhigh : minKhz ≤ config.highFrequencyKhz ∧ config.highFrequencyKhz ≤ maxKhz :=
    ⟨h.lowest.trans h.ordered, h.highest⟩
  simp only [validate_ok_iff, hlow, hhigh, Bool.false_eq_true, false_implies, and_self,
    implies_true]

/-- Without the range check the clocks matter through their order only. -/
theorem validate_congr {other : CpuConfig} {minKhz' maxKhz' : UInt64}
    (hlow : config.lowThresholdPct = other.lowThresholdPct)
    (hhigh : config.highThresholdPct = other.highThresholdPct)
    (hinterval : config.intervalMs = other.intervalMs)
    (hclocks : config.lowFrequencyKhz ≤ config.highFrequencyKhz ↔
      other.lowFrequencyKhz ≤ other.highFrequencyKhz) :
    cpuConfigValidate config minKhz maxKhz false = .ok () ↔
      cpuConfigValidate other minKhz' maxKhz' false = .ok () := by
  simp only [validate_ok_iff, hlow, hhigh, hinterval, hclocks, Bool.false_eq_true, false_implies]

theorem Adapted.setStatus {message : String} {isError : Bool} (h : Adapted state) :
    Adapted (state.setStatus message isError) := h

theorem adapted_normalize (hrange : state.minKhz ≤ state.maxKhz) :
    Adapted (normalizeConfigToHardware state) := by
  cases hdetected : state.haveFrequencyRange with
  | false =>
    rw [normalizeConfigToHardware, if_pos hdetected]
    intro h
    cases hdetected.symm.trans h
  | true =>
    rw [normalize_eq hdetected hrange]
    exact fun _ => clocksFit_adaptClocks ⟨state.minKhz, state.maxKhz, hrange⟩ state.config

/-- A detection adapts the clocks or withdraws the range. -/
theorem adapted_refresh : Adapted (refreshHardwareDetection k dir reportSuccess state) := by
  unfold refreshHardwareDetection detectFrequencyRangeInto
  cases hd : cpuLinuxDetectFrequencyRange k dir with
  | error message =>
    apply Adapted.setStatus
    rintro ⟨⟩
  | ok detected =>
    dsimp only
    split_ifs
    · exact (adapted_normalize (detect_ok hd).2.2).setStatus
    · exact adapted_normalize (detect_ok hd).2.2

end Adapt

/-- Adapting establishes what the save check wants of the clocks, and changes nothing else. -/
theorem normalize_meets_save_check (state : FrequencyState)
    (hdetected : state.haveFrequencyRange = true) (hrange : state.minKhz ≤ state.maxKhz) :
    let normalized := normalizeConfigToHardware state
    ClocksFit state.minKhz state.maxKhz normalized.config ∧
      (normalized.config.lowThresholdPct = state.config.lowThresholdPct ∧
        normalized.config.highThresholdPct = state.config.highThresholdPct ∧
        normalized.config.intervalMs = state.config.intervalMs) ∧
      normalizeConfigToHardware normalized = normalized ∧
      (ClocksFit state.minKhz state.maxKhz state.config → normalized = state) ∧
      ∀ khz minKhz maxKhz,
        cpuConfigValidate normalized.config state.minKhz state.maxKhz true = .ok () ↔
          cpuConfigValidate { state.config with lowFrequencyKhz := khz, highFrequencyKhz := khz }
            minKhz maxKhz false = .ok () := by
  intro normalized
  let range : Range := ⟨state.minKhz, state.maxKhz, hrange⟩
  have heq : normalized = { state with config := adaptClocks range state.config } :=
    normalize_eq hdetected hrange
  have hfit : ClocksFit state.minKhz state.maxKhz (adaptClocks range state.config) :=
    clocksFit_adaptClocks range state.config
  obtain ⟨hlow, hhigh, hinterval⟩ := adaptClocks_frame range state.config
  have hfix : ∀ other : FrequencyState, other.haveFrequencyRange = true →
      ∀ hother : other.minKhz ≤ other.maxKhz, ClocksFit other.minKhz other.maxKhz other.config →
        normalizeConfigToHardware other = other := by
    intro other hd hother h
    rw [normalize_eq hd hother, adaptClocks_of_fit h]
  rw [heq]
  refine ⟨hfit, ⟨hlow, hhigh, hinterval⟩, hfix _ hdetected hrange hfit, fun h => ?_, ?_⟩
  · rw [← heq]
    exact hfix state hdetected hrange h
  · intro khz minKhz maxKhz
    rw [validate_range_iff hfit]
    exact validate_congr hlow hhigh hinterval (iff_of_true hfit.ordered le_rfl)

/-- The default clocks on a processor that is too slow for both. -/
theorem normalize_meets_save_check_slow :
    cpuConfigValidate (normalizeConfigToHardware
      ⟨cpuConfigDefaults, 400000, 1000000, 1, true, none⟩).config 400000 1000000 true = .ok () :=
  ((normalize_meets_save_check ⟨cpuConfigDefaults, 400000, 1000000, 1, true, none⟩ rfl
    (by decide)).2.2.2.2 0 0 0).mpr (by decide +kernel)

end CpuSwitch.Gui
