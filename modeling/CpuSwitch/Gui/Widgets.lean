import CpuSwitch.Config.Runtime
import CpuSwitch.Gui.Normalize

/-! The spin buttons of the frequency page, and what passes through them. -/
namespace CpuSwitch.Gui
open CLib Config Cpufreq

/-- A spin button as GTK documents it; its value cannot leave its range. -/
structure SpinButton where
  lower : ℚ
  upper : ℚ
  value : ℚ
  least : lower ≤ value
  most : value ≤ upper

theorem SpinButton.ordered (spin : SpinButton) : spin.lower ≤ spin.upper :=
  spin.least.trans spin.most

/-- `gtk_spin_button_new_with_range` starts at the lower end. -/
def SpinButton.newWithRange (lower upper : ℚ) (h : lower ≤ upper) : SpinButton :=
  ⟨lower, upper, lower, le_rfl, h⟩

/-- The nearest value of the range. -/
def SpinButton.put (spin : SpinButton) (x : ℚ) : SpinButton where
  lower := spin.lower
  upper := spin.upper
  value := spin.lower ⊔ spin.upper ⊓ x
  least := le_sup_left
  most := sup_le spin.ordered inf_le_left

/-- `gtk_spin_button_set_value`; a NaN never differs from the old value by more than the margin. -/
def SpinButton.setValue (spin : SpinButton) : Double → SpinButton
  | .finite x => spin.put x
  | .posInf => spin.put spin.upper
  | .negInf => spin.put spin.lower
  | .nan => spin

/-- `gtk_spin_button_set_range`, which refuses an inverted range. -/
def SpinButton.setRange (spin : SpinButton) (lower upper : ℚ) : SpinButton :=
  if h : lower ≤ upper then
    ⟨lower, upper, lower ⊔ upper ⊓ spin.value, le_sup_left, sup_le h inf_le_left⟩
  else spin

/-- The widgets of the frequency page and its metric cards that follow the configuration. -/
structure FrequencyWidgets where
  lowThresholdSpin : SpinButton
  highThresholdSpin : SpinButton
  lowFrequencySpin : SpinButton
  highFrequencySpin : SpinButton
  intervalSpin : SpinButton
  frequencyControls : Bool
  rangeLabel : Text
  policyLabel : Text

def buildFrequencyPage : FrequencyWidgets where
  lowThresholdSpin := .newWithRange 0 99 (by norm_num)
  highThresholdSpin := .newWithRange 1 100 (by norm_num)
  lowFrequencySpin := .newWithRange 100 10000 (by norm_num)
  highFrequencySpin := .newWithRange 100 10000 (by norm_num)
  intervalSpin := .newWithRange 100 5000 (by norm_num)
  frequencyControls := true
  rangeLabel := "—".toList
  policyLabel := "—".toList

/-- kHz as MHz. -/
def mhz (khz : UInt64) : ℚ := khz.toNat / 1000

/-- `format_frequency` with its divisions in exact arithmetic. -/
def formatFrequency (khz : UInt64) : Text :=
  if khz ≥ 1000000 then formatFixed 2 (.finite (khz.toNat / 1000000)) ++ " GHz".toList
  else formatFixed 0 (.finite (mhz khz)) ++ " MHz".toList

def frequencyConfigToWidgets (state : FrequencyState) (widgets : FrequencyWidgets) :
    FrequencyWidgets :=
  let widgets := { widgets with
    lowThresholdSpin := widgets.lowThresholdSpin.setValue state.config.lowThresholdPct
    highThresholdSpin := widgets.highThresholdSpin.setValue state.config.highThresholdPct
    intervalSpin := widgets.intervalSpin.put state.config.intervalMs.toNat }
  if state.haveFrequencyRange = false then
    { widgets with
      frequencyControls := false
      rangeLabel := "Indisponível".toList
      policyLabel := "0".toList }
  else
    { widgets with
      lowFrequencySpin := (widgets.lowFrequencySpin.setRange (mhz state.minKhz)
        (mhz state.maxKhz)).put (mhz state.config.lowFrequencyKhz)
      highFrequencySpin := (widgets.highFrequencySpin.setRange (mhz state.minKhz)
        (mhz state.maxKhz)).put (mhz state.config.highFrequencyKhz)
      frequencyControls := true
      rangeLabel :=
        formatFrequency state.minKhz ++ " — ".toList ++ formatFrequency state.maxKhz
      policyLabel := Nat.toDigits 10 state.policyCount }

/-- The conversion of a `double` that fits to `uint64_t`: it drops the fraction. -/
def truncateU64 (x : ℚ) : UInt64 := UInt64.ofNat ⌊x⌋.toNat

/-- All five fields of the configuration come from the spin buttons. -/
def frequencyWidgetsToConfig (widgets : FrequencyWidgets) : CpuConfig where
  lowThresholdPct := .finite widgets.lowThresholdSpin.value
  highThresholdPct := .finite widgets.highThresholdSpin.value
  lowFrequencyKhz := truncateU64 (widgets.lowFrequencySpin.value * 1000 + 1 / 2)
  highFrequencyKhz := truncateU64 (widgets.highFrequencySpin.value * 1000 + 1 / 2)
  intervalMs := truncateU64 (widgets.intervalSpin.value + 1 / 2)

/-- The ranges of the spin buttons: the fixed ones, and the detected one once there is one. -/
structure WidgetsFit (state : FrequencyState) (widgets : FrequencyWidgets) : Prop where
  lowThreshold : widgets.lowThresholdSpin.lower = 0 ∧ widgets.lowThresholdSpin.upper = 99
  highThreshold : widgets.highThresholdSpin.lower = 1 ∧ widgets.highThresholdSpin.upper = 100
  interval : widgets.intervalSpin.lower = 100 ∧ widgets.intervalSpin.upper = 5000
  lowFrequency : state.haveFrequencyRange = true →
    widgets.lowFrequencySpin.lower = mhz state.minKhz ∧
      widgets.lowFrequencySpin.upper = mhz state.maxKhz
  highFrequency : state.haveFrequencyRange = true →
    widgets.highFrequencySpin.lower = mhz state.minKhz ∧
      widgets.highFrequencySpin.upper = mhz state.maxKhz

/-- A configuration that the spin buttons can show. -/
structure Displayable (config : CpuConfig) (low high : ℚ) : Prop where
  lowThreshold : config.lowThresholdPct = .finite low
  highThreshold : config.highThresholdPct = .finite high
  lowShown : 0 ≤ low ∧ low ≤ 99
  highShown : 1 ≤ high ∧ high ≤ 100
  interval : 100 ≤ config.intervalMs ∧ config.intervalMs ≤ 5000

section Spin
variable {spin : SpinButton} {x lower upper : ℚ} {khz minKhz maxKhz : UInt64} {n : ℕ}

theorem SpinButton.put_value_of_mem (hlo : spin.lower ≤ x) (hhi : x ≤ spin.upper) :
    (spin.put x).value = x := by
  have hvalue : spin.lower ⊔ spin.upper ⊓ x = x := by
    rw [inf_eq_right.mpr hhi, sup_eq_right.mpr hlo]
  exact hvalue

theorem SpinButton.setValue_range (spin : SpinButton) (x : Double) :
    (spin.setValue x).lower = spin.lower ∧ (spin.setValue x).upper = spin.upper := by
  cases x <;> exact ⟨rfl, rfl⟩

theorem SpinButton.setRange_range (h : lower ≤ upper) :
    (spin.setRange lower upper).lower = lower ∧ (spin.setRange lower upper).upper = upper := by
  rw [SpinButton.setRange, dif_pos h]
  exact ⟨rfl, rfl⟩

theorem mhz_le_mhz (h : minKhz ≤ maxKhz) : mhz minKhz ≤ mhz maxKhz := by
  have hn : (minKhz.toNat : ℚ) ≤ maxKhz.toNat := Nat.cast_le.mpr (UInt64.le_iff_toNat_le.mp h)
  unfold mhz
  linarith

theorem floor_half (n : ℕ) : ⌊(n : ℚ) + 1 / 2⌋ = n := by
  rw [Int.floor_eq_iff]
  push_cast
  constructor <;> linarith

/-- Half a unit makes up for the truncation. -/
theorem truncateU64_natCast (h : n < 2 ^ 64) : (truncateU64 ((n : ℚ) + 1 / 2)).toNat = n := by
  rw [truncateU64, floor_half, Int.toNat_natCast, UInt64.toNat_ofNat_of_lt' h]

/-- The way to MHz and back is exact. -/
theorem truncateU64_mhz (khz : UInt64) : truncateU64 (mhz khz * 1000 + 1 / 2) = khz := by
  have hback : mhz khz * 1000 = (khz.toNat : ℚ) := by
    unfold mhz
    ring
  rw [hback]
  exact UInt64.toNat_inj.mp (truncateU64_natCast khz.toNat_lt)

end Spin

section Widgets
variable {state : FrequencyState} {widgets : FrequencyWidgets} {low high : ℚ}

theorem widgetsFit_build (h : state.haveFrequencyRange = false) :
    WidgetsFit state buildFrequencyPage := by
  constructor
  · exact ⟨rfl, rfl⟩
  · exact ⟨rfl, rfl⟩
  · exact ⟨rfl, rfl⟩
  · simp [h]
  · simp [h]

/-- Showing a configuration sets the detected range, and keeps the fixed ones. -/
theorem widgetsFit_show {before : FrequencyState} (h : WidgetsFit before widgets)
    (hrange : state.haveFrequencyRange = true → state.minKhz ≤ state.maxKhz) :
    WidgetsFit state (frequencyConfigToWidgets state widgets) := by
  unfold frequencyConfigToWidgets
  cases hdetected : state.haveFrequencyRange with
  | false =>
    simp only [if_true]
    constructor
    · simpa [SpinButton.setValue_range] using h.lowThreshold
    · simpa [SpinButton.setValue_range] using h.highThreshold
    · exact h.interval
    · simp [hdetected]
    · simp [hdetected]
  | true =>
    have hmhz := mhz_le_mhz (hrange hdetected)
    simp only [Bool.true_eq_false, if_false]
    constructor
    · simpa [SpinButton.setValue_range] using h.lowThreshold
    · simpa [SpinButton.setValue_range] using h.highThreshold
    · exact h.interval
    · exact fun _ => SpinButton.setRange_range hmhz
    · exact fun _ => SpinButton.setRange_range hmhz

/-- What fits the spin buttons comes back from them as it was. -/
theorem widgets_round_trip {before : FrequencyState} (h : WidgetsFit before widgets)
    (hdetected : state.haveFrequencyRange = true)
    (hclocks : ClocksFit state.minKhz state.maxKhz state.config)
    (hshown : Displayable state.config low high) :
    frequencyWidgetsToConfig (frequencyConfigToWidgets state widgets) = state.config := by
  have hrange : state.minKhz ≤ state.maxKhz :=
    hclocks.lowest.trans (hclocks.ordered.trans hclocks.highest)
  have hmhz := mhz_le_mhz hrange
  have hclock : ∀ (spin : SpinButton) khz, state.minKhz ≤ khz → khz ≤ state.maxKhz →
      ((spin.setRange (mhz state.minKhz) (mhz state.maxKhz)).put (mhz khz)).value = mhz khz := by
    intro spin khz hlo hhi
    obtain ⟨hlower, hupper⟩ := @SpinButton.setRange_range spin _ _ hmhz
    exact SpinButton.put_value_of_mem (hlower.trans_le (mhz_le_mhz hlo))
      ((mhz_le_mhz hhi).trans_eq hupper.symm)
  have hlow : (widgets.lowThresholdSpin.put low).value = low :=
    SpinButton.put_value_of_mem (h.lowThreshold.1 ▸ hshown.lowShown.1)
      (h.lowThreshold.2 ▸ hshown.lowShown.2)
  have hhigh : (widgets.highThresholdSpin.put high).value = high :=
    SpinButton.put_value_of_mem (h.highThreshold.1 ▸ hshown.highShown.1)
      (h.highThreshold.2 ▸ hshown.highShown.2)
  have hlo : 100 ≤ state.config.intervalMs.toNat := UInt64.le_iff_toNat_le.mp hshown.interval.1
  have hhi : state.config.intervalMs.toNat ≤ 5000 := UInt64.le_iff_toNat_le.mp hshown.interval.2
  have hinterval : (widgets.intervalSpin.put state.config.intervalMs.toNat).value =
      (state.config.intervalMs.toNat : ℚ) := by
    apply SpinButton.put_value_of_mem
    · rw [h.interval.1]
      exact_mod_cast hlo
    · rw [h.interval.2]
      exact_mod_cast hhi
  have hms : truncateU64 ((state.config.intervalMs.toNat : ℚ) + 1 / 2) = state.config.intervalMs :=
    UInt64.toNat_inj.mp (truncateU64_natCast state.config.intervalMs.toNat_lt)
  simp only [frequencyConfigToWidgets, hdetected, Bool.true_eq_false, if_false,
    frequencyWidgetsToConfig, hshown.lowThreshold, hshown.highThreshold, SpinButton.setValue, hlow,
    hhigh, hinterval, hms, truncateU64_mhz,
    hclock _ _ hclocks.lowest (hclocks.ordered.trans hclocks.highest),
    hclock _ _ (hclocks.lowest.trans hclocks.ordered) hclocks.highest]
  rw [← hshown.lowThreshold, ← hshown.highThreshold]

end Widgets

end CpuSwitch.Gui
