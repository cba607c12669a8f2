import CpuSwitch.Config.Writer

/-! The configuration that the daemon runs with. -/
namespace CpuSwitch.Config
open CLib

/-- What the daemon may rely on. -/
structure Sane (config : CpuConfig) : Prop where
  lowFinite : config.lowThresholdPct.isfinite = true
  highFinite : config.highThresholdPct.isfinite = true
  nonneg : .finite 0 ≤ config.lowThresholdPct
  ordered : config.lowThresholdPct < config.highThresholdPct
  percentage : config.highThresholdPct ≤ .finite 100
  clocks : config.lowFrequencyKhz ≤ config.highFrequencyKhz
  interval : 100 ≤ config.intervalMs ∧ config.intervalMs ≤ 5000

/-- The number after the key is spelled as a NaN. -/
def NanField (json key : Text) : Prop := ∃ position ∈ findJsonValue json key, SpellsNan position

/-- A NaN threshold in a file that the reader and the validator let through. -/
structure SlipsNan (file : ConfigFile) : Prop where
  loaded : (cpuConfigLoad file).1 = .ok ()
  validated : cpuConfigValidate (cpuConfigLoad file).2 0 0 false = .ok ()
  spelled : ∃ contents, readEntireFile file = .text contents ∧
    ∃ t, NanField (cString contents) (Threshold.key t)

section Validate
variable {config : CpuConfig} {minKhz maxKhz : UInt64} {checkRange : Bool}

theorem ite_error_eq_ok {p : Prop} [Decidable p] {error : String} {next : Except String Unit} :
    (if p then .error error else next) = .ok () ↔ ¬ p ∧ next = .ok () := by
  split_ifs with h <;> simp [h]

/-- The validator accepts what none of its comparisons rejects. -/
theorem validate_ok_iff :
    cpuConfigValidate config minKhz maxKhz checkRange = .ok () ↔
      ¬ (config.lowThresholdPct < .finite 0 ∨ .finite 100 ≤ config.lowThresholdPct) ∧
        ¬ (config.highThresholdPct ≤ .finite 0 ∨ .finite 100 < config.highThresholdPct) ∧
        ¬ config.highThresholdPct ≤ config.lowThresholdPct ∧
        config.lowFrequencyKhz ≤ config.highFrequencyKhz ∧
        (100 ≤ config.intervalMs ∧ config.intervalMs ≤ 5000) ∧
        (checkRange = true →
          (minKhz ≤ config.lowFrequencyKhz ∧ config.lowFrequencyKhz ≤ maxKhz) ∧
            minKhz ≤ config.highFrequencyKhz ∧ config.highFrequencyKhz ≤ maxKhz) := by
  simp only [cpuConfigValidate, ite_error_eq_ok, not_and, ge_iff_le, gt_iff_lt, not_or, not_lt,
    and_true, and_assoc]

theorem sane_iff : Sane config ↔ cpuConfigValidate config 0 0 false = .ok () ∧
    config.lowThresholdPct ≠ .nan ∧ config.highThresholdPct ≠ .nan := by
  rw [validate_ok_iff]
  constructor
  · rintro ⟨hl, hh, hnn, hlt, hp, hf, hi⟩
    obtain ⟨low, hlow⟩ := Double.isfinite_iff.mp hl
    obtain ⟨high, hhigh⟩ := Double.isfinite_iff.mp hh
    simp only [hlow, hhigh, Double.finite_lt_finite, Double.finite_le_finite] at hnn hlt hp ⊢
    refine ⟨⟨?_, ?_, ?_, hf, hi, by simp⟩, by simp, by simp⟩
    · rintro (h | h) <;> linarith
    · rintro (h | h) <;> linarith
    · linarith
  · rintro ⟨⟨hlow, hhigh, hlt, hf, hi, -⟩, hl, hh⟩
    cases hlv : config.lowThresholdPct with
    | nan => exact (hl hlv).elim
    | negInf => simp [hlv] at hlow
    | posInf => simp [hlv] at hlow
    | finite low =>
      cases hhv : config.highThresholdPct with
      | nan => exact (hh hhv).elim
      | negInf => simp [hhv] at hhigh
      | posInf => simp [hhv] at hhigh
      | finite high =>
        simp only [hlv, hhv, Double.finite_lt_finite, Double.finite_le_finite, not_or, not_lt,
          not_le] at hlow hhigh hlt
        constructor <;> simp_all

end Validate

section Load
variable {json key : Text} {file : ConfigFile} {threshold : Double}

theorem parseDoubleField_nan_iff : parseDoubleField json key = .value .nan ↔ NanField json key := by
  unfold parseDoubleField NanField
  cases findJsonValue json key with
  | none => simp
  | some position =>
    simp only [Option.mem_def, Option.some.injEq, exists_eq_left']
    by_cases hn : SpellsNan position
    · obtain ⟨rest, hrest⟩ := strtod_of_spellsNan hn
      simp [hrest, hn]
    · refine iff_of_false ?_ hn
      cases hs : strtod position with
      | none => simp
      | some conversion =>
        have hne := strtod_ne_nan hn hs
        dsimp only
        split_ifs
        · simp
        · simpa using hne

theorem getD_eq_nan_iff (h : threshold ≠ .nan) :
    (parseDoubleField json key).getD threshold = .nan ↔ NanField json key := by
  rw [← parseDoubleField_nan_iff]
  cases parseDoubleField json key <;> simp [Field.getD, h]

theorem loadRuntimeConfig_of_ok (hload : (cpuConfigLoad file).1 = .ok ())
    (h : cpuConfigValidate (cpuConfigLoad file).2 0 0 false = .ok ()) :
    loadRuntimeConfig file = (cpuConfigLoad file).2 := by
  simp only [loadRuntimeConfig, hload, h]

/-- A configuration that the reader or the validator rejects gives way to the defaults. -/
theorem loadRuntimeConfig_of_not_ok (h : ¬ ((cpuConfigLoad file).1 = .ok () ∧
    cpuConfigValidate (cpuConfigLoad file).2 0 0 false = .ok ())) :
    loadRuntimeConfig file = cpuConfigDefaults := by
  cases hload : (cpuConfigLoad file).1 with
  | error message =>
    simp only [loadRuntimeConfig, hload]
    split <;> rfl
  | ok _ =>
    cases hv : cpuConfigValidate (cpuConfigLoad file).2 0 0 false with
    | ok _ => exact (h ⟨hload, hv⟩).elim
    | error message => simp only [loadRuntimeConfig, hload, hv]

/-- A threshold is loaded as a NaN just when the file spells it as one. -/
theorem nan_load_iff (file : ConfigFile) : (∃ t, (cpuConfigLoad file).2.threshold t = .nan) ↔
    ∃ contents, readEntireFile file = .text contents ∧
      ∃ t, NanField (cString contents) (Threshold.key t) := by
  have hdefaults : ∀ t, cpuConfigDefaults.threshold t ≠ .nan := by
    intro t
    cases t <;> decide
  cases hr : readEntireFile file with
  | missing => simp [cpuConfigLoad, hr, hdefaults]
  | failed error => simp [cpuConfigLoad, hr, hdefaults]
  | text contents =>
    have hconfig : (cpuConfigLoad file).2 = (parseFields (cString contents)).1 := by
      simp only [cpuConfigLoad, hr]
      split_ifs <;> rfl
    simp only [hconfig, threshold_parseFields, getD_eq_nan_iff (hdefaults _), Contents.text.injEq,
      exists_eq_left']

theorem slipsNan_iff (hload : (cpuConfigLoad file).1 = .ok ())
    (h : cpuConfigValidate (cpuConfigLoad file).2 0 0 false = .ok ()) :
    SlipsNan file ↔ ∃ t, (cpuConfigLoad file).2.threshold t = .nan := by
  rw [nan_load_iff]
  exact ⟨SlipsNan.spelled, fun hspelled => ⟨hload, h, hspelled⟩⟩

theorem sane_defaults : Sane cpuConfigDefaults := by
  rw [sane_iff]
  decide +kernel

/-- The daemon runs with the loaded configuration or the defaults, and with a sane one, exactly
when the file does not slip a NaN past the validator. -/
theorem runtime_sane_iff (file : ConfigFile) :
    ((((cpuConfigLoad file).1 = .ok () ∧ loadRuntimeConfig file = (cpuConfigLoad file).2) ∨
        loadRuntimeConfig file = cpuConfigDefaults) ∧
      Sane (loadRuntimeConfig file)) ↔
      ¬ SlipsNan file := by
  by_cases h : (cpuConfigLoad file).1 = .ok () ∧
      cpuConfigValidate (cpuConfigLoad file).2 0 0 false = .ok ()
  · rw [loadRuntimeConfig_of_ok h.1 h.2, and_iff_right (Or.inl ⟨h.1, rfl⟩), sane_iff,
      and_iff_right h.2, slipsNan_iff h.1 h.2, not_exists]
    constructor
    · rintro ⟨hlow, hhigh⟩ (_ | _)
      · exact hlow
      · exact hhigh
    · intro hnone
      exact ⟨hnone .low, hnone .high⟩
  · rw [loadRuntimeConfig_of_not_ok h, and_iff_right (Or.inr rfl)]
    exact iff_of_true sane_defaults fun hslip => h ⟨hslip.loaded, hslip.validated⟩

/-- One threshold spelled as a NaN, the rest left to the defaults. -/
theorem runtime_sane_counterexample :
    ¬ ∀ file, (((cpuConfigLoad file).1 = .ok () ∧
          loadRuntimeConfig file = (cpuConfigLoad file).2) ∨
        loadRuntimeConfig file = cpuConfigDefaults) ∧
      Sane (loadRuntimeConfig file) := by
  intro h
  have hnan : (loadRuntimeConfig
      (.readable "\x7b\"low_threshold_pct\": nan\x7d".toList)).lowThresholdPct = .nan := by
    decide +kernel
  have hfinite := (h (.readable "\x7b\"low_threshold_pct\": nan\x7d".toList)).2.lowFinite
  rw [hnan] at hfinite
  cases hfinite

end Load

/-- Two finite values that differ by at most a twentieth. -/
def Near (x y : Double) : Prop := ∃ p q, x = .finite p ∧ y = .finite q ∧ |p - q| ≤ 1 / 20

/-- The daemon accepts the file and runs the saved configuration. -/
structure RunsAsSaved (config : CpuConfig) (file : ConfigFile) : Prop where
  loaded : (cpuConfigLoad file).1 = .ok ()
  validated : cpuConfigValidate (cpuConfigLoad file).2 0 0 false = .ok ()
  lowFrequency : (loadRuntimeConfig file).lowFrequencyKhz = config.lowFrequencyKhz
  highFrequency : (loadRuntimeConfig file).highFrequencyKhz = config.highFrequencyKhz
  interval : (loadRuntimeConfig file).intervalMs = config.intervalMs
  lowThreshold : Near (loadRuntimeConfig file).lowThresholdPct config.lowThresholdPct
  highThreshold : Near (loadRuntimeConfig file).highThresholdPct config.highThresholdPct

section Saved
variable {config : CpuConfig} {low high : ℚ} {minKhz maxKhz : UInt64} {text : Text}

theorem near_roundTo (value : ℚ) : Near (.finite (roundTo 1 value)) (.finite value) :=
  ⟨_, _, rfl, rfl, (abs_roundTo_sub_le value).trans (by norm_num)⟩

theorem moderate_of_percentage (h0 : 0 ≤ low) (h1 : low ≤ 100) : Moderate 1 low :=
  ⟨by decide, by
    rw [abs_of_nonneg h0]
    linarith⟩

/-- An accepted configuration is run as saved exactly when its thresholds are still apart after
rounding to a tenth. -/
theorem saved_runs_iff (config : CpuConfig) (low high : ℚ) (minKhz maxKhz : UInt64)
    (hlow : config.lowThresholdPct = .finite low) (hhigh : config.highThresholdPct = .finite high)
    (h : cpuConfigValidate config minKhz maxKhz true = .ok ())
    (outcome : WriteOutcome) (text : Text) (hwrite : cpuConfigWrite outcome config = .ok text) :
    RunsAsSaved config (.readable text) ↔ roundTo 1 low ≠ roundTo 1 high := by
  have htext : text = configText config := by
    cases outcome <;> cases hwrite
    rfl
  obtain ⟨hl, hh, hlt, hf, hi, -⟩ := validate_ok_iff.mp h
  simp only [hlow, hhigh, Double.finite_lt_finite, Double.finite_le_finite, not_or, not_lt,
    not_le] at hl hh hlt
  have hload := cpuConfigLoad_printed (moderate_of_percentage hl.1 hl.2.le)
    (moderate_of_percentage hh.1.le hh.2) hlow hhigh
  rw [← htext] at hload
  have hmono : roundTo 1 low ≤ roundTo 1 high := roundTo_mono hlt.le
  have hnn : 0 ≤ roundTo 1 low := roundTo_nonneg hl.1
  have htop : roundTo 1 high ≤ 100 := by
    have hcent : roundTo 1 (100 : ℚ) = 100 := roundTo_of_units (n := 1000) (by norm_num)
    exact hcent ▸ roundTo_mono hh.2
  constructor
  · intro hruns heq
    have hv := validate_ok_iff.mp hruns.validated
    simp [hload, heq] at hv
  · intro hne
    have hlt' := lt_of_le_of_ne hmono hne
    have hv : cpuConfigValidate (cpuConfigLoad (.readable text)).2 0 0 false = .ok () := by
      rw [validate_ok_iff, hload]
      simp only [Double.finite_lt_finite, Double.finite_le_finite, not_or, not_lt, not_le]
      exact ⟨⟨hnn, by linarith⟩, ⟨by linarith, htop⟩, hlt', hf, hi, by simp⟩
    have hok : (cpuConfigLoad (.readable text)).1 = .ok () := by rw [hload]
    have hrun := loadRuntimeConfig_of_ok hok hv
    rw [hload] at hrun
    constructor
    · exact hok
    · exact hv
    · rw [hrun]
    · rw [hrun]
    · rw [hrun]
    · rw [hrun, hlow]
      exact near_roundTo low
    · rw [hrun, hhigh]
      exact near_roundTo high

/-- Thresholds that are closer than a tenth, and a tenth apart in the file. -/
def apartConfig : CpuConfig :=
  { cpuConfigDefaults with
    lowThresholdPct := .finite 9.94
    highThresholdPct := .finite 9.96
    highFrequencyKhz := 4000000 }

theorem saved_runs_apart :
    cpuConfigValidate apartConfig 800000 4000000 true = .ok () ∧
      RunsAsSaved apartConfig (.readable (configText apartConfig)) :=
  ⟨by decide +kernel,
    (saved_runs_iff apartConfig 9.94 9.96 800000 4000000 rfl rfl (by decide +kernel) .stored
      (configText apartConfig) rfl).mpr (by decide +kernel)⟩

/-- Thresholds that are apart, but not by a tenth. -/
def closeConfig : CpuConfig :=
  { cpuConfigDefaults with
    lowThresholdPct := .finite 9.98
    highThresholdPct := .finite 10.02 }

theorem saved_runs_counterexample :
    ¬ ∀ (config : CpuConfig) (minKhz maxKhz : UInt64) (outcome : WriteOutcome) (text : Text),
      config.lowThresholdPct.isfinite = true → config.highThresholdPct.isfinite = true →
        cpuConfigValidate config minKhz maxKhz true = .ok () →
          cpuConfigWrite outcome config = .ok text → RunsAsSaved config (.readable text) := by
  intro h
  have hruns := h closeConfig 800000 4000000 .stored (configText closeConfig) rfl rfl
    (by decide +kernel) rfl
  exact absurd hruns.validated (by decide +kernel)

end Saved

end CpuSwitch.Config
