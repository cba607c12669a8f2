import CpuSwitch.Daemon.Recovery
import CpuSwitch.Gui.Saved

/-! What a saved page comes to: when it is opened again, and in the daemon. -/
namespace CpuSwitch.Gui
open CLib Config Cpufreq Daemon Command

/-- The configuration that is loaded back: the two thresholds are in tenths of a percent. -/
def reloaded (widgets : FrequencyWidgets) : CpuConfig :=
  { frequencyWidgetsToConfig widgets with
    lowThresholdPct := .finite (roundTo 1 widgets.lowThresholdSpin.value)
    highThresholdPct := .finite (roundTo 1 widgets.highThresholdSpin.value) }

section Save

/-- What a save that reports success has done. -/
theorem save_ok (outcome : SaveOutcome) (restart : Bool) (session : FrequencySession)
    (h : (saveFrequencyConfig outcome restart session).1 = true) :
    cpuConfigValidate (frequencyWidgetsToConfig session.widgets) session.page.minKhz
        session.page.maxKhz true = .ok () ∧
      (saveFrequencyConfig outcome restart session).2.configFile =
        .readable (configText (frequencyWidgetsToConfig session.widgets)) ∧
      (restart = true →
        (saveFrequencyConfig outcome restart session).2.log.head? =
          some (.spawned restartArgv)) := by
  by_cases hready : ∃ temporaryPath, SaveReady outcome session temporaryPath
  · obtain ⟨temporaryPath, hready⟩ := hready
    have hfile := (@save_asks session outcome restart temporaryPath hready).2
    split at hfile
    · obtain ⟨message, isError, ⟨-, heq⟩ | ⟨-, ⟨hnone, -⟩ | ⟨-, done, heq, hok⟩⟩⟩ :=
        @save_ready session outcome restart temporaryPath hready
      · rw [heq] at h
        cases h
      · exact ⟨hready.valid, hfile, fun hrestart => nomatch hnone.symm.trans hrestart⟩
      · rw [heq] at h hfile ⊢
        exact ⟨hready.valid, hfile, fun _ => restartService_ok _ _ (hok h)⟩
    · cases h.symm.trans hfile.1
  · obtain ⟨config, status, heq⟩ := @save_unready session outcome restart (not_exists.mp hready)
    rw [heq] at h
    cases h

end Save

section Reload
variable {widgets : FrequencyWidgets} {page : FrequencyState} {config : CpuConfig}
  {file : ConfigFile} {k : Kernel} {dir : Directory} {minKhz maxKhz : UInt64} {policyCount : ℕ}

theorem roundTo_one_natCast (n : ℕ) : roundTo 1 (n : ℚ) = n :=
  roundTo_of_units (n := n * 10) (by push_cast; ring)

/-- Rounded to a tenth, the thresholds still fit their spin buttons. -/
theorem rounded_thresholds (h : WidgetsFit page widgets) :
    (0 ≤ roundTo 1 widgets.lowThresholdSpin.value ∧
        roundTo 1 widgets.lowThresholdSpin.value ≤ 99) ∧
      1 ≤ roundTo 1 widgets.highThresholdSpin.value ∧
        roundTo 1 widgets.highThresholdSpin.value ≤ 100 := by
  have hround : ∀ spin : SpinButton, roundTo 1 spin.lower ≤ roundTo 1 spin.value ∧
      roundTo 1 spin.value ≤ roundTo 1 spin.upper :=
    fun spin => ⟨roundTo_mono spin.least, roundTo_mono spin.most⟩
  have hlow := hround widgets.lowThresholdSpin
  have hhigh := hround widgets.highThresholdSpin
  have h99 : roundTo 1 (99 : ℚ) = 99 := roundTo_one_natCast 99
  have h1 : roundTo 1 (1 : ℚ) = 1 := roundTo_one_natCast 1
  have h100 : roundTo 1 (100 : ℚ) = 100 := roundTo_one_natCast 100
  rw [h.lowThreshold.1, h.lowThreshold.2, roundTo_zero, h99] at hlow
  rw [h.highThreshold.1, h.highThreshold.2, h1, h100] at hhigh
  exact ⟨hlow, hhigh⟩

theorem thresholds_nonneg (h : WidgetsFit page widgets) :
    0 ≤ widgets.lowThresholdSpin.value ∧ 0 ≤ widgets.highThresholdSpin.value := by
  have hlow := widgets.lowThresholdSpin.least
  have hhigh := widgets.highThresholdSpin.least
  rw [h.lowThreshold.1] at hlow
  rw [h.highThreshold.1] at hhigh
  exact ⟨hlow, by linarith⟩

theorem load_saved (h : WidgetsFit page widgets) :
    cpuConfigLoad (.readable (configText (frequencyWidgetsToConfig widgets))) =
      (.ok (), reloaded widgets) := by
  have hlow := widgets.lowThresholdSpin.most
  have hhigh := widgets.highThresholdSpin.most
  rw [h.lowThreshold.2] at hlow
  rw [h.highThreshold.2] at hhigh
  obtain ⟨hlow0, hhigh0⟩ := thresholds_nonneg h
  exact cpuConfigLoad_printed (moderate_of_percentage hlow0 (by linarith))
    (moderate_of_percentage hhigh0 hhigh) rfl rfl

theorem configText_reloaded (h : WidgetsFit page widgets) :
    configText (reloaded widgets) = configText (frequencyWidgetsToConfig widgets) := by
  obtain ⟨hlow, hhigh⟩ := thresholds_nonneg h
  unfold configText
  simp only [reloaded, formatFixed_roundTo hlow, formatFixed_roundTo hhigh,
    frequencyWidgetsToConfig]

/-- The save check accepts the configuration again unless the rounding has closed the gap. -/
theorem validate_reloaded_iff (h : WidgetsFit page widgets)
    (hv : cpuConfigValidate (frequencyWidgetsToConfig widgets) minKhz maxKhz true = .ok ()) :
    cpuConfigValidate (reloaded widgets) minKhz maxKhz true = .ok () ↔
      roundTo 1 widgets.lowThresholdSpin.value ≠ roundTo 1 widgets.highThresholdSpin.value := by
  obtain ⟨-, -, hlt, hrest⟩ := validate_ok_iff.mp hv
  obtain ⟨⟨hl0, hl1⟩, hh0, hh1⟩ := rounded_thresholds h
  simp only [frequencyWidgetsToConfig, Double.finite_le_finite, not_le] at hlt
  have hle : roundTo 1 widgets.lowThresholdSpin.value ≤
      roundTo 1 widgets.highThresholdSpin.value := roundTo_mono hlt.le
  have hlow : ¬ ((reloaded widgets).lowThresholdPct < .finite 0 ∨
      .finite 100 ≤ (reloaded widgets).lowThresholdPct) := by
    simp only [reloaded, Double.finite_lt_finite, Double.finite_le_finite, not_or, not_lt, not_le]
    constructor <;> linarith
  have hhigh : ¬ ((reloaded widgets).highThresholdPct ≤ .finite 0 ∨
      .finite 100 < (reloaded widgets).highThresholdPct) := by
    simp only [reloaded, Double.finite_lt_finite, Double.finite_le_finite, not_or, not_lt, not_le]
    constructor <;> linarith
  rw [validate_ok_iff, and_iff_right hlow, and_iff_right hhigh]
  refine (and_iff_left hrest).trans ?_
  simp only [reloaded, Double.finite_le_finite, not_le]
  exact hle.lt_iff_ne

theorem openPage_eq (hload : cpuConfigLoad file = (.ok (), config))
    (hdetect : cpuLinuxDetectFrequencyRange k dir = .ok ⟨minKhz, maxKhz, policyCount⟩)
    (hfit : ClocksFit minKhz maxKhz config) :
    let page : FrequencyState := ⟨config, minKhz, maxKhz, policyCount, true, none⟩
    openPage k dir file =
      { page
        widgets := frequencyConfigToWidgets page buildFrequencyPage
        serviceLabel := "—".toList
        serviceCard := none
        configFile := file
        log := [.detected minKhz maxKhz] } := by
  intro page
  have hrange : minKhz ≤ maxKhz := hfit.lowest.trans (hfit.ordered.trans hfit.highest)
  have hconfig : loadFrequencyState file = ⟨config, 0, 0, 0, false, none⟩ := by
    rw [loadFrequencyState, hload]
  have hpage : refreshHardwareDetection k dir false (loadFrequencyState file) = page := by
    rw [refreshHardwareDetection, detectFrequencyRangeInto, hdetect, hconfig]
    dsimp only
    rw [normalize_eq rfl hrange, adaptClocks_of_fit hfit]
    rfl
  rw [openPage, activatePage, hload]
  dsimp only
  rw [detectHardware, hpage]
  rfl

end Reload

/-- A page that was saved and is opened again on a machine with the same range shows what was
saved: saving it once more would write the same bytes, and is refused only where the rounding to a
tenth has made the two thresholds one. -/
theorem reopened_page_same (k : Kernel) (dir : Directory) (file : ConfigFile)
    (actions : List PageAction) (outcome : SaveOutcome) (restart : Bool) (k' : Kernel)
    (dir' : Directory) (policyCount : ℕ)
    (hsaved : (saveFrequencyConfig outcome restart
      (run pageStep (openPage k dir file) actions)).1 = true)
    (hdetect : cpuLinuxDetectFrequencyRange k' dir' =
      .ok ⟨(run pageStep (openPage k dir file) actions).page.minKhz,
        (run pageStep (openPage k dir file) actions).page.maxKhz, policyCount⟩) :
    let session := run pageStep (openPage k dir file) actions
    let reopened := openPage k' dir' (saveFrequencyConfig outcome restart session).2.configFile
    reopened.page.status = none ∧
      frequencyWidgetsToConfig reopened.widgets = reopened.page.config ∧
      configText (frequencyWidgetsToConfig reopened.widgets) =
        configText (frequencyWidgetsToConfig session.widgets) ∧
      (cpuConfigValidate (frequencyWidgetsToConfig reopened.widgets) reopened.page.minKhz
          reopened.page.maxKhz true = .ok () ↔
        roundTo 1 session.widgets.lowThresholdSpin.value ≠
          roundTo 1 session.widgets.highThresholdSpin.value) := by
  intro session reopened
  have hfits : WidgetsFit session.page session.widgets := (sound_run actions).fits
  obtain ⟨hv, hfile, -⟩ := save_ok outcome restart session hsaved
  obtain ⟨-, -, -, hordered, hinterval, hrange⟩ := validate_ok_iff.mp hv
  obtain ⟨hlow, hhigh⟩ := rounded_thresholds hfits
  have hclocks : ClocksFit session.page.minKhz session.page.maxKhz (reloaded session.widgets) :=
    ⟨(hrange rfl).1.1, hordered, (hrange rfl).2.2⟩
  have hopen := openPage_eq (load_saved hfits) hdetect hclocks
  have hshown : Displayable (reloaded session.widgets) _ _ := ⟨rfl, rfl, hlow, hhigh, hinterval⟩
  have hfresh : WidgetsFit (loadFrequencyState .missing) buildFrequencyPage := widgetsFit_build rfl
  have hreopened : reopened = _ := (congrArg (openPage k' dir') hfile).trans hopen
  have hback : frequencyWidgetsToConfig reopened.widgets = reloaded session.widgets := by
    rw [hreopened]
    exact widgets_round_trip hfresh rfl hclocks hshown
  rw [hback, configText_reloaded hfits, hreopened]
  exact ⟨rfl, rfl, rfl, validate_reloaded_iff hfits hv⟩

/-- Thresholds that are typed closer than a tenth and saved a tenth apart. -/
theorem reopened_page_same_edited :
    let session := run pageStep (openPage .steady singleDirectory .missing) editedActions
    let reopened := openPage .steady singleDirectory
      (saveFrequencyConfig grantedOutcome false session).2.configFile
    configText (frequencyWidgetsToConfig reopened.widgets) =
        configText ⟨.finite 9.94, .finite 9.96, 900000, 4000000, 250⟩ ∧
      cpuConfigValidate (frequencyWidgetsToConfig reopened.widgets) reopened.page.minKhz
        reopened.page.maxKhz true = .ok () := by
  intro session reopened
  have hconfig : frequencyWidgetsToConfig session.widgets =
      ⟨.finite 9.94, .finite 9.96, 900000, 4000000, 250⟩ := by decide +kernel
  obtain ⟨-, -, htext, hvalid⟩ := reopened_page_same .steady singleDirectory .missing editedActions
    grantedOutcome false .steady singleDirectory 1 (by decide +kernel) (by decide +kernel)
  exact ⟨htext.trans (congrArg configText hconfig), hvalid.mpr (by decide +kernel)⟩

end CpuSwitch.Gui
