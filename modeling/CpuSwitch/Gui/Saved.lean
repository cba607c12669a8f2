import CpuSwitch.CLib.Run
import CpuSwitch.Gui.Save

/-! What the history of the frequency page tells about its files and commands. -/
namespace CpuSwitch.Gui
open CLib Config Cpufreq Command

/-- The range of the last detection, if it succeeded. -/
def lastDetection : List FrequencyEvent → Option (UInt64 × UInt64)
  | [] => none
  | .detected minKhz maxKhz :: _ => some (minKhz, maxKhz)
  | .undetected :: _ => none
  | _ :: log => lastDetection log

/-- The configuration file that the history accounts for. -/
def storedFile (first : ConfigFile) : List FrequencyEvent → ConfigFile
  | [] => first
  | .installed config :: _ => .readable (configText config)
  | .edited file :: _ => file
  | _ :: log => storedFile first log

def Unprivileged (argv : Argv) : Prop := argv.head? ≠ some "pkexec"

/-- Nothing but unprivileged commands happened since a configuration was installed. -/
def JustInstalled : List FrequencyEvent → Prop
  | .installed _ :: _ => True
  | .spawned argv :: log => Unprivileged argv ∧ JustInstalled log
  | _ => False

/-- What may happen after a given past: only a configuration that passes the save check for the
last detected range is installed, by the one command that does it, and nothing else is done with
privileges but to restart the service after that. -/
def Allowed : FrequencyEvent → List FrequencyEvent → Prop
  | .installed config, past =>
    (∃ temporaryPath earlier, past = .spawned (installArgv temporaryPath) :: earlier) ∧
      ∃ minKhz maxKhz, lastDetection past = some (minKhz, maxKhz) ∧
        cpuConfigValidate config minKhz maxKhz true = .ok ()
  | .spawned argv, past => Unprivileged argv ∨ (∃ temporaryPath, argv = installArgv temporaryPath) ∨
      argv = restartArgv ∧ JustInstalled past
  | _, _ => True

def Audited (log : List FrequencyEvent) : Prop :=
  ∀ event past, (event :: past) <:+ log → Allowed event past

/-- The invariant of the page. -/
structure Sound (first : ConfigFile) (session : FrequencySession) : Prop where
  fits : WidgetsFit session.page session.widgets
  range : session.page.haveFrequencyRange = true → session.page.minKhz ≤ session.page.maxKhz
  detection : lastDetection session.log =
    if session.page.haveFrequencyRange then some (session.page.minKhz, session.page.maxKhz)
    else none
  stored : session.configFile = storedFile first session.log
  audited : Audited session.log

/-- Some unprivileged commands later; the service card aside, nothing has changed. -/
structure Checked (session later : FrequencySession) : Prop where
  page : later.page = session.page
  widgets : later.widgets = session.widgets
  configFile : later.configFile = session.configFile
  label : later.serviceLabel = session.serviceLabel ∨ Presentable later.serviceLabel
  log : ∃ commands : List Argv, (∀ argv ∈ commands, Unprivileged argv) ∧
    later.log = commands.map FrequencyEvent.spawned ++ session.log

/-- Everything is at hand for a save to ask for privileges. -/
structure SaveReady (outcome : SaveOutcome) (session : FrequencySession) (temporaryPath : String) :
    Prop where
  detected : session.page.haveFrequencyRange = true
  valid : cpuConfigValidate (frequencyWidgetsToConfig session.widgets) session.page.minKhz
    session.page.maxKhz true = .ok ()
  temporary : outcome.temporary = .ok temporaryPath
  stored : outcome.write = .stored

/-- What the install that a save asks for returns and leaves behind. -/
def installWidgets (outcome : SaveOutcome) (temporaryPath : String) (session : FrequencySession) :
    Except Text Unit × FrequencySession :=
  let config := frequencyWidgetsToConfig session.widgets
  installConfig outcome temporaryPath config (configText config)
    { session with page := { session.page with config } }

section Log
variable {log : List FrequencyEvent} {event : FrequencyEvent} {first : ConfigFile}
  {commands : List Argv}

theorem audited_nil : Audited [] := by
  intro event past h
  simp at h

theorem audited_cons : Audited (event :: log) ↔ Allowed event log ∧ Audited log := by
  constructor
  · exact fun h => ⟨h event log List.suffix_rfl,
      fun other past hs => h other past (hs.trans (List.suffix_cons _ _))⟩
  · rintro ⟨hnew, hlog⟩ other past hs
    rcases List.suffix_cons_iff.mp hs with heq | hs
    · cases heq
      exact hnew
    · exact hlog other past hs

theorem lastDetection_commands :
    lastDetection (commands.map FrequencyEvent.spawned ++ log) = lastDetection log := by
  induction commands with
  | nil => rfl
  | cons argv commands ih => exact ih

theorem storedFile_commands :
    storedFile first (commands.map FrequencyEvent.spawned ++ log) = storedFile first log := by
  induction commands with
  | nil => rfl
  | cons argv commands ih => exact ih

section Detection
variable {c : Prop} [Decidable c] {minKhz maxKhz : UInt64}

theorem lastDetection_detection :
    lastDetection ((if c then .detected minKhz maxKhz else .undetected) :: log) =
      if c then some (minKhz, maxKhz) else none := by
  split_ifs <;> rfl

theorem storedFile_detection :
    storedFile first ((if c then .detected minKhz maxKhz else .undetected) :: log) =
      storedFile first log := by
  split_ifs <;> rfl

theorem allowed_detection :
    Allowed (if c then .detected minKhz maxKhz else .undetected) log := by
  split_ifs <;> trivial

end Detection

theorem audited_commands (h : ∀ argv ∈ commands, Unprivileged argv) (ha : Audited log) :
    Audited (commands.map FrequencyEvent.spawned ++ log) := by
  induction commands with
  | nil => exact ha
  | cons argv commands ih =>
    exact audited_cons.mpr ⟨Or.inl (h argv List.mem_cons_self),
      ih fun other ho => h other (List.mem_cons_of_mem _ ho)⟩

theorem justInstalled_commands (h : ∀ argv ∈ commands, Unprivileged argv)
    (hj : JustInstalled log) : JustInstalled (commands.map FrequencyEvent.spawned ++ log) := by
  induction commands with
  | nil => exact hj
  | cons argv commands ih =>
    exact ⟨h argv List.mem_cons_self, ih fun other ho => h other (List.mem_cons_of_mem _ ho)⟩

end Log

section Commands
variable {session later last : FrequencySession} {shell : Shell} {argv : Argv}
  {outcome : SaveOutcome} {first : ConfigFile} {appdir : String}

theorem unprivileged_systemctl {verb unit : String} : Unprivileged (systemctlArgv verb unit) := by
  simp [Unprivileged, systemctlArgv]

/-- The setup script asks for privileges on its own. -/
theorem unprivileged_setupScript : Unprivileged [setupScript appdir] := by
  intro h
  have hname : setupScript appdir = "pkexec" := by simpa using h
  have hlength := congrArg String.length hname
  have hscript : "/usr/lib/cpu-switch-control/ensure-system-components.sh".length = 55 := by decide
  have hpkexec : "pkexec".length = 6 := by decide
  rw [setupScript, String.length_append, hscript, hpkexec] at hlength
  omega

theorem Checked.trans (h : Checked session later) (h' : Checked later last) :
    Checked session last := by
  obtain ⟨commands, hall, hlog⟩ := h.log
  obtain ⟨commands', hall', hlog'⟩ := h'.log
  refine ⟨h'.page.trans h.page, h'.widgets.trans h.widgets, h'.configFile.trans h.configFile,
    ?_, commands' ++ commands, ?_, ?_⟩
  · rcases h'.label with hsame | hnew
    · rw [hsame]
      exact h.label
    · exact Or.inr hnew
  · intro argv hmem
    exact (List.mem_append.mp hmem).elim (hall' argv) (hall argv)
  · rw [hlog', hlog, List.map_append, List.append_assoc]

theorem checked_spawn (shell : Shell) (h : Unprivileged argv) :
    Checked session (session.spawn shell argv).2 :=
  ⟨rfl, rfl, rfl, Or.inl rfl, [argv], by simpa using h, rfl⟩

theorem Checked.shown {label : Text} {card : Option CardClass} (h : Checked session later)
    (hlabel : Presentable label) :
    Checked session { later with serviceLabel := label, serviceCard := card } :=
  ⟨h.page, h.widgets, h.configFile, Or.inr hlabel, h.log⟩

theorem checked_isInstalled (shell : Shell) :
    Checked session (frequencyServiceIsInstalled shell session).2 :=
  checked_spawn shell unprivileged_systemctl

theorem checked_ensure : Checked session (ensureFrequencyService outcome session).2 := by
  have hcat : Checked session (frequencyServiceIsInstalled outcome.shell session).2 :=
    checked_isInstalled _
  unfold ensureFrequencyService
  generalize frequencyServiceIsInstalled outcome.shell session = asked at hcat ⊢
  have hscript {appdir : String} := hcat.trans (checked_spawn outcome.shell
    (@unprivileged_setupScript appdir))
  have hagain {appdir : String} := (@hscript appdir).trans (checked_isInstalled outcome.shell)
  dsimp only
  split_ifs
  · exact hcat
  · exact hcat
  · exact hcat
  · exact hscript
  · exact hagain
  · exact (hagain.trans (checked_spawn outcome.shell unprivileged_systemctl)).shown (by decide)
  · exact (hagain.trans (checked_spawn outcome.shell unprivileged_systemctl)).shown
      (presentable_commandSystemctlState _)

theorem checked_refreshServiceStatus : Checked session (refreshServiceStatus shell session) := by
  have hcat : Checked session (frequencyServiceIsInstalled shell session).2 := checked_isInstalled _
  unfold refreshServiceStatus
  generalize frequencyServiceIsInstalled shell session = asked at hcat ⊢
  have hactive : Checked session (asked.2.spawn shell isActiveArgv).2 :=
    hcat.trans (checked_spawn shell unprivileged_systemctl)
  dsimp only
  split_ifs
  · exact hcat.shown (by decide)
  · exact hactive.shown (by decide)
  · exact hactive.shown (by decide)
  · exact hactive.shown (presentable_commandSystemctlState _)

end Commands

section Save
variable {session : FrequencySession} {outcome : SaveOutcome} {restart : Bool}
  {temporaryPath : String}

theorem cpuConfigWrite_ok {write : WriteOutcome} {config : CpuConfig} {text : Text}
    (h : cpuConfigWrite write config = .ok text) : write = .stored := by
  cases write <;> cases h
  rfl

/-- Without a range, a valid configuration or a temporary file, all that a save changes is the
configuration in memory and the banner. -/
theorem save_unready (h : ∀ temporaryPath, ¬ SaveReady outcome session temporaryPath) :
    ∃ config status, saveFrequencyConfig outcome restart session =
      (false, { session with page := { session.page with config, status } }) := by
  unfold saveFrequencyConfig
  dsimp only
  by_cases hdetected : session.page.haveFrequencyRange = false
  · rw [if_pos hdetected]
    exact ⟨_, _, rfl⟩
  · rw [if_neg hdetected]
    cases hv : cpuConfigValidate (frequencyWidgetsToConfig session.widgets) session.page.minKhz
        session.page.maxKhz true with
    | error message => exact ⟨_, _, rfl⟩
    | ok _ =>
      cases htemporary : outcome.temporary with
      | error message => exact ⟨_, _, rfl⟩
      | ok temporaryPath =>
        cases hwrite : cpuConfigWrite outcome.write (frequencyWidgetsToConfig session.widgets) with
        | error message => exact ⟨_, _, rfl⟩
        | ok text =>
          exact (h temporaryPath ⟨Bool.eq_true_of_not_eq_false hdetected, hv, htemporary,
            cpuConfigWrite_ok hwrite⟩).elim

/-- The ways in which a save goes on from there, the banner aside. -/
theorem save_ready (h : SaveReady outcome session temporaryPath) :
    ∃ message isError,
      ((installWidgets outcome temporaryPath session).1 ≠ .ok () ∧
        saveFrequencyConfig outcome restart session =
          (false, (installWidgets outcome temporaryPath session).2.setStatus message isError)) ∨
      (installWidgets outcome temporaryPath session).1 = .ok () ∧
        ((restart = false ∧ saveFrequencyConfig outcome restart session =
          (true, (installWidgets outcome temporaryPath session).2.setStatus message isError)) ∨
        restart = true ∧ ∃ done, saveFrequencyConfig outcome restart session =
            (done, (restartService outcome
              (installWidgets outcome temporaryPath session).2).2.setStatus message isError) ∧
          (done = true → (restartService outcome
            (installWidgets outcome temporaryPath session).2).1 = .ok ())) := by
  have hwrite : cpuConfigWrite outcome.write (frequencyWidgetsToConfig session.widgets) =
      .ok (configText (frequencyWidgetsToConfig session.widgets)) := by
    rw [h.stored]
    rfl
  -- The checks up to the temporary file's contents all succeed.
  unfold saveFrequencyConfig
  dsimp only
  rw [if_neg (by simp [h.detected]), h.valid]
  dsimp only
  rw [h.temporary]
  dsimp only
  rw [hwrite]
  dsimp only
  generalize hinstalled : installConfig outcome temporaryPath _ _ _ = installed
  rw [show installWidgets outcome temporaryPath session = installed from hinstalled]
  obtain ⟨result, later⟩ := installed
  cases result with
  | error detail => exact ⟨_, _, Or.inl ⟨by simp, rfl⟩⟩
  | ok _ =>
    cases restart with
    | false => exact ⟨_, _, Or.inr ⟨rfl, Or.inl ⟨rfl, rfl⟩⟩⟩
    | true =>
      dsimp only
      rw [if_pos rfl]
      generalize restartService outcome later = restarted
      obtain ⟨result, final⟩ := restarted
      cases result with
      | error detail => exact ⟨_, _, Or.inr ⟨rfl, Or.inr ⟨rfl, false, rfl, by simp⟩⟩⟩
      | ok _ => exact ⟨_, _, Or.inr ⟨rfl, Or.inr ⟨rfl, true, rfl, fun _ => rfl⟩⟩⟩

/-- The install is asked for, and its answer decides about the file. -/
theorem installWidgets_frame (outcome : SaveOutcome) (temporaryPath : String)
    (session : FrequencySession) :
    (.spawned (installArgv temporaryPath) :: session.log) <:+
        (installWidgets outcome temporaryPath session).2.log ∧
      match commandRunPkexec (outcome.shell session.log.length (installArgv temporaryPath)) with
      | .ok _ =>
        (installWidgets outcome temporaryPath session).1 = .ok () ∧
          (installWidgets outcome temporaryPath session).2.configFile =
            .readable (configText (frequencyWidgetsToConfig session.widgets))
      | .error _ =>
        (installWidgets outcome temporaryPath session).1 ≠ .ok () ∧
          (installWidgets outcome temporaryPath session).2.configFile = session.configFile := by
  unfold installWidgets installConfig
  dsimp only [FrequencySession.spawn]
  cases commandRunPkexec (outcome.shell session.log.length (installArgv temporaryPath)) with
  | error detail => exact ⟨List.suffix_rfl, nofun, rfl⟩
  | ok _ => exact ⟨List.suffix_cons _ _, rfl, rfl⟩

/-- A restart only runs commands. -/
theorem restartService_frame (outcome : SaveOutcome) (session : FrequencySession) :
    session.log <:+ (restartService outcome session).2.log ∧
      (restartService outcome session).2.configFile = session.configFile ∧
      ((restartService outcome session).2.serviceLabel = session.serviceLabel ∨
        Presentable (restartService outcome session).2.serviceLabel) := by
  have hchecked : Checked session (ensureFrequencyService outcome session).2 := checked_ensure
  unfold restartService
  generalize ensureFrequencyService outcome session = ensured at hchecked ⊢
  obtain ⟨result, later⟩ := ensured
  obtain ⟨commands, -, hlog⟩ := hchecked.log
  cases result with
  | error detail => exact ⟨⟨_, hlog.symm⟩, hchecked.configFile, hchecked.label⟩
  | ok _ =>
    exact ⟨List.IsSuffix.trans ⟨_, hlog.symm⟩ (List.suffix_cons _ _), hchecked.configFile,
      hchecked.label⟩

theorem restartService_ok (outcome : SaveOutcome) (session : FrequencySession) :
    (restartService outcome session).1 = .ok () →
      (restartService outcome session).2.log.head? = some (.spawned restartArgv) := by
  unfold restartService
  generalize ensureFrequencyService outcome session = ensured
  obtain ⟨result, later⟩ := ensured
  cases result with
  | error detail => exact nofun
  | ok _ => exact fun _ => rfl

theorem save_asks (h : SaveReady outcome session temporaryPath) :
    (.spawned (installArgv temporaryPath) :: session.log) <:+
        (saveFrequencyConfig outcome restart session).2.log ∧
      match commandRunPkexec (outcome.shell session.log.length (installArgv temporaryPath)) with
      | .ok _ =>
        (saveFrequencyConfig outcome restart session).2.configFile =
          .readable (configText (frequencyWidgetsToConfig session.widgets))
      | .error _ =>
        (saveFrequencyConfig outcome restart session).1 = false ∧
          (saveFrequencyConfig outcome restart session).2.configFile = session.configFile := by
  obtain ⟨hlog, hfile⟩ := installWidgets_frame outcome temporaryPath session
  have hrestart := restartService_frame outcome (installWidgets outcome temporaryPath session).2
  cases hanswer : commandRunPkexec (outcome.shell session.log.length
      (installArgv temporaryPath)) with
  | error detail =>
    rw [hanswer] at hfile
    obtain ⟨hfailed, hfile⟩ := hfile
    obtain ⟨message, isError, ⟨-, heq⟩ | ⟨hok, -⟩⟩ := save_ready h
    · rw [heq]
      exact ⟨hlog, rfl, hfile⟩
    · exact (hfailed hok).elim
  | ok _ =>
    rw [hanswer] at hfile
    obtain ⟨hok, hfile⟩ := hfile
    obtain ⟨message, isError, ⟨hfailed, -⟩ | ⟨-, ⟨-, heq⟩ | ⟨-, done, heq, -⟩⟩⟩ := save_ready h
    · exact (hfailed hok).elim
    · rw [heq]
      exact ⟨hlog, hfile⟩
    · rw [heq]
      exact ⟨hlog.trans hrestart.1, hrestart.2.1.trans hfile⟩

end Save

section Sound
variable {session later : FrequencySession} {first : ConfigFile} {k : Kernel} {dir : Directory}
  {outcome : SaveOutcome} {restart : Bool} {temporaryPath : String} {message : String}
  {isError : Bool}

theorem WidgetsFit.congr {page page' : FrequencyState} {widgets : FrequencyWidgets}
    (h : WidgetsFit page widgets)
    (hdetected : page'.haveFrequencyRange = page.haveFrequencyRange)
    (hmin : page'.minKhz = page.minKhz) (hmax : page'.maxKhz = page.maxKhz) :
    WidgetsFit page' widgets := by
  refine ⟨h.lowThreshold, h.highThreshold, h.interval, ?_, ?_⟩ <;> rw [hdetected, hmin, hmax]
  · exact h.lowFrequency
  · exact h.highFrequency

theorem Sound.setStatus (h : Sound first session) :
    Sound first (session.setStatus message isError) :=
  ⟨h.fits.congr rfl rfl rfl, h.range, h.detection, h.stored, h.audited⟩

theorem Sound.config (h : Sound first session) (config : CpuConfig) :
    Sound first { session with page := { session.page with config } } :=
  ⟨h.fits.congr rfl rfl rfl, h.range, h.detection, h.stored, h.audited⟩

theorem Sound.checked (h : Sound first session) (hc : Checked session later) :
    Sound first later := by
  obtain ⟨commands, hall, hlog⟩ := hc.log
  constructor
  · rw [hc.page, hc.widgets]
    exact h.fits
  · rw [hc.page]
    exact h.range
  · rw [hlog, lastDetection_commands, hc.page]
    exact h.detection
  · rw [hlog, storedFile_commands, hc.configFile]
    exact h.stored
  · rw [hlog]
    exact audited_commands hall h.audited

/-- One more command, with privileges or without. -/
theorem Sound.spawned {argv : Argv} (h : Sound first session)
    (ha : Allowed (.spawned argv) session.log) :
    Sound first { session with log := .spawned argv :: session.log } :=
  ⟨h.fits, h.range, h.detection, h.stored, audited_cons.mpr ⟨ha, h.audited⟩⟩

theorem sound_installWidgets (h : Sound first session)
    (hr : SaveReady outcome session temporaryPath) :
    Sound first (installWidgets outcome temporaryPath session).2 ∧
      ((installWidgets outcome temporaryPath session).1 = .ok () →
        JustInstalled (installWidgets outcome temporaryPath session).2.log) := by
  have hspawned := (h.config (frequencyWidgetsToConfig session.widgets)).spawned
    (Or.inr (Or.inl ⟨temporaryPath, rfl⟩))
  have hrange : lastDetection session.log = some (session.page.minKhz, session.page.maxKhz) := by
    rw [h.detection, if_pos hr.detected]
  unfold installWidgets installConfig
  dsimp only [FrequencySession.spawn]
  split
  · exact ⟨hspawned, nofun⟩
  · refine ⟨⟨hspawned.fits, hspawned.range, hspawned.detection, rfl, ?_⟩, fun _ => trivial⟩
    exact audited_cons.mpr
      ⟨⟨⟨temporaryPath, _, rfl⟩, _, _, hrange, hr.valid⟩, hspawned.audited⟩

theorem sound_restartService (outcome : SaveOutcome) (h : Sound first session)
    (hj : JustInstalled session.log) :
    Sound first (restartService outcome session).2 := by
  have hchecked : Checked session (ensureFrequencyService outcome session).2 := checked_ensure
  unfold restartService
  generalize ensureFrequencyService outcome session = ensured at hchecked ⊢
  obtain ⟨result, later⟩ := ensured
  cases result with
  | error detail => exact h.checked hchecked
  | ok _ =>
    obtain ⟨commands, hall, hlog⟩ := hchecked.log
    have hjust : JustInstalled later.log := by
      rw [hlog]
      exact justInstalled_commands hall hj
    exact (h.checked hchecked).spawned (Or.inr (Or.inr ⟨rfl, hjust⟩))

theorem sound_save (h : Sound first session) :
    Sound first (saveFrequencyConfig outcome restart session).2 := by
  by_cases hready : ∃ temporaryPath, SaveReady outcome session temporaryPath
  · obtain ⟨temporaryPath, hready⟩ := hready
    obtain ⟨hinstalled, hjust⟩ := sound_installWidgets h hready
    obtain ⟨message, isError, ⟨-, heq⟩ | ⟨hok, ⟨-, heq⟩ | ⟨-, done, heq, -⟩⟩⟩ := save_ready hready
    · rw [heq]
      exact hinstalled.setStatus
    · rw [heq]
      exact hinstalled.setStatus
    · rw [heq]
      exact (sound_restartService outcome hinstalled (hjust hok)).setStatus
  · obtain ⟨config, status, heq⟩ := save_unready (not_exists.mp hready)
    rw [heq]
    exact ⟨h.fits.congr rfl rfl rfl, h.range, h.detection, h.stored, h.audited⟩

theorem refresh_range {page : FrequencyState} {reportSuccess : Bool}
    (h : (refreshHardwareDetection k dir reportSuccess page).haveFrequencyRange = true) :
    (refreshHardwareDetection k dir reportSuccess page).minKhz ≤
      (refreshHardwareDetection k dir reportSuccess page).maxKhz := by
  have hfit := adapted_refresh h
  exact hfit.lowest.trans (hfit.ordered.trans hfit.highest)

/-- A detection settles the range, whatever was known before. -/
theorem sound_detectHardware {reportSuccess : Bool}
    (hfits : WidgetsFit session.page session.widgets)
    (hstored : session.configFile = storedFile first session.log) (haudited : Audited session.log) :
    Sound first (detectHardware k dir reportSuccess session) := by
  unfold detectHardware
  have hrange := @refresh_range k dir session.page reportSuccess
  generalize refreshHardwareDetection k dir reportSuccess session.page = page at hrange ⊢
  exact ⟨widgetsFit_show hfits hrange, hrange, lastDetection_detection,
    hstored.trans storedFile_detection.symm, audited_cons.mpr ⟨allowed_detection, haudited⟩⟩

theorem sound_activatePage {file : ConfigFile} {log : List FrequencyEvent}
    (hstored : file = storedFile first log) (haudited : Audited log) :
    Sound first (activatePage k dir file log) := by
  have hdetect : Sound first (detectHardware k dir false
      { page := loadFrequencyState file
        widgets := buildFrequencyPage
        serviceLabel := "—".toList
        serviceCard := none
        configFile := file
        log }) :=
    sound_detectHardware (widgetsFit_build rfl) hstored haudited
  unfold activatePage
  dsimp only
  cases (cpuConfigLoad file).1 with
  | ok _ => exact hdetect.setStatus
  | error message => exact hdetect.setStatus

theorem WidgetsFit.edit {page : FrequencyState} {widgets : FrequencyWidgets}
    (h : WidgetsFit page widgets) (value : Double) (field : FrequencyField) :
    WidgetsFit page (widgets.edit value field) := by
  have hrange := fun spin : SpinButton => spin.setValue_range value
  cases field with
  | lowThreshold =>
    exact { h with
      lowThreshold := ⟨(hrange _).1.trans h.lowThreshold.1, (hrange _).2.trans h.lowThreshold.2⟩ }
  | highThreshold =>
    exact { h with
      highThreshold :=
        ⟨(hrange _).1.trans h.highThreshold.1, (hrange _).2.trans h.highThreshold.2⟩ }
  | lowFrequency =>
    exact { h with
      lowFrequency := fun hd =>
        ⟨(hrange _).1.trans (h.lowFrequency hd).1, (hrange _).2.trans (h.lowFrequency hd).2⟩ }
  | highFrequency =>
    exact { h with
      highFrequency := fun hd =>
        ⟨(hrange _).1.trans (h.highFrequency hd).1, (hrange _).2.trans (h.highFrequency hd).2⟩ }
  | interval =>
    exact { h with
      interval := ⟨(hrange _).1.trans h.interval.1, (hrange _).2.trans h.interval.2⟩ }

theorem sound_step (h : Sound first session) (action : PageAction) :
    Sound first (pageStep session action) := by
  cases action with
  | refresh k dir => exact sound_detectHardware h.fits h.stored h.audited
  | defaults =>
    have hfits : WidgetsFit (onFrequencyDefaults session.page) session.widgets :=
      h.fits.congr rfl rfl rfl
    exact ⟨widgetsFit_show hfits h.range, h.range, h.detection, h.stored, h.audited⟩
  | type field value => exact ⟨h.fits.edit value field, h.range, h.detection, h.stored, h.audited⟩
  | save outcome restart => exact sound_save h
  | serviceTimer shell => exact h.checked checked_refreshServiceStatus
  | reopen k dir => exact sound_activatePage h.stored h.audited
  | edit file =>
    exact ⟨h.fits, h.range, h.detection, rfl, audited_cons.mpr ⟨trivial, h.audited⟩⟩

/-- Whatever is done on the page. -/
theorem sound_run {file : ConfigFile} (actions : List PageAction) :
    Sound file (run pageStep (openPage k dir file) actions) := by
  apply run_invariant (sound_activatePage rfl audited_nil)
  exact fun session action h => sound_step h action

end Sound

section Label
variable {session : FrequencySession} {outcome : SaveOutcome} {restart : Bool}

theorem installWidgets_label {temporaryPath : String} :
    (installWidgets outcome temporaryPath session).2.serviceLabel = session.serviceLabel := by
  unfold installWidgets installConfig
  dsimp only [FrequencySession.spawn]
  split <;> rfl

theorem presentable_save (h : Presentable session.serviceLabel) :
    Presentable (saveFrequencyConfig outcome restart session).2.serviceLabel := by
  by_cases hready : ∃ temporaryPath, SaveReady outcome session temporaryPath
  · obtain ⟨temporaryPath, hready⟩ := hready
    have hinstalled :
        Presentable (installWidgets outcome temporaryPath session).2.serviceLabel := by
      rw [installWidgets_label]
      exact h
    obtain ⟨message, isError, ⟨-, heq⟩ | ⟨-, ⟨-, heq⟩ | ⟨-, done, heq, -⟩⟩⟩ := save_ready hready
    · rw [heq]
      exact hinstalled
    · rw [heq]
      exact hinstalled
    · rw [heq]
      rcases (restartService_frame outcome
        (installWidgets outcome temporaryPath session).2).2.2 with hsame | hnew
      · exact hsame ▸ hinstalled
      · exact hnew
  · obtain ⟨config, status, heq⟩ := save_unready (not_exists.mp hready)
    rw [heq]
    exact h

theorem presentable_activatePage {k : Kernel} {dir : Directory} {file : ConfigFile}
    {log : List FrequencyEvent} : Presentable (activatePage k dir file log).serviceLabel := by
  have hdash : Presentable "—".toList := by decide
  unfold activatePage
  dsimp only
  cases (cpuConfigLoad file).1 with
  | ok _ => exact hdash
  | error message => exact hdash

theorem presentable_step (h : Presentable session.serviceLabel) (action : PageAction) :
    Presentable (pageStep session action).serviceLabel := by
  cases action with
  | refresh k dir => exact h
  | defaults => exact h
  | type field value => exact h
  | save outcome restart => exact presentable_save h
  | serviceTimer shell =>
    rcases (@checked_refreshServiceStatus session shell).label with hsame | hnew
    · exact hsame ▸ h
    · exact hnew
  | reopen k dir => exact presentable_activatePage
  | edit file => exact h

end Label

/-- Whatever `systemctl` prints, the service card always shows a text, and without margins. -/
theorem service_label_presentable (k : Kernel) (dir : Directory) (file : ConfigFile)
    (actions : List PageAction) :
    Presentable (run pageStep (openPage k dir file) actions).serviceLabel :=
  run_invariant (P := fun session : FrequencySession => Presentable session.serviceLabel)
    presentable_activatePage fun _ action h => presentable_step h action

/-- Every command succeeds, and `systemctl` has nothing to say. -/
def grantedOutcome : SaveOutcome :=
  ⟨.ok "/tmp/cpu-clock-switch-A1B2C3", .stored, fun _ _ => .ended true [] [], none, false⟩

/-- All five fields are edited; the high clock is typed above the range of the machine. -/
def editedActions : List PageAction :=
  [.type .lowThreshold (.finite 9.94), .type .highThreshold (.finite 9.96),
    .type .lowFrequency (.finite 900), .type .highFrequency (.finite 4800),
    .type .interval (.finite 250)]

end CpuSwitch.Gui
