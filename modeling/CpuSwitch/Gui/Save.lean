import CpuSwitch.Command.Model
import CpuSwitch.Gui.Widgets

/-! The frequency page at work: detection, editing, saving, and the commands it runs. -/
namespace CpuSwitch.Gui
open CLib Config Cpufreq Command

def configPath : String := "/etc/cpu-clock-switch.json"

def serviceName : String := "cpu-clock-switch.service"

/-- What happened so far, newest first. -/
inductive FrequencyEvent where
  | detected (minKhz maxKhz : UInt64)
  | undetected
  | spawned (argv : Argv)
  | installed (config : CpuConfig)
  | edited (file : ConfigFile)

inductive CardClass where
  | metricGood
  | metricCritical
  deriving DecidableEq

/-- The page, the configuration file under /etc, and the history. -/
structure FrequencySession where
  page : FrequencyState
  widgets : FrequencyWidgets
  serviceLabel : Text
  serviceCard : Option CardClass
  configFile : ConfigFile
  log : List FrequencyEvent

def FrequencySession.setStatus (session : FrequencySession) (message : String) (isError : Bool) :
    FrequencySession :=
  { session with page := session.page.setStatus message isError }

/-- Run a command; its answer may depend on everything that happened before. -/
def FrequencySession.spawn (session : FrequencySession) (shell : Shell) (argv : Argv) :
    Spawned × FrequencySession :=
  (shell session.log.length argv, { session with log := .spawned argv :: session.log })

def catArgv : Argv := systemctlArgv "cat" serviceName

def isActiveArgv : Argv := systemctlArgv "is-active" serviceName

def installArgv (temporaryPath : String) : Argv :=
  pkexecArgv ["install", "-m", "0644", temporaryPath, configPath]

def restartArgv : Argv := pkexecArgv ["systemctl", "restart", serviceName]

/-- `g_build_filename` for a first part that may end in separators. -/
def setupScript (appdir : String) : String :=
  String.ofList (appdir.toList.reverse.dropWhile (· = '/')).reverse ++
    "/usr/lib/cpu-switch-control/ensure-system-components.sh"

/-- What a click on one of the two save buttons meets. -/
structure SaveOutcome where
  temporary : Except (Option String) String
  write : WriteOutcome
  shell : Shell
  appdir : Option String
  executable : Bool

def frequencyServiceIsInstalled (shell : Shell) (session : FrequencySession) :
    Bool × FrequencySession :=
  let (answer, session) := session.spawn shell catArgv
  ((commandRun answer).1, session)

def ensureFrequencyService (outcome : SaveOutcome) (session : FrequencySession) :
    Except Text Unit × FrequencySession :=
  let (installed, session) := frequencyServiceIsInstalled outcome.shell session
  if installed then (.ok (), session)
  else
    let appdir := outcome.appdir.getD ""
    if appdir = "" then
      (.error ("O serviço cpu-clock-switch não está instalado. " ++
        "Reinstale o programa ou use o AppImage atualizado.").toList, session)
    else if outcome.executable = false then
      (.error ("O AppImage não contém o instalador do serviço. " ++
        "Use uma versão mais recente do CPU Switch Control.").toList, session)
    else
      let (answer, session) := session.spawn outcome.shell [setupScript appdir]
      let (ok, result) := commandRun answer
      if ok = false then (.error (commandFailureDetail result), session)
      else
        let (installed, session) := frequencyServiceIsInstalled outcome.shell session
        if installed = false then
          (.error ("A instalação terminou, mas o systemd ainda não encontrou " ++
            "cpu-clock-switch.service.").toList, session)
        else
          let (answer, session) := session.spawn outcome.shell isActiveArgv
          let state := commandSystemctlState answer
          (.ok (), { session with
            serviceLabel := if state = "active".toList then "Ativo".toList else state })

/-- The privileged part of a save, from the temporary file on; an install that fails is taken to
leave the old file in place. -/
def installConfig (outcome : SaveOutcome) (temporaryPath : String) (config : CpuConfig)
    (text : Text) (session : FrequencySession) : Except Text Unit × FrequencySession :=
  let (answer, session) := session.spawn outcome.shell (installArgv temporaryPath)
  match commandRunPkexec answer with
  | .error detail => (.error detail, session)
  | .ok _ =>
    (.ok (), { session with
      configFile := .readable text
      log := .installed config :: session.log })

/-- What follows an installed configuration when the service is to be restarted. -/
def restartService (outcome : SaveOutcome) (session : FrequencySession) :
    Except Text Unit × FrequencySession :=
  match ensureFrequencyService outcome session with
  | (.error detail, session) => (.error detail, session)
  | (.ok _, session) =>
    let (answer, session) := session.spawn outcome.shell restartArgv
    (commandRunPkexec answer, session)

def saveFrequencyConfig (outcome : SaveOutcome) (restart : Bool) (session : FrequencySession) :
    Bool × FrequencySession :=
  let failed (session : FrequencySession) (message : String) : Bool × FrequencySession :=
    (false, session.setStatus message true)
  if session.page.haveFrequencyRange = false then
    failed session "Não há uma faixa cpufreq válida para salvar."
  else
    let config := frequencyWidgetsToConfig session.widgets
    let session := { session with page := { session.page with config } }
    match cpuConfigValidate config session.page.minKhz session.page.maxKhz true with
    | .error message => failed session message
    | .ok _ =>
      match outcome.temporary with
      | .error message =>
        failed session (message.getD "Não foi possível criar arquivo temporário.")
      | .ok temporaryPath =>
        match cpuConfigWrite outcome.write config with
        | .error message => failed session message
        | .ok text =>
          match installConfig outcome temporaryPath config text session with
          | (.error detail, session) => failed session (String.ofList detail)
          | (.ok _, session) =>
            if restart then
              match restartService outcome session with
              | (.error detail, session) => failed session (String.ofList detail)
              | (.ok _, session) =>
                (true, session.setStatus "Configuração salva e serviço reiniciado." false)
            else
              (true, session.setStatus
                "Configuração salva. Reinicie o serviço para aplicá-la." false)

def refreshServiceStatus (shell : Shell) (session : FrequencySession) : FrequencySession :=
  let (installed, session) := frequencyServiceIsInstalled shell session
  if installed = false then
    { session with
      serviceLabel := "Não instalado".toList
      serviceCard := some .metricCritical }
  else
    let (answer, session) := session.spawn shell isActiveArgv
    let state := commandSystemctlState answer
    if state = "active".toList then
      { session with serviceLabel := "Ativo".toList, serviceCard := some .metricGood }
    else if state = "inactive".toList then
      { session with serviceLabel := "Inativo".toList, serviceCard := some .metricCritical }
    else { session with serviceLabel := state, serviceCard := some .metricCritical }

/-- `refresh_hardware_detection` with the widgets. -/
def detectHardware (k : Kernel) (dir : Directory) (reportSuccess : Bool)
    (session : FrequencySession) : FrequencySession :=
  let page := refreshHardwareDetection k dir reportSuccess session.page
  { session with
    page
    widgets := frequencyConfigToWidgets page session.widgets
    log := (if page.haveFrequencyRange then .detected page.minKhz page.maxKhz else .undetected) ::
      session.log }

/-- `on_frequency_defaults` with the widgets. -/
def restoreDefaults (session : FrequencySession) : FrequencySession :=
  let page := onFrequencyDefaults session.page
  { session with page, widgets := frequencyConfigToWidgets page session.widgets }

inductive FrequencyField where
  | lowThreshold
  | highThreshold
  | lowFrequency
  | highFrequency
  | interval

/-- The user sets a spin button. -/
def FrequencyWidgets.edit (widgets : FrequencyWidgets) (value : Double) :
    FrequencyField → FrequencyWidgets
  | .lowThreshold => { widgets with lowThresholdSpin := widgets.lowThresholdSpin.setValue value }
  | .highThreshold =>
    { widgets with highThresholdSpin := widgets.highThresholdSpin.setValue value }
  | .lowFrequency => { widgets with lowFrequencySpin := widgets.lowFrequencySpin.setValue value }
  | .highFrequency =>
    { widgets with highFrequencySpin := widgets.highFrequencySpin.setValue value }
  | .interval => { widgets with intervalSpin := widgets.intervalSpin.setValue value }

/-- The part of `activate` before the timers: load, build, detect, and show the load error. -/
def activatePage (k : Kernel) (dir : Directory) (file : ConfigFile) (log : List FrequencyEvent) :
    FrequencySession :=
  let session := detectHardware k dir false
    { page := loadFrequencyState file
      widgets := buildFrequencyPage
      serviceLabel := "—".toList
      serviceCard := none
      configFile := file
      log }
  match (cpuConfigLoad file).1 with
  | .ok _ => session.setStatus "" false
  | .error message => session.setStatus message true

def openPage (k : Kernel) (dir : Directory) (file : ConfigFile) : FrequencySession :=
  activatePage k dir file []

/-- What can happen to the page: its buttons, its spin buttons, its timer, another start of the
program, and changes of the configuration file from outside. -/
inductive PageAction where
  | refresh (k : Kernel) (dir : Directory)
  | defaults
  | type (field : FrequencyField) (value : Double)
  | save (outcome : SaveOutcome) (restart : Bool)
  | serviceTimer (shell : Shell)
  | reopen (k : Kernel) (dir : Directory)
  | edit (file : ConfigFile)

def pageStep (session : FrequencySession) : PageAction → FrequencySession
  | .refresh k dir => detectHardware k dir true session
  | .defaults => restoreDefaults session
  | .type field value => { session with widgets := session.widgets.edit value field }
  | .save outcome restart => (saveFrequencyConfig outcome restart session).2
  | .serviceTimer shell => refreshServiceStatus shell session
  | .reopen k dir => activatePage k dir session.configFile session.log
  | .edit file => { session with configFile := file, log := .edited file :: session.log }

end CpuSwitch.Gui
