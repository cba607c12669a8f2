import CpuSwitch.CLib.Run
import CpuSwitch.Command.Model
import CpuSwitch.Undervolt.Model

/-! The undervolt page: its widgets and the callbacks of its buttons. -/
namespace CpuSwitch.Gui
open CLib Undervolt

/-- The part of the application state and of its widgets that the undervolt page uses. -/
structure AppState where
  undervoltBackendLabel : String
  undervoltControlsSensitive : Bool
  undervoltSpins : Offsets
  undervoltDomainsVisible : Fin 5 → Bool
  undervoltBootCheck : Bool
  undervoltPresent : Fin 5 → Bool
  undervoltDomainsDetected : Bool
  undervoltProgram : Option String
  status : Option (String × Bool)

/-- What happened to the five offsets, newest first. -/
inductive Event where
  | loaded (offsets : Offsets)
  | measured (offsets : Offsets) (present : Fin 5 → Bool)
  | zeroed
  | handed (offsets : Offsets) (present : Mask)

/-- The window, the file it edits, and the history of the offsets. -/
structure Session where
  app : AppState
  configFile : ConfigFile
  log : List Event

/-- What a detection finds on the machine; `service` answers `systemctl is-enabled`. -/
structure Backend where
  isIntel : Bool
  program : Option String
  service : Command.Spawned

/-- A command fails with the detail shown to the user, or ends with its standard output. -/
inductive CommandResult where
  | failed (detail : String)
  | succeeded (stdoutText : Text)

/-- How the files and commands behind the apply button go. -/
structure ApplyOutcome where
  temporaryError : Option String
  temporary : Output
  install : CommandResult
  apply : CommandResult
  service : CommandResult

/-- The spin buttons start at the lower end of their range. -/
def buildUndervoltPage : AppState where
  undervoltBackendLabel := "Backend: detectando..."
  undervoltControlsSensitive := true
  undervoltSpins _ := undervoltMinMv
  undervoltDomainsVisible _ := true
  undervoltBootCheck := false
  undervoltPresent _ := false
  undervoltDomainsDetected := false
  undervoltProgram := none
  status := none

/-- An empty message hides the banner. -/
def setStatus (state : AppState) (message : String) (isError : Bool) : AppState :=
  { state with status := if message = "" then none else some (message, isError) }

/-- A spin button clamps what it is set to. -/
def undervoltValuesToWidgets (state : AppState) (offsets : Offsets) : AppState :=
  { state with
    undervoltSpins := fun index => (offsets index).clamp undervoltMinMv undervoltMaxMv }

def undervoltWidgetsToValues (state : AppState) : Offsets := state.undervoltSpins

def updateUndervoltDomainVisibility (state : AppState) : AppState :=
  { state with
    undervoltDomainsVisible := fun index =>
      !state.undervoltDomainsDetected || state.undervoltPresent index }

/-- The mask for the writer: NULL before any detection. -/
def AppState.mask (state : AppState) : Mask :=
  if state.undervoltDomainsDetected then some state.undervoltPresent else none

def refreshUndervoltBackend (backend : Backend) (session : Session) : Session :=
  let app := updateUndervoltDomainVisibility
    { session.app with
      undervoltDomainsDetected := false
      undervoltPresent := fun _ => false }
  let app := { app with undervoltProgram := backend.program }
  if backend.isIntel = false then
    { session with
      app := { app with
        undervoltBackendLabel := "Indisponível: o processador detectado não é Intel."
        undervoltControlsSensitive := false } }
  else match backend.program with
    | none =>
      { session with
        app := { app with
          undervoltBackendLabel := "Indisponível: intel-undervolt não está instalado."
          undervoltControlsSensitive := false } }
    | some program =>
      let app := { app with
        undervoltBackendLabel := s!"Backend: {program}"
        undervoltControlsSensitive := true }
      match undervoltLoadConfig session.configFile with
      | (.ok _, offsets) =>
        { session with
          app := { undervoltValuesToWidgets app offsets with
            undervoltBootCheck := Command.commandSystemctlIsEnabled backend.service }
          log := .loaded offsets :: session.log }
      | (.error message, _) =>
        -- The spin buttons keep their values.
        { session with
          app := { setStatus app message true with
            undervoltBootCheck := Command.commandSystemctlIsEnabled backend.service } }

def onUndervoltRead (result : CommandResult) (session : Session) : Session :=
  match session.app.undervoltProgram, result with
  | none, _ =>
    { session with app := setStatus session.app "intel-undervolt não está disponível." true }
  | some _, .failed detail => { session with app := setStatus session.app detail true }
  | some _, .succeeded stdoutText =>
    let report := undervoltParseReadOutputMasked stdoutText undervoltDefaults
    if report.found = 0 then
      { session with
        app := setStatus session.app
          "O backend respondeu, mas nenhum domínio de tensão pôde ser interpretado." true }
    else
      let app := updateUndervoltDomainVisibility
        { session.app with
          undervoltPresent := report.present
          undervoltDomainsDetected := true }
      { session with
        app := setStatus (undervoltValuesToWidgets app report.offsets)
          (s!"Hardware detectado: {report.found} domínio(s) de tensão suportado(s). " ++
            "Domínios ausentes foram ocultados e não serão alterados.") false
        log := .measured report.offsets report.present :: session.log }

/-- The call of the writer; the history keeps the offsets and the mask that it is passed. -/
def handToWriter (output : Output) (offsets : Offsets) (present : Mask) (session : Session) :
    (Except String Unit × Destination) × Session :=
  (undervoltWriteConfigCopyMasked session.configFile output offsets present,
    { session with log := .handed offsets present :: session.log })

/-- The return value tells whether the voltage was applied. -/
def writeAndApplyUndervolt (outcome : ApplyOutcome) (session : Session) : Bool × Session :=
  let offsets := undervoltWidgetsToValues session.app
  let failed (session : Session) (message : String) : Bool × Session :=
    (false, { session with app := setStatus session.app message true })
  match undervoltValidate offsets with
  | .error message => failed session message
  | .ok _ =>
    match outcome.temporaryError with
    | some message => failed session message
    | none =>
      match handToWriter outcome.temporary offsets session.app.mask session with
      | ((.error message, _), session) => failed session message
      | ((.ok _, destination), session) =>
        match outcome.install with
        | .failed detail => failed session detail
        | .succeeded _ =>
          let session := { session with
            configFile := match destination with
              | .stored text => .readable text
              | _ => session.configFile }
          match outcome.apply with
          | .failed detail => failed session detail
          | .succeeded _ =>
            match outcome.service with
            | .failed detail =>
              (true, { session with
                app := setStatus session.app
                  s!"Undervolt aplicado, mas não foi possível alterar o serviço de boot: {detail}"
                  true })
            | .succeeded _ =>
              (true, { session with
                app := setStatus session.app
                  (if session.app.undervoltBootCheck then
                    "Undervolt aplicado e configurado para o boot."
                  else "Undervolt aplicado; reaplicação automática no boot desativada.") false })

def onUndervoltApply (outcome : ApplyOutcome) (session : Session) : Session :=
  match session.app.undervoltProgram with
  | none =>
    { session with app := setStatus session.app "intel-undervolt não está disponível." true }
  | some _ => (writeAndApplyUndervolt outcome session).2

def onUndervoltZero (session : Session) : Session :=
  { session with
    app := setStatus (undervoltValuesToWidgets session.app undervoltDefaults)
      "Offsets colocados em 0 mV na tela; clique em aplicar para efetivar." false
    log := .zeroed :: session.log }

def onUndervoltRefresh (backend : Backend) (session : Session) : Session :=
  let session := refreshUndervoltBackend backend session
  { session with
    app := setStatus session.app "Detecção do backend de tensão atualizada." false }

/-- The page is built and detected; the banner then shows the frequency configuration's error. -/
def activate (configFile : ConfigFile) (backend : Backend) (configError : String) : Session :=
  let session := refreshUndervoltBackend backend ⟨buildUndervoltPage, configFile, []⟩
  { session with app := setStatus session.app configError (configError ≠ "") }

/-- The buttons of the page, the boot check, and changes of the file from outside. -/
inductive Action where
  | read (result : CommandResult)
  | apply (outcome : ApplyOutcome)
  | zero
  | refresh (backend : Backend)
  | check (atBoot : Bool)
  | edit (configFile : ConfigFile)

def step (session : Session) : Action → Session
  | .read result => onUndervoltRead result session
  | .apply outcome => onUndervoltApply outcome session
  | .zero => onUndervoltZero session
  | .refresh backend => onUndervoltRefresh backend session
  | .check atBoot => { session with app := { session.app with undervoltBootCheck := atBoot } }
  | .edit configFile => { session with configFile }

end CpuSwitch.Gui
