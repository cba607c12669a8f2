import CpuSwitch.CLib.Run

/-! The setup that an AppImage makes on the machine, and what an interruption leaves behind. -/
namespace CpuSwitch.Setup
open CLib

abbrev Bytes := List UInt8

/-- A file under its final path; `install` sets the mode last. -/
structure Installed where
  bytes : Bytes
  finished : Bool
  deriving DecidableEq

/-- How a call of `install` ends: the old file is unlinked before the new one is written. -/
inductive Result where
  | done
  | refused
  | unlinked
  | cut (length : ℕ)
  deriving DecidableEq

def install (result : Result) (source : Bytes) (old : Option Installed) : Option Installed :=
  match result with
  | .done => some ⟨source, true⟩
  | .refused => old
  | .unlinked => none
  | .cut length => some ⟨source.take length, false⟩

/-- The files of an AppImage that the setup wants. -/
structure AppImage where
  approot : String
  daemon : Option Bytes
  unit : Option Bytes
  defaultConfig : Option Bytes
  installer : Bool
  deriving DecidableEq

/-- What the setup copies for the installer. -/
structure Components where
  daemon : Bytes
  unit : Bytes
  defaultConfig : Bytes

/-- The three files on the machine, and the service manager: whether it starts the service at boot,
and whether it has read the unit and started the service since one of the two was written. -/
structure System where
  daemon : Option Installed
  unit : Option Installed
  config : Option Installed
  enabled : Bool
  told : Bool
  deriving DecidableEq

/-- Nothing was ever installed. -/
def System.bare : System := ⟨none, none, none, false, false⟩

/-- How the commands of one setup go, and what the one that fails prints. -/
structure Course where
  pkexecFound : Bool
  staged : Bool
  authorized : Bool
  root : Bool
  daemonFound : Bool
  unitFound : Bool
  configFound : Bool
  daemon : Result
  unit : Result
  config : Result
  reload : Bool
  enable : Bool
  restart : Bool
  complaint : String
  deriving DecidableEq

/-- The test of the mode and `cmp -s`, which cannot read a file that has not got its mode. -/
def upToDate (source : Option Bytes) (target : Option Installed) : Bool :=
  match source, target with
  | some bytes, some file => file.finished && file.bytes = bytes
  | _, _ => false

def needSetup (image : AppImage) (s : System) : Bool :=
  !upToDate image.daemon s.daemon || !upToDate image.unit s.unit

/-- The embedded files that have to exist: all of them, or the first that does not. -/
def AppImage.required (image : AppImage) : Except String Components :=
  match image.daemon, image.unit, image.defaultConfig with
  | none, _, _ => .error (image.approot ++ "/usr/bin/cpu-clock-switch-daemon")
  | some _, none, _ =>
    .error (image.approot ++ "/usr/share/cpu-switch-control/cpu-clock-switch.service")
  | some _, some _, none =>
    .error (image.approot ++ "/usr/share/cpu-switch-control/cpu-clock-switch.json")
  | some daemon, some unit, some defaultConfig =>
    if image.installer then .ok ⟨daemon, unit, defaultConfig⟩
    else .error (image.approot ++ "/usr/lib/cpu-switch-control/install-system-components.sh")

def System.installDaemon (s : System) (result : Result) (source : Bytes) : System :=
  { s with daemon := install result source s.daemon, told := s.told && result = .refused }

def System.installUnit (s : System) (result : Result) (source : Bytes) : System :=
  { s with unit := install result source s.unit, told := s.told && result = .refused }

/-- The three calls of `systemctl`. -/
def activateService (course : Course) (s : System) : Except String Unit × System :=
  if course.reload = false then (.error course.complaint, s)
  else if course.enable = false then (.error course.complaint, s)
  else
    let s := { s with enabled := true }
    if course.restart = false then (.error course.complaint, s)
    else (.ok (), { s with told := true })

/-- Settings that exist are left alone, whatever they are. -/
def installConfig (course : Course) (source : Bytes) (s : System) : Except String Unit × System :=
  if s.config.isSome then (.ok (), s)
  else
    let s := { s with config := install course.config source s.config }
    if course.config = .done then (.ok (), s) else (.error course.complaint, s)

/-- `install-system-components.sh`, which stops at the first command that fails. -/
def installSystemComponents (course : Course) (components : Components) (s : System) :
    Except String Unit × System :=
  if course.root = false then
    (.error "Este instalador precisa ser executado via pkexec/root.", s)
  else if course.daemonFound = false then (.error "Daemon temporário não encontrado.", s)
  else if course.unitFound = false then
    (.error "Unidade systemd temporária não encontrada.", s)
  else if course.configFound = false then
    (.error "Configuração padrão temporária não encontrada.", s)
  else
    let s := s.installDaemon course.daemon components.daemon
    if course.daemon ≠ .done then (.error course.complaint, s)
    else
      let s := s.installUnit course.unit components.unit
      if course.unit ≠ .done then (.error course.complaint, s)
      else match installConfig course components.defaultConfig s with
        | (.error message, s) => (.error message, s)
        | (.ok _, s) => activateService course s

/-- `ensure-system-components.sh`. -/
def ensureSystemComponents (course : Course) (image : AppImage) (s : System) :
    Except String Unit × System :=
  if needSetup image s = false then (.ok (), s)
  else if course.pkexecFound = false then
    (.error "pkexec não está disponível; não foi possível instalar o serviço.", s)
  else match image.required with
    | .error required => (.error s!"Componente embutido ausente: {required}", s)
    | .ok components =>
      if course.staged = false ∨ course.authorized = false then (.error course.complaint, s)
      else installSystemComponents course components s

/-- The setup by some AppImage, a save by the page, the restart of the service that may follow a
save, and another boot of the machine. A restart reads the unit again only where the service
manager has dropped what it knew of it. -/
inductive Event where
  | setup (image : AppImage) (course : Course)
  | save (bytes : Bytes) (result : Result)
  | restart (reread : Bool)
  | reboot
  deriving DecidableEq

def step (s : System) : Event → System
  | .setup image course => (ensureSystemComponents course image s).2
  | .save bytes result => { s with config := install result bytes s.config }
  | .restart reread => { s with told := s.told || reread }
  | .reboot => { s with told := s.enabled }

/-- The machine after each command of the installer. -/
def stages (course : Course) (components : Components) (s : System) : List System :=
  let withDaemon := s.installDaemon course.daemon components.daemon
  let withUnit := withDaemon.installUnit course.unit components.unit
  let withConfig := (installConfig course components.defaultConfig withUnit).2
  [withDaemon, withUnit, withConfig, { withConfig with enabled := true },
    { withConfig with enabled := true, told := true }]

section
variable {image : AppImage} {components : Components} {course : Course} {s : System}

theorem activateService_cases : (activateService course s).2 = s ∨
    (activateService course s).2 = { s with enabled := true } ∨
    (activateService course s).2 = { s with enabled := true, told := true } := by
  unfold activateService
  dsimp only
  split_ifs
  · exact Or.inl rfl
  · exact Or.inl rfl
  · exact Or.inr (Or.inl rfl)
  · exact Or.inr (Or.inr rfl)

theorem installer_cases : (installSystemComponents course components s).2 = s ∨
    (installSystemComponents course components s).2 ∈ stages course components s := by
  unfold installSystemComponents stages
  dsimp only
  split_ifs
  · exact Or.inl rfl
  · exact Or.inl rfl
  · exact Or.inl rfl
  · exact Or.inl rfl
  · exact Or.inr (by simp)
  · exact Or.inr (by simp)
  · generalize installConfig course components.defaultConfig _ = configured
    obtain ⟨result, later⟩ := configured
    cases result with
    | error message => exact Or.inr (by simp)
    | ok _ =>
      rcases @activateService_cases course later with h | h | h
      · exact Or.inr (by simp [h])
      · exact Or.inr (by simp [h])
      · exact Or.inr (by simp [h])

/-- A setup does nothing, or it gets as far as one of the commands of the installer. -/
theorem ensure_cases : (ensureSystemComponents course image s).2 = s ∨
    ∃ components, image.required = .ok components ∧
      (ensureSystemComponents course image s).2 ∈ stages course components s := by
  unfold ensureSystemComponents
  cases himage : image.required with
  | error required =>
    dsimp only
    split_ifs
    · exact Or.inl rfl
    · exact Or.inl rfl
    · exact Or.inl rfl
  | ok components =>
    dsimp only
    split_ifs
    · exact Or.inl rfl
    · exact Or.inl rfl
    · exact Or.inl rfl
    · rcases @installer_cases components course s with h | h
      · exact Or.inl h
      · exact Or.inr ⟨components, rfl, h⟩

end

end CpuSwitch.Setup
