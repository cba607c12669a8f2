import CpuSwitch.Config.Model
import CpuSwitch.Cpufreq.Intersection

/-! The frequency page: its configuration and the range detected for it. -/
namespace CpuSwitch.Gui
open CLib Config Cpufreq

/-- The part of the application state that the frequency page uses. -/
structure FrequencyState where
  config : CpuConfig
  minKhz : UInt64
  maxKhz : UInt64
  policyCount : ℕ
  haveFrequencyRange : Bool
  status : Option (String × Bool)
  deriving DecidableEq, Repr

def normalizeConfigToHardware (state : FrequencyState) : FrequencyState :=
  if state.haveFrequencyRange = false then state
  else
    let config := state.config
    let config :=
      if config.lowFrequencyKhz < state.minKhz ∨ config.lowFrequencyKhz > state.maxKhz then
        { config with lowFrequencyKhz := state.minKhz }
      else config
    let config :=
      if config.highFrequencyKhz < state.minKhz ∨ config.highFrequencyKhz > state.maxKhz then
        { config with highFrequencyKhz := state.maxKhz }
      else config
    let config :=
      if config.lowFrequencyKhz > config.highFrequencyKhz then
        { config with lowFrequencyKhz := state.minKhz, highFrequencyKhz := state.maxKhz }
      else config
    { state with config }

/-- An empty message hides the banner. -/
def FrequencyState.setStatus (state : FrequencyState) (message : String) (isError : Bool) :
    FrequencyState :=
  { state with status := if message = "" then none else some (message, isError) }

def refreshHardwareDetection (k : Kernel) (dir : Directory) (reportSuccess : Bool)
    (state : FrequencyState) : FrequencyState :=
  match detectFrequencyRangeInto k dir ⟨state.minKhz, state.maxKhz, some state.policyCount⟩ with
  | (.ok _, out) =>
    let state := normalizeConfigToHardware
      { state with
        minKhz := out.minKhz
        maxKhz := out.maxKhz
        policyCount := out.policyCount.getD state.policyCount
        haveFrequencyRange := true }
    if reportSuccess then state.setStatus "Limites do processador atualizados." false else state
  | (.error message, out) =>
    { state with
      minKhz := out.minKhz
      maxKhz := out.maxKhz
      policyCount := 0
      haveFrequencyRange := false }.setStatus message true

def onFrequencyDefaults (state : FrequencyState) : FrequencyState :=
  let config :=
    if state.haveFrequencyRange then
      { cpuConfigDefaults with
        lowFrequencyKhz := state.minKhz
        highFrequencyKhz := state.maxKhz }
    else cpuConfigDefaults
  { state with config }.setStatus
    "Padrões restaurados na tela; clique em salvar para aplicá-los." false

/-- The state that `activate` starts the page with. -/
def loadFrequencyState (file : ConfigFile) : FrequencyState where
  config := match cpuConfigLoad file with
    | (.ok _, config) => config
    | (.error _, _) => cpuConfigDefaults
  minKhz := 0
  maxKhz := 0
  policyCount := 0
  haveFrequencyRange := false
  status := none

end CpuSwitch.Gui
