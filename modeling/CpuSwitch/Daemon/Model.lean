import CpuSwitch.CLib.Run
import CpuSwitch.Config.Model
import CpuSwitch.Cpufreq.Model

/-! The service loop: one usage sample for each iteration, hysteresis, and the policy writes. -/
namespace CpuSwitch.Daemon
open CLib Config Cpufreq

/-- A snapshot of the aggregate counters of /proc/stat. -/
structure CpuTimes where
  idle : UInt64
  total : UInt64
  deriving DecidableEq, Repr

/-- `cpu_linux_usage_percent` in exact arithmetic. -/
def cpuLinuxUsagePercent (previous current : CpuTimes) : ℚ :=
  if current.total ≤ previous.total then 0
  else
    let totalDelta := current.total - previous.total
    let idleDelta := if current.idle ≥ previous.idle then current.idle - previous.idle else 0
    let usage : ℚ := 100 * (1 - (idleDelta.toNat : ℚ) / totalDelta.toNat)
    if usage < 0 then 0 else if usage > 100 then 100 else usage

inductive State where
  | unknown
  | low
  | high
  deriving DecidableEq, Repr

/-- The two targets that the loop asks `cpu_linux_set_all_policy_frequency` for. -/
inductive Direction where
  | low
  | high
  deriving DecidableEq, Repr

def Direction.state : Direction → State
  | .low => .low
  | .high => .high

def Direction.target (config : CpuConfig) : Direction → UInt64
  | .low => config.lowFrequencyKhz
  | .high => config.highFrequencyKhz

/-- The loop's state and the kernel's; `calls` remembers the switches asked for, latest first. -/
structure Controller where
  state : State
  sysfs : Sysfs
  calls : List Direction

/-- Before the first iteration. -/
def Controller.start (scaling : DirName → Limits) : Controller :=
  { state := .unknown, sysfs := ⟨scaling, []⟩, calls := [] }

/-- One branch of the hysteresis: the state moves only when the whole call succeeded. -/
def switchTo (config : CpuConfig) (dir : Directory) (k : Kernel) (direction : Direction)
    (c : Controller) : Controller :=
  match cpuLinuxSetAllPolicyFrequency k dir (direction.target config) config.lowFrequencyKhz
      c.sysfs with
  | (.ok _, sysfs) => ⟨direction.state, sysfs, direction :: c.calls⟩
  | (.error _, sysfs) => ⟨c.state, sysfs, direction :: c.calls⟩

/-- What the loop does with a usage value. -/
def hysteresis (config : CpuConfig) (dir : Directory) (k : Kernel) (usage : Double)
    (c : Controller) : Controller :=
  if usage < config.lowThresholdPct ∧ c.state ≠ .low then switchTo config dir k .low c
  else if usage > config.highThresholdPct ∧ c.state ≠ .high then switchTo config dir k .high c
  else c

/-- The daemon between two iterations. -/
structure Loop where
  previous : CpuTimes
  controller : Controller

/-- One iteration of the loop: the sample read from /proc/stat, or a failed read. -/
def iterate (config : CpuConfig) (dir : Directory) (d : Loop)
    (input : Except String CpuTimes × Kernel) : Loop :=
  match input.1 with
  | .error _ => d
  | .ok current =>
    let usage := cpuLinuxUsagePercent d.previous current
    { previous := current
      controller := hysteresis config dir input.2 (.finite usage) d.controller }

/-- An iteration seen from the controller: a usage value or a failed read. -/
def sampled (config : CpuConfig) (dir : Directory) (c : Controller)
    (input : Option Double × Kernel) : Controller :=
  match input.1 with
  | none => c
  | some usage => hysteresis config dir input.2 usage c

/-- The usage values that successive readings amount to. -/
def samplesOf (previous : CpuTimes) :
    List (Except String CpuTimes × Kernel) → List (Option Double × Kernel)
  | [] => []
  | (.error _, k) :: inputs => (none, k) :: samplesOf previous inputs
  | (.ok current, k) :: inputs =>
    (some (.finite (cpuLinuxUsagePercent previous current)), k) :: samplesOf current inputs

/-- The loop over readings is the controller over the usage values they amount to. -/
theorem controller_run (config : CpuConfig) (dir : Directory) (d : Loop)
    (inputs : List (Except String CpuTimes × Kernel)) :
    (run (iterate config dir) d inputs).controller =
      run (sampled config dir) d.controller (samplesOf d.previous inputs) := by
  induction inputs generalizing d with
  | nil => rfl
  | cons input inputs ih =>
    obtain ⟨reading, k⟩ := input
    cases reading with
    | error _ => exact ih d
    | ok current =>
      rw [run_cons, ih]
      rfl

end CpuSwitch.Daemon
