import CpuSwitch.CLib.Integer
import Mathlib.Logic.Function.Basic

/-! The cpufreq directory of sysfs and the two walks over it. -/
namespace CpuSwitch.Cpufreq
open CLib

/-- A directory entry's name; `d_name` has room for 255 bytes. -/
structure DirName where
  name : Text
  short : name.length ≤ 255
  deriving DecidableEq

inductive Bound where
  | min
  | max
  deriving DecidableEq, Repr

def Bound.other : Bound → Bound
  | .min => .max
  | .max => .min

inductive Attribute where
  | cpuinfo (bound : Bound)
  | scaling (bound : Bound)
  deriving DecidableEq, Repr

def Attribute.fileName : Attribute → Text
  | .cpuinfo .min => "cpuinfo_min_freq".toList
  | .cpuinfo .max => "cpuinfo_max_freq".toList
  | .scaling .min => "scaling_min_freq".toList
  | .scaling .max => "scaling_max_freq".toList

def cpufreqPath : Text := "/sys/devices/system/cpu/cpufreq".toList

def isPolicyName (name : Text) : Bool :=
  "policy".toList.isPrefixOf name && name.drop 6 ≠ [] && (name.drop 6).all Char.isDigit

/-- The path of an attribute, when it fits the callers' 512 bytes. -/
def buildPolicyFilePath (policy : DirName) (file : Attribute) : Option Text :=
  let path := cpufreqPath ++ '/' :: policy.name ++ '/' :: file.fileName
  if path.length < 512 then some path else none

/-- What `readdir` lists and what the cpuinfo files hold (`none`: the file cannot be opened). -/
structure Directory where
  entries : List DirName
  cpuinfo : DirName → Bound → Option Text

structure Limits where
  min : UInt64
  max : UInt64
  deriving DecidableEq, Repr

def Limits.set (limits : Limits) (bound : Bound) (value : UInt64) : Limits :=
  match bound with
  | .min => { limits with min := value }
  | .max => { limits with max := value }

/-- One write that the kernel was asked for, with the limits in force at that moment. -/
structure Attempt where
  policy : DirName
  bound : Bound
  value : UInt64
  before : DirName → Limits
  accepted : Bool

/-- The store would have put the minimum above the maximum. -/
def Attempt.Crosses (attempt : Attempt) : Prop :=
  let limits := (attempt.before attempt.policy).set attempt.bound attempt.value
  limits.max < limits.min

/-- The scaling limits of every policy; `writes` remembers the attempts, the latest first. -/
structure Sysfs where
  scaling : DirName → Limits
  writes : List Attempt

/-- Every state of the limits so far: each attempt was made in one, and the last is in force. -/
def Sysfs.visited (sys : Sysfs) : List (DirName → Limits) :=
  sys.scaling :: sys.writes.map Attempt.before

/-- The kernel's answers during one call: `opendir`, the reads, and the stores it accepts. -/
structure Kernel where
  opendirError : Option String
  reads : DirName → Bound → Bool
  accepts : DirName → Bound → Limits → UInt64 → Bool

/-- `read_u64_file` of a cpuinfo attribute. -/
def readU64File (k : Kernel) (dir : Directory) (policy : DirName) (bound : Bound) :
    Option UInt64 :=
  if k.reads policy bound then
    (dir.cpuinfo policy bound).bind fun text => (scanLlu text).map Prod.fst
  else none

/-- `write_u64_file` of a scaling attribute: a rejected store has no effect. -/
def writeU64File (k : Kernel) (policy : DirName) (bound : Bound) (value : UInt64)
    (sys : Sysfs) : Bool × Sysfs :=
  let limits := sys.scaling policy
  let accepted := k.accepts policy bound limits value
  (accepted,
    { scaling :=
        if accepted then Function.update sys.scaling policy (limits.set bound value)
        else sys.scaling
      writes := ⟨policy, bound, value, sys.scaling, accepted⟩ :: sys.writes })

/-- `set_one_policy_frequency`; the flag tells a return value of 0. -/
def setOnePolicyFrequency (k : Kernel) (dir : Directory) (policy : DirName)
    (targetKhz lowFrequencyKhz : UInt64) (sys : Sysfs) : Bool × Sysfs :=
  match (buildPolicyFilePath policy (.cpuinfo .min)).bind
      fun _ => readU64File k dir policy .min with
  | none => (false, sys)
  | some hardwareMin =>
    match (buildPolicyFilePath policy (.cpuinfo .max)).bind
        fun _ => readU64File k dir policy .max with
    | none => (false, sys)
    | some hardwareMax =>
      if hardwareMin > hardwareMax then (false, sys)
      else
        let frequency := if targetKhz < hardwareMin then hardwareMin else targetKhz
        let frequency := if frequency > hardwareMax then hardwareMax else frequency
        match buildPolicyFilePath policy (.scaling .min),
            buildPolicyFilePath policy (.scaling .max) with
        | some _, some _ =>
          -- The bound that moves in the safe direction goes first.
          if targetKhz ≤ lowFrequencyKhz then
            match writeU64File k policy .min frequency sys with
            | (false, sys) => (false, sys)
            | (true, sys) => writeU64File k policy .max frequency sys
          else
            match writeU64File k policy .max frequency sys with
            | (false, sys) => (false, sys)
            | (true, sys) => writeU64File k policy .min frequency sys
        | _, _ => (false, sys)

/-- The counters of the walk over the directory. -/
structure Walk where
  attempted : ℕ
  succeeded : ℕ
  sysfs : Sysfs

def walkPolicies (k : Kernel) (dir : Directory) (targetKhz lowFrequencyKhz : UInt64) :
    List DirName → Walk → Walk
  | [], walk => walk
  | entry :: entries, walk =>
    if isPolicyName entry.name then
      let (ok, sysfs) := setOnePolicyFrequency k dir entry targetKhz lowFrequencyKhz walk.sysfs
      walkPolicies k dir targetKhz lowFrequencyKhz entries
        { attempted := walk.attempted + 1
          succeeded := if ok then walk.succeeded + 1 else walk.succeeded
          sysfs }
    else walkPolicies k dir targetKhz lowFrequencyKhz entries walk

def cpuLinuxSetAllPolicyFrequency (k : Kernel) (dir : Directory)
    (targetKhz lowFrequencyKhz : UInt64) (sys : Sysfs) : Except String Unit × Sysfs :=
  match k.opendirError with
  | some _ => (.error "Não foi possível acessar as políticas cpufreq.", sys)
  | none =>
    let walk := walkPolicies k dir targetKhz lowFrequencyKhz dir.entries ⟨0, 0, sys⟩
    if walk.attempted = 0 ∨ walk.succeeded ≠ walk.attempted then
      (.error s!"Frequência aplicada em {walk.succeeded} de {walk.attempted} políticas cpufreq.",
        walk.sysfs)
    else (.ok (), walk.sysfs)

/-- The range common to the usable policies and how many there are. -/
structure Detected where
  minKhz : UInt64
  maxKhz : UInt64
  policyCount : ℕ
  deriving DecidableEq, Repr

/-- The body of the detection loop; an entry that cannot be used is skipped. -/
def detectEntry (k : Kernel) (dir : Directory) (common : Detected) (entry : DirName) : Detected :=
  if isPolicyName entry.name then
    match buildPolicyFilePath entry (.cpuinfo .min), buildPolicyFilePath entry (.cpuinfo .max) with
    | some _, some _ =>
      match readU64File k dir entry .min, readU64File k dir entry .max with
      | some policyMin, some policyMax =>
        if policyMin > policyMax then common
        else
          { minKhz :=
              if common.policyCount = 0 ∨ policyMin > common.minKhz then policyMin
              else common.minKhz
            maxKhz :=
              if common.policyCount = 0 ∨ policyMax < common.maxKhz then policyMax
              else common.maxKhz
            policyCount := common.policyCount + 1 }
      | _, _ => common
    | _, _ => common
  else common

def cpuLinuxDetectFrequencyRange (k : Kernel) (dir : Directory) : Except String Detected :=
  match k.opendirError with
  | some reason => .error s!"Não foi possível abrir /sys/devices/system/cpu/cpufreq: {reason}"
  | none =>
    let common := dir.entries.foldl (detectEntry k dir) ⟨0, UInt64.ofNat (2 ^ 64 - 1), 0⟩
    if common.policyCount = 0 ∨ common.minKhz > common.maxKhz then
      .error "Nenhuma política cpufreq utilizável foi encontrada."
    else .ok common

end CpuSwitch.Cpufreq
