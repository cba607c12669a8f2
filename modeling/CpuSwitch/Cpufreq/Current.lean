import CpuSwitch.Cpufreq.Policy

/-! The clock that the policies run at. -/
namespace CpuSwitch.Cpufreq
open CLib

/-- The two attributes that tell the current frequency, the preferred one first. -/
inductive CurrentFile where
  | scaling
  | cpuinfo
  deriving DecidableEq

def CurrentFile.fileName : CurrentFile → Text
  | .scaling => "scaling_cur_freq".toList
  | .cpuinfo => "cpuinfo_cur_freq".toList

/-- What one look at the directory meets (`none`: the file cannot be opened). -/
structure CurrentFiles where
  opendirError : Option String
  entries : List DirName
  contents : DirName → CurrentFile → Option Text

/-- `build_policy_file_path` for a buffer of 512 bytes. -/
def buildCurrentFilePath (policy : DirName) (file : CurrentFile) : Option Text :=
  let path := cpufreqPath ++ '/' :: policy.name ++ '/' :: file.fileName
  if path.length < 512 then some path else none

def readCurrentFile (files : CurrentFiles) (policy : DirName) (file : CurrentFile) :
    Option UInt64 :=
  (buildCurrentFilePath policy file).bind fun _ =>
    (files.contents policy file).bind fun text => (scanLlu text).map Prod.fst

/-- The loop of `cpu_linux_read_current_frequency`. -/
def currentFrequencyLoop (files : CurrentFiles) : List DirName → Option UInt64
  | [] => none
  | entry :: entries =>
    if isPolicyName entry.name = false then currentFrequencyLoop files entries
    else match readCurrentFile files entry .scaling with
      | some khz => some khz
      | none =>
        match readCurrentFile files entry .cpuinfo with
        | some khz => some khz
        | none => currentFrequencyLoop files entries

def cpuLinuxReadCurrentFrequency (files : CurrentFiles) : Except String UInt64 :=
  match files.opendirError with
  | some _ => .error "Não foi possível acessar as políticas cpufreq."
  | none =>
    match currentFrequencyLoop files files.entries with
    | some khz => .ok khz
    | none => .error "Não foi possível ler a frequência atual."

/-- The number in an attribute that can be read. -/
def CurrentFiles.number (files : CurrentFiles) (policy : DirName) (file : CurrentFile) :
    Option UInt64 :=
  (files.contents policy file).bind fun text => (scanLlu text).map Prod.fst

/-- What a policy tells: its scaling frequency, or else the one of the hardware. -/
def CurrentFiles.tells (files : CurrentFiles) (policy : DirName) : Option UInt64 :=
  files.number policy .scaling <|> files.number policy .cpuinfo

/-- What the first policy tells that tells any. -/
def CurrentFiles.firstTold (files : CurrentFiles) : Option UInt64 :=
  match files.opendirError with
  | some _ => none
  | none => (files.entries.filter fun entry => isPolicyName entry.name).findSome? files.tells

variable {files : CurrentFiles}

theorem buildCurrentFilePath_isSome (policy : DirName) (file : CurrentFile) :
    (buildCurrentFilePath policy file).isSome = true := by
  have hfile : file.fileName.length = 16 := by cases file <;> decide
  have hshort := policy.short
  have hdir : cpufreqPath.length = 31 := by decide
  rw [buildCurrentFilePath, if_pos]
  · rfl
  · simp only [List.length_append, List.length_cons, hfile, hdir]
    omega

/-- No path is too long for the buffer. -/
theorem readCurrentFile_eq {policy : DirName} {file : CurrentFile} :
    readCurrentFile files policy file = files.number policy file := by
  obtain ⟨path, hpath⟩ := Option.isSome_iff_exists.mp (buildCurrentFilePath_isSome policy file)
  rw [readCurrentFile, hpath, Option.bind_some, CurrentFiles.number]

/-- The loop is a search for the first policy that tells anything. -/
theorem currentFrequencyLoop_eq (entries : List DirName) :
    currentFrequencyLoop files entries =
      (entries.filter fun entry => isPolicyName entry.name).findSome? files.tells := by
  induction entries with
  | nil => rfl
  | cons entry entries ih =>
    rw [currentFrequencyLoop]
    cases hp : isPolicyName entry.name with
    | false => simpa [hp] using ih
    | true =>
      simp only [Bool.true_eq_false, if_false, List.filter_cons, hp, if_true,
        List.findSome?_cons, CurrentFiles.tells, readCurrentFile_eq]
      cases files.number entry .scaling with
      | some khz => rfl
      | none =>
        cases files.number entry .cpuinfo with
        | some khz => rfl
        | none => exact ih

theorem toOption_readCurrentFrequency :
    (cpuLinuxReadCurrentFrequency files).toOption = files.firstTold := by
  unfold cpuLinuxReadCurrentFrequency CurrentFiles.firstTold
  cases files.opendirError with
  | some _ => rfl
  | none =>
    dsimp only
    rw [← currentFrequencyLoop_eq]
    cases currentFrequencyLoop files files.entries with
    | some khz => rfl
    | none => rfl

/-- One policy that keeps its scaling frequency to itself. -/
def reticentFiles : CurrentFiles where
  opendirError := none
  entries := [⟨"boost".toList, by decide⟩, policy0]
  contents _ file := match file with
    | .scaling => none
    | .cpuinfo => some "2400000\n".toList

end CpuSwitch.Cpufreq
