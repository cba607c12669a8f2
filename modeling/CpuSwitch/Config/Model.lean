import CpuSwitch.CLib.Decimal

/-! The frequency configuration: its small JSON reader, its writer and its validator. -/
namespace CpuSwitch.Config
open CLib

structure CpuConfig where
  lowThresholdPct : Double
  highThresholdPct : Double
  lowFrequencyKhz : UInt64
  highFrequencyKhz : UInt64
  intervalMs : UInt64
  deriving DecidableEq, Repr

/-- What the file operations of `read_entire_file` meet at a path. -/
inductive ConfigFile where
  | missing
  | unopenable (path reason : String)
  | unseekable
  | unmeasurable
  | noMemory (contents : Text)
  | shortRead (contents : Text)
  | readable (contents : Text)

/-- The whole file, or no file at all, or the error reported. -/
inductive Contents where
  | missing
  | failed (error : String)
  | text (json : Text)

def tooLarge (contents : Text) : Bool := 1024 * 1024 < contents.length

def readEntireFile : ConfigFile → Contents
  | .missing => .missing
  | .unopenable path reason => .failed s!"Não foi possível abrir {path}: {reason}"
  | .unseekable => .failed "Não foi possível medir o arquivo de configuração."
  | .unmeasurable => .failed "Arquivo de configuração inválido ou grande demais."
  | .noMemory contents =>
    if tooLarge contents then .failed "Arquivo de configuração inválido ou grande demais."
    else .failed "Memória insuficiente para ler a configuração."
  | .shortRead contents =>
    if tooLarge contents then .failed "Arquivo de configuração inválido ou grande demais."
    else .failed "Falha ao ler o arquivo de configuração."
  | .readable contents =>
    if tooLarge contents then .failed "Arquivo de configuração inválido ou grande demais."
    else .text contents

def quoted (key : Text) : Text := '"' :: key ++ ['"']

/-- The text right after the colon that follows the first quoted occurrence of the key. -/
def findJsonValue (json key : Text) : Option Text :=
  (strstr json (quoted key)).bind fun position =>
    (strchr (position.drop (quoted key).length) ':').map List.tail

/-- A field's value, its absence, or a malformed number. -/
inductive Field (α : Type) where
  | absent
  | invalid
  | value (parsed : α)
  deriving DecidableEq

def parseDoubleField (json key : Text) : Field Double :=
  match findJsonValue json key with
  | none => .absent
  | some position =>
    match strtod position with
    | none => .invalid
    | some conversion => if conversion.rangeError then .invalid else .value conversion.value

def parseU64Field (json key : Text) : Field UInt64 :=
  match findJsonValue json key with
  | none => .absent
  | some position =>
    let position := skipSpace position
    if position.head? = some '-' then .invalid
    else match strtoull position with
      | none => .invalid
      | some conversion => if conversion.rangeError then .invalid else .value conversion.value

def Field.getD {α : Type} (field : Field α) (current : α) : α :=
  match field with
  | .value parsed => parsed
  | _ => current

def Field.isInvalid {α : Type} : Field α → Bool
  | .invalid => true
  | _ => false

def cpuConfigDefaults : CpuConfig where
  lowThresholdPct := .finite 6
  highThresholdPct := .finite 10
  lowFrequencyKhz := 1200000
  highFrequencyKhz := 3500000
  intervalMs := 500

/-- The five lookups; a failed one leaves its field and only marks the whole as invalid. -/
def parseFields (json : Text) : CpuConfig × Bool :=
  let lowThreshold := parseDoubleField json "low_threshold_pct".toList
  let highThreshold := parseDoubleField json "high_threshold_pct".toList
  let lowFrequency := parseU64Field json "low_frequency_khz".toList
  let highFrequency := parseU64Field json "high_frequency_khz".toList
  let interval := parseU64Field json "interval_ms".toList
  ({ lowThresholdPct := lowThreshold.getD cpuConfigDefaults.lowThresholdPct
     highThresholdPct := highThreshold.getD cpuConfigDefaults.highThresholdPct
     lowFrequencyKhz := lowFrequency.getD cpuConfigDefaults.lowFrequencyKhz
     highFrequencyKhz := highFrequency.getD cpuConfigDefaults.highFrequencyKhz
     intervalMs := interval.getD cpuConfigDefaults.intervalMs },
    lowThreshold.isInvalid || highThreshold.isInvalid || lowFrequency.isInvalid ||
      highFrequency.isInvalid || interval.isInvalid)

/-- `cpu_config_load`: the return value with its error, and what `*config` holds afterwards. -/
def cpuConfigLoad (file : ConfigFile) : Except String Unit × CpuConfig :=
  match readEntireFile file with
  | .missing => (.ok (), cpuConfigDefaults)
  | .failed error => (.error error, cpuConfigDefaults)
  | .text contents =>
    let (config, invalid) := parseFields (cString contents)
    if invalid then
      (.error "Configuração JSON contém um valor numérico inválido.", config)
    else (.ok (), config)

/-- The file text of a configuration; the two thresholds pass through 64-byte buffers. -/
def configText (config : CpuConfig) : Text :=
  "\x7b\n  \"low_threshold_pct\": ".toList ++
    (formatFixed 1 config.lowThresholdPct).take 63 ++
  ",\n  \"high_threshold_pct\": ".toList ++
    (formatFixed 1 config.highThresholdPct).take 63 ++
  ",\n  \"low_frequency_khz\": ".toList ++ formatLlu config.lowFrequencyKhz ++
  ",\n  \"high_frequency_khz\": ".toList ++ formatLlu config.highFrequencyKhz ++
  ",\n  \"interval_ms\": ".toList ++ formatLlu config.intervalMs ++
  "\n\x7d\n".toList

/-- How the file operations of `cpu_config_write` go. -/
inductive WriteOutcome where
  | unopenable (path reason : String)
  | failed
  | stored

/-- `cpu_config_write`; on success the file holds the returned text. -/
def cpuConfigWrite (outcome : WriteOutcome) (config : CpuConfig) : Except String Text :=
  match outcome with
  | .unopenable path reason => .error s!"Não foi possível gravar {path}: {reason}"
  | .failed => .error "Falha ao finalizar o arquivo de configuração."
  | .stored => .ok (configText config)

def cpuConfigValidate (config : CpuConfig) (minKhz maxKhz : UInt64) (checkRange : Bool) :
    Except String Unit :=
  if config.lowThresholdPct < .finite 0 ∨ config.lowThresholdPct ≥ .finite 100 then
    .error "O limite inferior deve estar entre 0 e 99%."
  else if config.highThresholdPct ≤ .finite 0 ∨ config.highThresholdPct > .finite 100 then
    .error "O limite superior deve estar entre 1 e 100%."
  else if config.lowThresholdPct ≥ config.highThresholdPct then
    .error "O limite inferior precisa ser menor que o superior."
  else if config.lowFrequencyKhz > config.highFrequencyKhz then
    .error "A frequência baixa precisa ser menor ou igual à alta."
  else if config.intervalMs < 100 ∨ config.intervalMs > 5000 then
    .error "O intervalo deve ficar entre 100 e 5000 ms."
  else if checkRange ∧ (config.lowFrequencyKhz < minKhz ∨ config.lowFrequencyKhz > maxKhz ∨
      config.highFrequencyKhz < minKhz ∨ config.highFrequencyKhz > maxKhz) then
    .error "As frequências escolhidas estão fora da faixa detectada."
  else .ok ()

/-- `load_runtime_config` of the daemon: a rejected configuration gives way to the defaults. -/
def loadRuntimeConfig (file : ConfigFile) : CpuConfig :=
  let (status, loaded) := cpuConfigLoad file
  let config := match status with
    | .ok _ => loaded
    | .error _ => cpuConfigDefaults
  match cpuConfigValidate config 0 0 false with
  | .ok _ => config
  | .error _ => cpuConfigDefaults

example : cpuConfigValidate cpuConfigDefaults 800000 4000000 true = .ok () := by decide +kernel

end CpuSwitch.Config
