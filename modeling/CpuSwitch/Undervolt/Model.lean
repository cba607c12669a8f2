import CpuSwitch.CLib.Decimal
import CpuSwitch.CLib.Stream
import Mathlib.Data.Fin.VecNotation
import Mathlib.Data.List.FinRange

/-! The editor of intel-undervolt.conf: line recogniser, loader, validator and masked rewrite. -/
namespace CpuSwitch.Undervolt
open CLib

/-- The offsets of the five voltage domains in millivolts. -/
abbrev Offsets := Fin 5 → Double

/-- The domains to change; `none` is the NULL mask, which selects all of them. -/
abbrev Mask := Option (Fin 5 → Bool)

def undervoltDomainNames : Fin 5 → String :=
  !["CPU", "GPU", "CPU Cache", "Uncore", "Analog I/O"]

def undervoltMinMv : Double := .finite (-150)

def undervoltMaxMv : Double := .finite 0

/-- What `parse_domain_index` returns: 0, -1, or 1 with an index. -/
inductive DomainLine where
  | other
  | invalid
  | domain (index : Fin 5)
  deriving DecidableEq

def parseDomainIndex (line : Text) : DomainLine :=
  let cursor := skipSpace line
  if "undervolt".toList.isPrefixOf cursor ∧ (cursor.drop 9).head?.any isspace = true then
    match strtol (skipSpace (cursor.drop 9)) with
    | none => .invalid
    | some parsed =>
      if h : parsed.rangeError = false ∧ 0 ≤ parsed.value ∧ parsed.value < 5 then
        .domain ⟨parsed.value.toNat, by omega⟩
      else .invalid
  else .other

/-- The last token has to be a number as a whole and to fit a 64-byte buffer. -/
def parseLastDouble (line : Text) : Option Double :=
  let number := lastToken line
  if number = [] ∨ 64 ≤ number.length then none
  else (strtod number).bind fun parsed =>
    if parsed.rest = [] ∧ parsed.rangeError = false ∧ parsed.value.isfinite = true then
      some parsed.value
    else none

/-- The canonical line of a domain, newline not included. -/
def domainText (index : Fin 5) (offsetMv : Double) : Text :=
  "undervolt ".toList ++ Nat.toDigits 10 index ++ " '".toList ++
    (undervoltDomainNames index).toList ++ "' ".toList ++ (formatFixed 2 offsetMv).take 63

def writeDomainLine (accepts : ℕ → Bool) (stream : Stream) (index : Fin 5) (offsetMv : Double) :
    Option Stream :=
  fputs accepts stream (domainText index offsetMv ++ ['\n'])

def undervoltDefaults : Offsets := fun _ => .finite 0

def outOfRange (offset : Double) : Prop :=
  offset.isfinite = false ∨ offset < undervoltMinMv ∨ offset > undervoltMaxMv

instance (offset : Double) : Decidable (outOfRange offset) :=
  inferInstanceAs (Decidable (_ ∨ _ ∨ _))

/-- The first offset out of range is the one reported. -/
def undervoltValidate (offsets : Offsets) : Except String Unit :=
  match (List.finRange 5).find? fun index => outOfRange (offsets index) with
  | some index =>
    .error s!"{undervoltDomainNames index} precisa ficar entre -150 e 0 mV."
  | none => .ok ()

/-- What `fopen` for reading meets at a path. -/
inductive ConfigFile where
  | missing
  | unopenable (path reason : String)
  | readable (contents : Text)

/-- The opened file, or none where a missing one is accepted. -/
def ConfigFile.fopen : ConfigFile → Except String (Option Text)
  | .missing => .ok none
  | .unopenable path reason => .error s!"Não foi possível abrir {path}: {reason}"
  | .readable contents => .ok (some contents)

/-- The lines in turn; the first domain line without an offset ends the loop. -/
def loadLines : List Text → Offsets → Except String Unit × Offsets
  | [], offsets => (.ok (), offsets)
  | line :: lines, offsets =>
    match parseDomainIndex line with
    | .domain index =>
      match parseLastDouble line with
      | none => (.error "Linha de undervolt inválida no arquivo de configuração.", offsets)
      | some offset => loadLines lines (Function.update offsets index offset)
    | _ => loadLines lines offsets

/-- The lines as the code sees them: buffers of `getline`, each up to its first NUL. -/
def bufferedLines (contents : Text) : List Text := (getlines contents).map cString

/-- `undervolt_load_config`: the return value with its error, and the offsets left behind. -/
def undervoltLoadConfig (file : ConfigFile) : Except String Unit × Offsets :=
  match file.fopen with
  | .error message => (.error message, undervoltDefaults)
  | .ok none => (.ok (), undervoltDefaults)
  | .ok (some contents) => loadLines (bufferedLines contents) undervoltDefaults

def domainSelected (index : Fin 5) (present : Mask) : Bool :=
  match present with
  | none => true
  | some mask => mask index

/-- The state of the copying loop. -/
structure Copy where
  stream : Stream
  written : Fin 5 → Bool

def Copy.start : Copy := ⟨.empty, fun _ => false⟩

/-- One round of the copying loop. -/
def copyLine (accepts : ℕ → Bool) (offsets : Offsets) (present : Mask) (copy : Copy)
    (line : Text) : Option Copy :=
  let keep := (fputs accepts copy.stream line).map fun stream => { copy with stream }
  match parseDomainIndex line with
  | .domain index =>
    if domainSelected index present then
      (writeDomainLine accepts copy.stream index (offsets index)).map fun stream =>
        { stream, written := Function.update copy.written index true }
    else keep
  | _ => keep

/-- What a new file starts with. -/
def generatedHeader : Text :=
  "# Generated by CPU Switch Control\nenable no\n\n# Voltage offsets in mV\n".toList

def copyInput (accepts : ℕ → Bool) (offsets : Offsets) (present : Mask) :
    Option Text → Option Copy
  | some contents => (bufferedLines contents).foldlM (copyLine accepts offsets present) .start
  | none => (fputs accepts .empty generatedHeader).map fun stream => { Copy.start with stream }

/-- One round of the appending loop. -/
def appendDomain (accepts : ℕ → Bool) (offsets : Offsets) (present : Mask)
    (written : Fin 5 → Bool) (stream : Stream) (index : Fin 5) : Option Stream :=
  if domainSelected index present ∧ written index = false then
    writeDomainLine accepts stream index (offsets index)
  else some stream

def appendMissing (accepts : ℕ → Bool) (offsets : Offsets) (present : Mask) (copy : Copy) :
    Option Stream :=
  (List.finRange 5).foldlM (appendDomain accepts offsets present copy.written) copy.stream

/-- How the calls on the destination go: its creation, each write in turn, and the close. -/
structure Output where
  path : String
  createError : Option String
  accepts : ℕ → Bool
  closes : Bool

/-- What becomes of the destination; a failed write leaves it incomplete. -/
inductive Destination where
  | untouched
  | incomplete
  | stored (text : Text)
  deriving DecidableEq

def undervoltWriteConfigCopyMasked (source : ConfigFile) (output : Output) (offsets : Offsets)
    (present : Mask) : Except String Unit × Destination :=
  match undervoltValidate offsets with
  | .error message => (.error message, .untouched)
  | .ok _ =>
    match source.fopen with
    | .error message => (.error message, .untouched)
    | .ok input =>
      match output.createError with
      | some reason =>
        (.error s!"Não foi possível criar {output.path}: {reason}", .untouched)
      | none =>
        match (copyInput output.accepts offsets present input).bind
            (appendMissing output.accepts offsets present) with
        | some stream =>
          if output.closes then (.ok (), .stored stream.text)
          else (.error "Falha ao gerar a configuração de undervolt.", .incomplete)
        | none => (.error "Falha ao gerar a configuração de undervolt.", .incomplete)

/-- What `undervolt_parse_read_output_masked` returns and fills in. -/
@[ext]
structure Report where
  found : ℕ
  offsets : Offsets
  present : Fin 5 → Bool

/-- The number right after the first marker of a domain. -/
def reportedOffset (output : Text) (index : Fin 5) : Option Double :=
  let marker := '(' :: Nat.toDigits 10 index ++ "):".toList
  (strstr output marker).bind fun position =>
    (strtod (position.drop marker.length)).bind fun parsed =>
      if parsed.rangeError = false ∧ parsed.value.isfinite = true then some parsed.value else none

/-- One round of the loop over the domains. -/
def readDomain (output : Text) (report : Report) (index : Fin 5) : Report :=
  match reportedOffset output index with
  | none => report
  | some value =>
    { found := report.found + 1
      offsets := Function.update report.offsets index value
      present := Function.update report.present index true }

def undervoltParseReadOutputMasked (output : Text) (offsets : Offsets) : Report :=
  (List.finRange 5).foldl (readDomain (cString output)) ⟨0, offsets, fun _ => false⟩

end CpuSwitch.Undervolt
