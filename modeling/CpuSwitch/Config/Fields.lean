import CpuSwitch.CLib.Printed
import CpuSwitch.Config.Reader
import Mathlib.Data.Option.Basic

/-! What `cpu_config_load` leaves in each field of the configuration. -/
namespace CpuSwitch.Config
open CLib

/-- The fields that `parse_double_field` reads. -/
inductive Threshold where
  | low
  | high
  deriving DecidableEq, Repr

/-- The fields that `parse_u64_field` reads. -/
inductive Counter where
  | lowFrequency
  | highFrequency
  | interval
  deriving DecidableEq, Repr

def Threshold.key : Threshold → Text
  | .low => "low_threshold_pct".toList
  | .high => "high_threshold_pct".toList

def Counter.key : Counter → Text
  | .lowFrequency => "low_frequency_khz".toList
  | .highFrequency => "high_frequency_khz".toList
  | .interval => "interval_ms".toList

def CpuConfig.threshold (config : CpuConfig) : Threshold → Double
  | .low => config.lowThresholdPct
  | .high => config.highThresholdPct

def CpuConfig.counter (config : CpuConfig) : Counter → UInt64
  | .lowFrequency => config.lowFrequencyKhz
  | .highFrequency => config.highFrequencyKhz
  | .interval => config.intervalMs

/-- What `parse_double_field` makes of the text behind a colon. -/
def readDouble (position : Text) : Field Double :=
  match strtod position with
  | none => .invalid
  | some conversion => if conversion.rangeError then .invalid else .value conversion.value

/-- What `parse_u64_field` makes of the text behind a colon. -/
def readU64 (position : Text) : Field UInt64 :=
  if (skipSpace position).head? = some '-' then .invalid
  else match strtoull (skipSpace position) with
    | none => .invalid
    | some conversion => if conversion.rangeError then .invalid else .value conversion.value

def IsKnown (key : Text) : Prop := (∃ t, key = Threshold.key t) ∨ ∃ c, key = Counter.key c

section Load
variable {contents json : Text} {config config' : CpuConfig}

theorem CpuConfig.ext_fields (ht : ∀ t, config.threshold t = config'.threshold t)
    (hc : ∀ c, config.counter c = config'.counter c) : config = config' := by
  cases config
  cases config'
  rw [CpuConfig.mk.injEq]
  exact ⟨ht .low, ht .high, hc .lowFrequency, hc .highFrequency, hc .interval⟩

theorem threshold_parseFields (json : Text) (t : Threshold) :
    (parseFields json).1.threshold t =
      (parseDoubleField json t.key).getD (cpuConfigDefaults.threshold t) := by
  cases t <;> rfl

theorem counter_parseFields (json : Text) (c : Counter) :
    (parseFields json).1.counter c =
      (parseU64Field json c.key).getD (cpuConfigDefaults.counter c) := by
  cases c <;> rfl

theorem isInvalid_eq_false {α : Type} {field : Field α} :
    field.isInvalid = false ↔ field ≠ .invalid := by
  cases field <;> simp [Field.isInvalid]

/-- The load is refused when one of the lookups is. -/
theorem parseFields_valid_iff : (parseFields json).2 = false ↔
    (∀ t, parseDoubleField json (Threshold.key t) ≠ .invalid) ∧
      ∀ c, parseU64Field json (Counter.key c) ≠ .invalid := by
  simp only [parseFields, Bool.or_eq_false_iff, isInvalid_eq_false]
  constructor
  · rintro ⟨⟨⟨⟨hlow, hhigh⟩, hlowf⟩, hhighf⟩, hinterval⟩
    constructor
    · rintro (_ | _)
      · exact hlow
      · exact hhigh
    · rintro (_ | _ | _)
      · exact hlowf
      · exact hhighf
      · exact hinterval
  · rintro ⟨ht, hc⟩
    exact ⟨⟨⟨⟨ht .low, ht .high⟩, hc .lowFrequency⟩, hc .highFrequency⟩, hc .interval⟩

theorem parseFields_congr {text : Text}
    (ht : ∀ t, parseDoubleField json (Threshold.key t) = parseDoubleField text (Threshold.key t))
    (hc : ∀ c, parseU64Field json (Counter.key c) = parseU64Field text (Counter.key c)) :
    parseFields json = parseFields text := by
  apply Prod.ext
  · apply CpuConfig.ext_fields
    · intro t
      rw [threshold_parseFields, threshold_parseFields, ht]
    · intro c
      rw [counter_parseFields, counter_parseFields, hc]
  · have hvalid : (parseFields json).2 = false ↔ (parseFields text).2 = false := by
      rw [parseFields_valid_iff, parseFields_valid_iff]
      simp only [ht, hc]
    cases hj : (parseFields json).2 <;> cases htext : (parseFields text).2 <;> simp_all

theorem cpuConfigLoad_readable (h : tooLarge contents = false) :
    cpuConfigLoad (.readable contents) =
      (if (parseFields (cString contents)).2 = true then
        .error "Configuração JSON contém um valor numérico inválido." else .ok (),
        (parseFields (cString contents)).1) := by
  simp only [cpuConfigLoad, readEntireFile, h, Bool.false_eq_true, if_false]
  split_ifs <;> rfl

theorem load_ok_iff : (cpuConfigLoad (.readable contents)).1 = .ok () ↔
    tooLarge contents = false ∧
      (∀ t, parseDoubleField (cString contents) (Threshold.key t) ≠ .invalid) ∧
      ∀ c, parseU64Field (cString contents) (Counter.key c) ≠ .invalid := by
  cases hlarge : tooLarge contents with
  | true => simp [cpuConfigLoad, readEntireFile, hlarge]
  | false =>
    rw [cpuConfigLoad_readable hlarge, ← parseFields_valid_iff]
    cases (parseFields (cString contents)).2 <;> simp

theorem threshold_load (h : tooLarge contents = false) (t : Threshold) :
    (cpuConfigLoad (.readable contents)).2.threshold t =
      (parseDoubleField (cString contents) t.key).getD (cpuConfigDefaults.threshold t) := by
  rw [cpuConfigLoad_readable h, threshold_parseFields]

theorem counter_load (h : tooLarge contents = false) (c : Counter) :
    (cpuConfigLoad (.readable contents)).2.counter c =
      (parseU64Field (cString contents) c.key).getD (cpuConfigDefaults.counter c) := by
  rw [cpuConfigLoad_readable h, counter_parseFields]

end Load

section Conversion
variable {json key position : Text}

theorem parseDoubleField_eq (json key : Text) :
    parseDoubleField json key = (findJsonValue json key).elim .absent readDouble := by
  unfold parseDoubleField
  cases findJsonValue json key <;> rfl

theorem parseU64Field_eq (json key : Text) :
    parseU64Field json key = (findJsonValue json key).elim .absent readU64 := by
  unfold parseU64Field
  cases findJsonValue json key <;> rfl

theorem parseDoubleField_located (h : findJsonValue json key = some position)
    (hv : parseDoubleField json key ≠ .invalid) :
    ∃ conversion, strtod position = some conversion ∧ conversion.rangeError = false ∧
      parseDoubleField json key = .value conversion.value := by
  rw [parseDoubleField, h] at hv ⊢
  dsimp only at hv ⊢
  cases hread : strtod position with
  | none => simp [hread] at hv
  | some conversion =>
    cases hr : conversion.rangeError with
    | true => simp [hread, hr] at hv
    | false => exact ⟨conversion, rfl, hr, by simp [hr]⟩

theorem parseU64Field_located (h : findJsonValue json key = some position)
    (hv : parseU64Field json key ≠ .invalid) :
    ∃ conversion, strtoull (skipSpace position) = some conversion ∧
      (skipSpace position).head? ≠ some '-' ∧ conversion.rangeError = false ∧
      parseU64Field json key = .value conversion.value := by
  rw [parseU64Field, h] at hv ⊢
  dsimp only at hv ⊢
  have hminus : (skipSpace position).head? ≠ some '-' := by
    intro hminus
    simp [hminus] at hv
  cases hread : strtoull (skipSpace position) with
  | none => simp [hread, hminus] at hv
  | some conversion =>
    cases hr : conversion.rangeError with
    | true => simp [hread, hr, hminus] at hv
    | false => exact ⟨conversion, rfl, hminus, hr, by simp [hr, hminus]⟩

end Conversion

/-- The position goes on with the text; no conversion tells what stands around it. -/
structure Reads (position text : Text) : Prop where
  split : ∃ blanks tail, position = blanks ++ (text ++ tail) ∧
    (∀ c ∈ blanks, isspace c = true) ∧ Ends tail ∧ (Stops isspace tail ∨ skipSpace text ≠ [])

section Reads
variable {position text : Text} {a b : Option Text}

theorem readDouble_congr (h : Reads position text) : readDouble position = readDouble text := by
  obtain ⟨blanks, tail, rfl, hblanks, hends, htail⟩ := h.split
  rw [readDouble, readDouble, strtod_blanks hblanks, strtod_append hends htail]
  cases strtod text <;> rfl

theorem readU64_congr (h : Reads position text) : readU64 position = readU64 text := by
  obtain ⟨blanks, tail, rfl, hblanks, hends, htail⟩ := h.split
  have hskip : skipSpace (blanks ++ (text ++ tail)) = skipSpace text ++ tail := by
    rw [skipSpace, List.dropWhile_append_of_pos hblanks]
    exact skipSpace_append htail
  have hminus : (skipSpace text ++ tail).head? = some '-' ↔ (skipSpace text).head? = some '-' := by
    cases skipSpace text with
    | cons c more => simp
    | nil =>
      cases tail with
      | nil => rfl
      | cons c tail => simpa using hends.ne (d := '-') (by decide)
  have hread : strtoull (skipSpace text ++ tail) =
      (strtoull (skipSpace text)).map (Conversion.append · tail) := by
    apply strtoull_append hends
    rwa [skipSpace_skipSpace]
  unfold readU64
  rw [hskip, hread]
  simp only [hminus]
  cases strtoull (skipSpace text) <;> rfl

theorem elim_congr {α : Type} {read : Text → Field α}
    (hread : ∀ {position text}, Reads position text → read position = read text)
    (h : Option.Rel Reads a b) : a.elim .absent read = b.elim .absent read := by
  cases h with
  | none => rfl
  | some h => exact hread h

end Reads

section Literal
variable {json key rest : Text} {literal : DecimalLiteral} {precision : ℕ} {value : ℚ}
  {counter : UInt64}

theorem readDouble_literal (h : rangeError literal.magnitude = false) :
    readDouble literal.text = .value (.finite literal.value) := by
  simp [readDouble, strtod_literal, h, literal.converted_eq h]

theorem readU64_integer (literal : IntegerLiteral) : readU64 literal.text =
    if literal.sign = .minus ∨ 2 ^ 64 ≤ literal.magnitude then .invalid
    else .value (UInt64.ofNat literal.magnitude) := by
  have hskip := literal.skipSpace_text []
  rw [List.append_nil] at hskip
  have hminus : literal.text.head? = some '-' ↔ literal.sign = .minus := by
    obtain ⟨d, digits, hcons⟩ := List.exists_cons_of_ne_nil literal.nonempty
    have hd : d ≠ '-' := (not_sign_of_isDigit (literal.head_digits d (by rw [hcons]; rfl))).1
    cases hs : literal.sign <;> simp [IntegerLiteral.text, hs, Sign.text, hcons, hd]
  unfold readU64
  rw [hskip]
  simp only [hminus]
  by_cases hs : literal.sign = .minus
  · simp [hs]
  · have hread := strtoull_literal literal hs (stops_nil : Stops Char.isDigit [])
    rw [List.append_nil] at hread
    rw [hread, if_neg hs]
    simp only [hs, false_or]
    by_cases hlarge : 2 ^ 64 ≤ literal.magnitude
    · rw [if_pos hlarge, if_pos hlarge]
      rfl
    · rw [if_neg hlarge, if_neg hlarge]
      rfl

theorem reads_printed {text : Text} (h : Ends rest) (hne : skipSpace text ≠ []) :
    Reads (' ' :: (text ++ rest)) text :=
  ⟨[' '], rest, rfl, List.all_eq_true.mp (by decide), h, Or.inr hne⟩

theorem parseDoubleField_printed
    (h : findJsonValue json key = some (' ' :: (formatFixed precision (.finite value) ++ rest)))
    (hends : Ends rest) (hr : rangeError |roundTo precision value| = false) :
    parseDoubleField json key = .value (.finite (roundTo precision value)) := by
  obtain ⟨literal, htext, hvalue, hmagnitude⟩ := exists_literal_formatFixed precision value
  have hne : skipSpace literal.text ≠ [] := by
    rw [skipSpace_of_decimal literal.isDecimalByte_text]
    exact literal.text_ne_nil
  rw [parseDoubleField_eq, h, ← htext, Option.elim_some, readDouble_congr (reads_printed hends hne),
    readDouble_literal (hmagnitude ▸ hr), hvalue]

theorem parseU64Field_printed
    (h : findJsonValue json key = some (' ' :: (formatLlu counter ++ rest)))
    (hends : Ends rest) : parseU64Field json key = .value counter := by
  obtain ⟨literal, htext, hsign, hmagnitude⟩ := exists_literal_formatLlu counter
  have hne : skipSpace literal.text ≠ [] := by
    rw [skipSpace_of_decimal literal.isDecimalByte_text]
    exact literal.text_ne_nil
  have hfits : ¬ (literal.sign = .minus ∨ 2 ^ 64 ≤ literal.magnitude) := by
    rw [hmagnitude, not_or]
    exact ⟨hsign, Nat.not_le.mpr counter.toNat_lt⟩
  rw [parseU64Field_eq, h, ← htext, Option.elim_some, readU64_congr (reads_printed hends hne),
    readU64_integer, if_neg hfits, hmagnitude, UInt64.ofNat_toNat]

end Literal

end CpuSwitch.Config
