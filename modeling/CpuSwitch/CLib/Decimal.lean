import CpuSwitch.CLib.Double
import CpuSwitch.CLib.Integer
import CpuSwitch.CLib.Rounding
import Mathlib.Data.Rat.Floor
import Mathlib.Tactic.NormNum

/-! `strtod` and `printf("%.*f")` of the "C" locale, with exact values. -/
namespace CLib

/-- The text after a word, matched without regard to case. -/
def stripWord (word text : Text) : Option Text :=
  if (text.take word.length).map Char.toLower = word then some (text.drop word.length) else none

/-- The optional parenthesised suffix of a NaN. -/
def skipNanSuffix (text : Text) : Text :=
  match text with
  | '(' :: more =>
    match more.dropWhile (fun c => c.isAlphanum || c = '_') with
    | ')' :: rest => rest
    | _ => text
  | _ => text

def isHexDigit (c : Char) : Bool :=
  c.isDigit || ('a' ≤ c.toLower && c.toLower ≤ 'f')

def hexDigitValue (c : Char) : ℕ :=
  if c.isDigit then c.toNat - 48 else c.toLower.toNat - 87

/-- Digits with an optional point: the digits, how many follow the point, and the rest. -/
def scanMantissa (isDigit : Char → Bool) (text : Text) : Option (Text × ℕ × Text) :=
  let whole := text.takeWhile isDigit
  let (fraction, rest) := match text.dropWhile isDigit with
    | '.' :: more => (more.takeWhile isDigit, more.dropWhile isDigit)
    | rest => ([], rest)
  if whole ++ fraction = [] then none else some (whole ++ fraction, fraction.length, rest)

/-- An exponent; without digits the mark is not consumed. -/
def scanExponent (mark : Char → Bool) (text : Text) : ℤ × Text :=
  match text with
  | [] => (0, [])
  | c :: more =>
    if mark c then
      let (negative, rest) := takeSign more
      match rest.takeWhile Char.isDigit with
      | [] => (0, text)
      | digits =>
        let magnitude : ℤ := Nat.ofDigitChars 10 digits 0
        (if negative then -magnitude else magnitude, rest.dropWhile Char.isDigit)
    else (0, text)

def isDecimalMark (c : Char) : Bool := c = 'e' || c = 'E'

/-- The bytes of a decimal number. -/
def isDecimalByte (c : Char) : Bool :=
  c.isDigit || c = '.' || c = '+' || c = '-' || c = 'e' || c = 'E'

def isBinaryMark (c : Char) : Bool := c = 'p' || c = 'P'

def scanDecimal (text : Text) : Option (ℚ × Text) :=
  (scanMantissa Char.isDigit text).map fun (digits, decimals, rest) =>
    let (exponent, rest) := scanExponent isDecimalMark rest
    ((Nat.ofDigitChars 10 digits 0 : ℚ) * 10 ^ (exponent - decimals), rest)

def scanHex (text : Text) : Option (ℚ × Text) :=
  (scanMantissa isHexDigit text).map fun (digits, decimals, rest) =>
    let (exponent, rest) := scanExponent isBinaryMark rest
    ((digits.foldl (fun value c => 16 * value + hexDigitValue c) 0 : ℕ) *
      2 ^ (exponent - 4 * decimals), rest)

/-- An unsigned finite number; a `0x` without hexadecimal digits is the number `0`. -/
def scanFinite (text : Text) : Option (ℚ × Text) :=
  match text with
  | '0' :: x :: hex =>
    if x = 'x' || x = 'X' then (scanHex hex).orElse fun _ => scanDecimal text
    else scanDecimal text
  | _ => scanDecimal text

/-- From here on a magnitude rounds past the largest finite double. -/
def overflowBound : ℚ := 2 ^ 1024 - 2 ^ 970

/-- From here on a magnitude rounds to a normal double. -/
def normalBound : ℚ := 2 ^ (-1022 : ℤ) - 2 ^ (-1076 : ℤ)

def overflows (value : ℚ) : Bool := overflowBound ≤ |value|

/-- The magnitudes that stay below the normal range and lose digits. -/
def underflows (value : ℚ) : Bool :=
  value ≠ 0 && |value| < normalBound && (value * 2 ^ 1074).den ≠ 1

def rangeError (value : ℚ) : Bool := overflows value || underflows value

def strtodUnsigned (text : Text) : Option (Conversion Double) :=
  match stripWord "infinity".toList text, stripWord "inf".toList text,
      stripWord "nan".toList text with
  | some rest, _, _ => some ⟨.posInf, rest, false⟩
  | none, some rest, _ => some ⟨.posInf, rest, false⟩
  | none, none, some rest => some ⟨.nan, skipNanSuffix rest, false⟩
  | none, none, none => (scanFinite text).map fun (value, rest) =>
    ⟨if overflows value then .posInf else .finite value, rest, rangeError value⟩

/-- `strtod(text, &end)`; `none` stands for `end == text`. -/
def strtod (text : Text) : Option (Conversion Double) :=
  let (negative, rest) := takeSign (skipSpace text)
  (strtodUnsigned rest).map fun conversion =>
    if negative then { conversion with value := conversion.value.neg } else conversion

/-- The last `width` decimal digits of a number, leading zeros included. -/
def padDigits : ℕ → ℕ → Text
  | 0, _ => []
  | width + 1, n => padDigits width (n / 10) ++ [(n % 10).digitChar]

/-- A magnitude counted in units of its last decimal. -/
def formatUnits (precision units : ℕ) : Text :=
  Nat.toDigits 10 (units / 10 ^ precision) ++
    if precision = 0 then [] else '.' :: padDigits precision (units % 10 ^ precision)

/-- `printf("%.*f", precision, value)`; the sign of a negative value that rounds to 0 stays. -/
def formatFixed (precision : ℕ) : Double → Text
  | .finite value =>
    let units := (roundHalfEven (|value| * 10 ^ precision)).toNat
    if value < 0 then '-' :: formatUnits precision units else formatUnits precision units
  | .posInf => "inf".toList
  | .negInf => "-inf".toList
  | .nan => "nan".toList

example : formatFixed 2 (.finite (-60.5)) = "-60.50".toList := by decide +kernel
example : formatFixed 1 (.finite 9.98) = "10.0".toList := by decide +kernel
example : strtod " -0x1.8p1,".toList = some ⟨.finite (-3), [','], false⟩ := by decide +kernel
example : strtod "1e-400".toList = some ⟨.finite (10 ^ (-400 : ℤ)), [], true⟩ := by
  decide +kernel

section RoundTrip
variable {text rest digits more : Text} {c w : Char} {precision units : ℕ} {value : ℚ}

theorem length_padDigits (width n : ℕ) : (padDigits width n).length = width := by
  induction width generalizing n with
  | zero => rfl
  | succ width ih => simp [padDigits, ih]

theorem isDigit_padDigits (width n : ℕ) : ∀ c ∈ padDigits width n, c.isDigit = true := by
  induction width generalizing n with
  | zero => simp [padDigits]
  | succ width ih =>
    intro c hc
    rcases List.mem_append.mp hc with hc | hc
    · exact ih _ c hc
    · rw [List.mem_singleton.mp hc, Nat.isDigit_digitChar]
      simpa using Nat.mod_lt n (by decide)

theorem ofDigitChars_padDigits (width n init : ℕ) :
    Nat.ofDigitChars 10 (padDigits width n) init = 10 ^ width * init + n % 10 ^ width := by
  induction width generalizing n with
  | zero => simp [padDigits, Nat.mod_one]
  | succ width ih =>
    have hm : n % 10 ^ (width + 1) = n % 10 + 10 * (n / 10 % 10 ^ width) := by
      rw [pow_succ', Nat.mod_mul]
    rw [padDigits, Nat.ofDigitChars_append, ih,
      Nat.ofDigitChars_cons_digitChar_of_lt_ten (Nat.mod_lt _ (by decide)), Nat.ofDigitChars_nil,
      hm, pow_succ']
    ring

theorem toLower_of_not_isUpper (h : c.isUpper = false) : c.toLower = c := by
  apply dif_neg
  rintro ⟨hge, hle⟩
  have hupper : c.isUpper = true := decide_eq_true ⟨hge, hle⟩
  rw [h] at hupper
  cases hupper

theorem toLower_isDecimalByte (h : isDecimalByte c = true) : isDecimalByte c.toLower = true := by
  cases hu : c.isUpper with
  | false => rwa [toLower_of_not_isUpper hu]
  | true =>
    simp only [isDecimalByte, Bool.or_eq_true, decide_eq_true_eq] at h
    rcases h with ((((h | rfl) | rfl) | rfl) | rfl) | rfl
    · have hdigit : c.toNat ≤ 57 := (Char.isDigit_iff_toNat.mp h).2
      have hupper : 65 ≤ c.toNat := by
        have := of_decide_eq_true hu
        exact UInt32.le_iff_toNat_le.mp this.1
      omega
    all_goals decide

theorem isDecimalByte_of_isDigit (h : c.isDigit = true) : isDecimalByte c = true := by
  simp [isDecimalByte, h]

theorem not_isspace_of_isDecimalByte (h : isDecimalByte c = true) : isspace c = false := by
  simp only [isDecimalByte, Bool.or_eq_true, decide_eq_true_eq] at h
  rcases h with ((((h | rfl) | rfl) | rfl) | rfl) | rfl
  · exact not_isspace_of_isDigit h
  all_goals decide

/-- The special spellings start with letters that no decimal contains. -/
theorem stripWord_of_decimal {word : Text} (h : ∀ c ∈ text.head?, isDecimalByte c = true)
    (hw : isDecimalByte w = false) : stripWord (w :: word) text = none := by
  cases text with
  | nil => rfl
  | cons c text =>
    have hne : c.toLower ≠ w := by
      rintro rfl
      rw [toLower_isDecimalByte (h c rfl)] at hw
      cases hw
    simp [stripWord, hne]

/-- A number that starts like a decimal has none of the special spellings. -/
theorem strtodUnsigned_of_head (h : ∀ c ∈ text.head?, isDecimalByte c = true) :
    strtodUnsigned text = (scanFinite text).map fun (value, rest) =>
      ⟨if overflows value then .posInf else .finite value, rest, rangeError value⟩ := by
  have hi : stripWord "infinity".toList text = none := stripWord_of_decimal h (by decide)
  have hf : stripWord "inf".toList text = none := stripWord_of_decimal h (by decide)
  have hn : stripWord "nan".toList text = none := stripWord_of_decimal h (by decide)
  simp only [strtodUnsigned, hi, hf, hn]

/-- Without an `x` in second place a number is read as a decimal. -/
theorem scanFinite_of_ne_x (h : ∀ x ∈ text[1]?, x ≠ 'x' ∧ x ≠ 'X') :
    scanFinite text = scanDecimal text := by
  unfold scanFinite
  split
  · rename_i x hex
    obtain ⟨hl, hu⟩ := h x (by simp)
    simp [hl, hu]
  · rfl

theorem scanExponent_of_stops {mark : Char → Bool} (h : Stops mark rest) :
    scanExponent mark rest = (0, rest) := by
  cases rest with
  | nil => rfl
  | cons c rest => simp [scanExponent, stops_cons.mp h]

theorem rangeError_of_bounds (hlo : value = 0 ∨ 1 / 10 ^ 6 ≤ |value|) (hhi : |value| ≤ 10 ^ 12) :
    rangeError value = false := by
  have ho : overflows value = false := by
    have : (10 : ℚ) ^ 12 < overflowBound := by decide +kernel
    exact decide_eq_false (not_le.mpr (hhi.trans_lt this))
  have hu : underflows value = false := by
    rcases hlo with rfl | hlo
    · simp [underflows]
    · have : normalBound < 1 / 10 ^ 6 := by decide +kernel
      have hn : ¬ |value| < normalBound := not_lt.mpr (this.le.trans hlo)
      simp [underflows, hn]
  rw [rangeError, ho, hu, Bool.or_false]

/-- Counting units and dividing again is exact enough for the range of a double. -/
theorem rangeError_units (hn : units ≤ 10 ^ 12) (hp : precision ≤ 6) :
    rangeError ((units : ℚ) / 10 ^ precision) = false := by
  have hpow : (1 : ℚ) ≤ 10 ^ precision := one_le_pow₀ (by norm_num)
  have hpow6 : (10 : ℚ) ^ precision ≤ 10 ^ 6 := pow_le_pow_right₀ (by norm_num) hp
  have hunits : (units : ℚ) ≤ 10 ^ 12 := by exact_mod_cast hn
  have habs : |(units : ℚ) / 10 ^ precision| = units / 10 ^ precision :=
    abs_of_nonneg (by positivity)
  apply rangeError_of_bounds
  · rcases Nat.eq_zero_or_pos units with rfl | hpos
    · left
      simp
    · right
      have : (1 : ℚ) ≤ units := by exact_mod_cast hpos
      rw [habs]
      gcongr
  · rw [habs, div_le_iff₀ (by positivity)]
    nlinarith

/-- The printed magnitude, counted in units of the last decimal. -/
theorem abs_roundTo_eq_units (precision : ℕ) (value : ℚ) :
    |roundTo precision value| =
      ((roundHalfEven (|value| * 10 ^ precision)).toNat : ℚ) / 10 ^ precision := by
  have hnn : 0 ≤ roundHalfEven (|value| * 10 ^ precision) :=
    roundHalfEven_nonneg (by positivity)
  have hu : ((roundHalfEven (|value| * 10 ^ precision)).toNat : ℚ) =
      roundHalfEven (|value| * 10 ^ precision) := by
    exact_mod_cast Int.toNat_of_nonneg hnn
  have hq : (0 : ℚ) ≤ roundHalfEven (|value| * 10 ^ precision) / 10 ^ precision := by
    rw [← hu]
    positivity
  rw [hu, roundTo]
  split_ifs
  · rw [abs_neg, abs_of_nonneg hq]
  · rw [abs_of_nonneg hq]

end RoundTrip

section Nan
variable {text rest : Text} {conversion : Conversion Double}

/-- The number is spelled as a NaN, whatever its sign. -/
def SpellsNan (text : Text) : Prop :=
  (stripWord "nan".toList (takeSign (skipSpace text)).2).isSome = true

theorem stripWord_inf_of_nan (h : stripWord "nan".toList text = some rest) :
    stripWord "infinity".toList text = none ∧ stripWord "inf".toList text = none := by
  cases text with
  | nil => cases h
  | cons c text =>
    have hc : c.toLower = 'n' := by
      unfold stripWord at h
      split_ifs at h with hw
      simp at hw
      exact hw.1
    simp [stripWord, hc]

theorem strtodUnsigned_of_nan (h : stripWord "nan".toList text = some rest) :
    strtodUnsigned text = some ⟨.nan, skipNanSuffix rest, false⟩ := by
  obtain ⟨hinfinity, hinf⟩ := stripWord_inf_of_nan h
  simp only [strtodUnsigned, hinfinity, hinf, h]

theorem strtodUnsigned_ne_nan (hn : stripWord "nan".toList text = none)
    (h : strtodUnsigned text = some conversion) : conversion.value ≠ .nan := by
  unfold strtodUnsigned at h
  rw [hn] at h
  split at h
  · cases h
    simp
  · cases h
    simp
  · rename_i hnan
    cases hnan
  · obtain ⟨⟨value, rest⟩, -, rfl⟩ := Option.map_eq_some_iff.mp h
    dsimp only
    split_ifs <;> simp

theorem strtod_of_spellsNan (h : SpellsNan text) :
    ∃ rest, strtod text = some ⟨.nan, rest, false⟩ := by
  obtain ⟨rest, hrest⟩ := Option.isSome_iff_exists.mp h
  refine ⟨skipNanSuffix rest, ?_⟩
  cases hs : takeSign (skipSpace text) with
  | mk negative more =>
    rw [hs] at hrest
    simp only [strtod, hs, strtodUnsigned_of_nan hrest, Option.map_some]
    cases negative <;> rfl

/-- No other spelling reads as a NaN. -/
theorem strtod_ne_nan (hn : ¬ SpellsNan text) (h : strtod text = some conversion) :
    conversion.value ≠ .nan := by
  cases hs : takeSign (skipSpace text) with
  | mk negative more =>
    have hnone : stripWord "nan".toList more = none := by
      simpa [SpellsNan, hs] using hn
    simp only [strtod, hs] at h
    obtain ⟨unsigned, hu, rfl⟩ := Option.map_eq_some_iff.mp h
    have hne := strtodUnsigned_ne_nan hnone hu
    cases negative with
    | false => exact hne
    | true =>
      cases hv : unsigned.value with
      | nan => exact (hne hv).elim
      | finite value => simp
      | posInf => simp [Double.neg]
      | negInf => simp [Double.neg]

end Nan

section Printed
variable {value : ℚ} {precision units : ℕ} {c : Char}

/-- Values of everyday size and precision. -/
def Moderate (precision : ℕ) (value : ℚ) : Prop := precision ≤ 6 ∧ |value| ≤ 10 ^ 5

theorem units_le (h : Moderate precision value) :
    (roundHalfEven (|value| * 10 ^ precision)).toNat ≤ 10 ^ 5 * 10 ^ precision := by
  have hle : |value| * 10 ^ precision ≤ ((10 ^ 5 * 10 ^ precision : ℤ) : ℚ) := by
    push_cast
    gcongr
    exact h.2
  have hround := roundHalfEven_mono hle
  rw [roundHalfEven_intCast] at hround
  have hnat := Int.toNat_le_toNat hround
  exact_mod_cast hnat

theorem rangeError_roundTo (h : Moderate precision value) :
    rangeError |roundTo precision value| = false := by
  rw [abs_roundTo_eq_units]
  apply rangeError_units _ h.1
  have hpow : 10 ^ precision ≤ 10 ^ 6 := Nat.pow_le_pow_right (by decide) h.1
  have hunits := units_le h
  omega

theorem length_formatUnits_le (h : units ≤ 10 ^ 5 * 10 ^ precision) :
    (formatUnits precision units).length ≤ precision + 7 := by
  have hdiv : units / 10 ^ precision < 10 ^ 6 := by
    have := Nat.div_le_of_le_mul (Nat.mul_comm _ _ ▸ h)
    omega
  have hdigits := (Nat.length_toDigits_le_iff (by decide) (by decide)).mpr hdiv
  rw [formatUnits]
  split_ifs
  · simp
    omega
  · simp [length_padDigits]
    omega

theorem length_formatFixed_le (h : Moderate precision value) :
    (formatFixed precision (.finite value)).length ≤ precision + 8 := by
  have hunits := length_formatUnits_le (units_le h)
  rw [formatFixed]
  split_ifs
  · rw [List.length_cons]
    omega
  · omega

/-- The bytes of a printed number. -/
def isNumeral (c : Char) : Bool := c.isDigit || c = '.' || c = '-'

theorem isNumeral_formatFixed :
    ∀ c ∈ formatFixed precision (.finite value), isNumeral c = true := by
  have hunits : ∀ units, ∀ c ∈ formatUnits precision units, isNumeral c = true := by
    intro units c hc
    rcases List.mem_append.mp hc with hc | hc
    · simp [isNumeral, isDigit_toDigits c hc]
    · split_ifs at hc
      · simp at hc
      · rcases List.mem_cons.mp hc with rfl | hc
        · decide
        · simp [isNumeral, isDigit_padDigits _ _ c hc]
  intro c hc
  rw [formatFixed] at hc
  split_ifs at hc
  · rcases List.mem_cons.mp hc with rfl | hc
    · decide
    · exact hunits _ c hc
  · exact hunits _ c hc

theorem not_isspace_of_isNumeral (h : isNumeral c = true) : isspace c = false := by
  apply not_isspace_of_isDecimalByte
  simp only [isNumeral, Bool.or_eq_true, decide_eq_true_eq] at h
  rcases h with (h | rfl) | rfl
  · exact isDecimalByte_of_isDigit h
  · decide
  · decide

end Printed

end CLib
