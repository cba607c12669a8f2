import CpuSwitch.CLib.Boundary

/-! The spellings of decimal numbers, and that the conversions read just these. -/
namespace CLib

inductive Sign where
  | absent
  | plus
  | minus
  deriving DecidableEq, Repr

def Sign.text : Sign → Text
  | .absent => []
  | .plus => ['+']
  | .minus => ['-']

/-- An optional sign and at least one decimal digit. -/
structure IntegerLiteral where
  sign : Sign
  digits : Text
  decimal : ∀ c ∈ digits, c.isDigit = true
  nonempty : digits ≠ []

namespace IntegerLiteral

def text (literal : IntegerLiteral) : Text := literal.sign.text ++ literal.digits

def magnitude (literal : IntegerLiteral) : ℕ := Nat.ofDigitChars 10 literal.digits 0

def value (literal : IntegerLiteral) : ℤ :=
  if literal.sign = .minus then -literal.magnitude else literal.magnitude

end IntegerLiteral

structure Exponent where
  mark : Char
  isMark : isDecimalMark mark = true
  literal : IntegerLiteral

/-- Sign, digits with an optional point, and an optional exponent; `none` is no point. -/
structure DecimalLiteral where
  sign : Sign
  whole : Text
  fraction : Option Text
  exponent : Option Exponent
  decimal : ∀ c ∈ whole ++ fraction.getD [], c.isDigit = true
  nonempty : whole ++ fraction.getD [] ≠ []

def fractionText : Option Text → Text
  | none => []
  | some digits => '.' :: digits

def exponentText : Option Exponent → Text
  | none => []
  | some exponent => exponent.mark :: exponent.literal.text

def exponentValue (exponent : Option Exponent) : ℤ :=
  exponent.elim 0 fun exponent => exponent.literal.value

namespace DecimalLiteral

def mantissa (literal : DecimalLiteral) : Text :=
  literal.whole ++ fractionText literal.fraction

def unsigned (literal : DecimalLiteral) : Text :=
  literal.mantissa ++ exponentText literal.exponent

def text (literal : DecimalLiteral) : Text := literal.sign.text ++ literal.unsigned

def magnitude (literal : DecimalLiteral) : ℚ :=
  (Nat.ofDigitChars 10 (literal.whole ++ literal.fraction.getD []) 0 : ℚ) *
    10 ^ (exponentValue literal.exponent - (literal.fraction.getD []).length)

def value (literal : DecimalLiteral) : ℚ :=
  if literal.sign = .minus then -literal.magnitude else literal.magnitude

/-- What `strtod` makes of the literal. -/
def converted (literal : DecimalLiteral) : Double :=
  let unsigned := if overflows literal.magnitude then .posInf else .finite literal.magnitude
  if literal.sign = .minus then unsigned.neg else unsigned

end DecimalLiteral

section Integer
variable {text rest : Text} {c : Char} {negative : Bool} {magnitude : ℕ}
  {literal : IntegerLiteral} {sign : Sign}

/-- Every text splits into a sign and what follows it. -/
theorem exists_sign (text : Text) : ∃ sign : Sign, text = sign.text ++ (takeSign text).2 ∧
    ((takeSign text).1 = true ↔ sign = .minus) := by
  cases text with
  | nil => exact ⟨.absent, rfl, by simp [takeSign]⟩
  | cons c text =>
    by_cases hminus : c = '-'
    · subst hminus
      exact ⟨.minus, rfl, by simp [takeSign]⟩
    · by_cases hplus : c = '+'
      · subst hplus
        exact ⟨.plus, rfl, by simp [takeSign]⟩
      · exact ⟨.absent, by simp [takeSign, hminus, hplus, Sign.text],
          by simp [takeSign, hminus, hplus]⟩

theorem takeSign_sign (h : ∀ c ∈ text.head?, c ≠ '-' ∧ c ≠ '+') :
    takeSign (sign.text ++ text) = (decide (sign = .minus), text) := by
  cases sign with
  | plus => rfl
  | minus => rfl
  | absent =>
    cases text with
    | nil => rfl
    | cons c text =>
      obtain ⟨hminus, hplus⟩ := h c rfl
      simp [Sign.text, takeSign, hminus, hplus]

theorem not_sign_of_isDigit (h : c.isDigit = true) : c ≠ '-' ∧ c ≠ '+' := by
  constructor <;> rintro rfl <;> exact absurd h (by decide)

theorem IntegerLiteral.head_digits (literal : IntegerLiteral) :
    ∀ c ∈ literal.digits.head?, c.isDigit = true := by
  intro c hc
  exact literal.decimal c (List.mem_of_mem_head? hc)

theorem stops_dropWhile (p : Char → Bool) (text : Text) : Stops p (text.dropWhile p) := by
  intro c hc
  have h := List.head?_dropWhile_not p text
  rw [Option.mem_def.mp hc] at h
  exact h

theorem Sign.isDecimalByte_text (sign : Sign) : ∀ c ∈ sign.text, isDecimalByte c = true := by
  intro c hc
  cases sign with
  | absent => cases hc
  | plus =>
    rw [List.mem_singleton.mp hc]
    decide
  | minus =>
    rw [List.mem_singleton.mp hc]
    decide

theorem IntegerLiteral.isDecimalByte_text (literal : IntegerLiteral) :
    ∀ c ∈ literal.text, isDecimalByte c = true := by
  intro c hc
  rcases List.mem_append.mp hc with hc | hc
  · exact literal.sign.isDecimalByte_text c hc
  · exact isDecimalByte_of_isDigit (literal.decimal c hc)

theorem IntegerLiteral.text_ne_nil (literal : IntegerLiteral) : literal.text ≠ [] := by
  intro hnil
  exact literal.nonempty (List.append_eq_nil_iff.mp hnil).2

/-- What an integer conversion reads is a literal. -/
theorem literal_of_scanInteger (h : scanInteger text = some (negative, magnitude, rest)) :
    ∃ literal : IntegerLiteral, skipSpace text = literal.text ++ rest ∧
      negative = decide (literal.sign = .minus) ∧ magnitude = literal.magnitude := by
  obtain ⟨sign, hsign, hminus⟩ := exists_sign (skipSpace text)
  simp only [scanInteger] at h
  cases hd : (takeSign (skipSpace text)).2.takeWhile Char.isDigit with
  | nil => simp [hd] at h
  | cons c digits =>
    simp only [hd, Option.some.injEq, Prod.mk.injEq] at h
    obtain ⟨hneg, hmag, hrest⟩ := h
    have hall : ∀ d ∈ c :: digits, d.isDigit = true := by
      intro d hmem
      rw [← hd] at hmem
      exact List.mem_takeWhile_imp hmem
    have hsplit : (takeSign (skipSpace text)).2 = (c :: digits) ++ rest := by
      rw [← hd, ← hrest, List.takeWhile_append_dropWhile]
    refine ⟨⟨sign, c :: digits, hall, by simp⟩, ?_, ?_, hmag.symm⟩
    · rw [hsplit] at hsign
      rw [hsign, IntegerLiteral.text, List.append_assoc]
    · rw [← hneg, Bool.eq_iff_iff, hminus, decide_eq_true_iff]

theorem IntegerLiteral.skipSpace_text (literal : IntegerLiteral) (rest : Text) :
    skipSpace (literal.text ++ rest) = literal.text ++ rest := by
  obtain ⟨c, digits, hcons⟩ := List.exists_cons_of_ne_nil literal.nonempty
  have hc : c.isDigit = true := literal.head_digits c (by rw [hcons]; rfl)
  rw [IntegerLiteral.text, hcons]
  cases literal.sign with
  | absent => exact skipSpace_cons_of_not (not_isspace_of_isDigit hc)
  | plus => exact skipSpace_cons_of_not (by decide)
  | minus => exact skipSpace_cons_of_not (by decide)

/-- A literal is read as a whole when no digit follows. -/
theorem scanInteger_literal (literal : IntegerLiteral) (h : Stops Char.isDigit rest) :
    scanInteger (literal.text ++ rest) =
      some (decide (literal.sign = .minus), literal.magnitude, rest) := by
  have hhead : ∀ c ∈ (literal.digits ++ rest).head?, c ≠ '-' ∧ c ≠ '+' := by
    intro c hc
    rw [List.head?_append_of_ne_nil _ literal.nonempty] at hc
    exact not_sign_of_isDigit (literal.head_digits c hc)
  rw [scanInteger, literal.skipSpace_text, IntegerLiteral.text, List.append_assoc,
    takeSign_sign hhead]
  simp only [takeWhile_block literal.decimal h, dropWhile_block literal.decimal h]
  obtain ⟨c, digits, hcons⟩ := List.exists_cons_of_ne_nil literal.nonempty
  rw [IntegerLiteral.magnitude, hcons]

theorem strtoull_literal (literal : IntegerLiteral) (hsign : literal.sign ≠ .minus)
    (h : Stops Char.isDigit rest) :
    strtoull (literal.text ++ rest) =
      some (if 2 ^ 64 ≤ literal.magnitude then ⟨UInt64.ofNat (2 ^ 64 - 1), rest, true⟩
        else ⟨UInt64.ofNat literal.magnitude, rest, false⟩) := by
  rw [strtoull, scanInteger_literal literal h, Option.map_some]
  simp only [hsign, decide_false, Bool.false_eq_true, if_false]

/-- What `strtol` takes without overflow is a literal of its value. -/
theorem literal_of_strtol {conversion : Conversion ℤ} (h : strtol text = some conversion)
    (hr : conversion.rangeError = false) :
    ∃ literal : IntegerLiteral, skipSpace text = literal.text ++ conversion.rest ∧
      literal.value = conversion.value := by
  obtain ⟨⟨negative, magnitude, rest⟩, hscan, rfl⟩ := Option.map_eq_some_iff.mp h
  obtain ⟨literal, htext, hnegative, hmagnitude⟩ := literal_of_scanInteger hscan
  refine ⟨literal, ?_, ?_⟩
  · rw [htext]
    dsimp only
    split_ifs <;> rfl
  · simp only [hnegative, hmagnitude, decide_eq_true_eq] at hr ⊢
    rw [IntegerLiteral.value]
    split_ifs at hr ⊢ <;> rfl

theorem strtol_literal_rest (literal : IntegerLiteral) (h : Stops Char.isDigit rest) :
    (strtol (literal.text ++ rest)).map Conversion.rest = some rest := by
  rw [strtol, scanInteger_literal literal h, Option.map_some, Option.map_some]
  dsimp only
  split_ifs <;> rfl

/-- What `strtoull` takes without overflow is a literal of its value, unless a minus wraps it. -/
theorem literal_of_strtoull {conversion : Conversion UInt64} (h : strtoull text = some conversion)
    (hr : conversion.rangeError = false) :
    ∃ literal : IntegerLiteral, skipSpace text = literal.text ++ conversion.rest ∧
      (literal.sign ≠ .minus → (conversion.value.toNat : ℤ) = literal.value) := by
  obtain ⟨⟨negative, magnitude, rest⟩, hscan, rfl⟩ := Option.map_eq_some_iff.mp h
  obtain ⟨literal, htext, hnegative, hmagnitude⟩ := literal_of_scanInteger hscan
  refine ⟨literal, ?_, fun hsign => ?_⟩
  · rw [htext]
    dsimp only
    split_ifs <;> rfl
  · have hsmall : ¬ 2 ^ 64 ≤ magnitude := by
      intro hlarge
      simp only [if_pos hlarge] at hr
      cases hr
    have hplus : negative = false := by simp [hnegative, hsign]
    simp only [if_neg hsmall, hplus, Bool.false_eq_true, if_false]
    rw [IntegerLiteral.value, if_neg hsign, ← hmagnitude, UInt64.toNat_ofNat',
      Nat.mod_eq_of_lt (by omega)]

end Integer

section Decimal
variable {text rest digits : Text} {decimals : ℕ} {c : Char} {magnitude : ℚ}
  {literal : DecimalLiteral} {isDigit mark : Char → Bool} {exponent : ℤ}

/-- The digits before and after a point, as they stand in the text. -/
theorem block_of_scanMantissa (h : scanMantissa isDigit text = some (digits, decimals, rest)) :
    ∃ whole fraction, text = whole ++ fractionText fraction ++ rest ∧
      digits = whole ++ fraction.getD [] ∧ decimals = (fraction.getD []).length ∧
      (∀ c ∈ digits, isDigit c = true) ∧ digits ≠ [] := by
  have hwhole : ∀ c ∈ text.takeWhile isDigit, isDigit c = true :=
    fun c hc => List.mem_takeWhile_imp hc
  have hsplit : text = text.takeWhile isDigit ++ text.dropWhile isDigit :=
    List.takeWhile_append_dropWhile.symm
  by_cases hpoint : ∃ more, text.dropWhile isDigit = '.' :: more
  · obtain ⟨more, hmore⟩ := hpoint
    rw [scanMantissa_point hmore] at h
    split_ifs at h with hnil
    simp only [Option.some.injEq, Prod.mk.injEq] at h
    obtain ⟨rfl, rfl, rfl⟩ := h
    refine ⟨text.takeWhile isDigit, some (more.takeWhile isDigit), ?_, rfl, rfl, ?_, hnil⟩
    · conv_lhs => rw [hsplit, hmore]
      simp [fractionText]
    · intro c hc
      rcases List.mem_append.mp hc with hc | hc
      · exact hwhole c hc
      · exact List.mem_takeWhile_imp hc
  · have hplain : Stops (fun c => decide (c = '.')) (text.dropWhile isDigit) := by
      intro c hc
      refine decide_eq_false ?_
      rintro rfl
      obtain ⟨more, hmore⟩ := List.head?_eq_some_iff.mp hc
      exact hpoint ⟨more, hmore⟩
    rw [scanMantissa_plain hplain] at h
    split_ifs at h with hnil
    simp only [Option.some.injEq, Prod.mk.injEq] at h
    obtain ⟨rfl, rfl, rfl⟩ := h
    refine ⟨text.takeWhile isDigit, none, ?_, by simp, rfl, hwhole, hnil⟩
    simp [fractionText]

/-- An exponent is read as a mark and an integer literal, or nothing is consumed. -/
theorem exponent_of_scanExponent (h : scanExponent isDecimalMark text = (exponent, rest)) :
    ∃ e : Option Exponent, text = exponentText e ++ rest ∧ exponent = exponentValue e := by
  cases text with
  | nil =>
    cases h
    exact ⟨none, rfl, rfl⟩
  | cons c text =>
    cases hmark : isDecimalMark c with
    | false =>
      simp only [scanExponent, hmark, Bool.false_eq_true, if_false, Prod.mk.injEq] at h
      obtain ⟨rfl, rfl⟩ := h
      exact ⟨none, rfl, rfl⟩
    | true =>
      obtain ⟨sign, hsign, hminus⟩ := exists_sign text
      simp only [scanExponent, hmark, if_true] at h
      cases hd : (takeSign text).2.takeWhile Char.isDigit with
      | nil =>
        simp only [hd, Prod.mk.injEq] at h
        obtain ⟨rfl, rfl⟩ := h
        exact ⟨none, rfl, rfl⟩
      | cons d digits =>
        simp only [hd, Prod.mk.injEq] at h
        obtain ⟨hexp, hrest⟩ := h
        have hall : ∀ a ∈ d :: digits, a.isDigit = true := by
          intro a hmem
          rw [← hd] at hmem
          exact List.mem_takeWhile_imp hmem
        have hsplit : (takeSign text).2 = (d :: digits) ++ rest := by
          rw [← hd, ← hrest, List.takeWhile_append_dropWhile]
        refine ⟨some ⟨c, hmark, ⟨sign, d :: digits, hall, by simp⟩⟩, ?_, ?_⟩
        · rw [hsplit] at hsign
          simp only [exponentText, IntegerLiteral.text]
          rw [hsign]
          simp
        · rw [← hexp]
          simp only [exponentValue, Option.elim_some, IntegerLiteral.value,
            IntegerLiteral.magnitude, hminus]

theorem DecimalLiteral.isDecimalByte_text (literal : DecimalLiteral) :
    ∀ c ∈ literal.text, isDecimalByte c = true := by
  intro c hc
  rcases List.mem_append.mp hc with hc | hc
  · exact literal.sign.isDecimalByte_text c hc
  · rcases List.mem_append.mp hc with hc | hc
    · have hall := literal.decimal
      rcases List.mem_append.mp hc with hc | hc
      · exact isDecimalByte_of_isDigit (hall c (List.mem_append_left _ hc))
      · cases hf : literal.fraction with
        | none =>
          rw [hf] at hc
          cases hc
        | some fraction =>
          rw [hf] at hc hall
          rcases List.mem_cons.mp hc with rfl | hc
          · decide
          · exact isDecimalByte_of_isDigit (hall c (List.mem_append_right _ hc))
    · cases he : literal.exponent with
      | none =>
        rw [he] at hc
        cases hc
      | some exponent =>
        rw [he] at hc
        rcases List.mem_cons.mp hc with rfl | hc
        · have hmark := exponent.isMark
          rcases Bool.or_eq_true_iff.mp hmark with hmark | hmark <;>
            simp [isDecimalByte, of_decide_eq_true hmark]
        · exact exponent.literal.isDecimalByte_text c hc

theorem strtodUnsigned_of_decimal (h : ∀ c ∈ text, isDecimalByte c = true) :
    strtodUnsigned text = (scanDecimal text).map fun (value, rest) =>
      ⟨if overflows value then .posInf else .finite value, rest, rangeError value⟩ := by
  have hx : ∀ x ∈ text[1]?, x ≠ 'x' ∧ x ≠ 'X' := by
    intro x hx
    have hbyte := h x (List.mem_of_getElem? hx)
    constructor <;> rintro rfl <;> exact absurd hbyte (by decide)
  rw [strtodUnsigned_of_head fun c hc => h c (List.mem_of_mem_head? hc), scanFinite_of_ne_x hx]

theorem scanMantissa_literal (literal : DecimalLiteral) (h : Stops Char.isDigit rest)
    (hp : Stops (fun c => decide (c = '.')) rest) :
    scanMantissa Char.isDigit (literal.mantissa ++ rest) =
      some (literal.whole ++ literal.fraction.getD [], (literal.fraction.getD []).length,
        rest) := by
  have hall := literal.decimal
  have hne := literal.nonempty
  rw [DecimalLiteral.mantissa, List.append_assoc]
  have hwhole : ∀ c ∈ literal.whole, c.isDigit = true :=
    fun c hc => hall c (List.mem_append_left _ hc)
  cases hf : literal.fraction with
  | none =>
    rw [hf] at hne
    simp only [fractionText, List.nil_append, Option.getD_none, List.append_nil] at hne ⊢
    have hdrop := dropWhile_block hwhole h
    rw [scanMantissa_plain (by rwa [hdrop]), hdrop, takeWhile_block hwhole h, if_neg hne]
    rfl
  | some fraction =>
    rw [hf] at hall hne
    have hfraction : ∀ c ∈ fraction, c.isDigit = true :=
      fun c hc => hall c (List.mem_append_right _ hc)
    have hpoint : Stops Char.isDigit ('.' :: (fraction ++ rest)) := stops_cons.mpr (by decide)
    simp only [fractionText, List.cons_append, Option.getD_some] at hne ⊢
    rw [scanMantissa_point (dropWhile_block hwhole hpoint), takeWhile_block hwhole hpoint,
      takeWhile_block hfraction h, dropWhile_block hfraction h, if_neg hne]

theorem scanExponent_literal (e : Option Exponent) :
    scanExponent isDecimalMark (exponentText e) = (exponentValue e, []) := by
  cases e with
  | none => rfl
  | some e =>
    have hhead : ∀ c ∈ e.literal.digits.head?, c ≠ '-' ∧ c ≠ '+' :=
      fun c hc => not_sign_of_isDigit (e.literal.head_digits c hc)
    obtain ⟨c, digits, hcons⟩ := List.exists_cons_of_ne_nil e.literal.nonempty
    have htake : (e.literal.digits ++ []).takeWhile Char.isDigit = e.literal.digits :=
      takeWhile_block e.literal.decimal stops_nil
    have hdrop : (e.literal.digits ++ []).dropWhile Char.isDigit = [] :=
      dropWhile_block e.literal.decimal stops_nil
    rw [List.append_nil, hcons] at htake hdrop
    rw [exponentText, scanExponent, if_pos e.isMark, IntegerLiteral.text, takeSign_sign hhead]
    simp only [hcons, htake, hdrop, exponentValue, Option.elim_some, IntegerLiteral.value,
      IntegerLiteral.magnitude, decide_eq_true_eq]

theorem scanDecimal_literal (literal : DecimalLiteral) :
    scanDecimal literal.unsigned = some (literal.magnitude, []) := by
  have hstop : Stops Char.isDigit (exponentText literal.exponent) ∧
      Stops (fun c => decide (c = '.')) (exponentText literal.exponent) := by
    cases literal.exponent with
    | none => exact ⟨stops_nil, stops_nil⟩
    | some e =>
      have hmark := e.isMark
      rcases Bool.or_eq_true_iff.mp hmark with hmark | hmark <;>
        simp [exponentText, stops_cons, of_decide_eq_true hmark]
  rw [scanDecimal, DecimalLiteral.unsigned, scanMantissa_literal literal hstop.1 hstop.2,
    Option.map_some]
  simp only [scanExponent_literal]
  rfl

theorem DecimalLiteral.head_unsigned (literal : DecimalLiteral) :
    ∀ c ∈ literal.unsigned.head?, c ≠ '-' ∧ c ≠ '+' := by
  have hall := literal.decimal
  have hne := literal.nonempty
  intro c hc
  rw [DecimalLiteral.unsigned, DecimalLiteral.mantissa] at hc
  cases hw : literal.whole with
  | cons d whole =>
    rw [hw] at hc hall
    obtain rfl : d = c := by simpa using hc
    exact not_sign_of_isDigit (hall d (by simp))
  | nil =>
    cases hf : literal.fraction with
    | none =>
      rw [hw, hf] at hne
      exact (hne rfl).elim
    | some fraction =>
      rw [hw, hf] at hc
      obtain rfl : '.' = c := by simpa [fractionText] using hc
      decide

theorem skipSpace_of_decimal (h : ∀ c ∈ text, isDecimalByte c = true) :
    skipSpace text = text := by
  apply dropWhile_of_stops
  intro c hc
  exact not_isspace_of_isDecimalByte (h c (List.mem_of_mem_head? hc))

/-- A decimal literal is read as a whole. -/
theorem strtod_literal (literal : DecimalLiteral) :
    strtod literal.text = some ⟨literal.converted, [], rangeError literal.magnitude⟩ := by
  have hbytes := literal.isDecimalByte_text
  have hunsigned : ∀ c ∈ literal.unsigned, isDecimalByte c = true :=
    fun c hc => hbytes c (List.mem_append_right _ hc)
  rw [strtod, skipSpace_of_decimal hbytes, DecimalLiteral.text,
    takeSign_sign literal.head_unsigned]
  simp only [strtodUnsigned_of_decimal hunsigned, scanDecimal_literal, Option.map_some,
    DecimalLiteral.converted, decide_eq_true_eq]
  split_ifs <;> rfl

theorem DecimalLiteral.text_ne_nil (literal : DecimalLiteral) : literal.text ≠ [] := by
  intro hnil
  obtain ⟨-, hunsigned⟩ := List.append_eq_nil_iff.mp hnil
  obtain ⟨hmantissa, -⟩ := List.append_eq_nil_iff.mp hunsigned
  obtain ⟨hwhole, hfraction⟩ := List.append_eq_nil_iff.mp hmantissa
  apply literal.nonempty
  cases hf : literal.fraction with
  | none => simp [hwhole]
  | some fraction => simp [hf, fractionText] at hfraction

/-- Whatever ends the literal is left unread. -/
theorem strtod_literal_append (literal : DecimalLiteral) (h : Ends rest) :
    strtod (literal.text ++ rest) =
      some ⟨literal.converted, rest, rangeError literal.magnitude⟩ := by
  have hskip : skipSpace literal.text ≠ [] := by
    rw [skipSpace_of_decimal literal.isDecimalByte_text]
    exact literal.text_ne_nil
  rw [strtod_append h (Or.inr hskip), strtod_literal]
  rfl

theorem DecimalLiteral.converted_eq (h : rangeError literal.magnitude = false) :
    literal.converted = .finite literal.value := by
  rw [rangeError, Bool.or_eq_false_iff] at h
  rw [converted, value, h.1]
  split_ifs <;> simp_all [Double.neg]

/-- What `strtod` takes from decimal bytes is a literal. -/
theorem literal_of_strtod {conversion : Conversion Double}
    (hbytes : ∀ c ∈ text, isDecimalByte c = true) (h : strtod text = some conversion) :
    ∃ literal : DecimalLiteral, text = literal.text ++ conversion.rest := by
  obtain ⟨sign, hsign, -⟩ := exists_sign text
  have hunsigned : ∀ c ∈ (takeSign text).2, isDecimalByte c = true := by
    intro c hc
    apply hbytes
    rw [hsign]
    exact List.mem_append_right _ hc
  have hread : ∃ magnitude, scanDecimal (takeSign text).2 = some (magnitude, conversion.rest) := by
    simp only [strtod, skipSpace_of_decimal hbytes, strtodUnsigned_of_decimal hunsigned,
      Option.map_map, Option.map_eq_some_iff] at h
    obtain ⟨⟨magnitude, rest⟩, hscan, rfl⟩ := h
    refine ⟨magnitude, ?_⟩
    rw [hscan]
    dsimp only [Function.comp_apply]
    split_ifs <;> rfl
  obtain ⟨magnitude, hscan⟩ := hread
  simp only [scanDecimal, Option.map_eq_some_iff] at hscan
  obtain ⟨⟨digits, decimals, more⟩, hmantissa, heq⟩ := hscan
  obtain ⟨whole, fraction, htext, hdigits, -, hall, hne⟩ := block_of_scanMantissa hmantissa
  cases hexp : scanExponent isDecimalMark more with
  | mk exponent rest =>
    obtain ⟨e, hmore, -⟩ := exponent_of_scanExponent hexp
    simp only [hexp, Prod.mk.injEq] at heq
    rw [hdigits] at hall hne
    refine ⟨⟨sign, whole, fraction, e, hall, hne⟩, ?_⟩
    rw [DecimalLiteral.text, DecimalLiteral.unsigned, DecimalLiteral.mantissa]
    rw [hsign, htext, hmore, heq.2]
    simp

/-- Without a point and an exponent a literal is an integer. -/
theorem DecimalLiteral.exists_integer (literal : DecimalLiteral) (hf : literal.fraction = none)
    (he : literal.exponent = none) :
    ∃ integer : IntegerLiteral, integer.sign = literal.sign ∧ literal.text = integer.text ∧
      literal.value = integer.value := by
  have hall := literal.decimal
  have hne := literal.nonempty
  simp only [hf, Option.getD_none, List.append_nil] at hall hne
  refine ⟨⟨literal.sign, literal.whole, hall, hne⟩, rfl, ?_, ?_⟩
  · simp [text, unsigned, mantissa, IntegerLiteral.text, hf, he, fractionText, exponentText]
  · simp only [value, magnitude, IntegerLiteral.value, IntegerLiteral.magnitude, hf, he,
      exponentValue, Option.elim_none, Option.getD_none, List.append_nil, List.length_nil]
    split_ifs <;> simp

end Decimal

end CLib
