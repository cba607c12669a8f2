import CpuSwitch.CLib.Literal

/-! What `printf` writes is a literal, which the conversions read back. -/
namespace CLib
variable {rest : Text} {precision : ℕ} {value : ℚ}

theorem exists_literal_units (sign : Sign) (precision units : ℕ) :
    ∃ literal : DecimalLiteral, literal.sign = sign ∧
      literal.text = sign.text ++ formatUnits precision units ∧
      literal.magnitude = units / 10 ^ precision := by
  have hall := isDigit_toDigits (n := units / 10 ^ precision)
  have hne : Nat.toDigits 10 (units / 10 ^ precision) ≠ [] := Nat.toDigits_ne_nil
  by_cases hp : precision = 0
  · subst hp
    refine ⟨⟨sign, Nat.toDigits 10 (units / 10 ^ 0), none, none, by simpa using hall,
      by simp⟩, rfl, ?_, ?_⟩
    · simp [DecimalLiteral.text, DecimalLiteral.unsigned, DecimalLiteral.mantissa, formatUnits,
        fractionText, exponentText]
    · simp [DecimalLiteral.magnitude, exponentValue]
  · have hpad := isDigit_padDigits precision (units % 10 ^ precision)
    have hdigits : ∀ c ∈ Nat.toDigits 10 (units / 10 ^ precision) ++
        padDigits precision (units % 10 ^ precision), c.isDigit = true := by
      intro c hc
      exact (List.mem_append.mp hc).elim (hall c) (hpad c)
    have hvalue : Nat.ofDigitChars 10 (Nat.toDigits 10 (units / 10 ^ precision) ++
        padDigits precision (units % 10 ^ precision)) 0 = units := by
      rw [Nat.ofDigitChars_append, Nat.ofDigitChars_ten_toDigits, ofDigitChars_padDigits,
        Nat.mod_mod, Nat.div_add_mod]
    refine ⟨⟨sign, Nat.toDigits 10 (units / 10 ^ precision),
      some (padDigits precision (units % 10 ^ precision)), none, hdigits, by simp [hne]⟩,
      rfl, ?_, ?_⟩
    · simp [DecimalLiteral.text, DecimalLiteral.unsigned, DecimalLiteral.mantissa, formatUnits,
        fractionText, exponentText, hp]
    · simp [DecimalLiteral.magnitude, exponentValue, hvalue, length_padDigits, div_eq_mul_inv]

/-- A printed number is a literal of the rounded value. -/
theorem exists_literal_formatFixed (precision : ℕ) (value : ℚ) :
    ∃ literal : DecimalLiteral, literal.text = formatFixed precision (.finite value) ∧
      literal.value = roundTo precision value ∧
      literal.magnitude = |roundTo precision value| := by
  have hunits : ((roundHalfEven (|value| * 10 ^ precision)).toNat : ℚ) =
      roundHalfEven (|value| * 10 ^ precision) := by
    exact_mod_cast Int.toNat_of_nonneg (roundHalfEven_nonneg (by positivity))
  by_cases hneg : value < 0
  · obtain ⟨literal, hsign, htext, hmagnitude⟩ := exists_literal_units .minus precision
      (roundHalfEven (|value| * 10 ^ precision)).toNat
    refine ⟨literal, ?_, ?_, ?_⟩
    · rw [htext, formatFixed, if_pos hneg]
      rfl
    · rw [DecimalLiteral.value, if_pos hsign, hmagnitude, hunits, roundTo, if_pos hneg]
    · rw [hmagnitude, abs_roundTo_eq_units]
  · obtain ⟨literal, hsign, htext, hmagnitude⟩ := exists_literal_units .absent precision
      (roundHalfEven (|value| * 10 ^ precision)).toNat
    refine ⟨literal, ?_, ?_, ?_⟩
    · rw [htext, formatFixed, if_neg hneg]
      rfl
    · rw [DecimalLiteral.value, if_neg (by simp [hsign]), hmagnitude, hunits, roundTo, if_neg hneg]
    · rw [hmagnitude, abs_roundTo_eq_units]

/-- The rounded value is printed like the value itself. -/
theorem formatFixed_roundTo (h : 0 ≤ value) :
    formatFixed precision (.finite (roundTo precision value)) =
      formatFixed precision (.finite value) := by
  have hr : 0 ≤ roundTo precision value := roundTo_nonneg h
  have hunits : roundTo precision value * 10 ^ precision =
      (roundHalfEven (value * 10 ^ precision) : ℤ) := by
    rw [roundTo_of_nonneg h]
    field_simp
  rw [formatFixed, formatFixed, if_neg (not_lt.mpr hr), if_neg (not_lt.mpr h), abs_of_nonneg hr,
    abs_of_nonneg h, hunits, roundHalfEven_intCast]

/-- `strtod` inverts `printf` up to the rounding to the printed decimals. -/
theorem strtod_formatFixed (h : Ends rest) (hr : rangeError |roundTo precision value| = false) :
    strtod (formatFixed precision (.finite value) ++ rest) =
      some ⟨.finite (roundTo precision value), rest, false⟩ := by
  obtain ⟨literal, htext, hvalue, hmagnitude⟩ := exists_literal_formatFixed precision value
  rw [← hmagnitude] at hr
  rw [← htext, strtod_literal_append literal h, literal.converted_eq hr, hvalue, hr]

/-- A printed counter is a literal. -/
theorem exists_literal_formatLlu (counter : UInt64) :
    ∃ literal : IntegerLiteral, literal.text = formatLlu counter ∧ literal.sign ≠ .minus ∧
      literal.magnitude = counter.toNat :=
  ⟨⟨.absent, formatLlu counter, isDigit_toDigits, Nat.toDigits_ne_nil⟩, rfl, by simp,
    Nat.ofDigitChars_ten_toDigits⟩

end CLib
