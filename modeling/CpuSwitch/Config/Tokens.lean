import CpuSwitch.CLib.Literal
import CpuSwitch.Config.Fields

/-! Numbers of the configuration file, read as prefixes of their tokens. -/
namespace CpuSwitch.Config
open CLib

def endsToken (c : Char) : Bool := isspace c || c = ',' || c = '\x7d'

/-- From the first byte that is no white space to the next that ends a token. -/
def token (position : Text) : Text := (skipSpace position).takeWhile fun c => !endsToken c

/-- What a conversion left unread does not belong to its token. -/
def AtTokenEnd (rest : Text) : Prop := Stops (fun c => !endsToken c) rest

/-- Every located value is a number as a whole, and the field holds this number. -/
structure WholeTokens (contents : Text) : Prop where
  threshold : ∀ t position, findJsonValue (cString contents) (Threshold.key t) = some position →
    ∃ literal : DecimalLiteral, token position = literal.text ∧
      (cpuConfigLoad (.readable contents)).2.threshold t = .finite literal.value
  counter : ∀ c position, findJsonValue (cString contents) (Counter.key c) = some position →
    ∃ literal : IntegerLiteral, literal.sign ≠ .minus ∧ token position = literal.text ∧
      (((cpuConfigLoad (.readable contents)).2.counter c).toNat : ℤ) = literal.value

/-- Each conversion runs to the end of a token, which for a threshold has decimal bytes only. -/
structure RunsToTokenEnds (contents : Text) : Prop where
  threshold : ∀ t position, findJsonValue (cString contents) (Threshold.key t) = some position →
    (∀ c ∈ token position, isDecimalByte c = true) ∧
      ∀ conversion ∈ strtod position, AtTokenEnd conversion.rest
  counter : ∀ c position, findJsonValue (cString contents) (Counter.key c) = some position →
    ∀ conversion ∈ strtoull (skipSpace position), AtTokenEnd conversion.rest

section Token
variable {position body rest : Text} {c : Char}

theorem not_endsToken_of_isNumberByte (h : isNumberByte c = true) : endsToken c = false := by
  simp only [isNumberByte, Bool.or_eq_true, decide_eq_true_eq] at h
  rcases h with (((((h | rfl) | rfl) | rfl) | rfl) | rfl) | rfl
  · have hlow : 48 ≤ c.toNat := by
      rcases Bool.or_eq_true_iff.mp h with h | h
      · rcases Bool.or_eq_true_iff.mp h with h | h
        · have hupper : 65 ≤ c.toNat := UInt32.le_iff_toNat_le.mp (of_decide_eq_true h).1
          omega
        · have hlower : 97 ≤ c.toNat :=
            UInt32.le_iff_toNat_le.mp (of_decide_eq_true (Bool.and_eq_true_iff.mp h).1)
          omega
      · exact (Char.isDigit_iff_toNat.mp h).1
    have hspace : isspace c = false := by
      have hne : c ≠ ' ' := by
        rintro rfl
        exact absurd h (by decide)
      simp [isspace, hne]
      omega
    have hcomma : c ≠ ',' := by
      rintro rfl
      exact absurd h (by decide)
    have hbrace : c ≠ '\x7d' := by
      rintro rfl
      exact absurd h (by decide)
    simp [endsToken, hspace, hcomma, hbrace]
  all_goals decide

theorem AtTokenEnd.ends (h : AtTokenEnd rest) : Ends rest := by
  intro c hc
  have hend := h c hc
  cases hn : isNumberByte c with
  | false => rfl
  | true => simp [not_endsToken_of_isNumberByte hn] at hend

theorem isNumberByte_of_isDecimalByte (h : isDecimalByte c = true) : isNumberByte c = true := by
  simp only [isDecimalByte, Bool.or_eq_true, decide_eq_true_eq] at h
  rcases h with ((((h | rfl) | rfl) | rfl) | rfl) | rfl
  · simp [isNumberByte, Char.isAlphanum, h]
  all_goals decide

theorem not_endsToken_of_isDecimalByte (h : isDecimalByte c = true) : endsToken c = false :=
  not_endsToken_of_isNumberByte (isNumberByte_of_isDecimalByte h)

theorem token_append (position : Text) : ∃ rest, AtTokenEnd rest ∧
    skipSpace position = token position ++ rest :=
  ⟨_, stops_dropWhile _ _, List.takeWhile_append_dropWhile.symm⟩

theorem token_eq (hbody : ∀ c ∈ body, endsToken c = false) (h : AtTokenEnd rest)
    (hp : skipSpace position = body ++ rest) : token position = body := by
  have hall : ∀ c ∈ body, (!endsToken c) = true := by
    intro c hc
    rw [hbody c hc]
    rfl
  rw [token, hp, takeWhile_block hall h]

/-- A conversion reads the same from the token as from the position. -/
theorem strtod_token (h : AtTokenEnd rest) (hp : skipSpace position = token position ++ rest) :
    strtod position = (strtod (token position)).map (Conversion.append · rest) := by
  rw [← strtod_skipSpace position, hp]
  apply strtod_append h.ends
  have hstop : Stops isspace (skipSpace position) := stops_dropWhile isspace position
  cases ht : token position with
  | nil =>
    left
    rwa [hp, ht] at hstop
  | cons c body =>
    right
    have hc : isspace c = false := by
      rw [hp, ht] at hstop
      exact stops_cons.mp hstop
    simp [skipSpace_cons_of_not hc]

theorem threshold_token_iff {conversion : Conversion Double}
    (h : strtod position = some conversion) (hr : conversion.rangeError = false) :
    (∃ literal : DecimalLiteral, token position = literal.text ∧
        conversion.value = .finite literal.value) ↔
      (∀ c ∈ token position, isDecimalByte c = true) ∧ AtTokenEnd conversion.rest := by
  obtain ⟨rest, hend, hp⟩ := token_append position
  have hread := strtod_token hend hp
  rw [h] at hread
  constructor
  · rintro ⟨literal, htoken, -⟩
    refine ⟨by rw [htoken]; exact literal.isDecimalByte_text, ?_⟩
    rw [htoken, strtod_literal literal, Option.map_some, Option.some_inj] at hread
    rw [hread]
    exact hend
  · rintro ⟨hbytes, hrest⟩
    obtain ⟨inner, hinner, hconv⟩ := Option.map_eq_some_iff.mp hread.symm
    obtain ⟨literal, hliteral⟩ := literal_of_strtod hbytes hinner
    -- What is left of the token can neither end a token nor be empty, unless nothing is left.
    have hnil : inner.rest = [] := by
      cases hi : inner.rest with
      | nil => rfl
      | cons c more =>
        have hc : c ∈ token position := by
          rw [hliteral, hi]
          simp
        have hout := not_endsToken_of_isDecimalByte (hbytes c hc)
        rw [← hconv, Conversion.append, hi] at hrest
        have hin := stops_cons.mp hrest
        rw [hout] at hin
        cases hin
    rw [hnil, List.append_nil] at hliteral
    refine ⟨literal, hliteral, ?_⟩
    rw [hliteral, strtod_literal literal, Option.some_inj] at hinner
    rw [← hconv, ← hinner] at hr ⊢
    exact DecimalLiteral.converted_eq hr

theorem counter_token_iff {conversion : Conversion UInt64}
    (h : strtoull (skipSpace position) = some conversion)
    (hm : (skipSpace position).head? ≠ some '-') (hr : conversion.rangeError = false) :
    (∃ literal : IntegerLiteral, literal.sign ≠ .minus ∧ token position = literal.text ∧
        (conversion.value.toNat : ℤ) = literal.value) ↔ AtTokenEnd conversion.rest := by
  constructor
  · rintro ⟨literal, hsign, htoken, -⟩
    obtain ⟨rest, hend, hp⟩ := token_append position
    rw [hp, htoken, strtoull_literal literal hsign hend.ends.stopsDigit, Option.some_inj] at h
    rw [← h]
    split_ifs <;> exact hend
  · intro hend
    obtain ⟨literal, hp, hvalue⟩ := literal_of_strtoull h hr
    rw [skipSpace_skipSpace] at hp
    have hsign : literal.sign ≠ .minus := by
      intro hsign
      rw [hp, IntegerLiteral.text, hsign] at hm
      exact hm rfl
    have htoken : token position = literal.text :=
      token_eq (fun c hc => not_endsToken_of_isDecimalByte (literal.isDecimalByte_text c hc))
        hend hp
    exact ⟨literal, hsign, htoken, hvalue hsign⟩

end Token

/-- A loaded number is its whole token just when the conversion runs to the token's end. -/
theorem whole_tokens_iff (contents : Text)
    (h : (cpuConfigLoad (.readable contents)).1 = .ok ()) :
    WholeTokens contents ↔ RunsToTokenEnds contents := by
  obtain ⟨hsize, hthreshold, hcounter⟩ := load_ok_iff.mp h
  have ht : ∀ t position, findJsonValue (cString contents) (Threshold.key t) = some position →
      ((∃ literal : DecimalLiteral, token position = literal.text ∧
        (cpuConfigLoad (.readable contents)).2.threshold t = .finite literal.value) ↔
      (∀ c ∈ token position, isDecimalByte c = true) ∧
        ∀ conversion ∈ strtod position, AtTokenEnd conversion.rest) := by
    intro t position hfound
    obtain ⟨conversion, hread, hr, hfield⟩ := parseDoubleField_located hfound (hthreshold t)
    rw [threshold_load hsize, hfield, Field.getD, threshold_token_iff hread hr, hread]
    simp
  have hc : ∀ c position, findJsonValue (cString contents) (Counter.key c) = some position →
      ((∃ literal : IntegerLiteral, literal.sign ≠ .minus ∧ token position = literal.text ∧
        (((cpuConfigLoad (.readable contents)).2.counter c).toNat : ℤ) = literal.value) ↔
      ∀ conversion ∈ strtoull (skipSpace position), AtTokenEnd conversion.rest) := by
    intro c position hfound
    obtain ⟨conversion, hread, hm, hr, hfield⟩ := parseU64Field_located hfound (hcounter c)
    rw [counter_load hsize, hfield, Field.getD, counter_token_iff hread hm hr, hread]
    simp
  constructor
  · intro hwhole
    exact ⟨fun t position hfound => (ht t position hfound).mp (hwhole.threshold t position hfound),
      fun c position hfound => (hc c position hfound).mp (hwhole.counter c position hfound)⟩
  · intro hruns
    exact ⟨fun t position hfound => (ht t position hfound).mpr (hruns.threshold t position hfound),
      fun c position hfound => (hc c position hfound).mpr (hruns.counter c position hfound)⟩

theorem whole_tokens_written :
    WholeTokens "\x7b\"low_threshold_pct\": 6.5, \"interval_ms\":700\x7d".toList := by
  refine (whole_tokens_iff _ (by decide +kernel)).mpr ⟨?_, ?_⟩
  · rintro (_ | _) position hfound
    · have hp : " 6.5, \"interval_ms\":700\x7d".toList = position :=
        Option.some_inj.mp ((by decide +kernel : findJsonValue _ _ = some _).symm.trans hfound)
      have hread : strtod position =
          some ⟨.finite 6.5, ", \"interval_ms\":700\x7d".toList, false⟩ := by
        rw [← hp]
        decide +kernel
      rw [hread, ← hp]
      refine ⟨List.all_eq_true.mp (by decide +kernel), ?_⟩
      rintro conversion ⟨⟩
      exact stops_cons.mpr rfl
    · cases hfound.symm.trans (by decide +kernel : findJsonValue _ _ = none)
  · rintro (_ | _ | _) position hfound
    · cases hfound.symm.trans (by decide +kernel : findJsonValue _ _ = none)
    · cases hfound.symm.trans (by decide +kernel : findJsonValue _ _ = none)
    · have hp : "700\x7d".toList = position :=
        Option.some_inj.mp ((by decide +kernel : findJsonValue _ _ = some _).symm.trans hfound)
      have hread : strtoull (skipSpace position) = some ⟨700, "\x7d".toList, false⟩ := by
        rw [← hp]
        decide +kernel
      rw [hread]
      rintro conversion ⟨⟩
      exact stops_cons.mpr rfl

/-- Letters behind a number are dropped without a message. -/
theorem whole_tokens_counterexample :
    (cpuConfigLoad (.readable "\x7b\"interval_ms\": 500abc\x7d".toList)).1 = .ok () ∧
      ¬ WholeTokens "\x7b\"interval_ms\": 500abc\x7d".toList := by
  refine ⟨by decide +kernel, fun hwhole => ?_⟩
  have hfound : findJsonValue (cString "\x7b\"interval_ms\": 500abc\x7d".toList)
      (Counter.key .interval) = some " 500abc\x7d".toList := by decide +kernel
  have hread : strtoull (skipSpace " 500abc\x7d".toList) =
      some ⟨500, "abc\x7d".toList, false⟩ := by decide +kernel
  have hvalue : (cpuConfigLoad (.readable "\x7b\"interval_ms\": 500abc\x7d".toList)).2.counter
      .interval = 500 := by decide +kernel
  have hnumber := hwhole.counter .interval _ hfound
  rw [hvalue] at hnumber
  have hend := (counter_token_iff hread (by decide) rfl).mp hnumber
  exact absurd (stops_cons.mp hend) (by decide)

end CpuSwitch.Config
