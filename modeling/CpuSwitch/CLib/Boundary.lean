import CpuSwitch.CLib.Decimal
import Mathlib.Data.List.DropRight

/-! A conversion does not look past the first byte that no number contains. -/
namespace CLib

/-- The bytes that a number, an infinity or a NaN may be made of. -/
def isNumberByte (c : Char) : Bool :=
  c.isAlphanum || c = '+' || c = '-' || c = '.' || c = '(' || c = ')' || c = '_'

/-- The text is over or goes on with a byte that ends any number. -/
def Ends (tail : Text) : Prop := Stops isNumberByte tail

/-- The conversion of a longer text that goes on where this one ends. -/
def Conversion.append {α : Type} (conversion : Conversion α) (tail : Text) : Conversion α :=
  { conversion with rest := conversion.rest ++ tail }

section Stops
variable {p : Char → Bool} {text tail : Text} {c : Char}

theorem takeWhile_append_of_stops (h : Stops p tail) :
    (text ++ tail).takeWhile p = text.takeWhile p := by
  induction text with
  | nil => simpa using takeWhile_of_stops h
  | cons c text ih =>
    rw [List.cons_append, List.takeWhile_cons, List.takeWhile_cons, ih]

theorem dropWhile_append_of_stops (h : Stops p tail) :
    (text ++ tail).dropWhile p = text.dropWhile p ++ tail := by
  induction text with
  | nil => simpa using dropWhile_of_stops h
  | cons c text ih =>
    rw [List.cons_append, List.dropWhile_cons, List.dropWhile_cons, ih]
    split <;> rfl

theorem Ends.stops (h : Ends tail) (hp : ∀ c, p c = true → isNumberByte c = true) :
    Stops p tail := by
  intro c hc
  have hout := h c hc
  cases hv : p c with
  | false => rfl
  | true => rw [hp c hv] at hout; cases hout

theorem Ends.ne (h : Ends (c :: tail)) {d : Char} (hd : isNumberByte d = true) : c ≠ d := by
  rintro rfl
  rw [stops_cons.mp h] at hd
  cases hd

theorem Ends.stopsDigit (h : Ends tail) : Stops Char.isDigit tail :=
  h.stops fun c hc => by simp [isNumberByte, Char.isAlphanum, hc]

theorem Ends.stopsWord (h : Ends tail) :
    Stops (fun c => c.isAlphanum || decide (c = '_')) tail := by
  apply h.stops
  intro c hc
  rcases Bool.or_eq_true_iff.mp hc with hc | hc
  · simp [isNumberByte, hc]
  · simp_all [isNumberByte]

theorem Ends.stopsMark (h : Ends tail) : Stops isDecimalMark tail ∧ Stops isBinaryMark tail := by
  have hmark : ∀ {a b c : Char}, isNumberByte a = true → isNumberByte b = true →
      (c = a ∨ c = b) → isNumberByte c = true := by
    rintro a b c ha hb (rfl | rfl)
    · exact ha
    · exact hb
  constructor
  · refine h.stops fun c hc => hmark (a := 'e') (b := 'E') (by decide) (by decide) ?_
    simpa [isDecimalMark] using hc
  · refine h.stops fun c hc => hmark (a := 'p') (b := 'P') (by decide) (by decide) ?_
    simpa [isBinaryMark] using hc

theorem isNumberByte_of_isAlpha (h : c.isAlpha = true) : isNumberByte c = true := by
  simp [isNumberByte, Char.isAlphanum, h]

theorem isNumberByte_of_isUpper (h : c.isUpper = true) : isNumberByte c = true :=
  isNumberByte_of_isAlpha (Bool.or_eq_true_iff.mpr (Or.inl h))

theorem isNumberByte_of_isLower (h : c.isLower = true) : isNumberByte c = true :=
  isNumberByte_of_isAlpha (Bool.or_eq_true_iff.mpr (Or.inr h))

theorem isNumberByte_of_isHexDigit (h : isHexDigit c = true) : isNumberByte c = true := by
  unfold isHexDigit at h
  cases hu : c.isUpper with
  | true => exact isNumberByte_of_isUpper hu
  | false =>
    rw [toLower_of_not_isUpper hu] at h
    simp only [Bool.or_eq_true, Bool.and_eq_true, decide_eq_true_eq] at h
    rcases h with hd | ⟨hge, hle⟩
    · simp [isNumberByte, Char.isAlphanum, hd]
    · exact isNumberByte_of_isLower (Bool.and_eq_true_iff.mpr ⟨decide_eq_true hge,
        decide_eq_true (UInt32.le_trans hle (by decide))⟩)

end Stops

section Scan
variable {text tail word : Text} {c : Char}

theorem skipSpace_append (h : Stops isspace tail ∨ skipSpace text ≠ []) :
    skipSpace (text ++ tail) = skipSpace text ++ tail := by
  induction text with
  | nil =>
    rcases h with h | h
    · exact dropWhile_of_stops h
    · exact (h rfl).elim
  | cons c text ih =>
    cases hc : isspace c with
    | false => rw [List.cons_append, skipSpace_cons_of_not hc, skipSpace_cons_of_not hc]; rfl
    | true =>
      have hskip : ∀ {text : Text}, skipSpace (c :: text) = skipSpace text := by
        intro text
        simp [skipSpace, hc]
      rw [List.cons_append, hskip, hskip]
      rw [hskip] at h
      exact ih h

theorem takeSign_append (h : Ends tail) :
    takeSign (text ++ tail) = ((takeSign text).1, (takeSign text).2 ++ tail) := by
  cases text with
  | nil =>
    cases tail with
    | nil => rfl
    | cons c tail =>
      have hminus : c ≠ '-' := h.ne (by decide)
      have hplus : c ≠ '+' := h.ne (by decide)
      simp [takeSign, hminus, hplus]
  | cons c text =>
    by_cases hminus : c = '-'
    · subst hminus
      rfl
    · by_cases hplus : c = '+'
      · subst hplus
        rfl
      · simp [takeSign, hminus, hplus]

/-- A word of lower-case letters cannot run into the tail. -/
theorem stripWord_append (h : Ends tail) (hword : ∀ c ∈ word, c.isLower = true) :
    stripWord word (text ++ tail) = (stripWord word text).map (· ++ tail) := by
  unfold stripWord
  by_cases hlen : word.length ≤ text.length
  · rw [List.take_append_of_le_length hlen, List.drop_append_of_le_length hlen]
    split_ifs <;> rfl
  · have hshort : (text.take word.length).map Char.toLower ≠ word := by
      intro heq
      have := congrArg List.length heq
      simp at this
      omega
    have hlong : ((text ++ tail).take word.length).map Char.toLower ≠ word := by
      cases tail with
      | nil => rwa [List.append_nil]
      | cons c tail =>
        -- The byte after the text would have to be a letter of the word.
        intro heq
        have hc : c.toLower ∈ word := by
          rw [← heq]
          refine List.mem_map.mpr ⟨c, ?_, rfl⟩
          rw [List.take_append, List.mem_append]
          right
          obtain ⟨n, hn⟩ : ∃ n, word.length - text.length = n + 1 :=
            ⟨word.length - text.length - 1, by omega⟩
          rw [hn, List.take_succ_cons]
          exact List.mem_cons_self
        have hout : isNumberByte c = false := stops_cons.mp h
        have hupper : c.isUpper = false := by
          cases hu : c.isUpper with
          | false => rfl
          | true =>
            rw [isNumberByte_of_isUpper hu] at hout
            cases hout
        have hlower := hword _ hc
        rw [toLower_of_not_isUpper hupper] at hlower
        rw [isNumberByte_of_isLower hlower] at hout
        cases hout
    rw [if_neg hshort, if_neg hlong]
    rfl

theorem skipNanSuffix_append (h : Ends tail) :
    skipNanSuffix (text ++ tail) = skipNanSuffix text ++ tail := by
  cases text with
  | nil =>
    cases tail with
    | nil => rfl
    | cons c tail =>
      have hopen : c ≠ '(' := h.ne (by decide)
      simp [skipNanSuffix, hopen]
  | cons c text =>
    by_cases hopen : c = '('
    · subst hopen
      simp only [skipNanSuffix, List.cons_append]
      rw [dropWhile_append_of_stops h.stopsWord]
      cases hrest : text.dropWhile fun c => c.isAlphanum || decide (c = '_') with
      | nil =>
        cases tail with
        | nil => rfl
        | cons d tail =>
          have hclose : d ≠ ')' := h.ne (by decide)
          simp [hclose]
      | cons d rest =>
        by_cases hclose : d = ')'
        · subst hclose
          rfl
        · simp [hclose]
    · simp [skipNanSuffix, hopen]

theorem scanMantissa_point {isDigit : Char → Bool} {more : Text}
    (h : text.dropWhile isDigit = '.' :: more) :
    scanMantissa isDigit text =
      if text.takeWhile isDigit ++ more.takeWhile isDigit = [] then none
      else some (text.takeWhile isDigit ++ more.takeWhile isDigit,
        (more.takeWhile isDigit).length, more.dropWhile isDigit) := by
  simp only [scanMantissa, h]

theorem scanMantissa_plain {isDigit : Char → Bool}
    (h : Stops (fun c => decide (c = '.')) (text.dropWhile isDigit)) :
    scanMantissa isDigit text =
      if text.takeWhile isDigit = [] then none
      else some (text.takeWhile isDigit, 0, text.dropWhile isDigit) := by
  unfold scanMantissa
  cases hrest : text.dropWhile isDigit with
  | nil => simp
  | cons c rest =>
    rw [hrest] at h
    have hpoint : c ≠ '.' := of_decide_eq_false (stops_cons.mp h)
    simp [hpoint]

theorem scanMantissa_append {isDigit : Char → Bool} (h : Ends tail) (hd : Stops isDigit tail) :
    scanMantissa isDigit (text ++ tail) =
      (scanMantissa isDigit text).map fun (digits, decimals, rest) =>
        (digits, decimals, rest ++ tail) := by
  have htake : (text ++ tail).takeWhile isDigit = text.takeWhile isDigit :=
    takeWhile_append_of_stops hd
  have hdrop : (text ++ tail).dropWhile isDigit = text.dropWhile isDigit ++ tail :=
    dropWhile_append_of_stops hd
  by_cases hpoint : ∃ more, text.dropWhile isDigit = '.' :: more
  · obtain ⟨more, hmore⟩ := hpoint
    rw [hmore, List.cons_append] at hdrop
    rw [scanMantissa_point hdrop, scanMantissa_point hmore, htake,
      takeWhile_append_of_stops hd, dropWhile_append_of_stops hd]
    split_ifs <;> rfl
  · have hplain : Stops (fun c => decide (c = '.')) (text.dropWhile isDigit) := by
      cases hrest : text.dropWhile isDigit with
      | nil => exact stops_nil
      | cons c rest =>
        refine stops_cons.mpr (decide_eq_false ?_)
        rintro rfl
        exact hpoint ⟨rest, hrest⟩
    have hplain' : Stops (fun c => decide (c = '.')) ((text ++ tail).dropWhile isDigit) := by
      rw [hdrop]
      cases hrest : text.dropWhile isDigit with
      | nil => exact h.stops fun c hc => by simp_all [isNumberByte]
      | cons c rest =>
        rw [hrest] at hplain
        exact stops_cons.mpr (stops_cons.mp hplain)
    rw [scanMantissa_plain hplain, scanMantissa_plain hplain', htake, hdrop]
    split_ifs <;> rfl

theorem scanExponent_append {mark : Char → Bool} (h : Ends tail) (hm : Stops mark tail) :
    scanExponent mark (text ++ tail) =
      ((scanExponent mark text).1, (scanExponent mark text).2 ++ tail) := by
  cases text with
  | nil => simpa [scanExponent] using scanExponent_of_stops hm
  | cons c text =>
    cases hc : mark c with
    | false => simp [scanExponent, hc]
    | true =>
      simp only [scanExponent, List.cons_append, hc, if_true, takeSign_append h,
        takeWhile_append_of_stops h.stopsDigit, dropWhile_append_of_stops h.stopsDigit]
      cases (takeSign text).2.takeWhile Char.isDigit <;> rfl

theorem scanDecimal_append (h : Ends tail) :
    scanDecimal (text ++ tail) =
      (scanDecimal text).map fun (value, rest) => (value, rest ++ tail) := by
  rw [scanDecimal, scanDecimal, scanMantissa_append h h.stopsDigit, Option.map_map, Option.map_map]
  congr 1
  funext parsed
  obtain ⟨digits, decimals, rest⟩ := parsed
  simp only [Function.comp_apply, scanExponent_append h h.stopsMark.1]

theorem scanHex_append (h : Ends tail) :
    scanHex (text ++ tail) = (scanHex text).map fun (value, rest) => (value, rest ++ tail) := by
  have hhex : Stops isHexDigit tail := h.stops fun _ => isNumberByte_of_isHexDigit
  rw [scanHex, scanHex, scanMantissa_append h hhex, Option.map_map, Option.map_map]
  congr 1
  funext parsed
  obtain ⟨digits, decimals, rest⟩ := parsed
  simp only [Function.comp_apply, scanExponent_append h h.stopsMark.2]

theorem scanFinite_of_ne_zero (h : Stops (fun c => decide (c = '0')) text) :
    scanFinite text = scanDecimal text := by
  unfold scanFinite
  split
  · rename_i x hex
    exact absurd (stops_cons.mp h) (by decide)
  · rfl

theorem scanFinite_hex {x : Char} (hx : x = 'x' ∨ x = 'X') :
    scanFinite ('0' :: x :: text) =
      (scanHex text).orElse fun _ => scanDecimal ('0' :: x :: text) := by
  rcases hx with rfl | rfl <;> rfl

theorem scanFinite_append (h : Ends tail) :
    scanFinite (text ++ tail) =
      (scanFinite text).map fun (value, rest) => (value, rest ++ tail) := by
  have hzero : Stops (fun c => decide (c = '0')) tail :=
    h.stops fun c hc => by simp_all [isNumberByte]
  match text with
  | [] =>
    rw [scanFinite_of_ne_zero stops_nil, List.nil_append, scanFinite_of_ne_zero hzero,
      ← scanDecimal_append h, List.nil_append]
  | [c] =>
    have hx : ∀ x ∈ ([c] ++ tail)[1]?, x ≠ 'x' ∧ x ≠ 'X' := by
      intro x hx
      have hout : isNumberByte x = false := h x (by simpa [List.head?_eq_getElem?] using hx)
      constructor <;> rintro rfl <;> exact absurd hout (by decide)
    rw [scanFinite_of_ne_x hx, scanFinite_of_ne_x (by simp), scanDecimal_append h]
  | c :: d :: text =>
    by_cases hc : c = '0'
    · subst hc
      by_cases hd : d = 'x' ∨ d = 'X'
      · rw [List.cons_append, List.cons_append, scanFinite_hex hd, scanFinite_hex hd,
          scanHex_append h, ← List.cons_append, ← List.cons_append, scanDecimal_append h]
        cases scanHex text <;> rfl
      · rw [not_or] at hd
        rw [scanFinite_of_ne_x (by simpa using hd), scanFinite_of_ne_x (by simpa using hd),
          scanDecimal_append h]
    · rw [scanFinite_of_ne_zero (stops_cons.mpr (decide_eq_false hc)), List.cons_append,
        scanFinite_of_ne_zero (stops_cons.mpr (decide_eq_false hc)), ← List.cons_append,
        scanDecimal_append h]

theorem strtodUnsigned_append (h : Ends tail) :
    strtodUnsigned (text ++ tail) = (strtodUnsigned text).map (Conversion.append · tail) := by
  unfold strtodUnsigned
  rw [stripWord_append h (List.all_eq_true.mp (by decide)),
    stripWord_append h (List.all_eq_true.mp (by decide)),
    stripWord_append h (List.all_eq_true.mp (by decide)), scanFinite_append h]
  cases stripWord "infinity".toList text with
  | some rest => rfl
  | none =>
    cases stripWord "inf".toList text with
    | some rest => rfl
    | none =>
      cases stripWord "nan".toList text with
      | some rest => simp [skipNanSuffix_append h, Conversion.append]
      | none => cases scanFinite text <;> rfl

/-- `strtod` reads the same number whatever stands behind the end of the text. -/
theorem strtod_append (h : Ends tail) (hs : Stops isspace tail ∨ skipSpace text ≠ []) :
    strtod (text ++ tail) = (strtod text).map (Conversion.append · tail) := by
  unfold strtod
  rw [skipSpace_append hs, takeSign_append h]
  simp only [strtodUnsigned_append h]
  cases strtodUnsigned (takeSign (skipSpace text)).2 with
  | none => rfl
  | some conversion => cases (takeSign (skipSpace text)).1 <;> rfl

theorem scanInteger_append (h : Ends tail) (hs : Stops isspace tail ∨ skipSpace text ≠ []) :
    scanInteger (text ++ tail) =
      (scanInteger text).map fun (negative, magnitude, rest) =>
        (negative, magnitude, rest ++ tail) := by
  unfold scanInteger
  rw [skipSpace_append hs, takeSign_append h]
  simp only [takeWhile_append_of_stops h.stopsDigit, dropWhile_append_of_stops h.stopsDigit]
  cases (takeSign (skipSpace text)).2.takeWhile Char.isDigit <;> rfl

theorem strtoull_append (h : Ends tail) (hs : Stops isspace tail ∨ skipSpace text ≠ []) :
    strtoull (text ++ tail) = (strtoull text).map (Conversion.append · tail) := by
  rw [strtoull, strtoull, scanInteger_append h hs, Option.map_map, Option.map_map]
  congr 1
  funext parsed
  obtain ⟨negative, magnitude, rest⟩ := parsed
  simp only [Function.comp_apply]
  split_ifs <;> rfl

theorem skipSpace_skipSpace (text : Text) : skipSpace (skipSpace text) = skipSpace text :=
  List.dropWhile_idempotent isspace text

theorem strtod_skipSpace (text : Text) : strtod (skipSpace text) = strtod text := by
  unfold strtod
  rw [skipSpace_skipSpace]

theorem strtod_blanks {front : Text} (h : ∀ c ∈ front, isspace c = true) :
    strtod (front ++ text) = strtod text := by
  rw [← strtod_skipSpace, skipSpace, List.dropWhile_append_of_pos h]
  exact strtod_skipSpace text

end Scan

end CLib
