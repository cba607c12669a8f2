import Mathlib.Data.List.TakeWhile

/-! Byte strings as the C library sees them: one `Char` for each byte. -/
namespace CLib

/-- A byte string; a character stands for one byte. -/
abbrev Text := List Char

/-- `isspace` in the "C" locale: the blank and the bytes from `\t` to `\r`. -/
def isspace (c : Char) : Bool := c = ' ' || (9 ≤ c.toNat && c.toNat ≤ 13)

/-- What a C string function sees of a buffer: everything before the first NUL. -/
def cString (buffer : Text) : Text := buffer.takeWhile (· ≠ '\x00')

def skipSpace (text : Text) : Text := text.dropWhile isspace

/-- The last word of a text, separated by white space. -/
def lastToken (text : Text) : Text :=
  ((text.reverse.dropWhile isspace).takeWhile fun c => !isspace c).reverse

/-- `strstr`: the suffix at the first occurrence of the needle. -/
def strstr : Text → Text → Option Text
  | text, needle =>
    if needle.isPrefixOf text then some text
    else match text with
      | [] => none
      | _ :: rest => strstr rest needle

/-- `strchr`: the suffix at the first occurrence of the character. -/
def strchr (text : Text) (c : Char) : Option Text :=
  match text.dropWhile (· ≠ c) with
  | [] => none
  | rest => some rest

/-- The buffers of successive `getline` calls; each but the last ends in its newline. -/
def getlines : Text → List Text
  | [] => []
  | c :: text =>
    if c = '\n' then ['\n'] :: getlines text
    else match getlines text with
      | [] => [[c]]
      | line :: lines => (c :: line) :: lines

/-- A line as `getline` returns it when the newline was there. -/
def Terminated (line : Text) : Prop := ∃ body, '\n' ∉ body ∧ line = body ++ ['\n']

/-- A line as `getline` returns it at the end of a file without a final newline. -/
def Unterminated (line : Text) : Prop := line ≠ [] ∧ '\n' ∉ line

/-- The line without its newline. -/
def chomp (line : Text) : Text := line.takeWhile (· ≠ '\n')

/-- The sequence of lines of a text, newlines removed. -/
def linesOf (text : Text) : List Text := (getlines text).map chomp

/-- Every line of the text ends in a newline. -/
def EndsInNewline (text : Text) : Prop := ∀ line ∈ getlines text, Terminated line

/-- The shape of what `getline` returns on some file: only the last line may lack its newline. -/
def IsLines : List Text → Prop
  | [] => True
  | [line] => Terminated line ∨ Unterminated line
  | line :: lines => Terminated line ∧ IsLines lines

section Strings
variable {text buffer : Text} {c : Char}

theorem cString_of_noNul (h : '\x00' ∉ buffer) : cString buffer = buffer := by
  apply List.takeWhile_eq_self_iff.mpr
  intro c hc
  have : c ≠ '\x00' := fun he => h (he ▸ hc)
  simpa using this

theorem isspace_newline : isspace '\n' = true := by decide

theorem not_isspace_of_isDigit (h : c.isDigit = true) : isspace c = false := by
  have hd : 48 ≤ c.toNat ∧ c.toNat ≤ 57 := Char.isDigit_iff_toNat.mp h
  have hne : c ≠ ' ' := by
    rintro rfl
    exact absurd h (by decide)
  simp only [isspace, hne, decide_false, Bool.false_or, Bool.and_eq_false_imp,
    decide_eq_true_eq, decide_eq_false_iff_not]
  omega

theorem skipSpace_cons_of_not (h : isspace c = false) : skipSpace (c :: text) = c :: text := by
  simp [skipSpace, h]

theorem lastToken_append {front token : Text} {d : Char} (hd : isspace d = true)
    (hc : isspace c = true) (ht : ∀ c ∈ token, isspace c = false) (hne : token ≠ []) :
    lastToken (front ++ d :: (token ++ [c])) = token := by
  have hrev : (front ++ d :: (token ++ [c])).reverse =
      c :: (token.reverse ++ d :: front.reverse) := by simp
  have hdrop : (token.reverse ++ d :: front.reverse).dropWhile isspace =
      token.reverse ++ d :: front.reverse := by
    cases hr : token.reverse with
    | nil => exact (hne (List.reverse_eq_nil_iff.mp hr)).elim
    | cons e rest =>
      have he : e ∈ token := List.mem_reverse.mp (hr ▸ List.mem_cons_self)
      rw [List.cons_append, List.dropWhile_cons, ht e he]
      simp
  have hall : ∀ e ∈ token.reverse, (!isspace e) = true := by
    intro e he
    simp [ht e (List.mem_reverse.mp he)]
  rw [lastToken, hrev, List.dropWhile_cons, hc, if_pos rfl, hdrop,
    List.takeWhile_append_of_pos hall]
  simp [hd]

theorem exists_not_space_iff : skipSpace text ≠ [] ↔ ∃ c ∈ text, isspace c = false := by
  simp [skipSpace]

/-- Once there is a word behind white space, what stands before does not matter. -/
theorem lastToken_of_word {front more : Text} {d : Char} (hd : isspace d = true)
    (h : skipSpace more ≠ []) : lastToken (front ++ d :: more) = lastToken more := by
  have hne : ¬ (more.reverse.dropWhile isspace).isEmpty = true := by
    simpa using exists_not_space_iff.mp h
  have htake : ((more.reverse ++ d :: front.reverse).dropWhile isspace).takeWhile
      (fun c => !isspace c) = (more.reverse.dropWhile isspace).takeWhile fun c => !isspace c := by
    rw [List.dropWhile_append, if_neg hne, List.takeWhile_append]
    split_ifs with hlen
    · simp [hd, (List.takeWhile_prefix _).eq_of_length hlen]
    · rfl
  rw [lastToken, lastToken, List.reverse_append, List.reverse_cons, List.append_assoc]
  exact congrArg List.reverse htake

end Strings

section Lines
variable {text first second line : Text} {lines rest : List Text}

theorem isLines_cons (h : Terminated line) (hs : IsLines lines) : IsLines (line :: lines) := by
  cases lines with
  | nil => exact Or.inl h
  | cons next lines => exact ⟨h, hs⟩

theorem chomp_append (h : '\n' ∉ text) : chomp (text ++ ['\n']) = text := by
  have hall : ∀ c ∈ text, decide (c ≠ '\n') = true := by
    intro c hc
    have hne : c ≠ '\n' := fun he => h (he ▸ hc)
    simpa using hne
  rw [chomp, List.takeWhile_append_of_pos hall]
  simp

theorem newline_notMem_chomp : '\n' ∉ chomp line := by
  intro h
  exact absurd (List.mem_takeWhile_imp h) (by decide)

theorem terminated_iff : line = chomp line ++ ['\n'] ↔ Terminated line := by
  constructor
  · exact fun h => ⟨chomp line, newline_notMem_chomp, h⟩
  · rintro ⟨body, hb, rfl⟩
    rw [chomp_append hb]

instance : DecidablePred Terminated := fun _ => decidable_of_iff _ terminated_iff

instance (text : Text) : Decidable (EndsInNewline text) :=
  inferInstanceAs (Decidable (∀ line ∈ getlines text, Terminated line))

theorem isLines_of_terminated (h : ∀ line ∈ lines, Terminated line) : IsLines lines := by
  induction lines with
  | nil => trivial
  | cons line lines ih =>
    exact isLines_cons (h line List.mem_cons_self)
      (ih fun other ho => h other (List.mem_cons_of_mem _ ho))

theorem isLines_concat : IsLines (lines ++ [line]) ↔
    (∀ other ∈ lines, Terminated other) ∧ (Terminated line ∨ Unterminated line) := by
  induction lines with
  | nil => simp [IsLines]
  | cons other lines ih =>
    rw [List.forall_mem_cons, and_assoc, ← ih]
    cases lines <;> rfl

theorem flatten_getlines (text : Text) : (getlines text).flatten = text := by
  induction text with
  | nil => rfl
  | cons c text ih =>
    by_cases hc : c = '\n'
    · simp [getlines, hc, ih]
    · cases hl : getlines text with
      | nil => simp_all [getlines]
      | cons line lines => simp_all [getlines]

theorem notMem_of_mem_getlines {c : Char} (h : c ∉ text) (hline : line ∈ getlines text) :
    c ∉ line := by
  intro hc
  exact h (flatten_getlines text ▸ List.mem_flatten.mpr ⟨line, hline, hc⟩)

theorem getlines_newline (h : '\n' ∉ first) :
    getlines (first ++ '\n' :: second) = (first ++ ['\n']) :: getlines second := by
  induction first with
  | nil => simp [getlines]
  | cons c first ih =>
    have hc : c ≠ '\n' := fun he => h (he ▸ List.mem_cons_self)
    simp [getlines, hc, ih fun hm => h (List.mem_cons_of_mem _ hm)]

theorem getlines_of_unterminated (h : Unterminated line) : getlines line = [line] := by
  obtain ⟨hne, hline⟩ := h
  induction line with
  | nil => exact (hne rfl).elim
  | cons c line ih =>
    have hc : c ≠ '\n' := fun he => hline (he ▸ List.mem_cons_self)
    cases line with
    | nil => simp [getlines, hc]
    | cons d line =>
      have hrest := ih (by simp) fun hm => hline (List.mem_cons_of_mem _ hm)
      rw [getlines, if_neg hc, hrest]

/-- Reading back the concatenation of lines gives the lines. -/
theorem getlines_flatten (h : IsLines lines) : getlines lines.flatten = lines := by
  induction lines with
  | nil => rfl
  | cons line lines ih =>
    cases lines with
    | nil =>
      rw [List.flatten_singleton]
      rcases h with ⟨body, hb, rfl⟩ | hline
      · exact getlines_newline hb
      · exact getlines_of_unterminated hline
    | cons next lines =>
      obtain ⟨⟨body, hb, rfl⟩, hs⟩ := h
      rw [List.flatten_cons, List.append_assoc, List.singleton_append, getlines_newline hb, ih hs]

/-- `getline` never returns another shape of lines. -/
theorem isLines_getlines (text : Text) : IsLines (getlines text) := by
  induction text with
  | nil => trivial
  | cons c text ih =>
    by_cases hc : c = '\n'
    · rw [getlines, if_pos hc]
      exact isLines_cons ⟨[], by simp, rfl⟩ ih
    · have hext : ∀ line, Terminated line → Terminated (c :: line) := by
        rintro line ⟨body, hb, rfl⟩
        exact ⟨c :: body, by simp [hb, Ne.symm hc], rfl⟩
      cases hl : getlines text with
      | nil => simp [getlines, hc, hl, IsLines, Unterminated, Ne.symm hc]
      | cons line lines =>
        rw [hl] at ih
        rw [getlines, if_neg hc, hl]
        cases lines with
        | nil =>
          rcases ih with ht | hu
          · exact Or.inl (hext line ht)
          · exact Or.inr ⟨by simp, by simp [hu.2, Ne.symm hc]⟩
        | cons next lines => exact ⟨hext line ih.1, ih.2⟩

end Lines

end CLib
