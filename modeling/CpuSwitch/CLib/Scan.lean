import CpuSwitch.CLib.Literal

/-! `fgets` and a fragment of `sscanf`: literal bytes, white space and `%llu`. -/
namespace CLib

/-- One call of `fgets` on a buffer of the given size; `none` is the end of the file. -/
def fgets (size : ℕ) (text : Text) : Option Text :=
  (getlines text).head?.map (List.take (size - 1))

/-- One item of a format; white space matches any amount of it. -/
inductive Directive where
  | blank
  | literal (c : Char)
  | llu
  deriving DecidableEq, Repr

def directives : Text → List Directive
  | '%' :: 'l' :: 'l' :: 'u' :: format => .llu :: directives format
  | c :: format => (if isspace c then .blank else .literal c) :: directives format
  | [] => []

/-- The values converted up to the first directive that fails. -/
def scanDirectives : List Directive → Text → List UInt64
  | [], _ => []
  | .blank :: rest, text => scanDirectives rest (skipSpace text)
  | .literal _ :: _, [] => []
  | .literal c :: rest, d :: text => if d = c then scanDirectives rest text else []
  | .llu :: rest, text =>
    match scanLlu text with
    | none => []
    | some (value, text) => value :: scanDirectives rest text

/-- `sscanf`: the values assigned. Their number is the return value, except that an input which
ends in front of the first one gives EOF. -/
def sscanf (text format : Text) : List UInt64 := scanDirectives (directives format) text

/-- A 64-bit number in a row of numbers, with the blanks in front of it. -/
structure Column where
  moreBlanks : ℕ
  literal : IntegerLiteral
  unsigned : literal.sign = .absent
  fits : literal.magnitude < 2 ^ 64

def Column.text (column : Column) : Text :=
  List.replicate (column.moreBlanks + 1) ' ' ++ column.literal.text

def Column.value (column : Column) : ℕ := column.literal.magnitude

/-- What `" %llu"` prints. -/
def Column.printed (value : UInt64) : Column where
  moreBlanks := 0
  literal := ⟨.absent, formatLlu value, isDigit_toDigits, Nat.toDigits_ne_nil⟩
  unsigned := rfl
  fits := lt_of_eq_of_lt Nat.ofDigitChars_ten_toDigits value.toNat_lt

/-- The directives of `" %llu"`, some number of times. -/
def columnDirectives : ℕ → List Directive
  | 0 => []
  | n + 1 => .blank :: .llu :: columnDirectives n

section Line
variable {line rest : Text} {size : ℕ}

/-- A line that fits the buffer is read with at most its newline behind it. -/
theorem fgets_line (hne : line ≠ []) (hline : '\n' ∉ line) (hrest : ∀ c ∈ rest.head?, c = '\n')
    (hsize : line.length < size) :
    ∃ tail, fgets size (line ++ rest) = some (line ++ tail) ∧ ∀ c ∈ tail, c = '\n' := by
  cases rest with
  | nil =>
    refine ⟨[], ?_, by simp⟩
    rw [List.append_nil, fgets, getlines_of_unterminated ⟨hne, hline⟩, List.head?_cons,
      Option.map_some, List.take_of_length_le (by omega)]
  | cons c rest =>
    obtain rfl := hrest c rfl
    refine ⟨['\n'].take (size - 1 - line.length), ?_, fun c hc => ?_⟩
    · rw [fgets, getlines_newline hline, List.head?_cons, Option.map_some, List.take_append,
        List.take_of_length_le (by omega)]
    · exact List.mem_singleton.mp (List.mem_of_mem_take hc)

end Line

section Column
variable {column : Column} {columns : List Column} {rest tail : Text} {more : List Directive}

theorem Column.blank_or_digit (column : Column) :
    ∀ c ∈ column.text, c = ' ' ∨ c.isDigit = true := by
  intro c hc
  rw [Column.text, IntegerLiteral.text, column.unsigned, Sign.text, List.nil_append,
    List.mem_append] at hc
  exact hc.imp List.eq_of_mem_replicate (column.literal.decimal c)

theorem scanLlu_column (h : Stops Char.isDigit rest) :
    scanLlu (skipSpace (column.text ++ rest)) = some (UInt64.ofNat column.value, rest) := by
  have hblanks : ∀ c ∈ List.replicate (column.moreBlanks + 1) ' ', isspace c = true := by
    intro c hc
    rw [List.eq_of_mem_replicate hc]
    rfl
  have hskip : skipSpace (column.text ++ rest) = column.literal.text ++ rest := by
    rw [Column.text, List.append_assoc, skipSpace, List.dropWhile_append_of_pos hblanks]
    exact column.literal.skipSpace_text rest
  have hsign : column.literal.sign ≠ .minus := by simp [column.unsigned]
  rw [hskip, scanLlu, strtoull_literal column.literal hsign h, if_neg (not_le.mpr column.fits)]
  rfl

/-- A row of numbers is read number by number, as far as the format goes. -/
theorem scanDirectives_columns (htail : ∀ c ∈ tail, isspace c = true) (n : ℕ) :
    scanDirectives (columnDirectives n) (columns.flatMap Column.text ++ tail) =
      (columns.take n).map fun column => UInt64.ofNat column.value := by
  induction columns generalizing n with
  | nil =>
    have hskip : skipSpace tail = [] := List.dropWhile_eq_nil_iff.mpr htail
    cases n with
    | zero => rfl
    | succ n =>
      rw [List.flatMap_nil, List.nil_append, columnDirectives, scanDirectives, hskip]
      rfl
  | cons column columns ih =>
    cases n with
    | zero => rfl
    | succ n =>
      have hstops : Stops Char.isDigit (columns.flatMap Column.text ++ tail) := by
        cases columns with
        | nil =>
          intro c hc
          have hspace := htail c (List.mem_of_mem_head? hc)
          by_contra hdigit
          rw [not_isspace_of_isDigit (Bool.not_eq_false _ ▸ hdigit)] at hspace
          cases hspace
        | cons next columns => exact stops_cons.mpr rfl
      rw [List.flatMap_cons, List.append_assoc, columnDirectives, scanDirectives, scanDirectives,
        scanLlu_column hstops]
      dsimp only
      rw [ih n, List.take_succ_cons, List.map_cons]

end Column

end CLib
