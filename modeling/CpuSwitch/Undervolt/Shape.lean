import CpuSwitch.CLib.Literal
import CpuSwitch.Undervolt.RoundTrip

/-! The shape of the lines that offsets are read from. -/
namespace CpuSwitch.Undervolt
open CLib

/-- `undervolt`, a whole token that spells the index, and a last token that spells the offset. -/
structure CompleteLine (line : Text) (index : Fin 5) (offset : Double) where
  before : Text
  between : Text
  literal : IntegerLiteral
  blank : Char
  tail : Text
  line_eq : line = before ++ "undervolt".toList ++ between ++ literal.text ++ blank :: tail
  before_space : ∀ c ∈ before, isspace c = true
  between_space : ∀ c ∈ between, isspace c = true
  between_ne : between ≠ []
  blank_space : isspace blank = true
  spells_index : literal.value = index
  further : ∃ c ∈ tail, isspace c = false
  spells_offset : strtod (lastToken tail) = some ⟨offset, [], false⟩
  finite : offset.isfinite = true

/-- Every offset is the default or that of the last line of its domain, which is complete. -/
def ReadFromCompleteLines (contents : Text) : Prop :=
  ∀ index,
    (domainLines (bufferedLines contents) index = [] ∧
      (undervoltLoadConfig (.readable contents)).2 index = .finite 0) ∨
    ∃ line, (domainLines (bufferedLines contents) index).getLast? = some line ∧
      Nonempty (CompleteLine line index ((undervoltLoadConfig (.readable contents)).2 index))

/-- What the conversion of the index leaves of a line. -/
def afterIndex (line : Text) : Text :=
  ((strtol (skipSpace ((skipSpace line).drop 9))).map Conversion.rest).getD []

/-- The index ends its token, and another token follows. -/
def IndexSeparated (line : Text) : Prop :=
  ∃ blank tail, afterIndex line = blank :: tail ∧ isspace blank = true ∧
    ∃ c ∈ tail, isspace c = false

section Line
variable {line text rest : Text} {index : Fin 5} {offset : Double} {lines : List Text}

theorem drop_keyword (rest : Text) : ("undervolt".toList ++ rest).drop 9 = rest := rfl

/-- A recognised line is the keyword, white space and a number in the range of the domains. -/
theorem domain_parsed (h : parseDomainIndex line = .domain index) :
    ∃ rest parsed, skipSpace line = "undervolt".toList ++ rest ∧
      rest.head?.any isspace = true ∧ strtol (skipSpace rest) = some parsed ∧
      parsed.rangeError = false ∧ parsed.value = index := by
  unfold parseDomainIndex at h
  dsimp only at h
  split_ifs at h with hword
  obtain ⟨hkeyword, hspace⟩ := hword
  obtain ⟨rest, hrest⟩ := List.isPrefixOf_iff_prefix.mp hkeyword
  rw [← hrest, drop_keyword] at h hspace
  cases hread : strtol (skipSpace rest) with
  | none => simp [hread] at h
  | some parsed =>
    simp only [hread] at h
    split_ifs at h with hvalid
    refine ⟨rest, parsed, hrest.symm, hspace, hread, hvalid.1, ?_⟩
    cases h
    dsimp only
    omega

/-- A recognised line splits at the number of its domain. -/
theorem domain_split (h : parseDomainIndex line = .domain index) :
    ∃ before between, ∃ literal : IntegerLiteral,
      line = before ++ "undervolt".toList ++ between ++ literal.text ++ afterIndex line ∧
      (∀ c ∈ before, isspace c = true) ∧ (∀ c ∈ between, isspace c = true) ∧ between ≠ [] ∧
      literal.value = index := by
  obtain ⟨rest, parsed, hstart, hspace, hread, hrange, hindex⟩ := domain_parsed h
  obtain ⟨literal, htext, hvalue⟩ := literal_of_strtol hread hrange
  rw [skipSpace_skipSpace] at htext
  have hafter : afterIndex line = parsed.rest := by
    rw [afterIndex, hstart, drop_keyword, hread]
    rfl
  refine ⟨line.takeWhile isspace, rest.takeWhile isspace, literal, ?_,
    fun c hc => List.mem_takeWhile_imp hc, fun c hc => List.mem_takeWhile_imp hc, ?_,
    hvalue.trans hindex⟩
  · calc line = line.takeWhile isspace ++ skipSpace line := List.takeWhile_append_dropWhile.symm
      _ = line.takeWhile isspace ++ ("undervolt".toList ++
          (rest.takeWhile isspace ++ skipSpace rest)) := by
        rw [hstart, skipSpace, List.takeWhile_append_dropWhile]
      _ = _ := by rw [htext, hafter]; simp only [List.append_assoc]
  · intro hnil
    cases rest with
    | nil => cases hspace
    | cons c more =>
      have hc : isspace c = true := by simpa using hspace
      simp [hc] at hnil

/-- The conversion of the index stops at the white space of a complete line. -/
theorem afterIndex_complete (h : CompleteLine line index offset) :
    afterIndex line = h.blank :: h.tail := by
  have hblank : Stops Char.isDigit (h.blank :: h.tail) := by
    refine stops_cons.mpr ?_
    cases hd : h.blank.isDigit with
    | false => rfl
    | true =>
      have hspace := h.blank_space
      rw [not_isspace_of_isDigit hd] at hspace
      cases hspace
  have hword : ∀ more : Text, Stops isspace ("undervolt".toList ++ more) := by
    intro more
    exact stops_cons.mpr (by decide)
  have hstart : skipSpace line =
      "undervolt".toList ++ (h.between ++ (h.literal.text ++ h.blank :: h.tail)) := by
    conv_lhs => rw [h.line_eq]
    simp only [List.append_assoc]
    exact dropWhile_block h.before_space (hword _)
  have hskip : skipSpace (h.between ++ (h.literal.text ++ h.blank :: h.tail)) =
      h.literal.text ++ h.blank :: h.tail := by
    rw [skipSpace, List.dropWhile_append_of_pos h.between_space]
    exact h.literal.skipSpace_text _
  rw [afterIndex, hstart, drop_keyword, hskip, strtol_literal_rest h.literal hblank]
  rfl

/-- A line with an offset is complete just when its index stands apart. -/
theorem completeLine_iff (h : parseDomainIndex line = .domain index)
    (hv : parseLastDouble line = some offset) :
    Nonempty (CompleteLine line index offset) ↔ IndexSeparated line := by
  constructor
  · rintro ⟨hline⟩
    exact ⟨hline.blank, hline.tail, afterIndex_complete hline, hline.blank_space, hline.further⟩
  · rintro ⟨blank, tail, hafter, hblank, hfurther⟩
    obtain ⟨before, between, literal, hline, hbefore, hbetween, hne, hvalue⟩ := domain_split h
    rw [hafter] at hline
    have hword : skipSpace tail ≠ [] := exists_not_space_iff.mpr hfurther
    have hlast : lastToken line = lastToken tail := by
      rw [hline, lastToken_of_word hblank hword]
    unfold parseLastDouble at hv
    dsimp only at hv
    split_ifs at hv
    obtain ⟨parsed, hread, hparsed⟩ := Option.bind_eq_some_iff.mp hv
    split_ifs at hparsed with hwhole
    obtain ⟨hrest, hrange, hfinite⟩ := hwhole
    cases hparsed
    refine ⟨⟨before, between, literal, blank, tail, hline, hbefore, hbetween, hne, hblank, hvalue,
      hfurther, ?_, hfinite⟩⟩
    rw [← hlast, hread, ← hrest, ← hrange]

end Line

/-- The offsets come from complete lines just when the index of each last line stands apart. -/
theorem read_from_complete_lines_iff (contents : Text)
    (h : (undervoltLoadConfig (.readable contents)).1 = .ok ()) :
    ReadFromCompleteLines contents ↔
      ∀ index, ∀ line ∈ (domainLines (bufferedLines contents) index).getLast?,
        IndexSeparated line := by
  have hvalue : ∀ index, (undervoltLoadConfig (.readable contents)).2 index =
      (lastOffset (bufferedLines contents) index).getD (.finite 0) :=
    fun index => loadLines_value h
  have hall := loadLines_ok_iff.mp h
  refine forall_congr' fun index => ?_
  rw [hvalue, lastOffset]
  cases hlast : (domainLines (bufferedLines contents) index).getLast? with
  | none => simp [List.getLast?_eq_none_iff.mp hlast]
  | some line =>
    have hmem := List.mem_filter.mp (List.mem_of_getLast? hlast)
    have hp : parseDomainIndex line = .domain index := by simpa using hmem.2
    obtain ⟨offset, hv⟩ := Option.isSome_iff_exists.mp (hall line hmem.1 index hp)
    have hne : domainLines (bufferedLines contents) index ≠ [] := by
      intro hnil
      rw [hnil] at hlast
      cases hlast
    simp [hne, hv, completeLine_iff hp hv]

theorem read_from_complete_lines_named :
    ReadFromCompleteLines "undervolt 0 'CPU' -60.00\n".toList := by
  refine (read_from_complete_lines_iff _ (by decide +kernel)).mpr ?_
  intro index line hline
  rw [Option.mem_def] at hline
  by_cases hi : index = 0
  · subst hi
    have hlast : (domainLines (bufferedLines "undervolt 0 'CPU' -60.00\n".toList) 0).getLast? =
        some "undervolt 0 'CPU' -60.00\n".toList := by decide +kernel
    cases hlast.symm.trans hline
    exact ⟨' ', "'CPU' -60.00\n".toList, by decide +kernel, by decide, '0', by decide, by decide⟩
  · have hnone : ∀ index ≠ 0,
        domainLines (bufferedLines "undervolt 0 'CPU' -60.00\n".toList) index = [] := by
      decide +kernel
    rw [hnone index hi] at hline
    cases hline

/-- A line that stops after its index sets the domain to the index. -/
theorem read_from_complete_lines_counterexample :
    (undervoltLoadConfig (.readable "undervolt 3\n".toList)).1 = .ok () ∧
      (undervoltLoadConfig (.readable "undervolt 3\n".toList)).2 3 = .finite 3 ∧
      ¬ ReadFromCompleteLines "undervolt 3\n".toList := by
  refine ⟨by decide +kernel, by decide +kernel, fun h => ?_⟩
  rcases h 3 with ⟨hnil, -⟩ | ⟨line, hlast, hline⟩
  · exact absurd hnil (by decide +kernel)
  · have hvalue : (undervoltLoadConfig (.readable "undervolt 3\n".toList)).2 3 = .finite 3 := by
      decide +kernel
    have hread : (domainLines (bufferedLines "undervolt 3\n".toList) 3).getLast? =
        some "undervolt 3\n".toList := by decide +kernel
    cases hread.symm.trans hlast
    rw [hvalue] at hline
    obtain ⟨blank, tail, hafter, -, c, hc, -⟩ :=
      (completeLine_iff (by decide +kernel) (by decide +kernel)).mp hline
    have hend : afterIndex "undervolt 3\n".toList = ['\n'] := by decide +kernel
    cases hend.symm.trans hafter
    cases hc

end CpuSwitch.Undervolt
