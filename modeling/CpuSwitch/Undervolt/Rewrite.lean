import CpuSwitch.Undervolt.Lines

/-! What a masked rewrite does to the file, line by line. -/
namespace CpuSwitch.Undervolt
open CLib

/-- The appended lines cannot be glued to the last line of the source. -/
def LastLineSafe (present : Mask) (lines : List Text) : Prop :=
  (∀ line ∈ lines, Terminated line) ∨
    (∃ last ∈ lines.getLast?, selectedIndex present last ≠ none) ∨
    missingDomains present lines = []

/-- The lines of the source with the selected domains replaced, then the missing domains. -/
def expectedLines (offsets : Offsets) (present : Mask) (source : Text) : List Text :=
  ((getlines source).map fun line =>
    match selectedIndex present line with
    | some index => domainText index (offsets index)
    | none => chomp line) ++
  (missingDomains present (getlines source)).map fun index => domainText index (offsets index)

section Layout
variable {offsets : Offsets} {present : Mask} {lines : List Text} {line last source : Text}

theorem terminated_rewrittenLine (hv : undervoltValidate offsets = .ok ())
    (h : Terminated line ∨ selectedIndex present line ≠ none) :
    Terminated (rewrittenLine offsets present line) := by
  unfold rewrittenLine
  cases hs : selectedIndex present line with
  | some index => exact terminated_canonicalLine hv
  | none => exact h.elim id fun hne => (hne hs).elim

/-- A safe rewrite is read back line by line. -/
theorem getlines_rewritten_of_safe (hv : undervoltValidate offsets = .ok ())
    (hl : IsLines lines) (h : LastLineSafe present lines) :
    getlines (rewrittenLines offsets present lines).flatten =
      rewrittenLines offsets present lines := by
  apply getlines_flatten
  have hall : (∀ line ∈ lines, Terminated line ∨ selectedIndex present line ≠ none) →
      IsLines (rewrittenLines offsets present lines) := by
    intro hlines
    apply isLines_of_terminated
    intro line hline
    rcases mem_rewrittenLines.mp hline with ⟨old, hold, rfl⟩ | ⟨index, -, rfl⟩
    · exact terminated_rewrittenLine hv (hlines old hold)
    · exact terminated_canonicalLine hv
  rcases h with hterm | ⟨last, hlast, hsel⟩ | hnone
  · exact hall fun line hline => Or.inl (hterm line hline)
  · obtain ⟨front, rfl⟩ := List.getLast?_eq_some_iff.mp hlast
    have hfront := (isLines_concat.mp hl).1
    refine hall fun line hline => ?_
    rcases List.mem_append.mp hline with hline | hline
    · exact Or.inl (hfront line hline)
    · rw [List.mem_singleton.mp hline]
      exact Or.inr hsel
  · rw [rewrittenLines, hnone, List.map_nil, List.append_nil]
    rcases List.eq_nil_or_concat lines with rfl | ⟨front, last, rfl⟩
    · trivial
    · rw [List.concat_eq_append] at hl ⊢
      obtain ⟨hfront, hlast⟩ := isLines_concat.mp hl
      rw [List.map_append, List.map_singleton, isLines_concat]
      constructor
      · intro line hline
        obtain ⟨old, hold, rfl⟩ := List.mem_map.mp hline
        exact terminated_rewrittenLine hv (Or.inl (hfront old hold))
      · cases hs : selectedIndex present last with
        | some index => exact Or.inl (terminated_rewrittenLine hv (Or.inr (by simp [hs])))
        | none =>
          simp only [rewrittenLine, hs]
          exact hlast

/-- Otherwise the first appended line continues the last line of the source. -/
theorem getlines_rewritten_of_not_safe (hv : undervoltValidate offsets = .ok ())
    (hl : IsLines lines) (h : ¬ LastLineSafe present lines) :
    ∃ front last index more, lines = front ++ [last] ∧
      missingDomains present lines = index :: more ∧
      getlines (rewrittenLines offsets present lines).flatten =
        front.map (rewrittenLine offsets present) ++
          (last ++ canonicalLine offsets index) :: more.map (canonicalLine offsets) := by
  unfold LastLineSafe at h
  rw [not_or, not_or] at h
  obtain ⟨hterm, hsel, hmissing⟩ := h
  obtain ⟨index, more, hmore⟩ := List.exists_cons_of_ne_nil hmissing
  rcases List.eq_nil_or_concat lines with rfl | ⟨front, last, rfl⟩
  · exact (hterm (by simp)).elim
  · rw [List.concat_eq_append] at *
    obtain ⟨hfront, hlast⟩ := isLines_concat.mp hl
    have hunsel : selectedIndex present last = none := by
      by_contra hne
      exact hsel ⟨last, by simp, hne⟩
    have hopen : Unterminated last := by
      rcases hlast with hlast | hlast
      · refine (hterm fun line hline => ?_).elim
        rcases List.mem_append.mp hline with hline | hline
        · exact hfront line hline
        · rw [List.mem_singleton.mp hline]
          exact hlast
      · exact hlast
    refine ⟨front, last, index, more, rfl, hmore, ?_⟩
    have hflat : (rewrittenLines offsets present (front ++ [last])).flatten =
        (front.map (rewrittenLine offsets present) ++
          (last ++ canonicalLine offsets index) :: more.map (canonicalLine offsets)).flatten := by
      simp [rewrittenLines, hmore, rewrittenLine, hunsel]
    rw [hflat]
    apply getlines_flatten
    apply isLines_of_terminated
    intro line hline
    rcases List.mem_append.mp hline with hline | hline
    · obtain ⟨old, hold, rfl⟩ := List.mem_map.mp hline
      exact terminated_rewrittenLine hv (Or.inl (hfront old hold))
    · rcases List.mem_cons.mp hline with rfl | hline
      · refine ⟨last ++ domainText index (offsets index), ?_, ?_⟩
        · rw [List.mem_append, not_or]
          exact ⟨hopen.2, notMem_domainText hv (Or.inl rfl)⟩
        · rw [canonicalLine, List.append_assoc]
      · obtain ⟨other, -, rfl⟩ := List.mem_map.mp hline
        exact terminated_canonicalLine hv

theorem bufferedLines_of_noNul (h : '\x00' ∉ source) : bufferedLines source = getlines source := by
  apply List.map_congr_left (g := id) _ |>.trans (List.map_id _)
  intro line hline
  exact cString_of_noNul (notMem_of_mem_getlines h hline)

/-- The lines of the rewritten file, newlines removed. -/
theorem map_chomp_rewritten (hv : undervoltValidate offsets = .ok ()) :
    (rewrittenLines offsets present (getlines source)).map chomp =
      expectedLines offsets present source := by
  have hcanonical : ∀ index, chomp (canonicalLine offsets index) =
      domainText index (offsets index) :=
    fun index => chomp_append (notMem_domainText hv (Or.inl rfl))
  rw [rewrittenLines, expectedLines, List.map_append, List.map_map, List.map_map]
  congr 1
  · apply List.map_congr_left
    intro line _
    simp only [Function.comp_apply, rewrittenLine]
    cases selectedIndex present line with
    | some index => exact hcanonical index
    | none => rfl
  · exact List.map_congr_left fun index _ => hcanonical index

/-- A successful rewrite stores the expected lines exactly when it glues nothing to an
unterminated last line. -/
theorem masked_rewrite_iff (source : Text) (hnul : '\x00' ∉ source) (output : Output)
    (offsets : Offsets) (present : Mask)
    (h : (undervoltWriteConfigCopyMasked (.readable source) output offsets present).1 = .ok ()) :
    (∃ text, (undervoltWriteConfigCopyMasked (.readable source) output offsets present).2 =
        .stored text ∧ linesOf text = expectedLines offsets present source) ↔
      LastLineSafe present (getlines source) := by
  obtain ⟨hv, hstored⟩ := rewrite_ok h
  have hlines : (ConfigFile.readable source).lines = getlines source := bufferedLines_of_noNul hnul
  rw [hlines] at hstored
  simp only [hstored, Destination.stored.injEq, exists_eq_left']
  by_cases hsafe : LastLineSafe present (getlines source)
  · rw [linesOf, getlines_rewritten_of_safe hv (isLines_getlines source) hsafe]
    exact iff_of_true (map_chomp_rewritten hv) hsafe
  · refine iff_of_false (fun heq => ?_) hsafe
    -- One line is missing.
    obtain ⟨front, last, index, more, hsource, hmissing, hglued⟩ :=
      getlines_rewritten_of_not_safe hv (isLines_getlines source) hsafe
    have hcount := congrArg List.length heq
    rw [linesOf, hglued, expectedLines, hmissing, hsource] at hcount
    simp at hcount

/-- A destination on which every call works. -/
def Output.steady : Output := ⟨"intel-undervolt.conf", none, fun _ => true, true⟩

/-- One selected domain is replaced in place, an unselected one kept. -/
theorem masked_rewrite_example :
    ∃ text, (undervoltWriteConfigCopyMasked
        (.readable "undervolt 0 'CPU' -1\nundervolt 1 'GPU' -2".toList) .steady undervoltDefaults
        (some fun index => index = 0)).2 = .stored text ∧
      linesOf text = ["undervolt 0 'CPU' 0.00".toList, "undervolt 1 'GPU' -2".toList] := by
  obtain ⟨text, hstored, hlines⟩ := (masked_rewrite_iff
    "undervolt 0 'CPU' -1\nundervolt 1 'GPU' -2".toList (by decide) .steady undervoltDefaults
    (some fun index => index = 0) (by decide +kernel)).mpr (Or.inr (Or.inr (by decide +kernel)))
  exact ⟨text, hstored, hlines.trans (by decide +kernel)⟩

/-- The first appended domain disappears in an unterminated last line. -/
theorem masked_rewrite_counterexample :
    ¬ ∀ (source : Text) (output : Output) (offsets : Offsets) (present : Mask), '\x00' ∉ source →
      (undervoltWriteConfigCopyMasked (.readable source) output offsets present).1 = .ok () →
        ∃ text, (undervoltWriteConfigCopyMasked (.readable source) output offsets present).2 =
            .stored text ∧ linesOf text = expectedLines offsets present source := by
  intro h
  obtain ⟨text, hstored, hlines⟩ := h "enable no".toList .steady undervoltDefaults
    (some fun index => index = 0) (by decide) (by decide +kernel)
  have htext : (undervoltWriteConfigCopyMasked (.readable "enable no".toList) .steady
      undervoltDefaults (some fun index => index = 0)).2 =
        .stored "enable noundervolt 0 'CPU' 0.00\n".toList := by decide +kernel
  rw [htext] at hstored
  cases hstored
  exact absurd hlines (by decide +kernel)

end Layout

/-- The bytes of an existing source contain no NUL. -/
def ConfigFile.NoNul (source : ConfigFile) : Prop :=
  ∀ contents, source = .readable contents → '\x00' ∉ contents

section Overvolt
variable {offsets : Offsets} {present : Mask} {lines : List Text} {line : Text}
  {source : ConfigFile} {output : Output}

theorem isLines_lines (h : source.NoNul) : IsLines source.lines := by
  cases source with
  | missing => exact isLines_getlines generatedHeader
  | unopenable path reason => trivial
  | readable contents =>
    rw [ConfigFile.lines, bufferedLines_of_noNul (h contents rfl)]
    exact isLines_getlines contents

theorem noNul_lines (h : source.NoNul) (hline : line ∈ source.lines) : '\x00' ∉ line := by
  cases source with
  | missing => exact notMem_of_mem_getlines (by decide) hline
  | unopenable path reason => simp [ConfigFile.lines] at hline
  | readable contents =>
    rw [ConfigFile.lines, bufferedLines_of_noNul (h contents rfl)] at hline
    exact notMem_of_mem_getlines (h contents rfl) hline

theorem noNul_rewritten (hv : undervoltValidate offsets = .ok ()) (h : source.NoNul) :
    '\x00' ∉ (rewrittenLines offsets present source.lines).flatten := by
  intro hnul
  obtain ⟨line, hline, hc⟩ := List.mem_flatten.mp hnul
  rcases mem_rewrittenLines.mp hline with ⟨old, hold, rfl⟩ | ⟨index, -, rfl⟩
  · unfold rewrittenLine at hc
    split at hc
    · exact noNul_canonicalLine hv hc
    · exact noNul_lines h hold hc
  · exact noNul_canonicalLine hv hc

/-- A line of the result is a line of the source or ends in a canonical line. -/
theorem mem_getlines_rewritten (hv : undervoltValidate offsets = .ok ()) (hl : IsLines lines)
    (h : line ∈ getlines (rewrittenLines offsets present lines).flatten) :
    line ∈ lines ∨ ∃ front index, line = front ++ canonicalLine offsets index := by
  have hrewritten : ∀ {front}, front ⊆ lines → line ∈ front.map (rewrittenLine offsets present) →
      line ∈ lines ∨ ∃ front index, line = front ++ canonicalLine offsets index := by
    intro front hsub hline
    obtain ⟨old, hold, rfl⟩ := List.mem_map.mp hline
    unfold rewrittenLine
    split
    · exact Or.inr ⟨[], _, rfl⟩
    · exact Or.inl (hsub hold)
  have hcanonical : ∀ {indices : List (Fin 5)}, line ∈ indices.map (canonicalLine offsets) →
      line ∈ lines ∨ ∃ front index, line = front ++ canonicalLine offsets index := by
    intro indices hline
    obtain ⟨index, -, rfl⟩ := List.mem_map.mp hline
    exact Or.inr ⟨[], index, rfl⟩
  by_cases hsafe : LastLineSafe present lines
  · rw [getlines_rewritten_of_safe hv hl hsafe] at h
    rcases List.mem_append.mp h with h | h
    · exact hrewritten (List.Subset.refl lines) h
    · exact hcanonical h
  · obtain ⟨front, last, index, more, rfl, -, hglued⟩ :=
      getlines_rewritten_of_not_safe hv hl hsafe
    rw [hglued] at h
    rcases List.mem_append.mp h with h | h
    · exact hrewritten (List.subset_append_left front [last]) h
    · rcases List.mem_cons.mp h with rfl | h
      · exact Or.inr ⟨last, index, rfl⟩
      · exact hcanonical h

/-- The writer rejects every offset out of range and lets no new one into the file. -/
theorem rewrite_never_overvolts (source : ConfigFile) (hnul : source.NoNul) (output : Output)
    (offsets : Offsets) (present : Mask) :
    ((∃ index, outOfRange (offsets index)) → ∃ message,
      undervoltWriteConfigCopyMasked source output offsets present =
        (.error message, .untouched)) ∧
    ((undervoltWriteConfigCopyMasked source output offsets present).1 = .ok () →
      ∃ text, (undervoltWriteConfigCopyMasked source output offsets present).2 = .stored text ∧
        ∀ line ∈ bufferedLines text, ∀ index, parseDomainIndex line = .domain index →
          (∃ contents, source = .readable contents ∧ line ∈ getlines contents) ∨
            ∃ value, parseLastDouble line = some (.finite value) ∧ -150 ≤ value ∧ value ≤ 0) := by
  constructor
  · rintro ⟨index, hout⟩
    cases hv : undervoltValidate offsets with
    | ok _ => exact (undervoltValidate_ok_iff.mp hv index hout).elim
    | error message => exact ⟨message, by simp [undervoltWriteConfigCopyMasked, hv]⟩
  · intro h
    obtain ⟨hv, hstored⟩ := rewrite_ok h
    refine ⟨_, hstored, fun line hline index hindex => ?_⟩
    rw [bufferedLines_of_noNul (noNul_rewritten hv hnul)] at hline
    rcases mem_getlines_rewritten hv (isLines_lines hnul) hline with hold | ⟨front, other, rfl⟩
    · left
      cases source with
      | missing =>
        rw [parseDomainIndex_header line hold] at hindex
        cases hindex
      | unopenable path reason => simp [ConfigFile.lines] at hold
      | readable contents =>
        rw [ConfigFile.lines, bufferedLines_of_noNul (hnul contents rfl)] at hold
        exact ⟨contents, rfl, hold⟩
    · right
      obtain ⟨value, hvalue, hlo, hhi⟩ := offset_of_valid hv other
      exact ⟨_, parseLastDouble_canonicalLine hv hvalue front, roundTo_range hlo hhi⟩

/-- The glued line of an unterminated source is harmless too. -/
theorem rewrite_never_overvolts_unterminated :
    ∃ text, (undervoltWriteConfigCopyMasked (.readable "undervolt 1 'GPU' -2".toList) .steady
        undervoltDefaults (some fun index => index = 0)).2 = .stored text ∧
      ∀ line ∈ bufferedLines text, ∀ index, parseDomainIndex line = .domain index →
        (∃ contents, ConfigFile.readable "undervolt 1 'GPU' -2".toList = .readable contents ∧
          line ∈ getlines contents) ∨
            ∃ value, parseLastDouble line = some (.finite value) ∧ -150 ≤ value ∧ value ≤ 0 :=
  (rewrite_never_overvolts (.readable "undervolt 1 'GPU' -2".toList)
    (by
      rintro contents ⟨⟩
      decide)
    .steady undervoltDefaults (some fun index => index = 0)).2 (by decide +kernel)

end Overvolt

end CpuSwitch.Undervolt
