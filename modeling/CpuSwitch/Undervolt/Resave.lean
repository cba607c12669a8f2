import CpuSwitch.Undervolt.RoundTrip

/-! Saving again replaces what was saved before. -/
namespace CpuSwitch.Undervolt
open CLib

/-- One successful save: the rewritten file takes the place of the source. -/
def save (present : Mask) (source : ConfigFile) (saved : Output × Offsets) : Option ConfigFile :=
  match undervoltWriteConfigCopyMasked source saved.1 saved.2 present with
  | (.ok _, .stored text) => some (.readable text)
  | _ => none

/-- A later file that rewrites like the original one. -/
structure Resaved (present : Mask) (source resaved : ConfigFile) : Prop where
  noNul : resaved.NoNul
  linesEnd : resaved.LinesEnd
  lines : ∀ offsets, rewrittenLines offsets present resaved.lines =
    rewrittenLines offsets present source.lines

section
variable {first second offsets : Offsets} {present : Mask} {lines : List Text} {line : Text}
  {index : Fin 5} {source middle resaved : ConfigFile} {saved : Output × Offsets}

theorem selectedIndex_rewrittenLine :
    selectedIndex present (rewrittenLine offsets present line) = selectedIndex present line := by
  unfold selectedIndex
  rw [parseDomainIndex_rewrittenLine]

theorem rewrittenLine_rewrittenLine :
    rewrittenLine second present (rewrittenLine first present line) =
      rewrittenLine second present line := by
  conv_lhs => rw [rewrittenLine, selectedIndex_rewrittenLine]
  cases hs : selectedIndex present line with
  | some index => simp [rewrittenLine, hs]
  | none => simp [rewrittenLine, hs]

theorem rewrittenLine_canonicalLine (hs : domainSelected index present = true) :
    rewrittenLine second present (canonicalLine first index) = canonicalLine second index := by
  have hsome : selectedIndex present (canonicalLine first index) = some index :=
    selectedIndex_eq_some_iff.mpr ⟨parseDomainIndex_canonicalLine, hs⟩
  simp [rewrittenLine, hsome]

theorem selected_of_mem_missing (h : index ∈ missingDomains present lines) :
    domainSelected index present = true := by
  have hboth := (List.mem_filter.mp h).2
  rw [Bool.and_eq_true] at hboth
  exact hboth.1

/-- After a rewrite no selected domain is without a line. -/
theorem missingDomains_rewritten :
    missingDomains present (rewrittenLines first present lines) = [] := by
  apply List.filter_eq_nil_iff.mpr
  intro index _ hboth
  rw [Bool.and_eq_true] at hboth
  obtain ⟨hs, hall⟩ := hboth
  have hne : domainLines (rewrittenLines first present lines) index ≠ [] :=
    domainLines_rewritten_ne_nil hs
  obtain ⟨line, hline⟩ := List.exists_mem_of_ne_nil _ hne
  obtain ⟨hmem, hp⟩ := List.mem_filter.mp hline
  have hnot := List.all_eq_true.mp hall line hmem
  simp_all

/-- Of two rewrites only the second one shows. -/
theorem rewrittenLines_rewrittenLines :
    rewrittenLines second present (rewrittenLines first present lines) =
      rewrittenLines second present lines := by
  have hlines : (lines.map (rewrittenLine first present)).map (rewrittenLine second present) =
      lines.map (rewrittenLine second present) := by
    rw [List.map_map]
    exact List.map_congr_left fun line _ => rewrittenLine_rewrittenLine
  have hmissing : ((missingDomains present lines).map (canonicalLine first)).map
      (rewrittenLine second present) =
        (missingDomains present lines).map (canonicalLine second) := by
    rw [List.map_map]
    apply List.map_congr_left
    intro index hindex
    rw [Function.comp_apply, rewrittenLine_canonicalLine (selected_of_mem_missing hindex)]
  rw [rewrittenLines, missingDomains_rewritten, List.map_nil, List.append_nil, rewrittenLines,
    List.map_append, hlines, hmissing, rewrittenLines]

theorem resaved_refl (hnul : source.NoNul) (hterm : source.LinesEnd) :
    Resaved present source source := ⟨hnul, hterm, fun _ => rfl⟩

theorem resaved_save (h : Resaved present source middle)
    (hsave : save present middle saved = some resaved) : Resaved present source resaved := by
  unfold save at hsave
  split at hsave
  · rename_i text hwrite
    cases hsave
    obtain ⟨hv, hstored⟩ := rewrite_ok (congrArg Prod.fst hwrite)
    rw [hwrite] at hstored
    have htext := Destination.stored.inj hstored
    have hterminated : ∀ line ∈ rewrittenLines saved.2 present middle.lines, Terminated line := by
      intro line hline
      rcases mem_rewrittenLines.mp hline with ⟨old, hold, rfl⟩ | ⟨index, -, rfl⟩
      · exact terminated_rewrittenLine hv
          (Or.inl (terminated_lines h.linesEnd h.noNul old hold))
      · exact terminated_canonicalLine hv
    have hlines : getlines text = rewrittenLines saved.2 present middle.lines := by
      rw [htext]
      exact getlines_flatten (isLines_of_terminated hterminated)
    have hnul : '\x00' ∉ text := htext ▸ noNul_rewritten hv h.noNul
    constructor
    · rintro contents ⟨⟩
      exact hnul
    · rintro contents ⟨⟩ line hline
      exact hterminated line (hlines ▸ hline)
    · intro offsets
      rw [ConfigFile.lines, bufferedLines_of_noNul hnul, hlines, rewrittenLines_rewrittenLines,
        h.lines]
  · cases hsave

theorem resaved_saves {saves : List (Output × Offsets)} (h : Resaved present source middle)
    (hsaves : saves.foldlM (save present) middle = some resaved) :
    Resaved present source resaved := by
  induction saves generalizing middle with
  | nil =>
    cases hsaves
    exact h
  | cons saved saves ih =>
    rw [List.foldlM_cons] at hsaves
    obtain ⟨next, hnext, hrest⟩ := Option.bind_eq_some_iff.mp hsaves
    exact ih (resaved_save h hnext) hrest

/-- However often the file was saved before with the same mask, a save leaves the same bytes as
if it had been the only one. -/
theorem last_rewrite_wins (source : ConfigFile) (hnul : source.NoNul) (hterm : source.LinesEnd)
    (present : Mask) (saves : List (Output × Offsets)) (resaved : ConfigFile)
    (hsaves : saves.foldlM (save present) source = some resaved)
    (again once : Output) (offsets : Offsets) (text : Text)
    (hagain : undervoltWriteConfigCopyMasked resaved again offsets present = (.ok (), .stored text))
    (honce : (undervoltWriteConfigCopyMasked source once offsets present).1 = .ok ()) :
    undervoltWriteConfigCopyMasked source once offsets present = (.ok (), .stored text) := by
  have h : Resaved present source resaved := resaved_saves (resaved_refl hnul hterm) hsaves
  have htext := (rewrite_ok (congrArg Prod.fst hagain)).2
  rw [hagain] at htext
  apply Prod.ext honce
  rw [(rewrite_ok honce).2, Destination.stored.inj htext, h.lines]

/-- The file that the first save of the GPU's offset creates. -/
def createdFile : Text := generatedHeader ++ "undervolt 1 'GPU' 0.00\n".toList

theorem save_created : save (some fun index => index = 1) .missing (.steady, undervoltDefaults) =
    some (.readable createdFile) := by
  have hwrite : undervoltWriteConfigCopyMasked .missing .steady undervoltDefaults
      (some fun index => index = 1) = (.ok (), .stored createdFile) := by decide +kernel
  simp only [save, hwrite]

/-- The second save replaces the line that the first one appended. -/
theorem last_rewrite_wins_created :
    undervoltWriteConfigCopyMasked .missing .steady (fun _ => .finite (-5))
        (some fun index => index = 1) =
      (.ok (), .stored (generatedHeader ++ "undervolt 1 'GPU' -5.00\n".toList)) :=
  last_rewrite_wins .missing (by rintro _ ⟨⟩) (by rintro _ ⟨⟩) (some fun index => index = 1)
    [(.steady, undervoltDefaults)] (.readable createdFile) save_created .steady .steady
    (fun _ => .finite (-5)) _ (by decide +kernel) (by decide +kernel)

end

end CpuSwitch.Undervolt
