import CpuSwitch.Undervolt.Rewrite

/-! The loader reads back what a masked rewrite wrote. -/
namespace CpuSwitch.Undervolt
open CLib

/-- The lines that set a domain. -/
def domainLines (lines : List Text) (index : Fin 5) : List Text :=
  lines.filter fun line => parseDomainIndex line = .domain index

/-- The value of the last line that sets a domain. -/
def lastOffset (lines : List Text) (index : Fin 5) : Option Double :=
  (domainLines lines index).getLast?.bind parseLastDouble

section Load
variable {offsets : Offsets} {present : Mask} {lines : List Text} {line : Text} {index : Fin 5}

theorem loadLines_ok_iff : (loadLines lines offsets).1 = .ok () ↔
    ∀ line ∈ lines, ∀ index, parseDomainIndex line = .domain index →
      (parseLastDouble line).isSome = true := by
  induction lines generalizing offsets with
  | nil => simp [loadLines]
  | cons line lines ih =>
    rw [List.forall_mem_cons, loadLines]
    cases hp : parseDomainIndex line with
    | other => simp [ih]
    | invalid => simp [ih]
    | domain found =>
      cases hv : parseLastDouble line with
      | none => simp
      | some offset => simp [ih]

/-- A load that succeeds leaves the last value of each domain. -/
theorem loadLines_value (h : (loadLines lines offsets).1 = .ok ()) :
    (loadLines lines offsets).2 index = (lastOffset lines index).getD (offsets index) := by
  induction lines generalizing offsets with
  | nil => rfl
  | cons line lines ih =>
    have hall := loadLines_ok_iff.mp h
    have hother : parseDomainIndex line ≠ .domain index →
        lastOffset (line :: lines) index = lastOffset lines index := by
      intro hne
      simp [lastOffset, domainLines, hne]
    rw [loadLines] at h ⊢
    cases hp : parseDomainIndex line with
    | other =>
      simp only [hp] at h
      rw [ih h, hother (by simp [hp])]
    | invalid =>
      simp only [hp] at h
      rw [ih h, hother (by simp [hp])]
    | domain found =>
      obtain ⟨offset, hv⟩ := Option.isSome_iff_exists.mp (hall line List.mem_cons_self found hp)
      simp only [hp, hv] at h
      simp only [hv]
      rw [ih h]
      by_cases hi : found = index
      · subst hi
        rw [lastOffset, lastOffset, domainLines, domainLines, List.filter_cons, hp,
          if_pos (by simp), List.getLast?_cons]
        cases hlast : (lines.filter fun line => parseDomainIndex line = .domain found).getLast? with
        | none => simp [hv]
        | some last =>
          -- A later line wins; it has a value, or the load would have failed.
          have hmem := List.mem_filter.mp (List.mem_of_getLast? hlast)
          obtain ⟨later, hlater⟩ := Option.isSome_iff_exists.mp
            (hall last (List.mem_cons_of_mem _ hmem.1) found (by simpa using hmem.2))
          simp [hlater]
      · rw [hother (by simp [hp, hi]), Function.update_of_ne (Ne.symm hi)]

end Load

/-- Every line of an existing source ends in a newline. -/
def ConfigFile.LinesEnd (source : ConfigFile) : Prop :=
  ∀ contents, source = .readable contents → EndsInNewline contents

section Rewritten
variable {offsets : Offsets} {present : Mask} {lines : List Text} {line : Text} {index : Fin 5}
  {source : ConfigFile}

theorem parseDomainIndex_rewrittenLine :
    parseDomainIndex (rewrittenLine offsets present line) = parseDomainIndex line := by
  unfold rewrittenLine
  cases hs : selectedIndex present line with
  | none => rfl
  | some index =>
    exact parseDomainIndex_canonicalLine.trans (selectedIndex_eq_some_iff.mp hs).1.symm

/-- A selected domain has canonical lines only. -/
theorem eq_canonicalLine_of_mem (hs : domainSelected index present = true)
    (h : line ∈ rewrittenLines offsets present lines)
    (hp : parseDomainIndex line = .domain index) : line = canonicalLine offsets index := by
  rcases mem_rewrittenLines.mp h with ⟨old, -, rfl⟩ | ⟨other, -, rfl⟩
  · rw [parseDomainIndex_rewrittenLine] at hp
    simp [rewrittenLine, selectedIndex_eq_some_iff.mpr ⟨hp, hs⟩]
  · rw [parseDomainIndex_canonicalLine] at hp
    cases hp
    rfl

/-- A selected domain has a line, replaced or appended. -/
theorem domainLines_rewritten_ne_nil (hs : domainSelected index present = true) :
    domainLines (rewrittenLines offsets present lines) index ≠ [] := by
  suffices h : ∃ line ∈ rewrittenLines offsets present lines,
      parseDomainIndex line = .domain index by
    obtain ⟨line, hline, hp⟩ := h
    exact List.ne_nil_of_mem (List.mem_filter.mpr ⟨hline, by simpa using hp⟩)
  by_cases hold : ∃ old ∈ lines, parseDomainIndex old = .domain index
  · obtain ⟨old, hold, hp⟩ := hold
    exact ⟨_, mem_rewrittenLines.mpr (Or.inl ⟨old, hold, rfl⟩),
      parseDomainIndex_rewrittenLine.trans hp⟩
  · push Not at hold
    have hmissing : index ∈ missingDomains present lines := by
      simpa [missingDomains, hs] using hold
    exact ⟨_, mem_rewrittenLines.mpr (Or.inr ⟨index, hmissing, rfl⟩),
      parseDomainIndex_canonicalLine⟩

/-- An unselected domain keeps exactly its lines. -/
theorem domainLines_rewritten_of_not (hs : domainSelected index present = false) :
    domainLines (rewrittenLines offsets present lines) index = domainLines lines index := by
  have hmissing : domainLines ((missingDomains present lines).map (canonicalLine offsets)) index =
      [] := by
    apply List.filter_eq_nil_iff.mpr
    intro line hline hp
    obtain ⟨other, hother, rfl⟩ := List.mem_map.mp hline
    rw [parseDomainIndex_canonicalLine, decide_eq_true_eq] at hp
    cases hp
    simp [missingDomains, hs] at hother
  unfold domainLines at hmissing ⊢
  rw [rewrittenLines, List.filter_append, hmissing, List.append_nil, List.filter_map]
  have hp : (fun line => decide (parseDomainIndex line = .domain index)) ∘
      rewrittenLine offsets present =
        fun line => decide (parseDomainIndex line = .domain index) := by
    funext line
    simp [parseDomainIndex_rewrittenLine]
  rw [hp]
  refine (List.map_congr_left fun line hline => ?_).trans (List.map_id _)
  have hdomain := (List.mem_filter.mp hline).2
  rw [decide_eq_true_eq] at hdomain
  simp [rewrittenLine, selectedIndex, hdomain, hs]

theorem loadLines_rewritten_ok_iff (hv : undervoltValidate offsets = .ok ()) {start : Offsets} :
    (loadLines (rewrittenLines offsets present lines) start).1 = .ok () ↔
      ∀ line ∈ lines, ∀ index, parseDomainIndex line = .domain index →
        domainSelected index present = false → (parseLastDouble line).isSome = true := by
  rw [loadLines_ok_iff]
  constructor
  · intro h line hline index hp hs
    apply h line _ index hp
    have hmem : line ∈ domainLines lines index := List.mem_filter.mpr ⟨hline, by simpa using hp⟩
    have hkept : domainLines (rewrittenLines offsets present lines) index =
        domainLines lines index := domainLines_rewritten_of_not hs
    rw [← hkept] at hmem
    exact (List.mem_filter.mp hmem).1
  · intro h line hline index hp
    cases hs : domainSelected index present with
    | true =>
      obtain ⟨value, hvalue, -⟩ := offset_of_valid hv index
      rw [eq_canonicalLine_of_mem hs hline hp, ← List.nil_append (canonicalLine offsets index),
        parseLastDouble_canonicalLine hv hvalue]
      rfl
    | false =>
      have hmem : line ∈ domainLines (rewrittenLines offsets present lines) index :=
        List.mem_filter.mpr ⟨hline, by simpa using hp⟩
      rw [domainLines_rewritten_of_not hs] at hmem
      exact h line (List.mem_filter.mp hmem).1 index hp hs

theorem lastOffset_rewritten (hv : undervoltValidate offsets = .ok ()) {value : ℚ}
    (hs : domainSelected index present = true) (hvalue : offsets index = .finite value) :
    lastOffset (rewrittenLines offsets present lines) index = some (.finite (roundTo 2 value)) := by
  have hne : domainLines (rewrittenLines offsets present lines) index ≠ [] :=
    domainLines_rewritten_ne_nil hs
  obtain ⟨last, hlast⟩ : ∃ last,
      (domainLines (rewrittenLines offsets present lines) index).getLast? = some last :=
    ⟨_, List.getLast?_eq_some_getLast hne⟩
  have hmem := List.mem_filter.mp (List.mem_of_getLast? hlast)
  have hcanonical := eq_canonicalLine_of_mem hs hmem.1 (by simpa using hmem.2)
  rw [lastOffset, hlast, Option.bind_some, hcanonical,
    ← List.nil_append (canonicalLine offsets index), parseLastDouble_canonicalLine hv hvalue]

theorem terminated_lines (h : source.LinesEnd) (hnul : source.NoNul) :
    ∀ line ∈ source.lines, Terminated line := by
  cases source with
  | missing =>
    have hheader : EndsInNewline generatedHeader := by decide +kernel
    exact hheader
  | unopenable path reason => simp [ConfigFile.lines]
  | readable contents =>
    rw [ConfigFile.lines, bufferedLines_of_noNul (hnul contents rfl)]
    exact h contents rfl

/-- The load goes over the rewritten lines. -/
theorem load_rewritten (hv : undervoltValidate offsets = .ok ()) (hnul : source.NoNul)
    (hterm : source.LinesEnd) :
    undervoltLoadConfig (.readable (rewrittenLines offsets present source.lines).flatten) =
      loadLines (rewrittenLines offsets present source.lines) undervoltDefaults := by
  have hterminated := terminated_lines hterm hnul
  simp only [undervoltLoadConfig, ConfigFile.fopen]
  rw [bufferedLines_of_noNul (noNul_rewritten hv hnul),
    getlines_rewritten_of_safe hv (isLines_of_terminated hterminated) (Or.inl hterminated)]

/-- A configuration that was just written is loaded back: selected domains hold their rounded
offsets, the others what the source had. -/
theorem load_rewrite (source : ConfigFile) (hnul : source.NoNul) (hterm : source.LinesEnd)
    (output : Output) (offsets : Offsets) (present : Mask)
    (h : (undervoltWriteConfigCopyMasked source output offsets present).1 = .ok ()) :
    ∃ text, (undervoltWriteConfigCopyMasked source output offsets present).2 = .stored text ∧
      ((undervoltLoadConfig (.readable text)).1 = .ok () ↔
        ∀ line ∈ source.lines, ∀ index, parseDomainIndex line = .domain index →
          domainSelected index present = false → (parseLastDouble line).isSome = true) ∧
      ((undervoltLoadConfig (.readable text)).1 = .ok () → ∀ index,
        (domainSelected index present = true → ∃ value, offsets index = .finite value ∧
          (undervoltLoadConfig (.readable text)).2 index = .finite (roundTo 2 value)) ∧
        (domainSelected index present = false →
          (undervoltLoadConfig (.readable text)).2 index =
            (lastOffset source.lines index).getD (.finite 0))) ∧
      (present = none → (undervoltLoadConfig (.readable text)).1 = .ok () ∧
        undervoltValidate (undervoltLoadConfig (.readable text)).2 = .ok ()) := by
  obtain ⟨hv, hstored⟩ := rewrite_ok h
  refine ⟨_, hstored, ?_⟩
  rw [load_rewritten hv hnul hterm]
  have hvalue : ∀ {index}, domainSelected index present = true →
      (loadLines (rewrittenLines offsets present source.lines) undervoltDefaults).1 = .ok () →
        ∀ {value}, offsets index = .finite value →
          (loadLines (rewrittenLines offsets present source.lines) undervoltDefaults).2 index =
            .finite (roundTo 2 value) := by
    intro index hs hok value hoffset
    rw [loadLines_value hok, lastOffset_rewritten hv hs hoffset, Option.getD_some]
  refine ⟨loadLines_rewritten_ok_iff hv, fun hok index => ⟨fun hs => ?_, fun hs => ?_⟩,
    fun hnone => ?_⟩
  · obtain ⟨value, hoffset, -⟩ := offset_of_valid hv index
    exact ⟨value, hoffset, hvalue hs hok hoffset⟩
  · rw [loadLines_value hok, lastOffset, domainLines_rewritten_of_not hs]
    rfl
  · have hall : ∀ index, domainSelected index present = true := by
      intro index
      rw [hnone]
      rfl
    have hok : (loadLines (rewrittenLines offsets present source.lines) undervoltDefaults).1 =
        .ok () := by
      rw [loadLines_rewritten_ok_iff hv]
      intro line _ index _ hs
      simp [hall index] at hs
    refine ⟨hok, undervoltValidate_ok_iff.mpr fun index => ?_⟩
    obtain ⟨value, hoffset, hlo, hhi⟩ := offset_of_valid hv index
    rw [hvalue (hall index) hok hoffset]
    exact not_outOfRange_iff.mpr (roundTo_range hlo hhi)

/-- One selected domain without a line, one unselected domain with two. -/
theorem load_rewrite_example :
    ∃ text, (undervoltWriteConfigCopyMasked
        (.readable "undervolt 1 'GPU' -2\nundervolt 1 -3.5\n".toList) .steady
        (fun _ => .finite (-60.557)) (some fun index => index = 0)).2 = .stored text ∧
      (undervoltLoadConfig (.readable text)).1 = .ok () ∧
      (undervoltLoadConfig (.readable text)).2 0 = .finite (-60.56) ∧
      (undervoltLoadConfig (.readable text)).2 1 = .finite (-3.5) := by
  obtain ⟨text, hstored, hok_iff, hvalue, -⟩ := load_rewrite
    (.readable "undervolt 1 'GPU' -2\nundervolt 1 -3.5\n".toList)
    (fun contents h => by
      cases h
      decide)
    (fun contents h => by
      cases h
      decide)
    .steady (fun _ => .finite (-60.557)) (some fun index => index = 0) (by decide +kernel)
  have hnumbers : (ConfigFile.readable
      "undervolt 1 'GPU' -2\nundervolt 1 -3.5\n".toList).lines.all
      (fun line => (parseLastDouble line).isSome) = true := by decide +kernel
  have hok := hok_iff.mpr fun line hline _ _ _ => List.all_eq_true.mp hnumbers line hline
  obtain ⟨value, hoffset, hrounded⟩ := (hvalue hok 0).1 (by decide)
  cases hoffset
  refine ⟨text, hstored, hok, ?_, ?_⟩
  · rw [hrounded]
    decide +kernel
  · rw [(hvalue hok 1).2 (by decide)]
    decide +kernel

end Rewritten

end CpuSwitch.Undervolt
