import CpuSwitch.CLib.Printed
import CpuSwitch.Undervolt.Model
import Mathlib.Tactic.FinCases

/-! The lines that a masked rewrite produces. -/
namespace CpuSwitch.Undervolt
open CLib

/-- The selected domain that a line sets, if any. -/
def selectedIndex (present : Mask) (line : Text) : Option (Fin 5) :=
  match parseDomainIndex line with
  | .domain index => if domainSelected index present then some index else none
  | _ => none

/-- The canonical line of a domain with its newline. -/
def canonicalLine (offsets : Offsets) (index : Fin 5) : Text :=
  domainText index (offsets index) ++ ['\n']

/-- What the copying loop makes of a line. -/
def rewrittenLine (offsets : Offsets) (present : Mask) (line : Text) : Text :=
  match selectedIndex present line with
  | some index => canonicalLine offsets index
  | none => line

/-- The selected domains without a line, in increasing order. -/
def missingDomains (present : Mask) (lines : List Text) : List (Fin 5) :=
  (List.finRange 5).filter fun index =>
    domainSelected index present && lines.all fun line => parseDomainIndex line ≠ .domain index

/-- The lines that the rewrite starts from. -/
def ConfigFile.lines : ConfigFile → List Text
  | .missing => getlines generatedHeader
  | .unopenable _ _ => []
  | .readable contents => bufferedLines contents

/-- Everything a rewrite writes, in order. -/
def rewrittenLines (offsets : Offsets) (present : Mask) (lines : List Text) : List Text :=
  lines.map (rewrittenLine offsets present) ++
    (missingDomains present lines).map (canonicalLine offsets)

theorem mem_rewrittenLines {offsets : Offsets} {present : Mask} {lines : List Text} {line : Text} :
    line ∈ rewrittenLines offsets present lines ↔
      (∃ old ∈ lines, rewrittenLine offsets present old = line) ∨
        ∃ index ∈ missingDomains present lines, canonicalLine offsets index = line := by
  rw [rewrittenLines, List.mem_append, List.mem_map, List.mem_map]

section Canonical
variable {offsets : Offsets} {present : Mask} {index : Fin 5} {value : ℚ} {line front : Text}
  {c : Char}

theorem undervoltValidate_ok_iff :
    undervoltValidate offsets = .ok () ↔ ∀ index, ¬ outOfRange (offsets index) := by
  unfold undervoltValidate
  cases hf : (List.finRange 5).find? fun index => outOfRange (offsets index) with
  | none => simpa using hf
  | some index =>
    simp only [reduceCtorEq, false_iff, not_forall, not_not]
    exact ⟨index, by simpa using List.find?_some hf⟩

theorem not_outOfRange_iff : ¬ outOfRange (.finite value) ↔ -150 ≤ value ∧ value ≤ 0 := by
  simp [outOfRange, undervoltMinMv, undervoltMaxMv]

/-- A validated offset is a number in the supported range. -/
theorem offset_of_valid (h : undervoltValidate offsets = .ok ()) (index : Fin 5) :
    ∃ value, offsets index = .finite value ∧ -150 ≤ value ∧ value ≤ 0 := by
  have hin := undervoltValidate_ok_iff.mp h index
  cases ho : offsets index with
  | finite value =>
    rw [ho] at hin
    exact ⟨value, rfl, not_outOfRange_iff.mp hin⟩
  | posInf => simp [outOfRange, ho, Double.isfinite] at hin
  | negInf => simp [outOfRange, ho, Double.isfinite] at hin
  | nan => simp [outOfRange, ho, Double.isfinite] at hin

/-- Rounding to two decimals does not leave the supported range. -/
theorem roundTo_range (hlo : -150 ≤ value) (hhi : value ≤ 0) :
    -150 ≤ roundTo 2 value ∧ roundTo 2 value ≤ 0 := by
  have hmin : roundTo 2 (-150 : ℚ) = -150 := roundTo_of_units (n := -15000) (by norm_num)
  exact ⟨hmin ▸ roundTo_mono hlo, roundTo_nonpos hhi⟩

theorem moderate_of_range (hlo : -150 ≤ value) (hhi : value ≤ 0) : Moderate 2 value :=
  ⟨by decide, by
    rw [abs_of_nonpos hhi]
    linarith⟩

theorem parseDomainIndex_canonicalLine :
    parseDomainIndex (canonicalLine offsets index) = .domain index := by
  fin_cases index <;> rfl

theorem numeral_of_valid (h : undervoltValidate offsets = .ok ()) (index : Fin 5) :
    ∀ c ∈ (formatFixed 2 (offsets index)).take 63, isNumeral c = true := by
  obtain ⟨value, hv, -⟩ := offset_of_valid h index
  intro c hc
  rw [hv] at hc
  exact isNumeral_formatFixed c (List.mem_of_mem_take hc)

/-- A control character is nowhere in the text of a domain. -/
theorem notMem_domainText (h : undervoltValidate offsets = .ok ())
    (hc : c = '\n' ∨ c = '\x00') : c ∉ domainText index (offsets index) := by
  have hnum : c ∉ (formatFixed 2 (offsets index)).take 63 := by
    intro hmem
    have hn := numeral_of_valid h index c hmem
    rcases hc with rfl | rfl <;> exact absurd hn (by decide)
  have hname : c ∉ (undervoltDomainNames index).toList := by
    rcases hc with rfl | rfl <;> fin_cases index <;> decide
  have hdigits : c ∉ Nat.toDigits 10 index := by
    intro hmem
    have hd := isDigit_toDigits c hmem
    rcases hc with rfl | rfl <;> exact absurd hd (by decide)
  unfold domainText
  simp only [List.mem_append, not_or]
  refine ⟨⟨⟨⟨⟨?_, hdigits⟩, ?_⟩, hname⟩, ?_⟩, hnum⟩ <;> rcases hc with rfl | rfl <;> decide

theorem terminated_canonicalLine (h : undervoltValidate offsets = .ok ()) :
    Terminated (canonicalLine offsets index) :=
  ⟨_, notMem_domainText h (Or.inl rfl), rfl⟩

theorem noNul_canonicalLine (h : undervoltValidate offsets = .ok ()) :
    '\x00' ∉ canonicalLine offsets index := by
  rw [canonicalLine, List.mem_append, not_or]
  exact ⟨notMem_domainText h (Or.inr rfl), by decide⟩

/-- Whatever stands before it, a canonical line ends in its rounded offset. -/
theorem parseLastDouble_canonicalLine (h : undervoltValidate offsets = .ok ())
    (hv : offsets index = .finite value) (front : Text) :
    parseLastDouble (front ++ canonicalLine offsets index) = some (.finite (roundTo 2 value)) := by
  obtain ⟨other, ho, hlo, hhi⟩ := offset_of_valid h index
  obtain rfl : value = other := Double.finite.inj (hv.symm.trans ho)
  have hm := moderate_of_range hlo hhi
  have hlength : (formatFixed 2 (.finite value)).length ≤ 10 := length_formatFixed_le hm
  have htake : (formatFixed 2 (.finite value)).take 63 = formatFixed 2 (.finite value) :=
    List.take_of_length_le (by omega)
  have hread : strtod (formatFixed 2 (.finite value)) =
      some ⟨.finite (roundTo 2 value), [], false⟩ := by
    have := strtod_formatFixed stops_nil (rangeError_roundTo hm)
    rwa [List.append_nil] at this
  have hne : formatFixed 2 (.finite value) ≠ [] := by
    intro hnil
    rw [hnil] at hread
    cases hread
  have htoken : lastToken (front ++ canonicalLine offsets index) =
      formatFixed 2 (.finite value) := by
    have hsplit : front ++ canonicalLine offsets index =
        (front ++ ("undervolt ".toList ++ Nat.toDigits 10 index ++ " '".toList ++
          (undervoltDomainNames index).toList ++ ['\''])) ++
            ' ' :: (formatFixed 2 (.finite value) ++ ['\n']) := by
      unfold canonicalLine domainText
      rw [hv, htake]
      simp
    rw [hsplit]
    exact lastToken_append (by decide) isspace_newline
      (fun c hc => not_isspace_of_isNumeral (isNumeral_formatFixed c hc)) hne
  have hshort : ¬ (formatFixed 2 (.finite value) = [] ∨
      64 ≤ (formatFixed 2 (.finite value)).length) := by
    rw [not_or]
    exact ⟨hne, by omega⟩
  simp [parseLastDouble, htoken, hshort, hread]

end Canonical

section Copy
variable {accepts : ℕ → Bool} {offsets : Offsets} {present : Mask} {copy copy' : Copy}
  {stream stream' : Stream} {lines : List Text} {line : Text} {index : Fin 5}

theorem selectedIndex_eq_some_iff :
    selectedIndex present line = some index ↔
      parseDomainIndex line = .domain index ∧ domainSelected index present = true := by
  unfold selectedIndex
  split
  · rename_i other hother
    by_cases hs : domainSelected other present
    · simp only [hs, if_true, Option.some.injEq, hother, DomainLine.domain.injEq]
      constructor
      · rintro rfl
        exact ⟨rfl, hs⟩
      · exact fun h => h.1
    · simp only [hs, Bool.false_eq_true, if_false, reduceCtorEq, hother, DomainLine.domain.injEq,
        false_iff, not_and]
      rintro rfl
      exact hs
  · rename_i hother
    simp only [reduceCtorEq, false_iff, not_and]
    exact fun h => (hother index h).elim

/-- One round writes the rewritten line and marks its domain. -/
theorem copyLine_spec (h : copyLine accepts offsets present copy line = some copy') :
    copy'.stream.text = copy.stream.text ++ rewrittenLine offsets present line ∧
      ∀ index, copy'.written index =
        (copy.written index || selectedIndex present line = some index) := by
  have hkeep : ∀ {copy' : Copy}, selectedIndex present line = none →
      (fputs accepts copy.stream line).map (fun stream => { copy with stream }) = some copy' →
        copy'.stream.text = copy.stream.text ++ rewrittenLine offsets present line ∧
          ∀ index, copy'.written index =
            (copy.written index || selectedIndex present line = some index) := by
    intro copy' hnone hkeep
    obtain ⟨stream, hs, rfl⟩ := Option.map_eq_some_iff.mp hkeep
    simp [rewrittenLine, hnone, fputs_text hs]
  unfold copyLine at h
  cases hp : parseDomainIndex line with
  | other => exact hkeep (by simp [selectedIndex, hp]) (by simpa [hp] using h)
  | invalid => exact hkeep (by simp [selectedIndex, hp]) (by simpa [hp] using h)
  | domain found =>
    by_cases hsel : domainSelected found present = true
    · have hsome : selectedIndex present line = some found := by simp [selectedIndex, hp, hsel]
      simp only [hp, hsel, if_true] at h
      obtain ⟨stream, hs, rfl⟩ := Option.map_eq_some_iff.mp h
      refine ⟨?_, fun index => ?_⟩
      · rw [fputs_text hs]
        simp [rewrittenLine, hsome, canonicalLine]
      · by_cases hi : index = found
        · simp [hsome, hi]
        · simp [hsome, hi, Ne.symm hi]
    · have hnone : selectedIndex present line = none := by simp [selectedIndex, hp, hsel]
      exact hkeep hnone (by simpa [hp, hsel] using h)

theorem copyLines_text
    (h : lines.foldlM (copyLine accepts offsets present) copy = some copy') :
    copy'.stream.text =
      copy.stream.text ++ lines.flatMap (rewrittenLine offsets present) :=
  foldlM_text (fun copy : Copy => copy.stream.text) (fun _ _ _ hstep => (copyLine_spec hstep).1) h

/-- The bookkeeping of the loop: a selected domain is marked by any of its lines. -/
theorem copyLines_written
    (h : lines.foldlM (copyLine accepts offsets present) copy = some copy') (index : Fin 5) :
    copy'.written index =
      (copy.written index || lines.any fun line => selectedIndex present line = some index) := by
  induction lines generalizing copy with
  | nil =>
    cases h
    simp
  | cons line lines ih =>
    rw [List.foldlM_cons] at h
    obtain ⟨next, hnext, hrest⟩ := Option.bind_eq_some_iff.mp h
    rw [ih hrest, (copyLine_spec hnext).2, List.any_cons, Bool.or_assoc]

theorem appendMissing_text (h : appendMissing accepts offsets present copy = some stream) :
    stream.text = copy.stream.text ++
      ((List.finRange 5).filter fun index =>
        domainSelected index present && !copy.written index).flatMap (canonicalLine offsets) := by
  have hstep : ∀ stream index stream',
      appendDomain accepts offsets present copy.written stream index = some stream' →
        stream'.text = stream.text ++
          if domainSelected index present && !copy.written index then canonicalLine offsets index
          else [] := by
    intro stream index stream' h
    unfold appendDomain at h
    split_ifs at h with hc
    · simp [fputs_text h, hc, canonicalLine]
    · cases h
      have hc' : (domainSelected index present && !copy.written index) = false := by
        simpa using hc
      simp [hc']
  rw [foldlM_text Stream.text hstep h, List.append_cancel_left_eq]
  induction List.finRange 5 with
  | nil => rfl
  | cons index indices ih =>
    rw [List.flatMap_cons, ih, List.filter_cons]
    split_ifs <;> simp

theorem written_eq_missing (h : ∀ index, copy.written index =
    lines.any fun line => selectedIndex present line = some index) :
    ((List.finRange 5).filter fun index =>
      domainSelected index present && !copy.written index) = missingDomains present lines := by
  apply List.filter_congr
  intro index _
  cases hs : domainSelected index present with
  | false => rfl
  | true =>
    rw [h, Bool.true_and, Bool.true_and, List.not_any_eq_all_not]
    simp [selectedIndex_eq_some_iff, hs]

theorem parseDomainIndex_header : ∀ line ∈ getlines generatedHeader,
    parseDomainIndex line = .other := by decide +kernel

theorem copyInput_spec {source : ConfigFile} {input : Option Text}
    (hopen : source.fopen = .ok input)
    (h : copyInput accepts offsets present input = some copy) :
    copy.stream.text = source.lines.flatMap (rewrittenLine offsets present) ∧
      ∀ index, copy.written index =
        source.lines.any fun line => selectedIndex present line = some index := by
  cases source with
  | unopenable path reason => cases hopen
  | readable contents =>
    cases hopen
    refine ⟨copyLines_text h, fun index => ?_⟩
    rw [copyLines_written h]
    rfl
  | missing =>
    cases hopen
    obtain ⟨stream, hs, rfl⟩ := Option.map_eq_some_iff.mp h
    have hnone : ∀ line ∈ getlines generatedHeader, selectedIndex present line = none := by
      intro line hl
      simp [selectedIndex, parseDomainIndex_header line hl]
    have hsame : (getlines generatedHeader).flatMap (rewrittenLine offsets present) =
        (getlines generatedHeader).flatMap id := by
      apply List.flatMap_congr
      intro line hl
      simp [rewrittenLine, hnone line hl]
    refine ⟨?_, fun index => ?_⟩
    · rw [ConfigFile.lines, hsame, List.flatMap_id, flatten_getlines, fputs_text hs]
      rfl
    · apply Eq.symm
      rw [ConfigFile.lines]
      refine List.any_eq_false.mpr fun line hl => ?_
      simp [hnone line hl]

/-- A rewrite that succeeds stores exactly the rewritten lines. -/
theorem rewrite_ok {source : ConfigFile} {output : Output}
    (h : (undervoltWriteConfigCopyMasked source output offsets present).1 = .ok ()) :
    undervoltValidate offsets = .ok () ∧
      (undervoltWriteConfigCopyMasked source output offsets present).2 =
        .stored (rewrittenLines offsets present source.lines).flatten := by
  unfold undervoltWriteConfigCopyMasked at h ⊢
  cases hv : undervoltValidate offsets with
  | error message => simp [hv] at h
  | ok _ =>
    cases hopen : source.fopen with
    | error message => simp [hv, hopen] at h
    | ok input =>
      cases hcreate : output.createError with
      | some reason => simp [hv, hopen, hcreate] at h
      | none =>
        cases hcopy : copyInput output.accepts offsets present input with
        | none => simp [hv, hopen, hcreate, hcopy] at h
        | some copy =>
          cases happend : appendMissing output.accepts offsets present copy with
          | none => simp [hv, hopen, hcreate, hcopy, happend] at h
          | some stream =>
            have hcloses : output.closes = true := by
              by_contra hno
              simp [hv, hopen, hcreate, hcopy, happend, hno] at h
            obtain ⟨htext, hwritten⟩ := copyInput_spec hopen hcopy
            have htotal := appendMissing_text happend
            rw [htext, written_eq_missing hwritten] at htotal
            simp only [hcopy, Option.bind_some, happend, hcloses, if_true, htotal]
            exact ⟨trivial, by simp [rewrittenLines, List.flatMap_def]⟩

end Copy

end CpuSwitch.Undervolt
