import CpuSwitch.CLib.Literal
import CpuSwitch.CLib.Search
import CpuSwitch.Undervolt.Report
import Mathlib.Tactic.FinCases

/-! The lines of a report of the backend, and what the search for the markers makes of them. -/
namespace CpuSwitch.Undervolt
open CLib

/-- The text that `reportedOffset` searches for. -/
def marker (index : Fin 5) : Text := '(' :: Nat.toDigits 10 index ++ "):".toList

/-- A line of the report: a voltage, a failed domain, or anything else. -/
inductive ReportLine where
  | reading (name : Text) (index : Fin 5) (value : DecimalLiteral)
  | failure (name : Text) (index : Fin 5) (text : Text)
  | other (text : Text)

namespace ReportLine

/-- The line without its newline. -/
def text : ReportLine → Text
  | reading name index value => name ++ ' ' :: (marker index ++ ' ' :: (value.text ++ " mV".toList))
  | failure name index text => name ++ ' ' :: (marker index ++ ' ' :: text)
  | other text => text

def index? : ReportLine → Option (Fin 5)
  | reading _ index _ => some index
  | failure _ index _ => some index
  | other _ => none

def offset? : ReportLine → Option Double
  | reading _ _ value => some (.finite value.value)
  | failure _ _ _ => none
  | other _ => none

end ReportLine

/-- A piece of one line of a C string, without a marker. -/
structure Unmarked (text : Text) : Prop where
  newline : '\n' ∉ text
  noNul : '\x00' ∉ text
  marker : ∀ index, ¬ marker index <:+: text

def ReportLine.WellFormed : ReportLine → Prop
  | reading name _ value => Unmarked name ∧ rangeError value.magnitude = false
  | failure name _ text =>
    Unmarked name ∧ Unmarked text ∧ (∃ c ∈ text.head?, isspace c = false) ∧ strtod text = none
  | other text => Unmarked text

def reportText (lines : List ReportLine) : Text := lines.flatMap fun line => line.text ++ ['\n']

/-- Every line is well-formed, and no domain has two. -/
structure WellFormedReport (lines : List ReportLine) : Prop where
  distinct : (lines.filterMap ReportLine.index?).Nodup
  wellFormed : ∀ line ∈ lines, line.WellFormed

section Line
variable {name body rest text : Text} {index other : Fin 5} {line : ReportLine}

theorem marker_foreign (index : Fin 5) : ' ' ∉ marker index ∧ '\n' ∉ marker index ∧
    '\x00' ∉ marker index ∧ marker index ≠ [] := by
  fin_cases index <;> decide

theorem not_marker_infix_marker (h : other ≠ index) : ¬ marker other <:+: marker index := by
  revert h
  fin_cases other <;> fin_cases index <;> decide

/-- The bytes of a literal do not open a marker. -/
theorem not_marker_infix_literal (value : DecimalLiteral) :
    ¬ marker index <:+: value.text ++ " mV".toList := by
  intro h
  have hopen : '(' ∈ value.text ++ " mV".toList := h.subset List.mem_cons_self
  rcases List.mem_append.mp hopen with hopen | hopen
  · exact absurd (value.isDecimalByte_text _ hopen) (by decide)
  · exact absurd hopen (by decide)

/-- A line with a marker is passed over by the search for another one. -/
theorem strstr_marked_of_ne (hname : Unmarked name) (hbody : ¬ marker other <:+: body)
    (h : other ≠ index) :
    strstr (name ++ ' ' :: (marker index ++ ' ' :: (body ++ '\n' :: rest))) (marker other) =
      strstr rest (marker other) := by
  obtain ⟨hspace, hnewline, -, hne⟩ := marker_foreign other
  rw [strstr_piece hspace hne (hname.marker other),
    strstr_piece hspace hne (not_marker_infix_marker h), strstr_piece hnewline hne hbody]

theorem strstr_marked (hname : Unmarked name) :
    strstr (name ++ ' ' :: (marker index ++ body)) (marker index) =
      some (marker index ++ body) := by
  obtain ⟨hspace, -, -, hne⟩ := marker_foreign index
  rw [strstr_piece hspace hne (hname.marker index), strstr_self_append]

theorem reportedOffset_eq (text : Text) (index : Fin 5) : reportedOffset text index =
    (strstr text (marker index)).bind fun position =>
      (strtod (position.drop (marker index).length)).bind fun parsed =>
        if parsed.rangeError = false ∧ parsed.value.isfinite = true then some parsed.value
        else none := rfl

theorem reportedOffset_congr (h : strstr text (marker index) = strstr rest (marker index)) :
    reportedOffset text index = reportedOffset rest index := by
  rw [reportedOffset_eq, reportedOffset_eq, h]

theorem reportedOffset_marked (hname : Unmarked name) :
    reportedOffset (name ++ ' ' :: (marker index ++ ' ' :: body)) index =
      (strtod body).bind fun parsed =>
        if parsed.rangeError = false ∧ parsed.value.isfinite = true then some parsed.value
        else none := by
  rw [reportedOffset_eq, strstr_marked hname, Option.bind_some, List.drop_left,
    ← List.singleton_append, strtod_blanks (List.all_eq_true.mp (by decide))]

/-- One line answers for its own domain and leaves the others to the lines after it. -/
theorem reportedOffset_line (h : line.WellFormed) :
    reportedOffset (line.text ++ '\n' :: rest) index =
      if line.index? = some index then line.offset? else reportedOffset rest index := by
  cases line with
  | other text =>
    obtain ⟨-, hnewline, -, hne⟩ := marker_foreign index
    exact reportedOffset_congr (strstr_piece hnewline hne (h.marker index))
  | reading name found value =>
    obtain ⟨hname, hrange⟩ := h
    have hsplit : (ReportLine.reading name found value).text ++ '\n' :: rest =
        name ++ ' ' :: (marker found ++ ' ' :: ((value.text ++ " mV".toList) ++ '\n' :: rest)) := by
      simp [ReportLine.text]
    rw [hsplit, ReportLine.index?, ReportLine.offset?]
    by_cases hi : found = index
    · subst hi
      have hends : Ends (" mV".toList ++ '\n' :: rest) := stops_cons.mpr (by decide)
      rw [reportedOffset_marked hname, if_pos rfl, List.append_assoc,
        strtod_literal_append value hends, value.converted_eq hrange, hrange]
      rfl
    · rw [if_neg (by simpa using hi)]
      exact reportedOffset_congr
        (strstr_marked_of_ne hname (not_marker_infix_literal value) (Ne.symm hi))
  | failure name found text =>
    obtain ⟨hname, htext, ⟨c, hc, hspace⟩, hnone⟩ := h
    have hsplit : (ReportLine.failure name found text).text ++ '\n' :: rest =
        name ++ ' ' :: (marker found ++ ' ' :: (text ++ '\n' :: rest)) := by
      simp [ReportLine.text]
    rw [hsplit, ReportLine.index?, ReportLine.offset?]
    by_cases hi : found = index
    · subst hi
      -- The text keeps the conversion from running on into the next line.
      have hskip : skipSpace text ≠ [] :=
        exists_not_space_iff.mpr ⟨c, List.mem_of_mem_head? hc, hspace⟩
      have hends : Ends ('\n' :: rest) := stops_cons.mpr (by decide)
      rw [reportedOffset_marked hname, if_pos rfl, strtod_append hends (Or.inr hskip), hnone]
      rfl
    · rw [if_neg (by simpa using hi)]
      exact reportedOffset_congr
        (strstr_marked_of_ne hname (htext.marker index) (Ne.symm hi))

end Line

section Report
variable {lines lines' : List ReportLine} {index : Fin 5} {offsets : Offsets} {line : ReportLine}

/-- The first line of a domain decides about it. -/
theorem reportedOffset_reportText (h : ∀ line ∈ lines, line.WellFormed) :
    reportedOffset (reportText lines) index =
      (lines.find? fun line => line.index? = some index).bind ReportLine.offset? := by
  induction lines with
  | nil =>
    have hempty : reportText [] = [] := rfl
    rw [hempty, reportedOffset_eq, strstr_nil (marker_foreign index).2.2.2]
    rfl
  | cons line lines ih =>
    have hrest := ih fun other hother => h other (List.mem_cons_of_mem _ hother)
    have htext : reportText (line :: lines) = line.text ++ '\n' :: reportText lines := by
      simp [reportText]
    rw [htext, reportedOffset_line (h line List.mem_cons_self), hrest, List.find?_cons]
    split_ifs with hi
    · simp [hi]
    · simp [hi]

/-- Two lines of one domain are the same line. -/
theorem WellFormedReport.eq_of_index (h : WellFormedReport lines) {other : ReportLine}
    (hline : line ∈ lines) (hother : other ∈ lines) (hi : line.index? = some index)
    (ho : other.index? = some index) : line = other := by
  by_contra hne
  have hpairs := List.pairwise_filterMap.mp h.distinct
  have : Std.Symm fun line other : ReportLine =>
      ∀ i, line.index? = some i → ∀ j, other.index? = some j → i ≠ j :=
    ⟨fun _ _ hr i hi j hj => (hr j hj i hi).symm⟩
  exact hpairs.forall hline hother hne index hi index ho rfl

theorem reportedOffset_eq_some_iff (h : WellFormedReport lines) {value : Double} :
    reportedOffset (reportText lines) index = some value ↔
      ∃ line ∈ lines, line.index? = some index ∧ line.offset? = some value := by
  rw [reportedOffset_reportText h.wellFormed]
  constructor
  · intro hread
    obtain ⟨line, hfind, hvalue⟩ := Option.bind_eq_some_iff.mp hread
    exact ⟨line, List.mem_of_find?_eq_some hfind, by simpa using List.find?_some hfind, hvalue⟩
  · rintro ⟨line, hline, hi, hvalue⟩
    cases hfind : lines.find? fun line => line.index? = some index with
    | none => exact absurd hi (by simpa using List.find?_eq_none.mp hfind line hline)
    | some first =>
      have hfirst : first.index? = some index := by simpa using List.find?_some hfind
      rw [h.eq_of_index (List.mem_of_find?_eq_some hfind) hline hfirst hi, Option.bind_some, hvalue]

theorem noNul_reportText (h : ∀ line ∈ lines, line.WellFormed) : '\x00' ∉ reportText lines := by
  have hbody : ∀ {name body : Text} {index : Fin 5}, Unmarked name → '\x00' ∉ body →
      '\x00' ∉ name ++ ' ' :: (marker index ++ ' ' :: body) := by
    intro name body index hname hbody
    simp [hname.noNul, (marker_foreign index).2.2.1, hbody]
  intro hmem
  obtain ⟨line, hline, hmem⟩ := List.mem_flatMap.mp hmem
  have hwell := h line hline
  rcases List.mem_append.mp hmem with hmem | hmem
  · cases line with
    | other text => exact hwell.noNul hmem
    | failure name index text => exact hbody hwell.1 hwell.2.1.noNul hmem
    | reading name index value =>
      refine hbody hwell.1 ?_ hmem
      rw [List.mem_append, not_or]
      exact ⟨fun hbyte => absurd (value.isDecimalByte_text _ hbyte) (by decide), by decide⟩
  · exact absurd hmem (by decide)

end Report

/-- Reading a report collects exactly the voltages that its lines give, in any order. -/
theorem parse_inverts_report (lines : List ReportLine) (offsets : Offsets)
    (h : WellFormedReport lines) :
    let report := undervoltParseReadOutputMasked (reportText lines) offsets
    (∀ index, report.present index = true ↔
        ∃ name value, ReportLine.reading name index value ∈ lines) ∧
      (∀ name index value, ReportLine.reading name index value ∈ lines →
        report.offsets index = .finite value.value) ∧
      (∀ index, report.present index = false → report.offsets index = offsets index) ∧
      report.found = (List.finRange 5).countP report.present ∧
      ∀ lines', lines'.Perm lines →
        undervoltParseReadOutputMasked (reportText lines') offsets = report := by
  have hread : ∀ {lines : List ReportLine}, WellFormedReport lines →
      undervoltParseReadOutputMasked (reportText lines) offsets =
        { found := (List.finRange 5).countP
            fun index => (reportedOffset (reportText lines) index).isSome
          offsets := fun index => (reportedOffset (reportText lines) index).getD (offsets index)
          present := fun index => (reportedOffset (reportText lines) index).isSome } := by
    intro lines h
    rw [undervoltParseReadOutputMasked_eq, cString_of_noNul (noNul_reportText h.wellFormed)]
  intro report
  simp only [report, hread h]
  refine ⟨fun index => ?_, fun name index value hline => ?_, fun index hnone => ?_, trivial, ?_⟩
  · rw [Option.isSome_iff_exists]
    constructor
    · rintro ⟨value, hvalue⟩
      obtain ⟨line, hline, hi, hoffset⟩ := (reportedOffset_eq_some_iff h).mp hvalue
      cases line with
      | reading name found value =>
        cases hi
        exact ⟨name, value, hline⟩
      | failure name found text => cases hoffset
      | other text => cases hoffset
    · rintro ⟨name, value, hline⟩
      exact ⟨_, (reportedOffset_eq_some_iff h).mpr ⟨_, hline, rfl, rfl⟩⟩
  · rw [(reportedOffset_eq_some_iff h).mpr ⟨_, hline, rfl, rfl⟩, Option.getD_some]
  · simp only [Option.isSome_eq_false_iff, Option.isNone_iff_eq_none] at hnone
    rw [hnone, Option.getD_none]
  · intro lines' hperm
    have h' : WellFormedReport lines' :=
      ⟨(hperm.filterMap _).nodup_iff.mpr h.distinct,
        fun line hline => h.wellFormed line (hperm.mem_iff.mp hline)⟩
    have hsame : reportedOffset (reportText lines') = reportedOffset (reportText lines) := by
      funext index
      apply Option.ext
      intro value
      rw [reportedOffset_eq_some_iff h', reportedOffset_eq_some_iff h]
      simp only [hperm.mem_iff]
    rw [hread h', hsame]

theorem parse_inverts_report_failed_domain :
    let report := undervoltParseReadOutputMasked
      "GPU (1): unsupported\nCPU (0): -70.31 mV\n".toList undervoltDefaults
    report.offsets 0 = .finite (-70.31) ∧ report.present 1 = false := by
  obtain ⟨value, htext, hvalue, hrange⟩ : ∃ value : DecimalLiteral,
      value.text = "-70.31".toList ∧ value.value = -70.31 ∧ rangeError value.magnitude = false :=
    ⟨⟨.minus, "70".toList, some "31".toList, none, List.all_eq_true.mp (by decide), by decide⟩,
      by decide, by decide +kernel, by decide +kernel⟩
  have hreport : WellFormedReport
      [.failure "GPU".toList 1 "unsupported".toList, .reading "CPU".toList 0 value] := by
    refine ⟨(by decide : ([1, 0] : List (Fin 5)).Nodup), ?_⟩
    rintro line (_ | ⟨_, _ | ⟨_, ⟨⟩⟩⟩)
    · exact ⟨⟨by decide, by decide, by decide⟩, ⟨by decide, by decide, by decide⟩,
        ⟨'u', rfl, by decide⟩, by decide +kernel⟩
    · exact ⟨⟨by decide, by decide, by decide⟩, hrange⟩
  have hlines : reportText
      [.failure "GPU".toList 1 "unsupported".toList, .reading "CPU".toList 0 value] =
        "GPU (1): unsupported\nCPU (0): -70.31 mV\n".toList := by
    simp only [reportText, List.flatMap_cons, List.flatMap_nil, ReportLine.text, htext]
    decide
  have hread := parse_inverts_report _ undervoltDefaults hreport
  rw [hlines] at hread
  obtain ⟨hpresent, hoffsets, -⟩ := hread
  refine ⟨hvalue ▸ hoffsets "CPU".toList 0 value (by simp), ?_⟩
  refine Bool.eq_false_iff.mpr fun hone => ?_
  obtain ⟨name, other, hline⟩ := (hpresent 1).mp hone
  simp at hline

end CpuSwitch.Undervolt
