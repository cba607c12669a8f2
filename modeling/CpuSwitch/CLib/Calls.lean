import CpuSwitch.CLib.Scan
import CpuSwitch.CLib.Search

/-! A file read to its end by calls of `fgets`: the buffers are pieces of lines. -/
namespace CLib

/-- The buffers of at most so many successive calls of `fgets`. -/
def fgetsCalls (size : ℕ) : ℕ → Text → List Text
  | 0, _ => []
  | calls + 1, text =>
    match fgets size text with
    | none => []
    | some buffer => buffer :: fgetsCalls size calls (text.drop buffer.length)

/-- The buffers of all calls up to the end of the file; no call comes back empty-handed before. -/
def fgetsAll (size : ℕ) (text : Text) : List Text := fgetsCalls size text.length text

variable {text line buffer needle : Text} {lines : List Text} {size calls n : ℕ}

theorem isLines_tail (h : IsLines (line :: lines)) : IsLines lines := by
  cases lines with
  | nil => trivial
  | cons next lines => exact h.2

theorem terminated_drop (h : Terminated line) (hn : n < line.length) :
    Terminated (line.drop n) := by
  obtain ⟨body, hbody, rfl⟩ := h
  rw [List.length_append, List.length_singleton] at hn
  refine ⟨body.drop n, fun hm => hbody (List.mem_of_mem_drop hm), ?_⟩
  rw [List.drop_append_of_le_length (by omega)]

theorem unterminated_drop (h : Unterminated line) (hn : n < line.length) :
    Unterminated (line.drop n) :=
  ⟨by simpa using hn, fun hm => h.2 (List.mem_of_mem_drop hm)⟩

/-- What is left of the first line, with the lines behind it, is again a sequence of lines. -/
theorem isLines_drop (h : IsLines (line :: lines)) (hn : n < line.length) :
    IsLines (line.drop n :: lines) := by
  cases lines with
  | nil => exact h.imp (fun ht => terminated_drop ht hn) fun hu => unterminated_drop hu hn
  | cons next lines => exact ⟨terminated_drop h.1 hn, h.2⟩

theorem ne_nil_of_isLines (h : IsLines (line :: lines)) : line ≠ [] := by
  have hne : Terminated line → line ≠ [] := by
    rintro ⟨body, -, rfl⟩
    simp
  cases lines with
  | nil => exact h.elim hne And.left
  | cons next lines => exact hne h.1

/-- The lines behind what one call has read. -/
theorem getlines_drop (h : getlines text = line :: lines) :
    getlines (text.drop n) = if n < line.length then line.drop n :: lines
      else getlines (lines.flatten.drop (n - line.length)) := by
  have hlines : IsLines (line :: lines) := h ▸ isLines_getlines text
  have htext : text = line ++ lines.flatten := by
    rw [← List.flatten_cons, ← h, flatten_getlines]
  rw [htext, List.drop_append]
  split_ifs with hn
  · have hzero : n - line.length = 0 := by omega
    rw [hzero, List.drop_zero, ← List.flatten_cons, getlines_flatten (isLines_drop hlines hn)]
  · rw [List.drop_eq_nil_of_le (by omega), List.nil_append]

theorem fgets_of_lines (h : getlines text = line :: lines) :
    fgets size text = some (line.take (size - 1)) := by
  rw [fgets, h]
  rfl

/-- The next call goes on within the first line, or with the second one. -/
theorem getlines_next (h : getlines text = line :: lines) :
    getlines (text.drop (line.take (size - 1)).length) =
      if size - 1 < line.length then line.drop (size - 1) :: lines else lines := by
  have hlines : IsLines lines := isLines_tail (h ▸ isLines_getlines text)
  rw [getlines_drop h, List.length_take]
  by_cases hshort : size - 1 < line.length
  · rw [min_eq_left hshort.le, if_pos hshort, if_pos hshort]
  · rw [min_eq_right (not_lt.mp hshort), if_neg (lt_irrefl _), if_neg hshort, Nat.sub_self,
      List.drop_zero, getlines_flatten hlines]

/-- Every buffer is a piece of one line. -/
theorem infix_of_mem_fgetsCalls (h : buffer ∈ fgetsCalls size calls text) :
    ∃ line ∈ getlines text, buffer <:+: line := by
  induction calls generalizing text with
  | zero => cases h
  | succ calls ih =>
    rw [fgetsCalls] at h
    cases hl : getlines text with
    | nil =>
      rw [fgets, hl] at h
      cases h
    | cons line lines =>
      rw [fgets_of_lines hl] at h
      rcases List.mem_cons.mp h with rfl | h
      · exact ⟨line, List.mem_cons_self, (List.take_prefix _ _).isInfix⟩
      · obtain ⟨other, hother, hinfix⟩ := ih h
        rw [getlines_next hl] at hother
        split_ifs at hother
        · rcases List.mem_cons.mp hother with rfl | hother
          · exact ⟨line, List.mem_cons_self, hinfix.trans (List.drop_suffix _ _).isInfix⟩
          · exact ⟨other, List.mem_cons_of_mem _ hother, hinfix⟩
        · exact ⟨other, List.mem_cons_of_mem _ hother, hinfix⟩

/-- A line that fits the buffer is read by a call of its own. -/
theorem mem_fgetsCalls (hsize : 1 < size) (hcalls : text.length ≤ calls)
    (hline : line ∈ getlines text) (hfits : line.length < size) :
    line ∈ fgetsCalls size calls text := by
  induction calls generalizing text with
  | zero =>
    rw [List.length_eq_zero_iff.mp (Nat.le_zero.mp hcalls)] at hline
    cases hline
  | succ calls ih =>
    rw [fgetsCalls]
    cases hl : getlines text with
    | nil =>
      rw [hl] at hline
      cases hline
    | cons first lines =>
      rw [hl] at hline
      rw [fgets_of_lines hl]
      rcases List.mem_cons.mp hline with rfl | hline
      · rw [List.take_of_length_le (by omega)]
        exact List.mem_cons_self
      · have hne : first ≠ [] := ne_nil_of_isLines (hl ▸ isLines_getlines text)
        have hread : 0 < (first.take (size - 1)).length := by
          have hpos := List.length_pos_iff.mpr hne
          rw [List.length_take]
          omega
        refine List.mem_cons_of_mem _ (ih ?_ ?_)
        · rw [List.length_drop]
          omega
        · rw [getlines_next hl]
          split_ifs
          · exact List.mem_cons_of_mem _ hline
          · exact hline

theorem isSome_strstr_iff : (strstr text needle).isSome = true ↔ needle <:+: text := by
  induction text with
  | nil =>
    rw [strstr]
    by_cases h : needle = []
    · simp [h]
    · simp [h, List.isPrefixOf_iff_prefix]
  | cons c text ih =>
    rw [List.infix_cons_iff, strstr]
    by_cases h : needle <+: c :: text
    · simp [h, List.isPrefixOf_iff_prefix]
    · simp [h, List.isPrefixOf_iff_prefix, ih]

end CLib
