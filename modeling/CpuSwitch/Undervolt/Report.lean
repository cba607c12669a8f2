import CpuSwitch.Undervolt.Model

/-! What the loop over a report of the backend collects. -/
namespace CpuSwitch.Undervolt
open CLib

section
variable {output : Text} {report : Report} {index : Fin 5} {offsets : Offsets}

theorem readDomain_found :
    (readDomain output report index).found =
      report.found + if (reportedOffset output index).isSome then 1 else 0 := by
  unfold readDomain
  cases reportedOffset output index <;> rfl

theorem readDomain_offsets :
    (readDomain output report index).offsets = Function.update report.offsets index
      ((reportedOffset output index).getD (report.offsets index)) := by
  unfold readDomain
  cases reportedOffset output index <;> simp

theorem readDomain_present :
    (readDomain output report index).present = Function.update report.present index
      ((reportedOffset output index).isSome || report.present index) := by
  unfold readDomain
  cases reportedOffset output index <;> simp

theorem readDomain_foldl (output : Text) (indices : List (Fin 5)) (report : Report) :
    (indices.foldl (readDomain output) report).found =
        report.found + indices.countP (fun index => (reportedOffset output index).isSome) ∧
      ∀ index,
        (indices.foldl (readDomain output) report).offsets index =
          (if index ∈ indices then (reportedOffset output index).getD (report.offsets index)
            else report.offsets index) ∧
        (indices.foldl (readDomain output) report).present index =
          ((index ∈ indices && (reportedOffset output index).isSome) || report.present index) := by
  induction indices generalizing report with
  | nil => simp
  | cons first indices ih =>
    obtain ⟨hfound, hrest⟩ := ih (readDomain output report first)
    rw [List.foldl_cons]
    refine ⟨?_, fun index => ?_⟩
    · rw [hfound, readDomain_found, List.countP_cons]
      omega
    · rw [(hrest index).1, (hrest index).2, readDomain_offsets, readDomain_present]
      by_cases hi : index = first
      · subst hi
        cases reportedOffset output index <;> simp
      · simp [hi]

/-- The loop looks at each domain on its own. -/
theorem undervoltParseReadOutputMasked_eq :
    undervoltParseReadOutputMasked output offsets =
      { found := (List.finRange 5).countP
          fun index => (reportedOffset (cString output) index).isSome
        offsets := fun index => (reportedOffset (cString output) index).getD (offsets index)
        present := fun index => (reportedOffset (cString output) index).isSome } := by
  obtain ⟨hfound, hrest⟩ :=
    readDomain_foldl (cString output) (List.finRange 5) ⟨0, offsets, fun _ => false⟩
  simp only [List.mem_finRange, if_true, decide_true, Bool.true_and, Bool.or_false,
    Nat.zero_add] at hfound hrest
  exact Report.ext hfound (funext fun index => (hrest index).1)
    (funext fun index => (hrest index).2)

end

end CpuSwitch.Undervolt
