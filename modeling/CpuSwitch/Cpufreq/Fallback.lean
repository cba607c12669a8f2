import CpuSwitch.Cpufreq.Intersection

/-! Two ways to adapt a frequency to a range: an end of the range, or the nearest frequency. -/
namespace CpuSwitch.Cpufreq
open CLib

/-- A frequency outside the range gives way to another one. -/
def Range.orElse (range : Range) (khz fallback : UInt64) : UInt64 :=
  if khz < range.lowest ∨ khz > range.highest then fallback else khz

section Range
variable {range : Range} {khz fallback : UInt64}

theorem Range.orElse_of_mem (h : khz ∈ range) : range.orElse khz fallback = khz :=
  if_neg (not_or.mpr ⟨not_lt.mpr h.1, not_lt.mpr h.2⟩)

theorem Range.orElse_of_lt (h : khz < range.lowest) : range.orElse khz fallback = fallback :=
  if_pos (Or.inl h)

theorem Range.orElse_of_gt (h : range.highest < khz) : range.orElse khz fallback = fallback :=
  if_pos (Or.inr h)

/-- A frequency is below the range, in it, or above it. -/
theorem Range.position (range : Range) (khz : UInt64) :
    khz < range.lowest ∨ khz ∈ range ∨ range.highest < khz := by
  by_cases hlo : khz < range.lowest
  · exact Or.inl hlo
  · by_cases hhi : range.highest < khz
    · exact Or.inr (Or.inr hhi)
    · exact Or.inr (Or.inl ⟨not_lt.mp hlo, not_lt.mp hhi⟩)

theorem Range.orElse_mem (h : fallback ∈ range) : range.orElse khz fallback ∈ range := by
  rcases range.position khz with hlo | hin | hhi
  · rwa [Range.orElse_of_lt hlo]
  · rwa [Range.orElse_of_mem hin]
  · rwa [Range.orElse_of_gt hhi]

theorem Range.orElse_ends_mem :
    range.orElse khz range.lowest ∈ range ∧ range.orElse khz range.highest ∈ range :=
  ⟨Range.orElse_mem Range.lowest_mem, Range.orElse_mem Range.highest_mem⟩

theorem Range.clamp_of_le (h : khz ≤ range.lowest) : range.clamp khz = range.lowest := by
  rw [Range.clamp, inf_eq_right.mpr (h.trans range.ordered), sup_eq_left.mpr h]

theorem Range.clamp_of_ge (h : range.highest ≤ khz) : range.clamp khz = range.highest := by
  rw [Range.clamp, inf_eq_left.mpr h, sup_eq_right.mpr range.ordered]

/-- The lower end is the nearest frequency unless the frequency lies above the range. -/
theorem Range.orElse_lowest_eq_clamp_iff :
    range.orElse khz range.lowest = range.clamp khz ↔
      khz ≤ range.highest ∨ range.lowest = range.highest := by
  rcases range.position khz with hlo | hin | hhi
  · rw [Range.orElse_of_lt hlo, Range.clamp_of_le hlo.le]
    exact iff_of_true rfl (Or.inl (hlo.le.trans range.ordered))
  · rw [Range.orElse_of_mem hin, Range.clamp_of_mem hin]
    exact iff_of_true rfl (Or.inl hin.2)
  · rw [Range.orElse_of_gt hhi, Range.clamp_of_ge hhi.le]
    exact ⟨Or.inr, fun h => h.resolve_left (not_le.mpr hhi)⟩

/-- The upper end is the nearest frequency unless the frequency lies below the range. -/
theorem Range.orElse_highest_eq_clamp_iff :
    range.orElse khz range.highest = range.clamp khz ↔
      range.lowest ≤ khz ∨ range.lowest = range.highest := by
  rcases range.position khz with hlo | hin | hhi
  · rw [Range.orElse_of_lt hlo, Range.clamp_of_le hlo.le]
    exact ⟨fun h => Or.inr h.symm, fun h => (h.resolve_left (not_le.mpr hlo)).symm⟩
  · rw [Range.orElse_of_mem hin, Range.clamp_of_mem hin]
    exact iff_of_true rfl (Or.inl hin.1)
  · rw [Range.orElse_of_gt hhi, Range.clamp_of_ge hhi.le]
    exact iff_of_true rfl (Or.inl (range.ordered.trans hhi.le))

end Range

end CpuSwitch.Cpufreq
