import CpuSwitch.Cpufreq.Detection

/-! The detected range as the intersection of the policies' ranges. -/
namespace CpuSwitch.Cpufreq
open CLib

/-- The variables behind the output pointers; the count's pointer may be NULL. -/
structure Outputs where
  minKhz : UInt64
  maxKhz : UInt64
  policyCount : Option ℕ
  deriving DecidableEq, Repr

/-- `cpu_linux_detect_frequency_range` with its pointers: they are written on success only. -/
def detectFrequencyRangeInto (k : Kernel) (dir : Directory) (out : Outputs) :
    Except String Unit × Outputs :=
  match cpuLinuxDetectFrequencyRange k dir with
  | .error message => (.error message, out)
  | .ok detected =>
    (.ok (),
      { minKhz := detected.minKhz
        maxKhz := detected.maxKhz
        policyCount := out.policyCount.map fun _ => detected.policyCount })

/-- The frequencies between two bounds. -/
instance : Membership UInt64 Range where
  mem range khz := range.lowest ≤ khz ∧ khz ≤ range.highest

theorem Range.lowest_mem {range : Range} : range.lowest ∈ range := ⟨le_rfl, range.ordered⟩

theorem Range.highest_mem {range : Range} : range.highest ∈ range := ⟨range.ordered, le_rfl⟩

theorem Range.clamp_mem {range : Range} {khz : UInt64} : range.clamp khz ∈ range :=
  ⟨range.lowest_le_clamp, range.clamp_le_highest⟩

/-- An entry called `policy` and a number, with two readable limits that are in order. -/
structure Usable (dir : Directory) (entry : DirName) (lowest highest : UInt64) : Prop where
  name : ∃ digits, digits ≠ [] ∧ (∀ c ∈ digits, c.isDigit = true) ∧
    entry.name = "policy".toList ++ digits
  min : dir.read entry .min = some lowest
  max : dir.read entry .max = some highest
  ordered : lowest ≤ highest

/-- The ranges of the usable policies, in the order of the directory. -/
def Directory.ranges (dir : Directory) : List Range := dir.policies.filterMap dir.range

/-- The frequency lies in the range of every usable policy. -/
def Common (dir : Directory) (khz : UInt64) : Prop :=
  ∀ entry ∈ dir.entries, ∀ lowest highest, Usable dir entry lowest highest →
    lowest ≤ khz ∧ khz ≤ highest

/-- What the loop knows after some usable policies. -/
structure Covers (common : Detected) (ranges : List Range) : Prop where
  count : common.policyCount = ranges.length
  bounds : ranges ≠ [] → ∀ khz,
    common.minKhz ≤ khz ∧ khz ≤ common.maxKhz ↔ ∀ range ∈ ranges, khz ∈ range

section Names
variable {dir : Directory} {entry : DirName} {name : Text} {lowest highest khz : UInt64}
  {range : Range}

theorem isPolicyName_iff : isPolicyName name = true ↔
    ∃ digits, digits ≠ [] ∧ (∀ c ∈ digits, c.isDigit = true) ∧
      name = "policy".toList ++ digits := by
  simp only [isPolicyName, Bool.and_eq_true, List.isPrefixOf_iff_prefix, decide_eq_true_eq,
    List.all_eq_true]
  constructor
  · rintro ⟨⟨⟨digits, rfl⟩, hne⟩, hall⟩
    exact ⟨digits, hne, hall, rfl⟩
  · rintro ⟨digits, hne, hall, rfl⟩
    exact ⟨⟨List.prefix_append _ _, hne⟩, hall⟩

theorem range_eq_some_iff : dir.range entry = some range ↔
    dir.read entry .min = some range.lowest ∧ dir.read entry .max = some range.highest := by
  unfold Directory.range
  cases dir.read entry .min with
  | none => simp
  | some lowest =>
    cases dir.read entry .max with
    | none => simp
    | some highest =>
      by_cases h : lowest ≤ highest
      · simp only [h, dif_pos, Option.some.injEq]
        constructor
        · rintro rfl
          exact ⟨rfl, rfl⟩
        · rintro ⟨rfl, rfl⟩
          rfl
      · simp only [h, dif_neg, not_false_eq_true, reduceCtorEq, Option.some.injEq, false_iff]
        rintro ⟨rfl, rfl⟩
        exact h range.ordered

theorem Usable.range_eq (h : Usable dir entry lowest highest) :
    dir.range entry = some ⟨lowest, highest, h.ordered⟩ := range_eq_some_iff.mpr ⟨h.min, h.max⟩

theorem usable_of_range (hp : entry ∈ dir.policies) (h : dir.range entry = some range) :
    Usable dir entry range.lowest range.highest := by
  obtain ⟨hmin, hmax⟩ := range_eq_some_iff.mp h
  exact ⟨isPolicyName_iff.mp (List.mem_filter.mp hp).2, hmin, hmax, range.ordered⟩

theorem Usable.mem_policies (h : Usable dir entry lowest highest) (he : entry ∈ dir.entries) :
    entry ∈ dir.policies := List.mem_filter.mpr ⟨he, isPolicyName_iff.mpr h.name⟩

theorem mem_ranges : range ∈ dir.ranges ↔
    ∃ entry ∈ dir.entries, Usable dir entry range.lowest range.highest := by
  constructor
  · intro h
    obtain ⟨entry, hp, hrange⟩ := List.mem_filterMap.mp h
    exact ⟨entry, (List.mem_filter.mp hp).1, usable_of_range hp hrange⟩
  · rintro ⟨entry, he, h⟩
    exact List.mem_filterMap.mpr ⟨entry, h.mem_policies he, h.range_eq⟩

theorem common_iff : Common dir khz ↔ ∀ range ∈ dir.ranges, khz ∈ range := by
  constructor
  · intro h range hrange
    obtain ⟨entry, he, husable⟩ := mem_ranges.mp hrange
    exact h entry he _ _ husable
  · intro h entry he lowest highest husable
    exact h ⟨lowest, highest, husable.ordered⟩ (mem_ranges.mpr ⟨entry, he, husable⟩)

theorem length_usablePolicies : dir.usablePolicies.length = dir.ranges.length := by
  unfold Directory.usablePolicies Directory.ranges
  induction dir.policies with
  | nil => rfl
  | cons policy policies ih =>
    cases h : dir.range policy with
    | none => simp [h, ih]
    | some range => simp [h, ih]

end Names

section Fold
variable {k : Kernel} {dir : Directory} {common : Detected} {ranges : List Range} {range : Range}
  {khz : UInt64} {policy : DirName}

theorem covers_nil : Covers ⟨0, UInt64.ofNat (2 ^ 64 - 1), 0⟩ [] :=
  ⟨rfl, fun h => (h rfl).elim⟩

theorem max_le_iff_ite {a b : UInt64} : (if a > b then a else b) ≤ khz ↔ b ≤ khz ∧ a ≤ khz := by
  split_ifs with h
  · exact ⟨fun ha => ⟨(le_of_lt h).trans ha, ha⟩, fun hb => hb.2⟩
  · exact ⟨fun hb => ⟨hb, (not_lt.mp h).trans hb⟩, fun hb => hb.1⟩

theorem le_min_iff_ite {a b : UInt64} : khz ≤ (if a < b then a else b) ↔ khz ≤ b ∧ khz ≤ a := by
  split_ifs with h
  · exact ⟨fun ha => ⟨ha.trans (le_of_lt h), ha⟩, fun hb => hb.2⟩
  · exact ⟨fun hb => ⟨hb, hb.trans (not_lt.mp h)⟩, fun hb => hb.1⟩

/-- One more usable policy narrows the range by its own. -/
theorem covers_meet (h : Covers common ranges) :
    Covers (common.meet range) (ranges ++ [range]) := by
  constructor
  · simp [Detected.meet, h.count]
  · intro _ khz
    rw [List.forall_mem_append, List.forall_mem_singleton]
    cases ranges with
    | nil =>
      have hzero : common.policyCount = 0 := h.count
      simp only [Detected.meet, hzero, true_or, if_true, List.not_mem_nil, false_implies,
        implies_true, true_and]
      rfl
    | cons first ranges =>
      have hne : common.policyCount ≠ 0 := by
        rw [h.count]
        simp
      rw [← h.bounds (by simp) khz]
      simp only [Detected.meet, hne, false_or, max_le_iff_ite, le_min_iff_ite]
      exact and_and_and_comm

theorem covers_foldl (entries : List DirName) (h : Covers common ranges) :
    Covers (entries.foldl (detectEntry .steady dir) common)
      (ranges ++ (entries.filter fun entry => isPolicyName entry.name).filterMap dir.range) := by
  induction entries generalizing common ranges with
  | nil => simpa using h
  | cons entry entries ih =>
    rw [List.foldl_cons, detectEntry_eq fun _ _ => rfl]
    by_cases hp : isPolicyName entry.name
    · cases hrange : dir.range entry with
      | none =>
        simpa [hp, hrange] using ih h
      | some range =>
        simpa [hp, hrange] using ih (covers_meet h)
    · simpa [hp] using ih h

/-- What a detection leaves behind, in terms of the ranges it met. -/
theorem detect_covers (dir : Directory) :
    Covers (dir.entries.foldl (detectEntry .steady dir) ⟨0, UInt64.ofNat (2 ^ 64 - 1), 0⟩)
      dir.ranges := covers_foldl dir.entries covers_nil

/-- The loop's result is accepted exactly when some frequency is common to all policies. -/
theorem Covers.accepted_iff (h : Covers common ranges) :
    ¬ (common.policyCount = 0 ∨ common.minKhz > common.maxKhz) ↔
      ranges ≠ [] ∧ ∃ khz, ∀ range ∈ ranges, khz ∈ range := by
  rw [not_or, h.count, List.length_eq_zero_iff, gt_iff_lt, not_lt]
  refine and_congr_right fun hne => ?_
  constructor
  · exact fun hle => ⟨common.minKhz, (h.bounds hne _).mp ⟨le_rfl, hle⟩⟩
  · rintro ⟨khz, hall⟩
    obtain ⟨hmin, hmax⟩ := (h.bounds hne khz).mpr hall
    exact hmin.trans hmax

theorem Covers.single (h : Covers common [range]) :
    common = ⟨range.lowest, range.highest, 1⟩ := by
  have hbounds : ∀ khz, common.minKhz ≤ khz ∧ khz ≤ common.maxKhz ↔ khz ∈ range := by
    intro khz
    rw [h.bounds (by simp), List.forall_mem_singleton]
  obtain ⟨hminLowest, hlowestMax⟩ := (hbounds range.lowest).mpr Range.lowest_mem
  obtain ⟨hminHighest, hhighestMax⟩ := (hbounds range.highest).mpr Range.highest_mem
  have hordered : common.minKhz ≤ common.maxKhz := hminLowest.trans hlowestMax
  obtain ⟨hlowestMin, -⟩ := (hbounds common.minKhz).mp ⟨le_rfl, hordered⟩
  obtain ⟨-, hmaxHighest⟩ := (hbounds common.maxKhz).mp ⟨hordered, le_rfl⟩
  have hcount := h.count
  cases common
  simp only [Detected.mk.injEq]
  exact ⟨le_antisymm hminLowest hlowestMin, le_antisymm hmaxHighest hhighestMax, hcount⟩

/-- With a single policy the detected range is the range of this policy. -/
theorem detect_single (hpolicies : dir.policies = [policy])
    (hrange : dir.range policy = some range) :
    cpuLinuxDetectFrequencyRange .steady dir = .ok ⟨range.lowest, range.highest, 1⟩ := by
  have hcovers := detect_covers dir
  rw [Directory.ranges, hpolicies, List.filterMap_cons_some hrange, List.filterMap_nil] at hcovers
  have hgood := hcovers.accepted_iff.mpr ⟨by simp, range.lowest, by simp [Range.lowest_mem]⟩
  have hopen : Kernel.steady.opendirError = none := rfl
  rw [cpuLinuxDetectFrequencyRange, hopen]
  dsimp only
  rw [if_neg hgood, hcovers.single]

end Fold

section Verbatim
variable {k : Kernel} {dir : Directory} {entry : DirName} {lowest highest khz : UInt64}
  {lowFrequencyKhz frequency : UInt64} {sys : Sysfs} {first : Bound} {range : Range}

theorem Range.clamp_of_mem (h : khz ∈ range) : range.clamp khz = khz := by
  obtain ⟨hlo, hhi⟩ := h
  rw [Range.clamp, inf_eq_right.mpr hhi, sup_eq_right.mpr hlo]

/-- A policy write asks for one frequency only. -/
theorem pinBounds_writes {attempt : Attempt}
    (h : attempt ∈ (pinBounds k entry first frequency sys).2.writes) :
    attempt ∈ sys.writes ∨ attempt.policy = entry ∧ attempt.value = frequency := by
  have hwrite : ∀ {bound : Bound} {sys : Sysfs},
      attempt ∈ (writeU64File k entry bound frequency sys).2.writes →
        attempt ∈ sys.writes ∨ attempt.policy = entry ∧ attempt.value = frequency := by
    intro bound sys ha
    rcases List.mem_cons.mp ha with rfl | ha
    · exact Or.inr ⟨rfl, rfl⟩
    · exact Or.inl ha
  rcases pinBounds_cases k entry first frequency sys with ⟨-, heq⟩ | ⟨-, heq⟩
  · rw [heq] at h
    exact hwrite h
  · rw [heq] at h
    rcases hwrite h with ha | ha
    · exact hwrite ha
    · exact Or.inr ha

/-- A frequency in the range of a usable policy is written as it is. -/
theorem setOne_verbatim (h : Usable dir entry lowest highest) (hlo : lowest ≤ khz)
    (hhi : khz ≤ highest) :
    (setOnePolicyFrequency .steady dir entry khz lowFrequencyKhz sys).1 = true ∧
      (setOnePolicyFrequency .steady dir entry khz lowFrequencyKhz sys).2.scaling entry =
        ⟨khz, khz⟩ ∧
      ∀ attempt ∈ (setOnePolicyFrequency .steady dir entry khz lowFrequencyKhz sys).2.writes,
        attempt ∈ sys.writes ∨ attempt.policy = entry ∧ attempt.value = khz := by
  have hclamp : Range.clamp ⟨lowest, highest, h.ordered⟩ khz = khz :=
    Range.clamp_of_mem ⟨hlo, hhi⟩
  have hok : (setOnePolicyFrequency .steady dir entry khz lowFrequencyKhz sys).1 = true := by
    rw [setOne_steady_ok, h.range_eq]
    rfl
  have hreads : (Kernel.steady.reads entry .min && Kernel.steady.reads entry .max) = true := rfl
  refine ⟨hok, ?_, ?_⟩
  · rw [setOne_scaling_of_ok h.range_eq hok, hclamp]
  · rw [setOnePolicyFrequency_eq, hreads, if_pos rfl, h.range_eq]
    dsimp only
    rw [hclamp]
    exact fun _ ha => pinBounds_writes ha

end Verbatim

section Detect
variable {dir : Directory} {out : Outputs}

/-- The state in which the detection loop ends. -/
def Directory.detected (dir : Directory) : Detected :=
  dir.entries.foldl (detectEntry .steady dir) ⟨0, UInt64.ofNat (2 ^ 64 - 1), 0⟩

theorem ranges_ne_nil_iff : dir.ranges ≠ [] ↔
    ∃ entry ∈ dir.entries, ∃ lowest highest, Usable dir entry lowest highest := by
  constructor
  · intro h
    obtain ⟨range, hrange⟩ := List.exists_mem_of_ne_nil _ h
    obtain ⟨entry, he, husable⟩ := mem_ranges.mp hrange
    exact ⟨entry, he, _, _, husable⟩
  · rintro ⟨entry, he, lowest, highest, h⟩
    have hmem : (⟨lowest, highest, h.ordered⟩ : Range) ∈ dir.ranges :=
      mem_ranges.mpr ⟨entry, he, h⟩
    exact List.ne_nil_of_mem hmem

theorem detectInto_steady : detectFrequencyRangeInto .steady dir out =
    if dir.detected.policyCount = 0 ∨ dir.detected.minKhz > dir.detected.maxKhz then
      (.error "Nenhuma política cpufreq utilizável foi encontrada.", out)
    else
      (.ok (),
        { minKhz := dir.detected.minKhz
          maxKhz := dir.detected.maxKhz
          policyCount := out.policyCount.map fun _ => dir.detected.policyCount }) := by
  have hdetect : cpuLinuxDetectFrequencyRange .steady dir =
      if dir.detected.policyCount = 0 ∨ dir.detected.minKhz > dir.detected.maxKhz then
        .error "Nenhuma política cpufreq utilizável foi encontrada."
      else .ok dir.detected := rfl
  rw [detectFrequencyRangeInto, hdetect]
  by_cases hbad : dir.detected.policyCount = 0 ∨ dir.detected.minKhz > dir.detected.maxKhz
  · rw [if_pos hbad, if_pos hbad]
  · rw [if_neg hbad, if_neg hbad]

theorem detectInto_ok_iff : (detectFrequencyRangeInto .steady dir out).1 = .ok () ↔
    (∃ entry ∈ dir.entries, ∃ lowest highest, Usable dir entry lowest highest) ∧
      ∃ khz, Common dir khz := by
  have haccepted := (detect_covers dir).accepted_iff
  simp only [← common_iff, ranges_ne_nil_iff] at haccepted
  rw [← haccepted, detectInto_steady]
  split_ifs with hbad
  · exact iff_of_false (by simp) fun hgood => hgood hbad
  · exact iff_of_true rfl hbad

theorem detectInto_outputs (h : (detectFrequencyRangeInto .steady dir out).1 = .ok ()) :
    (∀ khz, (detectFrequencyRangeInto .steady dir out).2.minKhz ≤ khz ∧
      khz ≤ (detectFrequencyRangeInto .steady dir out).2.maxKhz ↔ Common dir khz) ∧
    (detectFrequencyRangeInto .steady dir out).2.policyCount =
      out.policyCount.map fun _ => dir.usablePolicies.length := by
  have hcovers : Covers dir.detected dir.ranges := detect_covers dir
  have hne : dir.ranges ≠ [] := ranges_ne_nil_iff.mpr (detectInto_ok_iff.mp h).1
  have hgood := hcovers.accepted_iff.mpr ⟨hne, by
    obtain ⟨khz, hkhz⟩ := (detectInto_ok_iff.mp h).2
    exact ⟨khz, common_iff.mp hkhz⟩⟩
  rw [detectInto_steady, if_neg hgood]
  refine ⟨fun khz => ?_, ?_⟩
  · rw [common_iff]
    exact hcovers.bounds hne khz
  · rw [length_usablePolicies, hcovers.count]

theorem detectInto_of_failed {k : Kernel} (h : (detectFrequencyRangeInto k dir out).1 ≠ .ok ()) :
    (detectFrequencyRangeInto k dir out).2 = out := by
  unfold detectFrequencyRangeInto at h ⊢
  cases hd : cpuLinuxDetectFrequencyRange k dir with
  | error message => rfl
  | ok detected => simp [hd] at h

/-- A detection succeeds exactly when the usable policies have a frequency in common; then it
returns the intersection of their ranges. A frequency in it is pinned verbatim. -/
theorem detected_range_is_intersection (dir : Directory) (out : Outputs) :
    ((detectFrequencyRangeInto .steady dir out).1 = .ok () ↔
      (∃ entry ∈ dir.entries, ∃ lowest highest, Usable dir entry lowest highest) ∧
        ∃ khz, Common dir khz) ∧
    ((detectFrequencyRangeInto .steady dir out).1 = .ok () →
      (∀ khz, (detectFrequencyRangeInto .steady dir out).2.minKhz ≤ khz ∧
        khz ≤ (detectFrequencyRangeInto .steady dir out).2.maxKhz ↔ Common dir khz) ∧
      (detectFrequencyRangeInto .steady dir out).2.policyCount =
        out.policyCount.map fun _ => dir.usablePolicies.length) ∧
    (∀ khz, Common dir khz → ∀ entry ∈ dir.entries, ∀ lowest highest,
      Usable dir entry lowest highest → ∀ lowFrequencyKhz sys,
        (setOnePolicyFrequency .steady dir entry khz lowFrequencyKhz sys).1 = true ∧
          (setOnePolicyFrequency .steady dir entry khz lowFrequencyKhz sys).2.scaling entry =
            ⟨khz, khz⟩ ∧
          ∀ attempt ∈ (setOnePolicyFrequency .steady dir entry khz lowFrequencyKhz sys).2.writes,
            attempt ∈ sys.writes ∨ attempt.policy = entry ∧ attempt.value = khz) ∧
    ∀ k, (detectFrequencyRangeInto k dir out).1 ≠ .ok () →
      (detectFrequencyRangeInto k dir out).2 = out := by
  refine ⟨detectInto_ok_iff, detectInto_outputs, ?_, fun k => detectInto_of_failed⟩
  intro khz hkhz entry he lowest highest h lowFrequencyKhz sys
  obtain ⟨hlo, hhi⟩ := hkhz entry he lowest highest h
  exact setOne_verbatim h hlo hhi

end Detect

end CpuSwitch.Cpufreq
