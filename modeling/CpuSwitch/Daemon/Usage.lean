import CpuSwitch.CLib.Scan
import CpuSwitch.Daemon.Model
import Mathlib.Data.List.GetD
import Mathlib.Data.List.Forall2

/-! The usage percentage, from the first line of /proc/stat on. -/
namespace CpuSwitch.Daemon
open CLib Config Cpufreq

/-- What `fopen` and `fgets` meet at /proc/stat. -/
inductive StatFile where
  | unopenable (reason : String)
  | unreadable
  | readable (contents : Text)

def statFormat : Text := "cpu %llu %llu %llu %llu %llu %llu %llu %llu".toList

def cpuLinuxReadTimes : StatFile → Except String CpuTimes
  | .unopenable reason => .error s!"Não foi possível abrir /proc/stat: {reason}"
  | .unreadable => .error "Não foi possível ler a linha global de /proc/stat."
  | .readable contents =>
    match fgets 1024 contents with
    | none => .error "Não foi possível ler a linha global de /proc/stat."
    | some line =>
      let counters := sscanf (cString line) statFormat
      let user := counters.getD 0 0
      let nice := counters.getD 1 0
      let system := counters.getD 2 0
      let idle := counters.getD 3 0
      let iowait := counters.getD 4 0
      let irq := counters.getD 5 0
      let softirq := counters.getD 6 0
      let steal := counters.getD 7 0
      if counters.length < 4 then .error "Formato inesperado em /proc/stat."
      else
        .ok
          { idle := idle + if counters.length ≥ 5 then iowait else 0
            total := user + nice + system + idle + iowait + irq + softirq + steal }

/-- A division of `double` values that has a value. -/
def divide (x y : ℚ) : Option ℚ := if y = 0 then none else some (x / y)

/-- `usage` before the two clamps, when the division in it has a value. -/
def unclampedUsage (previous current : CpuTimes) : Option ℚ :=
  let totalDelta := current.total - previous.total
  let idleDelta := if current.idle ≥ previous.idle then current.idle - previous.idle else 0
  (divide idleDelta.toNat totalDelta.toNat).map fun share => 100 * (1 - share)

/-- `cpu_linux_usage_percent` with a division that may fail. -/
def checkedUsagePercent (previous current : CpuTimes) : Option ℚ :=
  if current.total ≤ previous.total then some 0
  else (unclampedUsage previous current).map fun usage =>
    if usage < 0 then 0 else if usage > 100 then 100 else usage

/-- The first line of /proc/stat up to its newline. -/
def statLine (columns : List Column) : Text := "cpu".toList ++ columns.flatMap Column.text

/-- A counter of the line, 0 when the line ends before it. -/
def counter (columns : List Column) (i : ℕ) : ℕ := (columns.map Column.value).getD i 0

/-- user, nice, system, irq, softirq and steal. -/
def busy (columns : List Column) : ℕ :=
  counter columns 0 + counter columns 1 + counter columns 2 + counter columns 5 +
    counter columns 6 + counter columns 7

/-- idle and iowait. -/
def idle (columns : List Column) : ℕ := counter columns 3 + counter columns 4

/-- The first eight counters. -/
def aggregate (columns : List Column) : ℕ := ((columns.take 8).map Column.value).sum

/-- What is left of a line in a snapshot. -/
def snapshot (columns : List Column) : CpuTimes :=
  ⟨UInt64.ofNat (idle columns), UInt64.ofNat (aggregate columns)⟩

/-- The percentage of busy time in what passed between two lines. -/
def busyShare (first second : List Column) : ℚ :=
  100 * (((busy second : ℚ) - busy first) / (aggregate second - aggregate first))

/-- Two first lines of /proc/stat, the second read after the counters have moved on. -/
structure Later (first second : List Column) : Prop where
  count : 4 ≤ first.length
  grows : List.Forall₂ (fun before after => before.value ≤ after.value) first second
  short : (statLine first).length < 1024 ∧ (statLine second).length < 1024
  fits : aggregate second < 2 ^ 64
  moves : aggregate first < aggregate second

section Percent
variable {previous current : CpuTimes}

theorem unclampedUsage_eq (h : previous.total < current.total) :
    unclampedUsage previous current = some (100 * (1 -
      ((if current.idle ≥ previous.idle then current.idle - previous.idle else 0).toNat : ℚ) /
        (current.total - previous.total).toNat)) := by
  have hdelta : ((current.total - previous.total).toNat : ℚ) ≠ 0 := by
    rw [UInt64.toNat_sub_of_le _ _ h.le, Nat.cast_ne_zero]
    have := UInt64.lt_iff_toNat_lt.mp h
    omega
  rw [unclampedUsage, divide, if_neg hdelta]
  rfl

/-- The guard in front keeps the divisor away from zero. -/
theorem checkedUsagePercent_eq (previous current : CpuTimes) :
    checkedUsagePercent previous current = some (cpuLinuxUsagePercent previous current) := by
  unfold checkedUsagePercent cpuLinuxUsagePercent
  by_cases h : current.total ≤ previous.total
  · rw [if_pos h, if_pos h]
  · rw [if_neg h, if_neg h, unclampedUsage_eq (not_le.mp h)]
    rfl

theorem clamp_mem (usage : ℚ) :
    0 ≤ (if usage < 0 then 0 else if usage > 100 then 100 else usage) ∧
      (if usage < 0 then 0 else if usage > 100 then 100 else usage) ≤ 100 := by
  split_ifs with hneg hbig
  · norm_num
  · norm_num
  · exact ⟨not_lt.mp hneg, not_lt.mp hbig⟩

theorem usagePercent_mem (previous current : CpuTimes) :
    0 ≤ cpuLinuxUsagePercent previous current ∧ cpuLinuxUsagePercent previous current ≤ 100 := by
  unfold cpuLinuxUsagePercent
  by_cases h : current.total ≤ previous.total
  · rw [if_pos h]
    norm_num
  · rw [if_neg h]
    exact clamp_mem _

end Percent

section Line
variable {columns : List Column} {rest : Text} {i : ℕ}

theorem getD_counters (hi : i < 8) :
    ((columns.take 8).map fun column => UInt64.ofNat column.value).getD i 0 =
      UInt64.ofNat (counter columns i) := by
  rw [counter, List.getD_eq_getElem?_getD, List.getD_eq_getElem?_getD, List.getElem?_map,
    List.getElem?_map, List.getElem?_take_of_lt hi]
  cases columns[i]? <;> rfl

theorem statLine_plain : '\n' ∉ statLine columns ∧ '\x00' ∉ statLine columns := by
  have hplain : ∀ c ∈ statLine columns, c ≠ '\n' ∧ c ≠ '\x00' := by
    intro c hc
    rcases List.mem_append.mp hc with hc | hc
    · have hall : "cpu".toList.all (fun c => c ≠ '\n' && c ≠ '\x00') = true := by decide
      simpa using List.all_eq_true.mp hall c hc
    · obtain ⟨column, -, hcolumn⟩ := List.mem_flatMap.mp hc
      rcases column.blank_or_digit c hcolumn with rfl | hdigit
      · exact ⟨by decide, by decide⟩
      · constructor <;> rintro rfl <;> exact absurd hdigit (by decide)
  exact ⟨fun h => (hplain _ h).1 rfl, fun h => (hplain _ h).2 rfl⟩

theorem directives_statFormat : directives statFormat =
    .literal 'c' :: .literal 'p' :: .literal 'u' :: columnDirectives 8 := by decide

/-- The conversions take the first eight counters of the line. -/
theorem sscanf_statLine {tail : Text} (htail : ∀ c ∈ tail, c = '\n') :
    sscanf (cString (statLine columns ++ tail)) statFormat =
      (columns.take 8).map fun column => UInt64.ofNat column.value := by
  have hnul : '\x00' ∉ statLine columns ++ tail := by
    rw [List.mem_append, not_or]
    exact ⟨statLine_plain.2, fun h => absurd (htail _ h) (by decide)⟩
  have hspace : ∀ c ∈ tail, isspace c = true := fun c hc => htail c hc ▸ isspace_newline
  rw [cString_of_noNul hnul, sscanf, directives_statFormat, statLine, List.append_assoc]
  exact scanDirectives_columns hspace 8

theorem aggregate_eq : aggregate columns = busy columns + idle columns := by
  have htake : ∀ (values : List ℕ) (n : ℕ),
      (values.take n).sum = ∑ i ∈ Finset.range n, values.getD i 0 := by
    intro values n
    induction values generalizing n with
    | nil => simp
    | cons value values ih =>
      cases n with
      | zero => rfl
      | succ n => simp [ih, Finset.sum_range_succ', add_comm]
  rw [aggregate, List.map_take, htake]
  simp only [Finset.sum_range_succ, Finset.sum_range_zero, busy, idle, counter]
  omega

/-- A line of at least four counters is read into their sums, modulo the word size. -/
theorem readTimes_statLine (hcount : 4 ≤ columns.length)
    (hlength : (statLine columns).length < 1024) (hrest : ∀ c ∈ rest.head?, c = '\n') :
    cpuLinuxReadTimes (.readable (statLine columns ++ rest)) = .ok (snapshot columns) := by
  obtain ⟨tail, hline, htail⟩ := fgets_line (by simp [statLine]) statLine_plain.1 hrest hlength
  have hlen : ¬ (min 8 columns.length < 4) := by omega
  have hiowait : (if min 8 columns.length ≥ 5 then UInt64.ofNat (counter columns 4) else 0) =
      UInt64.ofNat (counter columns 4) := by
    split_ifs with h
    · rfl
    · have hzero : counter columns 4 = 0 := by
        rw [counter, List.getD_eq_default]
        rw [List.length_map]
        omega
      rw [hzero]
      rfl
  rw [cpuLinuxReadTimes, hline]
  simp (disch := decide) only [sscanf_statLine htail, getD_counters, List.length_map,
    List.length_take, hlen, if_false, hiowait]
  rw [snapshot, aggregate_eq, idle, busy]
  simp only [← UInt64.ofNat_add]
  congr 3
  omega

end Line

section Later
variable {first second : List Column} {idle₁ idle₂ total₁ total₂ i : ℕ}

theorem counter_mono (h : List.Forall₂ (fun before after => before.value ≤ after.value)
    first second) : counter first i ≤ counter second i := by
  induction h generalizing i with
  | nil => exact le_rfl
  | cons hvalue _ ih =>
    cases i with
    | zero => exact hvalue
    | succ i => exact ih

theorem Later.idle_le (h : Later first second) : idle first ≤ idle second :=
  Nat.add_le_add (counter_mono h.grows) (counter_mono h.grows)

theorem Later.busy_le (h : Later first second) : busy first ≤ busy second := by
  have hmono : ∀ i, counter first i ≤ counter second i := fun _ => counter_mono h.grows
  simp only [busy]
  gcongr <;> exact hmono _

/-- Readings that fit a word are subtracted exactly. -/
theorem unclampedUsage_ofNat (hidle : idle₁ ≤ idle₂) (htotal : total₁ < total₂)
    (hi : idle₂ < 2 ^ 64) (ht : total₂ < 2 ^ 64) :
    unclampedUsage ⟨UInt64.ofNat idle₁, UInt64.ofNat total₁⟩
        ⟨UInt64.ofNat idle₂, UInt64.ofNat total₂⟩ =
      some (100 * (1 - ((idle₂ : ℚ) - idle₁) / (total₂ - total₁))) := by
  have htoNat : ∀ {n : ℕ}, n < 2 ^ 64 → (UInt64.ofNat n).toNat = n :=
    fun h => UInt64.toNat_ofNat_of_lt' h
  have hle : UInt64.ofNat idle₁ ≤ UInt64.ofNat idle₂ := by
    rw [UInt64.le_iff_toNat_le, htoNat (by omega), htoNat hi]
    exact hidle
  have hlt : UInt64.ofNat total₁ < UInt64.ofNat total₂ := by
    rw [UInt64.lt_iff_toNat_lt, htoNat (by omega), htoNat ht]
    exact htotal
  rw [unclampedUsage_eq hlt, if_pos hle, UInt64.toNat_sub_of_le _ _ hle,
    UInt64.toNat_sub_of_le _ _ hlt.le, htoNat hi, htoNat ht, htoNat (by omega),
    htoNat (by omega), Nat.cast_sub hidle, Nat.cast_sub htotal.le]

/-- A percentage is not touched by the clamps. -/
theorem usagePercent_of_unclamped {previous current : CpuTimes} {usage : ℚ}
    (hmoves : previous.total < current.total) (h : unclampedUsage previous current = some usage)
    (hlo : 0 ≤ usage) (hhi : usage ≤ 100) : cpuLinuxUsagePercent previous current = usage := by
  have hchecked := checkedUsagePercent_eq previous current
  rw [checkedUsagePercent, if_neg (not_le.mpr hmoves), h, Option.map_some, if_neg (not_lt.mpr hlo),
    if_neg (not_lt.mpr hhi)] at hchecked
  exact (Option.some_inj.mp hchecked).symm

theorem Later.snapshot_lt (h : Later first second) :
    (snapshot first).total < (snapshot second).total := by
  rw [UInt64.lt_iff_toNat_lt, snapshot, snapshot, UInt64.toNat_ofNat_of_lt' h.fits,
    UInt64.toNat_ofNat_of_lt' (h.moves.trans h.fits)]
  exact h.moves

theorem Later.unclamped (h : Later first second) :
    unclampedUsage (snapshot first) (snapshot second) = some (busyShare first second) := by
  have hfits := h.fits
  have hmoves : (0 : ℚ) < aggregate second - aggregate first := by
    rw [sub_pos, Nat.cast_lt]
    exact h.moves
  have hsplit : (aggregate second : ℚ) - aggregate first =
      (busy second - busy first) + (idle second - idle first) := by
    rw [aggregate_eq, aggregate_eq]
    push_cast
    ring
  rw [snapshot, snapshot,
    unclampedUsage_ofNat h.idle_le h.moves (by rw [aggregate_eq] at hfits; omega) hfits,
    one_sub_div hmoves.ne', Option.some_inj, busyShare]
  congr 2
  rw [hsplit]
  ring

/-- Busy time is a part of all time. -/
theorem Later.busyShare_mem (h : Later first second) :
    0 ≤ busyShare first second ∧ busyShare first second ≤ 100 := by
  have hbusy : (busy first : ℚ) ≤ busy second := Nat.cast_le.mpr h.busy_le
  have hidle : (idle first : ℚ) ≤ idle second := Nat.cast_le.mpr h.idle_le
  have hmoves : (aggregate first : ℚ) < aggregate second := Nat.cast_lt.mpr h.moves
  have hnonneg : 0 ≤ ((busy second : ℚ) - busy first) / (aggregate second - aggregate first) :=
    div_nonneg (sub_nonneg.mpr hbusy) (sub_nonneg.mpr hmoves.le)
  have hle : ((busy second : ℚ) - busy first) / (aggregate second - aggregate first) ≤ 1 := by
    rw [div_le_one (sub_pos.mpr hmoves), aggregate_eq, aggregate_eq]
    push_cast
    linarith
  rw [busyShare]
  constructor <;> linarith

theorem Later.usagePercent (h : Later first second) :
    cpuLinuxUsagePercent (snapshot first) (snapshot second) = busyShare first second :=
  usagePercent_of_unclamped h.snapshot_lt h.unclamped h.busyShare_mem.1 h.busyShare_mem.2

theorem Later.count_second (h : Later first second) : 4 ≤ second.length :=
  h.grows.length_eq ▸ h.count

end Later

/-- The usage is a percentage of two snapshots whatever they are, and the exact share of busy time
when they come from two lines in order. -/
theorem usage_is_busy_share :
    (∀ previous current : CpuTimes,
      checkedUsagePercent previous current = some (cpuLinuxUsagePercent previous current) ∧
        0 ≤ cpuLinuxUsagePercent previous current ∧
        cpuLinuxUsagePercent previous current ≤ 100) ∧
    ∀ (first second : List Column) (rest₁ rest₂ : Text), Later first second →
      (∀ c ∈ rest₁.head?, c = '\n') → (∀ c ∈ rest₂.head?, c = '\n') →
      ∃ previous current,
        cpuLinuxReadTimes (.readable (statLine first ++ rest₁)) = .ok previous ∧
        cpuLinuxReadTimes (.readable (statLine second ++ rest₂)) = .ok current ∧
        cpuLinuxUsagePercent previous current =
          100 * (((busy second : ℚ) - busy first) / (aggregate second - aggregate first)) ∧
        unclampedUsage previous current = some (cpuLinuxUsagePercent previous current) := by
  refine ⟨fun previous current => ⟨checkedUsagePercent_eq previous current,
    usagePercent_mem previous current⟩, fun first second rest₁ rest₂ h hrest₁ hrest₂ => ?_⟩
  exact ⟨_, _, readTimes_statLine h.count h.short.1 hrest₁,
    readTimes_statLine h.count_second h.short.2 hrest₂, h.usagePercent,
    h.usagePercent ▸ h.unclamped⟩

theorem usage_is_busy_share_fifth : ∃ previous current,
    cpuLinuxReadTimes (.readable "cpu 10 0 10 80\n".toList) = .ok previous ∧
      cpuLinuxReadTimes (.readable "cpu 20 0 20 160\n".toList) = .ok current ∧
      cpuLinuxUsagePercent previous current = 20 := by
  have hlater : Later ([10, 0, 10, 80].map Column.printed) ([20, 0, 20, 160].map Column.printed) :=
    ⟨by decide, .cons (by decide +kernel) (.cons (by decide +kernel) (.cons (by decide +kernel)
      (.cons (by decide +kernel) .nil))), by decide +kernel, by decide +kernel, by decide +kernel⟩
  obtain ⟨previous, current, hprevious, hcurrent, husage, -⟩ :=
    usage_is_busy_share.2 _ _ ['\n'] ['\n'] hlater (by simp) (by simp)
  have hfirst : statLine ([10, 0, 10, 80].map Column.printed) ++ ['\n'] =
      "cpu 10 0 10 80\n".toList := by decide +kernel
  have hsecond : statLine ([20, 0, 20, 160].map Column.printed) ++ ['\n'] =
      "cpu 20 0 20 160\n".toList := by decide +kernel
  rw [hfirst] at hprevious
  rw [hsecond] at hcurrent
  exact ⟨previous, current, hprevious, hcurrent, husage.trans (by decide +kernel)⟩

/-- A reading of /proc/stat at one iteration, and the kernel's answers in it. -/
structure Reading where
  columns : List Column
  rest : Text
  ends : ∀ c ∈ rest.head?, c = '\n'
  kernel : Kernel

/-- What the loop is given for a reading. -/
def Reading.input (reading : Reading) : Except String CpuTimes × Kernel :=
  (cpuLinuxReadTimes (.readable (statLine reading.columns ++ reading.rest)), reading.kernel)

/-- The shares of busy time between successive readings. -/
def shares : List Column → List Reading → List (Option Double × Kernel)
  | _, [] => []
  | columns, reading :: readings =>
    (some (.finite (busyShare columns reading.columns)), reading.kernel) ::
      shares reading.columns readings

theorem samplesOf_readings {columns : List Column} {readings : List Reading}
    (h : (columns :: readings.map Reading.columns).IsChain Later) :
    samplesOf (snapshot columns) (readings.map Reading.input) = shares columns readings := by
  induction readings generalizing columns with
  | nil => rfl
  | cons reading readings ih =>
    obtain ⟨hlater, hrest⟩ := List.isChain_cons_cons.mp h
    have hread : cpuLinuxReadTimes (.readable (statLine reading.columns ++ reading.rest)) =
        .ok (snapshot reading.columns) :=
      readTimes_statLine hlater.count_second hlater.short.2 reading.ends
    rw [List.map_cons, Reading.input, hread, samplesOf, ih hrest, hlater.usagePercent, shares]

end CpuSwitch.Daemon
