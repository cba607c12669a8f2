import CpuSwitch.Cpufreq.Current
import CpuSwitch.Daemon.Usage
import CpuSwitch.Gui.Widgets

/-! The two metric cards that a timer keeps up to date. -/
namespace CpuSwitch.Gui
open CLib Cpufreq Daemon

/-- The two labels, and `previous_times` once `have_previous_times` is set. -/
structure Metrics where
  previousTimes : Option CpuTimes
  usageLabel : Text
  frequencyLabel : Text

def buildMetricCards : Metrics := ⟨none, "—".toList, "—".toList⟩

/-- What one call of `refresh_metrics` finds. -/
structure Tick where
  stat : StatFile
  frequency : CurrentFiles

/-- The label of a percentage that was computed in exact arithmetic. -/
def usageText (usage : ℚ) : Text := formatFixed 1 (.finite usage) ++ "%".toList

def refreshMetrics (state : Metrics) (tick : Tick) : Metrics :=
  let state := match cpuLinuxReadTimes tick.stat with
    | .error _ => state
    | .ok current =>
      match state.previousTimes with
      | none => { state with previousTimes := some current }
      | some previous =>
        { state with
          usageLabel := usageText (cpuLinuxUsagePercent previous current)
          previousTimes := some current }
  { state with
    frequencyLabel := match cpuLinuxReadCurrentFrequency tick.frequency with
      | .ok khz => formatFrequency khz
      | .error _ => "Indisponível".toList }

/-- The readings of /proc/stat that came about. -/
def readings (ticks : List Tick) : List CpuTimes :=
  (ticks.map fun tick => (cpuLinuxReadTimes tick.stat).toOption).reduceOption

/-- The card that the last two of some values, newest first, amount to. -/
def lastPair {α : Type*} (share : α → α → ℚ) : List α → Text
  | current :: previous :: _ => usageText (share previous current)
  | _ => "—".toList

/-- The frequency card for what the first policy told that tells any. -/
def frequencyText : Option UInt64 → Text
  | some khz => formatFrequency khz
  | none => "Indisponível".toList

/-- /proc/stat holds a first line like this, or cannot be read. -/
inductive Observes (tick : Tick) : Option (List Column) → Prop where
  | line {columns : List Column} (rest : Text) (hrest : ∀ c ∈ rest.head?, c = '\n')
    (hcount : 4 ≤ columns.length) (hshort : (statLine columns).length < 1024)
    (hstat : tick.stat = .readable (statLine columns ++ rest)) : Observes tick (some columns)
  | nothing (h : ∀ times, cpuLinuxReadTimes tick.stat ≠ .ok times) : Observes tick none

section
variable {ticks : List Tick} {tick : Tick} {observations : List (Option (List Column))}
  {columns : List (List Column)}

theorem refreshMetrics_usage (state : Metrics) (tick : Tick) :
    ((refreshMetrics state tick).previousTimes, (refreshMetrics state tick).usageLabel) =
      match cpuLinuxReadTimes tick.stat, state.previousTimes with
      | .error _, previous => (previous, state.usageLabel)
      | .ok current, none => (some current, state.usageLabel)
      | .ok current, some previous =>
        (some current, usageText (cpuLinuxUsagePercent previous current)) := by
  unfold refreshMetrics
  cases cpuLinuxReadTimes tick.stat with
  | error message => rfl
  | ok current => cases state.previousTimes <;> rfl

theorem refreshMetrics_frequency (state : Metrics) (tick : Tick) :
    (refreshMetrics state tick).frequencyLabel = frequencyText tick.frequency.firstTold := by
  rw [← toOption_readCurrentFrequency, refreshMetrics]
  dsimp only
  cases cpuLinuxReadCurrentFrequency tick.frequency with
  | ok khz => rfl
  | error message => rfl

theorem readings_concat :
    readings (ticks ++ [tick]) =
      readings ticks ++ (cpuLinuxReadTimes tick.stat).toOption.toList := by
  rw [readings, List.map_append, List.reduceOption_append, List.map_singleton,
    List.reduceOption_singleton, readings]

/-- The state remembers the last reading and shows the last two. -/
theorem metrics_run (ticks : List Tick) :
    (run refreshMetrics buildMetricCards ticks).previousTimes = (readings ticks).reverse.head? ∧
      (run refreshMetrics buildMetricCards ticks).usageLabel =
        lastPair cpuLinuxUsagePercent (readings ticks).reverse := by
  induction ticks using List.reverseRecOn with
  | nil => exact ⟨rfl, rfl⟩
  | append_singleton ticks tick ih =>
    have hstep := refreshMetrics_usage (run refreshMetrics buildMetricCards ticks) tick
    rw [run_concat, readings_concat, List.reverse_append]
    generalize run refreshMetrics buildMetricCards ticks = state at ih hstep ⊢
    obtain ⟨hprevious, husage⟩ := ih
    rw [hprevious, husage] at hstep
    cases hread : cpuLinuxReadTimes tick.stat with
    | error message =>
      rw [hread] at hstep
      exact Prod.mk.inj hstep
    | ok current =>
      rw [hread] at hstep
      -- The first reading is remembered, but there is nothing to compare it with.
      cases hseen : (readings ticks).reverse with
      | nil =>
        rw [hseen] at hstep
        exact Prod.mk.inj hstep
      | cons previous older =>
        rw [hseen] at hstep
        exact Prod.mk.inj hstep

theorem readings_of_observes (h : List.Forall₂ Observes ticks observations) :
    readings ticks = observations.reduceOption.map snapshot := by
  induction h with
  | nil => rfl
  | @cons tick observation ticks observations hobserves _ ih =>
    cases hobserves with
    | line rest hrest hcount hshort hstat =>
      rw [readings, List.map_cons, hstat, readTimes_statLine hcount hshort hrest, Except.toOption,
        List.reduceOption_cons_of_some, List.reduceOption_cons_of_some, List.map_cons, ← ih,
        readings]
    | nothing hnot =>
      have hnone : (cpuLinuxReadTimes tick.stat).toOption = none := by
        cases hread : cpuLinuxReadTimes tick.stat with
        | error message => rfl
        | ok times => exact (hnot times hread).elim
      rw [readings, List.map_cons, hnone, List.reduceOption_cons_of_none,
        List.reduceOption_cons_of_none, ← ih, readings]

/-- Between lines in order the percentage is the exact share of busy time. -/
theorem lastPair_snapshot (h : columns.IsChain Later) :
    lastPair cpuLinuxUsagePercent (columns.map snapshot).reverse =
      lastPair busyShare columns.reverse := by
  rw [← List.map_reverse]
  have hback : columns.reverse.IsChain fun second first => Later first second :=
    List.isChain_reverse.mpr h
  generalize columns.reverse = back at hback ⊢
  match back, hback with
  | [], _ => rfl
  | [_], _ => rfl
  | second :: first :: _, hback =>
    have hlater : Later first second := (List.isChain_cons_cons.mp hback).1
    simp only [List.map_cons, lastPair, hlater.usagePercent]

end

/-- In exact arithmetic, and whatever can be read from call to call: the usage card shows a
percentage computed from the last two readings of /proc/stat that came about, which is the exact
share of busy time between them when they come from lines in order; and the frequency card shows
what the first policy told in the last call that tells any. -/
theorem metrics_show_load (ticks : List Tick) :
    (run refreshMetrics buildMetricCards ticks).usageLabel =
        lastPair cpuLinuxUsagePercent (readings ticks).reverse ∧
      (∀ observations, List.Forall₂ Observes ticks observations →
        observations.reduceOption.IsChain Later →
          (run refreshMetrics buildMetricCards ticks).usageLabel =
            lastPair busyShare observations.reduceOption.reverse) ∧
      (run refreshMetrics buildMetricCards ticks).frequencyLabel =
        ticks.getLast?.elim "—".toList fun tick => frequencyText tick.frequency.firstTold := by
  refine ⟨(metrics_run ticks).2, fun observations hobserves hlater => ?_, ?_⟩
  · rw [(metrics_run ticks).2, readings_of_observes hobserves, lastPair_snapshot hlater]
  · cases ticks using List.reverseRecOn with
    | nil => rfl
    | append_singleton ticks tick =>
      rw [run_concat, refreshMetrics_frequency, List.getLast?_concat, Option.elim_some]

/-- Three calls, of which the second finds nothing to read. -/
def threeTicks : List Tick :=
  [⟨.readable (statLine ([10, 0, 10, 80].map Column.printed) ++ ['\n']), reticentFiles⟩,
    ⟨.unreadable, reticentFiles⟩,
    ⟨.readable (statLine ([20, 0, 20, 160].map Column.printed) ++ ['\n']), reticentFiles⟩]

theorem metrics_show_load_fifth :
    (run refreshMetrics buildMetricCards threeTicks).usageLabel = "20.0%".toList ∧
      (run refreshMetrics buildMetricCards threeTicks).frequencyLabel = "2.40 GHz".toList := by
  have hlater : Later ([10, 0, 10, 80].map Column.printed) ([20, 0, 20, 160].map Column.printed) :=
    ⟨by decide, .cons (by decide +kernel) (.cons (by decide +kernel) (.cons (by decide +kernel)
      (.cons (by decide +kernel) .nil))), by decide +kernel, by decide +kernel, by decide +kernel⟩
  have hend : ∀ c ∈ ['\n'].head?, c = '\n' := by simp
  obtain ⟨-, hload, hfrequency⟩ := metrics_show_load threeTicks
  have hlabel := hload
    [some ([10, 0, 10, 80].map Column.printed), none, some ([20, 0, 20, 160].map Column.printed)]
    (.cons (.line ['\n'] hend (by decide) hlater.short.1 rfl)
      (.cons (.nothing nofun)
        (.cons (.line ['\n'] hend (by decide) hlater.short.2 rfl) .nil)))
    (List.isChain_cons_cons.mpr ⟨hlater, List.isChain_singleton _⟩)
  exact ⟨hlabel.trans (by decide +kernel), hfrequency.trans (by decide +kernel)⟩

end CpuSwitch.Gui
