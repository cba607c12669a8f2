import CpuSwitch.Daemon.Process
import CpuSwitch.Daemon.Strict

/-! From the bytes of /proc/stat to the limits of the policies. -/
namespace CpuSwitch.Daemon
open CLib Config Cpufreq

/-- A turn that is not stopped and finds the given contents of /proc/stat. -/
structure Meets (turn : Turn) (reading : Reading) : Prop where
  stat : turn.stat = .readable (statLine reading.columns ++ reading.rest)
  kernel : turn.kernel = reading.kernel
  unstopped : turn.stopRequested = false

/-- The shares of busy time between successive readings, without the kernel's answers. -/
def busyShares : List Column → List Reading → List (Option Double)
  | _, [] => []
  | columns, reading :: readings =>
    some (.finite (busyShare columns reading.columns)) :: busyShares reading.columns readings

section
variable {columns : List Column} {readings : List Reading} {turns : List Turn}
  {config : CpuConfig} {dir : Directory} {c : Controller}

theorem inputs_of_meets (h : List.Forall₂ Meets turns readings) :
    turns.map Turn.input = readings.map Reading.input := by
  induction h with
  | nil => rfl
  | cons hmeets _ ih =>
    rw [List.map_cons, List.map_cons, ih, Turn.input, hmeets.stat, hmeets.kernel]
    rfl

theorem unstopped_of_meets (h : List.Forall₂ Meets turns readings) :
    ∀ turn ∈ turns, turn.stopRequested = false := by
  induction h with
  | nil => simp
  | cons hmeets _ ih =>
    intro turn hmem
    rcases List.mem_cons.mp hmem with rfl | hmem
    · exact hmeets.unstopped
    · exact ih turn hmem

/-- With one kernel throughout, only the shares are left. -/
theorem shares_strict (h : ∀ reading ∈ readings, reading.kernel = .strict) :
    run (sampled config dir) c (shares columns readings) =
      run (strictly config dir) c (busyShares columns readings) := by
  induction readings generalizing columns c with
  | nil => rfl
  | cons reading readings ih =>
    rw [shares, busyShares, run_cons, run_cons, h reading List.mem_cons_self,
      ih fun other ho => h other (List.mem_cons_of_mem _ ho)]
    rfl

/-- On a kernel that rejects crossing stores, the program that reads growing counters from
/proc/stat, with the usage computed in exact arithmetic, steers every policy by the exact shares of
busy time, from whatever limits it finds: each policy follows the last share outside the band from
the first one that its limits let through, and the remembered state is right as soon as this holds
of all policies. -/
theorem main_tracks_load (m : Machine) (hne : m.dir.policies ≠ []) (outside : Outside)
    (hsane : Sane (loadRuntimeConfig outside.file)) (detected : Detected)
    (hdetected : cpuLinuxDetectFrequencyRange outside.detection m.dir = .ok detected)
    (columns : List Column) (rest : Text) (hrest : ∀ c ∈ rest.head?, c = '\n')
    (hfirst : outside.first = .readable (statLine columns ++ rest))
    (hcount : 4 ≤ columns.length) (hshort : (statLine columns).length < 1024)
    (readings : List Reading) (hstrict : ∀ reading ∈ readings, reading.kernel = .strict)
    (hmeets : List.Forall₂ Meets outside.turns readings)
    (hlater : (columns :: readings.map Reading.columns).IsChain Later)
    (scaling : DirName → Limits) :
    Tracks m (loadRuntimeConfig outside.file) scaling (busyShares columns readings)
      (main m.dir scaling outside).controller := by
  have hprevious : cpuLinuxReadTimes outside.first = .ok (snapshot columns) := by
    rw [hfirst]
    exact readTimes_statLine hcount hshort hrest
  rw [(main_started hdetected hprevious).1, served_of_all (unstopped_of_meets hmeets),
    inputs_of_meets hmeets, controller_run, samplesOf_readings hlater, shares_strict hstrict]
  exact strict_tracks hne hsane.ordered hsane.clocks

end

/-- One busy turn on the default configuration. -/
def busyReading : Reading where
  columns := [90, 0, 10, 80].map Column.printed
  rest := ['\n']
  ends := by simp
  kernel := .strict

def loadedStart : Outside where
  file := .missing
  detection := .steady
  first := .readable (statLine ([10, 0, 10, 80].map Column.printed) ++ ['\n'])
  turns := [⟨[], .readable (statLine busyReading.columns ++ ['\n']), .strict, false⟩]

theorem main_tracks_load_busy :
    Tracks .single cpuConfigDefaults (fun _ => ⟨800000, 4000000⟩)
      (busyShares ([10, 0, 10, 80].map Column.printed) [busyReading])
      (main Machine.single.dir (fun _ => ⟨800000, 4000000⟩) loadedStart).controller := by
  have hlater : Later ([10, 0, 10, 80].map Column.printed) busyReading.columns :=
    ⟨by decide, .cons (by decide +kernel) (.cons (by decide +kernel) (.cons (by decide +kernel)
      (.cons (by decide +kernel) .nil))), by decide +kernel, by decide +kernel, by decide +kernel⟩
  exact main_tracks_load .single (by decide) loadedStart sane_defaults ⟨800000, 4000000, 1⟩
    (by decide +kernel) _ ['\n'] (by simp) rfl (by decide) hlater.short.1 [busyReading]
    (by simp [busyReading]) (.cons ⟨rfl, rfl, rfl⟩ .nil)
    (List.isChain_cons_cons.mpr ⟨hlater, List.isChain_singleton _⟩) _

end CpuSwitch.Daemon
