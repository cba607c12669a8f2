import CpuSwitch.Config.Runtime
import CpuSwitch.Daemon.Agreement
import CpuSwitch.Daemon.Usage

/-! The daemon as a process: how it starts, sleeps and is stopped. -/
namespace CpuSwitch.Daemon
open CLib Config Cpufreq

/-- A `struct timespec` that `nanosleep` accepts. -/
structure Timespec where
  tvSec : ℕ
  tvNsec : ℕ
  valid : tvNsec < 10 ^ 9

def Timespec.nanoseconds (time : Timespec) : ℕ := time.tvSec * 10 ^ 9 + time.tvNsec

/-- What `nanosleep` stores as the rest of an interrupted sleep. -/
def Timespec.ofNanoseconds (n : ℕ) : Timespec where
  tvSec := n / 10 ^ 9
  tvNsec := n % 10 ^ 9
  valid := Nat.mod_lt _ (by decide)

/-- The product stays far below the word size. -/
theorem toNat_tvNsec (milliseconds : UInt64) :
    (milliseconds % 1000 * 1000000).toNat = milliseconds.toNat % 1000 * 1000000 := by
  have hmod : milliseconds.toNat % 1000 < 1000 := Nat.mod_lt _ (by decide)
  rw [UInt64.toNat_mul, UInt64.toNat_mod]
  simp only [UInt64.reduceToNat]
  exact Nat.mod_eq_of_lt (by omega)

/-- The initializer in `sleep_ms`. -/
def Timespec.ofMilliseconds (milliseconds : UInt64) : Timespec where
  tvSec := (milliseconds / 1000).toNat
  tvNsec := (milliseconds % 1000 * 1000000).toNat
  valid := by
    have hmod : milliseconds.toNat % 1000 < 1000 := Nat.mod_lt _ (by decide)
    rw [toNat_tvNsec]
    omega

/-- How a call of `nanosleep` ends before its time: by a signal, which may be the one that asks
the daemon to stop, or by another error. -/
inductive Nap where
  | interrupted (slept : ℕ) (stops : Bool)
  | failed
  deriving DecidableEq

/-- The loop of `sleep_ms`: the flag `running` afterwards and the nanoseconds slept. A call that
has no entry in the list runs to its end. -/
def sleepLoop : List Nap → Timespec → Bool × ℕ
  | [], remaining => (true, remaining.nanoseconds)
  | .failed :: _, _ => (true, 0)
  | .interrupted slept stops :: naps, remaining =>
    let slept := min slept remaining.nanoseconds
    if stops then (false, slept)
    else
      let (running, more) := sleepLoop naps (.ofNanoseconds (remaining.nanoseconds - slept))
      (running, slept + more)

def sleepMs (milliseconds : UInt64) (naps : List Nap) : Bool × ℕ :=
  sleepLoop naps (.ofMilliseconds milliseconds)

/-- What one turn of the main loop meets; `stops` tells a stop signal after the sleep. -/
structure Turn where
  naps : List Nap
  stat : StatFile
  kernel : Kernel
  stops : Bool

def Turn.input (turn : Turn) : Except String CpuTimes × Kernel :=
  (cpuLinuxReadTimes turn.stat, turn.kernel)

/-- The flag `running`, the loop's variables, and the nanoseconds slept so far. -/
structure Process where
  running : Bool
  loop : Loop
  slept : ℕ

def takeTurn (config : CpuConfig) (dir : Directory) (p : Process) (turn : Turn) : Process :=
  if p.running = false then p
  else match sleepMs config.intervalMs turn.naps with
    | (false, slept) => { p with running := false, slept := p.slept + slept }
    | (true, slept) =>
      { running := !turn.stops
        loop := iterate config dir p.loop turn.input
        slept := p.slept + slept }

/-- `main` has not ended yet, has returned 0, or has returned 1 after a message. -/
inductive Ending where
  | alive
  | stopped
  | failed (message : String)
  deriving DecidableEq

/-- Everything outside that one run of the program depends on. -/
structure Outside where
  file : ConfigFile
  detection : Kernel
  first : StatFile
  turns : List Turn

/-- How far a run of the program has come. -/
structure Life where
  ending : Ending
  controller : Controller
  slept : ℕ

def main (dir : Directory) (scaling : DirName → Limits) (outside : Outside) : Life :=
  let config := loadRuntimeConfig outside.file
  match cpuLinuxDetectFrequencyRange outside.detection dir with
  | .error message => ⟨.failed s!"cpu-clock-switch: {message}\n", .start scaling, 0⟩
  | .ok _ =>
    match cpuLinuxReadTimes outside.first with
    | .error message => ⟨.failed s!"cpu-clock-switch: {message}\n", .start scaling, 0⟩
    | .ok previous =>
      let p := run (takeTurn config dir) ⟨true, ⟨previous, .start scaling⟩, 0⟩ outside.turns
      ⟨if p.running then .alive else .stopped, p.loop.controller, p.slept⟩

/-- The stop signal comes while the daemon sleeps. -/
def stopsAsleep : List Nap → Bool
  | [] => false
  | .failed :: _ => false
  | .interrupted _ stops :: naps => stops || stopsAsleep naps

def Turn.stopRequested (turn : Turn) : Bool := stopsAsleep turn.naps || turn.stops

/-- The turns that are carried out, up to the first stop request. -/
def served : List Turn → List Turn
  | [] => []
  | turn :: turns =>
    if stopsAsleep turn.naps then []
    else if turn.stops then [turn]
    else turn :: served turns

section Sleep
variable {naps : List Nap} {remaining : Timespec} {milliseconds : UInt64} {n : ℕ}

theorem sleepLoop_running : (sleepLoop naps remaining).1 = !stopsAsleep naps := by
  induction naps generalizing remaining with
  | nil => rfl
  | cons nap naps ih =>
    cases nap with
    | failed => rfl
    | interrupted slept stops => cases stops <;> simp [sleepLoop, stopsAsleep, ih]

end Sleep

section Turns
variable {config : CpuConfig} {dir : Directory} {p : Process} {turn : Turn}
  {front back turns : List Turn} {c : Controller} {d : Loop}

theorem takeTurn_stopped (h : p.running = false) : takeTurn config dir p turn = p := if_pos h

theorem run_stopped (h : p.running = false) : run (takeTurn config dir) p turns = p := by
  induction turns generalizing p with
  | nil => rfl
  | cons turn turns ih =>
    rw [run_cons, takeTurn_stopped h]
    exact ih h

/-- A stop signal during the sleep: the turn does nothing else. -/
theorem takeTurn_asleep (config : CpuConfig) (dir : Directory) (p : Process)
    (h : stopsAsleep turn.naps = true) :
    (takeTurn config dir p turn).running = false ∧ (takeTurn config dir p turn).loop = p.loop := by
  have hrunning : (sleepMs config.intervalMs turn.naps).1 = false := by
    rw [sleepMs, sleepLoop_running, h]
    rfl
  unfold takeTurn
  split_ifs with hp
  · exact ⟨hp, rfl⟩
  · split
    · exact ⟨rfl, rfl⟩
    · simp_all

theorem takeTurn_awake (hp : p.running = true) (h : stopsAsleep turn.naps = false) :
    takeTurn config dir p turn =
      ⟨!turn.stops, iterate config dir p.loop turn.input,
        p.slept + (sleepMs config.intervalMs turn.naps).2⟩ := by
  have hrunning : (sleepMs config.intervalMs turn.naps).1 = true := by
    rw [sleepMs, sleepLoop_running, h]
    rfl
  unfold takeTurn
  rw [if_neg (by simp [hp])]
  split
  · simp_all
  · rename_i slept heq
    rw [heq]

/-- With signals and sleep left out the process is the loop over the turns carried out. -/
theorem run_takeTurn (config : CpuConfig) (dir : Directory) (hp : p.running = true)
    (turns : List Turn) :
    (run (takeTurn config dir) p turns).loop =
        run (iterate config dir) p.loop ((served turns).map Turn.input) ∧
      (run (takeTurn config dir) p turns).running = !turns.any Turn.stopRequested := by
  induction turns generalizing p with
  | nil => exact ⟨rfl, hp⟩
  | cons turn turns ih =>
    rw [run_cons]
    cases hasleep : stopsAsleep turn.naps with
    | true =>
      obtain ⟨hrunning, hloop⟩ := takeTurn_asleep config dir p hasleep
      rw [run_stopped hrunning]
      simp [served, hasleep, Turn.stopRequested, hrunning, hloop]
    | false =>
      have hturn : takeTurn config dir p turn = _ := takeTurn_awake hp hasleep
      cases hstops : turn.stops with
      | true =>
        rw [run_stopped (by rw [hturn, hstops]; rfl)]
        simp [served, hasleep, Turn.stopRequested, hturn, hstops]
      | false =>
        obtain ⟨hloop, hrunning⟩ := @ih (takeTurn config dir p turn) (by rw [hturn, hstops]; rfl)
        rw [hloop, hrunning, hturn]
        simp [served, hasleep, Turn.stopRequested, hstops]

theorem served_of_unstopped (back : List Turn) (h : ∀ turn ∈ front, turn.stopRequested = false) :
    served (front ++ back) = front ++ served back := by
  induction front with
  | nil => rfl
  | cons turn front ih =>
    obtain ⟨hasleep, hstops⟩ := Bool.or_eq_false_iff.mp (h turn List.mem_cons_self)
    simp [served, hasleep, hstops, ih fun other ho => h other (List.mem_cons_of_mem _ ho)]

/-- Past the two checks at its start the program is the loop. -/
theorem main_started {scaling : DirName → Limits} {outside : Outside} {detected : Detected}
    {previous : CpuTimes}
    (hdetected : cpuLinuxDetectFrequencyRange outside.detection dir = .ok detected)
    (hprevious : cpuLinuxReadTimes outside.first = .ok previous) :
    (main dir scaling outside).controller =
        (run (iterate (loadRuntimeConfig outside.file) dir) ⟨previous, .start scaling⟩
          ((served outside.turns).map Turn.input)).controller ∧
      (main dir scaling outside).ending =
        if outside.turns.any Turn.stopRequested then .stopped else .alive := by
  have hstart : (⟨true, ⟨previous, .start scaling⟩, 0⟩ : Process).running = true := rfl
  obtain ⟨hloop, hrunning⟩ :=
    run_takeTurn (loadRuntimeConfig outside.file) dir hstart outside.turns
  simp only [main, hdetected, hprevious, hloop, hrunning, true_and]
  cases outside.turns.any Turn.stopRequested <;> rfl

theorem served_of_all (h : ∀ turn ∈ turns, turn.stopRequested = false) : served turns = turns := by
  have hserved := served_of_unstopped [] h
  rwa [List.append_nil, served, List.append_nil] at hserved

end Turns

section Pace
variable {config : CpuConfig} {dir : Directory} {p : Process} {turn : Turn} {turns : List Turn}
  {d : Loop} {input : Except String CpuTimes × Kernel}

end Pace

end CpuSwitch.Daemon
