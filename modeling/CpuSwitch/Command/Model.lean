import CpuSwitch.CLib.Text

/-! External commands: how they are run, and what is made of their output. -/
namespace CpuSwitch.Command
open CLib

abbrev Argv := List String

/-- What `g_spawn_sync` and `g_spawn_check_wait_status` report of a command. -/
inductive Spawned where
  | refused (message : Text)
  | ended (succeeded : Bool) (stdoutText stderrText : Text)

/-- The answers of the system, which may change with time. -/
abbrev Shell := ℕ → Argv → Spawned

structure CommandResult where
  spawned : Bool
  exitStatus : ℕ
  stdoutText : Option Text
  stderrText : Option Text
  deriving DecidableEq

/-- `command_run`; a command that was spawned always leaves both texts. -/
def commandRun : Spawned → Bool × CommandResult
  | .refused message => (false, ⟨false, 1, none, some message⟩)
  | .ended succeeded stdoutText stderrText =>
    (succeeded, ⟨true, if succeeded then 0 else 1, some stdoutText, some stderrText⟩)

/-- `g_ascii_isspace`, which leaves out the vertical tab. -/
def gAsciiIsspace (c : Char) : Bool :=
  c = ' ' || c = '\t' || c = '\n' || c = '\x0c' || c = '\r'

def gStrstrip (buffer : Text) : Text :=
  (((cString buffer).dropWhile gAsciiIsspace).reverse.dropWhile gAsciiIsspace).reverse

/-- The text with its margins removed, unless nothing is left of it. -/
def stripped (text : Option Text) : Option Text :=
  text.bind fun text => if gStrstrip text = [] then none else some (gStrstrip text)

def commandFailureDetail (result : CommandResult) : Text :=
  (stripped result.stderrText).getD "O comando falhou ou a autorização foi cancelada.".toList

def pkexecArgv (argv : Argv) : Argv := "pkexec" :: argv

/-- `command_run_pkexec` once the command line has been answered: success, or the detail. -/
def commandRunPkexec (answer : Spawned) : Except Text Unit :=
  match commandRun answer with
  | (true, _) => .ok ()
  | (false, result) => .error ((stripped result.stderrText).getD
      "A autorização administrativa foi cancelada ou o comando falhou.".toList)

def systemctlArgv (verb unit : String) : Argv := ["systemctl", verb, unit]

/-- `command_systemctl_state` once `systemctl` has answered. -/
def commandSystemctlState (answer : Spawned) : Text :=
  let (ok, result) := commandRun answer
  (stripped result.stdoutText).getD (if ok then "ok".toList else "indisponível".toList)

def commandSystemctlIsEnabled (answer : Spawned) : Bool :=
  commandSystemctlState answer = "enabled".toList

/-- A text that a label can show: it is not empty, and no margin is left on either side. -/
structure Presentable (text : Text) : Prop where
  nonempty : text ≠ []
  first : ∀ c ∈ text.head?, gAsciiIsspace c = false
  last : ∀ c ∈ text.getLast?, gAsciiIsspace c = false

instance (text : Text) : Decidable (Presentable text) :=
  decidable_of_iff (text ≠ [] ∧ (text.head?.all (!gAsciiIsspace ·)) = true ∧
      (text.getLast?.all (!gAsciiIsspace ·)) = true)
    ⟨fun h => ⟨h.1, by simpa [Option.all_eq_true] using h.2.1,
        by simpa [Option.all_eq_true] using h.2.2⟩,
      fun h => ⟨h.nonempty, by simpa [Option.all_eq_true] using h.first,
        by simpa [Option.all_eq_true] using h.last⟩⟩

section
variable {p : Char → Bool} {text buffer fallback : Text} {answer : Spawned} {message : Text}

theorem head?_dropWhile_not : ∀ c ∈ (text.dropWhile p).head?, p c = false := by
  intro c hc
  cases hd : text.dropWhile p with
  | nil => simp [hd] at hc
  | cons d rest =>
    have hne : text.dropWhile p ≠ [] := by simp [hd]
    have hhead := List.head_dropWhile_not p hne
    simp only [hd, List.head?_cons, Option.mem_some_iff] at hc
    simpa [hd, hc] using hhead

/-- Stripping the end of a text leaves its beginning alone, unless it takes everything. -/
theorem presentable_gStrstrip (h : gStrstrip buffer ≠ []) : Presentable (gStrstrip buffer) := by
  unfold gStrstrip at h ⊢
  generalize hfront : (cString buffer).dropWhile gAsciiIsspace = front at h ⊢
  refine ⟨h, fun c hc => ?_, fun c hc => ?_⟩
  · -- What is left is a prefix of a text that starts with no space.
    have hprefix : (front.reverse.dropWhile gAsciiIsspace).reverse <+: front := by
      rw [← List.reverse_suffix, List.reverse_reverse]
      exact List.dropWhile_suffix _
    obtain ⟨rest, hrest⟩ := hprefix
    have hhead : c ∈ front.head? := by
      rw [← hrest, List.head?_append]
      simp [Option.mem_def.mp hc]
    rw [← hfront] at hhead
    exact head?_dropWhile_not c hhead
  · rw [List.getLast?_reverse] at hc
    exact head?_dropWhile_not c hc

theorem presentable_stripped (h : Presentable fallback) (text : Option Text) :
    Presentable ((stripped text).getD fallback) := by
  unfold stripped
  cases text with
  | none => exact h
  | some buffer =>
    rw [Option.bind_some]
    split_ifs with hblank
    · exact h
    · exact presentable_gStrstrip hblank

/-- However a privileged command fails, there is something to tell the user. -/
theorem presentable_detail (h : commandRunPkexec answer = .error message) :
    Presentable message := by
  unfold commandRunPkexec at h
  split at h
  · cases h
  · cases h
    exact presentable_stripped (by decide) _

theorem presentable_commandFailureDetail (result : CommandResult) :
    Presentable (commandFailureDetail result) := presentable_stripped (by decide) _

theorem presentable_commandSystemctlState (answer : Spawned) :
    Presentable (commandSystemctlState answer) := by
  have hfallback : ∀ ok : Bool,
      Presentable (if ok then "ok".toList else "indisponível".toList) := by decide
  exact presentable_stripped (hfallback _) _

end

end CpuSwitch.Command
