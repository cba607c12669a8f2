import CpuSwitch.Gui.Saved

/-! What the banner says after a save. -/
namespace CpuSwitch.Gui
open CLib Config Cpufreq Command

/-- The banner is there, with a text, and its colour tells success from failure. -/
def Reported (result : Bool × FrequencySession) : Prop :=
  ∃ message, message ≠ "" ∧ result.2.page.status = some (message, !result.1)

section
variable {session : FrequencySession} {message : String} {detail text : Text} {done : Bool}
  {config : CpuConfig} {minKhz maxKhz : UInt64} {checkRange : Bool} {write : WriteOutcome}
  {outcome : SaveOutcome} {argv : Argv}

theorem reported_setStatus (h : message ≠ "") :
    Reported (done, session.setStatus message (!done)) :=
  ⟨message, h, if_neg h⟩

theorem ofList_ne_empty (h : detail ≠ []) : String.ofList detail ≠ "" := by
  intro hempty
  apply h
  simpa using congrArg String.toList hempty

theorem message_of_validate
    (h : cpuConfigValidate config minKhz maxKhz checkRange = .error message) : message ≠ "" := by
  unfold cpuConfigValidate at h
  split_ifs at h
  all_goals
    cases h
    simp

theorem message_of_write (h : cpuConfigWrite write config = .error message) : message ≠ "" := by
  cases write with
  | unopenable path reason =>
    cases h
    intro hempty
    have hlength := congrArg String.length hempty
    have hfirst : 0 < (toString "Não foi possível gravar ").length := by decide
    simp only [String.length_append, String.length_empty] at hlength
    omega
  | failed =>
    cases h
    simp
  | stored => cases h

theorem message_of_pkexec {answer : Spawned} (h : commandRunPkexec answer = .error detail) :
    detail ≠ [] := (presentable_detail h).nonempty

theorem message_of_install {temporaryPath : String}
    (h : (installConfig outcome temporaryPath config text session).1 = .error detail) :
    detail ≠ [] := by
  unfold installConfig at h
  dsimp only at h
  split at h
  · next hanswer =>
    cases h
    exact message_of_pkexec hanswer
  · cases h

theorem message_of_ensure (h : (ensureFrequencyService outcome session).1 = .error detail) :
    detail ≠ [] := by
  unfold ensureFrequencyService at h
  dsimp only at h
  split_ifs at h
  · cases h
    decide
  · cases h
    decide
  · cases h
    exact (presentable_commandFailureDetail _).nonempty
  · cases h
    decide

theorem message_of_restart (h : (restartService outcome session).1 = .error detail) :
    detail ≠ [] := by
  unfold restartService at h
  cases hensure : ensureFrequencyService outcome session with
  | mk result later =>
    rw [hensure] at h
    cases result with
    | error message =>
      cases h
      exact message_of_ensure (congrArg Prod.fst hensure)
    | ok _ => exact message_of_pkexec h

end

/-- A save is never silent: a banner with a text tells whether it succeeded, whatever goes wrong
and whatever the commands print or do not print. -/
theorem save_reports (session : FrequencySession) (outcome : SaveOutcome) (restart : Bool)
    (htemporary : outcome.temporary ≠ .error (some "")) :
    Reported (saveFrequencyConfig outcome restart session) := by
  unfold saveFrequencyConfig
  dsimp only
  by_cases hdetected : session.page.haveFrequencyRange = false
  · rw [if_pos hdetected]
    exact reported_setStatus (by simp)
  · rw [if_neg hdetected]
    cases hv : cpuConfigValidate (frequencyWidgetsToConfig session.widgets) session.page.minKhz
        session.page.maxKhz true with
    | error message => exact reported_setStatus (message_of_validate hv)
    | ok _ =>
      cases ht : outcome.temporary with
      | error message =>
        cases message with
        | none => exact reported_setStatus (by simp)
        | some message =>
          exact reported_setStatus fun hempty => htemporary (hempty ▸ ht)
      | ok temporaryPath =>
        cases hw : cpuConfigWrite outcome.write (frequencyWidgetsToConfig session.widgets) with
        | error message => exact reported_setStatus (message_of_write hw)
        | ok text =>
          dsimp only
          cases hi : installConfig outcome temporaryPath
              (frequencyWidgetsToConfig session.widgets) text
              { session with page :=
                { session.page with config := frequencyWidgetsToConfig session.widgets } } with
          | mk result later =>
            cases result with
            | error detail =>
              exact reported_setStatus (ofList_ne_empty (message_of_install (congrArg Prod.fst hi)))
            | ok _ =>
              dsimp only
              cases restart with
              | false => exact reported_setStatus (by simp)
              | true =>
                rw [if_pos rfl]
                cases hr : restartService outcome later with
                | mk result final =>
                  cases result with
                  | error detail =>
                    exact reported_setStatus
                      (ofList_ne_empty (message_of_restart (congrArg Prod.fst hr)))
                  | ok _ => exact reported_setStatus (by simp)

/-- A user who dismisses the request for a password gets to read something. -/
theorem save_reports_dismissed :
    Reported (saveFrequencyConfig
      { grantedOutcome with shell := fun _ _ => .ended false [] "\n".toList } true
      (openPage .steady singleDirectory .missing)) :=
  save_reports (openPage .steady singleDirectory .missing)
    { grantedOutcome with shell := fun _ _ => .ended false [] "\n".toList } true (by decide)

end CpuSwitch.Gui
