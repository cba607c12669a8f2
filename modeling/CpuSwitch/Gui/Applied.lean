import CpuSwitch.Gui.Visibility
import CpuSwitch.Undervolt.Resave

/-! What an apply leaves in the file, and what the page then makes of it. -/
namespace CpuSwitch.Gui
open CLib Undervolt

/-- A text file whose last line ends in a newline, or no file at all. -/
structure Textual (file : ConfigFile) : Prop where
  noNul : file.NoNul
  linesEnd : file.LinesEnd

section
variable {session : Session} {outcome : ApplyOutcome} {backend : Backend} {result : CommandResult}
  {action : Action} {value : ℚ} {text : Text} {offsets : Offsets} {present : Mask}
  {file : ConfigFile} {output : Output}

theorem textual_stored (h : Textual file)
    (hwrite : undervoltWriteConfigCopyMasked file output offsets present = (.ok (), .stored text)) :
    Textual (.readable text) := by
  have hsave : save present file (output, offsets) = some (.readable text) := by
    simp only [save, hwrite]
  have hresaved := resaved_save (resaved_refl h.noNul h.linesEnd) hsave
  exact ⟨hresaved.noNul, hresaved.linesEnd⟩

/-- Only an apply and somebody outside change the file. -/
theorem textual_step (hfile : ∀ file, action = .edit file → Textual file)
    (h : Textual session.configFile) : Textual (step session action).configFile := by
  cases action with
  | read result =>
    have hsame : (onUndervoltRead result session).configFile = session.configFile := by
      unfold onUndervoltRead
      split
      · rfl
      · rfl
      · dsimp only
        split <;> rfl
    exact hsame ▸ h
  | apply outcome =>
    simp only [step, onUndervoltApply]
    split
    · exact h
    · rcases (writeAndApply_applies outcome session).file with
        ⟨-, hsame⟩ | ⟨text, hwrite, hstored⟩
      · exact hsame ▸ h
      · exact hstored ▸ textual_stored h hwrite
  | zero => exact h
  | refresh backend =>
    have hsame : (onUndervoltRefresh backend session).configFile = session.configFile := by
      unfold onUndervoltRefresh refreshUndervoltBackend
      dsimp only
      repeat' split
      all_goals rfl
    exact hsame ▸ h
  | check atBoot => exact h
  | edit file => exact hfile file rfl

theorem clamp_of_range (hlo : -150 ≤ value) (hhi : value ≤ 0) :
    (Double.finite value).clamp undervoltMinMv undervoltMaxMv = .finite value := by
  have hmost : ¬ (Double.finite 0 < .finite value) := not_lt.mpr hhi
  have hleast : ¬ (Double.finite value < .finite (-150)) := not_lt.mpr hlo
  rw [Double.clamp, undervoltMaxMv, undervoltMinMv, if_neg hmost, if_neg hleast]

/-- A detection shows the offsets of the file, or keeps those on screen when it cannot. -/
theorem spins_refresh {program : String} (hintel : backend.isIntel = true)
    (hprogram : backend.program = some program) (session : Session) :
    ((undervoltLoadConfig session.configFile).1 = .ok () →
        (onUndervoltRefresh backend session).app.undervoltSpins = fun index =>
          ((undervoltLoadConfig session.configFile).2 index).clamp undervoltMinMv
            undervoltMaxMv) ∧
      ((undervoltLoadConfig session.configFile).1 ≠ .ok () →
        (onUndervoltRefresh backend session).app.undervoltSpins =
          session.app.undervoltSpins) := by
  unfold onUndervoltRefresh refreshUndervoltBackend
  simp only [hintel, hprogram, Bool.true_eq_false, if_false]
  cases undervoltLoadConfig session.configFile with
  | mk result offsets =>
    cases result with
    | ok _ => exact ⟨fun _ => rfl, fun h => (h rfl).elim⟩
    | error message => exact ⟨(fun h => nomatch h), fun _ => rfl⟩

/-- The file stays a text file as long as nobody puts anything else there. -/
theorem textual_run {configFile : ConfigFile} {configError : String} {actions : List Action}
    (hfile : Textual configFile) (hedits : ∀ file, .edit file ∈ actions → Textual file) :
    Textual (run step (activate configFile backend configError) actions).configFile := by
  have hstart : Textual (activate configFile backend configError).configFile := by
    have hsame : (activate configFile backend configError).configFile = configFile := by
      unfold activate refreshUndervoltBackend
      dsimp only
      repeat' split
      all_goals rfl
    rw [hsame]
    exact hfile
  apply run_invariant_of_mem (P := fun session : Session => Textual session.configFile) hstart
  intro session action hmem h
  exact textual_step (fun file heq => hedits file (heq ▸ hmem)) h

/-- What the page shows of the domains after an apply that works and a new detection. -/
theorem spins_reapplied {program : String} (hfile : Textual session.configFile)
    (happlied : (writeAndApplyUndervolt outcome session).1 = true)
    (hintel : backend.isIntel = true) (hprogram : backend.program = some program) {index : Fin 5}
    (hs : domainSelected index session.app.mask = true) :
    let after := onUndervoltRefresh backend (writeAndApplyUndervolt outcome session).2
    ∃ value, session.app.undervoltSpins index = .finite value ∧
      ((undervoltLoadConfig (writeAndApplyUndervolt outcome session).2.configFile).1 = .ok () →
        after.app.undervoltSpins index = .finite (roundTo 2 value)) ∧
      ((undervoltLoadConfig (writeAndApplyUndervolt outcome session).2.configFile).1 ≠ .ok () →
        after.app.undervoltSpins index = .finite value) := by
  intro after
  obtain ⟨status, happ⟩ := (writeAndApply_applies outcome session).app
  obtain ⟨hloaded, hkept⟩ :=
    spins_refresh hintel hprogram (writeAndApplyUndervolt outcome session).2
  rcases (writeAndApply_applies outcome session).file with
    ⟨hfailed, -⟩ | ⟨text, hwrite, hstored⟩
  · cases happlied.symm.trans hfailed
  · obtain ⟨hv, htext⟩ := rewrite_ok (congrArg Prod.fst hwrite)
    rw [hwrite] at htext
    obtain ⟨value, hvalue, hlo, hhi⟩ := offset_of_valid hv index
    obtain ⟨hlo', hhi'⟩ := roundTo_range hlo hhi
    refine ⟨value, hvalue, fun hok => ?_, fun hbad => ?_⟩
    · have hload := @load_rewritten _ session.app.mask _ hv hfile.noNul hfile.linesEnd
      rw [← Destination.stored.inj htext, ← hstored] at hload
      rw [hload] at hok hloaded
      have hspins := congrFun (hloaded hok) index
      rw [loadLines_value hok, lastOffset_rewritten hv hs hvalue, Option.getD_some,
        clamp_of_range hlo' hhi'] at hspins
      exact hspins
    · rw [hkept hbad, happ]
      exact hvalue

end

/-- On a page whose file is a text file, whatever has been done before: an apply that works and a
new detection leave every row that was visible at the voltage that was applied, rounded to the
hundredths in the file, or untouched where the file cannot be loaded for another domain's line. -/
theorem applied_voltages_stay (configFile : ConfigFile) (backend : Backend) (configError : String)
    (actions : List Action) (hfile : Textual configFile)
    (hedits : ∀ file, .edit file ∈ actions → Textual file) (outcome : ApplyOutcome)
    (backend' : Backend) (program program' : String)
    (hprogram : (run step (activate configFile backend configError) actions).app.undervoltProgram =
      some program)
    (happlied : (writeAndApplyUndervolt outcome
      (run step (activate configFile backend configError) actions)).1 = true)
    (hintel : backend'.isIntel = true) (hprogram' : backend'.program = some program') :
    let session := run step (activate configFile backend configError) actions
    let applied := step session (.apply outcome)
    let after := step applied (.refresh backend')
    Textual after.configFile ∧
      ∀ index, session.app.undervoltDomainsVisible index = true →
        ∃ value, session.app.undervoltSpins index = .finite value ∧
          ((undervoltLoadConfig applied.configFile).1 = .ok () →
            after.app.undervoltSpins index = .finite (roundTo 2 value)) ∧
          ((undervoltLoadConfig applied.configFile).1 ≠ .ok () →
            after.app.undervoltSpins index = .finite value) := by
  intro session applied after
  have hconsistent : Consistent session.app :=
    run_invariant (P := fun session : Session => Consistent session.app)
      consistent_refresh.setStatus fun _ action hs => consistent_step action hs
  have htextual : Textual session.configFile := textual_run hfile hedits
  have happlied' : applied = (writeAndApplyUndervolt outcome session).2 := by
    simp only [applied, step, onUndervoltApply, session, hprogram]
  refine ⟨textual_step (by simp) (textual_step (by simp) htextual), fun index hvisible => ?_⟩
  have hs : domainSelected index session.app.mask = true := by
    rw [domainSelected_mask, ← hconsistent.rows]
    exact hvisible
  have hshown := spins_reapplied htextual happlied hintel hprogram' hs
  rw [← happlied'] at hshown
  exact hshown

/-- A file of somebody else with more decimals than a save keeps. -/
def preciseFile : ConfigFile := .readable "enable yes\nundervolt 0 'CPU' -60.557\n".toList

theorem applied_voltages_stay_rounded :
    let session := run step (activate preciseFile installed "") []
    let applied := step session (.apply .steady)
    let after := step applied (.refresh installed)
    session.app.undervoltSpins 0 = .finite (-60.557) ∧
      after.app.undervoltSpins 0 = .finite (-60.56) := by
  intro session applied after
  have hfile : Textual preciseFile := by
    constructor
    · intro contents h
      cases h
      decide
    · intro contents h
      cases h
      decide
  obtain ⟨value, hvalue, hloaded, -⟩ :=
    (applied_voltages_stay preciseFile installed "" [] hfile (by simp) .steady installed
      "/usr/bin/intel-undervolt" "/usr/bin/intel-undervolt" (by decide +kernel) (by decide +kernel)
      rfl rfl).2 0 (by decide +kernel)
  have hshown : session.app.undervoltSpins 0 = .finite (-60.557) := by decide +kernel
  have hok : (undervoltLoadConfig applied.configFile).1 = .ok () := by decide +kernel
  cases hshown.symm.trans hvalue
  refine ⟨hshown, (hloaded hok).trans ?_⟩
  decide +kernel

end CpuSwitch.Gui
