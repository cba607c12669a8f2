import CpuSwitch.Gui.Voltage

/-! The rows on screen are the domains that an apply rewrites. -/
namespace CpuSwitch.Gui
open CLib Undervolt

/-- The rows show the detected domains, and a detection has found at least one. -/
structure Consistent (app : AppState) : Prop where
  rows : ∀ index, app.undervoltDomainsVisible index =
    (!app.undervoltDomainsDetected || app.undervoltPresent index)
  detected : app.undervoltDomainsDetected = true → ∃ index, app.undervoltPresent index = true

/-- The writer is called with the mask, and nothing is installed but what it makes under it. -/
structure RewritesUnder (mask : Mask) (outcome : ApplyOutcome) (session applied : Session) :
    Prop where
  handed : applied.log = .handed session.app.undervoltSpins mask :: session.log
  installed : ∀ text stdoutText, undervoltWriteConfigCopyMasked session.configFile
      outcome.temporary session.app.undervoltSpins mask = (.ok (), .stored text) →
    outcome.install = .succeeded stdoutText → applied.configFile = .readable text
  file : applied.configFile = session.configFile ∨
    ∃ text, undervoltWriteConfigCopyMasked session.configFile outcome.temporary
        session.app.undervoltSpins mask = (.ok (), .stored text) ∧
      applied.configFile = .readable text

section
variable {app : AppState} {session session' : Session} {action : Action} {backend : Backend}
  {result : CommandResult} {message : String} {isError : Bool} {offsets : Offsets}

theorem domainSelected_mask (index : Fin 5) :
    domainSelected index app.mask =
      (!app.undervoltDomainsDetected || app.undervoltPresent index) := by
  unfold AppState.mask domainSelected
  cases app.undervoltDomainsDetected <;> rfl

theorem Consistent.setStatus (h : Consistent app) :
    Consistent (Gui.setStatus app message isError) := ⟨h.rows, h.detected⟩

theorem Consistent.valuesToWidgets (h : Consistent app) :
    Consistent (undervoltValuesToWidgets app offsets) := ⟨h.rows, h.detected⟩

theorem Consistent.status {status : Option (String × Bool)} (h : Consistent app) :
    Consistent { app with status } := ⟨h.rows, h.detected⟩

/-- Every path of a detection forgets the last one and shows all rows. -/
theorem consistent_refresh : Consistent (refreshUndervoltBackend backend session).app := by
  unfold refreshUndervoltBackend
  split
  · exact ⟨fun _ => rfl, by rintro ⟨⟩⟩
  · split
    · exact ⟨fun _ => rfl, by rintro ⟨⟩⟩
    · split
      · exact ⟨fun _ => rfl, by rintro ⟨⟩⟩
      · exact ⟨fun _ => rfl, by rintro ⟨⟩⟩

/-- A report that counts a domain marks one. -/
theorem exists_present_of_found {stdoutText : Text}
    (h : (undervoltParseReadOutputMasked stdoutText offsets).found ≠ 0) :
    ∃ index, (undervoltParseReadOutputMasked stdoutText offsets).present index = true := by
  rw [undervoltParseReadOutputMasked_eq] at h ⊢
  obtain ⟨index, -, hindex⟩ := List.countP_pos_iff.mp (Nat.pos_of_ne_zero h)
  exact ⟨index, hindex⟩

theorem consistent_read (h : Consistent session.app) :
    Consistent (onUndervoltRead result session).app := by
  unfold onUndervoltRead
  split
  · exact h.setStatus
  · exact h.setStatus
  · dsimp only
    split
    · exact h.setStatus
    · rename_i hfound
      have hshown : Consistent (updateUndervoltDomainVisibility
          { session.app with
            undervoltPresent := _
            undervoltDomainsDetected := true }) :=
        ⟨fun _ => rfl, fun _ => exists_present_of_found hfound⟩
      exact hshown.valuesToWidgets.setStatus

theorem consistent_apply {outcome : ApplyOutcome} (h : Consistent session.app) :
    Consistent (onUndervoltApply outcome session).app := by
  unfold onUndervoltApply
  split
  · exact h.setStatus
  · obtain ⟨status, happ⟩ := (writeAndApply_applies outcome session).app
    rw [happ]
    exact h.status

theorem consistent_step (action : Action) (h : Consistent session.app) :
    Consistent (step session action).app := by
  cases action with
  | read result => exact consistent_read h
  | apply outcome => exact consistent_apply h
  | zero => exact h.valuesToWidgets.setStatus
  | refresh backend => exact consistent_refresh.setStatus
  | check atBoot => exact ⟨h.rows, h.detected⟩
  | edit configFile => exact h

/-- A step that calls the writer passes it the mask that was in force. -/
theorem mask_of_handed {present : Mask}
    (h : (step session action).log = .handed offsets present :: session.log) :
    present = session.app.mask := by
  have hm : Moves (ReachesWriter session action) session (step session action) := moves_step
  cases hm with
  | quiet log _ _ =>
    have hlength := congrArg List.length (log.symm.trans h)
    simp at hlength
  | set event _ log supplies _ _ =>
    have hevent : event = .handed offsets present := (List.cons.inj (log.symm.trans h)).1
    subst hevent
    exact supplies.elim
  | handed _ log _ _ =>
    have hevent := (List.cons.inj (log.symm.trans h)).1
    cases hevent
    rfl

/-- An apply with valid offsets and a temporary file rewrites under the mask in force. -/
theorem rewritesUnder_apply {outcome : ApplyOutcome}
    (hprogram : session.app.undervoltProgram ≠ none)
    (hvalid : undervoltValidate session.app.undervoltSpins = .ok ())
    (htemporary : outcome.temporaryError = none) :
    RewritesUnder session.app.mask outcome session (step session (.apply outcome)) := by
  obtain ⟨program, hprogram⟩ := Option.ne_none_iff_exists'.mp hprogram
  have happlied : step session (.apply outcome) = (writeAndApplyUndervolt outcome session).2 := by
    simp only [step, onUndervoltApply, hprogram]
  have happlies := writeAndApply_applies outcome session
  rw [happlied]
  constructor
  · rw [happlies.log, if_pos ⟨hvalid, htemporary⟩]
  · intro text stdoutText hwrite hinstall
    exact happlies.installed_file ⟨hvalid, htemporary⟩ hwrite hinstall
  · rcases happlies.file with ⟨-, hkept⟩ | hrewritten
    · exact Or.inl hkept
    · exact Or.inr hrewritten

/-- After every run the rows on screen are the domains that the writer would be told to rewrite,
there is at least one, an apply hands over exactly these, and it rewrites the file for them. -/
theorem rows_shown_are_written (configFile : ConfigFile) (backend : Backend) (configError : String)
    (actions : List Action) :
    let session := run step (activate configFile backend configError) actions
    (∀ index, session.app.undervoltDomainsVisible index =
      domainSelected index session.app.mask) ∧
    (∃ index, session.app.undervoltDomainsVisible index = true) ∧
    (∀ action offsets present,
      (step session action).log = .handed offsets present :: session.log →
        ∀ index, domainSelected index present = session.app.undervoltDomainsVisible index) ∧
    ∀ outcome, session.app.undervoltProgram ≠ none →
      undervoltValidate session.app.undervoltSpins = .ok () → outcome.temporaryError = none →
        RewritesUnder session.app.mask outcome session (step session (.apply outcome)) := by
  have h : Consistent (run step (activate configFile backend configError) actions).app :=
    run_invariant (P := fun session : Session => Consistent session.app)
      consistent_refresh.setStatus fun _ action hs => consistent_step action hs
  intro session
  have hrows : ∀ index, session.app.undervoltDomainsVisible index =
      domainSelected index session.app.mask := by
    intro index
    rw [domainSelected_mask]
    exact h.rows index
  refine ⟨hrows, ?_, fun action offsets present hlog index => ?_,
    fun outcome hprogram hvalid htemporary => rewritesUnder_apply hprogram hvalid htemporary⟩
  · by_cases hd : session.app.undervoltDomainsDetected = true
    · obtain ⟨index, hindex⟩ := h.detected hd
      refine ⟨index, (h.rows index).trans ?_⟩
      rw [hindex, Bool.or_true]
    · refine ⟨0, (h.rows 0).trans ?_⟩
      rw [Bool.not_eq_true] at hd
      rw [hd]
      rfl
  · rw [hrows, mask_of_handed hlog]

end

end CpuSwitch.Gui
