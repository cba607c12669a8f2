import CpuSwitch.Setup.Model

/-! Which interrupted setups a later one completes. -/
namespace CpuSwitch.Setup
open CLib

/-- Every command works. -/
structure Course.Faultless (course : Course) : Prop where
  pkexecFound : course.pkexecFound = true
  staged : course.staged = true
  authorized : course.authorized = true
  root : course.root = true
  daemonFound : course.daemonFound = true
  unitFound : course.unitFound = true
  configFound : course.configFound = true
  daemon : course.daemon = .done
  unit : course.unit = .done
  config : course.config = .done
  reload : course.reload = true
  enable : course.enable = true
  restart : course.restart = true

/-- A setup by this image in which nothing fails, or another boot. -/
inductive Smooth (image : AppImage) : Event → Prop where
  | setup {course : Course} (h : course.Faultless) : Smooth image (.setup image course)
  | reboot : Smooth image .reboot

/-- What a whole setup makes of the machine. -/
def System.setUp (s : System) (components : Components) : System where
  daemon := some ⟨components.daemon, true⟩
  unit := some ⟨components.unit, true⟩
  config := s.config.or (some ⟨components.defaultConfig, true⟩)
  enabled := true
  told := true

section
variable {image : AppImage} {components : Components} {course : Course} {s : System}
  {file : Installed} {event : Event} {events : List Event} {result : Result} {source : Bytes}

theorem upToDate_done : upToDate (some source) (some ⟨source, true⟩) = true := by
  simp [upToDate]

theorem required_ok (h : image.required = .ok components) :
    image.daemon = some components.daemon ∧ image.unit = some components.unit := by
  unfold AppImage.required at h
  split at h
  · cases h
  · cases h
  · cases h
  · next hdaemon hunit _ =>
    split at h
    · cases h
      exact ⟨hdaemon, hunit⟩
    · cases h

theorem needSetup_setUp (h : image.required = .ok components) :
    needSetup image (s.setUp components) = false := by
  obtain ⟨hdaemon, hunit⟩ := required_ok h
  simp only [needSetup, System.setUp, hdaemon, hunit, upToDate_done, Bool.not_true, Bool.or_self]

theorem ensure_unneeded (h : needSetup image s = false) :
    ensureSystemComponents course image s = (.ok (), s) := if_pos h

/-- The installer carried out to its end. -/
theorem ensure_faultless (hneed : needSetup image s = true) (h : course.Faultless)
    (himage : image.required = .ok components) :
    ensureSystemComponents course image s = (.ok (), s.setUp components) := by
  have hconfig : ∀ s : System, installConfig course components.defaultConfig s =
      (.ok (), { s with config := s.config.or (some ⟨components.defaultConfig, true⟩) }) := by
    rintro ⟨daemon, unit, config, enabled, told⟩
    cases config with
    | none => simp [installConfig, h.config, install]
    | some file => rfl
  simp [ensureSystemComponents, hneed, h.pkexecFound, himage, h.staged, h.authorized,
    installSystemComponents, h.root, h.daemonFound, h.unitFound, h.configFound, h.daemon, h.unit,
    hconfig, activateService, h.reload, h.enable, h.restart, System.installDaemon,
    System.installUnit, install, System.setUp]

/-- The service manager is told only about a service that it also starts at boot. -/
def Truthful (s : System) : Prop := s.told = true → s.enabled = true

theorem truthful_stage {stage : System} (h : Truthful s)
    (hstage : stage ∈ stages course components s) : Truthful stage := by
  have hdaemon : Truthful (s.installDaemon course.daemon components.daemon) :=
    fun htold => h (Bool.and_eq_true _ _ ▸ htold).1
  have hunit : Truthful ((s.installDaemon course.daemon components.daemon).installUnit course.unit
      components.unit) := fun htold => hdaemon (Bool.and_eq_true _ _ ▸ htold).1
  have hconfig : Truthful (installConfig course components.defaultConfig
      ((s.installDaemon course.daemon components.daemon).installUnit course.unit
        components.unit)).2 := by
    unfold installConfig
    dsimp only
    split_ifs
    · exact hunit
    · exact hunit
    · exact hunit
  simp only [stages, List.mem_cons, List.not_mem_nil, or_false] at hstage
  rcases hstage with rfl | rfl | rfl | rfl | rfl
  · exact hdaemon
  · exact hunit
  · exact hconfig
  · exact fun _ => rfl
  · exact fun _ => rfl

theorem truthful_step (h : Truthful s) (hevent : ∀ reread, event ≠ .restart reread) :
    Truthful (step s event) := by
  cases event with
  | setup image course =>
    rcases @ensure_cases image course s with hsame | ⟨components, -, hstage⟩
    · rw [step, hsame]
      exact h
    · exact truthful_stage h hstage
  | save bytes result => exact h
  | restart reread => exact (hevent reread rfl).elim
  | reboot => exact id

theorem truthful_run (h : ∀ reread, .restart reread ∉ events) :
    Truthful (run step .bare events) := by
  apply run_invariant_of_mem (P := Truthful) (fun h => h)
  intro s event hmem hs
  exact truthful_step hs fun reread heq => h reread (heq ▸ hmem)

/-- Where the files are those of the image, only the service manager changes any more. -/
theorem run_unneeded (hneed : needSetup image s = false)
    (h : ∀ event ∈ events, Smooth image event) :
    run step s events =
      { s with told := if .reboot ∈ events then s.enabled else s.told } := by
  induction events generalizing s with
  | nil => rfl
  | cons event events ih =>
    have hevents : ∀ event ∈ events, Smooth image event :=
      fun other ho => h other (List.mem_cons_of_mem _ ho)
    rw [run_cons]
    cases h event List.mem_cons_self with
    | @setup course hcourse =>
      have hstep : step s (.setup image course) = s := by
        rw [step, ensure_unneeded hneed]
      rw [hstep, ih hneed hevents]
      simp
    | reboot =>
      have hnext := @ih { s with told := s.enabled } hneed hevents
      rw [step, hnext]
      simp

/-- The first setup does everything; what comes before and after it makes no difference. -/
theorem run_needed (hneed : needSetup image s = true) (himage : image.required = .ok components)
    (h : ∀ event ∈ events, Smooth image event) (hsetup : ∃ course, .setup image course ∈ events) :
    run step s events = s.setUp components := by
  induction events generalizing s with
  | nil =>
    obtain ⟨course, hmem⟩ := hsetup
    simp at hmem
  | cons event events ih =>
    have hevents : ∀ event ∈ events, Smooth image event :=
      fun other ho => h other (List.mem_cons_of_mem _ ho)
    rw [run_cons]
    cases h event List.mem_cons_self with
    | @setup course hcourse =>
      have hstep : step s (.setup image course) = s.setUp components := by
        rw [step, ensure_faultless hneed hcourse himage]
      rw [hstep, run_unneeded (needSetup_setUp himage) hevents]
      simp [System.setUp]
    | reboot =>
      have hlater : ∃ course, .setup image course ∈ events := by
        obtain ⟨course, hmem⟩ := hsetup
        rcases List.mem_cons.mp hmem with heq | hmem
        · cases heq
        · exact ⟨course, hmem⟩
      exact @ih { s with told := s.enabled } hneed hevents hlater

end

/-- After any history of setups cut short anywhere, smooth setups by one image leave its files in
place, and add settings only where a setup was needed and there were none. But the service is
started at boot only if a setup was still needed or it had been enabled before; and the service
manager knows what it runs only if a setup was needed, or it was told before, or the service had
been enabled and the machine has been booted since. Without restarts by the page, it was told only
of a service that is enabled. -/
theorem setup_completed_iff (history : List Event) (image : AppImage) (components : Components)
    (himage : image.required = .ok components) (events : List Event)
    (hsmooth : ∀ event ∈ events, Smooth image event)
    (hsetup : ∃ course, .setup image course ∈ events) :
    let s := run step .bare history
    let after := run step s events
    needSetup image after = false ∧
      after.config = s.config.or
        (if needSetup image s then some ⟨components.defaultConfig, true⟩ else none) ∧
      (after.enabled = true ↔ needSetup image s = true ∨ s.enabled = true) ∧
      (after.told = true ↔ needSetup image s = true ∨
        if .reboot ∈ events then s.enabled = true else s.told = true) ∧
      ((∀ reread, .restart reread ∉ history) → s.told = true → s.enabled = true) := by
  intro s after
  cases hneed : needSetup image s with
  | true =>
    have hafter : after = s.setUp components := run_needed hneed himage hsmooth hsetup
    rw [hafter]
    exact ⟨needSetup_setUp himage, rfl, by simp [System.setUp], by simp [System.setUp],
      truthful_run⟩
  | false =>
    have hafter : after = { s with told := if .reboot ∈ events then s.enabled else s.told } :=
      run_unneeded hneed hsmooth
    rw [hafter]
    refine ⟨hneed, by simp, by simp, ?_, truthful_run⟩
    by_cases hboot : .reboot ∈ events <;> simp [hboot]

/-- An image with one byte for each component. -/
def smallImage : AppImage := ⟨"/tmp/.mount", some [1], some [2], some [3], true⟩

def smoothCourse : Course where
  pkexecFound := true
  staged := true
  authorized := true
  root := true
  daemonFound := true
  unitFound := true
  configFound := true
  daemon := .done
  unit := .done
  config := .done
  reload := true
  enable := true
  restart := true
  complaint := ""

/-- The service manager fails once: the service is never started, whatever follows. -/
theorem setup_completed_never :
    (run step (run step .bare [.setup smallImage { smoothCourse with reload := false }])
      [.setup smallImage smoothCourse, .reboot]).enabled = false := by
  have hsmooth : smoothCourse.Faultless :=
    ⟨rfl, rfl, rfl, rfl, rfl, rfl, rfl, rfl, rfl, rfl, rfl, rfl, rfl⟩
  have h := (setup_completed_iff [.setup smallImage { smoothCourse with reload := false }]
    smallImage ⟨[1], [2], [3]⟩ rfl [.setup smallImage smoothCourse, .reboot]
    (by simp [Smooth.setup hsmooth, Smooth.reboot]) ⟨smoothCourse, List.mem_cons_self⟩).2.2.1
  rw [← Bool.not_eq_true, h]
  decide

end CpuSwitch.Setup
