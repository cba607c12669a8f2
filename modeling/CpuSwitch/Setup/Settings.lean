import CpuSwitch.Setup.Repair

/-! What setups do to the settings of the user. -/
namespace CpuSwitch.Setup
open CLib

section
variable {image : AppImage} {components : Components} {course : Course} {s : System}
  {source : Bytes}

theorem config_installConfig : (installConfig course source s).2.config = s.config ∨
    s.config = none ∧
      (installConfig course source s).2.config = install course.config source none := by
  unfold installConfig
  cases hc : s.config with
  | some file => exact Or.inl hc
  | none =>
    rw [if_neg (by simp)]
    refine Or.inr ⟨rfl, ?_⟩
    dsimp only
    split_ifs
    · rfl
    · rfl

theorem config_stage {stage : System} (hstage : stage ∈ stages course components s) :
    stage.config = s.config ∨ s.config = none ∧
      stage.config = install course.config components.defaultConfig none := by
  have hconfig := @config_installConfig course
    ((s.installDaemon course.daemon components.daemon).installUnit course.unit components.unit)
    components.defaultConfig
  simp only [stages, List.mem_cons, List.not_mem_nil, or_false] at hstage
  rcases hstage with rfl | rfl | rfl | rfl | rfl
  · exact Or.inl rfl
  · exact Or.inl rfl
  · exact hconfig
  · exact hconfig
  · exact hconfig

theorem config_setup : (step s (.setup image course)).config = s.config ∨
    ∃ components, image.required = .ok components ∧ s.config = none ∧
      (step s (.setup image course)).config =
        install course.config components.defaultConfig none := by
  rcases @ensure_cases image course s with hsame | ⟨components, himage, hstage⟩
  · exact Or.inl (congrArg System.config hsame)
  · rcases config_stage hstage with hsame | ⟨hnone, hnew⟩
    · exact Or.inl hsame
    · exact Or.inr ⟨components, himage, hnone, hnew⟩

end

/-- Wherever setups are cut short: settings that exist are never touched but by a save. Where there
are none, what appears is all or the beginning of the defaults of one of the images set up. -/
theorem settings_kept (s : System) (events : List Event)
    (hsave : ∀ bytes result, .save bytes result ∉ events) :
    (∀ file, s.config = some file → (run step s events).config = some file) ∧
      (s.config = none → ∀ file, (run step s events).config = some file →
        ∃ image course components, .setup image course ∈ events ∧
          image.required = .ok components ∧
          install course.config components.defaultConfig none = some file) := by
  induction events generalizing s with
  | nil => exact ⟨fun file h => h, fun hnone file h => (by cases hnone.symm.trans h)⟩
  | cons event events ih =>
    have hrest := fun s => ih s fun bytes result hmem =>
      hsave bytes result (List.mem_cons_of_mem _ hmem)
    rw [run_cons]
    have hidle : (step s event).config = s.config →
        (∀ file, s.config = some file → (run step (step s event) events).config = some file) ∧
          (s.config = none → ∀ file, (run step (step s event) events).config = some file →
            ∃ image course components, .setup image course ∈ event :: events ∧
              image.required = .ok components ∧
              install course.config components.defaultConfig none = some file) := by
      intro hsame
      obtain ⟨hkept, hnew⟩ := hrest (step s event)
      rw [hsame] at hkept hnew
      refine ⟨hkept, fun hnone file h => ?_⟩
      obtain ⟨image, course, components, hmem, hfrom⟩ := hnew hnone file h
      exact ⟨image, course, components, List.mem_cons_of_mem _ hmem, hfrom⟩
    cases event with
    | save bytes result => exact (hsave bytes result List.mem_cons_self).elim
    | restart reread => exact hidle rfl
    | reboot => exact hidle rfl
    | setup image course =>
      rcases @config_setup image course s with hsame | ⟨components, himage, hnone, hmade⟩
      · exact hidle hsame
      · refine ⟨fun file h => (by cases hnone.symm.trans h), fun _ file h => ?_⟩
        cases hc : (step s (.setup image course)).config with
        | none => exact (hidle (hc.trans hnone.symm)).2 hnone file h
        | some first =>
          have heq : some first = some file :=
            ((hrest (step s (.setup image course))).1 first hc).symm.trans h
          exact ⟨image, course, components, List.mem_cons_self, himage,
            (hmade.symm.trans hc).trans heq⟩

/-- A machine that has nothing but settings keeps them through its first setup. -/
theorem settings_kept_first :
    (run step { System.bare with config := some ⟨[9], true⟩ }
      [.setup smallImage smoothCourse]).config = some ⟨[9], true⟩ :=
  (settings_kept { System.bare with config := some ⟨[9], true⟩ } [.setup smallImage smoothCourse]
    (by simp)).1 ⟨[9], true⟩ rfl

end CpuSwitch.Setup
