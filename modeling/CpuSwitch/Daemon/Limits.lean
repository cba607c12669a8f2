import CpuSwitch.Daemon.Agreement

/-! Within one run no write crosses the other bound, however switches fail. -/
namespace CpuSwitch.Daemon
open CLib Config Cpufreq

/-- Limits from which a store of any frequency between the two clocks stays repairable. -/
structure Between (range : Range) (config : CpuConfig) (limits : Limits) : Prop where
  ordered : limits.min ≤ limits.max
  below : limits.min ≤ range.clamp config.highFrequencyKhz
  above : range.clamp config.lowFrequencyKhz ≤ limits.max

/-- The invariant: all states so far are good and no attempt crossed. -/
structure Uncrossed (m : Machine) (config : CpuConfig) (sys : Sysfs) : Prop where
  states : ∀ scaling ∈ sys.visited, ∀ policy ∈ m.dir.policies,
    Between (m.range policy) config (scaling policy)
  attempts : ∀ attempt ∈ sys.writes, ¬ attempt.Crosses

section
variable {m : Machine} {config : CpuConfig} {k : Kernel} {sys : Sysfs} {range : Range}
  {limits : Limits} {bound first : Bound} {value frequency : UInt64} {policy : DirName}
  {direction : Direction} {c : Controller} {scaling : DirName → Limits}

theorem visited_write :
    (writeU64File k policy bound value sys).2.visited =
      (writeU64File k policy bound value sys).2.scaling :: sys.visited := rfl

/-- A store between the two clocks that does not cross keeps the limits good. -/
theorem between_set (h : Between range config limits)
    (hlo : range.clamp config.lowFrequencyKhz ≤ value)
    (hhi : value ≤ range.clamp config.highFrequencyKhz)
    (hfit : (limits.set bound value).min ≤ (limits.set bound value).max) :
    Between range config (limits.set bound value) := by
  cases bound with
  | min => exact ⟨hfit, hhi, h.above⟩
  | max => exact ⟨hfit, h.below, hlo⟩

theorem uncrossed_write (h : Uncrossed m config sys)
    (hlo : (m.range policy).clamp config.lowFrequencyKhz ≤ value)
    (hhi : value ≤ (m.range policy).clamp config.highFrequencyKhz)
    (hfit : ((sys.scaling policy).set bound value).min ≤
      ((sys.scaling policy).set bound value).max) :
    Uncrossed m config (writeU64File k policy bound value sys).2 := by
  have hnow := h.states sys.scaling List.mem_cons_self
  constructor
  · intro scaling hs other ho
    rw [visited_write] at hs
    rcases List.mem_cons.mp hs with rfl | hs
    · by_cases hne : other = policy
      · subst hne
        simp only [writeU64File]
        split
        · rw [Function.update_self]
          exact between_set (hnow other ho) hlo hhi hfit
        · exact hnow other ho
      · rw [writeU64File_scaling_of_ne hne]
        exact hnow other ho
    · exact h.states scaling hs other ho
  · intro attempt ha
    rcases List.mem_cons.mp ha with rfl | ha
    · exact not_lt.mpr hfit
    · exact h.attempts attempt ha

/-- After the first store the second one makes both bounds equal, so it cannot cross. -/
theorem uncrossed_pinBounds (h : Uncrossed m config sys)
    (hlo : (m.range policy).clamp config.lowFrequencyKhz ≤ frequency)
    (hhi : frequency ≤ (m.range policy).clamp config.highFrequencyKhz)
    (hfit : ((sys.scaling policy).set first frequency).min ≤
      ((sys.scaling policy).set first frequency).max) :
    Uncrossed m config (pinBounds k policy first frequency sys).2 := by
  have hfirst : Uncrossed m config (writeU64File k policy first frequency sys).2 :=
    uncrossed_write h hlo hhi hfit
  rcases pinBounds_cases k policy first frequency sys with ⟨-, heq⟩ | ⟨hw, heq⟩
  · rw [heq]
    exact hfirst
  · rw [heq]
    refine uncrossed_write hfirst hlo hhi ?_
    rw [writeU64File_scaling_of_ok hw, set_set_other]

/-- Both targets lie between the clocks and go to the side that they cannot cross. -/
theorem target_safe (direction : Direction)
    (hfreq : config.lowFrequencyKhz ≤ config.highFrequencyKhz) (h : Between range config limits) :
    range.clamp config.lowFrequencyKhz ≤ range.clamp (direction.target config) ∧
      range.clamp (direction.target config) ≤ range.clamp config.highFrequencyKhz ∧
      (limits.set (firstBound (direction.target config) config.lowFrequencyKhz)
          (range.clamp (direction.target config))).min ≤
        (limits.set (firstBound (direction.target config) config.lowFrequencyKhz)
          (range.clamp (direction.target config))).max := by
  have hmono := range.clamp_mono hfreq
  cases direction with
  | low =>
    refine ⟨le_rfl, hmono, ?_⟩
    simpa [firstBound, Direction.target, Limits.set] using h.above
  | high =>
    refine ⟨hmono, le_rfl, ?_⟩
    by_cases heq : config.highFrequencyKhz ≤ config.lowFrequencyKhz
    · have hsame : config.highFrequencyKhz = config.lowFrequencyKhz := le_antisymm heq hfreq
      simpa [firstBound, Direction.target, Limits.set, hsame] using h.above
    · simpa [firstBound, Direction.target, Limits.set, heq] using h.below

theorem uncrossed_setOne (hfreq : config.lowFrequencyKhz ≤ config.highFrequencyKhz)
    (hp : policy ∈ m.dir.policies) (h : Uncrossed m config sys) :
    Uncrossed m config (setOnePolicyFrequency k m.dir policy (direction.target config)
      config.lowFrequencyKhz sys).2 := by
  have hnow := h.states sys.scaling List.mem_cons_self policy hp
  obtain ⟨hlo, hhi, hfit⟩ := target_safe direction hfreq hnow
  rw [setOnePolicyFrequency_eq, m.usable policy hp]
  cases k.reads policy .min && k.reads policy .max with
  | false => exact h
  | true => exact uncrossed_pinBounds h hlo hhi hfit

theorem uncrossed_walk (hfreq : config.lowFrequencyKhz ≤ config.highFrequencyKhz)
    (policies : List DirName) (hsub : ∀ p ∈ policies, p ∈ m.dir.policies) (walk : Walk)
    (h : Uncrossed m config walk.sysfs) :
    Uncrossed m config (policies.foldl (visit k m.dir (direction.target config)
      config.lowFrequencyKhz) walk).sysfs := by
  induction policies generalizing walk with
  | nil => exact h
  | cons p policies ih =>
    exact ih (fun q hq => hsub q (List.mem_cons_of_mem _ hq)) _
      (uncrossed_setOne hfreq (hsub p List.mem_cons_self) h)

theorem uncrossed_switchTo (hfreq : config.lowFrequencyKhz ≤ config.highFrequencyKhz)
    (h : Uncrossed m config c.sysfs) :
    Uncrossed m config (switchTo config m.dir k direction c).sysfs := by
  rw [switchTo_sysfs]
  cases hk : k.opendirError with
  | some reason => simpa [cpuLinuxSetAllPolicyFrequency, hk] using h
  | none =>
    rw [setAll_sysfs hk]
    exact uncrossed_walk hfreq m.dir.policies (fun _ hp => hp) _ h

theorem uncrossed_step (hfreq : config.lowFrequencyKhz ≤ config.highFrequencyKhz)
    (input : Option Double × Kernel) (h : Uncrossed m config c.sysfs) :
    Uncrossed m config (sampled config m.dir c input).sysfs := by
  obtain ⟨sample, k⟩ := input
  cases sample with
  | none => exact h
  | some usage =>
    cases hreq : request config c.state usage with
    | none =>
      rw [sampled_of_request_none hreq]
      exact h
    | some direction =>
      rw [sampled_of_request hreq]
      exact uncrossed_switchTo hfreq h

theorem uncrossed_start (hfreq : config.lowFrequencyKhz ≤ config.highFrequencyKhz)
    (h : ∀ policy ∈ m.dir.policies,
      (scaling policy).min ≤ (m.range policy).clamp config.lowFrequencyKhz ∧
        (m.range policy).clamp config.highFrequencyKhz ≤ (scaling policy).max) :
    Uncrossed m config (Controller.start scaling).sysfs := by
  constructor
  · intro s hs policy hp
    obtain rfl := List.mem_singleton.mp hs
    obtain ⟨hmin, hmax⟩ := h policy hp
    have hmono := (m.range policy).clamp_mono hfreq
    exact ⟨hmin.trans (hmono.trans hmax), hmin.trans hmono, hmono.trans hmax⟩
  · simp [Controller.start]

/-- However samples, reads and writes fall out, no state of the run is crossed and no write
would have crossed. -/
theorem limits_never_cross (m : Machine) (config : CpuConfig)
    (hfreq : config.lowFrequencyKhz ≤ config.highFrequencyKhz) (scaling : DirName → Limits)
    (hstart : ∀ policy ∈ m.dir.policies,
      (scaling policy).min ≤ (m.range policy).clamp config.lowFrequencyKhz ∧
        (m.range policy).clamp config.highFrequencyKhz ≤ (scaling policy).max)
    (inputs : List (Option Double × Kernel)) :
    let sys := (run (sampled config m.dir) (.start scaling) inputs).sysfs
    (∀ state ∈ sys.visited, ∀ policy ∈ m.dir.policies,
      (state policy).min ≤ (state policy).max) ∧
      ∀ attempt ∈ sys.writes, ¬ attempt.Crosses := by
  have h : Uncrossed m config (run (sampled config m.dir) (.start scaling) inputs).sysfs :=
    run_invariant (P := fun c : Controller => Uncrossed m config c.sysfs)
      (uncrossed_start hfreq hstart) fun _ input hc => uncrossed_step hfreq input hc
  exact ⟨fun state hs policy hp => (h.states state hs policy hp).ordered, h.attempts⟩

/-- A half-finished switch to the high clock. -/
theorem limits_never_cross_single :
    ((run (sampled cpuConfigDefaults Machine.single.dir) (.start fun _ => ⟨800000, 4000000⟩)
      [(some (.finite 0), .steady), (some (.finite 50), .ofPattern fun _ bound => bound = .max)]
        ).sysfs.scaling policy0).min ≤
      ((run (sampled cpuConfigDefaults Machine.single.dir) (.start fun _ => ⟨800000, 4000000⟩)
      [(some (.finite 0), .steady), (some (.finite 50), .ofPattern fun _ bound => bound = .max)]
        ).sysfs.scaling policy0).max :=
  (limits_never_cross .single cpuConfigDefaults (by decide) (fun _ => ⟨800000, 4000000⟩)
    (by decide +kernel) _).1 _ List.mem_cons_self policy0 (by decide)

end

end CpuSwitch.Daemon
