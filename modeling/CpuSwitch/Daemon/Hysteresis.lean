import CpuSwitch.Daemon.Agreement

/-! With stores that work, the hysteresis is the naive controller without its repeated writes. -/
namespace CpuSwitch.Daemon
open CLib Config Cpufreq

/-- The side of the band on which a usage value lies. -/
def classify (config : CpuConfig) (usage : Double) : Option Direction :=
  if usage < config.lowThresholdPct then some .low
  else if usage > config.highThresholdPct then some .high
  else none

/-- What a sample asks for; a failed read asks for nothing. -/
def wish (config : CpuConfig) (sample : Option Double) : Option Direction :=
  sample.bind (classify config)

/-- A failed read, or a usage value inside the band. -/
def Quiet (config : CpuConfig) (sample : Option Double) : Prop :=
  ∀ usage, sample = some usage → config.lowThresholdPct ≤ usage ∧ usage ≤ config.highThresholdPct

/-- The state that the last sample outside the band calls for. -/
def lastOutside (config : CpuConfig) (samples : List (Option Double)) : State :=
  (samples.map (wish config)).reduceOption.getLast?.elim .unknown Direction.state

/-- An iteration on a machine that serves every request. -/
def steadily (config : CpuConfig) (dir : Directory) (c : Controller) (sample : Option Double) :
    Controller :=
  sampled config dir c (sample, .steady)

/-- A switch in the abstract: every policy to the clamped target. -/
def pinAll (m : Machine) (config : CpuConfig) (direction : Direction)
    (scaling : DirName → Limits) : DirName → Limits := fun policy =>
  if policy ∈ m.dir.policies then
    ⟨(m.range policy).clamp (direction.target config),
      (m.range policy).clamp (direction.target config)⟩
  else scaling policy

/-- The naive controller pins every policy on every sample outside the band. -/
def naively (m : Machine) (config : CpuConfig) (scaling : DirName → Limits)
    (sample : Option Double) : DirName → Limits :=
  match wish config sample with
  | none => scaling
  | some direction => pinAll m config direction scaling

/-- The controller against the abstract machine that skips repeated actions. -/
structure Remembers (c : Controller) (memo : Option Direction × (DirName → Limits)) : Prop where
  state : c.state = memo.1.elim .unknown Direction.state
  scaling : c.sysfs.scaling = memo.2
  last : c.calls.head? = memo.1
  alternate : c.calls.IsChain (· ≠ ·)

section
variable {m : Machine} {config : CpuConfig} {usage : Double} {c : Controller}
  {direction : Direction} {scaling : DirName → Limits} {sys : Sysfs} {sample : Option Double}
  {samples : List (Option Double)} {memo : Option Direction × (DirName → Limits)}

theorem pinAll_pinAll :
    pinAll m config direction (pinAll m config direction scaling) =
      pinAll m config direction scaling := by
  funext policy
  simp only [pinAll]
  split_ifs <;> rfl

theorem setAll_steady_scaling :
    (cpuLinuxSetAllPolicyFrequency .steady m.dir (direction.target config)
      config.lowFrequencyKhz sys).2.scaling = pinAll m config direction sys.scaling := by
  funext policy
  rw [Kernel.steady, m.setAll_scaling]
  simp only [settle, if_true, pinAll]

theorem setAll_steady_ok (hne : m.dir.policies ≠ []) :
    (cpuLinuxSetAllPolicyFrequency .steady m.dir (direction.target config)
      config.lowFrequencyKhz sys).1 = .ok () :=
  m.setAll_ok_iff.mpr ⟨hne, fun _ _ _ => rfl⟩

/-- With ordered thresholds the guards on the state only suppress repetitions. -/
theorem request_eq_classify (hth : config.lowThresholdPct < config.highThresholdPct)
    (state : State) :
    request config state usage =
      (classify config usage).bind fun direction =>
        if state = direction.state then none else some direction := by
  unfold request classify
  by_cases hlow : usage < config.lowThresholdPct
  · have hhigh : ¬ usage > config.highThresholdPct := Double.not_lt_of_lt (Double.lt_trans hlow hth)
    by_cases hs : state = .low <;> simp [hlow, hhigh, hs, Direction.state]
  · by_cases hhigh : usage > config.highThresholdPct
    · by_cases hs : state = .high <;> simp [hlow, hhigh, hs, Direction.state]
    · simp [hlow, hhigh]

theorem remembers_step (hne : m.dir.policies ≠ [])
    (hth : config.lowThresholdPct < config.highThresholdPct) (h : Remembers c memo) :
    Remembers (steadily config m.dir c sample)
      (memoStep (pinAll m config) memo (wish config sample)) := by
  cases sample with
  | none => exact h
  | some usage =>
    have hreq : request config c.state usage = _ := request_eq_classify hth c.state
    rw [steadily]
    change Remembers _ (memoStep (pinAll m config) memo (classify config usage))
    cases hc : classify config usage with
    | none =>
      rw [hc, Option.bind_none] at hreq
      rw [sampled_of_request_none hreq]
      exact h
    | some direction =>
      rw [hc, Option.bind_some] at hreq
      have hiff : c.state = direction.state ↔ memo.1 = some direction := by
        rw [h.state]
        cases memo.1 with
        | none => cases direction <;> simp [Direction.state]
        | some old => simp [state_injective.eq_iff]
      by_cases hd : memo.1 = some direction
      · rw [if_pos (hiff.mpr hd)] at hreq
        simpa only [sampled_of_request_none hreq, memoStep, hd, if_true] using h
      · rw [if_neg (mt hiff.mp hd)] at hreq
        simp only [sampled_of_request hreq, memoStep, hd, if_false]
        constructor
        · exact switchTo_state_of_ok (setAll_steady_ok hne)
        · rw [switchTo_sysfs, setAll_steady_scaling, h.scaling]
        · rw [switchTo_calls, List.head?_cons]
        · rw [switchTo_calls, List.isChain_cons]
          refine ⟨fun old hold heq => hd ?_, h.alternate⟩
          rw [← h.last, heq]
          exact hold

theorem remembers_run (hne : m.dir.policies ≠ [])
    (hth : config.lowThresholdPct < config.highThresholdPct) :
    Remembers (run (steadily config m.dir) (.start scaling) samples)
      (run (memoStep (pinAll m config)) (none, scaling) (samples.map (wish config))) :=
  run_simulation ⟨rfl, rfl, rfl, List.isChain_nil⟩ fun _ _ _ h => remembers_step hne hth h

theorem naively_run :
    run (naively m config) scaling samples =
      run (actStep (pinAll m config)) scaling (samples.map (wish config)) := by
  refine run_simulation (R := fun naive acting => naive = acting) rfl ?_
  rintro scaling _ sample rfl
  unfold naively actStep
  cases wish config sample <;> rfl

theorem steadily_quiet (h : Quiet config sample) : steadily config m.dir c sample = c := by
  cases sample with
  | none => rfl
  | some usage =>
    obtain ⟨hlow, hhigh⟩ := h usage rfl
    have hrequest : request config c.state usage = none := by
      simp [request, Double.not_lt_of_le hlow, Double.not_lt_of_le hhigh]
    exact sampled_of_request_none hrequest

/-- The hysteresis refines its specification over every run in which the stores work. -/
theorem hysteresis_refines (m : Machine) (hne : m.dir.policies ≠ []) (config : CpuConfig)
    (hth : config.lowThresholdPct < config.highThresholdPct) (scaling : DirName → Limits)
    (samples : List (Option Double)) :
    let c := run (steadily config m.dir) (.start scaling) samples
    c.state = lastOutside config samples ∧
      (∀ sample, Quiet config sample →
        (steadily config m.dir c sample).sysfs.writes = c.sysfs.writes) ∧
      c.calls.IsChain (· ≠ ·) ∧
      ∀ policy ∈ m.dir.policies, c.sysfs.scaling policy =
        run (naively m config) scaling samples policy := by
  have h : Remembers (run (steadily config m.dir) (.start scaling) samples)
      (run (memoStep (pinAll m config)) (none, scaling) (samples.map (wish config))) :=
    remembers_run hne hth
  rw [run_memoStep (pinAll m config) fun _ _ => pinAll_pinAll] at h
  refine ⟨h.state, fun sample hq => by rw [steadily_quiet hq], h.alternate, fun policy _ => ?_⟩
  rw [h.scaling, naively_run]

/-- Busy, unreadable, quiet and idle samples in a row. -/
theorem hysteresis_refines_single :
    let c := run (steadily cpuConfigDefaults Machine.single.dir) (.start fun _ => ⟨800000, 4000000⟩)
      [some (.finite 50), none, some (.finite 8), some (.finite 3)]
    c.state = .low ∧ c.sysfs.scaling policy0 = ⟨1200000, 1200000⟩ := by
  intro c
  obtain ⟨hstate, -, -, hlimits⟩ := hysteresis_refines .single (by decide) cpuConfigDefaults
    (by decide +kernel) (fun _ => ⟨800000, 4000000⟩)
    [some (.finite 50), none, some (.finite 8), some (.finite 3)]
  exact ⟨hstate.trans (by decide +kernel),
    (hlimits policy0 (by decide)).trans (by decide +kernel)⟩

end

end CpuSwitch.Daemon
