import CpuSwitch.Cpufreq.Policy
import CpuSwitch.Daemon.Model

/-! When the remembered state tells the truth about the policies. -/
namespace CpuSwitch.Daemon
open CLib Config Cpufreq

/-- The switch that a usage value asks for in a given state. -/
def request (config : CpuConfig) (state : State) (usage : Double) : Option Direction :=
  if usage < config.lowThresholdPct ∧ state ≠ .low then some .low
  else if usage > config.highThresholdPct ∧ state ≠ .high then some .high
  else none

/-- Every policy is pinned to the clamped frequency. -/
def Pinned (m : Machine) (khz : UInt64) (scaling : DirName → Limits) : Prop :=
  ∀ policy ∈ m.dir.policies,
    scaling policy = ⟨(m.range policy).clamp khz, (m.range policy).clamp khz⟩

/-- A known state tells where the policies are. -/
def Agrees (m : Machine) (config : CpuConfig) (c : Controller) : Prop :=
  ∀ direction, c.state = Direction.state direction →
    Pinned m (direction.target config) c.sysfs.scaling

/-- The stores that work during an iteration, by policy and bound. -/
abbrev Pattern := DirName → Bound → Bool

/-- An iteration in which the reads work and the stores follow a pattern. -/
def patterned (config : CpuConfig) (dir : Directory) (c : Controller)
    (input : Option Double × Pattern) : Controller :=
  sampled config dir c (input.1, .ofPattern input.2)

/-- A switch away from a known state either works or leaves every policy where it was. -/
def Tolerable (m : Machine) (config : CpuConfig) (c : Controller)
    (input : Option Double × Pattern) : Prop :=
  ∀ usage direction, input.1 = some usage → request config c.state usage = some direction →
    c.state ≠ .unknown →
      (∀ policy ∈ m.dir.policies, ∀ bound, input.2 policy bound = true) ∨
      ∀ policy ∈ m.dir.policies,
        input.2 policy (firstBound (direction.target config) config.lowFrequencyKhz) = true →
          (m.range policy).clamp config.lowFrequencyKhz =
            (m.range policy).clamp config.highFrequencyKhz

section
variable {m : Machine} {config : CpuConfig} {dir : Directory} {k : Kernel} {usage : Double}
  {c : Controller} {direction other : Direction} {ok : Pattern} {scaling : DirName → Limits}

theorem sampled_of_request_none (h : request config c.state usage = none) :
    sampled config dir c (some usage, k) = c := by
  unfold request at h
  split_ifs at h with h1 h2
  exact (if_neg h1).trans (if_neg h2)

/-- A usage value does nothing but the switch it asks for. -/
theorem sampled_of_request (h : request config c.state usage = some direction) :
    sampled config dir c (some usage, k) = switchTo config dir k direction c := by
  unfold request at h
  split_ifs at h with h1 h2 <;> cases h
  · exact if_pos h1
  · exact (if_neg h1).trans (if_pos h2)

theorem request_ne_state (h : request config c.state usage = some direction) :
    c.state ≠ direction.state := by
  unfold request at h
  split_ifs at h with h1 h2 <;> cases h
  · exact h1.2
  · exact h2.2

theorem switchTo_calls :
    (switchTo config dir k direction c).calls = direction :: c.calls := by
  unfold switchTo
  split <;> rfl

theorem switchTo_sysfs :
    (switchTo config dir k direction c).sysfs =
      (cpuLinuxSetAllPolicyFrequency k dir (direction.target config) config.lowFrequencyKhz
        c.sysfs).2 := by
  unfold switchTo
  split <;> simp_all

theorem switchTo_state_of_ok
    (h : (cpuLinuxSetAllPolicyFrequency k dir (direction.target config) config.lowFrequencyKhz
      c.sysfs).1 = .ok ()) : (switchTo config dir k direction c).state = direction.state := by
  unfold switchTo
  split <;> simp_all

theorem switchTo_state_of_not_ok
    (h : (cpuLinuxSetAllPolicyFrequency k dir (direction.target config) config.lowFrequencyKhz
      c.sysfs).1 ≠ .ok ()) : (switchTo config dir k direction c).state = c.state := by
  unfold switchTo
  split <;> simp_all

theorem state_injective : Function.Injective Direction.state := by
  intro a b h
  cases a <;> cases b <;> first | rfl | cases h

theorem exists_direction {state : State} (h : state ≠ .unknown) :
    ∃ direction : Direction, state = direction.state := by
  cases state with
  | unknown => exact (h rfl).elim
  | low => exact ⟨.low, rfl⟩
  | high => exact ⟨.high, rfl⟩

/-- A switch that works leaves every policy pinned to its target. -/
theorem pinned_switchTo (hok : ∀ policy ∈ m.dir.policies, ∀ bound, ok policy bound = true) :
    Pinned m (direction.target config)
      (switchTo config m.dir (.ofPattern ok) direction c).sysfs.scaling := by
  intro policy hp
  rw [switchTo_sysfs, m.setAll_scaling, if_pos hp, settle, if_pos (hok policy hp _),
    if_pos (hok policy hp _)]

/-- A switch that fails keeps the old pinning exactly where it moved nothing. -/
theorem pinned_switchTo_iff {khz : UInt64} (hpin : Pinned m khz c.sysfs.scaling) :
    Pinned m khz (switchTo config m.dir (.ofPattern ok) direction c).sysfs.scaling ↔
      ∀ policy ∈ m.dir.policies,
        ok policy (firstBound (direction.target config) config.lowFrequencyKhz) = true →
          (m.range policy).clamp (direction.target config) = (m.range policy).clamp khz := by
  refine forall₂_congr fun policy hp => ?_
  rw [switchTo_sysfs, m.setAll_scaling, if_pos hp, hpin policy hp, settle]
  generalize firstBound (direction.target config) config.lowFrequencyKhz = first
  split_ifs with h1 h2
  · simp [h1]
  · cases first <;> simp [h1, Limits.set]
  · simp [h1]

theorem agrees_start : Agrees m config (.start scaling) := by
  intro direction hd
  cases direction <;> cases hd

/-- The targets of the two directions have one clamp or the other way round. -/
theorem clamp_comm (hne : direction ≠ other) {policy : DirName} :
    (m.range policy).clamp (direction.target config) =
        (m.range policy).clamp (other.target config) ↔
      (m.range policy).clamp config.lowFrequencyKhz =
        (m.range policy).clamp config.highFrequencyKhz := by
  cases direction <;> cases other <;> first | exact (hne rfl).elim | exact Iff.rfl | exact eq_comm

/-- A switch keeps the agreement exactly when it works or moves nothing. -/
theorem agrees_switchTo_iff (hc : Agrees m config c) (hd : c.state ≠ direction.state) :
    Agrees m config (switchTo config m.dir (.ofPattern ok) direction c) ↔
      (c.state ≠ .unknown →
        (∀ policy ∈ m.dir.policies, ∀ bound, ok policy bound = true) ∨
        ∀ policy ∈ m.dir.policies,
          ok policy (firstBound (direction.target config) config.lowFrequencyKhz) = true →
            (m.range policy).clamp config.lowFrequencyKhz =
              (m.range policy).clamp config.highFrequencyKhz) := by
  by_cases hok : (cpuLinuxSetAllPolicyFrequency (.ofPattern ok) m.dir (direction.target config)
      config.lowFrequencyKhz c.sysfs).1 = .ok ()
  · have hall := (m.setAll_ok_iff.mp hok).2
    refine iff_of_true ?_ fun _ => Or.inl hall
    intro other ho
    rw [switchTo_state_of_ok hok] at ho
    exact state_injective ho ▸ pinned_switchTo hall
  · -- The call fails, so the state stays: only the policies may have moved.
    have hstate := switchTo_state_of_not_ok (c := c) hok
    by_cases hu : c.state = .unknown
    · refine iff_of_true ?_ fun h => (h hu).elim
      intro other ho
      rw [hstate, hu] at ho
      cases other <;> cases ho
    · obtain ⟨old, hold⟩ := exists_direction hu
      have hne : direction ≠ old := fun h => hd (h ▸ hold)
      have hpinned : Pinned m (old.target config)
          (switchTo config m.dir (.ofPattern ok) direction c).sysfs.scaling ↔ _ :=
        pinned_switchTo_iff (hc old hold)
      simp only [clamp_comm hne] at hpinned
      constructor
      · intro h _
        exact Or.inr (hpinned.mp (h old (hstate.trans hold)))
      · intro h other ho
        have ho' : other = old := state_injective (ho.symm.trans (hstate.trans hold))
        subst ho'
        rcases h hu with hall | hstill
        · -- All stores work and the call still fails: there is no policy at all.
          intro policy hp
          exact (hok (m.setAll_ok_iff.mpr ⟨List.ne_nil_of_mem hp, hall⟩)).elim
        · exact hpinned.mpr hstill

/-- One iteration keeps the agreement exactly when it is tolerable. -/
theorem agrees_step_iff (hc : Agrees m config c) (input : Option Double × Pattern) :
    Agrees m config (patterned config m.dir c input) ↔ Tolerable m config c input := by
  obtain ⟨sample, ok⟩ := input
  cases sample with
  | none => exact iff_of_true hc fun _ _ h => by cases h
  | some usage =>
    cases hreq : request config c.state usage with
    | none =>
      rw [patterned, sampled_of_request_none hreq]
      refine iff_of_true hc fun _ _ h hsome => ?_
      cases h
      rw [hreq] at hsome
      cases hsome
    | some direction =>
      rw [patterned, sampled_of_request hreq]
      refine (agrees_switchTo_iff hc (request_ne_state hreq)).trans ⟨?_, ?_⟩
      · intro h _ _ hu hsome
        cases hu
        cases hreq.symm.trans hsome
        exact h
      · intro h
        exact h usage direction rfl hreq

/-- Over whole runs the state tells the truth exactly as long as every iteration is tolerable. -/
theorem daemon_agreement_iff (m : Machine) (config : CpuConfig) (scaling : DirName → Limits)
    (inputs : List (Option Double × Pattern)) :
    (∀ front, front <+: inputs →
      Agrees m config (run (patterned config m.dir) (.start scaling) front)) ↔
      ∀ front i, front ++ [i] <+: inputs →
        Tolerable m config (run (patterned config m.dir) (.start scaling) front) i :=
  run_always_iff agrees_start fun _ input hc => agrees_step_iff hc input

/-- A switch to the high clock that loses its second write: the daemon still believes in LOW. -/
theorem daemon_agreement_counterexample :
    ¬ ∀ (m : Machine) (config : CpuConfig) (scaling : DirName → Limits)
      (inputs : List (Option Double × Pattern)), m.dir.policies ≠ [] →
        cpuConfigValidate config 0 0 false = .ok () →
        ∀ front, front <+: inputs →
          Agrees m config (run (patterned config m.dir) (.start scaling) front) := by
  intro h
  have hlow := h .single cpuConfigDefaults (fun _ => ⟨800000, 4000000⟩)
    [(some (.finite 0), fun _ _ => true), (some (.finite 50), fun _ bound => bound = .max)]
    (by decide) (by decide +kernel) _ List.prefix_rfl .low (by decide +kernel) policy0 (by decide)
  exact absurd hlow (by decide +kernel)

end

end CpuSwitch.Daemon
