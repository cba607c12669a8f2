import CpuSwitch.Cpufreq.Strict
import CpuSwitch.Daemon.Recovery

/-! The daemon on a kernel that rejects crossing stores, from whatever limits it finds. -/
namespace CpuSwitch.Daemon
open CLib Config Cpufreq

/-- An iteration on such a kernel. -/
def strictly (config : CpuConfig) (dir : Directory) (c : Controller) (sample : Option Double) :
    Controller :=
  sampled config dir c (sample, .strict)

/-- Some sample called for a switch that the limits found at the start let through. -/
def Reached (m : Machine) (config : CpuConfig) (scaling : DirName → Limits)
    (samples : List (Option Double)) (policy : DirName) : Prop :=
  ∃ direction, some direction ∈ samples.map (wish config) ∧
    m.Fits (Direction.target config direction) config.lowFrequencyKhz policy (scaling policy)

/-- What a run has made of the limits and of the state. -/
structure Tracks (m : Machine) (config : CpuConfig) (scaling : DirName → Limits)
    (samples : List (Option Double)) (c : Controller) : Prop where
  reached : ∀ policy ∈ m.dir.policies, Reached m config scaling samples policy →
    ∀ direction, lastWish config samples = some direction →
      c.sysfs.scaling policy = m.pinned (direction.target config) policy
  untouched : ∀ policy ∈ m.dir.policies, ¬ Reached m config scaling samples policy →
    c.sysfs.scaling policy = scaling policy
  known : (∀ policy ∈ m.dir.policies, Reached m config scaling samples policy) →
    c.state = lastOutside config samples
  unknown : ¬ (∀ policy ∈ m.dir.policies, Reached m config scaling samples policy) →
    c.state = .unknown

section
variable {m : Machine} {config : CpuConfig} {c : Controller} {direction other : Direction}
  {sample : Option Double} {samples : List (Option Double)} {policy : DirName}
  {scaling : DirName → Limits}

theorem reached_concat : Reached m config scaling (samples ++ [sample]) policy ↔
    Reached m config scaling samples policy ∨ ∃ direction, wish config sample = some direction ∧
      m.Fits (Direction.target config direction) config.lowFrequencyKhz policy
        (scaling policy) := by
  simp only [Reached, List.map_append, List.map_cons, List.map_nil, List.mem_append,
    List.mem_singleton, or_and_right, exists_or, eq_comm]

theorem exists_lastWish (h : Reached m config scaling samples policy) :
    ∃ direction, lastWish config samples = some direction := by
  obtain ⟨direction, hmem, -⟩ := h
  have hne : (samples.map (wish config)).reduceOption ≠ [] :=
    List.ne_nil_of_mem (List.reduceOption_mem_iff.mpr hmem)
  exact ⟨_, List.getLast?_eq_some_getLast hne⟩

/-- A policy pinned to one clock can be switched to the other one. -/
theorem fits_pinned (hfreq : config.lowFrequencyKhz ≤ config.highFrequencyKhz) :
    m.Fits (direction.target config) config.lowFrequencyKhz policy
      (m.pinned (other.target config) policy) := by
  have hmono := (m.range policy).clamp_mono hfreq
  have hlow : (m.range policy).clamp config.lowFrequencyKhz ≤
      (m.range policy).clamp (other.target config) := by
    cases other with
    | low => exact le_rfl
    | high => exact hmono
  have hhigh : (m.range policy).clamp (other.target config) ≤
      (m.range policy).clamp config.highFrequencyKhz := by
    cases other with
    | low => exact hmono
    | high => exact le_rfl
  unfold Machine.Fits FirstWriteFits Machine.pinned
  cases direction with
  | low =>
    have htarget : Direction.low.target config ≤ config.lowFrequencyKhz := le_rfl
    rwa [if_pos htarget]
  | high =>
    split_ifs with h
    · -- With equal clocks the target counts as the low one.
      have hsame : config.highFrequencyKhz = config.lowFrequencyKhz := le_antisymm h hfreq
      change (m.range policy).clamp config.highFrequencyKhz ≤ _
      rwa [hsame]
    · exact hhigh

theorem tracks_start : Tracks m config scaling [] (.start scaling) := by
  have hnot : ∀ policy, ¬ Reached m config scaling [] policy := by simp [Reached]
  constructor
  · exact fun policy _ h => (hnot policy h).elim
  · exact fun _ _ _ => rfl
  · exact fun _ => rfl
  · exact fun _ => rfl

/-- A sample that calls for nothing reaches nothing. -/
theorem tracks_quiet (hw : wish config sample = none) (h : Tracks m config scaling samples c) :
    Tracks m config scaling (samples ++ [sample]) c := by
  have hreached : ∀ policy, Reached m config scaling (samples ++ [sample]) policy ↔
      Reached m config scaling samples policy := by
    intro policy
    simp [reached_concat, hw]
  have hlast : lastOutside config (samples ++ [sample]) = lastOutside config samples := by
    rw [lastOutside_eq, lastWish_concat_none hw, lastOutside_eq]
  constructor
  · intro policy hp hr direction hd
    rw [lastWish_concat_none hw] at hd
    exact h.reached policy hp ((hreached policy).mp hr) direction hd
  · exact fun policy hp hr => h.untouched policy hp (mt (hreached policy).mpr hr)
  · exact fun hall => hlast ▸ h.known fun policy hp => (hreached policy).mp (hall policy hp)
  · exact fun hall => h.unknown fun hold => hall fun policy hp =>
      (hreached policy).mpr (hold policy hp)

/-- A sample that repeats the known state changes nothing. -/
theorem tracks_repeated (hne : m.dir.policies ≠ []) (hw : wish config sample = some direction)
    (hs : c.state = direction.state) (h : Tracks m config scaling samples c) :
    Tracks m config scaling (samples ++ [sample]) c := by
  have hall : ∀ policy ∈ m.dir.policies, Reached m config scaling samples policy := by
    by_contra hnot
    have hunknown := (h.unknown hnot).symm.trans hs
    cases direction <;> cases hunknown
  obtain ⟨policy, hp⟩ := List.exists_mem_of_ne_nil _ hne
  obtain ⟨last, hlast⟩ := exists_lastWish (hall policy hp)
  have hsame : last = direction := by
    have hstate := h.known hall
    rw [lastOutside_eq, hlast, hs] at hstate
    exact (state_injective hstate).symm
  have hnew : lastWish config (samples ++ [sample]) = lastWish config samples := by
    rw [lastWish_concat_some hw, hlast, hsame]
  have hgrow : ∀ policy ∈ m.dir.policies,
      Reached m config scaling (samples ++ [sample]) policy :=
    fun policy hp => reached_concat.mpr (Or.inl (hall policy hp))
  constructor
  · exact fun policy hp _ direction hd => h.reached policy hp (hall policy hp) direction (hnew ▸ hd)
  · exact fun policy hp hr => (hr (hgrow policy hp)).elim
  · intro _
    rw [lastOutside_eq, hnew]
    exact h.known hall
  · exact fun hnot => (hnot hgrow).elim

/-- A call finds every policy that was reached ready for either clock, and the others as they
were at the start. -/
theorem fits_iff_reached (hfreq : config.lowFrequencyKhz ≤ config.highFrequencyKhz)
    (hw : wish config sample = some direction) (h : Tracks m config scaling samples c)
    (hp : policy ∈ m.dir.policies) :
    m.Fits (direction.target config) config.lowFrequencyKhz policy (c.sysfs.scaling policy) ↔
      Reached m config scaling (samples ++ [sample]) policy := by
  rw [reached_concat]
  by_cases hr : Reached m config scaling samples policy
  · obtain ⟨last, hlast⟩ := exists_lastWish hr
    rw [h.reached policy hp hr last hlast]
    exact iff_of_true (fits_pinned hfreq) (Or.inl hr)
  · rw [h.untouched policy hp hr, or_iff_right hr]
    constructor
    · exact fun hfits => ⟨direction, hw, hfits⟩
    · rintro ⟨other, ho, hfits⟩
      cases hw.symm.trans ho
      exact hfits

theorem tracks_switch (hne : m.dir.policies ≠ [])
    (hfreq : config.lowFrequencyKhz ≤ config.highFrequencyKhz)
    (hw : wish config sample = some direction) (h : Tracks m config scaling samples c) :
    Tracks m config scaling (samples ++ [sample]) (switchTo config m.dir .strict direction c) := by
  have hfits : ∀ policy ∈ m.dir.policies, _ := fun policy hp => fits_iff_reached hfreq hw h hp
  have hlast : lastWish config (samples ++ [sample]) = some direction := lastWish_concat_some hw
  have hok : (cpuLinuxSetAllPolicyFrequency .strict m.dir (direction.target config)
      config.lowFrequencyKhz c.sysfs).1 = .ok () ↔
        ∀ policy ∈ m.dir.policies, Reached m config scaling (samples ++ [sample]) policy := by
    rw [setAll_strict_ok_iff, and_iff_right hne]
    exact forall₂_congr hfits
  constructor
  · intro policy hp hr other ho
    cases hlast.symm.trans ho
    rw [switchTo_sysfs, setAll_strict_scaling, if_pos ⟨hp, (hfits policy hp).mpr hr⟩]
  · intro policy hp hr
    rw [switchTo_sysfs, setAll_strict_scaling,
      if_neg fun hboth => hr ((hfits policy hp).mp hboth.2)]
    exact h.untouched policy hp fun hold => hr (reached_concat.mpr (Or.inl hold))
  · intro hall
    rw [switchTo_state_of_ok (hok.mpr hall), lastOutside_eq, hlast]
    rfl
  · intro hnot
    rw [switchTo_state_of_not_ok (mt hok.mp hnot)]
    exact h.unknown fun hold => hnot fun policy hp => reached_concat.mpr (Or.inl (hold policy hp))

theorem tracks_step (hne : m.dir.policies ≠ [])
    (hth : config.lowThresholdPct < config.highThresholdPct)
    (hfreq : config.lowFrequencyKhz ≤ config.highFrequencyKhz)
    (h : Tracks m config scaling samples c) :
    Tracks m config scaling (samples ++ [sample]) (strictly config m.dir c sample) := by
  cases hw : wish config sample with
  | none =>
    have hstep : strictly config m.dir c sample = c := by
      cases sample with
      | none => rfl
      | some usage =>
        have hreq : request config c.state usage = _ := request_eq_classify hth c.state
        have hc : classify config usage = none := hw
        rw [hc, Option.bind_none] at hreq
        exact sampled_of_request_none hreq
    rw [hstep]
    exact tracks_quiet hw h
  | some direction =>
    cases sample with
    | none => cases hw
    | some usage =>
      have hreq : request config c.state usage = _ := request_eq_classify hth c.state
      have hc : classify config usage = some direction := hw
      rw [hc, Option.bind_some] at hreq
      by_cases hs : c.state = direction.state
      · rw [if_pos hs] at hreq
        rw [strictly, sampled_of_request_none hreq]
        exact tracks_repeated hne hw hs h
      · rw [if_neg hs] at hreq
        rw [strictly, sampled_of_request hreq]
        exact tracks_switch hne hfreq hw h

theorem strict_tracks (hne : m.dir.policies ≠ [])
    (hth : config.lowThresholdPct < config.highThresholdPct)
    (hfreq : config.lowFrequencyKhz ≤ config.highFrequencyKhz) :
    Tracks m config scaling samples (run (strictly config m.dir) (.start scaling) samples) := by
  induction samples using List.reverseRecOn with
  | nil => exact tracks_start
  | append_singleton samples sample ih =>
    rw [run_concat]
    exact tracks_step hne hth hfreq ih

/-- On a kernel that rejects crossing stores, and from any limits at all: a policy stays where it
was until a sample calls for a clock that it can be moved to, follows every call from then on,
and the daemon knows its state exactly when that has happened to all policies. -/
theorem strict_run (m : Machine) (hne : m.dir.policies ≠ []) (config : CpuConfig)
    (hth : config.lowThresholdPct < config.highThresholdPct)
    (hfreq : config.lowFrequencyKhz ≤ config.highFrequencyKhz) (scaling : DirName → Limits)
    (samples : List (Option Double)) :
    let c := run (strictly config m.dir) (.start scaling) samples
    (∀ policy ∈ m.dir.policies,
      (Reached m config scaling samples policy → ∃ direction,
        lastWish config samples = some direction ∧
          c.sysfs.scaling policy = m.pinned (direction.target config) policy) ∧
      (¬ Reached m config scaling samples policy → c.sysfs.scaling policy = scaling policy)) ∧
    (c.state ≠ .unknown ↔ ∀ policy ∈ m.dir.policies, Reached m config scaling samples policy) ∧
    (c.state ≠ .unknown → c.state = lastOutside config samples) := by
  intro c
  have h : Tracks m config scaling samples c := strict_tracks hne hth hfreq
  have hknown : c.state ≠ .unknown →
      ∀ policy ∈ m.dir.policies, Reached m config scaling samples policy := by
    intro hstate
    by_contra hnot
    exact hstate (h.unknown hnot)
  refine ⟨fun policy hp => ⟨fun hr => ?_, h.untouched policy hp⟩, ⟨hknown, fun hall => ?_⟩,
    fun hstate => h.known (hknown hstate)⟩
  · obtain ⟨direction, hlast⟩ := exists_lastWish hr
    exact ⟨direction, hlast, h.reached policy hp hr direction hlast⟩
  · obtain ⟨policy, hp⟩ := List.exists_mem_of_ne_nil _ hne
    obtain ⟨direction, hlast⟩ := exists_lastWish (hall policy hp)
    rw [h.known hall, lastOutside_eq, hlast]
    cases direction <;> decide

/-- Pinned at 1 GHz by an earlier run, the policy ignores two idle samples that call for
1.2 GHz. -/
theorem strict_run_stale : (run (strictly cpuConfigDefaults Machine.single.dir)
    (.start fun _ => ⟨1000000, 1000000⟩) [some (.finite 3), some (.finite 3)]).state =
      .unknown := by
  by_contra hstate
  obtain ⟨direction, hmem, hfits⟩ := (strict_run .single (by decide) cpuConfigDefaults
    (by decide +kernel) (by decide) (fun _ => ⟨1000000, 1000000⟩)
    [some (.finite 3), some (.finite 3)]).2.1.mp hstate policy0 (by decide)
  have hlow : (List.map (wish cpuConfigDefaults) [some (.finite 3), some (.finite 3)]) =
      [some .low, some .low] := by decide +kernel
  rw [hlow] at hmem
  have hdirection : direction = .low := by simpa using hmem
  subst hdirection
  exact absurd hfits (by decide +kernel)

end

end CpuSwitch.Daemon
