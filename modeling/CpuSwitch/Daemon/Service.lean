import CpuSwitch.Cpufreq.Intersection
import CpuSwitch.Cpufreq.Order
import CpuSwitch.Daemon.Process

/-! The service over any number of starts, stops and crashes. -/
namespace CpuSwitch.Daemon
open CLib Config Cpufreq

/-- The limits of every policy lie in its hardware range. -/
def Within (dir : Directory) (scaling : DirName → Limits) : Prop :=
  ∀ policy range, dir.range policy = some range →
    (scaling policy).min ∈ range ∧ (scaling policy).max ∈ range

/-- A write to a policy of the directory, of a frequency that its hardware supports. -/
def Supported (dir : Directory) (attempt : Attempt) : Prop :=
  attempt.policy ∈ dir.policies ∧
    ∃ range, dir.range attempt.policy = some range ∧ attempt.value ∈ range

/-- The limits that the service can leave behind: it may be killed between any two writes, and it
starts again from what it left, with whatever configuration it then finds. -/
inductive ReachableLimits (dir : Directory) (boot : DirName → Limits) :
    (DirName → Limits) → Prop where
  | boot : ReachableLimits dir boot boot
  | life {scaling state : DirName → Limits} (h : ReachableLimits dir boot scaling)
      (outside : Outside) (visited : state ∈ (main dir scaling outside).controller.sysfs.visited) :
      ReachableLimits dir boot state

section Rule
variable {allowed : UInt64 → Prop} {P : Sysfs → Prop} {k : Kernel} {dir : Directory}
  {policy : DirName}
  {targetKhz lowFrequencyKhz : UInt64} {sys : Sysfs} {config : CpuConfig} {c : Controller}
  {scaling : DirName → Limits} {direction : Direction} {usage : Double}

/-- Every write of an allowed frequency, clamped, to a usable policy preserves the property. -/
def KeptByWrites (dir : Directory) (allowed : UInt64 → Prop) (P : Sysfs → Prop) : Prop :=
  ∀ k policy range bound khz sys, policy ∈ dir.policies → dir.range policy = some range →
    allowed khz → P sys → P (writeU64File k policy bound (Range.clamp range khz) sys).2

theorem KeptByWrites.setOne (h : KeptByWrites dir allowed P) (ht : allowed targetKhz)
    (hp : policy ∈ dir.policies) (hs : P sys) :
    P (setOnePolicyFrequency k dir policy targetKhz lowFrequencyKhz sys).2 := by
  rw [setOnePolicyFrequency_eq]
  cases hreads : k.reads policy .min && k.reads policy .max with
  | false => exact hs
  | true =>
    cases hrange : dir.range policy with
    | none => simpa using hs
    | some range =>
      have hfirst : P (writeU64File k policy (firstBound targetKhz lowFrequencyKhz)
          (range.clamp targetKhz) sys).2 := h k policy range _ _ _ hp hrange ht hs
      simp only [if_true]
      rcases pinBounds_cases k policy (firstBound targetKhz lowFrequencyKhz)
        (range.clamp targetKhz) sys with ⟨-, heq⟩ | ⟨-, heq⟩
      · rw [heq]
        exact hfirst
      · rw [heq]
        exact h k policy range _ _ _ hp hrange ht hfirst

theorem KeptByWrites.setAll (h : KeptByWrites dir allowed P) (ht : allowed targetKhz)
    (hs : P sys) :
    P (cpuLinuxSetAllPolicyFrequency k dir targetKhz lowFrequencyKhz sys).2 := by
  cases hk : k.opendirError with
  | some reason => simpa [cpuLinuxSetAllPolicyFrequency, hk] using hs
  | none =>
    rw [setAll_sysfs hk, Directory.walk]
    refine List.foldlRecOn (motive := fun walk : Walk => P walk.sysfs) dir.policies _ hs ?_
    exact fun walk hwalk policy hp => h.setOne ht hp hwalk

theorem KeptByWrites.hysteresis (h : KeptByWrites dir allowed P)
    (ht : ∀ direction : Direction, allowed (direction.target config)) (hs : P c.sysfs) :
    P (hysteresis config dir k usage c).sysfs := by
  unfold Daemon.hysteresis
  split_ifs
  · rw [switchTo_sysfs]
    exact h.setAll (ht _) hs
  · rw [switchTo_sysfs]
    exact h.setAll (ht _) hs
  · exact hs

theorem KeptByWrites.takeTurn {p : Process} {turn : Turn} (h : KeptByWrites dir allowed P)
    (ht : ∀ direction : Direction, allowed (direction.target config))
    (hs : P p.loop.controller.sysfs) : P (takeTurn config dir p turn).loop.controller.sysfs := by
  unfold Daemon.takeTurn
  split_ifs
  · exact hs
  · split
    · exact hs
    · simp only [iterate]
      split
      · exact hs
      · exact h.hysteresis ht hs

/-- What every write preserves holds throughout every run of the program. -/
theorem KeptByWrites.main (h : KeptByWrites dir allowed P) (h0 : P ⟨scaling, []⟩)
    (outside : Outside)
    (ht : ∀ direction : Direction, allowed (direction.target (loadRuntimeConfig outside.file))) :
    P (main dir scaling outside).controller.sysfs := by
  unfold Daemon.main
  dsimp only
  split
  · exact h0
  · split
    · exact h0
    · exact run_invariant (P := fun p : Process => P p.loop.controller.sysfs) h0
        fun _ _ hp => h.takeTurn ht hp

end Rule

section
variable {dir : Directory} {boot scaling state : DirName → Limits} {policy : DirName}
  {range : Range}

theorem within_set {limits : Limits} {bound : Bound} {value : UInt64} (hvalue : value ∈ range)
    (h : limits.min ∈ range ∧ limits.max ∈ range) :
    (limits.set bound value).min ∈ range ∧ (limits.set bound value).max ∈ range := by
  cases bound with
  | min => exact ⟨hvalue, h.2⟩
  | max => exact ⟨h.1, hvalue⟩

theorem kept_supported : KeptByWrites dir (fun _ => True)
    fun sys => ∀ attempt ∈ sys.writes, Supported dir attempt := by
  intro k policy range bound khz sys hp hrange _ h attempt hmem
  rcases List.mem_cons.mp hmem with rfl | hmem
  · exact ⟨hp, range, hrange, Range.clamp_mem⟩
  · exact h attempt hmem

/-- A property of the limits that every store preserves holds of all limits that were in force. -/
theorem kept_visited {allowed : UInt64 → Prop} {Q : (DirName → Limits) → Prop}
    (h : ∀ policy range bound khz scaling, dir.range policy = some range → allowed khz →
      Q scaling → Q (Function.update scaling policy
        ((scaling policy).set bound (Range.clamp range khz)))) :
    KeptByWrites dir allowed fun sys => ∀ state ∈ sys.visited, Q state := by
  intro k policy range bound khz sys _ hrange hkhz hall state hmem
  have hnow : Q sys.scaling := hall _ List.mem_cons_self
  rcases List.mem_cons.mp hmem with rfl | hmem
  · simp only [writeU64File]
    split
    · exact h policy range bound khz sys.scaling hrange hkhz hnow
    · exact hnow
  · exact hall state hmem

theorem kept_within : KeptByWrites dir (fun _ => True)
    fun sys => ∀ state ∈ sys.visited, Within dir state := by
  apply kept_visited
  intro policy range bound khz scaling hrange _ hnow other range' hrange'
  by_cases hne : other = policy
  · subst hne
    cases hrange.symm.trans hrange'
    rw [Function.update_self]
    exact within_set Range.clamp_mem (hnow other range hrange)
  · rw [Function.update_of_ne hne]
    exact hnow other range' hrange'

/-- Whatever the configurations, failures, restarts and crashes: the limits never leave the
hardware range, and no write ever asks for a frequency that the policy does not support. -/
theorem service_within_range (dir : Directory) (boot : DirName → Limits) (hboot : Within dir boot)
    (scaling : DirName → Limits) (h : ReachableLimits dir boot scaling) :
    Within dir scaling ∧ ∀ outside, ∀ attempt ∈ (main dir scaling outside).controller.sysfs.writes,
      Supported dir attempt := by
  refine ⟨?_, fun outside => kept_supported.main (by simp) outside fun _ => trivial⟩
  induction h with
  | boot => exact hboot
  | @life scaling _ _ outside hvisited ih =>
    have hstart : ∀ state ∈ (⟨scaling, []⟩ : Sysfs).visited, Within dir state := by
      intro state hmem
      obtain rfl := List.mem_singleton.mp hmem
      exact ih
    exact kept_within.main hstart outside (fun _ => trivial) _ hvisited

end

/-- A configuration made for another processor. -/
def foreignFile : ConfigFile :=
  .readable "\x7b\"low_frequency_khz\": 1, \"high_frequency_khz\": 9000000\x7d".toList

def busyStart : Outside where
  file := foreignFile
  detection := .steady
  first := .readable "cpu 10 0 10 80\n".toList
  turns := [⟨[], .readable "cpu 90 0 10 80\n".toList, .steady, false⟩]

theorem service_within_range_foreign :
    ((main Machine.single.dir (fun _ => ⟨800000, 4000000⟩) busyStart).controller.sysfs.scaling
      policy0).max ≤ 4000000 := by
  have hboot : Within Machine.single.dir fun _ => ⟨800000, 4000000⟩ := by
    intro policy range hrange
    have hsame : Machine.single.dir.range policy = Machine.single.dir.range policy0 := rfl
    rw [hsame, range_single] at hrange
    cases hrange
    exact ⟨Range.lowest_mem, Range.highest_mem⟩
  exact ((service_within_range Machine.single.dir _ hboot _
    (.life .boot busyStart List.mem_cons_self)).1 policy0 ⟨800000, 4000000, by decide⟩
    (by decide +kernel)).2.2

end CpuSwitch.Daemon
