import CpuSwitch.Cpufreq.Model
import Mathlib.Order.Lattice

/-! What one policy write and one walk over the policies can do. -/
namespace CpuSwitch.Cpufreq
open CLib

/-- The hardware range of a policy; an inverted one cannot be built. -/
structure Range where
  lowest : UInt64
  highest : UInt64
  ordered : lowest ≤ highest
  deriving DecidableEq

/-- The nearest frequency that the hardware supports. -/
def Range.clamp (range : Range) (khz : UInt64) : UInt64 := range.lowest ⊔ range.highest ⊓ khz

def Directory.read (dir : Directory) (policy : DirName) (bound : Bound) : Option UInt64 :=
  (dir.cpuinfo policy bound).bind fun text => (scanLlu text).map Prod.fst

/-- The range in the cpuinfo files of a usable policy. -/
def Directory.range (dir : Directory) (policy : DirName) : Option Range :=
  match dir.read policy .min, dir.read policy .max with
  | some lowest, some highest =>
    if h : lowest ≤ highest then some ⟨lowest, highest, h⟩ else none
  | _, _ => none

/-- The entries that are named like a policy. -/
def Directory.policies (dir : Directory) : List DirName :=
  dir.entries.filter fun entry => isPolicyName entry.name

/-- A directory in which every policy is usable, with the ranges of the policies. -/
structure Machine where
  dir : Directory
  range : DirName → Range
  usable : ∀ policy ∈ dir.policies, dir.range policy = some (range policy)

/-- A kernel whose reads work and whose stores follow a fixed pattern. -/
def Kernel.ofPattern (ok : DirName → Bound → Bool) : Kernel where
  opendirError := none
  reads _ _ := true
  accepts policy bound _ _ := ok policy bound

/-- A kernel that serves every request. -/
def Kernel.steady : Kernel := .ofPattern fun _ _ => true

/-- The bound that is written first. -/
def firstBound (targetKhz lowFrequencyKhz : UInt64) : Bound :=
  if targetKhz ≤ lowFrequencyKhz then .min else .max

/-- Both bounds to one frequency, the second only after the first was stored. -/
def pinBounds (k : Kernel) (policy : DirName) (first : Bound) (frequency : UInt64)
    (sys : Sysfs) : Bool × Sysfs :=
  match writeU64File k policy first frequency sys with
  | (false, sys) => (false, sys)
  | (true, sys) => writeU64File k policy first.other frequency sys

/-- What becomes of a policy's limits when the stores follow a pattern. -/
def settle (ok : Bound → Bool) (first : Bound) (frequency : UInt64) (limits : Limits) : Limits :=
  if ok first then
    if ok first.other then ⟨frequency, frequency⟩ else limits.set first frequency
  else limits

section Range
variable {range : Range} {khz low high : UInt64}

theorem Range.lowest_le_clamp : range.lowest ≤ range.clamp khz := le_sup_left

theorem Range.clamp_le_highest : range.clamp khz ≤ range.highest :=
  sup_le range.ordered inf_le_left

theorem Range.clamp_mono (h : low ≤ high) : range.clamp low ≤ range.clamp high :=
  sup_le_sup_left (inf_le_inf_left _ h) _

/-- The two comparisons of the source are the clamp. -/
theorem Range.clamp_eq (range : Range) (khz : UInt64) :
    (if (if khz < range.lowest then range.lowest else khz) > range.highest then range.highest
      else if khz < range.lowest then range.lowest else khz) = range.clamp khz := by
  have ho := range.ordered
  unfold Range.clamp
  split_ifs with h1 h2 h2
  · exact (not_lt.mpr ho h2).elim
  · rw [inf_eq_right.mpr (h1.le.trans ho), sup_eq_left.mpr h1.le]
  · rw [inf_eq_left.mpr h2.le, sup_eq_right.mpr ho]
  · rw [inf_eq_right.mpr (not_lt.mp h2), sup_eq_right.mpr (not_lt.mp h1)]

end Range

section Write
variable {k : Kernel} {dir : Directory} {policy other : DirName} {bound first : Bound}
  {value frequency targetKhz lowFrequencyKhz : UInt64} {sys : Sysfs} {limits : Limits}
  {ok : Bound → Bool}

@[simp] theorem other_ne : bound.other ≠ bound := by cases bound <;> decide

theorem forall_bound_iff {p : Bound → Prop} (first : Bound) :
    (∀ bound, p bound) ↔ p first ∧ p first.other := by
  constructor
  · exact fun h => ⟨h _, h _⟩
  · rintro ⟨hfirst, hother⟩ bound
    cases first <;> cases bound <;> assumption

@[simp] theorem set_set_other :
    (limits.set bound value).set bound.other value = ⟨value, value⟩ := by
  cases bound <;> rfl

@[simp] theorem set_set : (limits.set bound value).set bound value = limits.set bound value := by
  cases bound <;> rfl

theorem settle_settle :
    settle ok first frequency (settle ok first frequency limits) =
      settle ok first frequency limits := by
  unfold settle
  split_ifs <;> simp

/-- The 512 bytes always suffice: a name has at most 255. -/
theorem buildPolicyFilePath_isSome (policy : DirName) (file : Attribute) :
    ∃ path, buildPolicyFilePath policy file = some path := by
  have hp : cpufreqPath.length = 31 := by decide
  have hf : file.fileName.length = 16 := by
    rcases file with (_ | _) | (_ | _) <;> decide
  have hn := policy.short
  refine ⟨_, if_pos ?_⟩
  simp only [List.length_append, List.length_cons, hp, hf]
  omega

theorem readU64File_eq :
    readU64File k dir policy bound =
      if k.reads policy bound then dir.read policy bound else none := rfl

/-- One policy write reads the range and then pins both bounds to the clamped target. -/
theorem setOnePolicyFrequency_eq :
    setOnePolicyFrequency k dir policy targetKhz lowFrequencyKhz sys =
      match if k.reads policy .min && k.reads policy .max then dir.range policy else none with
      | none => (false, sys)
      | some range =>
        pinBounds k policy (firstBound targetKhz lowFrequencyKhz) (range.clamp targetKhz) sys := by
  have hpath := buildPolicyFilePath_isSome policy
  obtain ⟨cmin, hcmin⟩ := hpath (.cpuinfo .min)
  obtain ⟨cmax, hcmax⟩ := hpath (.cpuinfo .max)
  obtain ⟨smin, hsmin⟩ := hpath (.scaling .min)
  obtain ⟨smax, hsmax⟩ := hpath (.scaling .max)
  simp only [setOnePolicyFrequency, hcmin, hcmax, hsmin, hsmax, Option.bind_some, readU64File_eq]
  cases hrmin : k.reads policy .min with
  | false => simp
  | true =>
    cases hrmax : k.reads policy .max with
    | false => cases dir.read policy .min <;> simp
    | true =>
      simp only [if_true, Bool.and_self, Directory.range]
      cases dir.read policy .min with
      | none => rfl
      | some lowest =>
        cases dir.read policy .max with
        | none => rfl
        | some highest =>
          by_cases h : lowest ≤ highest
          · have hclamp := Range.clamp_eq ⟨lowest, highest, h⟩ targetKhz
            simp only at hclamp
            simp only [gt_iff_lt, not_lt.mpr h, if_false, h, dif_pos, pinBounds, firstBound]
            rw [← hclamp]
            split_ifs <;> rfl
          · simp [h, not_le.mp h]

theorem writeU64File_scaling_of_ne (h : other ≠ policy) :
    (writeU64File k policy bound value sys).2.scaling other = sys.scaling other := by
  simp only [writeU64File]
  split
  · exact Function.update_of_ne h ..
  · rfl

/-- The second store is made only after the first one worked. -/
theorem pinBounds_cases (k : Kernel) (policy : DirName) (first : Bound) (frequency : UInt64)
    (sys : Sysfs) :
    ((writeU64File k policy first frequency sys).1 = false ∧
      pinBounds k policy first frequency sys =
        (false, (writeU64File k policy first frequency sys).2)) ∨
    ((writeU64File k policy first frequency sys).1 = true ∧
      pinBounds k policy first frequency sys =
        writeU64File k policy first.other frequency
          (writeU64File k policy first frequency sys).2) := by
  unfold pinBounds
  rcases writeU64File k policy first frequency sys with ⟨_ | _, sys'⟩
  · exact Or.inl ⟨rfl, rfl⟩
  · exact Or.inr ⟨rfl, rfl⟩

theorem pinBounds_scaling_of_ne (h : other ≠ policy) :
    (pinBounds k policy first frequency sys).2.scaling other = sys.scaling other := by
  have hfirst : (writeU64File k policy first frequency sys).2.scaling other = sys.scaling other :=
    writeU64File_scaling_of_ne h
  rcases pinBounds_cases k policy first frequency sys with ⟨-, heq⟩ | ⟨-, heq⟩
  · rw [heq, hfirst]
  · rw [heq, writeU64File_scaling_of_ne h, hfirst]

theorem writeU64File_scaling_of_ok
    (h : (writeU64File k policy bound value sys).1 = true) :
    (writeU64File k policy bound value sys).2.scaling policy =
      (sys.scaling policy).set bound value := by
  have haccepted : k.accepts policy bound (sys.scaling policy) value = true := h
  simp [writeU64File, haccepted]

/-- On any kernel a policy write that succeeds has pinned both bounds. -/
theorem pinBounds_scaling_of_ok (h : (pinBounds k policy first frequency sys).1 = true) :
    (pinBounds k policy first frequency sys).2.scaling policy = ⟨frequency, frequency⟩ := by
  rcases pinBounds_cases k policy first frequency sys with ⟨-, heq⟩ | ⟨hw, heq⟩
  · rw [heq] at h
    cases h
  · rw [heq] at h ⊢
    rw [writeU64File_scaling_of_ok h, writeU64File_scaling_of_ok hw, set_set_other]

theorem setOne_scaling_of_ok {range : Range} (hrange : dir.range policy = some range)
    (h : (setOnePolicyFrequency k dir policy targetKhz lowFrequencyKhz sys).1 = true) :
    (setOnePolicyFrequency k dir policy targetKhz lowFrequencyKhz sys).2.scaling policy =
      ⟨range.clamp targetKhz, range.clamp targetKhz⟩ := by
  rw [setOnePolicyFrequency_eq, hrange] at h ⊢
  cases hreads : k.reads policy .min && k.reads policy .max with
  | false => simp [hreads] at h
  | true =>
    rw [hreads] at h
    exact pinBounds_scaling_of_ok h

/-- Under a pattern the outcome of a policy write does not depend on the limits in force. -/
theorem pinBounds_ofPattern (ok : DirName → Bound → Bool) :
    (pinBounds (.ofPattern ok) policy first frequency sys).1 =
        (ok policy first && ok policy first.other) ∧
      (pinBounds (.ofPattern ok) policy first frequency sys).2.scaling policy =
        settle (ok policy) first frequency (sys.scaling policy) := by
  unfold pinBounds settle
  cases h1 : ok policy first <;> cases h2 : ok policy first.other <;>
    simp [writeU64File, Kernel.ofPattern, h1, h2]

end Write

/-- One policy of the walk: count it and write it. -/
def visit (k : Kernel) (dir : Directory) (targetKhz lowFrequencyKhz : UInt64) (walk : Walk)
    (policy : DirName) : Walk :=
  let (ok, sysfs) := setOnePolicyFrequency k dir policy targetKhz lowFrequencyKhz walk.sysfs
  { attempted := walk.attempted + 1
    succeeded := if ok then walk.succeeded + 1 else walk.succeeded
    sysfs }

/-- What the walk over a whole directory ends in. -/
def Directory.walk (k : Kernel) (dir : Directory) (targetKhz lowFrequencyKhz : UInt64)
    (sys : Sysfs) : Walk :=
  dir.policies.foldl (visit k dir targetKhz lowFrequencyKhz) ⟨0, 0, sys⟩

section Walk
variable {k : Kernel} {dir : Directory} {policy : DirName} {targetKhz lowFrequencyKhz : UInt64}
  {walk : Walk} {policies : List DirName} {sys : Sysfs}

theorem walkPolicies_eq_foldl (entries : List DirName) :
    walkPolicies k dir targetKhz lowFrequencyKhz entries walk =
      (entries.filter fun entry => isPolicyName entry.name).foldl
        (visit k dir targetKhz lowFrequencyKhz) walk := by
  induction entries generalizing walk with
  | nil => rfl
  | cons entry entries ih =>
    by_cases h : isPolicyName entry.name
    · simp only [walkPolicies, h, if_true, List.filter_cons, List.foldl_cons, ih]
      rfl
    · simp [walkPolicies, h, ih]

/-- A walk attempts every policy, whatever happens to each. -/
theorem attempted_foldl :
    (policies.foldl (visit k dir targetKhz lowFrequencyKhz) walk).attempted =
      walk.attempted + policies.length := by
  induction policies generalizing walk with
  | nil => rfl
  | cons policy policies ih =>
    rw [List.foldl_cons, ih]
    simp only [visit, List.length_cons]
    omega

/-- Where the outcome of each policy is known in advance, so is the number of successes. -/
theorem succeeded_foldl (works : DirName → Bool)
    (h : ∀ policy ∈ policies, ∀ sys,
      (setOnePolicyFrequency k dir policy targetKhz lowFrequencyKhz sys).1 = works policy) :
    (policies.foldl (visit k dir targetKhz lowFrequencyKhz) walk).succeeded =
      walk.succeeded + policies.countP works := by
  induction policies generalizing walk with
  | nil => rfl
  | cons policy policies ih =>
    rw [List.foldl_cons, ih fun other ho => h other (List.mem_cons_of_mem _ ho)]
    have hp := h policy List.mem_cons_self walk.sysfs
    simp only [visit, hp, List.countP_cons]
    cases works policy <;> simp
    omega

theorem setAll_sysfs (hk : k.opendirError = none) :
    (cpuLinuxSetAllPolicyFrequency k dir targetKhz lowFrequencyKhz sys).2 =
      (dir.walk k targetKhz lowFrequencyKhz sys).sysfs := by
  simp only [cpuLinuxSetAllPolicyFrequency, hk, walkPolicies_eq_foldl, Directory.walk,
    Directory.policies]
  split_ifs <;> rfl

theorem setAll_ok (hk : k.opendirError = none) :
    (cpuLinuxSetAllPolicyFrequency k dir targetKhz lowFrequencyKhz sys).1 = .ok () ↔
      (dir.walk k targetKhz lowFrequencyKhz sys).attempted ≠ 0 ∧
        (dir.walk k targetKhz lowFrequencyKhz sys).succeeded =
          (dir.walk k targetKhz lowFrequencyKhz sys).attempted := by
  simp only [cpuLinuxSetAllPolicyFrequency, hk, walkPolicies_eq_foldl, Directory.walk,
    Directory.policies]
  split_ifs with hbad
  · simp only [false_iff, not_and]
    intro h0 hs
    exact hbad.elim h0 (fun hne => hne hs)
  · simpa [not_or] using hbad

/-- The call succeeds exactly when there is a policy and every policy works. -/
theorem setAll_ok_iff (works : DirName → Bool) (hk : k.opendirError = none)
    (h : ∀ policy ∈ dir.policies, ∀ sys,
      (setOnePolicyFrequency k dir policy targetKhz lowFrequencyKhz sys).1 = works policy) :
    (cpuLinuxSetAllPolicyFrequency k dir targetKhz lowFrequencyKhz sys).1 = .ok () ↔
      dir.policies ≠ [] ∧ ∀ policy ∈ dir.policies, works policy = true := by
  rw [setAll_ok hk, Directory.walk, attempted_foldl, succeeded_foldl works h]
  simp only [Nat.zero_add, List.countP_eq_length, ne_eq, List.length_eq_zero_iff]

end Walk

section Machine
variable {m : Machine} {ok : DirName → Bound → Bool} {targetKhz lowFrequencyKhz : UInt64}
  {sys : Sysfs} {policy : DirName}

theorem Machine.setOne_eq {k : Kernel} (hr : ∀ policy bound, k.reads policy bound = true)
    (hp : policy ∈ m.dir.policies) :
    setOnePolicyFrequency k m.dir policy targetKhz lowFrequencyKhz sys =
      pinBounds k policy (firstBound targetKhz lowFrequencyKhz)
        ((m.range policy).clamp targetKhz) sys := by
  simp [setOnePolicyFrequency_eq, hr, m.usable policy hp]

/-- Under a pattern a call succeeds exactly when it finds policies and all stores work. -/
theorem Machine.setAll_ok_iff :
    (cpuLinuxSetAllPolicyFrequency (.ofPattern ok) m.dir targetKhz lowFrequencyKhz sys).1 = .ok () ↔
      m.dir.policies ≠ [] ∧ ∀ policy ∈ m.dir.policies, ∀ bound, ok policy bound = true := by
  have hone : ∀ policy ∈ m.dir.policies, ∀ sys,
      (setOnePolicyFrequency (.ofPattern ok) m.dir policy targetKhz lowFrequencyKhz sys).1 =
        (ok policy (firstBound targetKhz lowFrequencyKhz) &&
          ok policy (firstBound targetKhz lowFrequencyKhz).other) := by
    intro policy hp sys
    rw [m.setOne_eq (fun _ _ => rfl) hp]
    exact (pinBounds_ofPattern ok).1
  rw [Cpufreq.setAll_ok_iff _ rfl hone]
  refine and_congr_right fun _ => forall₂_congr fun policy _ => ?_
  rw [Bool.and_eq_true, forall_bound_iff (firstBound targetKhz lowFrequencyKhz)]

/-- Under a pattern the visited policies settle on their own, and nothing else changes. -/
theorem Machine.scaling_foldl {policies : List DirName} {walk : Walk}
    (hsub : ∀ p ∈ policies, p ∈ m.dir.policies) :
    (policies.foldl (visit (.ofPattern ok) m.dir targetKhz lowFrequencyKhz)
        walk).sysfs.scaling policy =
      if policy ∈ policies then
        settle (ok policy) (firstBound targetKhz lowFrequencyKhz)
          ((m.range policy).clamp targetKhz) (walk.sysfs.scaling policy)
      else walk.sysfs.scaling policy := by
  induction policies generalizing walk with
  | nil => simp
  | cons p policies ih =>
    have hone : setOnePolicyFrequency (.ofPattern ok) m.dir p targetKhz lowFrequencyKhz
        walk.sysfs = _ := m.setOne_eq (fun _ _ => rfl) (hsub p List.mem_cons_self)
    rw [List.foldl_cons, ih fun q hq => hsub q (List.mem_cons_of_mem _ hq)]
    simp only [visit, hone]
    by_cases hp : policy = p
    · subst hp
      simp only [(pinBounds_ofPattern ok).2, List.mem_cons_self, if_true, settle_settle, ite_self]
    · simp only [pinBounds_scaling_of_ne hp, List.mem_cons, hp, false_or]

theorem Machine.setAll_scaling :
    (cpuLinuxSetAllPolicyFrequency (.ofPattern ok) m.dir targetKhz lowFrequencyKhz
        sys).2.scaling policy =
      if policy ∈ m.dir.policies then
        settle (ok policy) (firstBound targetKhz lowFrequencyKhz)
          ((m.range policy).clamp targetKhz) (sys.scaling policy)
      else sys.scaling policy := by
  rw [setAll_sysfs rfl, Directory.walk, m.scaling_foldl fun _ hp => hp]

end Machine

def policy0 : DirName := ⟨"policy0".toList, by decide⟩

/-- One policy, from 800 MHz to 4 GHz. -/
def singleDirectory : Directory where
  entries := [policy0]
  cpuinfo _ bound := match bound with
    | .min => some "800000\n".toList
    | .max => some "4000000\n".toList

theorem usable_singleDirectory : ∀ policy ∈ singleDirectory.policies,
    singleDirectory.range policy = some ⟨800000, 4000000, by decide⟩ := by decide +kernel

def Machine.single : Machine where
  dir := singleDirectory
  range _ := ⟨800000, 4000000, by decide⟩
  usable := usable_singleDirectory

end CpuSwitch.Cpufreq
