import CpuSwitch.Daemon.Hysteresis

/-! How the daemon finds back to the truth once its stores work again. -/
namespace CpuSwitch.Daemon
open CLib Config Cpufreq

/-- The last sample outside the band. -/
def lastWish (config : CpuConfig) (samples : List (Option Double)) : Option Direction :=
  (samples.map (wish config)).reduceOption.getLast?

/-- Some sample calls for a state that the daemon is not in. -/
def Challenged (config : CpuConfig) (state : State) (samples : List (Option Double)) : Prop :=
  ∃ direction, some direction ∈ samples.map (wish config) ∧ state ≠ Direction.state direction

section
variable {m : Machine} {config : CpuConfig} {c : Controller} {direction : Direction}
  {sample : Option Double} {samples : List (Option Double)} {state : State}
  {scaling : DirName → Limits}

theorem lastOutside_eq : lastOutside config samples =
    (lastWish config samples).elim .unknown Direction.state := rfl

theorem lastWish_concat_none (h : wish config sample = none) :
    lastWish config (samples ++ [sample]) = lastWish config samples := by
  simp [lastWish, List.reduceOption_append, h]

theorem lastWish_concat_some (h : wish config sample = some direction) :
    lastWish config (samples ++ [sample]) = some direction := by
  simp [lastWish, List.reduceOption_append, h, List.reduceOption_singleton]

theorem challenged_concat : Challenged config state (samples ++ [sample]) ↔
    Challenged config state samples ∨
      ∃ direction, wish config sample = some direction ∧ state ≠ Direction.state direction := by
  simp only [Challenged, List.map_append, List.map_cons, List.map_nil, List.mem_append,
    List.mem_singleton, or_and_right, exists_or, eq_comm]

theorem not_challenged_nil : ¬ Challenged config state [] := by simp [Challenged]

theorem pinned_pinAll : Pinned m (direction.target config) (pinAll m config direction scaling) :=
  fun _ hp => if_pos hp

/-- Everything that one iteration with working stores can do. -/
theorem steadily_cases (hne : m.dir.policies ≠ [])
    (hth : config.lowThresholdPct < config.highThresholdPct) (c : Controller)
    (sample : Option Double) :
    (steadily config m.dir c sample = c ∧
      ∀ direction, wish config sample = some direction → c.state = direction.state) ∨
    ∃ direction, wish config sample = some direction ∧ c.state ≠ direction.state ∧
      (steadily config m.dir c sample).state = direction.state ∧
      (steadily config m.dir c sample).sysfs.scaling =
        pinAll m config direction c.sysfs.scaling := by
  cases sample with
  | none => exact Or.inl ⟨rfl, fun _ h => by cases h⟩
  | some usage =>
    have hreq : request config c.state usage = _ := request_eq_classify hth c.state
    change (sampled config m.dir c (some usage, .steady) = c ∧
      ∀ direction, classify config usage = some direction → c.state = direction.state) ∨
      ∃ direction, classify config usage = some direction ∧ _
    cases hc : classify config usage with
    | none =>
      rw [hc, Option.bind_none] at hreq
      exact Or.inl ⟨sampled_of_request_none hreq, fun _ h => by cases h⟩
    | some direction =>
      rw [hc, Option.bind_some] at hreq
      by_cases hs : c.state = direction.state
      · rw [if_pos hs] at hreq
        refine Or.inl ⟨sampled_of_request_none hreq, fun other ho => ?_⟩
        cases ho
        exact hs
      · rw [if_neg hs] at hreq
        refine Or.inr ⟨direction, rfl, hs, ?_, ?_⟩
        · rw [steadily, sampled_of_request hreq]
          exact switchTo_state_of_ok (setAll_steady_ok hne)
        · rw [steadily, sampled_of_request hreq, switchTo_sysfs, setAll_steady_scaling]

/-- Either nothing called for a switch and nothing happened, or the last sample outside the band
tells the state and the place of every policy. -/
theorem steadily_run (hne : m.dir.policies ≠ [])
    (hth : config.lowThresholdPct < config.highThresholdPct) (c : Controller)
    (samples : List (Option Double)) :
    (¬ Challenged config c.state samples ∧ run (steadily config m.dir) c samples = c) ∨
    (Challenged config c.state samples ∧ ∃ direction, lastWish config samples = some direction ∧
      (run (steadily config m.dir) c samples).state = direction.state ∧
      Pinned m (direction.target config)
        (run (steadily config m.dir) c samples).sysfs.scaling) := by
  induction samples using List.reverseRecOn with
  | nil => exact Or.inl ⟨not_challenged_nil, rfl⟩
  | append_singleton samples sample ih =>
    rw [run_concat, challenged_concat]
    generalize run (steadily config m.dir) c samples = now at ih ⊢
    have hcases := steadily_cases hne hth now sample
    rcases ih with ⟨hquiet, rfl⟩ | ⟨hloud, direction, hlast, hstate, hpinned⟩
    · rcases hcases with ⟨heq, hsame⟩ | ⟨other, hwish, hdiffers, hstate, hscaling⟩
      · refine Or.inl ⟨?_, heq⟩
        rintro (h | ⟨other, hwish, hdiffers⟩)
        · exact hquiet h
        · exact hdiffers (hsame other hwish)
      · refine Or.inr ⟨Or.inr ⟨other, hwish, hdiffers⟩, other, lastWish_concat_some hwish,
          hstate, ?_⟩
        rw [hscaling]
        exact pinned_pinAll
    · refine Or.inr ⟨Or.inl hloud, ?_⟩
      rcases hcases with ⟨heq, hsame⟩ | ⟨other, hwish, -, hstate', hscaling⟩
      · rw [heq]
        cases hwish : wish config sample with
        | none => exact ⟨direction, (lastWish_concat_none hwish).trans hlast, hstate, hpinned⟩
        | some other =>
          -- The wish repeats the state, so it is the last wish again.
          have hagain : other = direction :=
            state_injective ((hsame other hwish).symm.trans hstate)
          exact ⟨direction, hagain ▸ lastWish_concat_some hwish, hstate, hpinned⟩
      · refine ⟨other, lastWish_concat_some hwish, hstate', ?_⟩
        rw [hscaling]
        exact pinned_pinAll

/-- Whatever happened before, once the stores work the state tells the truth exactly when it did
before or when a sample has called for another state since; in that case it is the state that
the last sample outside the band calls for. -/
theorem agreement_recovers_iff (m : Machine) (hne : m.dir.policies ≠ []) (config : CpuConfig)
    (hth : config.lowThresholdPct < config.highThresholdPct) (c : Controller)
    (samples : List (Option Double)) :
    let c' := run (steadily config m.dir) c samples
    (Agrees m config c' ↔ Agrees m config c ∨ Challenged config c.state samples) ∧
      (Challenged config c.state samples → c'.state = lastOutside config samples) := by
  intro c'
  rcases steadily_run hne hth c samples with ⟨hquiet, heq⟩ | ⟨hloud, direction, hlast, hstate, hpin⟩
  · have hc' : c' = c := heq
    rw [hc']
    exact ⟨(or_iff_left hquiet).symm, fun h => (hquiet h).elim⟩
  · refine ⟨iff_of_true ?_ (Or.inr hloud), fun _ => ?_⟩
    · intro other ho
      exact state_injective (hstate.symm.trans ho) ▸ hpin
    · rw [lastOutside_eq, hlast]
      exact hstate

/-- A daemon that wrongly believes in LOW is put right by one busy sample. -/
theorem agreement_recovers_single :
    Agrees .single cpuConfigDefaults (run (steadily cpuConfigDefaults Machine.single.dir)
      ⟨.low, ⟨fun _ => ⟨1200000, 3500000⟩, []⟩, []⟩ [some (.finite 50)]) :=
  (agreement_recovers_iff .single (by decide) cpuConfigDefaults (by decide +kernel)
    ⟨.low, ⟨fun _ => ⟨1200000, 3500000⟩, []⟩, []⟩ [some (.finite 50)]).1.mpr
    (Or.inr ⟨.high, by decide +kernel, by decide⟩)

end

end CpuSwitch.Daemon
