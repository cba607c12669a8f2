import CpuSwitch.Gui.Model
import CpuSwitch.Undervolt.Lines
import CpuSwitch.Undervolt.Report

/-! Where the voltages that the page hands to the writer come from. -/
namespace CpuSwitch.Gui
open CLib Undervolt

/-- The event gave every spin button a value. -/
def Event.Supplies : Event → Prop
  | .handed _ _ => False
  | _ => True

/-- A load or a measurement gave this value for a domain. -/
def Obtained (log : List Event) (index : Fin 5) (value : Double) : Prop :=
  (∃ offsets, .loaded offsets ∈ log ∧ offsets index = value) ∨
    ∃ offsets present, .measured offsets present ∈ log ∧ present index = true ∧
      offsets index = value

/-- Zero, or what a spin button makes of a value obtained earlier. -/
def Accountable (log : List Event) (index : Fin 5) (offset : Double) : Prop :=
  offset = .finite 0 ∨
    ∃ value, Obtained log index value ∧ offset = value.clamp undervoltMinMv undervoltMaxMv

/-- Every offset ever handed to the writer for a selected domain was accountable then. -/
def Accounted (log : List Event) : Prop :=
  ∀ offsets present earlier, (.handed offsets present :: earlier) <:+ log →
    ∀ index, domainSelected index present = true → Accountable earlier index (offsets index)

/-- An apply that gets as far as the writer. -/
def ReachesWriter (session : Session) (action : Action) : Prop :=
  ∃ outcome, action = .apply outcome ∧ session.app.undervoltProgram ≠ none ∧
    outcome.temporaryError = none

def Supplied (log : List Event) : Prop := ∃ event ∈ log, event.Supplies

section Log
variable {log : List Event} {event : Event} {index : Fin 5} {offset : Double}

theorem Obtained.mono {log' : List Event} (h : Obtained log index offset) (hsub : log ⊆ log') :
    Obtained log' index offset := by
  rcases h with ⟨offsets, hmem, ho⟩ | ⟨offsets, present, hmem, hp, ho⟩
  · exact Or.inl ⟨offsets, hsub hmem, ho⟩
  · exact Or.inr ⟨offsets, present, hsub hmem, hp, ho⟩

theorem Accountable.cons (h : Accountable log index offset) :
    Accountable (event :: log) index offset := by
  rcases h with h | ⟨value, hobtained, hvalue⟩
  · exact Or.inl h
  · exact Or.inr ⟨value, hobtained.mono (List.subset_cons_self event log), hvalue⟩

theorem Supplied.cons (h : Supplied log) : Supplied (event :: log) := by
  obtain ⟨old, hmem, hold⟩ := h
  exact ⟨old, List.mem_cons_of_mem _ hmem, hold⟩

theorem accounted_nil : Accounted [] := by
  intro offsets present earlier h
  simp at h

theorem accounted_cons_of_supplies (he : event.Supplies) :
    Accounted (event :: log) ↔ Accounted log := by
  unfold Accounted
  refine forall₃_congr fun offsets present earlier => ?_
  have hne : event ≠ .handed offsets present := by
    rintro rfl
    exact he
  rw [List.suffix_cons_iff]
  simp [Ne.symm hne]

theorem accounted_handed {offsets : Offsets} {present : Mask} :
    Accounted (.handed offsets present :: log) ↔ Accounted log ∧
      ∀ index, domainSelected index present = true → Accountable log index (offsets index) := by
  constructor
  · intro h
    refine ⟨fun offsets present earlier hs => h _ _ _ (hs.trans (List.suffix_cons _ _)), ?_⟩
    exact h offsets present log List.suffix_rfl
  · rintro ⟨hlog, hnew⟩ offsets' present' earlier hs
    rcases List.suffix_cons_iff.mp hs with heq | hs
    · cases heq
      exact hnew
    · exact hlog _ _ _ hs

end Log

/-- What an apply can do: stop before the writer, end with the file as it was, or leave in its
place what the writer made of it. -/
inductive Applies (outcome : ApplyOutcome) (session : Session) : Bool × Session → Prop where
  | stopped (status : Option (String × Bool))
      (early : ¬ (undervoltValidate session.app.undervoltSpins = .ok () ∧
        outcome.temporaryError = none)) :
      Applies outcome session (false, { session with app := { session.app with status } })
  | kept (status : Option (String × Bool))
      (reached : undervoltValidate session.app.undervoltSpins = .ok () ∧
        outcome.temporaryError = none)
      (failure : (undervoltWriteConfigCopyMasked session.configFile outcome.temporary
          session.app.undervoltSpins session.app.mask).1 = .ok () →
        ∀ stdoutText, outcome.install ≠ .succeeded stdoutText) :
      Applies outcome session (false,
        ⟨{ session.app with status }, session.configFile,
          .handed session.app.undervoltSpins session.app.mask :: session.log⟩)
  | installed (done : Bool) (status : Option (String × Bool)) (text : Text)
      (reached : undervoltValidate session.app.undervoltSpins = .ok () ∧
        outcome.temporaryError = none)
      (written : undervoltWriteConfigCopyMasked session.configFile outcome.temporary
        session.app.undervoltSpins session.app.mask = (.ok (), .stored text)) :
      Applies outcome session (done,
        ⟨{ session.app with status }, .readable text,
          .handed session.app.undervoltSpins session.app.mask :: session.log⟩)

/-- What a step can do to the spin buttons and to the history; it calls the writer only when
it reaches it. -/
inductive Moves (reaches : Prop) (session : Session) : Session → Prop where
  | quiet {session' : Session} (log : session'.log = session.log)
      (spins : session'.app.undervoltSpins = session.app.undervoltSpins)
      (detected : session'.app.undervoltDomainsDetected = true →
        session.app.undervoltDomainsDetected = true) : Moves reaches session session'
  | set {session' : Session} (event : Event) (offsets : Offsets)
      (log : session'.log = event :: session.log) (supplies : event.Supplies)
      (spins : session'.app.undervoltSpins =
        fun index => (offsets index).clamp undervoltMinMv undervoltMaxMv)
      (source : ∀ index, offsets index = .finite 0 ∨ Obtained [event] index (offsets index)) :
      Moves reaches session session'
  | handed {session' : Session} (reached : reaches)
      (log : session'.log =
        .handed session.app.undervoltSpins session.app.mask :: session.log)
      (spins : session'.app.undervoltSpins = session.app.undervoltSpins)
      (detected : session'.app.undervoltDomainsDetected =
        session.app.undervoltDomainsDetected) : Moves reaches session session'

section Step
variable {session session' : Session} {action : Action} {backend : Backend}
  {result : CommandResult} {outcome : ApplyOutcome} {message : String} {isError : Bool}
  {reaches : Prop} {applied : Bool × Session} {text stdoutText : Text}

/-- The banner is no part of what is tracked. -/
theorem Moves.setStatus (h : Moves reaches session session') : Moves reaches session
    { session' with app := Gui.setStatus session'.app message isError } := by
  cases h with
  | quiet log spins detected => exact .quiet log spins detected
  | set event offsets log supplies spins source =>
    exact .set event offsets log supplies spins source
  | handed reached log spins detected => exact .handed reached log spins detected

theorem moves_refresh : Moves reaches session (refreshUndervoltBackend backend session) := by
  unfold refreshUndervoltBackend
  split
  · exact .quiet rfl rfl (by simp [updateUndervoltDomainVisibility])
  · split
    · exact .quiet rfl rfl (by simp [updateUndervoltDomainVisibility])
    · split
      · rename_i offsets _
        exact .set (.loaded offsets) offsets rfl trivial rfl
          fun index => Or.inr (Or.inl ⟨offsets, List.mem_cons_self, rfl⟩)
      · exact .quiet rfl rfl (by simp [Gui.setStatus, updateUndervoltDomainVisibility])

theorem moves_read : Moves reaches session (onUndervoltRead result session) := by
  unfold onUndervoltRead
  split
  · exact .quiet rfl rfl id
  · exact .quiet rfl rfl id
  · rename_i stdoutText _
    dsimp only
    split
    · exact .quiet rfl rfl id
    · refine .set (.measured _ _) _ rfl trivial rfl fun index => ?_
      rw [undervoltParseReadOutputMasked_eq]
      cases hr : reportedOffset (cString stdoutText) index with
      | none => exact Or.inl (by simp [hr, undervoltDefaults])
      | some value =>
        exact Or.inr (Or.inr ⟨_, _, List.mem_cons_self, by simp [hr], rfl⟩)

theorem moves_zero : Moves reaches session (onUndervoltZero session) :=
  .set .zeroed undervoltDefaults rfl trivial rfl fun _ => Or.inl rfl

theorem writeAndApply_applies (outcome : ApplyOutcome) (session : Session) :
    Applies outcome session (writeAndApplyUndervolt outcome session) := by
  unfold writeAndApplyUndervolt undervoltWidgetsToValues handToWriter
  dsimp only
  cases hv : undervoltValidate session.app.undervoltSpins with
  | error message => exact .stopped _ (by simp [hv])
  | ok _ =>
    cases ht : outcome.temporaryError with
    | some message => exact .stopped _ (by simp [ht])
    | none =>
      cases hwrite : undervoltWriteConfigCopyMasked session.configFile outcome.temporary
          session.app.undervoltSpins session.app.mask with
      | mk result destination =>
        cases result with
        | error message => exact .kept _ ⟨hv, ht⟩ (by simp [hwrite])
        | ok _ =>
          have hstored := (rewrite_ok (congrArg Prod.fst hwrite)).2
          rw [hwrite] at hstored
          cases hstored
          cases hinstall : outcome.install with
          | failed detail => exact .kept _ ⟨hv, ht⟩ (by simp [hinstall])
          | succeeded stdoutText =>
            cases outcome.apply with
            | failed detail => exact .installed _ _ _ ⟨hv, ht⟩ hwrite
            | succeeded stdoutText =>
              cases outcome.service with
              | failed detail => exact .installed _ _ _ ⟨hv, ht⟩ hwrite
              | succeeded stdoutText => exact .installed _ _ _ ⟨hv, ht⟩ hwrite

/-- Applying changes nothing on the page but the banner. -/
theorem Applies.app (h : Applies outcome session applied) :
    ∃ status, applied.2.app = { session.app with status } := by
  cases h with
  | stopped status => exact ⟨status, rfl⟩
  | kept status => exact ⟨status, rfl⟩
  | installed _ status => exact ⟨status, rfl⟩

/-- The writer is called when the offsets are valid and there is a temporary file. -/
theorem Applies.log (h : Applies outcome session applied) :
    applied.2.log =
      if undervoltValidate session.app.undervoltSpins = .ok () ∧ outcome.temporaryError = none then
        .handed session.app.undervoltSpins session.app.mask :: session.log
      else session.log := by
  cases h with
  | stopped _ early => rw [if_neg early]
  | kept _ reached => rw [if_pos reached]
  | installed _ _ _ reached => rw [if_pos reached]

/-- The file stays, or what the writer made of it under the mask in force takes its place. -/
theorem Applies.file (h : Applies outcome session applied) :
    (applied.1 = false ∧ applied.2.configFile = session.configFile) ∨
      ∃ text, undervoltWriteConfigCopyMasked session.configFile outcome.temporary
          session.app.undervoltSpins session.app.mask = (.ok (), .stored text) ∧
        applied.2.configFile = .readable text := by
  cases h with
  | stopped => exact Or.inl ⟨rfl, rfl⟩
  | kept => exact Or.inl ⟨rfl, rfl⟩
  | installed _ _ text _ written => exact Or.inr ⟨text, written, rfl⟩

theorem Applies.installed_file (h : Applies outcome session applied)
    (hreached : undervoltValidate session.app.undervoltSpins = .ok () ∧
      outcome.temporaryError = none)
    (hwrite : undervoltWriteConfigCopyMasked session.configFile outcome.temporary
      session.app.undervoltSpins session.app.mask = (.ok (), .stored text))
    (hinstall : outcome.install = .succeeded stdoutText) :
    applied.2.configFile = .readable text := by
  cases h with
  | stopped _ early => exact (early hreached).elim
  | kept _ _ failure => exact (failure (congrArg Prod.fst hwrite) stdoutText hinstall).elim
  | installed _ _ text' _ written =>
    rw [written] at hwrite
    cases hwrite
    rfl

theorem moves_step : Moves (ReachesWriter session action) session (step session action) := by
  cases action with
  | read result => exact moves_read
  | zero => exact moves_zero
  | refresh backend => exact moves_refresh.setStatus
  | check atBoot => exact .quiet rfl rfl id
  | edit configFile => exact .quiet rfl rfl id
  | apply outcome =>
    simp only [step, onUndervoltApply]
    split
    · exact .quiet rfl rfl id
    · rename_i program hprogram
      obtain ⟨status, happ⟩ := (writeAndApply_applies outcome session).app
      have hlog := (writeAndApply_applies outcome session).log
      split_ifs at hlog with h
      · exact .handed ⟨outcome, rfl, by simp [hprogram], h.2⟩ hlog (by rw [happ]) (by rw [happ])
      · exact .quiet hlog (by rw [happ]) (by simp [happ])

/-- No value was supplied yet: the spin buttons show the lower end of their range. -/
structure Fresh (session : Session) : Prop where
  log : ¬ Supplied session.log
  spins : session.app.undervoltSpins = fun _ => undervoltMinMv
  detected : session.app.undervoltDomainsDetected = false

/-- Values were supplied, and the spin buttons show nothing else. -/
structure Known (session : Session) : Prop where
  log : Supplied session.log
  spins : ∀ index, Accountable session.log index (session.app.undervoltSpins index)

theorem known_of_set {event : Event} {offsets : Offsets}
    (hlog : session'.log = event :: session.log) (hsupplies : event.Supplies)
    (hspins : session'.app.undervoltSpins =
      fun index => (offsets index).clamp undervoltMinMv undervoltMaxMv)
    (hsource : ∀ index, offsets index = .finite 0 ∨ Obtained [event] index (offsets index)) :
    Known session' := by
  refine ⟨⟨event, hlog ▸ List.mem_cons_self, hsupplies⟩, fun index => ?_⟩
  rw [hspins, hlog]
  rcases hsource index with hzero | hobtained
  · left
    simp only [hzero]
    decide +kernel
  · exact Or.inr ⟨offsets index, hobtained.mono (by simp), rfl⟩

/-- The page always shows its initial values or supplied ones. -/
theorem fresh_or_known_moves (hm : Moves reaches session session')
    (h : Fresh session ∨ Known session) : Fresh session' ∨ Known session' := by
  cases hm with
  | set event offsets log supplies spins source =>
    exact Or.inr (known_of_set log supplies spins source)
  | quiet log spins detected =>
    rcases h with h | h
    · refine Or.inl ⟨log ▸ h.log, spins.trans h.spins, ?_⟩
      by_contra hd
      have hold := detected (by simpa using hd)
      simp [h.detected] at hold
    · exact Or.inr ⟨log ▸ h.log, by rw [log, spins]; exact h.spins⟩
  | handed _ log spins detected =>
    rcases h with h | h
    · refine Or.inl ⟨?_, spins.trans h.spins, detected.trans h.detected⟩
      rw [log]
      rintro ⟨event, hmem, hevent⟩
      rcases List.mem_cons.mp hmem with rfl | hmem
      · exact hevent
      · exact h.log ⟨event, hmem, hevent⟩
    · exact Or.inr ⟨log ▸ h.log.cons, by rw [log, spins]; exact fun index => (h.spins index).cons⟩

/-- The history stays accounted as long as the writer is called on supplied values. -/
theorem accounted_moves (hm : Moves reaches session session')
    (h : reaches → Known session) (ha : Accounted session.log) : Accounted session'.log := by
  cases hm with
  | quiet log _ _ => exact log ▸ ha
  | set event offsets log supplies _ _ => exact log ▸ (accounted_cons_of_supplies supplies).mpr ha
  | handed reached log _ _ =>
    exact log ▸ accounted_handed.mpr ⟨ha, fun index _ => (h reached).spins index⟩

/-- Before anything was supplied the lower end of the range is not accountable. -/
theorem not_accountable_of_fresh (h : Fresh session) (index : Fin 5) :
    ¬ Accountable session.log index undervoltMinMv := by
  rintro (hzero | ⟨value, hobtained, -⟩)
  · exact absurd hzero (by decide +kernel)
  · rcases hobtained with ⟨offsets, hmem, -⟩ | ⟨offsets, present, hmem, -⟩
    · exact h.log ⟨_, hmem, trivial⟩
    · exact h.log ⟨_, hmem, trivial⟩

/-- A writer call on a fresh page is not accounted for. -/
theorem not_accounted_of_fresh (h : Fresh session) (hreach : ReachesWriter session action) :
    ¬ Accounted (step session action).log := by
  obtain ⟨outcome, rfl, hprogram, htemporary⟩ := hreach
  obtain ⟨program, hprogram⟩ := Option.ne_none_iff_exists'.mp hprogram
  have hvalid : undervoltValidate session.app.undervoltSpins = .ok () := by
    rw [h.spins]
    decide +kernel
  have hlog := (writeAndApply_applies outcome session).log
  rw [if_pos ⟨hvalid, htemporary⟩] at hlog
  simp only [step, onUndervoltApply, hprogram, hlog]
  intro hacc
  have hselected : domainSelected 0 session.app.mask = true := by
    simp [AppState.mask, h.detected, domainSelected]
  have hfirst := (accounted_handed.mp hacc).2 0 hselected
  rw [h.spins] at hfirst
  exact not_accountable_of_fresh h 0 hfirst

theorem accounted_step_iff (h : Fresh session ∨ Known session) (ha : Accounted session.log) :
    Accounted (step session action).log ↔
      (ReachesWriter session action → Supplied session.log) := by
  rcases h with h | h
  · constructor
    · exact fun hacc hreach => (not_accounted_of_fresh h hreach hacc).elim
    · exact fun himp => accounted_moves moves_step (fun hreach => (h.log (himp hreach)).elim) ha
  · exact iff_of_true (accounted_moves moves_step (fun _ => h) ha) fun _ => h.log

theorem activate_spec (configFile : ConfigFile) (backend : Backend) (configError : String) :
    (Fresh (activate configFile backend configError) ∨
        Known (activate configFile backend configError)) ∧
      Accounted (activate configFile backend configError).log := by
  have hm : Moves False ⟨buildUndervoltPage, configFile, []⟩
      (activate configFile backend configError) := moves_refresh.setStatus
  have hstart : Fresh ⟨buildUndervoltPage, configFile, []⟩ := ⟨by simp [Supplied], rfl, rfl⟩
  exact ⟨fresh_or_known_moves hm (Or.inl hstart),
    accounted_moves hm (fun himpossible => himpossible.elim) accounted_nil⟩

/-- Every voltage handed to the writer was supplied by somebody exactly when no apply reaches
the writer before the first load, measurement or zero. -/
theorem voltage_accounted_iff (configFile : ConfigFile) (backend : Backend) (configError : String)
    (actions : List Action) :
    (∀ front, front <+: actions →
      Accounted (run step (activate configFile backend configError) front).log) ↔
    ∀ front action, front ++ [action] <+: actions →
      ReachesWriter (run step (activate configFile backend configError) front) action →
        Supplied (run step (activate configFile backend configError) front).log := by
  obtain ⟨hshown, haccounted⟩ := activate_spec configFile backend configError
  have hinvariant : ∀ front, Fresh (run step (activate configFile backend configError) front) ∨
      Known (run step (activate configFile backend configError) front) :=
    fun _ => run_invariant (P := fun session => Fresh session ∨ Known session) hshown
      fun _ _ h => fresh_or_known_moves moves_step h
  have hstep : ∀ session action,
      (Fresh session ∨ Known session) ∧ Accounted session.log →
        (((Fresh (step session action) ∨ Known (step session action)) ∧
          Accounted (step session action).log) ↔
            (ReachesWriter session action → Supplied session.log)) := by
    rintro session action ⟨hs, ha⟩
    rw [accounted_step_iff hs ha]
    exact and_iff_right (fresh_or_known_moves moves_step hs)
  rw [← run_always_iff (P := fun session => (Fresh session ∨ Known session) ∧
    Accounted session.log) ⟨hshown, haccounted⟩ hstep]
  exact ⟨fun h front hfront => ⟨hinvariant front, h front hfront⟩,
    fun h front hfront => (h front hfront).2⟩

/-- Everything behind the apply button works. -/
def ApplyOutcome.steady : ApplyOutcome where
  temporaryError := none
  temporary := ⟨"/tmp/intel-undervolt-XXXXXX", none, fun _ => true, true⟩
  install := .succeeded []
  apply := .succeeded []
  service := .succeeded []

/-- The offset of the only domain line is not a number. -/
def malformed : ConfigFile := .readable "undervolt 0 'CPU' abc\n".toList

def installed : Backend :=
  ⟨true, some "/usr/bin/intel-undervolt", .ended false "disabled\n".toList []⟩

/-- With a malformed configuration file the very first apply hands out -150 mV. -/
theorem voltage_accounted_counterexample :
    ¬ ∀ (configFile : ConfigFile) (backend : Backend) (configError : String)
      (actions front : List Action), front <+: actions →
        Accounted (run step (activate configFile backend configError) front).log := by
  intro h
  have hacc := h malformed installed "" [.apply .steady] [.apply .steady] List.prefix_rfl
  have hfresh : Fresh (activate malformed installed "") := by
    rcases (activate_spec malformed installed "").1 with hfresh | hknown
    · exact hfresh
    · obtain ⟨event, hmem, -⟩ := hknown.log
      have hlog : (activate malformed installed "").log = [] := by decide +kernel
      rw [hlog] at hmem
      cases hmem
  exact not_accounted_of_fresh hfresh ⟨.steady, rfl, by decide +kernel, rfl⟩ hacc

end Step

end CpuSwitch.Gui
