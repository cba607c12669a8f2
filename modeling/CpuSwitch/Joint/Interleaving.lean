import CpuSwitch.Daemon.Service
import CpuSwitch.Gui.Reload

/-! The page and the service together: they meet in the configuration file. -/
namespace CpuSwitch.Joint
open CLib Config Cpufreq Daemon Gui

/-- The session of the page, the service when it runs, with the configuration that it has loaded,
and the limits of the policies. -/
structure JointState where
  session : FrequencySession
  daemon : Option (CpuConfig × Process)
  limits : DirName → Limits

/-- The two programs take turns in any order. A start that fails has no effect; a service that is
killed may have carried out some of the writes of its turn. -/
inductive JointStep (dir : Directory) : JointState → JointState → Prop where
  | page (s : JointState) (action : PageAction) :
    JointStep dir s { s with session := pageStep s.session action }
  | start (s : JointState) (detection : Kernel) (first : StatFile) (detected : Detected)
      (previous : CpuTimes) (hdown : s.daemon = none)
      (hdetected : cpuLinuxDetectFrequencyRange detection dir = .ok detected)
      (hfirst : cpuLinuxReadTimes first = .ok previous) :
    JointStep dir s
      { s with
        daemon := some (loadRuntimeConfig s.session.configFile,
          ⟨true, ⟨previous, .start s.limits⟩, 0⟩) }
  | turn (s : JointState) (config : CpuConfig) (p : Process) (turn : Turn)
      (hup : s.daemon = some (config, p)) :
    JointStep dir s
      { s with
        daemon := some (config, takeTurn config dir p turn)
        limits := (takeTurn config dir p turn).loop.controller.sysfs.scaling }
  | exit (s : JointState) (config : CpuConfig) (p : Process) (hup : s.daemon = some (config, p)) :
    JointStep dir s { s with daemon := none }
  | kill (s : JointState) (config : CpuConfig) (p : Process) (turn : Turn) (attempts : List Attempt)
      (attempt : Attempt) (hup : s.daemon = some (config, p))
      (hattempts : (takeTurn config dir p turn).loop.controller.sysfs.writes =
        attempts ++ p.loop.controller.sysfs.writes) (hattempt : attempt ∈ attempts) :
    JointStep dir s { s with daemon := none, limits := attempt.before }

/-- From the first start of the page on, with the service down and some limits in force. -/
inductive Reachable (dir : Directory) (boot : DirName → Limits) (file : ConfigFile) :
    JointState → Prop where
  | opened (k : Kernel) (pageDir : Directory) :
    Reachable dir boot file ⟨openPage k pageDir file, none, boot⟩
  | step {s s' : JointState} (h : Reachable dir boot file s) (hs : JointStep dir s s') :
    Reachable dir boot file s'

/-- Every configuration file that there has been, the newest first. -/
def storedFiles (first : ConfigFile) : List FrequencyEvent → List ConfigFile
  | [] => [first]
  | .installed config :: log => .readable (configText config) :: storedFiles first log
  | .edited file :: log => file :: storedFiles first log
  | _ :: log => storedFiles first log

/-- One of the two clocks that the service takes from one of the files. -/
def Configured (files : List ConfigFile) (khz : UInt64) : Prop :=
  ∃ file ∈ files, ∃ direction : Direction, khz = direction.target (loadRuntimeConfig file)

/-- A limit is still what it was at first, or a configured clock moved into the policy's range. -/
def Explained (dir : Directory) (files : List ConfigFile) (policy : DirName)
    (first now : UInt64) : Prop :=
  now = first ∨
    ∃ range khz, dir.range policy = some range ∧ Configured files khz ∧ now = range.clamp khz

def Accounted (dir : Directory) (boot : DirName → Limits) (files : List ConfigFile)
    (scaling : DirName → Limits) : Prop :=
  ∀ policy, Explained dir files policy (boot policy).min (scaling policy).min ∧
    Explained dir files policy (boot policy).max (scaling policy).max

/-- Where a file comes from: it was there at first, somebody put it there by hand, or the page
installed it after it had passed the check against the range last detected before. -/
def Origin (first : ConfigFile) (log : List FrequencyEvent) (file : ConfigFile) : Prop :=
  file = first ∨ .edited file ∈ log ∨
    ∃ config past minKhz maxKhz, file = .readable (configText config) ∧
      (.installed config :: past) <:+ log ∧ lastDetection past = some (minKhz, maxKhz) ∧
      cpuConfigValidate config minKhz maxKhz true = .ok ()

/-- The invariant of the two programs. -/
structure Traced (dir : Directory) (boot : DirName → Limits) (first : ConfigFile) (s : JointState) :
    Prop where
  sound : Sound first s.session
  limits : Accounted dir boot (storedFiles first s.session.log) s.limits
  loaded : ∀ config p, s.daemon = some (config, p) →
    ∃ file ∈ storedFiles first s.session.log, config = loadRuntimeConfig file
  visited : ∀ config p, s.daemon = some (config, p) →
    ∀ state ∈ p.loop.controller.sysfs.visited,
      Accounted dir boot (storedFiles first s.session.log) state

section Files
variable {first file : ConfigFile} {log log' : List FrequencyEvent} {files files' : List ConfigFile}
  {session : FrequencySession} {dir : Directory} {boot scaling : DirName → Limits}
  {policy : DirName} {khz before now : UInt64}

theorem storedFile_mem : storedFile first log ∈ storedFiles first log := by
  induction log with
  | nil => exact List.mem_singleton_self _
  | cons event log ih =>
    cases event with
    | installed config => exact List.mem_cons_self
    | edited file => exact List.mem_cons_self
    | detected minKhz maxKhz => exact ih
    | undetected => exact ih
    | spawned argv => exact ih

theorem storedFiles_cons {event : FrequencyEvent} :
    storedFiles first log ⊆ storedFiles first (event :: log) := by
  cases event with
  | installed config => exact List.subset_cons_self _ _
  | edited file => exact List.subset_cons_self _ _
  | detected minKhz maxKhz => exact List.Subset.refl _
  | undetected => exact List.Subset.refl _
  | spawned argv => exact List.Subset.refl _

theorem storedFiles_mono (h : log <:+ log') : storedFiles first log ⊆ storedFiles first log' := by
  obtain ⟨newer, rfl⟩ := h
  induction newer with
  | nil => exact List.Subset.refl _
  | cons event newer ih => exact List.Subset.trans ih storedFiles_cons

theorem Configured.mono (h : files ⊆ files') (hk : Configured files khz) :
    Configured files' khz := by
  obtain ⟨file, hfile, hdirection⟩ := hk
  exact ⟨file, h hfile, hdirection⟩

theorem Explained.mono (h : files ⊆ files') (he : Explained dir files policy before now) :
    Explained dir files' policy before now := by
  rcases he with rfl | ⟨range, khz, hrange, hk, rfl⟩
  · exact Or.inl rfl
  · exact Or.inr ⟨range, khz, hrange, hk.mono h, rfl⟩

theorem Accounted.mono (h : files ⊆ files') (ha : Accounted dir boot files scaling) :
    Accounted dir boot files' scaling :=
  fun policy => ⟨(ha policy).1.mono h, (ha policy).2.mono h⟩

end Files

section Page
variable {first file : ConfigFile} {session : FrequencySession} {outcome : SaveOutcome}
  {restart : Bool} {k : Kernel} {dir : Directory} {log : List FrequencyEvent}
  {reportSuccess : Bool}

theorem log_save : session.log <:+ (saveFrequencyConfig outcome restart session).2.log := by
  by_cases hready : ∃ temporaryPath, SaveReady outcome session temporaryPath
  · obtain ⟨temporaryPath, hready⟩ := hready
    exact (List.suffix_cons _ _).trans (save_asks hready).1
  · obtain ⟨config, status, heq⟩ := @save_unready session outcome restart (not_exists.mp hready)
    rw [heq]

theorem log_activatePage : log <:+ (activatePage k dir file log).log := by
  unfold activatePage
  dsimp only
  cases (cpuConfigLoad file).1 with
  | ok _ => exact List.suffix_cons _ _
  | error message => exact List.suffix_cons _ _

/-- The history only grows. -/
theorem log_pageStep (action : PageAction) : session.log <:+ (pageStep session action).log := by
  cases action with
  | refresh k dir => exact List.suffix_cons _ _
  | defaults => exact List.suffix_rfl
  | type field value => exact List.suffix_rfl
  | save outcome restart => exact log_save
  | serviceTimer shell =>
    obtain ⟨commands, -, hlog⟩ := (@checked_refreshServiceStatus session shell).log
    exact ⟨_, hlog.symm⟩
  | reopen k dir => exact log_activatePage
  | edit file => exact List.suffix_cons _ _

/-- An installed configuration had passed the check against the range detected by then. -/
theorem valid_of_installed {config : CpuConfig} (ha : Audited log) (h : .installed config ∈ log) :
    ∃ past minKhz maxKhz, (.installed config :: past) <:+ log ∧
      lastDetection past = some (minKhz, maxKhz) ∧
      cpuConfigValidate config minKhz maxKhz true = .ok () := by
  obtain ⟨newer, past, rfl⟩ := List.append_of_mem h
  have hpast : (.installed config :: past) <:+ newer ++ .installed config :: past :=
    List.suffix_append newer _
  obtain ⟨-, minKhz, maxKhz, hlast, hvalid⟩ := ha _ past hpast
  exact ⟨past, minKhz, maxKhz, hpast, hlast, hvalid⟩

theorem mem_storedFiles (h : file ∈ storedFiles first log) :
    file = first ∨ .edited file ∈ log ∨
      ∃ config, file = .readable (configText config) ∧ .installed config ∈ log := by
  induction log with
  | nil => exact Or.inl (List.mem_singleton.mp h)
  | cons event log ih =>
    have hold : file ∈ storedFiles first log → file = first ∨ .edited file ∈ event :: log ∨
        ∃ config, file = .readable (configText config) ∧ .installed config ∈ event :: log := by
      intro h
      rcases ih h with hfirst | hedited | ⟨config, hfile, hinstalled⟩
      · exact Or.inl hfirst
      · exact Or.inr (Or.inl (List.mem_cons_of_mem _ hedited))
      · exact Or.inr (Or.inr ⟨config, hfile, List.mem_cons_of_mem _ hinstalled⟩)
    cases event with
    | installed config =>
      rcases List.mem_cons.mp h with rfl | h
      · exact Or.inr (Or.inr ⟨config, rfl, List.mem_cons_self⟩)
      · exact hold h
    | edited other =>
      rcases List.mem_cons.mp h with rfl | h
      · exact Or.inr (Or.inl List.mem_cons_self)
      · exact hold h
    | detected minKhz maxKhz => exact hold h
    | undetected => exact hold h
    | spawned argv => exact hold h

theorem origin_of_mem (ha : Audited log) (h : file ∈ storedFiles first log) :
    Origin first log file := by
  rcases mem_storedFiles h with hfirst | hedited | ⟨config, hfile, hinstalled⟩
  · exact Or.inl hfirst
  · exact Or.inr (Or.inl hedited)
  · obtain ⟨past, minKhz, maxKhz, hpast, hlast, hvalid⟩ := valid_of_installed ha hinstalled
    exact Or.inr (Or.inr ⟨config, past, minKhz, maxKhz, hfile, hpast, hlast, hvalid⟩)

end Page

section Step
variable {dir : Directory} {boot : DirName → Limits} {first : ConfigFile} {s s' : JointState}
  {files : List ConfigFile} {policy : DirName} {before now : UInt64}

theorem explained_set {range : Range} {khz : UInt64} {limits : Limits} (bound : Bound)
    (hrange : dir.range policy = some range) (hk : Configured files khz)
    (h : Explained dir files policy (boot policy).min limits.min ∧
      Explained dir files policy (boot policy).max limits.max) :
    Explained dir files policy (boot policy).min (limits.set bound (range.clamp khz)).min ∧
      Explained dir files policy (boot policy).max (limits.set bound (range.clamp khz)).max := by
  cases bound with
  | min => exact ⟨Or.inr ⟨range, khz, hrange, hk, rfl⟩, h.2⟩
  | max => exact ⟨h.1, Or.inr ⟨range, khz, hrange, hk, rfl⟩⟩

/-- A store of a configured clock, moved into the range, can be accounted for. -/
theorem kept_accounted : KeptByWrites dir (Configured files)
    fun sys => ∀ state ∈ sys.visited, Accounted dir boot files state := by
  apply kept_visited
  intro policy range bound khz scaling hrange hk hnow other
  by_cases hne : other = policy
  · subst hne
    rw [Function.update_self]
    exact explained_set bound hrange hk (hnow other)
  · rw [Function.update_of_ne hne]
    exact hnow other

/-- The turn of a service that runs a stored configuration. -/
theorem Traced.takeTurn {config : CpuConfig} {p : Process} (h : Traced dir boot first s)
    (hup : s.daemon = some (config, p)) (turn : Turn) :
    ∀ state ∈ (Daemon.takeTurn config dir p turn).loop.controller.sysfs.visited,
      Accounted dir boot (storedFiles first s.session.log) state := by
  obtain ⟨file, hfile, rfl⟩ := h.loaded config p hup
  exact kept_accounted.takeTurn (fun direction => ⟨file, hfile, direction, rfl⟩)
    (h.visited _ p hup)

theorem traced_step (h : Traced dir boot first s) (hs : JointStep dir s s') :
    Traced dir boot first s' := by
  cases hs with
  | page action =>
    have hfiles : storedFiles first s.session.log ⊆
        storedFiles first (pageStep s.session action).log := storedFiles_mono (log_pageStep action)
    refine ⟨sound_step h.sound action, h.limits.mono hfiles, ?_, ?_⟩
    · intro config p hup
      obtain ⟨file, hfile, hconfig⟩ := h.loaded config p hup
      exact ⟨file, hfiles hfile, hconfig⟩
    · exact fun config p hup state hstate => (h.visited config p hup state hstate).mono hfiles
  | start detection firstStat detected previous hdown hdetected hfirst =>
    refine ⟨h.sound, h.limits, ?_, ?_⟩
    · rintro config p ⟨⟩
      exact ⟨s.session.configFile, h.sound.stored ▸ storedFile_mem, rfl⟩
    · rintro config p ⟨⟩ state hstate
      obtain rfl := List.mem_singleton.mp hstate
      exact h.limits
  | turn config p turn hup =>
    have hvisited := h.takeTurn hup turn
    refine ⟨h.sound, hvisited _ List.mem_cons_self, ?_, ?_⟩
    · rintro config' p' ⟨⟩
      exact h.loaded config p hup
    · rintro config' p' ⟨⟩
      exact hvisited
  | exit config p hup =>
    exact ⟨h.sound, h.limits, (fun _ _ hup => nomatch hup), (fun _ _ hup => nomatch hup)⟩
  | kill config p turn attempts attempt hup hattempts hattempt =>
    have hmem : attempt.before ∈
        (Daemon.takeTurn config dir p turn).loop.controller.sysfs.visited := by
      apply List.mem_cons_of_mem
      rw [hattempts]
      exact List.mem_map_of_mem (List.mem_append_left _ hattempt)
    exact ⟨h.sound, h.takeTurn hup turn _ hmem, (fun _ _ hup => nomatch hup),
      (fun _ _ hup => nomatch hup)⟩

end Step

/-- However the page and the service interleave, and wherever the service is stopped or killed:
every limit in force is the one found at first or a clock of a configuration file that has been
there, moved into the policy's range; a running service runs such a file; and every such file was
there at first, was put there by hand, or was installed after it had passed the check against the
range last detected before. -/
theorem limits_accounted (dir : Directory) (boot : DirName → Limits) (first : ConfigFile)
    (s : JointState) (h : Reachable dir boot first s) :
    let files := storedFiles first s.session.log
    Accounted dir boot files s.limits ∧
      (∀ config p, s.daemon = some (config, p) →
        ∃ file ∈ files, config = loadRuntimeConfig file) ∧
      ∀ file ∈ files, Origin first s.session.log file := by
  have htraced : Traced dir boot first s := by
    induction h with
    | opened k pageDir =>
      exact ⟨sound_activatePage rfl audited_nil, fun _ => ⟨Or.inl rfl, Or.inl rfl⟩,
        (fun _ _ hup => nomatch hup), (fun _ _ hup => nomatch hup)⟩
    | step _ hs ih => exact traced_step ih hs
  exact ⟨htraced.limits, htraced.loaded, fun file => origin_of_mem htraced.sound.audited⟩

/-- The page is opened, the service is started, and its first turn finds the processor busy. -/
theorem limits_accounted_busy :
    let boot : DirName → Limits := fun _ => ⟨800000, 4000000⟩
    let session := openPage .steady singleDirectory .missing
    let p : Process := ⟨true, ⟨⟨80, 100⟩, .start boot⟩, 0⟩
    let turn : Turn := ⟨[], .readable "cpu 90 0 10 80\n".toList, .steady, false⟩
    Accounted singleDirectory boot (storedFiles .missing session.log)
      (takeTurn (loadRuntimeConfig session.configFile) singleDirectory p
        turn).loop.controller.sysfs.scaling := by
  intro boot session p turn
  have hopened : Reachable singleDirectory boot .missing ⟨session, none, boot⟩ :=
    .opened .steady singleDirectory
  have hstarted := hopened.step (.start _ .steady (.readable "cpu 10 0 10 80\n".toList)
    ⟨800000, 4000000, 1⟩ ⟨80, 100⟩ rfl (by decide +kernel) (by decide +kernel))
  exact (limits_accounted singleDirectory boot .missing _
    (hstarted.step (.turn _ (loadRuntimeConfig session.configFile) p turn rfl))).1

end CpuSwitch.Joint
