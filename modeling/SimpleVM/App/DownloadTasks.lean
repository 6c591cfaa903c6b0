import SimpleVM.App.Session

/-!
# The tasks of downloads

Which calls are steps of a download task, and that every other call leaves the tasks and their
registry alone.
-/
namespace SimpleVM.App.Session

open Domain Effects Storage

/-- The task a suspended call belongs to: its image and its number. -/
def taskOf : Next → Option (UUID × Nat)
  | .downloadBegun _ imageID task | .downloadListed imageID task | .destinationMade imageID task
  | .downloaded imageID task _ | .downloadSaved imageID task | .failureSaved imageID task _
  | .cancelledFilesRemoved imageID task | .cancellationSaved imageID task => some (imageID, task)
  | _ => none

/-- The tasks that have not ended. -/
def unfinishedIn (calls : List Call) : List (UUID × Nat) := calls.filterMap fun c => taskOf c.next

def unfinished (s : Session) : List (UUID × Nat) := unfinishedIn s.calls

/-- The step suspends other calls only, and leaves the registry as it is. -/
structure LeavesTasks (s t : Session) : Prop where
  downloads : t.downloads = s.downloads
  initialized : s.initialized = true → t.initialized = true
  calls : ∃ new, t.calls = new ++ s.calls ∧ ∀ c ∈ new, taskOf c.next = none

variable {s t u : Session} {work : Work} {next : Next} {response : Response} {machine : Machine}

namespace LeavesTasks

theorem same (downloads : t.downloads = s.downloads) (initialized : t.initialized = s.initialized)
    (calls : t.calls = s.calls) : LeavesTasks s t :=
  ⟨downloads, fun there => initialized.trans there, [], calls, by simp⟩

theorem refl (s : Session) : LeavesTasks s s := same rfl rfl rfl

theorem trans (first : LeavesTasks s t) (second : LeavesTasks t u) : LeavesTasks s u := by
  obtain ⟨new, calls, apart⟩ := first.calls
  obtain ⟨newer, more, alsoApart⟩ := second.calls
  refine ⟨second.downloads.trans first.downloads,
    fun there => second.initialized (first.initialized there), newer ++ new, ?_, ?_⟩
  · rw [more, calls, List.append_assoc]
  · intro c member
    rcases List.mem_append.mp member with late | early
    · exact alsoApart c late
    · exact apart c early

theorem suspend (leaves : LeavesTasks s t) (other : taskOf next = none) :
    LeavesTasks s (t.suspend work next) := by
  apply leaves.trans
  exact ⟨rfl, id, [⟨work, next, none⟩], rfl, by simpa using other⟩

theorem persist {refused : Session → Session} (leaves : LeavesTasks s t)
    (other : taskOf next = none) (refuses : LeavesTasks t (refused t)) :
    LeavesTasks s (t.persist next refused) := by
  unfold Session.persist
  split
  · exact leaves.suspend other
  · exact leaves.trans refuses

theorem whenIdle {go : Session → Session}
    (goes : ∀ u, LeavesTasks s u → LeavesTasks s (go u)) :
    LeavesTasks s (s.whenIdle machine go) := by
  unfold Session.whenIdle
  split
  · exact goes _ (same rfl rfl rfl)
  · exact same rfl rfl rfl
  · exact same rfl rfl rfl

theorem setSpec {index : Nat} {mutation : MachineSpec → MachineSpec} :
    LeavesTasks s (s.setSpec index mutation) := by
  unfold Session.setSpec
  split <;> exact same rfl rfl rfl

theorem record {id : UUID} {state : MachineRuntimeState} (leaves : LeavesTasks s t) :
    LeavesTasks s (t.record id state) :=
  leaves.trans ((same rfl rfl rfl : LeavesTasks t { t with app := t.app.transition id state }).suspend
    rfl)

end LeavesTasks

open LeavesTasks

section Settings

variable {setting : Setting} {index : Nat} {previous : MachineSpec}

theorem settingFailed_leaves {failure : Failure} :
    LeavesTasks s (s.settingFailed setting machine index previous failure) := by
  unfold settingFailed
  split
  · exact same rfl rfl rfl
  · exact LeavesTasks.setSpec.trans (same rfl rfl rfl)

theorem persistSetting_leaves (leaves : LeavesTasks s t) :
    LeavesTasks s (t.persistSetting setting machine index previous) :=
  leaves.persist rfl settingFailed_leaves

theorem edit_leaves {go : Session → Nat → MachineSpec → Session} (leaves : LeavesTasks s t)
    (goes : ∀ u index previous, LeavesTasks s u → LeavesTasks s (go u index previous)) :
    LeavesTasks s (t.edit setting machine go) := by
  unfold edit
  split
  · exact leaves.trans (same rfl rfl rfl)
  · split
    · exact leaves.trans (same rfl rfl rfl)
    · exact goes _ _ _ (leaves.trans LeavesTasks.setSpec)

theorem settingApplied_leaves :
    LeavesTasks s (s.settingApplied setting machine index) := by
  unfold settingApplied
  split
  · split
    · exact same rfl rfl rfl
    · split
      · exact same rfl rfl rfl
      · exact refl s
  · exact refl s

end Settings

section Machines

variable {env : Environment} {draft : MachineDraft} {image : MachineImage}

theorem createFiles_leaves : LeavesTasks s (s.createFiles env draft image) := by
  unfold createFiles
  split
  · exact (refl s).suspend rfl
  · exact refl s

theorem createFromImage_leaves : LeavesTasks s (s.createFromImage env draft) := by
  unfold createFromImage
  split
  · exact refl s
  · split
    · split
      · exact (refl s).suspend rfl
      · exact createFiles_leaves
    · exact refl s

theorem discardMachine_leaves {id : UUID} : LeavesTasks s (s.discardMachine id) := by
  apply LeavesTasks.suspend
  · exact same rfl rfl rfl
  · rfl

theorem appendMachine_leaves {backend : VirtualizationBackendKind} {disk : MachineDisk}
    {backendState : BackendStateReference} :
    LeavesTasks s (s.appendMachine env draft image backend disk backendState) := by
  apply LeavesTasks.persist
  · exact same rfl rfl rfl
  · rfl
  · exact discardMachine_leaves

theorem listSnapshots_leaves {snapshot : LibrarySnapshot} {machines : List Machine} :
    LeavesTasks s (s.listSnapshots snapshot machines) := by
  unfold listSnapshots
  split
  · exact (refl s).suspend rfl
  · exact (refl s).suspend rfl

theorem start_leaves : LeavesTasks s (s.start machine) := by
  unfold start
  split
  · exact same rfl rfl rfl
  · split
    · exact same rfl rfl rfl
    · exact LeavesTasks.suspend (same rfl rfl rfl) rfl

theorem ejectInstaller_leaves : LeavesTasks s (s.ejectInstaller machine) := by
  unfold ejectInstaller
  split
  · exact same rfl rfl rfl
  · dsimp only
    split
    · exact LeavesTasks.persist (same rfl rfl rfl) rfl (refl _)
    · exact same rfl rfl rfl

theorem exportMachineDisk_leaves : LeavesTasks s (s.exportMachineDisk machine) := by
  unfold exportMachineDisk
  split
  · exact refl s
  · split
    · exact refl s
    · exact LeavesTasks.suspend (same rfl rfl rfl) rfl

theorem filesResolved_leaves : LeavesTasks s (s.filesResolved machine response) := by
  cases response with
  | error failure => exact same rfl rfl rfl
  | ok answer =>
    simp only [filesResolved]
    split
    · apply LeavesTasks.suspend
      · split
        · exact same rfl rfl rfl
        · exact refl s
      · rfl
    · exact same rfl rfl rfl

theorem startPrepared_leaves : LeavesTasks s (s.startPrepared machine response) := by
  cases response with
  | error failure => exact same rfl rfl rfl
  | ok answer =>
    simp only [startPrepared]
    split
    · exact LeavesTasks.suspend (LeavesTasks.record (same rfl rfl rfl)) rfl
    · exact same rfl rfl rfl

theorem runtimeChanges_leaves {id : UUID} {state : MachineRuntimeState} :
    LeavesTasks s (s.runtimeChanges id state) := by
  unfold runtimeChanges
  split
  · exact refl s
  · exact (refl s).record

end Machines

theorem removeImage_leaves {image : MachineImage} : LeavesTasks s (s.removeImage image) := by
  have cancels : LeavesTasks s (s.cancelDownload image.id) := by
    unfold cancelDownload
    split
    · exact refl s
    · exact same rfl rfl rfl
  unfold removeImage
  split
  · exact same rfl rfl rfl
  · exact cancels.suspend rfl

/-- A retry that finds no store goes no further. -/
theorem beginDownload_refused {entry : ImageCatalogEntry} {imageID : UUID}
    (missing : s.initialized ≠ true) : LeavesTasks s (s.beginDownload entry imageID) := by
  unfold beginDownload
  rw [if_neg missing]
  exact same rfl rfl rfl

theorem retryFilesRemoved_leaves {entry : ImageCatalogEntry} {imageID : UUID} :
    LeavesTasks s (s.retryFilesRemoved entry imageID) := by
  unfold retryFilesRemoved Session.persist
  split
  · exact LeavesTasks.suspend (same rfl rfl rfl) rfl
  · rename_i missing
    have changed : LeavesTasks s ((s.setAvailability imageID (.downloading 0)).updateProvisioning
        imageID (.downloading 0)) := same rfl rfl rfl
    exact changed.trans (beginDownload_refused missing)

/-- The calls that begin a download. -/
def beginsTask : Request → Bool
  | .download _ _ | .createMachine _ _ (.catalogEntry _) => true
  | _ => false

/-- Any other call leaves the tasks alone. -/
theorem request_leaves {request : Request} (other : beginsTask request = false) :
    LeavesTasks s (s.request request) := by
  -- Most requests suspend under a continuation that is no download's, or only present an error.
  cases request with
  | initializeModel fixture =>
    simp only [Session.request, initializeModel]
    split
    · exact refl s
    · exact LeavesTasks.suspend (same rfl rfl rfl) rfl
  | createMachine env draft source =>
    cases source with
    | catalogEntry id => cases other
    | managedImage =>
      simp only [Session.request, createMachine]
      split
      · exact createFromImage_leaves
      · exact refl s
  | cloneMachine env machine =>
    simp only [Session.request, cloneMachine]
    split
    · exact LeavesTasks.whenIdle fun u leaves => leaves.suspend rfl
    · exact same rfl rfl rfl
  | deleteMachine machine =>
    simp only [Session.request, deleteMachine]
    split
    · exact LeavesTasks.whenIdle fun u leaves => leaves.suspend rfl
    · exact same rfl rfl rfl
  | ejectInstaller machine => exact ejectInstaller_leaves
  | start machine => exact start_leaves
  | exportMachineDisk machine => exact exportMachineDisk_leaves
  | setInputProfile profile machine =>
    simp only [Session.request, setInputProfile]
    exact edit_leaves (refl s) fun u index previous leaves => persistSetting_leaves leaves
  | setCustomInputProfile id baseProfile machine =>
    simp only [Session.request, setCustomInputProfile]
    exact edit_leaves (refl s) fun u index previous leaves => persistSetting_leaves leaves
  | removeCustomInputProfile id =>
    simp only [Session.request, removeCustomInputProfile]
    apply LeavesTasks.persist
    · exact same rfl rfl rfl
    · rfl
    · exact same rfl rfl rfl
  | setSharedDirectory path isDirectory machine =>
    simp only [Session.request, setSharedDirectory]
    split
    · exact same rfl rfl rfl
    · split
      · exact same rfl rfl rfl
      · exact edit_leaves (refl s) fun u index previous leaves => persistSetting_leaves leaves
  | setWindowsSupportToolsAttached attached machine =>
    simp only [Session.request, setWindowsSupportToolsAttached]
    split
    · refine LeavesTasks.whenIdle fun u leaves => edit_leaves leaves fun v index previous leaves => ?_
      split
      · exact leaves.suspend rfl
      · exact persistSetting_leaves leaves
    · exact refl s
  | setDisplayMode mode machine =>
    simp only [Session.request, setDisplayMode]
    exact LeavesTasks.whenIdle fun u leaves => edit_leaves leaves fun v index previous leaves =>
      persistSetting_leaves leaves
  | importImage env source operatingSystem architecture artifactKind =>
    simp only [Session.request, importImage]
    split
    · exact (refl s).suspend rfl
    · exact refl s
  | addOCIReference env reference architecture =>
    simp only [Session.request, addOCIReference]
    split
    · exact refl s
    · exact LeavesTasks.persist (same rfl rfl rfl) rfl (refl _)
  -- `download` itself begins a task, so it is none of these.
  | download entry imageID => cases other
  | cancelDownload imageID =>
    simp only [Session.request, cancelDownload]
    split
    · exact refl s
    · exact same rfl rfl rfl
  | retryDownload image =>
    simp only [Session.request, retryDownload]
    split
    · exact same rfl rfl rfl
    · exact (refl s).suspend rfl
  | removeImage image => exact removeImage_leaves
  | exportImage image =>
    simp only [Session.request, exportImage]
    split
    · split
      · exact LeavesTasks.suspend (same rfl rfl rfl) rfl
      · exact refl s
    · exact refl s

/-- A call that is no step of a task, and no retry about to begin one, leaves the tasks alone. -/
theorem goOn_leaves (other : taskOf next = none)
    (begins : ∀ entry imageID, next ≠ .retrySaved entry imageID) :
    LeavesTasks s (s.goOn response next) := by
  -- One case for each continuation; the tasks of downloads change in those of a download only.
  cases next with
  | libraryLoaded fixture =>
    cases response with
    | error failure => exact same rfl rfl rfl
    | ok answer =>
      cases answer with
      | loaded snapshot => exact (refl s).suspend rfl
      | _ => exact refl s
  | machinesCleaned fixture snapshot =>
    cases response with
    | error failure => exact same rfl rfl rfl
    | ok answer =>
      simp only [goOn, machinesCleaned]
      split
      · exact (refl s).suspend rfl
      · exact listSnapshots_leaves
  | fixtureCreated fixture snapshot =>
    cases response with
    | error failure => exact same rfl rfl rfl
    | ok answer =>
      cases answer with
      | files disk backendState =>
        simp only [goOn, fixtureCreated]
        exact listSnapshots_leaves
      | _ => exact refl s
  | snapshotsListed snapshot machines =>
    cases response with
    | error failure => exact same rfl rfl rfl
    | ok answer => exact (refl s).suspend rfl
  | imagesCleaned snapshot machines =>
    cases response with
    | error failure => exact same rfl rfl rfl
    | ok answer =>
      simp only [goOn, imagesCleaned]
      split
      · exact same rfl rfl rfl
      -- The library is listed here, with the catalog and no task.
      · exact ⟨rfl, fun _ => rfl, [_], rfl, by simp [taskOf]⟩
  | toolsChecked snapshot machines =>
    simp only [goOn, toolsChecked]
    split
    · exact LeavesTasks.persist (refl s) rfl (same rfl rfl rfl)
    · exact refl s
  | toolsPrepared env draft image =>
    cases response with
    | error failure => exact refl s
    | ok answer => exact createFiles_leaves
  | filesCreated env draft image backend =>
    cases response with
    | error failure => exact refl s
    | ok answer =>
      cases answer with
      | files disk backendState =>
        simp only [goOn, filesCreated]
        split
        · exact (refl s).suspend rfl
        · exact appendMachine_leaves
      | _ => exact refl s
  | diskProvisioned env draft image backend disk backendState =>
    cases response with
    | error failure => exact discardMachine_leaves
    | ok answer =>
      cases answer with
      | capacity bytes => exact appendMachine_leaves
      | _ => exact discardMachine_leaves
  | machineSaved machineID =>
    cases response with
    | error failure => exact discardMachine_leaves
    | ok answer => exact refl s
  | filesCloned env machine =>
    cases response with
    | error failure => exact (refl s).suspend rfl
    | ok answer =>
      cases answer with
      | files disk backendState =>
        simp only [goOn, filesCloned]
        apply LeavesTasks.persist
        · exact same rfl rfl rfl
        · rfl
        · exact (refl _).suspend rfl
      | _ => exact refl s
  | cloneSaved cloneID =>
    cases response with
    | error failure => exact (refl s).suspend rfl
    | ok answer => exact refl s
  | machineRemoved machine =>
    cases response with
    | error failure => exact same rfl rfl rfl
    | ok answer =>
      simp only [goOn, machineRemoved]
      apply LeavesTasks.persist
      · exact same rfl rfl rfl
      · rfl
      · exact same rfl rfl rfl
  | settingPrepared setting machine index previous =>
    cases response with
    | error failure => exact settingFailed_leaves
    | ok answer => exact persistSetting_leaves (refl s)
  | settingSaved setting machine index previous =>
    cases response with
    | error failure => exact settingFailed_leaves
    | ok answer => exact settingApplied_leaves
  | filesResolved machine => exact filesResolved_leaves
  | startPrepared machine => exact startPrepared_leaves
  | recordBegun => exact LeavesTasks.persist (refl s) rfl (refl s)
  | fileImported env source operatingSystem architecture artifactKind =>
    cases response with
    | error failure => exact (refl s).suspend rfl
    | ok answer => cases answer <;> exact (refl s).suspend rfl
  | fileDigested env source operatingSystem architecture artifactKind destination =>
    cases response with
    | error failure => exact (refl s).suspend rfl
    | ok answer =>
      simp only [goOn, fileDigested]
      apply LeavesTasks.persist
      · exact same rfl rfl rfl
      · rfl
      · exact (refl _).suspend rfl
  | importSaved imageID =>
    cases response with
    | error failure => exact (refl s).suspend rfl
    | ok answer => exact refl s
  | imageFilesRemoved imageID =>
    cases response with
    | error failure => exact same rfl rfl rfl
    | ok answer =>
      simp only [goOn, imageFilesRemoved]
      apply LeavesTasks.persist
      · exact same rfl rfl rfl
      · rfl
      · exact same rfl rfl rfl
  | retryFilesRemoved entry imageID => exact retryFilesRemoved_leaves
  | retrySaved entry imageID => exact absurd rfl (begins entry imageID)
  -- The continuations of a download are the ones that the hypothesis excludes.
  | downloadBegun entry imageID task => cases other
  | downloadListed imageID task => cases other
  | destinationMade imageID task => cases other
  | downloaded imageID task destination => cases other
  | downloadSaved imageID task => cases other
  | failureSaved imageID task failure => cases other
  | cancelledFilesRemoved imageID task => cases other
  | cancellationSaved imageID task => cases other
  | _ => cases response <;> exact same rfl rfl rfl

end SimpleVM.App.Session
