import SimpleVM.App.LibraryFile
import SimpleVM.App.Session

/-!
# Unsaved changes

A step that changes the machines or images persists them at once, or leaves it to a call in
flight that will. Each function of the models is brought into one of these shapes here; those
that may lose a change say when.
-/
namespace SimpleVM.App.Session

open Domain Effects Storage

/-- A step of `initialize` before it sets the stores. -/
def isRestoring : Next → Bool
  | .libraryLoaded _ | .machinesCleaned _ _ | .fixtureCreated _ _ | .snapshotsListed _ _
  | .imagesCleaned _ _ => true
  | _ => false

/-- Something has changed that the call persists when it goes on. -/
def Owes (s : Session) : Next → Prop
  | .toolsChecked snapshot machines => s.images ≠ snapshot.images ∨ machines ≠ snapshot.machines
  | .startPrepared machine => machine.provisioningState = .readyToInstall
  | .settingPrepared _ _ _ _ | .recordBegun | .downloadBegun _ _ _ | .downloaded _ _ _
  | .cancelledFilesRemoved _ _ => True
  | _ => False

def Owing (s : Session) : Prop := ∃ c ∈ s.calls, s.Owes c.next

/-- A call that goes on so may lose a change. -/
def Stray (s : Session) (response : Response) : Next → Prop
  -- the machine has been marked as installing, and the runtime does not start
  | .startPrepared machine => machine.provisioningState = .readyToInstall ∧
      ∀ answer, response = .ok answer → (s.app.runtime machine).canStart = false
  -- the edit is taken back, or the machine is taken out of the list
  | .settingPrepared _ _ _ _ | .settingSaved _ _ _ _ | .profileRemoved _ _ | .machineSaved _ =>
    ∃ failure, response = .error failure
  | .diskProvisioned env _ _ _ _ _ => (∃ m ∈ s.app.machines, m.id = env.machineID) ∧
      ∀ bytes, response ≠ .ok (.capacity bytes)
  | _ => False

/-- The work removes the directories of what nothing references. -/
def sweeps : Work → Bool
  | .removeOrphanedMachines _ | .removeOrphanedImages _ => true
  | _ => false

/-- A call that has just been suspended, for no save and in no step of `initialize`. -/
def isPlain (c : Call) : Bool :=
  c.response.isNone && (savedBy c.work).isNone && !sweeps c.work && !isRestoring c.next

/-- The step suspends plain calls only. -/
structure Suspends (s t : Session) : Prop where
  initialized : t.initialized = s.initialized
  volume : t.volume = s.volume
  calls : ∃ new, t.calls = new ++ s.calls ∧ ∀ c ∈ new, isPlain c = true

/-- What a step may do about the library: it changes nothing, leaves the change to a call in
flight, or persists it. Without a store there is nothing to persist to. `owed` says that the
call itself had left a change to persist, `stray` when a change may be lost. -/
inductive Outcome (s t : Session) (owed stray : Prop) : Prop
  | quiet (suspends : Suspends s t) (same : t.snapshot = s.snapshot) (free : ¬ owed)
  | owing (suspends : Suspends s t) (owes : t.Owing)
  | persisted (u : Session) (next : Next) (before : Suspends s u) (ready : u.initialized = true)
    (live : isRestoring next = false) (after : Suspends (u.suspend (.save u.snapshot) next) t)
    (same : t.snapshot = u.snapshot)
  | refused (suspends : Suspends s t) (unready : s.initialized = false)
  | astray (suspends : Suspends s t) (unsaved : stray)

variable {s t u : Session} {work : Work} {next : Next} {response : Response} {machine : Machine}
  {owed stray : Prop}

section Plain

variable {c : Call}

theorem savesNothing_of_plain (plain : isPlain c = true) : savedBy c.work = none := by
  simp only [isPlain, Bool.and_eq_true, Option.isNone_iff_eq_none] at plain
  exact plain.1.1.2

theorem sweepsNothing_of_plain (plain : isPlain c = true) : sweeps c.work = false := by
  simp only [isPlain, Bool.and_eq_true, Bool.not_eq_true'] at plain
  exact plain.1.2

theorem live_of_plain (plain : isPlain c = true) : isRestoring c.next = false := by
  simp only [isPlain, Bool.and_eq_true, Bool.not_eq_true'] at plain
  exact plain.2

end Plain

namespace Suspends

theorem same (initialized : t.initialized = s.initialized) (volume : t.volume = s.volume)
    (calls : t.calls = s.calls) : Suspends s t := ⟨initialized, volume, [], calls, by simp⟩

theorem refl (s : Session) : Suspends s s := same rfl rfl rfl

theorem trans (first : Suspends s t) (second : Suspends t u) : Suspends s u := by
  obtain ⟨new, calls, plain⟩ := first.calls
  obtain ⟨newer, more, alsoPlain⟩ := second.calls
  have all : u.calls = (newer ++ new) ++ s.calls := by rw [more, calls, List.append_assoc]
  refine ⟨second.initialized.trans first.initialized, second.volume.trans first.volume,
    newer ++ new, all, fun c member => ?_⟩
  rcases List.mem_append.mp member with late | early
  · exact alsoPlain c late
  · exact plain c early

theorem suspend (suspends : Suspends s t) (plain : isPlain ⟨work, next, none⟩ = true) :
    Suspends s (t.suspend work next) :=
  suspends.trans ⟨rfl, rfl, [⟨work, next, none⟩], rfl, by simpa using plain⟩

theorem kept (suspends : Suspends s t) : ∀ c ∈ s.calls, c ∈ t.calls := by
  obtain ⟨new, calls, _⟩ := suspends.calls
  intro c member
  rw [calls]
  exact List.mem_append_right new member

theorem present (suspends : Suspends s t) {message : String} :
    Suspends s (t.present message) := suspends.trans (same rfl rfl rfl)

theorem refuse (suspends : Suspends s t) {error : AppModelError} :
    Suspends s (t.refuse error) := suspends.present

theorem setSpec {index : Nat} {mutation : MachineSpec → MachineSpec} :
    Suspends s (s.setSpec index mutation) := by
  unfold Session.setSpec
  split <;> exact same rfl rfl rfl

end Suspends

open Suspends

/-- What a call owes depends on the images only. -/
theorem Owes.of_images (images : t.images = s.images) (owes : s.Owes next) : t.Owes next := by
  cases next with
  | toolsChecked snapshot machines =>
    simp only [Owes, images]
    exact owes
  | _ => exact owes

/-- A call that owes a change goes on owing while the images stay. -/
theorem Owing.mono (owing : s.Owing) (images : t.images = s.images)
    (kept : ∀ c ∈ s.calls, c ∈ t.calls) : t.Owing := by
  obtain ⟨c, member, owes⟩ := owing
  exact ⟨c, kept c member, owes.of_images images⟩

namespace Outcome

/-- `persist`, with what happens instead while there is no store. -/
theorem persist {refused : Session → Session} (suspends : Suspends s u)
    (live : isRestoring next = false)
    (refuses : u.initialized = false → Suspends u (refused u)) :
    Outcome s (u.persist next refused) owed stray := by
  unfold Session.persist
  cases ready : u.initialized with
  | true => exact .persisted u next suspends ready live (refl _) rfl
  | false =>
    have unready : s.initialized = false := suspends.initialized.symm.trans ready
    exact .refused (suspends.trans (refuses ready)) unready

/-- The call that is suspended last owes the change. -/
theorem suspend (suspends : Suspends s t) (plain : isPlain ⟨work, next, none⟩ = true)
    (owes : t.Owes next) : Outcome s (t.suspend work next) owed stray := by
  have kept : (t.suspend work next).Owes next := owes.of_images rfl
  exact .owing (suspends.suspend plain) ⟨⟨work, next, none⟩, List.mem_cons_self, kept⟩

theorem record {id : UUID} {state : MachineRuntimeState} (suspends : Suspends s t) :
    Outcome s (t.record id state) owed stray := by
  have changed : Suspends t { t with app := t.app.transition id state } := same rfl rfl rfl
  exact suspend (suspends.trans changed) rfl trivial

/-- What follows a step does not touch the lists. -/
theorem quietly (outcome : Outcome s t owed stray) (suspends : Suspends t u)
    (same : u.snapshot = t.snapshot) : Outcome s u owed stray := by
  have images : u.images = t.images := congrArg LibrarySnapshot.images same
  cases outcome with
  | quiet first before free => exact .quiet (first.trans suspends) (same.trans before) free
  | owing first owes => exact .owing (first.trans suspends) (owes.mono images suspends.kept)
  | persisted v next before ready live after own =>
    exact .persisted v next before ready live (after.trans suspends) (same.trans own)
  | refused first unready => exact .refused (first.trans suspends) unready
  | astray first lost => exact .astray (first.trans suspends) lost

theorem suspends_of_unready (outcome : Outcome s t owed stray) (unready : s.initialized = false) :
    Suspends s t := by
  cases outcome with
  | persisted u next before ready _ _ _ =>
    rw [before.initialized, unready] at ready
    cases ready
  | quiet suspends | owing suspends | refused suspends | astray suspends => exact suspends

end Outcome

section Settings

variable {setting : Setting} {index : Nat} {previous : MachineSpec}

theorem settingFailed_suspends {failure : Failure} :
    Suspends s (s.settingFailed setting machine index previous failure) := by
  unfold settingFailed
  split
  · exact same rfl rfl rfl
  · exact Suspends.setSpec.present

theorem persistSetting_outcome (suspends : Suspends s t) :
    Outcome s (t.persistSetting setting machine index previous) owed stray :=
  .persist suspends rfl fun _ => settingFailed_suspends

theorem edit_outcome {go : Session → Nat → MachineSpec → Session} (suspends : Suspends s t)
    (unchanged : t.snapshot = s.snapshot)
    (goes : ∀ u index previous, Suspends s u → Outcome s (go u index previous) False stray) :
    Outcome s (t.edit setting machine go) False stray := by
  unfold edit
  split
  · exact .quiet suspends.refuse unchanged id
  · split
    · exact .quiet (suspends.trans (same rfl rfl rfl)) unchanged id
    · exact goes _ _ _ (suspends.trans Suspends.setSpec)

theorem whenIdle_outcome {go : Session → Session}
    (goes : ∀ u, Suspends s u → u.snapshot = s.snapshot → Outcome s (go u) False stray) :
    Outcome s (s.whenIdle machine go) False stray := by
  unfold Session.whenIdle
  split
  · exact goes _ (same rfl rfl rfl) rfl
  · exact .quiet (same rfl rfl rfl) rfl id
  · exact .quiet (same rfl rfl rfl) rfl id

theorem settingApplied_outcome :
    Outcome s (s.settingApplied setting machine index) False stray := by
  unfold settingApplied
  split
  · split
    · exact .quiet (same rfl rfl rfl) rfl id
    · split <;> exact .quiet (same rfl rfl rfl) rfl id
  · exact .quiet (refl s) rfl id

theorem settingSaved_outcome :
    Outcome s (s.settingSaved setting machine index previous response) False
      (s.Stray response (.settingSaved setting machine index previous)) := by
  cases response with
  | ok => exact settingApplied_outcome
  | error failure => exact .astray settingFailed_suspends ⟨failure, rfl⟩

theorem settingPrepared_outcome :
    Outcome s (s.settingPrepared setting machine index previous response) owed
      (s.Stray response (.settingPrepared setting machine index previous)) := by
  cases response with
  | ok => exact persistSetting_outcome (refl s)
  | error failure => exact .astray settingFailed_suspends ⟨failure, rfl⟩

theorem setWindowsSupportToolsAttached_outcome {attached : Bool} :
    Outcome s (s.setWindowsSupportToolsAttached attached machine) False stray := by
  unfold setWindowsSupportToolsAttached
  split
  · refine whenIdle_outcome fun u suspends unchanged => edit_outcome suspends unchanged ?_
    intro v index previous edited
    split
    · exact .suspend edited rfl trivial
    · exact persistSetting_outcome edited
  · exact .quiet (refl s) rfl id

theorem setSharedDirectory_outcome {path : Option String} {isDirectory : Bool} :
    Outcome s (s.setSharedDirectory path isDirectory machine) False stray := by
  unfold setSharedDirectory
  split
  · exact .quiet (refl s).refuse rfl id
  · split
    · exact .quiet (refl s).refuse rfl id
    · exact edit_outcome (refl s) rfl fun _ _ _ edited => persistSetting_outcome edited

theorem removeCustomInputProfile_outcome {id : UUID} :
    Outcome s (s.removeCustomInputProfile id) owed stray :=
  .persist (same rfl rfl rfl) rfl fun _ => same rfl rfl rfl

end Settings

section Machines

variable {env : Environment} {draft : MachineDraft} {image : MachineImage}
  {backend : VirtualizationBackendKind} {disk : MachineDisk} {backendState : BackendStateReference}

theorem createFiles_quiet : Outcome s (s.createFiles env draft image) False stray := by
  unfold createFiles
  split
  · exact .quiet ((refl s).suspend rfl) rfl id
  · exact .quiet (refl s) rfl id

/-- What comes before the machine is listed changes no list. -/
theorem createFromImage_quiet :
    Suspends s (s.createFromImage env draft) ∧
      (s.createFromImage env draft).snapshot = s.snapshot := by
  have files (image : MachineImage) : Suspends s (s.createFiles env draft image) ∧
      (s.createFiles env draft image).snapshot = s.snapshot := by
    unfold createFiles
    split
    · exact ⟨(refl s).suspend rfl, rfl⟩
    · exact ⟨refl s, rfl⟩
  unfold createFromImage
  split
  · exact ⟨refl s, rfl⟩
  · split
    · split
      · exact ⟨(refl s).suspend rfl, rfl⟩
      · exact files _
    · exact ⟨refl s, rfl⟩

theorem discardMachine_suspends {id : UUID} : Suspends s (s.discardMachine id) := by
  have filtered : Suspends s (s.withMachines (s.app.machines.filter fun m => m.id ≠ id)) :=
    same rfl rfl rfl
  exact filtered.suspend rfl

/-- The machine that is thrown away was not listed. -/
theorem discardMachine_outcome {id : UUID}
    (stray_of_listed : (∃ m ∈ s.app.machines, m.id = id) → stray) :
    Outcome s (s.discardMachine id) False stray := by
  by_cases listed : ∃ m ∈ s.app.machines, m.id = id
  · exact .astray discardMachine_suspends (stray_of_listed listed)
  · refine .quiet discardMachine_suspends ?_ not_false
    have kept : (s.app.machines.filter fun m => m.id ≠ id) = s.app.machines := by
      apply List.filter_eq_self.mpr
      intro m member
      exact decide_eq_true fun own => listed ⟨m, member, own⟩
    simp only [Session.snapshot, discardMachine, suspend, withMachines, kept]

theorem appendMachine_outcome :
    Outcome s (s.appendMachine env draft image backend disk backendState) owed stray :=
  .persist (same rfl rfl rfl) rfl fun _ => discardMachine_suspends

theorem filesCreated_outcome :
    Outcome s (s.filesCreated env draft image backend response) False stray := by
  unfold filesCreated
  split
  · split
    · exact .quiet ((refl s).suspend rfl) rfl id
    · exact appendMachine_outcome
  · exact .quiet (refl s) rfl id

theorem diskProvisioned_outcome :
    Outcome s (s.diskProvisioned env draft image backend disk backendState response) False
      (s.Stray response (.diskProvisioned env draft image backend disk backendState)) := by
  unfold diskProvisioned
  split
  · exact appendMachine_outcome
  next failed => exact discardMachine_outcome fun listed => ⟨listed, failed⟩

theorem machineSaved_outcome {id : UUID} :
    Outcome s (s.machineSaved id response) False (s.Stray response (.machineSaved id)) := by
  cases response with
  | ok => exact .quiet (refl s) rfl not_false
  | error failure => exact .astray discardMachine_suspends ⟨failure, rfl⟩

theorem discardClone_outcome {id : UUID} {failure : Failure} :
    Outcome s (s.discardClone id failure) False stray := .quiet ((refl s).suspend rfl) rfl not_false

theorem filesCloned_outcome :
    Outcome s (s.filesCloned env machine response) False stray := by
  unfold filesCloned
  split
  · exact .persist (same rfl rfl rfl) rfl fun _ => (refl _).suspend rfl
  · exact .quiet (refl s) rfl id
  · exact discardClone_outcome

theorem cloneSaved_outcome {id : UUID} : Outcome s (s.cloneSaved id response) False stray := by
  cases response with
  | ok => exact .quiet (refl s) rfl not_false
  | error failure => exact discardClone_outcome

theorem machineRemoved_outcome : Outcome s (s.machineRemoved machine response) False stray := by
  unfold machineRemoved
  split
  · exact .persist (same rfl rfl rfl) rfl fun _ => (refl _).refuse
  · exact .quiet (refl s).present rfl id

theorem ejectInstaller_outcome : Outcome s (s.ejectInstaller machine) False stray := by
  unfold ejectInstaller
  split
  · exact .quiet (same rfl rfl rfl) rfl id
  · simp only
    split
    · exact .persist (same rfl rfl rfl) rfl fun _ => refl _
    · exact .quiet (same rfl rfl rfl) rfl id

theorem start_outcome : Outcome s (s.start machine) False stray := by
  unfold start
  split
  · exact .quiet (refl s).refuse rfl id
  · split
    · exact .quiet (refl s).refuse rfl id
    · have marked : Suspends s { s with app := { s.app with
          startingMachineIDs := machine.id :: s.app.startingMachineIDs } } := same rfl rfl rfl
      exact .quiet (marked.suspend rfl) rfl id

theorem filesResolved_outcome : Outcome s (s.filesResolved machine response) False stray := by
  unfold filesResolved
  split
  · split
    · split
      next ready =>
        have installing : Suspends s (s.updateMachine machine.id fun m =>
            { m with provisioningState := .installing }) := same rfl rfl rfl
        exact .suspend installing rfl ready
      · exact .quiet ((refl s).suspend rfl) rfl id
    · exact .quiet (same rfl rfl rfl) rfl id
  · exact .quiet (same rfl rfl rfl) rfl id

/-- A start that ends here has lost the `.installing` of its machine, if it has set it. -/
theorem endStart_outcome (lost : machine.provisioningState = .readyToInstall → stray)
    (suspends : Suspends s t) (unchanged : t.snapshot = s.snapshot) :
    Outcome s t (s.Owes (.startPrepared machine)) stray := by
  by_cases ready : machine.provisioningState = .readyToInstall
  · exact .astray suspends (lost ready)
  · exact .quiet suspends unchanged ready

theorem startPrepared_outcome :
    Outcome s (s.startPrepared machine response) (s.Owes (.startPrepared machine))
      (s.Stray response (.startPrepared machine)) := by
  unfold startPrepared
  split
  next answer =>
    simp only
    split
    · have known : Suspends s { s with app := s.app.withRuntime machine } := same rfl rfl rfl
      exact (Outcome.record known).quietly ((refl _).suspend rfl) rfl
    next idle =>
      refine endStart_outcome (fun ready => ⟨ready, fun _ _ => ?_⟩) (same rfl rfl rfl) rfl
      have own : (s.app.withRuntime machine).runtime machine = s.app.runtime machine := by
        simp [AppModel.withRuntime, AppModel.setRuntime, AppModel.runtime]
      rw [own] at idle
      exact Bool.eq_false_iff.mpr idle
  next failure =>
    refine endStart_outcome (fun ready => ⟨ready, fun _ answered => ?_⟩) (same rfl rfl rfl) rfl
    cases answered

theorem runtimeChanges_outcome {id : UUID} {state : MachineRuntimeState} :
    Outcome s (s.runtimeChanges id state) False stray := by
  unfold runtimeChanges
  split
  · exact .quiet (refl s) rfl not_false
  · exact .record (refl s)

theorem exportMachineDisk_outcome : Outcome s (s.exportMachineDisk machine) False stray := by
  unfold exportMachineDisk
  split
  · exact .quiet (refl s) rfl id
  · split
    · exact .quiet (refl s) rfl id
    · have marked : Suspends s { s with app := { s.app with
          exportingMachineIDs := machine.id :: s.app.exportingMachineIDs } } := same rfl rfl rfl
      exact .quiet (marked.suspend rfl) rfl id

theorem ended_outcome : Outcome s (s.ended response) False stray := by
  cases response with
  | ok => exact .quiet (refl s) rfl id
  | error failure => exact .quiet (refl s).present rfl id

theorem toolsChecked_outcome {snapshot : LibrarySnapshot} {machines : List Machine} :
    Outcome s (s.toolsChecked snapshot machines) (s.Owes (.toolsChecked snapshot machines)) stray := by
  unfold toolsChecked
  split
  · exact .persist (refl s) rfl fun _ => (refl s).refuse
  next agrees => exact .quiet (refl s) rfl agrees

end Machines

section Images

variable {env : Environment} {source : SourceFile} {operatingSystem : GuestOperatingSystem}
  {architecture : GuestArchitecture} {artifactKind : ImageArtifactKind} {image : MachineImage}
  {entry : ImageCatalogEntry} {imageID : UUID} {task : Nat} {failure : Failure}

theorem importImage_outcome : Outcome s
    (s.importImage env source operatingSystem architecture artifactKind) False stray := by
  unfold importImage
  split
  · exact .quiet ((refl s).suspend rfl) rfl id
  · exact .quiet (refl s) rfl id

theorem discardImport_outcome : Outcome s (s.discardImport imageID) False stray :=
  .quiet ((refl s).suspend rfl) rfl id

theorem fileImported_outcome : Outcome s
    (s.fileImported env source operatingSystem architecture artifactKind response) False stray := by
  unfold fileImported
  split
  · exact .quiet ((refl s).suspend rfl) rfl id
  · exact discardImport_outcome

theorem fileDigested_outcome {destination : Location} : Outcome s (s.fileDigested env source
    operatingSystem architecture artifactKind destination response) False stray := by
  unfold fileDigested
  split
  · exact .persist (same rfl rfl rfl) rfl fun _ => (refl _).suspend rfl
  · exact discardImport_outcome

theorem importSaved_outcome : Outcome s (s.importSaved imageID response) False stray := by
  cases response with
  | ok => exact .quiet (refl s) rfl id
  | error failure => exact discardImport_outcome

theorem addOCIReference_outcome {reference : String} :
    Outcome s (s.addOCIReference env reference architecture) False stray := by
  unfold addOCIReference
  split
  · exact .quiet (refl s) rfl id
  · exact .persist (same rfl rfl rfl) rfl fun _ => refl _

/-- A download that begins persists its record itself. -/
theorem beginDownload_outcome (suspends : Suspends s t) (unchanged : t.initialized = false →
    t.snapshot = s.snapshot ∧ ¬ owed) : Outcome s (t.beginDownload entry imageID) owed stray := by
  unfold beginDownload
  split
  · have registered : Suspends t { t with
        tasks := t.tasks + 1
        downloads := fun other => if other = imageID then some t.tasks else t.downloads other } :=
      same rfl rfl rfl
    exact .suspend (suspends.trans registered) rfl trivial
  next unready =>
    have free := unchanged (Bool.eq_false_iff.mpr unready)
    exact .quiet suspends.refuse free.1 free.2

theorem download_outcome : Outcome s (s.download entry imageID).1 False stray := by
  unfold download
  split
  next ready =>
    split
    · exact .quiet (refl s) rfl id
    · refine beginDownload_outcome (same rfl rfl rfl) fun unready => ?_
      rw [show s.initialized = false from unready] at ready
      cases ready
  · exact .quiet (refl s).refuse rfl id

theorem createMachine_outcome {draft : MachineDraft} {creation : MachineCreationSource} :
    Outcome s (s.createMachine env draft creation) False stray := by
  unfold createMachine
  split
  · split
    · exact .quiet createFromImage_quiet.1 createFromImage_quiet.2 id
    · exact .quiet (refl s) rfl id
  · split
    · split
      · exact .quiet (refl s) rfl id
      next entry _ =>
        have begun : Outcome s (s.download entry env.imageID).1 False stray := download_outcome
        split
        next t imageID downloads =>
          rw [downloads] at begun
          exact begun.quietly createFromImage_quiet.1 createFromImage_quiet.2
        next t downloads =>
          rw [downloads] at begun
          exact begun
    · exact .quiet (refl s) rfl id

theorem cancelDownload_suspends : Suspends s (s.cancelDownload imageID) ∧
    (s.cancelDownload imageID).snapshot = s.snapshot := by
  unfold cancelDownload
  split
  · exact ⟨refl s, rfl⟩
  · exact ⟨same rfl rfl rfl, rfl⟩

/-- A task that fails persists the record once its files are removed, or at once. -/
theorem downloadFailed_outcome : Outcome s (s.downloadFailed imageID task failure) owed stray := by
  unfold downloadFailed
  split
  · exact .suspend (refl s) rfl trivial
  · exact .persist (same rfl rfl rfl) rfl fun _ => same rfl rfl rfl

theorem downloadFailed_suspends (unready : s.initialized = false) :
    Suspends s (s.downloadFailed imageID task failure) := by
  have failed : Outcome s (s.downloadFailed imageID task failure) False False :=
    downloadFailed_outcome
  exact failed.suspends_of_unready unready

theorem downloadBegun_outcome : Outcome s (s.downloadBegun imageID task) owed stray :=
  .persist (refl s) rfl downloadFailed_suspends

theorem downloadListed_outcome :
    Outcome s (s.downloadListed imageID task response) False stray := by
  cases response with
  | ok => exact .quiet ((refl s).suspend rfl) rfl id
  | error failure => exact downloadFailed_outcome

theorem destinationMade_outcome :
    Outcome s (s.destinationMade imageID task response) False stray := by
  unfold destinationMade
  split
  · exact .suspend (refl s) rfl trivial
  · exact .quiet (refl s) rfl id
  · exact downloadFailed_outcome

theorem downloaded_outcome {destination : Location} :
    Outcome s (s.downloaded imageID task destination response) owed stray := by
  unfold downloaded
  split
  · exact .persist (same rfl rfl rfl) rfl fun unready => downloadFailed_suspends unready
  · exact downloadFailed_outcome

theorem downloadSaved_outcome : Outcome s (s.downloadSaved imageID task response) False stray := by
  cases response with
  | ok => exact .quiet (same rfl rfl rfl) rfl id
  | error failure => exact downloadFailed_outcome

theorem cancelledFilesRemoved_outcome :
    Outcome s (s.cancelledFilesRemoved imageID task) owed stray := by
  unfold cancelledFilesRemoved
  exact .persist (same rfl rfl rfl) rfl fun _ => same rfl rfl rfl

theorem retryDownload_outcome : Outcome s (s.retryDownload image) False stray := by
  unfold retryDownload
  split
  · exact .quiet (refl s).refuse rfl id
  · exact .quiet ((refl s).suspend rfl) rfl id

theorem retryFilesRemoved_outcome :
    Outcome s (s.retryFilesRemoved entry imageID) owed stray := by
  unfold retryFilesRemoved
  refine .persist (same rfl rfl rfl) rfl fun unready => ?_
  exact (beginDownload_outcome (refl _) fun _ => ⟨rfl, not_false⟩ :
    Outcome _ _ False False).suspends_of_unready unready

theorem removeImage_outcome : Outcome s (s.removeImage image) False stray := by
  unfold removeImage
  split
  · exact .quiet (refl s).refuse rfl id
  · exact .quiet (cancelDownload_suspends.1.suspend rfl) cancelDownload_suspends.2 id

theorem imageFilesRemoved_outcome :
    Outcome s (s.imageFilesRemoved imageID response) False stray := by
  unfold imageFilesRemoved
  split
  · exact .persist (same rfl rfl rfl) rfl fun _ => (refl _).refuse
  · exact .quiet (refl s).present rfl id

theorem exportImage_outcome : Outcome s (s.exportImage image) False stray := by
  unfold exportImage
  split
  · split
    · have marked : Suspends s { s with exportingImageIDs := image.id :: s.exportingImageIDs } :=
        same rfl rfl rfl
      exact .quiet (marked.suspend rfl) rfl id
    · exact .quiet (refl s) rfl id
  · exact .quiet (refl s) rfl id

theorem recordPhase_suspends {phase : DownloadPhase} : Suspends s (s.recordPhase imageID phase) := by
  unfold recordPhase
  split
  · exact refl s
  · split <;> exact same rfl rfl rfl

end Images

/-- A call that is made does nothing about the library, or leaves the change to a call in flight,
or persists it. -/
theorem request_outcome {request : Request} (live : ∀ fixture, request ≠ .initializeModel fixture) :
    Outcome s (s.request request) False stray := by
  -- One lemma for each request; whatever it changes it saves, or suspends to save later.
  cases request with
  | initializeModel fixture => exact absurd rfl (live fixture)
  | createMachine env draft source => exact createMachine_outcome
  | cloneMachine env machine =>
    simp only [Session.request, cloneMachine]
    split
    · exact whenIdle_outcome fun u idle unchanged => .quiet (idle.suspend rfl) unchanged id
    · exact .quiet (refl s).refuse rfl id
  | deleteMachine machine =>
    simp only [Session.request, deleteMachine]
    split
    · exact whenIdle_outcome fun u idle unchanged => .quiet (idle.suspend rfl) unchanged id
    · exact .quiet (refl s).refuse rfl id
  | ejectInstaller machine => exact ejectInstaller_outcome
  | start machine => exact start_outcome
  | exportMachineDisk machine => exact exportMachineDisk_outcome
  | setInputProfile profile machine =>
    simp only [Session.request, setInputProfile]
    exact edit_outcome (refl s) rfl fun _ _ _ edited => persistSetting_outcome edited
  | setCustomInputProfile id baseProfile machine =>
    simp only [Session.request, setCustomInputProfile]
    exact edit_outcome (refl s) rfl fun _ _ _ edited => persistSetting_outcome edited
  | removeCustomInputProfile id => exact removeCustomInputProfile_outcome
  | setSharedDirectory path isDirectory machine => exact setSharedDirectory_outcome
  | setWindowsSupportToolsAttached attached machine =>
    exact setWindowsSupportToolsAttached_outcome
  | setDisplayMode mode machine =>
    simp only [Session.request, setDisplayMode]
    exact whenIdle_outcome fun u idle unchanged => edit_outcome idle unchanged
      fun _ _ _ edited => persistSetting_outcome edited
  | importImage env source operatingSystem architecture artifactKind => exact importImage_outcome
  | addOCIReference env reference architecture => exact addOCIReference_outcome
  | download entry imageID => exact download_outcome
  | cancelDownload imageID => exact .quiet cancelDownload_suspends.1 cancelDownload_suspends.2 id
  | retryDownload image => exact retryDownload_outcome
  | removeImage image => exact removeImage_outcome
  | exportImage image => exact exportImage_outcome

/-- So does a call that goes on, unless it goes astray. -/
theorem goOn_outcome (live : isRestoring next = false) :
    Outcome s (s.goOn response next) (s.Owes next) (s.Stray response next) := by
  -- A continuation of the restoration is excluded; every other one settles what its call owed.
  cases next with
  | libraryLoaded | machinesCleaned | fixtureCreated | snapshotsListed | imagesCleaned => cases live
  | toolsChecked snapshot machines => exact toolsChecked_outcome
  | toolsPrepared env draft image =>
    cases response with
    | ok => exact createFiles_quiet
    | error failure => exact .quiet (refl s) rfl not_false
  | filesCreated => exact filesCreated_outcome
  | diskProvisioned => exact diskProvisioned_outcome
  | machineSaved => exact machineSaved_outcome
  | filesCloned => exact filesCloned_outcome
  | cloneSaved => exact cloneSaved_outcome
  | machineRemoved => exact machineRemoved_outcome
  | settingPrepared => exact settingPrepared_outcome
  | settingSaved => exact settingSaved_outcome
  | profileRemoved id previous =>
    cases response with
    | ok => exact .quiet (refl s) rfl not_false
    -- The profiles are put back in memory only.
    | error failure => exact .astray (same rfl rfl rfl) ⟨failure, rfl⟩
  | filesResolved => exact filesResolved_outcome
  | startPrepared => exact startPrepared_outcome
  | recordBegun => exact .persist (refl s) rfl fun _ => refl s
  | fileImported => exact fileImported_outcome
  | fileDigested => exact fileDigested_outcome
  | importSaved => exact importSaved_outcome
  | downloadBegun => exact downloadBegun_outcome
  | downloadListed => exact downloadListed_outcome
  | destinationMade => exact destinationMade_outcome
  | downloaded => exact downloaded_outcome
  | downloadSaved => exact downloadSaved_outcome
  | cancelledFilesRemoved => exact cancelledFilesRemoved_outcome
  | retryFilesRemoved => exact retryFilesRemoved_outcome
  | retrySaved entry imageID => exact beginDownload_outcome (refl s) fun _ => ⟨rfl, not_false⟩
  | imageFilesRemoved => exact imageFilesRemoved_outcome
  | restorationSaved | deletionSaved | removalSaved => exact ended_outcome
  | machineDiscarded | ejectionSaved | recordSaved | importDiscarded | referenceSaved =>
    exact .quiet (refl s) rfl not_false
  | cloneDiscarded failure => exact .quiet (refl s).present rfl not_false
  | started | diskExported | imageExported | failureSaved | cancellationSaved =>
    exact .quiet (same rfl rfl rfl) rfl not_false

end SimpleVM.App.Session
