import SimpleVM.App.Calls

/-!
# The library file

Only a save writes `library.json`; every other work of the stores leaves it as it is. What a
launch would load is the snapshot saved last.
-/
namespace SimpleVM.Storage

open Domain Effects

/-- What `load` finds: the library is empty as long as nothing has been saved. -/
def Volume.library (v : Volume) : LibrarySnapshot := v.metadata.getD { machines := [], images := [] }

/-- `library.json` is not written. -/
def SameLibrary (v w : Volume) : Prop := w.metadata = v.metadata

namespace SameLibrary

variable {α β : Type} {faults : Faults} {step : Step}

theorem refl (v : Volume) : SameLibrary v v := rfl

theorem trans (u v w : Volume) (first : SameLibrary u v) (second : SameLibrary v w) :
    SameLibrary u w := Eq.trans second first

theorem bind {x : Store α} {f : α → Store β} (first : Keeps SameLibrary x)
    (second : ∀ a, Keeps SameLibrary (f a)) : Keeps SameLibrary (x >>= f) :=
  Keeps.bind trans first second

theorem pure (a : α) : Keeps SameLibrary (Pure.pure a : Store α) := Keeps.pure refl a

theorem throw (e : StorageError) : Keeps SameLibrary (MonadExcept.throw e : Store α) :=
  Keeps.throw refl e

theorem getState : Keeps SameLibrary (Failing.getState : Store Volume) := Keeps.getState refl

theorem attempt {change : Volume → Volume} (moves : ∀ v, SameLibrary v (change v)) :
    Keeps SameLibrary (Storage.attempt faults step change) := by
  intro v
  unfold Storage.attempt
  cases faults step with
  | none => exact moves v
  | some fault => exact refl v

theorem writeFile (l : Location) (data : Data) :
    Keeps SameLibrary (Storage.writeFile faults step l data) := by
  intro v
  unfold Storage.writeFile
  cases faults step with
  | none => rfl
  | some fault =>
    simp only
    split <;> rfl

theorem removeItem (d : ManagedDirectory) :
    Keeps SameLibrary (Storage.removeItem faults step d) := by
  intro v
  unfold Storage.removeItem
  cases faults step <;> rfl

theorem removeIfPresent (d : ManagedDirectory) :
    Keeps SameLibrary (Storage.removeIfPresent faults step d) := by
  apply bind getState
  intro v
  split
  · exact removeItem d
  · exact pure _

theorem resolve (relativePath : String) : Keeps SameLibrary (Storage.resolve relativePath) := by
  unfold Storage.resolve
  split
  · exact pure _
  · exact throw _

section Stores

theorem removeOrphans {isReferenced : ManagedDirectory → Bool}
    (directories : List ManagedDirectory) :
    Keeps SameLibrary (Storage.removeOrphans faults isReferenced directories) := by
  induction directories with
  | nil => exact pure _
  | cons first rest ih =>
    simp only [Storage.removeOrphans]
    split
    · exact ih
    · exact bind (removeItem first) fun _ => ih

theorem removeOrphaned {isReferenced : ManagedDirectory → Bool} :
    Keeps SameLibrary (Storage.removeOrphaned faults isReferenced) :=
  bind (attempt refl) fun _ => bind (attempt refl) fun _ => bind getState fun v =>
    removeOrphans v.directories

theorem createFiles (machineID diskID : UUID) (diskCapacityBytes : UInt64)
    (backend : VirtualizationBackendKind) (operatingSystem : GuestOperatingSystem)
    (baseDisk : Option String) : Keeps SameLibrary (Storage.createFiles faults machineID diskID
      diskCapacityBytes backend operatingSystem baseDisk) := by
  have makes : Keeps SameLibrary (createMachineDirectory faults machineID) := by
    apply bind getState
    intro v
    split
    · exact bind (throw _) fun _ => attempt fun _ => rfl
    · exact attempt fun _ => rfl
  have fills : Keeps SameLibrary (createContents faults machineID diskID diskCapacityBytes backend
      operatingSystem baseDisk) :=
    createContents_keeps faults refl trans (fun _ _ => rfl) diskCapacityBytes backend baseDisk
  refine bind (attempt refl) fun _ => bind makes fun _ => Keeps.tryCatch trans fills fun e => ?_
  exact bind (Keeps.ignoring (removeItem _)) fun _ => throw e

theorem resolveFiles (machine : Machine) : Keeps SameLibrary (Storage.resolveFiles machine) := by
  refine bind (resolve _) fun disk => bind (resolve _) fun _ => bind getState fun v => ?_
  split
  · exact bind (throw _) fun _ => pure _
  · exact pure _

theorem copyFirmwareFiles (sourceDirectory : String) (destination : Location)
    (names : List String) :
    Keeps SameLibrary (Storage.copyFirmwareFiles faults sourceDirectory destination names) := by
  induction names with
  | nil => exact pure _
  | cons name rest ih =>
    refine bind (bind getState fun v => ?_) fun _ => ih
    split
    · exact pure _
    · exact Keeps.ignoring (writeFile _ _)

theorem cloneFiles (source : Machine) (destinationID diskID : UUID) :
    Keeps SameLibrary (Storage.cloneFiles faults source destinationID diskID) :=
  bind (resolveFiles source) fun _ => bind (createFiles _ _ _ _ _ _) fun _ =>
    bind (copyFirmwareFiles _ _ _) fun _ => pure _

theorem destinationURL (imageID : UUID) (fileExtension : String) :
    Keeps SameLibrary (Storage.destinationURL faults imageID fileExtension) :=
  bind (attempt refl) fun _ => bind (attempt fun _ => rfl) fun _ => pure _

theorem importFile (source : SourceFile) (imageID : UUID) :
    Keeps SameLibrary (Storage.importFile faults source imageID) := by
  have clears (destination : Location) : Keeps SameLibrary (removeExisting faults destination) := by
    apply bind getState
    intro v
    split
    · exact attempt fun _ => rfl
    · exact pure _
  have copies (destination : Location) : Keeps SameLibrary (copyImage faults source destination) := by
    unfold copyImage
    split
    · exact throw _
    · exact writeFile _ _
  exact bind (destinationURL _ _) fun destination => bind (clears destination) fun _ =>
    bind (copies destination) fun _ => pure _

theorem load : Keeps SameLibrary (Storage.load faults) := by
  refine bind (attempt refl) fun _ => bind getState fun v => ?_
  split
  · exact pure _
  · refine bind (attempt refl) fun _ => ?_
    split
    · exact bind (throw _) fun _ => pure _
    · exact pure _

end Stores

end SameLibrary

/-- What a launch loads is what was saved last. -/
theorem load_eq_ok {faults : Faults} {v w : Volume} {snapshot : LibrarySnapshot}
    (loaded : Storage.load faults v = (.ok snapshot, w)) : snapshot = v.library := by
  obtain ⟨_, u, tried, reads⟩ := Failing.bind_eq_ok.mp loaded
  obtain ⟨-, same⟩ := attempt_eq_ok.mp tried
  obtain ⟨known, t, state, found⟩ := Failing.bind_eq_ok.mp reads
  obtain ⟨here, -⟩ := Failing.getState_eq_ok.mp state
  have own : known = v := here.trans same
  subst own
  unfold Volume.library
  cases saved : known.metadata with
  | none =>
    simp only [saved] at found
    exact (Failing.pure_eq_ok.mp found).1
  | some last =>
    simp only [saved] at found
    obtain ⟨_, _, _, checked⟩ := Failing.bind_eq_ok.mp found
    split at checked
    · obtain ⟨_, _, refused, _⟩ := Failing.bind_eq_ok.mp checked
      cases refused
    · exact (Failing.pure_eq_ok.mp checked).1

/-- A save that succeeds writes its snapshot. -/
theorem save_eq_ok {faults : Faults} {v w : Volume} {snapshot : LibrarySnapshot}
    (saved : Storage.save faults snapshot v = (.ok (), w)) : w.library = snapshot := by
  unfold Storage.save at saved
  split at saved
  · obtain ⟨_, _, refused, _⟩ := Failing.bind_eq_ok.mp saved
    cases refused
  · obtain ⟨_, _, _, written⟩ := Failing.bind_eq_ok.mp saved
    obtain ⟨-, rfl⟩ := attempt_eq_ok.mp written
    rfl

end SimpleVM.Storage

namespace SimpleVM.App

open Domain Effects Storage

section Provisioning

variable {env : Environment} {α β : Type}

def SameFile (a b : Library) : Prop := SameLibrary a.volume b.volume

theorem SameFile.refl (lib : Library) : SameFile lib lib := SameLibrary.refl _

theorem SameFile.trans (a b c : Library) (first : SameFile a b) (second : SameFile b c) :
    SameFile a c := SameLibrary.trans _ _ _ first second

/-- An action of the library does not write `library.json`. -/
def SavesNothing (x : LibraryAction α) : Prop := Keeps SameFile x

namespace SavesNothing

theorem bind {x : LibraryAction α} {f : α → LibraryAction β} (first : SavesNothing x)
    (second : ∀ a, SavesNothing (f a)) : SavesNothing (x >>= f) :=
  Keeps.bind SameFile.trans first second

theorem pure (a : α) : SavesNothing (Pure.pure a : LibraryAction α) :=
  Keeps.pure SameFile.refl a

theorem throw (e : LibraryError) : SavesNothing (MonadExcept.throw e : LibraryAction α) :=
  Keeps.throw SameFile.refl e

theorem getState : SavesNothing (Failing.getState : LibraryAction Library) :=
  Keeps.getState SameFile.refl

theorem onVolume {x : Store α} (keeps : Keeps SameLibrary x) : SavesNothing (App.onVolume x) := by
  intro s
  have same := keeps s.volume
  unfold App.onVolume
  cases run : x s.volume with
  | mk result v =>
    rw [run] at same
    cases result <;> exact same

theorem writeFile {step : Step} (l : Location) (data : Data) :
    SavesNothing (App.onVolume (Storage.writeFile env.faults step l data)) :=
  onVolume (SameLibrary.writeFile l data)

theorem attempt {step : Step} {change : Volume → Volume} (moves : ∀ v, SameLibrary v (change v)) :
    SavesNothing (App.onVolume (Storage.attempt env.faults step change)) :=
  onVolume (SameLibrary.attempt moves)

theorem availableURL (image : MachineImage) : SavesNothing (App.availableURL image) := by
  unfold App.availableURL
  split
  · exact onVolume (SameLibrary.resolve _)
  · exact throw _

theorem removeFiles (file : String → Location) (names : List String) (v : Volume) :
    SameLibrary v (names.foldl (fun v name => v.removeFile (file name)) v) := by
  induction names generalizing v with
  | nil => rfl
  | cons name rest ih => exact ih _

theorem installBootAssets (file : String → Location) (commandLine : String) (kernel : Data)
    (initialRamdisk : Option Data) :
    SavesNothing (App.installBootAssets env file commandLine kernel initialRamdisk) := by
  refine bind (writeFile _ _) fun _ => ?_
  cases initialRamdisk with
  | none => exact writeFile _ _
  | some data => exact bind (writeFile _ _) fun _ => writeFile _ _

theorem prepareBootProfile (profile : LinuxBootProfile) (file : String → Location) :
    SavesNothing (App.prepareBootProfile env profile file) := by
  have ramdisk (destination : Location) :
      SavesNothing (App.initialRamdisk env profile destination) := by
    unfold App.initialRamdisk
    split
    · exact bind (writeFile _ _) fun _ => pure _
    · exact pure _
  have cleanup : SavesNothing (App.onVolume (Storage.attempt env.faults .removeBootDirectory
      fun v => ["BootDownload/kernel", "BootDownload/Image", "BootDownload/initrd"].foldl
        (fun v name => v.removeFile (file name)) v)) := attempt (removeFiles file _)
  refine bind (attempt SameLibrary.refl) fun _ =>
    Keeps.deferring SameFile.trans ?_ (Keeps.ignoring cleanup)
  exact bind (writeFile _ _) fun _ => bind (writeFile _ _) fun _ => bind (ramdisk _) fun _ =>
    installBootAssets _ _ _ _

theorem provisionImage (image : MachineImage) (disk : Location) :
    SavesNothing (App.provisionImage env image disk) := by
  unfold App.provisionImage
  split
  · exact bind (availableURL image) fun _ => writeFile _ _
  · exact writeFile _ _
  · exact throw _
  · exact pure _

theorem require (condition : Bool) (error : LibraryError) :
    SavesNothing (App.require condition error) := by
  unfold App.require
  split
  · exact pure _
  · exact throw _

theorem provisionedCapacity (draft : MachineDraft) (image : MachineImage)
    (backend : VirtualizationBackendKind) (capacityBytes : UInt64) :
    SavesNothing (App.provisionedCapacity env draft image backend capacityBytes) := by
  unfold App.provisionedCapacity
  split
  · refine bind getState fun lib => ?_
    split
    · exact throw _
    · exact bind (require _ _) fun _ => bind (attempt SameLibrary.refl) fun _ =>
        bind (attempt fun _ => rfl) fun _ => bind (provisionImage _ _) fun _ =>
          bind (prepareBootProfile _ _) fun _ => bind (attempt SameLibrary.refl) fun _ =>
            bind getState fun _ => pure _
  · exact pure _

end SavesNothing

end Provisioning

/-- The snapshot that the work saves. -/
def savedBy : Work → Option LibrarySnapshot
  | .save snapshot => some snapshot
  | _ => none

private theorem answered_library {α : Type} {answer : α → Answer} {x : Store α} {v : Volume}
    (keeps : Keeps SameLibrary x) : SameLibrary v (answered answer (x v)).2 := by
  have same := keeps v
  unfold answered
  split
  next run =>
    rw [run] at same
    exact same
  next run =>
    rw [run] at same
    exact same

/-- Nothing but a save writes `library.json`. -/
theorem perform_library {faults : Faults} {outside : Response} {v : Volume} {work : Work}
    (other : savedBy work = none) : (perform faults outside v work).2.library = v.library := by
  have same : SameLibrary v (perform faults outside v work).2 := by
    -- Only `save` writes the file of the library.
    cases work with
    | save snapshot => cases other
    | load => exact answered_library SameLibrary.load
    | removeOrphanedMachines ids => exact answered_library SameLibrary.removeOrphaned
    | removeOrphanedImages ids => exact answered_library SameLibrary.removeOrphaned
    | createFiles => exact answered_library (SameLibrary.createFiles _ _ _ _ _ _)
    | provisionDisk env draft image backend bootProfiles capacity =>
      have keeps : SavesNothing (provisionedCapacity { env with faults := faults } draft image backend
        capacity) := SavesNothing.provisionedCapacity draft image backend capacity
      have keeps :=
        keeps { app := { machines := [] }, bootProfiles := bootProfiles, volume := v }
      simp only [perform]
      split
      next run =>
        rw [run] at keeps
        exact keeps
      next run =>
        rw [run] at keeps
        exact keeps
    | cloneFiles => exact answered_library (SameLibrary.cloneFiles _ _ _)
    | removeMachine id => exact answered_library (SameLibrary.removeIfPresent _)
    | resolveFiles machine => exact answered_library (SameLibrary.resolveFiles machine)
    | importFile => exact answered_library (SameLibrary.importFile _ _)
    | destinationURL => exact answered_library (SameLibrary.destinationURL _ _)
    | removeImage id => exact answered_library (SameLibrary.removeIfPresent _)
    | task | outside => exact SameLibrary.refl v
  unfold Volume.library
  rw [show (perform faults outside v work).2.metadata = v.metadata from same]

/-- The snapshot that a load answers with is the one in `library.json`. -/
theorem perform_load {faults : Faults} {outside : Response} {v : Volume} {snapshot : LibrarySnapshot}
    (loaded : (perform faults outside v .load).1 = .ok (.loaded snapshot)) :
    snapshot = v.library := by
  cases run : Storage.load faults v with
  | mk result w =>
    simp only [perform, run, answered] at loaded
    cases result with
    | error e => cases loaded
    | ok found =>
      cases loaded
      exact load_eq_ok run

/-- After a save that has succeeded `library.json` has its snapshot. -/
theorem perform_save {faults : Faults} {outside : Response} {v : Volume} {snapshot : LibrarySnapshot}
    {answer : Answer} (saved : (perform faults outside v (.save snapshot)).1 = .ok answer) :
    (perform faults outside v (.save snapshot)).2.library = snapshot := by
  cases run : Storage.save faults snapshot v with
  | mk result w =>
    simp only [perform, run, answered] at saved ⊢
    cases result with
    | error e => cases saved
    | ok u => exact save_eq_ok run

end SimpleVM.App
