import SimpleVM.Storage.ManagedImageStore
import SimpleVM.Storage.ManagedMachineStore

/-!
# The library store

`LibraryStore` reads and writes `library.json`. The directories that it does not reference are
removed when the app starts.
-/
namespace SimpleVM.Storage

open Domain Effects

/-- `LibrarySnapshot.currentSchemaVersion`. -/
def currentSchemaVersion : Int := 1

def unsupportedSchema (found : Int) : StorageError :=
  .io ("Library schema " ++ toString found ++ " is not supported; this app supports schema " ++
    toString currentSchemaVersion ++ ".")

def load (faults : Faults) : Store LibrarySnapshot := do
  attempt faults .initializeStorage
  let v ← Failing.getState
  match v.metadata with
  | none => pure { machines := [], images := [] }
  | some snapshot =>
    attempt faults .readLibrary
    if snapshot.schemaVersion ≠ currentSchemaVersion then
      throw (unsupportedSchema snapshot.schemaVersion)
    pure snapshot

def save (faults : Faults) (snapshot : LibrarySnapshot) : Store Unit := do
  if snapshot.schemaVersion ≠ currentSchemaVersion then
    throw (unsupportedSchema snapshot.schemaVersion)
  attempt faults .initializeStorage
  attempt faults .persist fun v => { v with metadata := some snapshot }

/-- The loop that removes what nothing references. -/
def removeOrphans (faults : Faults) (isReferenced : ManagedDirectory → Bool) :
    List ManagedDirectory → Store Unit
  | [] => pure ()
  | directory :: rest =>
    if isReferenced directory then removeOrphans faults isReferenced rest
    else do
      removeItem faults (.removeOrphan directory) directory
      removeOrphans faults isReferenced rest

/-- The loop over the contents of one directory of the storage root. -/
def removeOrphaned (faults : Faults) (isReferenced : ManagedDirectory → Bool) : Store Unit := do
  attempt faults .initializeStorage
  attempt faults .listDirectories
  let v ← Failing.getState
  removeOrphans faults isReferenced v.directories

/-- Images are in another directory, which is not looked at. -/
def isReferencedMachine (referencedIDs : List UUID) : ManagedDirectory → Bool
  | .machine id => decide (id ∈ referencedIDs)
  | .image _ => true

def isReferencedImage (referencedIDs : List UUID) : ManagedDirectory → Bool
  | .image id => decide (id ∈ referencedIDs)
  | .machine _ => true

def removeOrphanedMachines (faults : Faults) (referencedIDs : List UUID) : Store Unit :=
  removeOrphaned faults (isReferencedMachine referencedIDs)

def removeOrphanedImages (faults : Faults) (referencedIDs : List UUID) : Store Unit :=
  removeOrphaned faults (isReferencedImage referencedIDs)

/-- The directory is there as before, with the same files. -/
def SameDirectory (d : ManagedDirectory) (v w : Volume) : Prop :=
  w.filesIn d = v.filesIn d ∧ (d ∈ w.directories ↔ d ∈ v.directories)

theorem SameDirectory.trans {d : ManagedDirectory} (u v w : Volume)
    (first : SameDirectory d u v) (second : SameDirectory d v w) : SameDirectory d u w :=
  ⟨second.1.trans first.1, second.2.trans first.2⟩

theorem SameDirectory.refl (d : ManagedDirectory) (v : Volume) : SameDirectory d v v :=
  ⟨rfl, Iff.rfl⟩

theorem OnlyIn.same {d other : ManagedDirectory} {v w : Volume} (only : OnlyIn d v w)
    (differ : other ≠ d) : SameDirectory other v w :=
  ⟨only.1 other differ, only.2 other differ⟩

theorem removeOrphans_keeps {faults : Faults} {isReferenced : ManagedDirectory → Bool}
    {d : ManagedDirectory} (referenced : isReferenced d = true)
    (directories : List ManagedDirectory) :
    Keeps (SameDirectory d) (removeOrphans faults isReferenced directories) := by
  induction directories with
  | nil => exact Keeps.pure (SameDirectory.refl d) ()
  | cons first rest ih =>
    unfold removeOrphans
    split
    · exact ih
    · rename_i orphan
      have differ : d ≠ first := by
        rintro rfl
        exact orphan referenced
      refine Keeps.bind SameDirectory.trans (fun v => ?_) fun _ => ih
      exact OnlyIn.same (OnlyIn.keeps_removeItem faults _ first v) differ

/-- What is referenced is not touched, even if the removal fails half way. -/
theorem removeOrphaned_keeps {faults : Faults} {isReferenced : ManagedDirectory → Bool}
    {d : ManagedDirectory} (referenced : isReferenced d = true) :
    Keeps (SameDirectory d) (removeOrphaned faults isReferenced) := by
  have steps (step : Step) : Keeps (SameDirectory d) (attempt faults step) := by
    intro v
    unfold attempt
    cases faults step <;> exact SameDirectory.refl d v
  refine Keeps.bind SameDirectory.trans (steps _) fun _ =>
    Keeps.bind SameDirectory.trans (steps _) fun _ =>
      Keeps.bind SameDirectory.trans (Keeps.getState (SameDirectory.refl d)) fun v => ?_
  exact removeOrphans_keeps referenced v.directories

end SimpleVM.Storage
