import SimpleVM.Storage.Paths

/-!
# The snapshot store

`SnapshotStore` over the file tree of the storage root. Every call of the file system is a
named step that may fail. `snapshots.json` is held as the list it encodes, without the dates.
-/
namespace SimpleVM.Storage

open Domain Effects Files

structure MachineSnapshot where
  id : UUID
  name : String
  diskRelativePath : String
  stateDirectoryRelativePath : Option String := none
deriving DecidableEq, Repr

inductive Contents
  | data (bytes : Data)
  | metadata (snapshots : List MachineSnapshot)
deriving DecidableEq, Repr

abbrev FileTree := Tree String Contents

inductive SnapshotStep
  | createSnapshotsDirectory | createStateDirectory
  | createQEMUDirectory (fileName : String)
  | createCloneDirectory (fileName : String)
  | clone (fileName : String)
  | discardSnapshot
  | readMetadata | createMetadataDirectory | writeMetadata
  | removeSnapshot
  | removeOldReplacement | replaceItem
  | removeOldStaged | swap | removeStaged | discardStaged
deriving DecidableEq, Repr

inductive SnapshotError
  | invalidRelativePath | invalidWindowsState
  | io (message : String)
deriving DecidableEq, Repr

/-- How a step fails: its message, and the files that a removal left if it had begun. -/
structure SnapshotFault where
  message : String
  survivors : Option (List Path) := none

abbrev SnapshotFaults := SnapshotStep → Option SnapshotFault

abbrev SnapshotM := Failing FileTree SnapshotError

namespace SnapshotStore

section Steps

variable (faults : SnapshotFaults)

/-- A step that changes the tree at once or not at all. -/
def attempt (step : SnapshotStep) (change : FileTree → FileTree) : SnapshotM Unit := fun t =>
  match faults step with
  | none => (.ok (), change t)
  | some fault => (.error (.io fault.message), t)

def isFile (t : FileTree) (p : Path) : Bool :=
  match t p with
  | some (.file _) => true
  | _ => false

/-- `createDirectory` with intermediate directories. -/
def createDirectory (step : SnapshotStep) (p : Path) : SnapshotM Unit := do
  let t ← Failing.getState
  if (List.range (p.length + 1)).any (fun n => isFile t (p.take n)) then
    throw (.io "A file is in the way.")
  attempt faults step fun t => t.makeDirectory p

/-- `removeItem`. A removal that fails may have begun. -/
def removeItem (step : SnapshotStep) (p : Path) : SnapshotM Unit := fun t =>
  if (t p).isNone then (.error (.io "There is no such item."), t)
  else match faults step with
    | none => (.ok (), t.remove p)
    | some fault => (.error (.io fault.message),
        match fault.survivors with
        | none => t
        | some survivors => t.removePartly p survivors)

def removeIfPresent (step : SnapshotStep) (p : Path) : SnapshotM Unit := do
  let t ← Failing.getState
  if (t p).isSome then removeItem faults step p else pure ()

/-- `APFSCloneStorage.clone`: `clonefile` needs a source and refuses an existing
destination. -/
def clone (fileName : String) (source destination : Path) : SnapshotM Unit := do
  createDirectory faults (.createCloneDirectory fileName) destination.dropLast
  let t ← Failing.getState
  if (t source).isNone || (t destination).isSome then throw (.io "The file cannot be cloned.")
  attempt faults (.clone fileName) fun t => t.copy source destination

/-- `StorageLayout.resolve(relativePath:)`. -/
def resolve (relativePath : String) : SnapshotM Path :=
  if isManagedPath relativePath then pure (components relativePath)
  else throw .invalidRelativePath

def snapshotsDirectory (machineID : UUID) : Path := machinePath machineID ++ ["Snapshots"]

def metadataPath (machineID : UUID) : Path := snapshotsDirectory machineID ++ ["snapshots.json"]

def list (machineID : UUID) : SnapshotM (List MachineSnapshot) := do
  let t ← Failing.getState
  if (t (metadataPath machineID)).isNone then pure []
  else
    attempt faults .readMetadata id
    match t (metadataPath machineID) with
    | some (.file (.metadata snapshots)) => pure snapshots
    | _ => throw (.io "The snapshots cannot be decoded.")

def save (snapshots : List MachineSnapshot) (machineID : UUID) : SnapshotM Unit := do
  createDirectory faults .createMetadataDirectory (snapshotsDirectory machineID)
  attempt faults .writeMetadata fun t => t.write (metadataPath machineID) (.metadata snapshots)

def stateFileNames : List String := ["efi-code.fd", "efi-vars.fd", "tpm-state"]

/-- One round of the loop in `cloneWindowsState`. -/
def cloneStateFile (source destination : Path) (fileName : String) : SnapshotM Unit := do
  let t ← Failing.getState
  if (t (source ++ ["QEMU", fileName])).isSome then
    createDirectory faults (.createQEMUDirectory fileName) (destination ++ ["QEMU"])
    clone faults fileName (source ++ ["QEMU", fileName]) (destination ++ ["QEMU", fileName])
  else pure ()

def cloneStateFiles (source destination : Path) : List String → SnapshotM Unit
  | [] => pure ()
  | fileName :: rest => do
    cloneStateFile faults source destination fileName
    cloneStateFiles source destination rest

def cloneWindowsState (source destination : Path) : SnapshotM Unit := do
  createDirectory faults .createStateDirectory destination
  clone faults "disk.raw" (source ++ ["disk.raw"]) (destination ++ ["disk.raw"])
  cloneStateFiles faults source destination stateFileNames

/-- Where `create` keeps a Windows snapshot. -/
def snapshotRoot (machineID snapshotID : UUID) : Path :=
  snapshotsDirectory machineID ++ [uuidString snapshotID]

def snapshotState (machineID snapshotID : UUID) : Path :=
  snapshotRoot machineID snapshotID ++ ["State"]

/-- Where `create` keeps the disk of a Linux snapshot. -/
def snapshotDisk (machineID snapshotID : UUID) : Path :=
  snapshotsDirectory machineID ++ [uuidString snapshotID ++ ".raw"]

/-- The copies that `create` makes of the files of a Windows machine. -/
def copyState (machineID snapshotID : UUID) (source : Path) : SnapshotM Unit :=
  tryCatch (cloneWindowsState faults source.dropLast (snapshotState machineID snapshotID))
    fun error => do
      Failing.ignoring (removeItem faults .discardSnapshot (snapshotRoot machineID snapshotID))
      throw error

def copyFiles (machine : Machine) (snapshotID : UUID) (source : Path) : SnapshotM Unit :=
  match machine.spec.operatingSystem with
  | .windows => copyState faults machine.id snapshotID source
  | .linux => clone faults "disk.raw" source (snapshotDisk machine.id snapshotID)

/-- The record of a snapshot. -/
def snapshotOf (machine : Machine) (name : String) (snapshotID : UUID) : MachineSnapshot :=
  match machine.spec.operatingSystem with
  | .windows =>
    { id := snapshotID
      name := name
      diskRelativePath := relativePath (snapshotState machine.id snapshotID ++ ["disk.raw"])
      stateDirectoryRelativePath := some (relativePath (snapshotState machine.id snapshotID)) }
  | .linux =>
    { id := snapshotID
      name := name
      diskRelativePath := relativePath (snapshotDisk machine.id snapshotID) }

def create (machine : Machine) (name : String) (snapshotID : UUID) :
    SnapshotM MachineSnapshot := do
  let source ← resolve machine.disk.relativePath
  createDirectory faults .createSnapshotsDirectory (snapshotsDirectory machine.id)
  copyFiles faults machine snapshotID source
  let snapshots ← list faults machine.id
  save faults (snapshots ++ [snapshotOf machine name snapshotID]) machine.id
  pure (snapshotOf machine name snapshotID)

/-- `appendingPathExtension("restore")`. -/
def replacementPath (disk : Path) : Path :=
  disk.dropLast ++ [disk.getLast?.getD "" ++ ".restore"]

def restoreLegacyDisk (snapshot : MachineSnapshot) (machine : Machine) : SnapshotM Unit := do
  let source ← resolve snapshot.diskRelativePath
  let disk ← resolve machine.disk.relativePath
  removeIfPresent faults .removeOldReplacement (replacementPath disk)
  clone faults "disk.raw" source (replacementPath disk)
  attempt faults .replaceItem fun t => t.replace disk (replacementPath disk)

/-- `renamex_np` with `RENAME_SWAP`, which needs both. -/
def swapItems (first second : Path) : SnapshotM Unit := do
  let t ← Failing.getState
  if (t first).isNone || (t second).isNone then throw (.io "There is nothing to swap.")
  attempt faults .swap fun t => t.swap first second

/-- The directory holding the disk is an atomic generation. -/
def isCurrentState (currentState : Path) : Bool :=
  decide (currentState.getLast? = some "current") &&
    decide (currentState.dropLast.getLast? = some "State")

def stagedPath (currentState : Path) (stagedID : UUID) : Path :=
  currentState.dropLast ++ [".restore-" ++ uuidString stagedID]

/-- The body of `restoreWindowsState` with its clean-up. -/
def installState (source currentState staged : Path) : SnapshotM Unit :=
  tryCatch
    (do
      cloneWindowsState faults source staged
      swapItems faults currentState staged
      removeItem faults .removeStaged staged)
    fun error => do
      let t ← Failing.getState
      if (t staged).isSome then Failing.ignoring (removeItem faults .discardStaged staged)
      throw error

def restoreWindowsState (source : Path) (machine : Machine) (stagedID : UUID) :
    SnapshotM Unit := do
  let disk ← resolve machine.disk.relativePath
  if isCurrentState disk.dropLast = false then throw .invalidWindowsState
  removeIfPresent faults .removeOldStaged (stagedPath disk.dropLast stagedID)
  installState faults source disk.dropLast (stagedPath disk.dropLast stagedID)

def restore (snapshot : MachineSnapshot) (machine : Machine) (stagedID : UUID) :
    SnapshotM Unit :=
  match machine.spec.operatingSystem, snapshot.stateDirectoryRelativePath with
  | .windows, some relativeStatePath => do
    let source ← resolve relativeStatePath
    restoreWindowsState faults source machine stagedID
  | _, _ => restoreLegacyDisk faults snapshot machine

/-- What `delete` removes for a snapshot. -/
def removeFiles (snapshot : MachineSnapshot) : SnapshotM Unit :=
  match snapshot.stateDirectoryRelativePath with
  | some relativeStatePath => do
    let state ← resolve relativeStatePath
    removeIfPresent faults .removeSnapshot state.dropLast
  | none => do
    let disk ← resolve snapshot.diskRelativePath
    removeIfPresent faults .removeSnapshot disk

def delete (snapshot : MachineSnapshot) (machineID : UUID) : SnapshotM Unit := do
  removeFiles faults snapshot
  let snapshots ← list faults machineID
  save faults (snapshots.filter fun other => other.id ≠ snapshot.id) machineID

end Steps

section Success

variable {faults : SnapshotFaults} {step : SnapshotStep} {t u : FileTree} {x : Unit}

@[simp] theorem attempt_eq_ok {change : FileTree → FileTree} :
    attempt faults step change t = (.ok x, u) ↔ faults step = none ∧ u = change t := by
  unfold attempt
  cases faults step <;> simp [eq_comm]

theorem createDirectory_ok {p : Path} (run : createDirectory faults step p t = (.ok x, u)) :
    u = t.makeDirectory p := by
  simp only [createDirectory, Failing.bind_eq_ok, Failing.getState_eq_ok] at run
  obtain ⟨_, _, ⟨rfl, rfl⟩, run⟩ := run
  split at run
  · simp [Failing.bind_eq_ok] at run
  · exact (attempt_eq_ok.mp run).2

theorem removeItem_ok {p : Path} (run : removeItem faults step p t = (.ok x, u)) :
    u = t.remove p := by
  unfold removeItem at run
  split at run
  · cases run
  · cases fault : faults step with
    | none =>
      rw [fault] at run
      cases run
      rfl
    | some fault' =>
      rw [fault] at run
      cases run

theorem removeIfPresent_ok {p : Path} (run : removeIfPresent faults step p t = (.ok x, u)) :
    u = t.remove p ∧ (t p).isSome ∨ u = t ∧ t p = none := by
  simp only [removeIfPresent, Failing.bind_eq_ok, Failing.getState_eq_ok] at run
  obtain ⟨_, _, ⟨rfl, rfl⟩, run⟩ := run
  split at run
  · rename_i present
    exact .inl ⟨removeItem_ok run, present⟩
  · rename_i absent
    rw [Failing.pure_eq_ok] at run
    exact .inr ⟨run.2, by simpa using absent⟩

theorem clone_ok {fileName : String} {source destination : Path}
    (run : clone faults fileName source destination t = (.ok x, u)) :
    (t.makeDirectory destination.dropLast source).isSome ∧
      t.makeDirectory destination.dropLast destination = none ∧
      u = (t.makeDirectory destination.dropLast).copy source destination := by
  simp only [clone, Failing.bind_eq_ok, Failing.getState_eq_ok] at run
  obtain ⟨_, made, created, _, _, ⟨rfl, rfl⟩, run⟩ := run
  have same := createDirectory_ok created
  subst same
  split at run
  · simp [Failing.bind_eq_ok] at run
  · rename_i possible
    simp only [attempt_eq_ok] at run
    simp only [Bool.or_eq_true, not_or, Option.isNone_iff_eq_none, Option.isSome_iff_ne_none,
      ne_eq, Decidable.not_not] at possible
    exact ⟨Option.isSome_iff_ne_none.mpr possible.1, possible.2, run.2⟩

theorem resolve_ok {relativePath : String} {path : Path}
    (run : resolve relativePath t = (.ok path, u)) : path = components relativePath ∧ u = t := by
  unfold resolve at run
  split at run
  · exact Failing.pure_eq_ok.mp run
  · simp at run

/-- The list that `snapshots.json` holds, if it can be read. -/
def listed (t : FileTree) (machineID : UUID) : Option (List MachineSnapshot) :=
  match t (metadataPath machineID) with
  | none => some []
  | some (.file (.metadata snapshots)) => some snapshots
  | some _ => none

theorem list_ok {machineID : UUID} {snapshots : List MachineSnapshot}
    (run : list faults machineID t = (.ok snapshots, u)) :
    listed t machineID = some snapshots ∧ u = t := by
  simp only [list, Failing.bind_eq_ok, Failing.getState_eq_ok] at run
  obtain ⟨tree, other, ⟨isTree, isOther⟩, run⟩ := run
  rw [isTree, isOther] at run
  unfold listed
  cases found : t (metadataPath machineID) with
  | none =>
    simp only [found, Option.isNone_none, if_true, Failing.pure_eq_ok] at run
    exact ⟨by rw [run.1], run.2⟩
  | some node =>
    simp only [found, Option.isNone_some, Bool.false_eq_true, if_false, Failing.bind_eq_ok,
      attempt_eq_ok] at run
    obtain ⟨_, _, ⟨_, rfl⟩, run⟩ := run
    cases node with
    | directory => simp at run
    | file contents =>
      cases contents with
      | data bytes => simp at run
      | metadata held =>
        rw [Failing.pure_eq_ok] at run
        exact ⟨by rw [run.1], run.2⟩

theorem save_ok {snapshots : List MachineSnapshot} {machineID : UUID}
    (run : save faults snapshots machineID t = (.ok x, u)) :
    u = (t.makeDirectory (snapshotsDirectory machineID)).write (metadataPath machineID)
      (.metadata snapshots) := by
  simp only [save, Failing.bind_eq_ok, attempt_eq_ok] at run
  obtain ⟨_, _, created, _, rfl⟩ := run
  rw [createDirectory_ok created]

end Success

end SnapshotStore

end SimpleVM.Storage
