import SimpleVM.App.Library
import SimpleVM.Storage.LibraryStore

/-!
# Calls in flight

`AppModel` and `ImageLibraryModel` run on the main actor, and a call gives way to others
wherever it awaits. A suspended call holds the work it awaits and what it does with the answer;
a session holds the calls in flight next to the state they share.
-/
namespace SimpleVM.App

open Domain Effects Storage

structure ImageCatalogEntry where
  id : String
  name : String
  version : Option String := none
  operatingSystem : GuestOperatingSystem := .linux
  architecture : GuestArchitecture
  artifactKind : ImageArtifactKind
  remoteURL : String
  sha256 : String
  sizeBytes : Int64
deriving DecidableEq, Repr

/-- The machine that the environment of a UI test asks `initialize` for. -/
structure Fixture where
  env : Environment
  operatingSystem : GuestOperatingSystem
  sharePath : String

inductive MachineCreationSource
  | managedImage
  | catalogEntry (id : String)
deriving DecidableEq, Repr

/-- An edit of one setting of a machine, with the value it gets. -/
inductive Setting
  | inputProfile (profile : MachineInputProfile)
  | customInputProfile (id : UUID) (baseProfile : MachineInputProfile)
  | sharedDirectory (path : Option String)
  | windowsSupportToolsAttached (attached : Bool)
  | displayMode (mode : MachineDisplayMode)
deriving DecidableEq, Repr

/-- Why awaited work throws. `URLError.cancelled` is told apart. -/
inductive Failure
  | error (error : LibraryError)
  | cancelled
deriving DecidableEq, Repr

def Failure.localizedDescription : Failure → String
  | .error e => e.localizedDescription
  | .cancelled => "cancelled"

inductive Answer
  | returns
  | loaded (snapshot : LibrarySnapshot)
  | files (disk : MachineDisk) (backendState : BackendStateReference)
  | capacity (bytes : UInt64)
  | location (location : Location)
deriving DecidableEq, Repr

abbrev Response := Except Failure Answer

/-- What a suspended call awaits: a turn of one of the stores, the start of a task, or
something outside managed storage. -/
inductive Work
  | load
  | save (snapshot : LibrarySnapshot)
  | removeOrphanedMachines (referencedIDs : List UUID)
  | removeOrphanedImages (referencedIDs : List UUID)
  | createFiles (machineID diskID : UUID) (diskCapacityBytes : UInt64)
    (backend : VirtualizationBackendKind) (operatingSystem : GuestOperatingSystem)
    (baseDisk : Option String)
  | provisionDisk (env : Environment) (draft : MachineDraft) (image : MachineImage)
    (backend : VirtualizationBackendKind) (bootProfiles : List LinuxBootProfile)
    (capacityBytes : UInt64)
  | cloneFiles (source : Machine) (destinationID diskID : UUID)
  | removeMachine (id : UUID)
  | resolveFiles (machine : Machine)
  | importFile (source : SourceFile) (imageID : UUID)
  | destinationURL (imageID : UUID) (fileExtension : String)
  | removeImage (id : UUID)
  | task
  | outside

/-- The answer of a store as that of the awaiting call. -/
def answered {α : Type} (answer : α → Answer) (result : Except StorageError α × Volume) :
    Response × Volume :=
  match result with
  | (.ok a, v) => (.ok (answer a), v)
  | (.error e, v) => (.error (.error (.storage e)), v)

/-- The work is done; `outside` is the answer to what is no matter of storage. -/
def perform (faults : Faults) (outside : Response) (v : Volume) : Work → Response × Volume
  | .load => answered .loaded (Storage.load faults v)
  | .save snapshot => answered (fun _ => .returns) (Storage.save faults snapshot v)
  | .removeOrphanedMachines ids =>
    answered (fun _ => .returns) (Storage.removeOrphanedMachines faults ids v)
  | .removeOrphanedImages ids =>
    answered (fun _ => .returns) (Storage.removeOrphanedImages faults ids v)
  | .createFiles machineID diskID capacity backend operatingSystem baseDisk =>
    answered (fun files => .files files.1 files.2)
      (Storage.createFiles faults machineID diskID capacity backend operatingSystem baseDisk v)
  | .provisionDisk env draft image backend bootProfiles capacity =>
    let lib : Library := { app := { machines := [] }, bootProfiles := bootProfiles, volume := v }
    match provisionedCapacity { env with faults := faults } draft image backend capacity lib with
    | (.ok bytes, lib) => (.ok (.capacity bytes), lib.volume)
    | (.error e, lib) => (.error (.error e), lib.volume)
  | .cloneFiles source destinationID diskID =>
    answered (fun files => .files files.1 files.2)
      (Storage.cloneFiles faults source destinationID diskID v)
  | .removeMachine id => answered (fun _ => .returns) (Storage.removeMachine faults id v)
  | .resolveFiles machine => answered (fun _ => .returns) (Storage.resolveFiles machine v)
  | .importFile source imageID => answered .location (Storage.importFile faults source imageID v)
  | .destinationURL imageID fileExtension =>
    answered .location (Storage.destinationURL faults imageID fileExtension v)
  | .removeImage id => answered (fun _ => .returns) (Storage.removeImage faults id v)
  | .task => (.ok .returns, v)
  | .outside => (outside, v)

/-- What a call does next, with the values it has kept. -/
inductive Next
  -- `initialize`
  | libraryLoaded (fixture : Option Fixture)
  | machinesCleaned (fixture : Option Fixture) (snapshot : LibrarySnapshot)
  | fixtureCreated (fixture : Fixture) (snapshot : LibrarySnapshot)
  | snapshotsListed (snapshot : LibrarySnapshot) (machines : List Machine)
  | imagesCleaned (snapshot : LibrarySnapshot) (machines : List Machine)
  | toolsChecked (snapshot : LibrarySnapshot) (machines : List Machine)
  | restorationSaved
  -- `createMachine`
  | toolsPrepared (env : Environment) (draft : MachineDraft) (image : MachineImage)
  | filesCreated (env : Environment) (draft : MachineDraft) (image : MachineImage)
    (backend : VirtualizationBackendKind)
  | diskProvisioned (env : Environment) (draft : MachineDraft) (image : MachineImage)
    (backend : VirtualizationBackendKind) (disk : MachineDisk)
    (backendState : BackendStateReference)
  | machineSaved (machineID : UUID)
  | machineDiscarded
  -- `cloneMachine`, `deleteMachine`, `ejectInstaller`
  | filesCloned (env : Environment) (machine : Machine)
  | cloneSaved (cloneID : UUID)
  | cloneDiscarded (failure : Failure)
  | machineRemoved (machine : Machine)
  | deletionSaved
  | ejectionSaved
  -- settings
  | settingPrepared (setting : Setting) (machine : Machine) (index : Nat) (previous : MachineSpec)
  | settingSaved (setting : Setting) (machine : Machine) (index : Nat) (previous : MachineSpec)
  | profileRemoved (id : UUID) (previous : List Machine)
  -- `start`, `record` and exports
  | filesResolved (machine : Machine)
  | startPrepared (machine : Machine)
  | started (machine : Machine)
  | recordBegun
  | recordSaved
  | diskExported (machineID : UUID)
  | imageExported (imageID : UUID)
  -- `importImage` and `addOCIReference`
  | fileImported (env : Environment) (source : SourceFile) (operatingSystem : GuestOperatingSystem)
    (architecture : GuestArchitecture) (artifactKind : ImageArtifactKind)
  | fileDigested (env : Environment) (source : SourceFile) (operatingSystem : GuestOperatingSystem)
    (architecture : GuestArchitecture) (artifactKind : ImageArtifactKind) (destination : Location)
  | importSaved (imageID : UUID)
  | importDiscarded
  | referenceSaved
  -- the task of a download
  | downloadBegun (entry : ImageCatalogEntry) (imageID : UUID) (task : Nat)
  | downloadListed (imageID : UUID) (task : Nat)
  | destinationMade (imageID : UUID) (task : Nat)
  | downloaded (imageID : UUID) (task : Nat) (destination : Location)
  | downloadSaved (imageID : UUID) (task : Nat)
  | failureSaved (imageID : UUID) (task : Nat) (failure : Failure)
  | cancelledFilesRemoved (imageID : UUID) (task : Nat)
  | cancellationSaved (imageID : UUID) (task : Nat)
  -- `retryDownload` and `removeImage`
  | retryFilesRemoved (entry : ImageCatalogEntry) (imageID : UUID)
  | retrySaved (entry : ImageCatalogEntry) (imageID : UUID)
  | imageFilesRemoved (imageID : UUID)
  | removalSaved

/-- A call in flight. It can go on once the work has been answered. -/
structure Call where
  work : Work
  next : Next
  response : Option Response := none

/-- The state that calls share, and the calls, the one suspended last first. The tasks of
downloads are numbered. `trapped` says that an index was out of range. -/
structure Session where
  initialized : Bool := false
  app : AppModel := { machines := [] }
  images : List MachineImage := []
  catalog : List ImageCatalogEntry := []
  bootProfiles : List LinuxBootProfile := []
  bundled : Option (List ImageCatalogEntry × List LinuxBootProfile) := some ([], [])
  exportingImageIDs : List UUID := []
  downloads : UUID → Option Nat := fun _ => none
  tasks : Nat := 0
  cancelledTasks : List Nat := []
  runtimeSharedDirectories : List (UUID × Option String) := []
  volume : Volume := {}
  calls : List Call := []
  trapped : Bool := false

namespace Session

def present (s : Session) (message : String) : Session := { s with app := s.app.present message }

def refuse (s : Session) (error : AppModelError) : Session := s.present error.errorDescription

def withMachines (s : Session) (machines : List Machine) : Session :=
  { s with app := { s.app with machines := machines } }

def updateMachine (s : Session) (id : UUID) (mutation : Machine → Machine) : Session :=
  s.withMachines (App.updateMachine id mutation s.app.machines)

def updateMachinesForImage (s : Session) (id : UUID) (mutation : Machine → Machine) : Session :=
  s.withMachines (s.app.machines.map fun m => if m.sourceImageID = id then mutation m else m)

/-- `updateImage(id:mutation:)` of a list. -/
def updateFirst (id : UUID) (mutation : MachineImage → MachineImage) :
    List MachineImage → List MachineImage
  | [] => []
  | image :: rest =>
    if image.id = id then mutation image :: rest else image :: updateFirst id mutation rest

def updateImage (s : Session) (id : UUID) (mutation : MachineImage → MachineImage) : Session :=
  { s with images := updateFirst id mutation s.images }

/-- What a write to `machines[index].spec` does. -/
def setSpec (s : Session) (index : Nat) (mutation : MachineSpec → MachineSpec) : Session :=
  match s.app.machines[index]? with
  | none => { s with trapped := true }
  | some m => s.withMachines (s.app.machines.set index { m with spec := mutation m.spec })

def suspend (s : Session) (work : Work) (next : Next) : Session :=
  { s with calls := ⟨work, next, none⟩ :: s.calls }

/-- The lists as `persist` captures them. -/
def snapshot (s : Session) : LibrarySnapshot where
  machines := s.app.machines
  images := s.images

/-- `persist`, which throws at once while there is no store. -/
def persist (s : Session) (next : Next) (refused : Session → Session) : Session :=
  if s.initialized then s.suspend (.save s.snapshot) next else refused s

/-- What follows `ensureMachineIdle(machine)` if it returns true. -/
def whenIdle (s : Session) (machine : Machine) (go : Session → Session) : Session :=
  match s.app.ensureMachineIdle machine with
  | none => go { s with app := s.app.withRuntime machine }
  | some .machineMustBeStopped =>
    ({ s with app := s.app.withRuntime machine } : Session).refuse .machineMustBeStopped
  | some error => s.refuse error

def endStart (s : Session) (id : UUID) : Session := { s with app := s.app.endStart id }

/-- `record(runtimeState:machineID:)` after a transition of the runtime. -/
def record (s : Session) (id : UUID) (state : MachineRuntimeState) : Session :=
  ({ s with app := s.app.transition id state } : Session).suspend .task .recordBegun

def image (s : Session) (id : UUID) : Option MachineImage :=
  s.images.find? fun image => image.id = id

section Fields

variable (s : Session) (message : String) (machines : List Machine) (work : Work) (next : Next)

@[simp] theorem present_machines : (s.present message).app.machines = s.app.machines := rfl
@[simp] theorem present_images : (s.present message).images = s.images := rfl
@[simp] theorem present_calls : (s.present message).calls = s.calls := rfl
@[simp] theorem present_trapped : (s.present message).trapped = s.trapped := rfl
@[simp] theorem refuse_machines (error : AppModelError) :
    (s.refuse error).app.machines = s.app.machines := rfl
@[simp] theorem refuse_images (error : AppModelError) : (s.refuse error).images = s.images := rfl
@[simp] theorem refuse_calls (error : AppModelError) : (s.refuse error).calls = s.calls := rfl
@[simp] theorem refuse_trapped (error : AppModelError) : (s.refuse error).trapped = s.trapped := rfl
@[simp] theorem withMachines_images : (s.withMachines machines).images = s.images := rfl
@[simp] theorem withMachines_calls : (s.withMachines machines).calls = s.calls := rfl
@[simp] theorem suspend_machines : (s.suspend work next).app.machines = s.app.machines := rfl
@[simp] theorem suspend_images : (s.suspend work next).images = s.images := rfl
@[simp] theorem suspend_trapped : (s.suspend work next).trapped = s.trapped := rfl
@[simp] theorem suspend_calls : (s.suspend work next).calls = ⟨work, next, none⟩ :: s.calls := rfl

end Fields

end Session

end SimpleVM.App
