import SimpleVM.App.ImageCalls

/-!
# The calls of the app model

`AppModel`, each function cut at its awaits. An error that is thrown to the caller ends the
call; an error that is presented is recorded.
-/
namespace SimpleVM.App.Session

open Domain Effects Storage

section Initialize

/-- `initialize`. -/
def initializeModel (s : Session) (fixture : Option Fixture) : Session :=
  if s.initialized then s
  else ({ s with app := { s.app with errorMessage := none } } : Session).suspend .load
    (.libraryLoaded fixture)

def libraryLoaded (s : Session) (fixture : Option Fixture) : Response → Session
  | .ok (.loaded snapshot) =>
    s.suspend (.removeOrphanedMachines (snapshot.machines.map fun m => m.id))
      (.machinesCleaned fixture snapshot)
  | .ok _ => s
  | .error failure => s.present failure.localizedDescription

/-- No machine runs when the app starts. -/
def restoredMachines (snapshot : LibrarySnapshot) : List Machine :=
  snapshot.machines.map fun m => { m with runtimeState := m.runtimeState.restored }

def cleanImages (s : Session) (snapshot : LibrarySnapshot) (machines : List Machine) : Session :=
  s.suspend (.removeOrphanedImages (snapshot.images.map fun image => image.id))
    (.imagesCleaned snapshot machines)

/-- The snapshots of every machine are listed, which is no await if there is none. -/
def listSnapshots (s : Session) (snapshot : LibrarySnapshot) (machines : List Machine) : Session :=
  if machines.isEmpty then s.cleanImages snapshot machines
  else s.suspend .outside (.snapshotsListed snapshot machines)

def fixtureBackend : GuestOperatingSystem → VirtualizationBackendKind
  | .linux => .appleVirtualization
  | .windows => .qemu

def machinesCleaned (s : Session) (fixture : Option Fixture) (snapshot : LibrarySnapshot) :
    Response → Session
  | .ok _ =>
    match fixture, snapshot.machines with
    | some fixture, [] =>
      s.suspend (.createFiles fixture.env.machineID fixture.env.diskID 1048576
        (fixtureBackend fixture.operatingSystem) fixture.operatingSystem none)
        (.fixtureCreated fixture snapshot)
    | _, _ => s.listSnapshots snapshot (restoredMachines snapshot)
  | .error failure => s.present failure.localizedDescription

/-- The machine of a UI test. -/
def fixtureMachine (fixture : Fixture) (disk : MachineDisk)
    (backendState : BackendStateReference) : Machine where
  id := fixture.env.machineID
  name := match fixture.operatingSystem with
    | .linux => "Guest Tools Fixture"
    | .windows => "Windows 11 Fixture"
  spec := match fixture.operatingSystem with
    | .linux => { cpuCount := 2, memorySizeBytes := 2147483648, diskSizeBytes := disk.capacityBytes,
                  architecture := .arm64, sharedDirectoryPath := some fixture.sharePath }
    | .windows => { cpuCount := 4, memorySizeBytes := 8589934592,
                    diskSizeBytes := disk.capacityBytes, architecture := .arm64,
                    operatingSystem := .windows,
                    qemuHardwareProfile := some (.windowsARM64 fixture.env.hardwareUUID) }
  sourceImageID := fixture.env.imageID
  disk := disk
  provisioningState := .ready
  bootMedia := .systemDisk
  backend := fixtureBackend fixture.operatingSystem
  backendState := backendState
  createdAt := fixture.env.now

def fixtureCreated (s : Session) (fixture : Fixture) (snapshot : LibrarySnapshot) :
    Response → Session
  | .ok (.files disk backendState) =>
    s.listSnapshots snapshot [fixtureMachine fixture disk backendState]
  | .ok _ => s
  | .error failure => s.present failure.localizedDescription

def snapshotsListed (s : Session) (snapshot : LibrarySnapshot) (machines : List Machine) :
    Response → Session
  | .ok _ => s.cleanImages snapshot machines
  | .error failure => s.present failure.localizedDescription

def isInterruptedTransfer : ImageAvailability → Bool
  | .downloading _ | .verifying => true
  | _ => false

def restoredImages (snapshot : LibrarySnapshot) : List MachineImage :=
  snapshot.images.map fun image =>
    if isInterruptedTransfer image.availability then
      { image with availability := .failed "The transfer was interrupted. Retry the download." }
    else image

def isInterrupted : MachineProvisioningState → Bool
  | .downloading _ | .verifying | .preparingDisk => true
  | _ => false

/-- A machine whose provisioning was interrupted follows its image. -/
def settled (images : List MachineImage) (m : Machine) : Machine :=
  if isInterrupted m.provisioningState then
    { m with provisioningState :=
        match images.find? fun image => image.id = m.sourceImageID with
        | some image => image.availability.provisioningState
        | none => .failed "The machine’s source image is missing." }
  else m

/-- `library.restore` and the assignments after it. -/
def imagesCleaned (s : Session) (snapshot : LibrarySnapshot) (machines : List Machine) :
    Response → Session
  | .ok _ =>
    match s.bundled with
    | none => s.present "The bundled catalogs cannot be read."
    | some (catalog, bootProfiles) =>
      let machines := machines.map (settled (restoredImages snapshot))
      ({ s.withMachines machines with
        initialized := true
        images := restoredImages snapshot
        catalog := catalog
        bootProfiles := bootProfiles } : Session).suspend .outside (.toolsChecked snapshot machines)
  | .error failure => s.present failure.localizedDescription

def toolsChecked (s : Session) (snapshot : LibrarySnapshot) (machines : List Machine) : Session :=
  if s.images ≠ snapshot.images ∨ machines ≠ snapshot.machines then
    s.persist .restorationSaved fun s => s.refuse .notInitialized
  else s

/-- What a call ends with that presents its errors. -/
def ended (s : Session) : Response → Session
  | .ok _ => s
  | .error failure => s.present failure.localizedDescription

end Initialize

section Create

/-- The checks of `createMachine` up to the choice of an image. -/
def draftIsValid (s : Session) (env : Environment) (draft : MachineDraft) : Bool :=
  s.initialized && decide (trimmed draft.name ≠ "") &&
    decide (env.minimumAllowedCPUCount ≤ draft.cpuCount ∧
      draft.cpuCount ≤ env.maximumAllowedCPUCount) &&
    decide (env.minimumAllowedMemorySize ≤ draft.memorySizeBytes ∧
      draft.memorySizeBytes ≤ env.maximumAllowedMemorySize) &&
    draft.portForwards.all PortForward.isValid

def suitsDraft (draft : MachineDraft) (image : MachineImage) : Bool :=
  decide (image.operatingSystem ≠ .windows) ||
    (decide (image.artifactKind = .installerISO) && windowsRequirementsMet draft)

/-- The backend of the new machine, if it can have one. -/
def backendFor (draft : MachineDraft) (image : MachineImage) : Option VirtualizationBackendKind :=
  match VirtualizationBackendKind.resolve image.operatingSystem image.architecture with
  | none => none
  | some backend =>
    if draft.rosettaEnabled = false ∨ (image.operatingSystem = .linux ∧
        image.architecture = .arm64 ∧ backend = .appleVirtualization) then some backend
    else none

/-- The base disk of the new machine, unless `availableURL(layout:)` throws. -/
def baseDiskOf (image : MachineImage) : Option (Option String) :=
  if image.artifactKind = .preinstalledDisk then
    match image.availability with
    | .available relativePath =>
      if isManagedPath relativePath then some (some relativePath) else none
    | _ => none
  else some none

/-- `createMachine` once the support tools are there. -/
def createFiles (s : Session) (env : Environment) (draft : MachineDraft) (image : MachineImage) :
    Session :=
  match backendFor draft image, baseDiskOf image with
  | some backend, some baseDisk =>
    s.suspend (.createFiles env.machineID env.diskID draft.diskSizeBytes backend
      image.operatingSystem baseDisk) (.filesCreated env draft image backend)
  | _, _ => s

/-- `createMachine` for the image that has been chosen. -/
def createFromImage (s : Session) (env : Environment) (draft : MachineDraft) : Session :=
  match s.image draft.imageID with
  | none => s
  | some image =>
    if suitsDraft draft image then
      if image.operatingSystem = .windows ∧ draft.windowsSupportToolsAttached = true then
        s.suspend .outside (.toolsPrepared env draft image)
      else s.createFiles env draft image
    else s

def createMachine (s : Session) (env : Environment) (draft : MachineDraft) :
    MachineCreationSource → Session
  | .managedImage => if s.draftIsValid env draft then s.createFromImage env draft else s
  | .catalogEntry id =>
    if s.draftIsValid env draft then
      match s.catalog.find? fun entry => entry.id = id with
      | none => s
      | some entry =>
        match s.download entry env.imageID with
        | (s, some imageID) => s.createFromImage env { draft with imageID := imageID }
        | (s, none) => s
    else s

def toolsPrepared (s : Session) (env : Environment) (draft : MachineDraft)
    (image : MachineImage) : Response → Session
  | .ok _ => s.createFiles env draft image
  | .error _ => s

/-- The catch block of `createMachine`. -/
def discardMachine (s : Session) (machineID : UUID) : Session :=
  (s.withMachines (s.app.machines.filter fun m => m.id ≠ machineID)).suspend
    (.removeMachine machineID) .machineDiscarded

def appendMachine (s : Session) (env : Environment) (draft : MachineDraft) (image : MachineImage)
    (backend : VirtualizationBackendKind) (disk : MachineDisk)
    (backendState : BackendStateReference) : Session :=
  (s.withMachines (s.app.machines ++ [newMachine env draft image backend disk backendState])).persist
    (.machineSaved env.machineID) fun s => s.discardMachine env.machineID

def filesCreated (s : Session) (env : Environment) (draft : MachineDraft) (image : MachineImage)
    (backend : VirtualizationBackendKind) : Response → Session
  | .ok (.files disk backendState) =>
    if image.artifactKind = .rootfsArchive ∨ image.artifactKind = .ociReference then
      s.suspend (.provisionDisk env draft image backend s.bootProfiles disk.capacityBytes)
        (.diskProvisioned env draft image backend disk backendState)
    else s.appendMachine env draft image backend disk backendState
  | _ => s

def diskProvisioned (s : Session) (env : Environment) (draft : MachineDraft)
    (image : MachineImage) (backend : VirtualizationBackendKind) (disk : MachineDisk)
    (backendState : BackendStateReference) : Response → Session
  | .ok (.capacity bytes) =>
    s.appendMachine env draft image backend { disk with capacityBytes := bytes } backendState
  | _ => s.discardMachine env.machineID

def machineSaved (s : Session) (machineID : UUID) : Response → Session
  | .ok _ => s
  | .error _ => s.discardMachine machineID

end Create

section Machines

def cloneMachine (s : Session) (env : Environment) (machine : Machine) : Session :=
  if s.initialized then
    s.whenIdle machine fun s =>
      s.suspend (.cloneFiles machine env.machineID env.diskID) (.filesCloned env machine)
  else s.refuse .notInitialized

/-- The catch block of `cloneMachine`, which leaves the list alone. -/
def discardClone (s : Session) (cloneID : UUID) (failure : Failure) : Session :=
  s.suspend (.removeMachine cloneID) (.cloneDiscarded failure)

def filesCloned (s : Session) (env : Environment) (machine : Machine) : Response → Session
  | .ok (.files disk backendState) =>
    (s.withMachines (s.app.machines ++
      [machine.cloned env.machineID env.hardwareUUID disk backendState env.now])).persist
      (.cloneSaved env.machineID) fun s =>
        s.discardClone env.machineID (.error (.app .notInitialized))
  | .ok _ => s
  | .error failure => s.discardClone env.machineID failure

def cloneSaved (s : Session) (cloneID : UUID) : Response → Session
  | .ok _ => s
  | .error failure => s.discardClone cloneID failure

def deleteMachine (s : Session) (machine : Machine) : Session :=
  if s.initialized then
    s.whenIdle machine fun s => s.suspend (.removeMachine machine.id) (.machineRemoved machine)
  else s.refuse .notInitialized

def machineRemoved (s : Session) (machine : Machine) : Response → Session
  | .ok _ =>
    ({ s with app := { s.app with
        machines := s.app.machines.filter fun m => m.id ≠ machine.id
        runtimes := fun other => if other = machine.id then none else s.app.runtimes other } } :
      Session).persist .deletionSaved fun s => s.refuse .notInitialized
  | .error failure => s.present failure.localizedDescription

def ejectInstaller (s : Session) (machine : Machine) : Session :=
  if machine.id ∈ s.app.startingMachineIDs then s.refuse .machineStartInProgress
  else
    let known : Session := { s with app := s.app.withRuntime machine }
    if s.app.runtime machine = .stopped then
      (known.updateMachine machine.id fun m =>
        { m with bootMedia := .systemDisk, provisioningState := .ready }).persist .ejectionSaved id
    else known.refuse .machineMustBeStopped

/-- `start` up to the answer of the machine store. -/
def start (s : Session) (machine : Machine) : Session :=
  if s.initialized = false then s.refuse .notInitialized
  else match s.app.ensureStartable machine with
    | some error => s.refuse error
    | none =>
      ({ s with app := { s.app with
          startingMachineIDs := machine.id :: s.app.startingMachineIDs } } : Session).suspend
        (.resolveFiles machine) (.filesResolved machine)

/-- The installer of the machine can be found. -/
def installerIsAvailable (s : Session) : BootMedia → Bool
  | .systemDisk => true
  | .installer imageID =>
    match s.image imageID with
    | some image =>
      match image.availability with
      | .available relativePath => isManagedPath relativePath
      | _ => false
    | none => false

/-- `start` up to the runtime, which may wait for support tools or for Rosetta. -/
def filesResolved (s : Session) (machine : Machine) : Response → Session
  | .ok _ =>
    if s.installerIsAvailable machine.bootMedia then
      (if machine.provisioningState = .readyToInstall then
        s.updateMachine machine.id fun m => { m with provisioningState := .installing }
      else s).suspend .outside (.startPrepared machine)
    else (s.endStart machine.id).refuse .imageUnavailable
  | .error failure => (s.endStart machine.id).present failure.localizedDescription

/-- The runtime refuses a second start itself. -/
def startPrepared (s : Session) (machine : Machine) : Response → Session
  | .ok _ =>
    let s : Session := { s with app := s.app.withRuntime machine }
    if (s.app.runtime machine).canStart then
      (s.record machine.id .starting).suspend .outside (.started machine)
    else s.endStart machine.id
  | .error failure => (s.endStart machine.id).present failure.localizedDescription

/-- A runtime that exists changes its state, which its handler records. -/
def runtimeChanges (s : Session) (id : UUID) (state : MachineRuntimeState) : Session :=
  match s.app.runtimes id with
  | none => s
  | some _ => s.record id state

def exportMachineDisk (s : Session) (machine : Machine) : Session :=
  if s.initialized = false then s
  else match s.app.ensureExportable machine with
    | some _ => s
    | none =>
      ({ s with app := { s.app with
          exportingMachineIDs := machine.id :: s.app.exportingMachineIDs } } : Session).suspend
        .outside (.diskExported machine.id)

def diskExported (s : Session) (machineID : UUID) : Session :=
  { s with app := { s.app with
      exportingMachineIDs := s.app.exportingMachineIDs.filter fun other => other ≠ machineID } }

end Machines

end SimpleVM.App.Session
