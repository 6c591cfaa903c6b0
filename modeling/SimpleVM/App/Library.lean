import SimpleVM.App.Admission
import SimpleVM.Storage.ManagedImageStore
import SimpleVM.Storage.ManagedMachineStore

/-!
# Library operations

`AppModel` and its `ImageLibraryModel` as one state, and the operations that change what
they list. Every step outside the app may fail; an error that the app presents is also the
error of the model's operation.
-/
namespace SimpleVM.App

open Domain Effects Storage

/-- What the code outside the app decides: which steps fail, what tools and downloads write,
the host's limits, the time and the new identifiers. -/
structure Environment where
  faults : Faults
  output : Step → Data
  sha256 : Data → String
  minimumAllowedCPUCount : Int
  maximumAllowedCPUCount : Int
  minimumAllowedMemorySize : UInt64
  maximumAllowedMemorySize : UInt64
  now : Rat
  machineID : UUID
  diskID : UUID
  hardwareUUID : UUID
  imageID : UUID

inductive LibraryError
  | app (error : AppModelError)
  | storage (error : StorageError)
  | invalidCPUCount | invalidMemorySize | invalidPort | incompatibleArchitecture
  | unsupported (operatingSystem : GuestOperatingSystem) (architecture : GuestArchitecture)
deriving DecidableEq, Repr

def LibraryError.localizedDescription : LibraryError → String
  | .app error => error.errorDescription
  | .storage .missingDisk => "The machine’s virtual disk is missing."
  | .storage .invalidRelativePath => "The managed storage path is invalid."
  | .storage (.io message) => message
  | .invalidCPUCount => "The selected CPU count is outside the host-supported range."
  | .invalidMemorySize => "The selected memory size is outside the host-supported range."
  | .invalidPort => "Port numbers must be between 1 and 65535."
  | .incompatibleArchitecture => "The selected boot profile is incompatible with this image."
  | .unsupported operatingSystem architecture =>
    operatingSystem.displayName ++ " " ++ architecture.displayName ++ " is not supported."

structure LinuxBootProfile where
  id : String
  architecture : GuestArchitecture
  kernelURL : String
  kernelSHA256 : String
  initialRamdiskURL : Option String := none
  initialRamdiskSHA256 : Option String := none
  commandLine : String
deriving DecidableEq, Repr

/-- `initialize` sets the four stores and the layout together. -/
structure Library where
  initialized : Bool := true
  app : AppModel
  images : List MachineImage := []
  bootProfiles : List LinuxBootProfile := []
  exportingImageIDs : List UUID := []
  downloads : List UUID := []
  volume : Volume := {}

abbrev LibraryAction := Failing Library LibraryError

def onVolume {α : Type} (x : Store α) : LibraryAction α := fun lib =>
  match x lib.volume with
  | (.ok a, v) => (.ok a, { lib with volume := v })
  | (.error e, v) => (.error (.storage e), { lib with volume := v })

def onApp (f : AppModel → AppModel) : LibraryAction Unit :=
  Failing.change fun lib => { lib with app := f lib.app }

def require (condition : Bool) (error : LibraryError) : LibraryAction Unit :=
  if condition then pure () else throw error

/-- A catch block that presents the error. -/
def presenting {α : Type} (x : LibraryAction α) : LibraryAction α :=
  tryCatch x fun error => do
    onApp fun s => s.present error.localizedDescription
    throw error

def persist (env : Environment) : LibraryAction Unit := do
  let lib ← Failing.getState
  require lib.initialized (.app .notInitialized)
  onVolume (attempt env.faults .persist fun v =>
    { v with metadata := some { machines := lib.app.machines, images := lib.images } })

/-- `ensureMachineIdle`, which creates the runtime it asks unless an earlier check refuses. -/
def ensureMachineIdle (machine : Machine) : LibraryAction Unit := do
  let lib ← Failing.getState
  match lib.app.ensureMachineIdle machine with
  | none => onApp fun s => s.withRuntime machine
  | some .machineMustBeStopped => do
    onApp fun s => s.withRuntime machine
    throw (.app .machineMustBeStopped)
  | some error => throw (.app error)

/-- `trimmingCharacters(in: .whitespacesAndNewlines)`. -/
def isWhitespaceOrNewline (c : Char) : Bool :=
  let n := c.toNat
  (decide (9 ≤ n) && decide (n ≤ 13)) || n == 0x20 || n == 0x85 || n == 0xa0 || n == 0x1680 ||
    (decide (0x2000 ≤ n) && decide (n ≤ 0x200a)) || n == 0x2028 || n == 0x2029 || n == 0x202f ||
    n == 0x205f || n == 0x3000

def trimmed (s : String) : String :=
  String.ofList
    ((s.toList.dropWhile isWhitespaceOrNewline).reverse.dropWhile isWhitespaceOrNewline).reverse

/-- The arguments of `createMachine` for a managed image. -/
structure MachineDraft where
  name : String
  cpuCount : Int
  memorySizeBytes : UInt64
  diskSizeBytes : UInt64
  imageID : UUID
  sharedDirectoryPath : Option String := none
  rosettaEnabled : Bool := false
  bootProfileID : Option String := none
  portForwards : List PortForward := []
  inputProfile : MachineInputProfile := .automatic
  displayMode : MachineDisplayMode := .automatic
  windowsSupportToolsAttached : Bool := true
deriving DecidableEq, Repr

/-- `availableURL(layout:)`. -/
def availableURL (image : MachineImage) : LibraryAction String :=
  match image.availability with
  | .available relativePath => onVolume (resolve relativePath)
  | _ => throw (.app .imageUnavailable)

def Library.image (lib : Library) (id : UUID) : Option MachineImage :=
  lib.images.find? fun image => image.id = id

def windowsRequirementsMet (draft : MachineDraft) : Bool :=
  decide (2 ≤ draft.cpuCount) && decide (4 * 1024 * 1024 * 1024 ≤ draft.memorySizeBytes) &&
    decide (64 * 1024 * 1024 * 1024 ≤ draft.diskSizeBytes)

/-- The checks of `createMachine` up to the choice of an image. -/
def checkDraft (env : Environment) (draft : MachineDraft) : LibraryAction MachineImage := do
  let lib ← Failing.getState
  require lib.initialized (.app .notInitialized)
  require (trimmed draft.name ≠ "") (.app .missingMachineName)
  require (env.minimumAllowedCPUCount ≤ draft.cpuCount ∧
    draft.cpuCount ≤ env.maximumAllowedCPUCount) .invalidCPUCount
  require (env.minimumAllowedMemorySize ≤ draft.memorySizeBytes ∧
    draft.memorySizeBytes ≤ env.maximumAllowedMemorySize) .invalidMemorySize
  require (draft.portForwards.all PortForward.isValid) .invalidPort
  match lib.image draft.imageID with
  | none => throw (.app .imageUnavailable)
  | some image => pure image

/-- Windows machines that get the support tools wait for them. -/
def supportTools (env : Environment) (draft : MachineDraft) (image : MachineImage) :
    LibraryAction Unit :=
  if image.operatingSystem = .windows ∧ draft.windowsSupportToolsAttached then
    onVolume (attempt env.faults .prepareSupportTools)
  else pure ()

def resolveBackend (image : MachineImage) : LibraryAction VirtualizationBackendKind :=
  match VirtualizationBackendKind.resolve image.operatingSystem image.architecture with
  | none => throw (.unsupported image.operatingSystem image.architecture)
  | some backend => pure backend

/-- Whether the image suits the draft, and the backend for it. -/
def chooseBackend (env : Environment) (draft : MachineDraft) (image : MachineImage) :
    LibraryAction VirtualizationBackendKind := do
  require (image.operatingSystem ≠ .windows ∨ image.artifactKind = .installerISO)
    (.app .unsupportedWindowsImage)
  require (image.operatingSystem ≠ .windows ∨ windowsRequirementsMet draft)
    (.app .windowsRequirementsNotMet)
  supportTools env draft image
  let backend ← resolveBackend image
  require (!draft.rosettaEnabled ∨ (image.operatingSystem = .linux ∧
    image.architecture = .arm64 ∧ backend = .appleVirtualization))
    (.app .invalidRosettaConfiguration)
  pure backend

def baseDisk (image : MachineImage) : LibraryAction (Option String) :=
  if image.artifactKind = .preinstalledDisk then do
    let url ← availableURL image
    pure (some url)
  else pure none

/-- `downloadBootAsset(from:to:expectedSHA256:)`. -/
def downloadBootAsset (env : Environment) (url : String) (destination : Location)
    (expectedSHA256 : String) : LibraryAction Unit :=
  onVolume (writeFile env.faults (.downloadBootAsset url expectedSHA256) destination
    (env.output (.downloadBootAsset url expectedSHA256)))

/-- A file of the backend state directory. -/
def backendFile (machineID : UUID) (operatingSystem : GuestOperatingSystem)
    (backend : VirtualizationBackendKind) (fileName : String) : Location :=
  let directory := backendState machineID operatingSystem backend
  ⟨directory.directory, directory.name ++ "/" ++ fileName⟩

/-- `AppleLinuxBootAssets.install`; `file` places a name in the backend state directory. -/
def installBootAssets (env : Environment) (file : String → Location) (commandLine : String)
    (kernel : Data) (initialRamdisk : Option Data) : LibraryAction Unit := do
  onVolume (writeFile env.faults (.installBootAsset "linux-kernel") (file "linux-kernel") kernel)
  match initialRamdisk with
  | none => pure ()
  | some data =>
    onVolume (writeFile env.faults (.installBootAsset "linux-initrd") (file "linux-initrd") data)
  onVolume (writeFile env.faults (.installBootAsset "linux-command-line")
    (file "linux-command-line") commandLine.toUTF8.toList)

def initialRamdisk (env : Environment) (profile : LinuxBootProfile) (destination : Location) :
    LibraryAction (Option Data) :=
  match profile.initialRamdiskURL, profile.initialRamdiskSHA256 with
  | some url, some checksum => do
    downloadBootAsset env url destination checksum
    pure (some (env.output (.downloadBootAsset url checksum)))
  | _, _ => pure none

/-- `prepare(bootProfile:helper:backendStateURL:)`. -/
def prepareBootProfile (env : Environment) (profile : LinuxBootProfile)
    (file : String → Location) : LibraryAction Unit := do
  onVolume (attempt env.faults .createBootDirectory)
  let temporaryFiles := ["BootDownload/kernel", "BootDownload/Image", "BootDownload/initrd"]
  let cleanup : LibraryAction Unit := Failing.ignoring (onVolume
    (attempt env.faults .removeBootDirectory fun v =>
      temporaryFiles.foldl (fun v name => v.removeFile (file name)) v))
  Failing.deferring cleanup do
    downloadBootAsset env profile.kernelURL (file "BootDownload/kernel") profile.kernelSHA256
    onVolume (writeFile env.faults .extractKernel (file "BootDownload/Image")
      (env.output .extractKernel))
    let initrd ← initialRamdisk env profile (file "BootDownload/initrd")
    installBootAssets env file profile.commandLine (env.output .extractKernel) initrd

/-- The helper writes the disk of a root file system archive or of an OCI image. -/
def provisionImage (env : Environment) (image : MachineImage) (disk : Location) :
    LibraryAction Unit :=
  match image.artifactKind, image.origin with
  | .rootfsArchive, _ => do
    let archive ← availableURL image
    let step := Step.provisionRootFS archive (if archive.endsWith ".gz" then "gzip" else "none")
    onVolume (writeFile env.faults step disk (env.output step))
  | .ociReference, .oci reference =>
    let step := Step.provision reference image.architecture
    onVolume (writeFile env.faults step disk (env.output step))
  | .ociReference, _ => throw (.app .invalidOCIReference)
  | _, _ => pure ()

def provisionLinuxDisk (env : Environment) (draft : MachineDraft) (image : MachineImage)
    (disk : Location) (file : String → Location) : LibraryAction UInt64 := do
  let lib ← Failing.getState
  match lib.bootProfiles.find? fun profile => some profile.id = draft.bootProfileID with
  | none => throw .incompatibleArchitecture
  | some profile =>
    require (profile.architecture = image.architecture) .incompatibleArchitecture
    onVolume (attempt env.faults .discoverHelper)
    onVolume (attempt env.faults .removeBlankDisk fun v => v.removeFile disk)
    provisionImage env image disk
    prepareBootProfile env profile file
    onVolume (attempt env.faults .inspectProvisionedDisk)
    let lib ← Failing.getState
    pure (match lib.volume.file? disk.relativePath with
      | some data => UInt64.ofNat data.length
      | none => draft.diskSizeBytes)

/-- The machine boots from its own disk right away. -/
def ImageArtifactKind.isBootable : ImageArtifactKind → Bool
  | .preinstalledDisk | .rootfsArchive | .ociReference => true
  | .installerISO => false

/-- The record `createMachine` appends. -/
def newMachine (env : Environment) (draft : MachineDraft) (image : MachineImage)
    (backend : VirtualizationBackendKind) (disk : MachineDisk)
    (backendState : BackendStateReference) : Machine where
  id := env.machineID
  name := trimmed draft.name
  spec := {
    cpuCount := draft.cpuCount
    memorySizeBytes := draft.memorySizeBytes
    diskSizeBytes := disk.capacityBytes
    architecture := image.architecture
    operatingSystem := image.operatingSystem
    sharedDirectoryPath := draft.sharedDirectoryPath
    rosettaEnabled := draft.rosettaEnabled
    portForwards := draft.portForwards
    inputProfile := draft.inputProfile
    qemuHardwareProfile :=
      if image.operatingSystem = .windows then some (.windowsARM64 env.hardwareUUID) else none
    displayMode := draft.displayMode
    windowsSupportToolsAttached :=
      image.operatingSystem = .windows && draft.windowsSupportToolsAttached }
  sourceImageID := draft.imageID
  disk := disk
  provisioningState := if ImageArtifactKind.isBootable image.artifactKind then .ready
    else image.availability.provisioningState
  bootMedia := if ImageArtifactKind.isBootable image.artifactKind then .systemDisk
    else .installer draft.imageID
  backend := backend
  backendState := backendState
  createdAt := env.now

def Library.withMachines (lib : Library) (f : List Machine → List Machine) : Library :=
  { lib with app := { lib.app with machines := f lib.app.machines } }

/-- A Linux disk made from an archive or an OCI image has the size the helper gave it. -/
def provisionedCapacity (env : Environment) (draft : MachineDraft) (image : MachineImage)
    (backend : VirtualizationBackendKind) (capacityBytes : UInt64) : LibraryAction UInt64 :=
  if image.artifactKind = .rootfsArchive ∨ image.artifactKind = .ociReference then
    provisionLinuxDisk env draft image (diskLocation env.machineID image.operatingSystem)
      (backendFile env.machineID image.operatingSystem backend)
  else pure capacityBytes

/-- What `createMachine` does between creating the files and returning. -/
def finishMachine (env : Environment) (draft : MachineDraft) (image : MachineImage)
    (backend : VirtualizationBackendKind) (files : MachineDisk × BackendStateReference) :
    LibraryAction Unit := do
  let _ ← onVolume (resolve files.1.relativePath)
  let _ ← onVolume (resolve files.2.relativeDirectory)
  let capacity ← provisionedCapacity env draft image backend files.1.capacityBytes
  Failing.change fun lib => lib.withMachines fun machines => machines ++
    [newMachine env draft image backend { files.1 with capacityBytes := capacity } files.2]
  persist env

def createMachine (env : Environment) (draft : MachineDraft) : LibraryAction UUID := do
  let image ← checkDraft env draft
  let backend ← chooseBackend env draft image
  let base ← baseDisk image
  let files ← onVolume (createFiles env.faults env.machineID env.diskID draft.diskSizeBytes
    backend image.operatingSystem base)
  let created : LibraryAction UUID := do
    finishMachine env draft image backend files
    pure env.machineID
  tryCatch created fun error => do
    Failing.change fun lib => lib.withMachines fun machines =>
      machines.filter fun m => m.id ≠ env.machineID
    Failing.ignoring (onVolume (removeMachine env.faults env.machineID))
    throw error

/-- The body of `cloneMachine`'s `do` block. -/
def cloneInto (env : Environment) (machine : Machine) : LibraryAction Unit := do
  let files ← onVolume (cloneFiles env.faults machine env.machineID env.diskID)
  Failing.change fun lib => lib.withMachines fun machines => machines ++
    [machine.cloned env.machineID env.hardwareUUID files.1 files.2 env.now]
  persist env

def cloneMachine (env : Environment) (machine : Machine) : LibraryAction Unit :=
  presenting do
    let lib ← Failing.getState
    require lib.initialized (.app .notInitialized)
    ensureMachineIdle machine
    tryCatch (cloneInto env machine) fun error => do
      Failing.ignoring (onVolume (removeMachine env.faults env.machineID))
      throw error

/-- The entry of a machine and its runtimes are dropped. -/
def Library.forgetMachine (lib : Library) (id : UUID) : Library :=
  { lib with app := { lib.app with
      machines := lib.app.machines.filter fun m => m.id ≠ id
      runtimes := fun other => if other = id then none else lib.app.runtimes other } }

def deleteMachine (env : Environment) (machine : Machine) : LibraryAction Unit :=
  presenting do
    let lib ← Failing.getState
    require lib.initialized (.app .notInitialized)
    ensureMachineIdle machine
    onVolume (removeMachine env.faults machine.id)
    Failing.change fun lib => lib.forgetMachine machine.id
    persist env

/-- `images.append(image)`. -/
def Library.withImage (lib : Library) (image : MachineImage) : Library :=
  { lib with images := lib.images ++ [image] }

/-- The record `importImage` appends. -/
def importedImage (env : Environment) (source : SourceFile)
    (operatingSystem : GuestOperatingSystem) (architecture : GuestArchitecture)
    (artifactKind : ImageArtifactKind) (data : Data) (destination : Location) : MachineImage where
  id := env.imageID
  name := source.baseName
  operatingSystem := operatingSystem
  architecture := architecture
  artifactKind := artifactKind
  origin := .localImport source.lastPathComponent
  sha256 := some (env.sha256 data)
  sizeBytes := some (Int64.ofNat data.length)
  availability := .available destination.relativePath

/-- The file is copied in, then its size and its checksum are read. -/
def importContents (env : Environment) (source : SourceFile) : Store Location := do
  let destination ← importFile env.faults source env.imageID
  attempt env.faults .inspectImage
  attempt env.faults .hashImage
  pure destination

/-- The body of `importImage`'s `do` block. -/
def importInto (env : Environment) (source : SourceFile)
    (operatingSystem : GuestOperatingSystem) (architecture : GuestArchitecture)
    (artifactKind : ImageArtifactKind) : LibraryAction Unit := do
  let destination ← onVolume (importContents env source)
  Failing.change fun lib => lib.withImage (importedImage env source operatingSystem architecture
    artifactKind (source.contents.getD []) destination)
  persist env

def importImage (env : Environment) (source : SourceFile)
    (operatingSystem : GuestOperatingSystem) (architecture : GuestArchitecture)
    (artifactKind : ImageArtifactKind) : LibraryAction UUID := do
  let lib ← Failing.getState
  require lib.initialized (.app .notInitialized)
  let created : LibraryAction UUID := do
    importInto env source operatingSystem architecture artifactKind
    pure env.imageID
  tryCatch created fun error => do
    Failing.ignoring (onVolume (Storage.removeImage env.faults env.imageID))
    throw error

/-- The record `addOCIReference` appends. -/
def ociImage (env : Environment) (reference : String) (architecture : GuestArchitecture) :
    MachineImage where
  id := env.imageID
  name := reference
  operatingSystem := .linux
  architecture := architecture
  artifactKind := .ociReference
  origin := .oci reference

def addOCIReference (env : Environment) (reference : String) (architecture : GuestArchitecture) :
    LibraryAction UUID := do
  require (trimmed reference ≠ "") (.app .invalidOCIReference)
  Failing.change fun lib => lib.withImage (ociImage env (trimmed reference) architecture)
  persist env
  pure env.imageID

/-- The error `removeImage` refuses with, if any. -/
def Library.imageRemovalRefused (lib : Library) (image : MachineImage) : Option AppModelError :=
  if image.id ∈ lib.exportingImageIDs then some .exportInProgress
  else if lib.app.machines.any fun m => m.sourceImageID = image.id then some .imageInUse
  else none

def Library.forgetImage (lib : Library) (id : UUID) : Library :=
  { lib with images := lib.images.filter fun image => image.id ≠ id }

/-- The download of a removed image is cancelled; its task ends later. -/
def removeImage (env : Environment) (image : MachineImage) : LibraryAction Unit :=
  presenting do
    let lib ← Failing.getState
    require lib.initialized (.app .notInitialized)
    match lib.imageRemovalRefused image with
    | some error => throw (.app error)
    | none =>
      Failing.change fun lib =>
        { lib with downloads := lib.downloads.filter fun id => id ≠ image.id }
      onVolume (Storage.removeImage env.faults image.id)
      Failing.change fun lib => lib.forgetImage image.id
      persist env

inductive LibraryOperation
  | createMachine (draft : MachineDraft)
  | cloneMachine (machine : Machine)
  | importImage (source : SourceFile) (operatingSystem : GuestOperatingSystem)
    (architecture : GuestArchitecture) (artifactKind : ImageArtifactKind)
  | addOCIReference (reference : String) (architecture : GuestArchitecture)
  | deleteMachine (machine : Machine)
  | removeImage (image : MachineImage)
deriving DecidableEq, Repr

/-- The error an operation reported, if any. -/
def reportedError {α : Type} : Except LibraryError α × Library → Option LibraryError × Library
  | (.ok _, lib) => (none, lib)
  | (.error error, lib) => (some error, lib)

def LibraryOperation.run (env : Environment) (operation : LibraryOperation) (lib : Library) :
    Option LibraryError × Library :=
  match operation with
  | .createMachine draft => reportedError (App.createMachine env draft lib)
  | .cloneMachine machine => reportedError (App.cloneMachine env machine lib)
  | .importImage source operatingSystem architecture artifactKind =>
    reportedError (App.importImage env source operatingSystem architecture artifactKind lib)
  | .addOCIReference reference architecture =>
    reportedError (App.addOCIReference env reference architecture lib)
  | .deleteMachine machine => reportedError (App.deleteMachine env machine lib)
  | .removeImage image => reportedError (App.removeImage env image lib)

end SimpleVM.App
