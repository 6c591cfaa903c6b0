import SimpleVM.Storage.LibraryStore
import SimpleVM.Storage.UUIDText
import SimpleVM.Swift.Codable

/-!
# The library file

What `LibraryStore` writes into `library.json` and reads out of it, byte by byte: the encoders of
machines and images are synthesized, and the decoders of `MachineSpec` and `MachineImage` are
written by hand, with a default for each key that came later.
-/
namespace SimpleVM.Domain

def GuestOperatingSystem.rawValue : GuestOperatingSystem → String
  | .linux => "linux"
  | .windows => "windows"

def GuestArchitecture.rawValue : GuestArchitecture → String
  | .arm64 => "arm64"
  | .x86_64 => "x86_64"

def VirtualizationBackendKind.rawValue : VirtualizationBackendKind → String
  | .appleVirtualization => "appleVirtualization"
  | .qemu => "qemu"

def MachineInputProfile.rawValue : MachineInputProfile → String
  | .automatic => "automatic"
  | .macOSGNOME => "macOSGNOME"
  | .macOSHyprland => "macOSHyprland"
  | .macOSWindows => "macOSWindows"
  | .linuxPassthrough => "linuxPassthrough"

def MachineDisplayMode.rawValue : MachineDisplayMode → String
  | .automatic => "automatic"
  | .compatibility => "compatibility"

def ImageArtifactKind.rawValue : ImageArtifactKind → String
  | .installerISO => "installerISO"
  | .preinstalledDisk => "preinstalledDisk"
  | .rootfsArchive => "rootfsArchive"
  | .ociReference => "ociReference"

/-- `PortForward.Transport`. -/
inductive Transport
  | tcp
deriving DecidableEq, Repr

def Transport.rawValue : Transport → String
  | .tcp => "tcp"

end SimpleVM.Domain

namespace SimpleVM.Storage

open Domain Swift Text

/-! ## Encoders -/

section Encoders

def encodeUUID (id : UUID) : JSON := .string (uuidString id)

/-- The only transport there is. -/
def encodePortForward (forward : PortForward) : JSON :=
  encodeKeyed [("guestPort", some (encodeInteger forward.guestPort.toNat)),
    ("hostPort", some (encodeInteger forward.hostPort.toNat)), ("id", some (encodeUUID forward.id)),
    ("transport", some (.string Transport.tcp.rawValue))]

def encodeHardwareProfile (profile : QEMUHardwareProfile) : JSON :=
  encodeKeyed [("hardwareUUID", some (encodeUUID profile.hardwareUUID)),
    ("macAddress", some (.string profile.macAddress)),
    ("machineType", some (.string profile.machineType))]

def specMembers (spec : MachineSpec) : List (String × Option JSON) :=
  [("architecture", some (.string spec.architecture.rawValue)),
    ("cpuCount", some (encodeInteger spec.cpuCount)),
    ("customInputProfileID", spec.customInputProfileID.map encodeUUID),
    ("diskSizeBytes", some (encodeInteger spec.diskSizeBytes.toNat)),
    ("displayMode", some (.string spec.displayMode.rawValue)),
    ("inputProfile", some (.string spec.inputProfile.rawValue)),
    ("memorySizeBytes", some (encodeInteger spec.memorySizeBytes.toNat)),
    ("operatingSystem", some (.string spec.operatingSystem.rawValue)),
    ("portForwards", some (.array (spec.portForwards.map encodePortForward))),
    ("qemuHardwareProfile", spec.qemuHardwareProfile.map encodeHardwareProfile),
    ("rosettaEnabled", some (.bool spec.rosettaEnabled)),
    ("sharedDirectoryPath", spec.sharedDirectoryPath.map .string),
    ("windowsSupportToolsAttached", some (.bool spec.windowsSupportToolsAttached))]

def encodeSpec (spec : MachineSpec) : JSON := encodeKeyed (specMembers spec)

def encodeProvisioningState (c : Conversions) : MachineProvisioningState → JSON
  | .downloading progress => encodeCase "downloading" [("progress", c.encodeDouble progress)]
  | .verifying => encodeCase "verifying" []
  | .preparingDisk => encodeCase "preparingDisk" []
  | .readyToInstall => encodeCase "readyToInstall" []
  | .installing => encodeCase "installing" []
  | .ready => encodeCase "ready" []
  | .failed message => encodeCase "failed" [("message", .string message)]

def encodeRuntimeState : MachineRuntimeState → JSON
  | .stopped => encodeCase "stopped" []
  | .starting => encodeCase "starting" []
  | .running => encodeCase "running" []
  | .stopping => encodeCase "stopping" []
  | .failed message => encodeCase "failed" [("message", .string message)]

def encodeBootMedia : BootMedia → JSON
  | .installer imageID => encodeCase "installer" [("imageID", encodeUUID imageID)]
  | .systemDisk => encodeCase "systemDisk" []

def encodeDisk (disk : MachineDisk) : JSON :=
  encodeKeyed [("capacityBytes", some (encodeInteger disk.capacityBytes.toNat)),
    ("id", some (encodeUUID disk.id)), ("relativePath", some (.string disk.relativePath))]

def encodeBackendState (state : BackendStateReference) : JSON :=
  encodeKeyed [("relativeDirectory", some (.string state.relativeDirectory))]

def machineMembers (c : Conversions) (machine : Machine) : List (String × Option JSON) :=
  [("backend", some (.string machine.backend.rawValue)),
    ("backendState", some (encodeBackendState machine.backendState)),
    ("bootMedia", some (encodeBootMedia machine.bootMedia)),
    ("createdAt", some (.string (dateString machine.createdAt))),
    ("disk", some (encodeDisk machine.disk)), ("id", some (encodeUUID machine.id)),
    ("name", some (.string machine.name)),
    ("provisioningState", some (encodeProvisioningState c machine.provisioningState)),
    ("runtimeState", some (encodeRuntimeState machine.runtimeState)),
    ("sourceImageID", some (encodeUUID machine.sourceImageID)),
    ("spec", some (encodeSpec machine.spec))]

def encodeMachine (c : Conversions) (machine : Machine) : JSON := encodeKeyed (machineMembers c machine)

/-- A payload without a label has the key `_0`. -/
def encodeOrigin : ImageOrigin → JSON
  | .catalog url => encodeCase "catalog" [("_0", .string url)]
  | .localImport originalFileName =>
    encodeCase "localImport" [("originalFileName", .string originalFileName)]
  | .remoteURL url => encodeCase "remoteURL" [("_0", .string url)]
  | .oci reference => encodeCase "oci" [("_0", .string reference)]

def encodeAvailability (c : Conversions) : ImageAvailability → JSON
  | .remote => encodeCase "remote" []
  | .downloading progress => encodeCase "downloading" [("progress", c.encodeDouble progress)]
  | .verifying => encodeCase "verifying" []
  | .available relativePath => encodeCase "available" [("relativePath", .string relativePath)]
  | .failed message => encodeCase "failed" [("message", .string message)]

def imageMembers (c : Conversions) (image : MachineImage) : List (String × Option JSON) :=
  [("architecture", some (.string image.architecture.rawValue)),
    ("artifactKind", some (.string image.artifactKind.rawValue)),
    ("availability", some (encodeAvailability c image.availability)),
    ("id", some (encodeUUID image.id)), ("name", some (.string image.name)),
    ("operatingSystem", some (.string image.operatingSystem.rawValue)),
    ("origin", some (encodeOrigin image.origin)), ("sha256", image.sha256.map .string),
    ("sizeBytes", image.sizeBytes.map fun size => encodeInteger size.toInt),
    ("version", image.version.map .string)]

def encodeImage (c : Conversions) (image : MachineImage) : JSON := encodeKeyed (imageMembers c image)

def encodeSnapshot (c : Conversions) (snapshot : LibrarySnapshot) : JSON :=
  encodeKeyed [("images", some (.array (snapshot.images.map (encodeImage c)))),
    ("machines", some (.array (snapshot.machines.map (encodeMachine c)))),
    ("schemaVersion", some (encodeInteger snapshot.schemaVersion))]

end Encoders

/-! ## Decoders -/

section Decoders

variable (c : Conversions)

def decodeUUID : JSON → Except DecodingError UUID := decodeRawValue uuidOfString

def decodeOperatingSystem : JSON → Except DecodingError GuestOperatingSystem :=
  decodeRawValue (ofRawValue GuestOperatingSystem.rawValue [.linux, .windows])

def decodeArchitecture : JSON → Except DecodingError GuestArchitecture :=
  decodeRawValue (ofRawValue GuestArchitecture.rawValue [.arm64, .x86_64])

def decodeBackend : JSON → Except DecodingError VirtualizationBackendKind :=
  decodeRawValue (ofRawValue VirtualizationBackendKind.rawValue [.appleVirtualization, .qemu])

def decodeInputProfile : JSON → Except DecodingError MachineInputProfile :=
  decodeRawValue (ofRawValue MachineInputProfile.rawValue
    [.automatic, .macOSGNOME, .macOSHyprland, .macOSWindows, .linuxPassthrough])

def decodeDisplayMode : JSON → Except DecodingError MachineDisplayMode :=
  decodeRawValue (ofRawValue MachineDisplayMode.rawValue [.automatic, .compatibility])

def decodeArtifactKind : JSON → Except DecodingError ImageArtifactKind :=
  decodeRawValue (ofRawValue ImageArtifactKind.rawValue
    [.installerISO, .preinstalledDisk, .rootfsArchive, .ociReference])

def decodeTransport : JSON → Except DecodingError Transport :=
  decodeRawValue (ofRawValue Transport.rawValue [.tcp])

/-- `Int` -/
def decodeInt : JSON → Except DecodingError Int :=
  c.decodeInteger (-9223372036854775808) 9223372036854775807

def decodeInt64 (v : JSON) : Except DecodingError Int64 := return .ofInt (← decodeInt c v)

def decodeUInt64 (v : JSON) : Except DecodingError UInt64 := do
  return .ofNat (← c.decodeInteger 0 18446744073709551615 v).toNat

def decodeUInt16 (v : JSON) : Except DecodingError UInt16 := do
  return .ofNat (← c.decodeInteger 0 65535 v).toNat

def decodePortForward (v : JSON) : Except DecodingError PortForward := do
  let members ← container v
  let id ← decode members "id" decodeUUID
  let hostPort ← decode members "hostPort" (decodeUInt16 c)
  let guestPort ← decode members "guestPort" (decodeUInt16 c)
  let _ ← decode members "transport" decodeTransport
  return { id, hostPort, guestPort }

def decodeHardwareProfile (v : JSON) : Except DecodingError QEMUHardwareProfile := do
  let members ← container v
  let machineType ← decode members "machineType" decodeString
  let hardwareUUID ← decode members "hardwareUUID" decodeUUID
  let macAddress ← decode members "macAddress" decodeString
  return { machineType, hardwareUUID, macAddress }

/-- `MachineSpec.init(from:)`. -/
def decodeSpec (v : JSON) : Except DecodingError MachineSpec := do
  let members ← container v
  let cpuCount ← decode members "cpuCount" (decodeInt c)
  let memorySizeBytes ← decode members "memorySizeBytes" (decodeUInt64 c)
  let diskSizeBytes ← decode members "diskSizeBytes" (decodeUInt64 c)
  let architecture ← decode members "architecture" decodeArchitecture
  let operatingSystem ← decodeWithDefault members "operatingSystem" decodeOperatingSystem .linux
  let sharedDirectoryPath ← decodeIfPresent members "sharedDirectoryPath" decodeString
  let rosettaEnabled ← decodeWithDefault members "rosettaEnabled" decodeBool false
  let portForwards ←
    decodeWithDefault members "portForwards" (decodeArray (decodePortForward c)) []
  let inputProfile ← decodeWithDefault members "inputProfile" decodeInputProfile .automatic
  let customInputProfileID ← decodeIfPresent members "customInputProfileID" decodeUUID
  let qemuHardwareProfile ← decodeIfPresent members "qemuHardwareProfile" decodeHardwareProfile
  let displayMode ← decodeWithDefault members "displayMode" decodeDisplayMode .automatic
  let windowsSupportToolsAttached ←
    decodeWithDefault members "windowsSupportToolsAttached" decodeBool false
  return {
    cpuCount, memorySizeBytes, diskSizeBytes, architecture, operatingSystem,
    sharedDirectoryPath, rosettaEnabled, portForwards, inputProfile, customInputProfileID,
    qemuHardwareProfile, displayMode, windowsSupportToolsAttached }

def decodeProvisioningState (v : JSON) : Except DecodingError MachineProvisioningState := do
  let (name, payload) ← decodeCase ["downloading", "verifying", "preparingDisk", "readyToInstall",
    "installing", "ready", "failed"] v
  match name with
  | "downloading" => return .downloading (← decode payload "progress" c.decodeDouble)
  | "verifying" => return .verifying
  | "preparingDisk" => return .preparingDisk
  | "readyToInstall" => return .readyToInstall
  | "installing" => return .installing
  | "ready" => return .ready
  | _ => return .failed (← decode payload "message" decodeString)

def decodeRuntimeState (v : JSON) : Except DecodingError MachineRuntimeState := do
  let (name, payload) ← decodeCase ["stopped", "starting", "running", "stopping", "failed"] v
  match name with
  | "stopped" => return .stopped
  | "starting" => return .starting
  | "running" => return .running
  | "stopping" => return .stopping
  | _ => return .failed (← decode payload "message" decodeString)

def decodeBootMedia (v : JSON) : Except DecodingError BootMedia := do
  let (name, payload) ← decodeCase ["installer", "systemDisk"] v
  match name with
  | "installer" => return .installer (← decode payload "imageID" decodeUUID)
  | _ => return .systemDisk

def decodeDisk (v : JSON) : Except DecodingError MachineDisk := do
  let members ← container v
  let id ← decode members "id" decodeUUID
  let relativePath ← decode members "relativePath" decodeString
  let capacityBytes ← decode members "capacityBytes" (decodeUInt64 c)
  return { id, relativePath, capacityBytes }

def decodeBackendState (v : JSON) : Except DecodingError BackendStateReference := do
  let members ← container v
  return { relativeDirectory := ← decode members "relativeDirectory" decodeString }

def decodeMachine (v : JSON) : Except DecodingError Machine := do
  let members ← container v
  let id ← decode members "id" decodeUUID
  let name ← decode members "name" decodeString
  let spec ← decode members "spec" (decodeSpec c)
  let sourceImageID ← decode members "sourceImageID" decodeUUID
  let disk ← decode members "disk" (decodeDisk c)
  let provisioningState ← decode members "provisioningState" (decodeProvisioningState c)
  let runtimeState ← decode members "runtimeState" decodeRuntimeState
  let bootMedia ← decode members "bootMedia" decodeBootMedia
  let backend ← decode members "backend" decodeBackend
  let backendState ← decode members "backendState" decodeBackendState
  let createdAt ← decode members "createdAt" (decodeRawValue dateOfString)
  return {
    id, name, spec, sourceImageID, disk, provisioningState, runtimeState, bootMedia,
    backend, backendState, createdAt }

def decodeURL : JSON → Except DecodingError String := decodeRawValue c.url

def decodeOrigin (v : JSON) : Except DecodingError ImageOrigin := do
  let (name, payload) ← decodeCase ["catalog", "localImport", "remoteURL", "oci"] v
  match name with
  | "catalog" => return .catalog (← decode payload "_0" (decodeURL c))
  | "localImport" => return .localImport (← decode payload "originalFileName" decodeString)
  | "remoteURL" => return .remoteURL (← decode payload "_0" (decodeURL c))
  | _ => return .oci (← decode payload "_0" decodeString)

def decodeAvailability (v : JSON) : Except DecodingError ImageAvailability := do
  let (name, payload) ←
    decodeCase ["remote", "downloading", "verifying", "available", "failed"] v
  match name with
  | "remote" => return .remote
  | "downloading" => return .downloading (← decode payload "progress" c.decodeDouble)
  | "verifying" => return .verifying
  | "available" => return .available (← decode payload "relativePath" decodeString)
  | _ => return .failed (← decode payload "message" decodeString)

/-- `MachineImage.init(from:)`. -/
def decodeImage (v : JSON) : Except DecodingError MachineImage := do
  let members ← container v
  let id ← decode members "id" decodeUUID
  let name ← decode members "name" decodeString
  let version ← decodeIfPresent members "version" decodeString
  let operatingSystem ← decodeWithDefault members "operatingSystem" decodeOperatingSystem .linux
  let architecture ← decode members "architecture" decodeArchitecture
  let artifactKind ← decode members "artifactKind" decodeArtifactKind
  let origin ← decode members "origin" (decodeOrigin c)
  let sha256 ← decodeIfPresent members "sha256" decodeString
  let sizeBytes ← decodeIfPresent members "sizeBytes" (decodeInt64 c)
  let availability ← decode members "availability" (decodeAvailability c)
  return {
    id, name, version, operatingSystem, architecture, artifactKind, origin, sha256,
    sizeBytes, availability }

def decodeSnapshot (v : JSON) : Except DecodingError LibrarySnapshot := do
  let members ← container v
  let schemaVersion ← decode members "schemaVersion" (decodeInt c)
  let machines ← decode members "machines" (decodeArray (decodeMachine c))
  let images ← decode members "images" (decodeArray (decodeImage c))
  return { schemaVersion, machines, images }

end Decoders

/-! ## The store -/

inductive LibraryStoreError
  | unsupportedSchema (found supported : Int)
  | decoding (e : DecodingError)
  | io (message : String)
deriving DecidableEq, Repr

/-- How the file operations of one call end: those of `layout.initialize`, and reading or writing
the file. -/
structure FileOutcomes where
  initialized : Except LibraryStoreError Unit := .ok ()
  accessed : Except LibraryStoreError Unit := .ok ()

namespace LibraryFile

variable (foundation : Foundation) (c : Conversions)

/-- `decoder.decode(LibrarySnapshot.self, from: data)`. -/
def decodeData (data : Data) : Except DecodingError LibrarySnapshot :=
  match decodeUTF8 data with
  | none => .error .dataCorrupted
  | some text => do decodeSnapshot c (← foundation.parse text)

/-- `LibraryStore.load`, of a file that may not exist. -/
def load (outcomes : FileOutcomes) (file : Option Data) :
    Except LibraryStoreError LibrarySnapshot := do
  outcomes.initialized
  match file with
  | none => return { machines := [], images := [] }
  | some data =>
    outcomes.accessed
    match decodeData foundation c data with
    | .error e => throw (.decoding e)
    | .ok snapshot =>
      if snapshot.schemaVersion ≠ currentSchemaVersion then
        throw (.unsupportedSchema snapshot.schemaVersion currentSchemaVersion)
      return snapshot

/-- `LibraryStore.save`, with what the file holds afterwards. It is written atomically. -/
def save (outcomes : FileOutcomes) (snapshot : LibrarySnapshot) :
    Except LibraryStoreError Data := do
  if snapshot.schemaVersion ≠ currentSchemaVersion then
    throw (.unsupportedSchema snapshot.schemaVersion currentSchemaVersion)
  outcomes.initialized
  outcomes.accessed
  return utf8 (pretty 0 (encodeSnapshot c snapshot))

end LibraryFile

end SimpleVM.Storage
