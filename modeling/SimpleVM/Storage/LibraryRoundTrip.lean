import SimpleVM.Effects.Result
import SimpleVM.Storage.LibraryCodec

/-!
# The library comes back

What is saved is loaded again, with creation dates to the second. A file in which keys that came
later are missing is loaded with their defaults.
-/
namespace SimpleVM.Storage

open Domain Effects Swift Text

/-! ## What can be saved -/

section Storable

variable (c : Conversions)

def StorableState : MachineProvisioningState → Prop
  | .downloading progress => c.IsDouble progress
  | _ => True

def StorableAvailability : ImageAvailability → Prop
  | .downloading progress => c.IsDouble progress
  | _ => True

/-- A URL is its absolute string. -/
def StorableOrigin : ImageOrigin → Prop
  | .catalog url | .remoteURL url => c.url url = some url
  | _ => True

/-- A value of Swift's `Int`. -/
def IsInt (n : Int) : Prop := -9223372036854775808 ≤ n ∧ n ≤ 9223372036854775807

structure StorableMachine (machine : Machine) : Prop where
  cpuCount : IsInt machine.spec.cpuCount
  provisioningState : StorableState c machine.provisioningState
  createdAt : Dated machine.createdAt

structure StorableImage (image : MachineImage) : Prop where
  origin : StorableOrigin c image.origin
  availability : StorableAvailability c image.availability

/-- Numbers, dates and URLs are values of their types, and the schema is the current one. -/
structure StorableSnapshot (snapshot : LibrarySnapshot) : Prop where
  schemaVersion : snapshot.schemaVersion = currentSchemaVersion
  machines : ∀ machine ∈ snapshot.machines, StorableMachine c machine
  images : ∀ image ∈ snapshot.images, StorableImage c image

end Storable

/-- The creation date to the second. -/
def toSecond (machine : Machine) : Machine :=
  { machine with createdAt := (machine.createdAt.floor : Rat) }

def snapshotToSecond (snapshot : LibrarySnapshot) : LibrarySnapshot :=
  { snapshot with machines := snapshot.machines.map toSecond }

/-! ## What a file holds -/

section Written

variable (c : Conversions)

/-- The members of a specification, where those that came later may be missing. -/
structure SpecMembers (members : List (String × JSON)) (spec : MachineSpec) : Prop where
  cpuCount : members.lookup "cpuCount" = some (encodeInteger spec.cpuCount)
  memorySizeBytes :
    members.lookup "memorySizeBytes" = some (encodeInteger spec.memorySizeBytes.toNat)
  diskSizeBytes : members.lookup "diskSizeBytes" = some (encodeInteger spec.diskSizeBytes.toNat)
  architecture : members.lookup "architecture" = some (.string spec.architecture.rawValue)
  operatingSystem : AbsentOr members "operatingSystem" (fun system => .string system.rawValue)
    .linux spec.operatingSystem
  sharedDirectoryPath :
    members.lookup "sharedDirectoryPath" = spec.sharedDirectoryPath.map .string
  rosettaEnabled : AbsentOr members "rosettaEnabled" .bool false spec.rosettaEnabled
  portForwards : AbsentOr members "portForwards"
    (fun forwards => .array (forwards.map encodePortForward)) [] spec.portForwards
  inputProfile : AbsentOr members "inputProfile" (fun profile => .string profile.rawValue)
    .automatic spec.inputProfile
  customInputProfileID :
    members.lookup "customInputProfileID" = spec.customInputProfileID.map encodeUUID
  qemuHardwareProfile :
    members.lookup "qemuHardwareProfile" = spec.qemuHardwareProfile.map encodeHardwareProfile
  displayMode : AbsentOr members "displayMode" (fun mode => .string mode.rawValue)
    .automatic spec.displayMode
  windowsSupportToolsAttached : AbsentOr members "windowsSupportToolsAttached" .bool false
    spec.windowsSupportToolsAttached

/-- The members of a machine. What is less than a second of its creation date is not written. -/
structure MachineMembers (members : List (String × JSON)) (machine : Machine) : Prop where
  id : members.lookup "id" = some (encodeUUID machine.id)
  name : members.lookup "name" = some (.string machine.name)
  spec : ∃ fields, members.lookup "spec" = some (.object fields) ∧ SpecMembers fields machine.spec
  sourceImageID : members.lookup "sourceImageID" = some (encodeUUID machine.sourceImageID)
  disk : members.lookup "disk" = some (encodeDisk machine.disk)
  provisioningState : members.lookup "provisioningState" =
    some (encodeProvisioningState c machine.provisioningState)
  runtimeState : members.lookup "runtimeState" = some (encodeRuntimeState machine.runtimeState)
  bootMedia : members.lookup "bootMedia" = some (encodeBootMedia machine.bootMedia)
  backend : members.lookup "backend" = some (.string machine.backend.rawValue)
  backendState : members.lookup "backendState" = some (encodeBackendState machine.backendState)
  createdAt : ∃ date, Dated date ∧ machine.createdAt = (date.floor : Rat) ∧
    members.lookup "createdAt" = some (.string (dateString date))

structure ImageMembers (members : List (String × JSON)) (image : MachineImage) : Prop where
  id : members.lookup "id" = some (encodeUUID image.id)
  name : members.lookup "name" = some (.string image.name)
  version : members.lookup "version" = image.version.map .string
  operatingSystem : AbsentOr members "operatingSystem" (fun system => .string system.rawValue)
    .linux image.operatingSystem
  architecture : members.lookup "architecture" = some (.string image.architecture.rawValue)
  artifactKind : members.lookup "artifactKind" = some (.string image.artifactKind.rawValue)
  origin : members.lookup "origin" = some (encodeOrigin image.origin)
  sha256 : members.lookup "sha256" = image.sha256.map .string
  sizeBytes :
    members.lookup "sizeBytes" = image.sizeBytes.map fun size => encodeInteger size.toInt
  availability : members.lookup "availability" = some (encodeAvailability c image.availability)

def MachineWritten (v : JSON) (machine : Machine) : Prop :=
  ∃ members, v = .object members ∧ MachineMembers c members machine

def ImageWritten (v : JSON) (image : MachineImage) : Prop :=
  ∃ members, v = .object members ∧ ImageMembers c members image

/-- A file that holds this snapshot, in any order of keys, with or without those that came later. -/
def SnapshotWritten (v : JSON) (snapshot : LibrarySnapshot) : Prop :=
  ∃ members machines images, v = .object members ∧
    members.lookup "schemaVersion" = some (encodeInteger snapshot.schemaVersion) ∧
    members.lookup "machines" = some (.array machines) ∧
    List.Forall₂ (MachineWritten c) machines snapshot.machines ∧
    members.lookup "images" = some (.array images) ∧
    List.Forall₂ (ImageWritten c) images snapshot.images

end Written

/-! ## Each value is decoded -/

section Values

variable {c : Conversions}

theorem decodeUUID_encodeUUID (id : UUID) : decodeUUID (encodeUUID id) = .ok id :=
  decodeRawValue_string (uuidOfString_uuidString id)

theorem decodeOperatingSystem_rawValue (system : GuestOperatingSystem) :
    decodeOperatingSystem (.string system.rawValue) = .ok system := by
  apply decodeRawValue_string
  cases system <;> rfl

theorem decodeArchitecture_rawValue (architecture : GuestArchitecture) :
    decodeArchitecture (.string architecture.rawValue) = .ok architecture := by
  apply decodeRawValue_string
  cases architecture <;> rfl

theorem decodeBackend_rawValue (backend : VirtualizationBackendKind) :
    decodeBackend (.string backend.rawValue) = .ok backend := by
  apply decodeRawValue_string
  cases backend <;> rfl

theorem decodeInputProfile_rawValue (profile : MachineInputProfile) :
    decodeInputProfile (.string profile.rawValue) = .ok profile := by
  apply decodeRawValue_string
  cases profile <;> rfl

theorem decodeDisplayMode_rawValue (mode : MachineDisplayMode) :
    decodeDisplayMode (.string mode.rawValue) = .ok mode := by
  apply decodeRawValue_string
  cases mode <;> rfl

theorem decodeArtifactKind_rawValue (kind : ImageArtifactKind) :
    decodeArtifactKind (.string kind.rawValue) = .ok kind := by
  apply decodeRawValue_string
  cases kind <;> rfl

theorem decodeInt_encodeInteger {n : Int} (isInt : IsInt n) :
    decodeInt c (encodeInteger n) = .ok n :=
  decodeInteger_encodeInteger isInt.1 isInt.2

theorem decodeInt64_encodeInteger (n : Int64) :
    decodeInt64 c (encodeInteger n.toInt) = .ok n := by
  have isInt : IsInt n.toInt := ⟨n.le_toInt, by have := n.toInt_lt; omega⟩
  simp only [decodeInt64, decodeInt_encodeInteger isInt, bind, Except.bind, pure, Except.pure,
    Int64.ofInt_toInt]

theorem decodeUInt64_encodeInteger (n : UInt64) :
    decodeUInt64 c (encodeInteger n.toNat) = .ok n := by
  have small := n.toNat_lt
  have read : c.decodeInteger 0 18446744073709551615 (encodeInteger n.toNat) =
      .ok (n.toNat : Int) := decodeInteger_encodeInteger (by omega) (by omega)
  simp only [decodeUInt64, read, bind, Except.bind, pure, Except.pure, Int.toNat_natCast,
    UInt64.ofNat_toNat]

theorem decodeUInt16_encodeInteger (n : UInt16) :
    decodeUInt16 c (encodeInteger n.toNat) = .ok n := by
  have small := n.toNat_lt
  have read : c.decodeInteger 0 65535 (encodeInteger n.toNat) = .ok (n.toNat : Int) :=
    decodeInteger_encodeInteger (by omega) (by omega)
  simp only [decodeUInt16, read, bind, Except.bind, pure, Except.pure, Int.toNat_natCast,
    UInt16.ofNat_toNat]

theorem decodePortForward_encodePortForward (forward : PortForward) :
    decodePortForward c (encodePortForward forward) = .ok forward := by
  refine bind_ok_iff.mpr ⟨_, rfl, ?_⟩
  refine bind_ok_iff.mpr ⟨_, decode_ok rfl (decodeUUID_encodeUUID forward.id), ?_⟩
  refine bind_ok_iff.mpr ⟨_, decode_ok rfl (decodeUInt16_encodeInteger forward.hostPort), ?_⟩
  refine bind_ok_iff.mpr ⟨_, decode_ok rfl (decodeUInt16_encodeInteger forward.guestPort), ?_⟩
  exact bind_ok_iff.mpr ⟨.tcp, decode_ok rfl rfl, rfl⟩

theorem decodeHardwareProfile_encodeHardwareProfile (profile : QEMUHardwareProfile) :
    decodeHardwareProfile (encodeHardwareProfile profile) = .ok profile := by
  refine bind_ok_iff.mpr ⟨_, rfl, ?_⟩
  refine bind_ok_iff.mpr ⟨profile.machineType, decode_ok rfl rfl, ?_⟩
  refine bind_ok_iff.mpr ⟨_, decode_ok rfl (decodeUUID_encodeUUID profile.hardwareUUID), ?_⟩
  exact bind_ok_iff.mpr ⟨profile.macAddress, decode_ok rfl rfl, rfl⟩

/-- A specification is read with the defaults of what is missing. -/
theorem decodeSpec_written {members : List (String × JSON)} {spec : MachineSpec}
    (written : SpecMembers members spec) (isInt : IsInt spec.cpuCount) :
    decodeSpec c (.object members) = .ok spec := by
  have text (s : String) : JSON.string s ≠ .null := by simp
  have flag (b : Bool) : JSON.bool b ≠ .null := by simp
  refine bind_ok_iff.mpr ⟨_, rfl, ?_⟩
  refine bind_ok_iff.mpr ⟨_, decode_ok written.cpuCount (decodeInt_encodeInteger isInt), ?_⟩
  refine bind_ok_iff.mpr ⟨_, decode_ok written.memorySizeBytes (decodeUInt64_encodeInteger _), ?_⟩
  refine bind_ok_iff.mpr ⟨_, decode_ok written.diskSizeBytes (decodeUInt64_encodeInteger _), ?_⟩
  refine bind_ok_iff.mpr ⟨_, decode_ok written.architecture (decodeArchitecture_rawValue _), ?_⟩
  refine bind_ok_iff.mpr ⟨_, decodeWithDefault_ok written.operatingSystem (text _)
    (decodeOperatingSystem_rawValue _), ?_⟩
  refine bind_ok_iff.mpr ⟨_, decodeIfPresent_ok written.sharedDirectoryPath text
    (fun _ _ => rfl), ?_⟩
  refine bind_ok_iff.mpr ⟨_, decodeWithDefault_ok written.rosettaEnabled (flag _) rfl, ?_⟩
  refine bind_ok_iff.mpr ⟨_, decodeWithDefault_ok written.portForwards (by simp)
    (decodeArray_map fun forward _ => decodePortForward_encodePortForward forward), ?_⟩
  refine bind_ok_iff.mpr ⟨_, decodeWithDefault_ok written.inputProfile (text _)
    (decodeInputProfile_rawValue _), ?_⟩
  refine bind_ok_iff.mpr ⟨_, decodeIfPresent_ok written.customInputProfileID (fun _ => text _)
    (fun id _ => decodeUUID_encodeUUID id), ?_⟩
  refine bind_ok_iff.mpr ⟨_, decodeIfPresent_ok written.qemuHardwareProfile
    (fun _ => by simp [encodeHardwareProfile, encodeKeyed])
    (fun profile _ => decodeHardwareProfile_encodeHardwareProfile profile), ?_⟩
  refine bind_ok_iff.mpr ⟨_, decodeWithDefault_ok written.displayMode (text _)
    (decodeDisplayMode_rawValue _), ?_⟩
  exact bind_ok_iff.mpr
    ⟨_, decodeWithDefault_ok written.windowsSupportToolsAttached (flag _) rfl, rfl⟩

theorem decodeProvisioningState_encode {state : MachineProvisioningState}
    (storable : StorableState c state) :
    decodeProvisioningState c (encodeProvisioningState c state) = .ok state := by
  have names : ["downloading", "verifying", "preparingDisk", "readyToInstall", "installing",
      "ready", "failed"].Nodup := by decide
  cases state with
  | downloading progress =>
    refine bind_ok_iff.mpr ⟨_, decodeCase_encodeCase names (by decide) _, ?_⟩
    exact bind_ok_iff.mpr ⟨_, decode_ok rfl (decodeDouble_encodeDouble storable), rfl⟩
  | failed message =>
    refine bind_ok_iff.mpr ⟨_, decodeCase_encodeCase names (by decide) _, ?_⟩
    exact bind_ok_iff.mpr ⟨message, decode_ok rfl rfl, rfl⟩
  | _ => exact bind_ok_iff.mpr ⟨_, decodeCase_encodeCase names (by decide) _, rfl⟩

theorem decodeRuntimeState_encode (state : MachineRuntimeState) :
    decodeRuntimeState (encodeRuntimeState state) = .ok state := by
  have names : ["stopped", "starting", "running", "stopping", "failed"].Nodup := by decide
  cases state with
  | failed message =>
    refine bind_ok_iff.mpr ⟨_, decodeCase_encodeCase names (by decide) _, ?_⟩
    exact bind_ok_iff.mpr ⟨message, decode_ok rfl rfl, rfl⟩
  | _ => exact bind_ok_iff.mpr ⟨_, decodeCase_encodeCase names (by decide) _, rfl⟩

theorem decodeBootMedia_encode (media : BootMedia) :
    decodeBootMedia (encodeBootMedia media) = .ok media := by
  have names : ["installer", "systemDisk"].Nodup := by decide
  cases media with
  | installer imageID =>
    refine bind_ok_iff.mpr ⟨_, decodeCase_encodeCase names (by decide) _, ?_⟩
    exact bind_ok_iff.mpr ⟨_, decode_ok rfl (decodeUUID_encodeUUID imageID), rfl⟩
  | systemDisk => exact bind_ok_iff.mpr ⟨_, decodeCase_encodeCase names (by decide) _, rfl⟩

theorem decodeDisk_encodeDisk (disk : MachineDisk) :
    decodeDisk c (encodeDisk disk) = .ok disk := by
  refine bind_ok_iff.mpr ⟨_, rfl, ?_⟩
  refine bind_ok_iff.mpr ⟨_, decode_ok rfl (decodeUUID_encodeUUID disk.id), ?_⟩
  refine bind_ok_iff.mpr ⟨disk.relativePath, decode_ok rfl rfl, ?_⟩
  exact bind_ok_iff.mpr ⟨_, decode_ok rfl (decodeUInt64_encodeInteger disk.capacityBytes), rfl⟩

theorem decodeBackendState_encode (state : BackendStateReference) :
    decodeBackendState (encodeBackendState state) = .ok state := by
  refine bind_ok_iff.mpr ⟨_, rfl, ?_⟩
  exact bind_ok_iff.mpr ⟨state.relativeDirectory, decode_ok rfl rfl, rfl⟩

theorem decodeMachine_written {v : JSON} {machine : Machine} (written : MachineWritten c v machine)
    (storable : StorableMachine c machine) : decodeMachine c v = .ok machine := by
  obtain ⟨members, rfl, written⟩ := written
  obtain ⟨fields, isSpec, spec⟩ := written.spec
  obtain ⟨date, dated, seconds, isDate⟩ := written.createdAt
  have created := decodeRawValue_string (dateOfString_dateString dated)
  rw [← seconds] at created
  refine bind_ok_iff.mpr ⟨_, rfl, ?_⟩
  refine bind_ok_iff.mpr ⟨_, decode_ok written.id (decodeUUID_encodeUUID _), ?_⟩
  refine bind_ok_iff.mpr ⟨machine.name, decode_ok written.name rfl, ?_⟩
  refine bind_ok_iff.mpr ⟨_, decode_ok isSpec (decodeSpec_written spec storable.cpuCount), ?_⟩
  refine bind_ok_iff.mpr ⟨_, decode_ok written.sourceImageID (decodeUUID_encodeUUID _), ?_⟩
  refine bind_ok_iff.mpr ⟨_, decode_ok written.disk (decodeDisk_encodeDisk _), ?_⟩
  refine bind_ok_iff.mpr ⟨_, decode_ok written.provisioningState
    (decodeProvisioningState_encode storable.provisioningState), ?_⟩
  refine bind_ok_iff.mpr ⟨_, decode_ok written.runtimeState (decodeRuntimeState_encode _), ?_⟩
  refine bind_ok_iff.mpr ⟨_, decode_ok written.bootMedia (decodeBootMedia_encode _), ?_⟩
  refine bind_ok_iff.mpr ⟨_, decode_ok written.backend (decodeBackend_rawValue _), ?_⟩
  refine bind_ok_iff.mpr ⟨_, decode_ok written.backendState (decodeBackendState_encode _), ?_⟩
  exact bind_ok_iff.mpr ⟨_, decode_ok isDate created, rfl⟩

theorem decodeOrigin_encodeOrigin {origin : ImageOrigin} (storable : StorableOrigin c origin) :
    decodeOrigin c (encodeOrigin origin) = .ok origin := by
  have names : ["catalog", "localImport", "remoteURL", "oci"].Nodup := by decide
  cases origin with
  | catalog url | remoteURL url =>
    refine bind_ok_iff.mpr ⟨_, decodeCase_encodeCase names (by decide) _, ?_⟩
    exact bind_ok_iff.mpr ⟨_, decode_ok rfl (decodeRawValue_string storable), rfl⟩
  | localImport text | oci text =>
    refine bind_ok_iff.mpr ⟨_, decodeCase_encodeCase names (by decide) _, ?_⟩
    exact bind_ok_iff.mpr ⟨text, decode_ok rfl rfl, rfl⟩

theorem decodeAvailability_encode {availability : ImageAvailability}
    (storable : StorableAvailability c availability) :
    decodeAvailability c (encodeAvailability c availability) = .ok availability := by
  have names : ["remote", "downloading", "verifying", "available", "failed"].Nodup := by decide
  cases availability with
  | downloading progress =>
    refine bind_ok_iff.mpr ⟨_, decodeCase_encodeCase names (by decide) _, ?_⟩
    exact bind_ok_iff.mpr ⟨_, decode_ok rfl (decodeDouble_encodeDouble storable), rfl⟩
  | available text | failed text =>
    refine bind_ok_iff.mpr ⟨_, decodeCase_encodeCase names (by decide) _, ?_⟩
    exact bind_ok_iff.mpr ⟨text, decode_ok rfl rfl, rfl⟩
  | _ => exact bind_ok_iff.mpr ⟨_, decodeCase_encodeCase names (by decide) _, rfl⟩

theorem decodeImage_written {v : JSON} {image : MachineImage} (written : ImageWritten c v image)
    (storable : StorableImage c image) : decodeImage c v = .ok image := by
  have text (s : String) : JSON.string s ≠ .null := by simp
  obtain ⟨members, rfl, written⟩ := written
  refine bind_ok_iff.mpr ⟨_, rfl, ?_⟩
  refine bind_ok_iff.mpr ⟨_, decode_ok written.id (decodeUUID_encodeUUID _), ?_⟩
  refine bind_ok_iff.mpr ⟨image.name, decode_ok written.name rfl, ?_⟩
  refine bind_ok_iff.mpr ⟨_, decodeIfPresent_ok written.version text (fun _ _ => rfl), ?_⟩
  refine bind_ok_iff.mpr ⟨_, decodeWithDefault_ok written.operatingSystem (text _)
    (decodeOperatingSystem_rawValue _), ?_⟩
  refine bind_ok_iff.mpr ⟨_, decode_ok written.architecture (decodeArchitecture_rawValue _), ?_⟩
  refine bind_ok_iff.mpr ⟨_, decode_ok written.artifactKind (decodeArtifactKind_rawValue _), ?_⟩
  refine bind_ok_iff.mpr ⟨_, decode_ok written.origin
    (decodeOrigin_encodeOrigin storable.origin), ?_⟩
  refine bind_ok_iff.mpr ⟨_, decodeIfPresent_ok written.sha256 text (fun _ _ => rfl), ?_⟩
  refine bind_ok_iff.mpr ⟨_, decodeIfPresent_ok written.sizeBytes (fun _ => by simp [encodeInteger])
    (fun size _ => decodeInt64_encodeInteger size), ?_⟩
  exact bind_ok_iff.mpr ⟨_, decode_ok written.availability
    (decodeAvailability_encode storable.availability), rfl⟩

/-- A file is decoded as the snapshot that it holds. -/
theorem decodeSnapshot_written {v : JSON} {snapshot : LibrarySnapshot}
    (written : SnapshotWritten c v snapshot) (storable : StorableSnapshot c snapshot) :
    decodeSnapshot c v = .ok snapshot := by
  obtain ⟨members, machines, images, rfl, isSchema, isMachines, eachMachine, isImages,
    eachImage⟩ := written
  have schema : IsInt snapshot.schemaVersion := by
    rw [storable.schemaVersion]
    exact ⟨by decide, by decide⟩
  have machinesRead : decodeArray (decodeMachine c) (.array machines) = .ok snapshot.machines :=
    decodeArray_forall₂ eachMachine fun _ machine inside written =>
      decodeMachine_written written (storable.machines machine inside)
  have imagesRead : decodeArray (decodeImage c) (.array images) = .ok snapshot.images :=
    decodeArray_forall₂ eachImage fun _ image inside written =>
      decodeImage_written written (storable.images image inside)
  refine bind_ok_iff.mpr ⟨_, rfl, ?_⟩
  refine bind_ok_iff.mpr ⟨_, decode_ok isSchema (decodeInt_encodeInteger schema), ?_⟩
  refine bind_ok_iff.mpr ⟨_, decode_ok isMachines machinesRead, ?_⟩
  exact bind_ok_iff.mpr ⟨_, decode_ok isImages imagesRead, rfl⟩

end Values

/-! ## What is written -/

section Writing

variable {c : Conversions}

theorem written_specMembers (spec : MachineSpec) :
    SpecMembers (present (specMembers spec)) spec := by
  have keys : ["architecture", "cpuCount", "customInputProfileID", "diskSizeBytes", "displayMode",
      "inputProfile", "memorySizeBytes", "operatingSystem", "portForwards", "qemuHardwareProfile",
      "rosettaEnabled", "sharedDirectoryPath", "windowsSupportToolsAttached"].Nodup := by decide
  have found : ∀ key, (present (specMembers spec)).lookup key =
      ((specMembers spec).lookup key).join := lookup_present keys
  exact
    { cpuCount := found "cpuCount"
      memorySizeBytes := found "memorySizeBytes"
      diskSizeBytes := found "diskSizeBytes"
      architecture := found "architecture"
      operatingSystem := .inl (found "operatingSystem")
      sharedDirectoryPath := found "sharedDirectoryPath"
      rosettaEnabled := .inl (found "rosettaEnabled")
      portForwards := .inl (found "portForwards")
      inputProfile := .inl (found "inputProfile")
      customInputProfileID := found "customInputProfileID"
      qemuHardwareProfile := found "qemuHardwareProfile"
      displayMode := .inl (found "displayMode")
      windowsSupportToolsAttached := .inl (found "windowsSupportToolsAttached") }

theorem written_encodeMachine {machine : Machine} (dated : Dated machine.createdAt) :
    MachineWritten c (encodeMachine c machine) (toSecond machine) := by
  have keys : ["backend", "backendState", "bootMedia", "createdAt", "disk", "id", "name",
      "provisioningState", "runtimeState", "sourceImageID", "spec"].Nodup := by decide
  have found : ∀ key, (present (machineMembers c machine)).lookup key =
      ((machineMembers c machine).lookup key).join := lookup_present keys
  refine ⟨_, rfl, ?_⟩
  exact
    { id := found "id"
      name := found "name"
      spec := ⟨_, found "spec", written_specMembers machine.spec⟩
      sourceImageID := found "sourceImageID"
      disk := found "disk"
      provisioningState := found "provisioningState"
      runtimeState := found "runtimeState"
      bootMedia := found "bootMedia"
      backend := found "backend"
      backendState := found "backendState"
      createdAt := ⟨machine.createdAt, dated, rfl, found "createdAt"⟩ }

theorem written_encodeImage (image : MachineImage) :
    ImageWritten c (encodeImage c image) image := by
  have keys : ["architecture", "artifactKind", "availability", "id", "name", "operatingSystem",
      "origin", "sha256", "sizeBytes", "version"].Nodup := by decide
  have found : ∀ key, (present (imageMembers c image)).lookup key =
      ((imageMembers c image).lookup key).join := lookup_present keys
  refine ⟨_, rfl, ?_⟩
  exact
    { id := found "id"
      name := found "name"
      version := found "version"
      operatingSystem := .inl (found "operatingSystem")
      architecture := found "architecture"
      artifactKind := found "artifactKind"
      origin := found "origin"
      sha256 := found "sha256"
      sizeBytes := found "sizeBytes"
      availability := found "availability" }

/-- A snapshot is written with its dates to the second. -/
theorem written_encodeSnapshot {snapshot : LibrarySnapshot}
    (storable : StorableSnapshot c snapshot) :
    SnapshotWritten c (encodeSnapshot c snapshot) (snapshotToSecond snapshot) := by
  refine ⟨_, _, _, rfl, rfl, rfl, ?_, rfl, ?_⟩
  · unfold snapshotToSecond
    rw [List.forall₂_map_left_iff, List.forall₂_map_right_iff, List.forall₂_same]
    exact fun machine inside => written_encodeMachine (storable.machines machine inside).createdAt
  · rw [List.forall₂_map_left_iff]
    unfold snapshotToSecond
    rw [List.forall₂_same]
    exact fun image _ => written_encodeImage image

theorem storable_toSecond {snapshot : LibrarySnapshot} (storable : StorableSnapshot c snapshot) :
    StorableSnapshot c (snapshotToSecond snapshot) := by
  refine ⟨storable.schemaVersion, ?_, storable.images⟩
  intro machine inside
  obtain ⟨source, listed, rfl⟩ := List.mem_map.mp inside
  obtain ⟨cpuCount, provisioningState, createdAt⟩ := storable.machines source listed
  exact ⟨cpuCount, provisioningState, createdAt.floor⟩

theorem toSecond_toSecond (machine : Machine) : toSecond (toSecond machine) = toSecond machine := by
  unfold toSecond
  simp only [floor_floor]

theorem snapshotToSecond_twice (snapshot : LibrarySnapshot) :
    snapshotToSecond (snapshotToSecond snapshot) = snapshotToSecond snapshot := by
  unfold snapshotToSecond
  simp only [List.map_map, Function.comp_def, toSecond_toSecond]

/-! ## What is written can be printed -/

theorem printable_portForward (levels : Nat) (forward : PortForward) :
    Printable (levels + 1) (encodePortForward forward) := by
  apply printable_keyed
  simp only [List.forall_mem_cons, Option.some.injEq, forall_eq']
  exact ⟨printable_integer _, printable_integer _, .string _, .string _, by simp⟩

theorem printable_hardwareProfile (levels : Nat) (profile : QEMUHardwareProfile) :
    Printable (levels + 1) (encodeHardwareProfile profile) := by
  apply printable_keyed
  simp only [List.forall_mem_cons, Option.some.injEq, forall_eq']
  exact ⟨.string _, .string _, .string _, by simp⟩

theorem printable_optional {levels : Nat} {α : Type} {encode : α → JSON} {a : Option α}
    (each : ∀ x, Printable levels (encode x)) :
    ∀ v, a.map encode = some v → Printable levels v := by
  intro v held
  obtain ⟨x, -, rfl⟩ := Option.map_eq_some_iff.mp held
  exact each x

theorem printable_spec (levels : Nat) (spec : MachineSpec) :
    Printable (levels + 3) (encodeSpec spec) := by
  apply printable_keyed
  simp only [specMembers, List.forall_mem_cons, Option.some.injEq, forall_eq']
  refine ⟨.string _, printable_integer _, printable_optional fun _ => .string _,
    printable_integer _, .string _, .string _, printable_integer _, .string _, ?_,
    printable_optional fun profile => printable_hardwareProfile _ profile, .bool _,
    printable_optional fun _ => .string _, .bool _, by simp⟩
  exact printable_array fun forward _ => printable_portForward _ forward

theorem printable_provisioningState (levels : Nat) {state : MachineProvisioningState}
    (storable : StorableState c state) :
    Printable (levels + 2) (encodeProvisioningState c state) := by
  cases state with
  | downloading progress =>
    apply printable_case
    intro m listed
    rw [List.mem_singleton.mp listed]
    exact .number (c.isNumber progress storable)
  | failed message =>
    apply printable_case
    intro m listed
    rw [List.mem_singleton.mp listed]
    exact .string message
  | _ => exact printable_case (List.forall_mem_nil _)

theorem printable_runtimeState (levels : Nat) (state : MachineRuntimeState) :
    Printable (levels + 2) (encodeRuntimeState state) := by
  cases state with
  | failed message =>
    apply printable_case
    intro m listed
    rw [List.mem_singleton.mp listed]
    exact .string message
  | _ => exact printable_case (List.forall_mem_nil _)

theorem printable_bootMedia (levels : Nat) (media : BootMedia) :
    Printable (levels + 2) (encodeBootMedia media) := by
  cases media with
  | installer imageID =>
    apply printable_case
    intro m listed
    rw [List.mem_singleton.mp listed]
    exact .string _
  | systemDisk => exact printable_case (List.forall_mem_nil _)

theorem printable_disk (levels : Nat) (disk : MachineDisk) :
    Printable (levels + 1) (encodeDisk disk) := by
  apply printable_keyed
  simp only [List.forall_mem_cons, Option.some.injEq, forall_eq']
  exact ⟨printable_integer _, .string _, .string _, by simp⟩

theorem printable_backendState (levels : Nat) (state : BackendStateReference) :
    Printable (levels + 1) (encodeBackendState state) := by
  apply printable_keyed
  simp only [List.forall_mem_cons, Option.some.injEq, forall_eq']
  exact ⟨.string _, by simp⟩

theorem printable_machine (levels : Nat) {machine : Machine}
    (storable : StorableMachine c machine) :
    Printable (levels + 4) (encodeMachine c machine) := by
  apply printable_keyed
  simp only [machineMembers, List.forall_mem_cons, Option.some.injEq, forall_eq']
  exact ⟨.string _, printable_backendState _ _, printable_bootMedia _ _, .string _,
    printable_disk _ _, .string _, .string _,
    printable_provisioningState _ storable.provisioningState, printable_runtimeState _ _,
    .string _, printable_spec _ _, by simp⟩

theorem printable_origin (levels : Nat) (origin : ImageOrigin) :
    Printable (levels + 2) (encodeOrigin origin) := by
  have one (key text : String) :
      ∀ m ∈ [(key, JSON.string text)], Printable levels m.2 := by
    intro m listed
    rw [List.mem_singleton.mp listed]
    exact .string text
  cases origin with
  | catalog url => exact printable_case (one _ url)
  | localImport text => exact printable_case (one _ text)
  | remoteURL url => exact printable_case (one _ url)
  | oci text => exact printable_case (one _ text)

theorem printable_availability (levels : Nat) {availability : ImageAvailability}
    (storable : StorableAvailability c availability) :
    Printable (levels + 2) (encodeAvailability c availability) := by
  cases availability with
  | downloading progress =>
    apply printable_case
    intro m listed
    rw [List.mem_singleton.mp listed]
    exact .number (c.isNumber progress storable)
  | available text | failed text =>
    apply printable_case
    intro m listed
    rw [List.mem_singleton.mp listed]
    exact .string text
  | _ => exact printable_case (List.forall_mem_nil _)

theorem printable_image (levels : Nat) {image : MachineImage} (storable : StorableImage c image) :
    Printable (levels + 3) (encodeImage c image) := by
  apply printable_keyed
  simp only [imageMembers, List.forall_mem_cons, Option.some.injEq, forall_eq']
  exact ⟨.string _, .string _, printable_availability _ storable.availability, .string _,
    .string _, .string _, printable_origin _ _, printable_optional fun _ => .string _,
    printable_optional fun _ => printable_integer _, printable_optional fun _ => .string _,
    by simp⟩

/-- Port forwards are six levels deep. -/
theorem printable_snapshot {snapshot : LibrarySnapshot} (storable : StorableSnapshot c snapshot) :
    Printable 6 (encodeSnapshot c snapshot) := by
  apply printable_keyed
  simp only [List.forall_mem_cons, Option.some.injEq, forall_eq']
  refine ⟨?_, ?_, printable_integer _, by simp⟩
  · exact printable_array fun image inside => printable_image 1 (storable.images image inside)
  · exact printable_array fun machine inside =>
      printable_machine 0 (storable.machines machine inside)

end Writing

/-! ## The round trip -/

namespace LibraryFile

variable {foundation : Foundation} {c : Conversions}

theorem load_written {data : Data} {text : List Char} {v : JSON} {snapshot : LibrarySnapshot}
    (isText : decodeUTF8 data = some text) (parsed : foundation.parse text = .ok v)
    (written : SnapshotWritten c v snapshot) (storable : StorableSnapshot c snapshot) :
    load foundation c {} (some data) = .ok snapshot := by
  have decoded : decodeData foundation c data = .ok snapshot := by
    unfold decodeData
    rw [isText]
    exact bind_ok_iff.mpr ⟨v, parsed, decodeSnapshot_written written storable⟩
  refine bind_ok_iff.mpr ⟨(), rfl, ?_⟩
  refine bind_ok_iff.mpr ⟨(), rfl, ?_⟩
  rw [decoded]
  simp only [storable.schemaVersion, ne_eq, not_true_eq_false, if_false]
  rfl

theorem save_storable {snapshot : LibrarySnapshot} (storable : StorableSnapshot c snapshot) :
    save c {} snapshot = .ok (utf8 (pretty 0 (encodeSnapshot c snapshot))) := by
  unfold save
  simp only [storable.schemaVersion, ne_eq, not_true_eq_false, if_false]
  rfl

/-- What is saved is loaded by a fresh store with dates to the second. -/
theorem load_saved (deep : 6 ≤ foundation.nesting) {snapshot : LibrarySnapshot}
    (storable : StorableSnapshot c snapshot) : ∃ data, save c {} snapshot = .ok data ∧
      load foundation c {} (some data) = .ok (snapshotToSecond snapshot) := by
  refine ⟨_, save_storable storable, ?_⟩
  have printable := (printable_snapshot storable).mono deep
  exact load_written (decodeUTF8_utf8 _) (parse_pretty foundation printable)
    (written_encodeSnapshot storable) (storable_toSecond storable)

/-- Saving and loading keeps a snapshot but for fractions of seconds, and what was loaded entirely.
A file is loaded as what it holds, with defaults for the keys that came later. -/
theorem library_round_trips (foundation : Foundation) (c : Conversions)
    (deep : 6 ≤ foundation.nesting) :
    (∀ snapshot, StorableSnapshot c snapshot → ∃ data data',
      save c {} snapshot = .ok data ∧
      load foundation c {} (some data) = .ok (snapshotToSecond snapshot) ∧
      save c {} (snapshotToSecond snapshot) = .ok data' ∧
      load foundation c {} (some data') = .ok (snapshotToSecond snapshot)) ∧
    ∀ data text v snapshot, decodeUTF8 data = some text → foundation.parse text = .ok v →
      SnapshotWritten c v snapshot → StorableSnapshot c snapshot →
      load foundation c {} (some data) = .ok snapshot := by
  refine ⟨?_, fun _ _ _ _ isText parsed written storable =>
    load_written isText parsed written storable⟩
  intro snapshot storable
  obtain ⟨data, saved, loaded⟩ := load_saved deep storable
  obtain ⟨data', saved', loaded'⟩ := load_saved deep (storable_toSecond storable)
  rw [snapshotToSecond_twice] at loaded'
  exact ⟨data, data', saved, loaded, saved', loaded'⟩

/-- The doubles 0, 1/2 and 1, and all texts as URLs. -/
def halves : Conversions where
  IsDouble := fun d => d = 0 ∨ d = mkRat 1 2 ∨ d = 1
  literal := fun d => if d = 0 then ['0'] else if d = 1 then ['1'] else ['0', '.', '5']
  double := fun literal =>
    if literal = ['0'] then some 0 else if literal = ['1'] then some 1
    else if literal = ['0', '.', '5'] then some (mkRat 1 2) else none
  url := some
  isNumber := by
    rintro d (rfl | rfl | rfl)
    · exact ⟨[], ['0'], [], [], .inl rfl, .inl rfl, .inl rfl, .inl rfl, by decide⟩
    · exact ⟨[], ['0'], ['.', '5'], [], .inl rfl, .inl rfl, .inr ⟨'5', [], rfl,
        List.forall_mem_singleton.mpr (by decide)⟩, .inl rfl, by decide +kernel⟩
    · exact ⟨[], ['1'], [], [], .inl rfl, .inr ⟨'1', [], rfl, by decide,
        List.forall_mem_singleton.mpr (by decide)⟩, .inl rfl, .inl rfl, by decide⟩
  reads := by
    rintro d (rfl | rfl | rfl) <;> decide +kernel

/-- A machine that is half downloaded, created a third of a second after the reference date. -/
def halfDownloaded : Machine where
  id := ⟨1⟩
  name := "Quote \" and slash /"
  spec :=
    { cpuCount := 4, memorySizeBytes := 4294967296, diskSizeBytes := 68719476736,
      architecture := .arm64, portForwards := [⟨⟨2⟩, 8080, 80⟩], sharedDirectoryPath := some "/tmp" }
  sourceImageID := ⟨3⟩
  disk := ⟨⟨4⟩, "Machines/1/disk.raw", 68719476736⟩
  provisioningState := .downloading (mkRat 1 2)
  bootMedia := .installer ⟨3⟩
  backend := .appleVirtualization
  backendState := ⟨"Machines/1/Apple"⟩
  createdAt := mkRat 1 3

theorem half_downloaded_returns : ∃ data,
    save halves {} { machines := [halfDownloaded], images := [] } = .ok data ∧
      load appleFoundation halves {} (some data) =
        .ok { machines := [{ halfDownloaded with createdAt := 0 }], images := [] } := by
  have storable : StorableSnapshot halves { machines := [halfDownloaded], images := [] } := by
    refine ⟨rfl, ?_, List.forall_mem_nil _⟩
    intro machine listed
    rw [List.mem_singleton.mp listed]
    exact ⟨⟨by decide, by decide⟩, .inr (.inl rfl), by decide +kernel, by decide +kernel⟩
  obtain ⟨data, data', saved, loaded, -⟩ :=
    (library_round_trips appleFoundation halves (by decide)).1 _ storable
  have seconds : snapshotToSecond { machines := [halfDownloaded], images := [] } =
      { machines := [{ halfDownloaded with createdAt := 0 }], images := [] } := by
    decide +kernel
  rw [seconds] at loaded
  exact ⟨data, saved, loaded⟩

end LibraryFile

end SimpleVM.Storage
