/-!
# Machines

The persisted description of a machine.
-/
namespace SimpleVM.Domain

structure UUID where
  bits : BitVec 128
deriving DecidableEq, Repr

inductive GuestOperatingSystem
  | linux | windows
deriving DecidableEq, Repr

inductive GuestArchitecture
  | arm64 | x86_64
deriving DecidableEq, Repr

def GuestOperatingSystem.displayName : GuestOperatingSystem → String
  | .linux => "Linux"
  | .windows => "Windows 11"

def GuestArchitecture.displayName : GuestArchitecture → String
  | .arm64 => "ARM64"
  | .x86_64 => "x86_64"

inductive VirtualizationBackendKind
  | appleVirtualization | qemu
deriving DecidableEq, Repr

/-- `VirtualizationBackendKind.resolve`; `none` is the unsupported combination. -/
def VirtualizationBackendKind.resolve :
    GuestOperatingSystem → GuestArchitecture → Option VirtualizationBackendKind
  | .linux, .arm64 => some .appleVirtualization
  | .linux, .x86_64 => some .qemu
  | .windows, .arm64 => some .qemu
  | .windows, .x86_64 => none

inductive MachineInputProfile
  | automatic | macOSGNOME | macOSHyprland | macOSWindows | linuxPassthrough
deriving DecidableEq, Repr

inductive MachineDisplayMode
  | automatic | compatibility
deriving DecidableEq, Repr

structure PortForward where
  id : UUID
  hostPort : UInt16
  guestPort : UInt16
deriving DecidableEq, Repr

/-- `PortForwardValidator.validate` lets it pass. -/
def PortForward.isValid (forward : PortForward) : Bool :=
  decide (forward.hostPort > 0) && decide (forward.guestPort > 0)

structure QEMUHardwareProfile where
  machineType : String
  hardwareUUID : UUID
  macAddress : String
deriving DecidableEq, Repr

/-- One byte as `%02X`. -/
def hexByte (byte : Nat) : String :=
  let digit (n : Nat) : Char := ("0123456789ABCDEF".toList[n]?).getD '0'
  String.ofList [digit (byte / 16 % 16), digit (byte % 16)]

/-- The first six bytes of the UUID, made a locally administered unicast address. -/
def QEMUHardwareProfile.addressBytes (hardwareUUID : UUID) : List Nat :=
  match (List.range 6).map fun i => (hardwareUUID.bits >>> (120 - 8 * i)).toNat % 256 with
  | first :: rest => (first &&& 0xfc ||| 0x02) :: rest
  | [] => []

namespace QEMUHardwareProfile

/-- `QEMUHardwareProfile.macAddress(for:)`. -/
def macAddressFor (hardwareUUID : UUID) : String :=
  ":".intercalate ((addressBytes hardwareUUID).map hexByte)

def windowsARM64 (hardwareUUID : UUID) (machineType : String := "virt-10.0") :
    QEMUHardwareProfile where
  machineType := machineType
  hardwareUUID := hardwareUUID
  macAddress := macAddressFor hardwareUUID

end QEMUHardwareProfile

structure MachineSpec where
  cpuCount : Int
  memorySizeBytes : UInt64
  diskSizeBytes : UInt64
  architecture : GuestArchitecture
  operatingSystem : GuestOperatingSystem := .linux
  sharedDirectoryPath : Option String := none
  rosettaEnabled : Bool := false
  portForwards : List PortForward := []
  inputProfile : MachineInputProfile := .automatic
  customInputProfileID : Option UUID := none
  qemuHardwareProfile : Option QEMUHardwareProfile := none
  displayMode : MachineDisplayMode := .automatic
  windowsSupportToolsAttached : Bool := false
deriving DecidableEq, Repr

inductive MachineProvisioningState
  | downloading (progress : Rat)
  | verifying
  | preparingDisk
  | readyToInstall
  | installing
  | ready
  | failed (message : String)
deriving DecidableEq, Repr

inductive MachineRuntimeState
  | stopped
  | starting
  | running
  | stopping
  | failed (message : String)
deriving DecidableEq, Repr

namespace MachineRuntimeState

def canStart : MachineRuntimeState → Bool
  | .stopped | .failed _ => true
  | .starting | .running | .stopping => false

/-- The initial state of a runtime object for a machine recorded in state `s`. -/
def restored (s : MachineRuntimeState) : MachineRuntimeState :=
  match s with
  | .running | .starting | .stopping => .stopped
  | s => s

/-- The state a start or a run that failed leaves. -/
def hasFailed : MachineRuntimeState → Bool
  | .failed _ => true
  | .stopped | .starting | .running | .stopping => false

theorem restored_of_unfailed (s : MachineRuntimeState) (unfailed : s.hasFailed = false) :
    s.restored = .stopped := by
  cases s with
  | failed message => cases unfailed
  | stopped | starting | running | stopping => rfl

@[simp] theorem restored_canStart (s : MachineRuntimeState) : s.restored.canStart = true := by
  cases s <;> rfl

end MachineRuntimeState

inductive BootMedia
  | installer (imageID : UUID)
  | systemDisk
deriving DecidableEq, Repr

structure MachineDisk where
  id : UUID
  relativePath : String
  capacityBytes : UInt64
deriving DecidableEq, Repr

structure BackendStateReference where
  relativeDirectory : String
deriving DecidableEq, Repr

structure Machine where
  id : UUID
  name : String
  spec : MachineSpec
  sourceImageID : UUID
  disk : MachineDisk
  provisioningState : MachineProvisioningState
  runtimeState : MachineRuntimeState := .stopped
  bootMedia : BootMedia
  backend : VirtualizationBackendKind
  backendState : BackendStateReference
  createdAt : Rat
deriving DecidableEq, Repr

/-- The record `cloneMachine` appends for `source`; a Windows clone gets hardware of its own. -/
def Machine.cloned (source : Machine) (id hardwareUUID : UUID) (disk : MachineDisk)
    (backendState : BackendStateReference) (now : Rat) : Machine where
  id := id
  name := source.name ++ " Copy"
  spec := { source.spec with
    qemuHardwareProfile := source.spec.qemuHardwareProfile.map fun profile =>
      .windowsARM64 hardwareUUID profile.machineType }
  sourceImageID := source.sourceImageID
  disk := disk
  provisioningState := source.provisioningState
  bootMedia := source.bootMedia
  backend := source.backend
  backendState := backendState
  createdAt := now

end SimpleVM.Domain
