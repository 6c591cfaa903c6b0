import SimpleVM.Domain.Machine
import SimpleVM.Storage.Volume

/-!
# The command line of QEMU

`QEMUConfigurationBuilder` with its two argument builders. A URL stands for its path. What the
builder asks of the file system, and how Unicode joins characters, is its environment.
-/
namespace SimpleVM.QEMU

open Domain Storage

inductive QEMUDisplayBackend
  | vnc
  | spiceGL (resourceDirectoryURL : String)
deriving DecidableEq, Repr

inductive QEMUAcceleration
  | tcg | hvf
deriving DecidableEq, Repr

inductive QEMUImageFormat
  | raw | qcow2
deriving DecidableEq, Repr

def QEMUImageFormat.rawValue : QEMUImageFormat → String
  | .raw => "raw"
  | .qcow2 => "qcow2"

/-- The fields of `QEMURuntime` that the builder reads. -/
structure QEMURuntime where
  architecture : GuestArchitecture := .x86_64
  systemExecutableURL : String
  firmwareCodeURL : String
  displayBackend : QEMUDisplayBackend := .vnc
  acceleration : QEMUAcceleration := .tcg
  softwareTPMExecutableURL : Option String := none
deriving DecidableEq, Repr

structure QEMUSoftwareTPMConfiguration where
  executableURL : String
  stateURL : String
  socketURL : String
  logURL : String
deriving DecidableEq, Repr

structure QEMUConfiguration where
  executableURL : String
  arguments : List String
  vncPort : UInt16
  qmpSocketURL : String
  logURL : String
  spiceSocketURL : Option String := none
  agentSocketURL : Option String := none
  qemuGuestAgentSocketURL : Option String := none
  softwareTPM : Option QEMUSoftwareTPMConfiguration := none
deriving DecidableEq, Repr

/-- Its initializer keeps both sides from being too small. -/
structure QEMUDisplaySize where
  width : Int
  height : Int
  width_min : 640 ≤ width
  height_min : 480 ≤ height
deriving DecidableEq, Repr

def QEMUDisplaySize.clamped (width height : Int) : QEMUDisplaySize where
  width := max 640 width
  height := max 480 height
  width_min := by omega
  height_min := by omega

def QEMUDisplaySize.fallback : QEMUDisplaySize := .clamped 1280 800

inductive QEMUConfigurationError
  | unsupportedGuest
  | runtimeArchitectureMismatch
  | invalidVNCPort
  | sharedDirectoryUnavailable (path : String)
  | rosettaUnavailable
  | missingHardwareProfile
  | invalidHardwareProfile
  | softwareTPMUnavailable
  /-- An error of `FileManager` or `FileHandle`. -/
  | file (message : String)
deriving DecidableEq, Repr

def QEMUConfigurationError.errorDescription : QEMUConfigurationError → String
  | .unsupportedGuest => "QEMU does not support this guest OS and architecture combination."
  | .runtimeArchitectureMismatch =>
    "The discovered QEMU runtime does not match the guest architecture."
  | .invalidVNCPort => "The selected VNC port is invalid."
  | .sharedDirectoryUnavailable path =>
    "The configured shared directory is unavailable: " ++ path
  | .rosettaUnavailable => "Apple Rosetta cannot be attached to a Windows guest."
  | .missingHardwareProfile => "The Windows machine is missing its virtual hardware identity."
  | .invalidHardwareProfile => "The Windows machine has an invalid virtual hardware profile."
  | .softwareTPMUnavailable => "The Windows machine requires a TPM 2.0 runtime."
  | .file message => message

/-- What the builder finds outside its arguments. -/
structure BuilderEnvironment where
  /-- `NSTemporaryDirectory()`. -/
  temporaryDirectory : String
  isDirectory : String → Bool
  /-- The first error of making the directory, of the copies and of the removals. -/
  preparationError : Option String := none
  codeFormat : Except String QEMUImageFormat := .ok .raw
  variablesFormat : Except String QEMUImageFormat := .ok .raw
  /-- Two scalars that stand side by side belong to one character. -/
  joins : Char → Char → Bool

/-- `URL.appending(path:)` for one name. -/
def appending (directory name : String) : String :=
  if directory.toList.getLast? = some '/' then directory ++ name else directory ++ "/" ++ name

/-- `deletingLastPathComponent()`. -/
def deletingLastPathComponent (path : String) : String :=
  String.ofList ((path.toList.reverse.dropWhile fun c => decide (c ≠ '/')).drop 1).reverse

/-- `replacingOccurrences(of: ",", with: ",,")` after the scalar `previous`. It goes by characters:
a comma that is joined to a neighbour is none. -/
def replacingCommas (joins : Char → Char → Bool) : Option Char → List Char → List Char
  | _, [] => []
  | previous, c :: rest =>
    if c = ',' ∧ previous.all (fun p => !joins p c) = true ∧
        rest.head?.all (fun n => !joins c n) = true then
      ',' :: ',' :: replacingCommas joins (some c) rest
    else c :: replacingCommas joins (some c) rest

def escapedName (env : BuilderEnvironment) (name : String) : String :=
  String.ofList (replacingCommas env.joins none name.toList)

structure RuntimePaths where
  codeURL : String
  codeFormat : QEMUImageFormat
  variablesURL : String
  variablesFormat : QEMUImageFormat
  qmpURL : String
  agentURL : String
  qgaURL : String
  spiceURL : String
  tpmURL : String
  logURL : String
  serialURL : String
  resourceDirectoryURL : String
deriving DecidableEq, Repr

/-- The name of a socket of the machine. -/
def socketName (machine : Machine) (suffix : String) : String :=
  "svm-" ++ String.ofList ((uuidString machine.id).toList.take 8) ++ suffix

def preparePaths (env : BuilderEnvironment) (machine : Machine) (backendStateURL : String)
    (runtime : QEMURuntime) : Except QEMUConfigurationError RuntimePaths :=
  match env.preparationError, env.codeFormat, env.variablesFormat with
  | some message, _, _ => .error (.file message)
  | none, .error message, _ => .error (.file message)
  | none, .ok _, .error message => .error (.file message)
  | none, .ok codeFormat, .ok variablesFormat =>
    let socket (suffix : String) := appending env.temporaryDirectory (socketName machine suffix)
    .ok
      { codeURL := appending backendStateURL "efi-code.fd"
        codeFormat := codeFormat
        variablesURL := appending backendStateURL "efi-vars.fd"
        variablesFormat := variablesFormat
        qmpURL := socket "-qmp.sock"
        agentURL := socket "-agent.sock"
        qgaURL := socket "-qga.sock"
        spiceURL := socket "-spice.sock"
        tpmURL := socket "-tpm.sock"
        logURL := appending backendStateURL "qemu.log"
        serialURL := appending backendStateURL "serial.log"
        resourceDirectoryURL := match runtime.displayBackend with
          | .vnc => deletingLastPathComponent runtime.firmwareCodeURL
          | .spiceGL url => url }

/-- `validateSharedDirectory` of the directory that is configured, if any. -/
def validateSharedDirectory (env : BuilderEnvironment) :
    Option String → Except QEMUConfigurationError Unit
  | none => .ok ()
  | some path => if env.isDirectory path then .ok () else .error (.sharedDirectoryUnavailable path)

def hostForward (forward : PortForward) : String :=
  "hostfwd=tcp:127.0.0.1:" ++ toString forward.hostPort.toNat ++ "-:" ++
    toString forward.guestPort.toNat

def networkDefinition (machine : Machine) : String :=
  ",".intercalate (["user", "id=net0"] ++ machine.spec.portForwards.map hostForward)

/-- The value of `-drive` for the firmware. -/
def codeDrive (paths : RuntimePaths) : String :=
  "if=pflash,format=" ++ paths.codeFormat.rawValue ++ ",unit=0,readonly=on,file=" ++ paths.codeURL

def variablesDrive (paths : RuntimePaths) : String :=
  "if=pflash,format=" ++ paths.variablesFormat.rawValue ++ ",unit=1,file=" ++ paths.variablesURL

def systemDrive (diskURL : String) : String :=
  "if=none,id=system-disk,file=" ++ diskURL ++
    ",format=raw,cache=writeback,aio=threads,discard=unmap,detect-zeroes=unmap"

/-- The value of `-drive` for a CD. -/
def cdDrive (id url : String) : String :=
  "if=none,id=" ++ id ++ ",file=" ++ url ++ ",media=cdrom,readonly=on"

/-- The value of `-chardev` for a socket that QEMU listens on. -/
def serverSocket (id url : String) : String :=
  "socket,id=" ++ id ++ ",path=" ++ url ++ ",server=on,wait=off"

def qmpSocket (paths : RuntimePaths) : String :=
  "unix:" ++ paths.qmpURL ++ ",server=on,wait=off"

def spiceServer (gl : String) (paths : RuntimePaths) : String :=
  "unix=on,addr=" ++ paths.spiceURL ++ ",disable-ticketing=on,gl=" ++ gl ++
    ",image-compression=off,playback-compression=off,streaming-video=off"

def audioBackend : QEMUDisplayBackend → String
  | .vnc => "coreaudio,id=audio0"
  | .spiceGL _ => "spice,id=audio0"

def linuxCPUCount (machine : Machine) : QEMUDisplayBackend → Int
  | .vnc => min machine.spec.cpuCount 2
  | .spiceGL _ => machine.spec.cpuCount

def linuxAccelerator : QEMUDisplayBackend → String
  | .vnc => "tcg,tb-size=1024"
  | .spiceGL _ => "tcg,thread=multi,tb-size=2048"

/-- The arguments of every x86 Linux guest. -/
def linuxArguments (env : BuilderEnvironment) (machine : Machine) (diskURL : String)
    (runtime : QEMURuntime) (paths : RuntimePaths) : List String :=
  ["-name", escapedName env machine.name,
    "-machine", "q35,hpet=off",
    "-accel", linuxAccelerator runtime.displayBackend,
    "-cpu", "max",
    "-smp", toString (linuxCPUCount machine runtime.displayBackend),
    "-m", toString (max 512 (machine.spec.memorySizeBytes.toNat / 1024 / 1024)),
    "-nodefaults",
    "-qmp", qmpSocket paths,
    "-serial", "file:" ++ paths.serialURL,
    "-device", "virtio-serial-pci",
    "-chardev", serverSocket "agent" paths.agentURL,
    "-device", "virtserialport,chardev=agent,name=com.simplevm.agent.0",
    "-drive", codeDrive paths,
    "-drive", variablesDrive paths,
    "-drive", systemDrive diskURL,
    "-device", "virtio-blk-pci,drive=system-disk,bootindex=0",
    "-device", "virtio-rng-pci",
    "-netdev", networkDefinition machine,
    "-device", "virtio-net-pci,netdev=net0",
    "-audiodev", audioBackend runtime.displayBackend,
    "-device", "ich9-intel-hda,id=hda",
    "-device", "hda-output,bus=hda.0,audiodev=audio0"]

/-- The one path that is escaped. -/
def sharedDirectoryArguments (env : BuilderEnvironment) : Option String → List String
  | none => []
  | some path =>
    ["-fsdev", "local,id=shared,path=" ++ escapedName env path ++
      ",security_model=mapped-xattr,multidevs=remap",
      "-device", "virtio-9p-pci,fsdev=shared,mount_tag=share"]

def linuxDisplayArguments (vncPort : UInt16) (displaySize : QEMUDisplaySize)
    (paths : RuntimePaths) : QEMUDisplayBackend → List String
  | .vnc =>
    ["-display", "none",
      "-vnc", "127.0.0.1:" ++ toString ((vncPort.toNat : Int) - 5900),
      "-device", "virtio-vga,xres=" ++ toString displaySize.width ++ ",yres=" ++
        toString displaySize.height,
      "-device", "qemu-xhci",
      "-device", "usb-kbd",
      "-device", "usb-tablet"]
  | .spiceGL resourceDirectoryURL =>
    ["-L", resourceDirectoryURL,
      "-display", "none",
      "-spice", spiceServer "on" paths,
      "-device", "virtio-vga-gl,xres=" ++ toString displaySize.width ++ ",yres=" ++
        toString displaySize.height,
      "-chardev", "spicevmc,id=vdagent,name=vdagent",
      "-device", "virtserialport,chardev=vdagent,name=com.redhat.spice.0",
      "-device", "virtio-keyboard-pci",
      "-device", "virtio-tablet-pci"]

def linuxInstallerArguments : Option String → List String
  | none => []
  | some url =>
    ["-drive", cdDrive "installer" url, "-device", "ide-cd,drive=installer,bootindex=1"]

def makeLinuxX86 (env : BuilderEnvironment) (machine : Machine) (diskURL : String)
    (installerURL : Option String) (backendStateURL : String) (runtime : QEMURuntime)
    (vncPort : UInt16) (displaySize : QEMUDisplaySize) :
    Except QEMUConfigurationError QEMUConfiguration := do
  if runtime.architecture ≠ .x86_64 then
    throw .runtimeArchitectureMismatch
  let paths ← preparePaths env machine backendStateURL runtime
  validateSharedDirectory env machine.spec.sharedDirectoryPath
  pure
    { executableURL := runtime.systemExecutableURL
      arguments := linuxArguments env machine diskURL runtime paths ++
        (sharedDirectoryArguments env machine.spec.sharedDirectoryPath ++
          (linuxDisplayArguments vncPort displaySize paths runtime.displayBackend ++
            linuxInstallerArguments installerURL))
      vncPort := vncPort
      qmpSocketURL := paths.qmpURL
      logURL := paths.logURL
      spiceSocketURL := if runtime.displayBackend = .vnc then none else some paths.spiceURL
      agentSocketURL := some paths.agentURL }

def isHexDigit (c : Char) : Bool :=
  c.isDigit || decide ('a' ≤ c ∧ c ≤ 'f') || decide ('A' ≤ c ∧ c ≤ 'F')

/-- `UInt8(part, radix: 16) != nil` of two characters, of which the first may be a sign. -/
def isHexByte : List Char → Bool
  | [first, second] =>
    (isHexDigit first && isHexDigit second) || (decide (first = '+') && isHexDigit second) ||
      (decide (first = '-') && decide (second = '0'))
  | _ => false

/-- `split(separator:)`, which leaves empty parts out. -/
def parts (separator : Char) (chars : List Char) : List (List Char) :=
  (chars.foldr (fun c parts =>
    if c = separator then [] :: parts
    else match parts with
      | [] => [[c]]
      | part :: rest => (c :: part) :: rest) [[]]).filter fun part => !part.isEmpty

def isValidMACAddress (value : String) : Bool :=
  decide ((parts ':' value.toList).length = 6) && (parts ':' value.toList).all isHexByte

/-- `hasPrefix("virt-")`. -/
def isVirt (env : BuilderEnvironment) (machineType : String) : Bool :=
  match machineType.toList with
  | 'v' :: 'i' :: 'r' :: 't' :: '-' :: rest => rest.head?.all fun n => !env.joins '-' n
  | _ => false

def usbCDArguments (id url : String) (bootIndex : Option Nat) : List String :=
  ["-drive", cdDrive id url,
    "-device", "usb-storage,drive=" ++ id ++ ",removable=on,bus=usb-bus.0" ++
      match bootIndex with
      | none => ""
      | some bootIndex => ",bootindex=" ++ toString bootIndex]

/-- The arguments of every ARM64 Windows guest. -/
def windowsArguments (env : BuilderEnvironment) (machine : Machine) (profile : QEMUHardwareProfile)
    (diskURL : String) (paths : RuntimePaths) : List String :=
  ["-name", escapedName env machine.name,
    "-machine", if machine.spec.cpuCount > 8 then profile.machineType ++ ",gic-version=3"
      else profile.machineType,
    "-accel", "hvf",
    "-cpu", "host",
    "-smp", toString machine.spec.cpuCount,
    "-m", toString (max 4096 (machine.spec.memorySizeBytes.toNat / 1024 / 1024)),
    "-nodefaults",
    "-uuid", uuidString profile.hardwareUUID,
    "-rtc", "base=localtime",
    "-qmp", qmpSocket paths,
    "-serial", "file:" ++ paths.serialURL,
    "-drive", codeDrive paths,
    "-drive", variablesDrive paths,
    "-chardev", "socket,id=chrtpm0,path=" ++ paths.tpmURL,
    "-tpmdev", "emulator,id=tpm0,chardev=chrtpm0",
    "-device", "tpm-crb-device,tpmdev=tpm0",
    "-drive", systemDrive diskURL,
    "-device", "nvme,drive=system-disk,serial=" ++
      String.ofList ((uuidString profile.hardwareUUID).toList.filter fun c => decide (c ≠ '-')) ++
      ",bootindex=0",
    "-device", "virtio-rng-pci",
    "-netdev", networkDefinition machine,
    "-device", "virtio-net-pci,netdev=net0,mac=" ++ profile.macAddress,
    "-audiodev", "spice,id=audio0",
    "-device", "intel-hda,id=hda",
    "-device", "hda-duplex,bus=hda.0,audiodev=audio0",
    "-device", "nec-usb-xhci,id=usb-bus",
    "-device", "usb-kbd,bus=usb-bus.0",
    "-device", "usb-tablet,bus=usb-bus.0",
    "-device", "virtio-serial-pci",
    "-chardev", serverSocket "qga" paths.qgaURL,
    "-device", "virtserialport,chardev=qga,name=org.qemu.guest_agent.0",
    "-L", paths.resourceDirectoryURL,
    "-display", "none",
    "-spice", spiceServer "off" paths,
    "-device", if machine.spec.displayMode = .compatibility then "ramfb" else "virtio-ramfb",
    "-chardev", "spicevmc,id=vdagent,name=vdagent",
    "-device", "virtserialport,chardev=vdagent,name=com.redhat.spice.0"]

def webDAVArguments : Option String → List String
  | none => []
  | some _ =>
    ["-chardev", "spiceport,name=org.spice-space.webdav.0,id=webdav",
      "-device", "virtserialport,chardev=webdav,name=org.spice-space.webdav.0"]

def windowsInstallerArguments : Option String → List String
  | none => []
  | some url => usbCDArguments "installer" url (some 1)

def supportToolsArguments (machine : Machine) : Option String → List String
  | none => []
  | some url =>
    if machine.spec.windowsSupportToolsAttached then usbCDArguments "support-tools" url none else []

def makeWindowsARM64 (env : BuilderEnvironment) (machine : Machine) (diskURL : String)
    (installerURL supportToolsURL : Option String) (backendStateURL : String)
    (runtime : QEMURuntime) (vncPort : UInt16) :
    Except QEMUConfigurationError QEMUConfiguration := do
  if runtime.architecture ≠ .arm64 ∨ runtime.acceleration ≠ .hvf then
    throw .runtimeArchitectureMismatch
  if machine.spec.rosettaEnabled then
    throw .rosettaUnavailable
  let some profile := machine.spec.qemuHardwareProfile | throw .missingHardwareProfile
  if !(isVirt env profile.machineType && isValidMACAddress profile.macAddress) then
    throw .invalidHardwareProfile
  let some swtpmExecutableURL := runtime.softwareTPMExecutableURL | throw .softwareTPMUnavailable
  let paths ← preparePaths env machine backendStateURL runtime
  validateSharedDirectory env machine.spec.sharedDirectoryPath
  pure
    { executableURL := runtime.systemExecutableURL
      arguments := windowsArguments env machine profile diskURL paths ++
        (webDAVArguments machine.spec.sharedDirectoryPath ++
          (windowsInstallerArguments installerURL ++
            supportToolsArguments machine supportToolsURL))
      vncPort := vncPort
      qmpSocketURL := paths.qmpURL
      logURL := paths.logURL
      spiceSocketURL := some paths.spiceURL
      qemuGuestAgentSocketURL := some paths.qgaURL
      softwareTPM := some
        { executableURL := swtpmExecutableURL
          stateURL := appending backendStateURL "tpm-state"
          socketURL := paths.tpmURL
          logURL := appending backendStateURL "swtpm.log" } }

/-- `QEMUConfigurationBuilder.make`. -/
def make (env : BuilderEnvironment) (machine : Machine) (diskURL : String)
    (installerURL supportToolsURL : Option String) (backendStateURL : String)
    (runtime : QEMURuntime) (vncPort : UInt16) (displaySize : QEMUDisplaySize := .fallback) :
    Except QEMUConfigurationError QEMUConfiguration :=
  if vncPort < 5900 then .error .invalidVNCPort
  else match machine.spec.operatingSystem, machine.spec.architecture with
    | .linux, .x86_64 =>
      makeLinuxX86 env machine diskURL installerURL backendStateURL runtime vncPort displaySize
    | .windows, .arm64 =>
      makeWindowsARM64 env machine diskURL installerURL supportToolsURL backendStateURL runtime
        vncPort
    | .linux, .arm64 | .windows, .x86_64 => .error .unsupportedGuest

end SimpleVM.QEMU
