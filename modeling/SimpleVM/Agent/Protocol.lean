/-!
# Guest-agent messages

The values host and guest exchange, with the limits both sides state for them.
-/
namespace SimpleVM.Agent

def currentVersion : Int64 := 2

/-- One MiB of UTF-8. -/
def maximumClipboardSize : Nat := 1 * 1024 * 1024

/-- Two MiB of JSON, the length prefix not counted. -/
def maximumPayloadSize : Nat := 2 * 1024 * 1024

def sharedDirectoryTag : String := "share"

def sharedDirectoryMountPoint : String := "/mnt/simplevm-share"

inductive GuestDesktopEnvironment
  | gnome | hyprland | other
deriving DecidableEq, Repr

inductive GuestSessionType
  | wayland | x11 | other
deriving DecidableEq, Repr

inductive GuestAgentCapability
  | gracefulShutdown | gracefulReboot | mountSharedDirectory
  | clipboardRead | clipboardWrite | displayResize
deriving DecidableEq, Repr

def GuestDesktopEnvironment.rawValue : GuestDesktopEnvironment → String
  | .gnome => "gnome"
  | .hyprland => "hyprland"
  | .other => "other"

def GuestSessionType.rawValue : GuestSessionType → String
  | .wayland => "wayland"
  | .x11 => "x11"
  | .other => "other"

def GuestAgentCapability.rawValue : GuestAgentCapability → String
  | .gracefulShutdown => "gracefulShutdown"
  | .gracefulReboot => "gracefulReboot"
  | .mountSharedDirectory => "mountSharedDirectory"
  | .clipboardRead => "clipboardRead"
  | .clipboardWrite => "clipboardWrite"
  | .displayResize => "displayResize"

inductive GuestSharedMountState
  | unavailable | unmounted | mounted | failed
deriving DecidableEq, Repr

structure GuestSharedMountStatus where
  state : GuestSharedMountState
  tag : String := sharedDirectoryTag
  mountPoint : String := sharedDirectoryMountPoint
  message : Option String := none
deriving DecidableEq, Repr

inductive GuestAgentRequest
  | hello (protocolVersion : Int64)
  | status
  | shutdown
  | reboot
  | mountSharedDirectory
  | readClipboard
  | writeClipboard (text : String)
  | resizeDisplay (width height : Int64)
deriving DecidableEq, Repr

structure GuestAgentStatus where
  protocolVersion : Int64
  agentVersion : String
  hostname : String
  ipAddresses : List String
  operatingSystem : String
  distroID : String
  distroVersion : String
  desktopEnvironment : GuestDesktopEnvironment
  sessionType : GuestSessionType
  capabilities : List GuestAgentCapability
  sharedMountStatus : GuestSharedMountStatus
deriving DecidableEq, Repr

structure GuestAgentFailure where
  code : String
  message : String
deriving DecidableEq, Repr

inductive GuestAgentResponse
  | hello (protocolVersion : Int64)
  | status (status : GuestAgentStatus)
  | accepted
  | clipboard (text : String)
  | failure (failure : GuestAgentFailure)
deriving DecidableEq, Repr

/-- `requestID` is absent only on envelopes decoded from the version 1 form. -/
structure GuestAgentRequestEnvelope where
  protocolVersion : Int64 := currentVersion
  requestID : Option String
  request : GuestAgentRequest
deriving DecidableEq, Repr

structure GuestAgentResponseEnvelope where
  protocolVersion : Int64 := currentVersion
  requestID : Option String
  response : GuestAgentResponse
deriving DecidableEq, Repr

/-- `GuestDisplaySize.isValid`. -/
def isValidDisplaySize (width height : Int64) : Bool :=
  decide (640 ≤ width ∧ width ≤ 16384) && decide (480 ≤ height ∧ height ≤ 16384)

inductive GuestAgentProtocolError
  | payloadTooLarge
  | clipboardTooLarge
  | incompleteFrame
  | invalidDisplaySize
  | invalidMessage (message : String)
  | incompatibleVersion (version : Int64)
  | mismatchedRequestID
deriving DecidableEq, Repr

end SimpleVM.Agent
