import SimpleVM.Agent.GuestProtocol
import SimpleVM.Agent.Protocol
import SimpleVM.Swift.JSONDecoder

/-!
# The host decodes responses

The `init(from:)` of the responses in `GuestAgentProtocol.swift`, and the frame codec around them.
A response without an envelope is one of protocol version 1.
-/
namespace SimpleVM.Agent

open Swift Text

/-- Decoding ends in an error of the decoder, or in one that a type throws itself. -/
inductive Thrown
  | decoding (error : DecodingError)
  | agent (error : GuestAgentProtocolError)
deriving DecidableEq, Repr

/-- `try` -/
def attempt {α : Type} (result : Except DecodingError α) : Except Thrown α :=
  result.mapError .decoding

section Enumerations

def GuestDesktopEnvironment.ofRawValue : String → Option GuestDesktopEnvironment
  | "gnome" => some .gnome
  | "hyprland" => some .hyprland
  | "other" => some .other
  | _ => none

def GuestSessionType.ofRawValue : String → Option GuestSessionType
  | "wayland" => some .wayland
  | "x11" => some .x11
  | "other" => some .other
  | _ => none

def GuestAgentCapability.ofRawValue : String → Option GuestAgentCapability
  | "gracefulShutdown" => some .gracefulShutdown
  | "gracefulReboot" => some .gracefulReboot
  | "mountSharedDirectory" => some .mountSharedDirectory
  | "clipboardRead" => some .clipboardRead
  | "clipboardWrite" => some .clipboardWrite
  | "displayResize" => some .displayResize
  | _ => none

theorem ofRawValue_rawValue (capability : GuestAgentCapability) :
    GuestAgentCapability.ofRawValue capability.rawValue = some capability := by
  cases capability <;> rfl

/-- `GuestSharedMountState.init(from:)`, which takes the guest's names too. -/
def GuestSharedMountState.ofLabel : String → Option GuestSharedMountState
  | "unavailable" => some .unavailable
  | "unmounted" | "notMounted" => some .unmounted
  | "mounted" => some .mounted
  | "failed" | "error" | "occupied" => some .failed
  | _ => none

inductive ResponseType
  | hello | status | accepted | clipboard | failure
deriving DecidableEq, Repr

def ResponseType.ofRawValue : String → Option ResponseType
  | "hello" => some .hello
  | "status" => some .status
  | "accepted" => some .accepted
  | "clipboard" => some .clipboard
  | "failure" => some .failure
  | _ => none

end Enumerations

variable (foundation : Foundation)

section Responses

def decodeSharedMountStatus (v : JSON) : Except DecodingError GuestSharedMountStatus := do
  let members ← container v
  let state ← decode members "state" (decodeRawValue GuestSharedMountState.ofLabel)
  let tag ← decode members "tag" decodeString
  let mountPoint ← decode members "mountPoint" decodeString
  let message ← decodeIfPresent members "message" decodeString
  return { state, tag, mountPoint, message }

/-- The mount of a status that names none, from the directories that older tools list. -/
def decodeSharedDirectories (members : List (String × JSON)) :
    Except DecodingError GuestSharedMountStatus := do
  let paths ← decodeIfPresent members "sharedDirectories" (decodeArray decodeString)
  match paths.bind List.head? with
  | none => return { state := .unmounted }
  | some path => return { state := .mounted, message := some path }

/-- `GuestAgentStatus.init(from:)`. The set of capabilities is a list without duplicates. -/
def decodeStatus (v : JSON) : Except DecodingError GuestAgentStatus := do
  let members ← container v
  let protocolVersion ← decode members "protocolVersion" foundation.decodeInt
  let agentVersion ← decodeIfPresent members "agentVersion" decodeString
  let hostname ← decode members "hostname" decodeString
  let ipAddresses ← decodeIfPresent members "ipAddresses" (decodeArray decodeString)
  let operatingSystem ← decodeIfPresent members "operatingSystem" decodeString
  let distroID ← decodeIfPresent members "distroID" decodeString
  let distroVersion ← decodeIfPresent members "distroVersion" decodeString
  let desktopEnvironment ← decodeIfPresent members "desktopEnvironment"
    (decodeRawValue GuestDesktopEnvironment.ofRawValue)
  let sessionType ← decodeIfPresent members "sessionType"
    (decodeRawValue GuestSessionType.ofRawValue)
  let capabilities ← decodeIfPresent members "capabilities"
    (decodeArray (decodeRawValue GuestAgentCapability.ofRawValue))
  let mount ← decodeIfPresent members "sharedMountStatus" decodeSharedMountStatus
  let sharedMountStatus ← match mount with
    | some status => pure status
    | none => decodeSharedDirectories members
  return {
    protocolVersion, hostname, sharedMountStatus
    agentVersion := agentVersion.getD "unknown"
    ipAddresses := ipAddresses.getD []
    operatingSystem := operatingSystem.getD "Linux"
    distroID := distroID.getD "unknown"
    distroVersion := distroVersion.getD "unknown"
    desktopEnvironment := desktopEnvironment.getD .other
    sessionType := sessionType.getD .other
    capabilities := (capabilities.getD []).eraseDups }

/-- `LegacyHello` -/
def decodeLegacyHello (v : JSON) : Except DecodingError Int64 := do
  decode (← container v) "protocolVersion" foundation.decodeInt

/-- `LegacyFailure` -/
def decodeLegacyFailure (v : JSON) : Except DecodingError String := do
  decode (← container v) "message" decodeString

def decodeClipboard (members : List (String × JSON)) : Except Thrown GuestAgentResponse := do
  let text ← attempt (decode members "text" decodeString)
  if text.utf8ByteSize ≤ maximumClipboardSize then return .clipboard text
  else throw (.agent .clipboardTooLarge)

def decodeFailure (members : List (String × JSON)) : Except DecodingError GuestAgentResponse := do
  let code ← decodeIfPresent members "code" decodeString
  let message ← decode members "message" decodeString
  return .failure ⟨code.getD "guestError", message⟩

/-- A response that names its type. -/
def decodeTyped (v : JSON) (members : List (String × JSON)) :
    ResponseType → Except Thrown GuestAgentResponse
  | .hello => attempt do
    return .hello (← decode members "protocolVersion" foundation.decodeInt)
  | .status => attempt do
    if contains members "status" then
      return .status (← decode members "status" (decodeStatus foundation))
    else return .status (← decodeStatus foundation v)
  | .accepted => .ok .accepted
  | .clipboard => decodeClipboard members
  | .failure => attempt (decodeFailure members)

/-- A response of protocol version 1, told by the key it has. -/
def decodeUntyped (members : List (String × JSON)) : Except DecodingError GuestAgentResponse := do
  match ← decodeIfPresent members "hello" (decodeLegacyHello foundation) with
  | some version => return .hello version
  | none =>
    if contains members "status" then
      return .status (← decode members "status" (decodeStatus foundation))
    else if contains members "accepted" then return .accepted
    else
      match ← decodeIfPresent members "failure" decodeLegacyFailure with
      | some message => return .failure ⟨"legacyFailure", message⟩
      | none => throw .dataCorrupted

/-- `GuestAgentResponse.init(from:)` -/
def decodeResponse (v : JSON) : Except Thrown GuestAgentResponse := do
  let members ← attempt (container v)
  match ← attempt (decodeIfPresent members "type" (decodeRawValue ResponseType.ofRawValue)) with
  | some type => decodeTyped foundation v members type
  | none => attempt (decodeUntyped foundation members)

/-- The version of a response that comes without an envelope. -/
def GuestAgentResponse.version : GuestAgentResponse → Int64
  | .hello version => version
  | .status reported => reported.protocolVersion
  | .accepted | .clipboard _ | .failure _ => 1

/-- `GuestAgentResponseEnvelope.init(from:)` -/
def decodeResponseEnvelope (v : JSON) : Except Thrown GuestAgentResponseEnvelope := do
  let members ← attempt (container v)
  if contains members "response" then
    let protocolVersion ← attempt (decode members "protocolVersion" foundation.decodeInt)
    let requestID ← attempt (decodeIfPresent members "requestID" decodeString)
    match members.lookup "response" with
    | some response => return { protocolVersion, requestID, response := ← decodeResponse foundation response }
    | none => throw (.decoding .keyNotFound)
  else
    let response ← decodeResponse foundation v
    return { protocolVersion := response.version, requestID := none, response }

end Responses

section Frames

/-- `JSONDecoder().decode(T.self, from:)` of UTF-8 data. -/
def decodeJSON {α : Type} (value : JSON → Except Thrown α) (data : List UInt8) : Except Thrown α :=
  match decodeUTF8 data with
  | none => .error (.decoding .dataCorrupted)
  | some text => do value (← attempt (foundation.parse text))

/-- `GuestAgentFrameCodec.decode` of a response envelope. -/
def decodeFrame (frame : List UInt8) : Except GuestAgentProtocolError GuestAgentResponseEnvelope :=
  if frame.length < 4 then .error .incompleteFrame
  else
    let length := unpackHeader (frame.take 4)
    if maximumPayloadSize < length then .error .payloadTooLarge
    else if frame.length ≠ length + 4 then .error .incompleteFrame
    else
      match decodeJSON foundation (decodeResponseEnvelope foundation) (frame.drop 4) with
      | .ok envelope => .ok envelope
      | .error (.agent e) => .error e
      | .error (.decoding e) => .error (.invalidMessage (foundation.localizedDescription e))

end Frames

end SimpleVM.Agent
