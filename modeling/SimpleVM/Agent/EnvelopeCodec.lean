import SimpleVM.Agent.HostCodec
import SimpleVM.Agent.HostDecoding

/-!
# The other halves of the codec

`GuestAgentProtocol.swift` can also encode responses and decode requests, which is what its tests
and a guest in Swift use. With the encoder of requests and the decoder of responses this is all of
`GuestAgentFrameCodec`.
-/
namespace SimpleVM.Agent

open Swift Text

section Encoding

def GuestSharedMountState.rawValue : GuestSharedMountState → String
  | .unavailable => "unavailable"
  | .unmounted => "unmounted"
  | .mounted => "mounted"
  | .failed => "failed"

/-- The synthesized `encode(to:)`; a message that is missing is left out. -/
def encodeSharedMountStatus (status : GuestSharedMountStatus) : List Char :=
  encodeObject ((status.message.map fun message => ("message", encodeString message)).toList ++
    [("mountPoint", encodeString status.mountPoint),
      ("state", encodeString status.state.rawValue), ("tag", encodeString status.tag)])

/-- `capabilities.sorted` -/
def sortedCapabilities (capabilities : List GuestAgentCapability) : List GuestAgentCapability :=
  capabilities.mergeSort fun a b => decide (a.rawValue ≤ b.rawValue)

/-- `GuestAgentStatus.encode(to:)` -/
def encodeStatus (status : GuestAgentStatus) : List Char :=
  encodeObject [("agentVersion", encodeString status.agentVersion),
    ("capabilities", encodeArray ((sortedCapabilities status.capabilities).map fun capability =>
      encodeString capability.rawValue)),
    ("desktopEnvironment", encodeString status.desktopEnvironment.rawValue),
    ("distroID", encodeString status.distroID),
    ("distroVersion", encodeString status.distroVersion),
    ("hostname", encodeString status.hostname),
    ("ipAddresses", encodeArray (status.ipAddresses.map encodeString)),
    ("operatingSystem", encodeString status.operatingSystem),
    ("protocolVersion", encodeInt status.protocolVersion),
    ("sessionType", encodeString status.sessionType.rawValue),
    ("sharedMountStatus", encodeSharedMountStatus status.sharedMountStatus)]

/-- `GuestAgentResponse.encode(to:)` -/
def encodeResponse : GuestAgentResponse → Except GuestAgentProtocolError (List Char)
  | .hello version =>
    .ok (encodeObject [("protocolVersion", encodeInt version), ("type", encodeString "hello")])
  | .status status =>
    .ok (encodeObject [("status", encodeStatus status), ("type", encodeString "status")])
  | .accepted => .ok (encodeObject [("type", encodeString "accepted")])
  | .clipboard text =>
    if text.utf8ByteSize ≤ maximumClipboardSize then
      .ok (encodeObject [("text", encodeString text), ("type", encodeString "clipboard")])
    else .error .clipboardTooLarge
  | .failure failure =>
    .ok (encodeObject [("code", encodeString failure.code),
      ("message", encodeString failure.message), ("type", encodeString "failure")])

/-- The synthesized `encode(to:)` -/
def encodeResponseEnvelope (envelope : GuestAgentResponseEnvelope) :
    Except GuestAgentProtocolError (List Char) :=
  match encodeResponse envelope.response with
  | .error e => .error e
  | .ok response =>
    .ok (encodeObject ([("protocolVersion", encodeInt envelope.protocolVersion)] ++
      (envelope.requestID.map fun id => ("requestID", encodeString id)).toList ++
      [("response", response)]))

/-- `GuestAgentFrameCodec.encode` of a response envelope. -/
def encodeResponseFrame (envelope : GuestAgentResponseEnvelope) :
    Except GuestAgentProtocolError (List UInt8) :=
  match encodeResponseEnvelope envelope with
  | .error e => .error e
  | .ok text =>
    let payload := utf8 text
    if payload.length ≤ maximumPayloadSize then .ok (packHeader payload.length ++ payload)
    else .error .payloadTooLarge

end Encoding

section Decoding

inductive RequestType
  | hello | status | shutdown | reboot | mountSharedDirectory | readClipboard | writeClipboard
  | resizeDisplay
deriving DecidableEq, Repr

def RequestType.ofRawValue : String → Option RequestType
  | "hello" => some .hello
  | "status" => some .status
  | "shutdown" => some .shutdown
  | "reboot" => some .reboot
  | "mountSharedDirectory" => some .mountSharedDirectory
  | "readClipboard" => some .readClipboard
  | "writeClipboard" => some .writeClipboard
  | "resizeDisplay" => some .resizeDisplay
  | _ => none

variable (foundation : Foundation)

/-- A request that names its type. -/
def decodeTypedRequest (members : List (String × JSON)) :
    RequestType → Except DecodingError GuestAgentRequest
  | .hello => do return .hello (← decode members "protocolVersion" foundation.decodeInt)
  | .status => .ok .status
  | .shutdown => .ok .shutdown
  | .reboot => .ok .reboot
  | .mountSharedDirectory => .ok .mountSharedDirectory
  | .readClipboard => .ok .readClipboard
  | .writeClipboard => do return .writeClipboard (← decode members "text" decodeString)
  | .resizeDisplay => do
    let width ← decode members "width" foundation.decodeInt
    let height ← decode members "height" foundation.decodeInt
    return .resizeDisplay width height

/-- A request of protocol version 1, told by the key it has. -/
def decodeUntypedRequest (members : List (String × JSON)) :
    Except DecodingError GuestAgentRequest := do
  match ← decodeIfPresent members "hello" (decodeLegacyHello foundation) with
  | some version => return .hello version
  | none =>
    if contains members "status" then return .status
    else if contains members "shutdown" then return .shutdown
    else if contains members "reboot" then return .reboot
    else throw .dataCorrupted

/-- `GuestAgentRequest.init(from:)` -/
def decodeAgentRequest (v : JSON) : Except DecodingError GuestAgentRequest := do
  let members ← container v
  match ← decodeIfPresent members "type" (decodeRawValue RequestType.ofRawValue) with
  | some type => decodeTypedRequest foundation members type
  | none => decodeUntypedRequest foundation members

/-- The version of a request that comes without an envelope. -/
def GuestAgentRequest.version : GuestAgentRequest → Int64
  | .hello version => version
  | _ => 1

/-- `GuestAgentRequestEnvelope.init(from:)` -/
def decodeRequestEnvelope (v : JSON) : Except DecodingError GuestAgentRequestEnvelope := do
  let members ← container v
  if contains members "request" then
    let protocolVersion ← decode members "protocolVersion" foundation.decodeInt
    let requestID ← decodeIfPresent members "requestID" decodeString
    let request ← decode members "request" (decodeAgentRequest foundation)
    return { protocolVersion, requestID, request }
  else
    let request ← decodeAgentRequest foundation v
    return { protocolVersion := request.version, requestID := none, request }

/-- `GuestAgentFrameCodec.decode` of a request envelope. -/
def decodeRequestFrame (frame : List UInt8) :
    Except GuestAgentProtocolError GuestAgentRequestEnvelope :=
  if frame.length < 4 then .error .incompleteFrame
  else
    let length := unpackHeader (frame.take 4)
    if maximumPayloadSize < length then .error .payloadTooLarge
    else if frame.length ≠ length + 4 then .error .incompleteFrame
    else
      match decodeJSON foundation (fun v => attempt (decodeRequestEnvelope foundation v))
        (frame.drop 4) with
      | .ok envelope => .ok envelope
      | .error (.agent e) => .error e
      | .error (.decoding e) => .error (.invalidMessage (foundation.localizedDescription e))

end Decoding

end SimpleVM.Agent
