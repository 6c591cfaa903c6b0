import SimpleVM.Agent.GuestProtocol
import SimpleVM.Agent.Protocol
import SimpleVM.Swift.JSONEncoder

/-!
# The host side of the protocol

`GuestAgentFrameCodec.encode` of a request envelope. The encoder sorts the keys of each object, so
the members stand in that order here.
-/
namespace SimpleVM.Agent

open Swift Text

/-- `GuestAgentRequest.encode(to:)` -/
def encodeRequest : GuestAgentRequest → Except GuestAgentProtocolError (List Char)
  | .hello version =>
    .ok (encodeObject [("protocolVersion", encodeInt version), ("type", encodeString "hello")])
  | .status => .ok (encodeObject [("type", encodeString "status")])
  | .shutdown => .ok (encodeObject [("type", encodeString "shutdown")])
  | .reboot => .ok (encodeObject [("type", encodeString "reboot")])
  | .mountSharedDirectory => .ok (encodeObject [("type", encodeString "mountSharedDirectory")])
  | .readClipboard => .ok (encodeObject [("type", encodeString "readClipboard")])
  | .writeClipboard text =>
    if text.utf8ByteSize ≤ maximumClipboardSize then
      .ok (encodeObject [("text", encodeString text), ("type", encodeString "writeClipboard")])
    else .error .clipboardTooLarge
  | .resizeDisplay width height =>
    if isValidDisplaySize width height then
      .ok (encodeObject [("height", encodeInt height), ("type", encodeString "resizeDisplay"),
        ("width", encodeInt width)])
    else .error .invalidDisplaySize

/-- The synthesized `encode(to:)`; an identifier that is missing is left out. -/
def encodeEnvelope (envelope : GuestAgentRequestEnvelope) :
    Except GuestAgentProtocolError (List Char) :=
  match encodeRequest envelope.request with
  | .error e => .error e
  | .ok request =>
    .ok (encodeObject ([("protocolVersion", encodeInt envelope.protocolVersion),
        ("request", request)] ++
      (envelope.requestID.map fun id => ("requestID", encodeString id)).toList))

/-- `GuestAgentFrameCodec.encode` -/
def encode (envelope : GuestAgentRequestEnvelope) : Except GuestAgentProtocolError (List UInt8) :=
  match encodeEnvelope envelope with
  | .error e => .error e
  | .ok text =>
    let payload := utf8 text
    if payload.length ≤ maximumPayloadSize then .ok (packHeader payload.length ++ payload)
    else .error .payloadTooLarge

end SimpleVM.Agent
