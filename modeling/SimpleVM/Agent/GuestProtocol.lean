import SimpleVM.Effects.Failing
import SimpleVM.Python.Json

/-!
# The guest side of the protocol

`protocol.py`: frames of length-prefixed JSON over a stream, and the strict validation of
requests. The daemon reads from a transport that hands out what has arrived in chunks; an empty
chunk is the end the reader sees when nobody is connected, after which more may arrive.
-/
namespace SimpleVM.Agent

open Effects Failing Python Text

/-- The exceptions of the guest tools, by the `except` clauses that tell them apart. -/
inductive PyError
  | eof | os
  | protocol (message : String)
  | connection (message : String)
  | unicodeEncode | unicodeDecode
  /-- `UnicodeError` of the `idna` codec. -/
  | idna
  | recursion
deriving DecidableEq, Repr

inductive Arrival
  | chunk (bytes : List UInt8)
  /-- The read raises an `OSError`. -/
  | failure
deriving DecidableEq, Repr

/-- Why a reader does not go on: an exception, or nothing has arrived yet. -/
inductive Stop
  | raised (error : PyError)
  | waiting
deriving DecidableEq, Repr

abbrev Stream := List Arrival

abbrev Reader := Failing Stream Stop

def raise {α : Type} (error : PyError) : Reader α := throw (.raised error)

def ofExcept {α : Type} : Except PyError α → Reader α
  | .ok a => pure a
  | .error e => raise e

def maxFrameSize : Nat := 2 * 1024 * 1024

def maxClipboardSize : Nat := 1024 * 1024

/-- `PROTOCOL_VERSION` -/
def protocolVersion : Int := 2

/-- What the interpreter leaves open: how deep the JSON decoder and encoder may recurse, which is
deep enough for every message of the protocol, how many of the decoder's levels the call of an
`object_pairs_hook` takes, and how a float is written. -/
structure Interpreter where
  decoderLimit : Nat
  hookLevels : Nat
  encoderLimit : Nat
  floatRepr : FloatRepr
  decodes : 4 + hookLevels ≤ decoderLimit
  encodes : 4 ≤ encoderLimit

/-- A request in its envelope is decoded, the hook's calls included. -/
theorem Interpreter.decodes_envelope (python : Interpreter) :
    ∃ limit, python.hookLevels ≤ limit ∧ python.decoderLimit = limit + 2 := by
  have decodes := python.decodes
  exact ⟨python.decoderLimit - 2, by omega, by omega⟩

/-- The default recursion limit of CPython, where the frame of the hook counts as one level. -/
def cpython : Interpreter :=
  { decoderLimit := 1000, hookLevels := 1, encoderLimit := 1000,
    floatRepr := fun literal => literal.map Char.toNat, decodes := by decide, encodes := by decide }

section Frames

/-- `_HEADER.pack`, four bytes big-endian. -/
def packHeader (length : Nat) : List UInt8 :=
  [UInt8.ofNat (length / 16777216), UInt8.ofNat (length / 65536), UInt8.ofNat (length / 256),
    UInt8.ofNat length]

/-- `_HEADER.unpack` -/
def unpackHeader (header : List UInt8) : Nat := header.foldl (fun n b => n * 256 + b.toNat) 0

def encodeFrame (python : Interpreter) (message : Value) : Except PyError (List UInt8) :=
  match dumps python.floatRepr python.encoderLimit message with
  | .error .recursion => .error .recursion
  | .error .value => .error (.protocol "message is not JSON encodable")
  | .ok text =>
    match encode? text with
    -- `UnicodeEncodeError` is a `ValueError`.
    | none => .error (.protocol "message is not JSON encodable")
    | some payload =>
      if maxFrameSize < payload.length then .error (.protocol "frame exceeds 2 MiB")
      else .ok (packHeader payload.length ++ payload)

/-- `_read_exact`: so many bytes, over as many reads as it takes. -/
def readExactly : Nat → Stream → Except Stop (List UInt8) × Stream
  | 0, stream => (.ok [], stream)
  | _ + 1, [] => (.error .waiting, [])
  | _ + 1, .failure :: rest => (.error (.raised .os), rest)
  | _ + 1, .chunk [] :: rest => (.error (.raised .eof), rest)
  | remaining + 1, .chunk (b :: bytes) :: rest =>
    if remaining < bytes.length then
      (.ok ((b :: bytes).take (remaining + 1)), .chunk (bytes.drop remaining) :: rest)
    else
      match readExactly (remaining - bytes.length) rest with
      | (.ok more, left) => (.ok (b :: bytes ++ more), left)
      | (.error e, left) => (.error e, left)
termination_by structural _ stream => stream

def readExact (count : Nat) : Reader (List UInt8) := readExactly count

/-- The message in the payload of a frame. -/
def decodePayload (python : Interpreter) (raw : List UInt8) :
    Except PyError (List (Str × Value)) :=
  match decodeUTF8 raw with
  | none => .error (.protocol "frame is not UTF-8 JSON")
  | some text =>
    match loads python.hookLevels python.decoderLimit text with
    | .error .recursion => .error .recursion
    | .error .value => .error (.protocol "frame is not UTF-8 JSON")
    | .ok (.dict members) => .ok members
    | .ok _ => .error (.protocol "top-level JSON value must be an object")

def readFrame (python : Interpreter) : Reader (List (Str × Value)) := do
  let header ← readExact 4
  let length := unpackHeader header
  if length = 0 ∨ maxFrameSize < length then raise (.protocol "invalid frame length")
  else
    let raw ← readExact length
    ofExcept (decodePayload python raw)

end Frames

section Requests

inductive Operation
  | status | shutdown | reboot | mountSharedDirectory | readClipboard
  | writeClipboard (text : Str)
  | resizeDisplay (width height : Int)
deriving DecidableEq, Repr

/-- A normalized request. -/
structure Request where
  operation : Operation
  legacy : Bool
  requestID : Option Str
deriving DecidableEq, Repr

/-- `message[key]`, or what `get` returns. -/
def get? (message : List (Str × Value)) (key : String) : Option Value := message.lookup (str key)

/-- `set(message) == {...}` -/
def hasKeys (message : List (Str × Value)) (expected : List String) : Bool :=
  message.all (fun member => (expected.map str).contains member.1) &&
    expected.all fun key => (message.map Prod.fst).contains (str key)

def simpleOperation? (kind : Str) : Option Operation :=
  if kind = str "status" then some .status
  else if kind = str "shutdown" then some .shutdown
  else if kind = str "reboot" then some .reboot
  else if kind = str "mountSharedDirectory" then some .mountSharedDirectory
  else if kind = str "readClipboard" then some .readClipboard
  else none

def validateWriteClipboard (request : List (Str × Value)) : Except PyError Operation :=
  match hasKeys request ["type", "text"], get? request "text" with
  | true, some (.string text) =>
    match encode? text with
    | none => .error .unicodeEncode
    | some bytes =>
      if maxClipboardSize < bytes.length then .error (.protocol "clipboard exceeds 1 MiB")
      else .ok (.writeClipboard text)
  | _, _ => .error (.protocol "writeClipboard requires text only")

def validateResizeDisplay (request : List (Str × Value)) : Except PyError Operation :=
  if hasKeys request ["type", "width", "height"] then
    match get? request "width", get? request "height" with
    | some (.int width), some (.int height) =>
      if (640 ≤ width ∧ width ≤ 16384) ∧ 480 ≤ height ∧ height ≤ 16384 then
        .ok (.resizeDisplay width height)
      else .error (.protocol "display dimensions are outside the allowed range")
    | _, _ => .error (.protocol "display dimensions are outside the allowed range")
  else .error (.protocol "resizeDisplay requires width and height only")

/-- `_validate_new_request` -/
def validateNewRequest : Value → Except PyError Operation
  | .dict request =>
    match get? request "type" with
    | some (.string kind) =>
      match simpleOperation? kind with
      | some operation =>
        if hasKeys request ["type"] then .ok operation
        else .error (.protocol "unexpected fields for request type")
      | none =>
        if kind = str "writeClipboard" then validateWriteClipboard request
        else if kind = str "resizeDisplay" then validateResizeDisplay request
        else .error (.protocol "request type is not allowed")
    | _ => .error (.protocol "request must contain a string type")
  | _ => .error (.protocol "request must contain a string type")

def validateRequestID : Option Value → Except PyError Str
  | some (.string requestID) =>
    if requestID.isEmpty then .error (.protocol "invalid requestID")
    else
      match encode? requestID with
      | none => .error .unicodeEncode
      | some bytes =>
        if 256 < bytes.length then .error (.protocol "invalid requestID") else .ok requestID
  | _ => .error (.protocol "invalid requestID")

/-- The one-member form of protocol version 1. -/
def decodeLegacy (kind : Str) (body : List (Str × Value)) : Except PyError Request :=
  if kind = str "hello" then
    if hasKeys body ["protocolVersion"] then
      match get? body "protocolVersion" with
      | some (.int 1) => .ok ⟨.status, true, none⟩
      | _ => .error (.protocol "unsupported legacy protocol version")
    else .error (.protocol "malformed legacy hello")
  else
    match if kind = str "status" then some .status
      else if kind = str "shutdown" then some .shutdown
      else if kind = str "reboot" then some .reboot
      else none with
    | none => .error (.protocol "unrecognized request envelope")
    | some operation =>
      if body.isEmpty then .ok ⟨operation, true, none⟩
      else .error (.protocol "legacy request body must be empty")

def decodeRequest (message : List (Str × Value)) : Except PyError Request :=
  if hasKeys message ["protocolVersion", "requestID", "request"] then
    match get? message "protocolVersion" with
    | some (.int 2) =>
      match validateRequestID (get? message "requestID") with
      | .error e => .error e
      | .ok requestID =>
        match validateNewRequest ((get? message "request").getD .null) with
        | .error e => .error e
        | .ok operation => .ok ⟨operation, false, some requestID⟩
    | _ => .error (.protocol "unsupported protocol version")
  else
    match message with
    | [(kind, .dict body)] => decodeLegacy kind body
    | _ => .error (.protocol "unrecognized request envelope")

/-- `response_message`; every response is a dict with a type. -/
def responseMessage (request : Request) (response : List (Str × Value)) : Value :=
  if request.legacy then
    match get? response "type" with
    | some (.string kind) => .dict [(kind, .dict (response.filter (·.1 ≠ str "type")))]
    | _ => .null
  else
    .dict [(str "protocolVersion", .int protocolVersion),
      (str "requestID", (request.requestID.map Value.string).getD .null),
      (str "response", .dict response)]

end Requests

end SimpleVM.Agent
