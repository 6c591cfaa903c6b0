import SimpleVM.Agent.Operations

/-!
# The root daemon

`Agent` of `daemon.py` with the part of `SessionBroker` and of `detection.py` it calls. A thread
serves a stream: it reads a request, dispatches it and writes the response, until one of the
exceptions it catches ends `serve_stream`, after which the virtio loop enters it again. Any other
exception ends the thread.
-/
namespace SimpleVM.Agent

open Effects Failing Python

section Session

/-- A registration that the broker has accepted. -/
structure Session where
  desktopEnvironment : Str
  sessionType : Str
  capabilities : List Str
  distroID : Str
  distroVersion : Str
deriving DecidableEq, Repr

/-- The connection to the session helper: whether it takes what is sent, and what it sends. -/
structure Helper where
  sends : Bool
  replies : Stream
deriving DecidableEq, Repr

/-- `SessionBroker.call`. Waiting ends in the time-out of the socket, which is an `OSError`. -/
def call (python : Interpreter) (helper : Option Helper) (payload : List (Str × Value)) :
    Except PyError (List (Str × Value)) :=
  match helper with
  | none => .error (.connection "no desktop session helper is connected")
  | some helper =>
    let disconnected := .error (.connection "desktop session helper disconnected")
    match encodeFrame python (.dict payload) with
    | .error (.protocol _) => disconnected
    | .error e => .error e
    | .ok _ =>
      if helper.sends then
        match (readFrame python helper.replies).1 with
        | .ok response => .ok response
        | .error .waiting => disconnected
        | .error (.raised .os) => disconnected
        | .error (.raised .eof) => disconnected
        | .error (.raised (.protocol _)) => disconnected
        | .error (.raised (.connection _)) => disconnected
        | .error (.raised e) => .error e
      else disconnected

end Session

section Status

/-- What `socket.getaddrinfo` does with the host name. -/
inductive Lookup
  | found (addresses : List Str)
  /-- `gaierror` -/
  | unknown
  | failed
  /-- The `idna` codec refuses the name. -/
  | unencodable
deriving DecidableEq, Repr

/-- The outcomes that `status` meets. -/
structure StatusOutcomes where
  session : Option Session
  hostname : Str
  /-- What `parse_os_release` returns. -/
  release : List (Str × Str)
  lookup : Lookup
  mountInfo : MountInfo

/-- `address.split("%", 1)[0]` -/
def withoutScope (address : Str) : Str := address.takeWhile (· ≠ 0x25)

def isReported (address : Str) : Bool :=
  !address.isEmpty && !(str "127.").isPrefixOf address && address ≠ str "::1"

/-- Strings are ordered by their code points. -/
def precedes : Str → Str → Bool
  | [], _ => true
  | _ :: _, [] => false
  | a :: as, b :: bs => a < b || (a == b && precedes as bs)

/-- `ip_addresses`: a set, sorted. -/
def ipAddresses : Lookup → Except PyError (List Str)
  | .found addresses =>
    .ok ((((addresses.map withoutScope).filter isReported).eraseDups).mergeSort precedes)
  | .unknown => .ok []
  | .failed => .error .os
  | .unencodable => .error .idna

def agentVersion : String := "2.0.0"

/-- `Agent.status` -/
def status (outcomes : StatusOutcomes) : Except PyError (List (Str × Value)) := do
  let session := outcomes.session
  let released (key : String) := (outcomes.release.lookup (str key)).getD (str "unknown")
  let capabilities := ["gracefulShutdown", "gracefulReboot", "mountSharedDirectory"].map str ++
    (session.map Session.capabilities).getD []
  let addresses ← ipAddresses outcomes.lookup
  let mount ← sharedMountStatus outcomes.mountInfo
  return [(str "type", .string (str "status")),
    (str "protocolVersion", .int protocolVersion),
    (str "agentVersion", .string (str agentVersion)),
    (str "hostname", .string outcomes.hostname),
    (str "operatingSystem", .string (str "Linux")),
    (str "distroID", .string ((session.map Session.distroID).getD (released "ID"))),
    (str "distroVersion",
      .string ((session.map Session.distroVersion).getD (released "VERSION_ID"))),
    (str "ipAddresses", .list (addresses.map .string)),
    (str "desktopEnvironment",
      .string ((session.map Session.desktopEnvironment).getD (str "other"))),
    (str "sessionType", .string ((session.map Session.sessionType).getD (str "other"))),
    (str "capabilities", .list (capabilities.map .string)),
    (str "sharedMountStatus", .dict mount.members)]

end Status

section Dispatch

/-- Everything outside the daemon that one request can meet. -/
structure Surroundings where
  status : StatusOutcomes
  power : Completed
  mount : MountOutcomes
  helper : Option Helper
  /-- The transport takes the whole frame, or else it raises an `OSError`. `sendall` does one of the
  two. The raw file of the virtio loop may take a part, which `write_frame` does not notice: that it
  takes all it is given is supposed here. -/
  takesWhole : Bool

/-- `_failure` -/
def failure (code : String) (message : Str) (state : Option MountStatus) :
    List (Str × Value) :=
  [(str "type", .string (str "failure")), (str "code", .string (str code)),
    (str "message", .string (message.take 512))] ++
  (state.map fun status => (str "sharedMountStatus", Value.dict status.members)).toList

def Operation.kind : Operation → String
  | .status => "status"
  | .shutdown => "shutdown"
  | .reboot => "reboot"
  | .mountSharedDirectory => "mountSharedDirectory"
  | .readClipboard => "readClipboard"
  | .writeClipboard _ => "writeClipboard"
  | .resizeDisplay _ _ => "resizeDisplay"

def accepted (operation : Operation) : List (Str × Value) :=
  [(str "type", .string (str "accepted")), (str "operation", .string (str operation.kind))]

def dispatchPower (around : Surroundings) (operation : Operation) :
    Except PyError (List (Str × Value)) := do
  match ← power around.power with
  | none => return accepted operation
  | some message => return failure "powerOperationFailed" message none

def dispatchMount (around : Surroundings) : Except PyError (List (Str × Value)) := do
  let state ← mountSharedDirectory around.mount
  if state.state = .error ∨ (state.mounted ∧ state.state = .occupied) then
    return failure "mountFailed" (state.error.getD (str "mount point is occupied")) state
  else
    return accepted .mountSharedDirectory ++ [(str "sharedMountStatus", .dict state.members)]

def sessionPayload : Operation → List (Str × Value)
  | .writeClipboard text =>
    [(str "type", .string (str "writeClipboard")), (str "text", .string text)]
  | .resizeDisplay width height =>
    [(str "type", .string (str "resizeDisplay")), (str "width", .int width),
      (str "height", .int height)]
  | operation => [(str "type", .string (str operation.kind))]

def invalidSessionResponse : List (Str × Value) :=
  failure "invalidSessionResponse" (str "session helper response is invalid") none

/-- What the daemon makes of the helper's reply. -/
def relay (response : List (Str × Value)) : Except PyError (List (Str × Value)) := do
  let relayed :=
    match get? response "type" with
    | some (.string kind) =>
      if kind = str "accepted" ∨ kind = str "failure" then response else invalidSessionResponse
    | _ => invalidSessionResponse
  match get? response "type", get? response "text" with
  | some (.string kind), some (.string text) =>
    if kind = str "clipboard" then
      match encode? text with
      | none => .error .unicodeEncode
      | some bytes => return if bytes.length ≤ maxClipboardSize then response else relayed
    else return relayed
  | _, _ => return relayed

def dispatchSession (python : Interpreter) (around : Surroundings) (operation : Operation) :
    Except PyError (List (Str × Value)) :=
  match call python around.helper (sessionPayload operation) with
  | .error (.connection message) => .ok (failure "sessionUnavailable" (str message) none)
  | .error e => .error e
  | .ok response => relay response

/-- `Agent.dispatch` -/
def dispatch (python : Interpreter) (around : Surroundings) (operation : Operation) :
    Except PyError (List (Str × Value)) :=
  match operation with
  | .status => status around.status
  | .shutdown | .reboot => dispatchPower around operation
  | .mountSharedDirectory => dispatchMount around
  | .readClipboard | .writeClipboard _ | .resizeDisplay _ _ =>
    dispatchSession python around operation

/-- The response to a request, as the frame that is written. -/
def answer (python : Interpreter) (around : Surroundings) (request : Request) :
    Except PyError (List UInt8) := do
  let response ← dispatch python around request.operation
  let frame ← encodeFrame python (responseMessage request response)
  if around.takesWhole then return frame else .error .os

end Dispatch

section Serving

/-- `except (EOFError, OSError, ProtocolError)` -/
def PyError.caught : PyError → Bool
  | .eof | .os | .protocol _ | .connection _ => true
  | .unicodeEncode | .unicodeDecode | .idna | .recursion => false

/-- One iteration of `serve_stream`, up to the dispatch. -/
def receive (python : Interpreter) : Reader Request := do
  let message ← readFrame python
  ofExcept (decodeRequest message)

inductive Mode
  | serving
  /-- `serve_stream` has returned. -/
  | returned
  | died (error : PyError)
deriving DecidableEq, Repr

/-- A thread of the daemon, with what it has dispatched and written so far. -/
structure Thread where
  stream : Stream
  mode : Mode := .serving
  dispatched : List Request := []
  written : List (List UInt8) := []

inductive Event
  /-- An iteration of `serve_stream` that meets these surroundings. -/
  | serve (around : Surroundings)
  /-- The virtio loop opens its port again. -/
  | reenter

def Thread.after (thread : Thread) (error : PyError) : Thread :=
  { thread with mode := if error.caught then .returned else .died error }

/-- An iteration blocks, and is no step, while the frame has not arrived. -/
def Thread.serve (python : Interpreter) (thread : Thread) (around : Surroundings) :
    Option Thread :=
  match receive python thread.stream with
  | (.error .waiting, _) => none
  | (.error (.raised e), rest) => some ({ thread with stream := rest }.after e)
  | (.ok request, rest) =>
    let thread := { thread with stream := rest, dispatched := thread.dispatched ++ [request] }
    match answer python around request with
    | .ok frame => some { thread with written := thread.written ++ [frame] }
    | .error e => some (thread.after e)

def Thread.step (python : Interpreter) (thread : Thread) : Event → Option Thread
  | .serve around => if thread.mode = .serving then thread.serve python around else none
  | .reenter => if thread.mode = .returned then some { thread with mode := .serving } else none

end Serving

end SimpleVM.Agent
