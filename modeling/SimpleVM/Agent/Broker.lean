import SimpleVM.Agent.Crossing
import SimpleVM.Agent.Registration

/-!
# The session broker

`SessionBroker` of `ipc.py` with all its threads: the accept loop, the threads that call, and the
one that stops it. `_lock` is held for the whole of a call, so that between the two steps of a call
nothing else touches the connection, except the helper at its other end.
-/
namespace SimpleVM.Agent

open Effects Python

section Registering

/-- A peer as the accept loop meets it. -/
structure Peer where
  /-- Nothing where `peer_credentials` fails. -/
  uid : Option Int
  /-- What the reads of the registration meet. -/
  opening : Stream
  /-- The time-out can be taken off the connection again. -/
  settles : Bool := true

inductive Reception
  /-- The connection is closed. -/
  | refused
  | accepted (registration : List (Str × Value)) (rest : Stream)
  /-- The exception is not one the loop catches. -/
  | escaped

/-- `except (OSError, EOFError, ProtocolError, PermissionError, ValueError)` -/
def PyError.closes : PyError → Bool
  | .eof | .os | .protocol _ | .connection _ => true
  -- These are kinds of `UnicodeError`, which is a `ValueError`.
  | .unicodeEncode | .unicodeDecode | .idna => true
  | .recursion => false

/-- What the loop makes of a connection, up to the lock. -/
def receiveRegistration (python : Interpreter) (floatEquals : List Char → Int → Bool)
    (peer : Peer) : Reception :=
  match peer.uid with
  | none => .refused
  | some uid =>
    if uid = 0 then .refused
    else
      match readFrame python peer.opening with
      | (.error .waiting, _) => .refused
      | (.error (.raised e), _) => if e.closes then .refused else .escaped
      | (.ok registration, rest) =>
        match validateRegistration floatEquals registration uid with
        | .ok _ => if peer.settles then .accepted registration rest else .refused
        | .error .unhashable => .escaped
        | .error (.invalid _) => .refused
        | .error .unencodable => .refused

end Registering

/-- A request with the number of the call it is made by. -/
structure Asked where
  call : Nat
  request : List (Str × Value)

/-- A registered connection: what was asked and answered on it, both in order, and the bytes that
wait to be read. -/
structure Link where
  peer : Peer
  asked : List Asked := []
  answers : List (List UInt8) := []
  unread : List UInt8

inductive Loop
  | listening
  | reading (peer : Peer)
  /-- The registration is valid, and the loop waits for the lock. -/
  | storing (link : Link) (registration : List (Str × Value))
  | returned
  | died

/-- A call that has ended, with the connection it used. -/
structure Ended where
  asked : Asked
  outcome : Except PyError (List (Str × Value))
  link : Option Link

structure Broker where
  /-- `_connection` -/
  connection : Option Link := none
  /-- `_session` -/
  session : Option (List (Str × Value)) := none
  /-- The call that holds the lock and waits for its reply. -/
  waiting : Option Asked := none
  loop : Loop := .listening
  /-- `_stop` is set. -/
  stopped : Bool := false
  calls : Nat := 0
  ended : List Ended := []

inductive BrokerEvent
  | accept (peer : Peer)
  /-- `accept` raises an `OSError`, as it does once the listener is closed. -/
  | acceptFails
  /-- The loop finds `_stop` set. -/
  | leave
  /-- The registration has been received or refused. -/
  | register
  /-- The loop has the lock. -/
  | store
  | stop
  /-- `stop` has the lock. -/
  | shutDown
  /-- A thread calls; whether its request is written in full. -/
  | call (request : List (Str × Value)) (written : Bool)
  /-- The helper answers the first request that it has not answered. -/
  | answer (payload : List UInt8)
  /-- A client sends bytes without being asked. -/
  | babble (bytes : List UInt8)
  /-- The calling thread reads. -/
  | read (arrivals : Stream) (settles : Bool)

namespace Broker

/-- `_close_connection` -/
def closeConnection (s : Broker) : Broker := { s with connection := none, session := none }

/-- `snapshot` -/
def snapshot (s : Broker) : Option (List (Str × Value)) :=
  if s.connection.isNone then none else s.session

def ends (s : Broker) (asked : Asked) (outcome : Except PyError (List (Str × Value))) : Broker :=
  { s with waiting := none, ended := s.ended ++ [⟨asked, outcome, s.connection⟩] }

/-- `except (OSError, EOFError, ProtocolError)` -/
def disconnects (s : Broker) (asked : Asked) : Broker :=
  (s.ends asked (.error (.connection "desktop session helper disconnected"))).closeConnection

/-- `call`, until the request is written. -/
def call (python : Interpreter) (s : Broker) (asked : Asked) (written : Bool) : Broker :=
  match s.connection with
  | none => s.ends asked (.error (.connection "no desktop session helper is connected"))
  | some link =>
    match encodeFrame python (.dict asked.request) with
    | .error e => if e.caught then s.disconnects asked else s.ends asked (.error e)
    | .ok _ =>
      if written then
        { s with waiting := some asked, connection := some { link with asked := link.asked ++ [asked] } }
      else s.disconnects asked

/-- `call`, from there on. -/
def read (python : Interpreter) (s : Broker) (asked : Asked) (link : Link) (arrivals : Stream)
    (settles : Bool) : Broker :=
  let taken (rest : Stream) : Broker :=
    let count := (content arrivals).length - (content rest).length
    { s with connection := some { link with unread := link.unread.drop count } }
  match readFrame python arrivals with
  | (.ok response, rest) =>
    if settles then (taken rest).ends asked (.ok response) else s.disconnects asked
  | (.error .waiting, _) => s.disconnects asked
  | (.error (.raised e), rest) =>
    if e.caught then s.disconnects asked else (taken rest).ends asked (.error e)

/-- A step of the accept loop. -/
def accepts (python : Interpreter) (floatEquals : List Char → Int → Bool) (s : Broker) :
    BrokerEvent → Option Broker
  | .accept peer =>
    match s.loop with
    | .listening => some { s with loop := .reading peer }
    | _ => none
  | .acceptFails =>
    match s.loop with
    | .listening => some { s with loop := .returned }
    | _ => none
  | .leave =>
    match s.loop, s.stopped with
    | .listening, true => some { s with loop := .returned }
    | _, _ => none
  | .register =>
    match s.loop with
    | .reading peer =>
      -- A refused peer is closed, and an exception that is not caught ends the thread.
      match receiveRegistration python floatEquals peer with
      | .refused => some { s with loop := .listening }
      | .escaped => some { s with loop := .died }
      | .accepted registration rest =>
        some { s with loop := .storing { peer, unread := content rest } registration }
    | _ => none
  | .store =>
    match s.loop, s.waiting with
    | .storing link registration, none =>
      -- Under the lock, so no call is waiting; the older connection is closed first.
      some { s.closeConnection with
        loop := .listening, connection := some link, session := some registration }
    | _, _ => none
  | _ => none

def step (python : Interpreter) (floatEquals : List Char → Int → Bool) (s : Broker) :
    BrokerEvent → Option Broker
  | .stop => some { s with stopped := true }
  | .shutDown => if s.stopped ∧ s.waiting.isNone then some s.closeConnection else none
  | .call request written =>
    if s.waiting.isNone then
      some (({ s with calls := s.calls + 1 } : Broker).call python ⟨s.calls, request⟩ written)
    else none
  | .answer payload =>
    match s.connection with
    | some link =>
      if link.answers.length < link.asked.length ∧ payload.length < 4294967296 then
        some { s with connection := some { link with
          answers := link.answers ++ [payload]
          unread := link.unread ++ (packHeader payload.length ++ payload) } }
      else none
    | none => none
  | .babble bytes =>
    s.connection.map fun link =>
      { s with connection := some { link with unread := link.unread ++ bytes } }
  | .read arrivals settles =>
    match s.waiting, s.connection with
    | some asked, some link =>
      if content arrivals <+: link.unread then some (s.read python asked link arrivals settles)
      else none
    | _, _ => none
  | event => s.accepts python floatEquals event

end Broker

end SimpleVM.Agent
