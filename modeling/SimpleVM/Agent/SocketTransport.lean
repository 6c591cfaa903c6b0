import SimpleVM.Agent.HostCodec
import SimpleVM.Agent.HostDecoding
import SimpleVM.Agent.Resynchronisation

/-!
# The host's socket transport

`GuestAgentSocketTransport.request`: one connection per request, over a port whose bytes outlive
the connections. What a connection meets is a stream: bytes, the end that `read` reports by
returning nothing, and a failure, which stands for a time-out, a cancellation and an error of
`poll` or `read` alike.
-/
namespace SimpleVM.Agent

open Effects Failing Swift

inductive GuestAgentTransportError
  | disconnected | timedOut | failed
deriving DecidableEq, Repr

inductive RequestError
  | transport (error : GuestAgentTransportError)
  | agent (error : GuestAgentProtocolError)
deriving DecidableEq, Repr

abbrev Transport := Failing Stream RequestError

def agentFailure {α : Type} (error : GuestAgentProtocolError) : Transport α := throw (.agent error)

def ofDecoded {α : Type} : Except GuestAgentProtocolError α → Transport α
  | .ok a => pure a
  | .error e => agentFailure e

/-- `readExactly`, the loop of the guest's `_read_exact` with errors of its own. -/
def receiveExactly (count : Nat) : Transport (List UInt8) := fun stream =>
  match readExactly count stream with
  | (.ok bytes, rest) => (.ok bytes, rest)
  | (.error .waiting, rest) => (.error (.transport .timedOut), rest)
  | (.error (.raised .eof), rest) => (.error (.transport .disconnected), rest)
  | (.error (.raised _), rest) => (.error (.transport .failed), rest)

/-- What `request` does once its frame is written. -/
def receiveResponse (foundation : Foundation) (requestID : Option String) :
    Transport GuestAgentResponse := do
  let header ← receiveExactly 4
  let payloadLength := unpackHeader header
  if maximumPayloadSize < payloadLength then agentFailure .payloadTooLarge
  else
    let payload ← receiveExactly payloadLength
    let response ← ofDecoded (decodeFrame foundation (header ++ payload))
    if ¬ (1 ≤ response.protocolVersion ∧ response.protocolVersion ≤ currentVersion) then
      agentFailure (.incompatibleVersion response.protocolVersion)
    else if 2 ≤ response.protocolVersion ∧ response.requestID ≠ requestID then
      agentFailure .mismatchedRequestID
    else if response.protocolVersion = 1 ∧ response.requestID.isSome ∧
        response.requestID ≠ requestID then
      agentFailure .mismatchedRequestID
    else return response.response

/-- A call of `request`, with what its connection comes to: how many bytes of its frame are written
before it ends, and what its reads meet. -/
structure Call where
  requestID : String
  request : GuestAgentRequest
  written : Nat
  arrivals : Stream
  /-- Bytes that have reached the connection unread, and go with it. -/
  lost : Nat := 0

namespace Call

def envelope (call : Call) : GuestAgentRequestEnvelope :=
  { requestID := some call.requestID, request := call.request }

/-- `request` -/
def run (foundation : Foundation) (call : Call) : Except RequestError GuestAgentResponse × Stream :=
  match encode call.envelope with
  | .error e => (.error (.agent e), call.arrivals)
  | .ok frame =>
    if frame.length ≤ call.written then
      receiveResponse foundation (some call.requestID) call.arrivals
    else (.error (.transport .failed), call.arrivals)

/-- What the guest's port sees of the call. -/
def connection (call : Call) : Option Connection :=
  match encoded : encode call.envelope with
  | .error _ => none
  | .ok frame => some { envelope := call.envelope, frame, encoded, written := call.written }

/-- What has not arrived is delivered to the next connection. -/
def leaves (foundation : Foundation) (call : Call) (replies : List UInt8) : List UInt8 :=
  replies.drop
    ((content call.arrivals).length - (content (call.run foundation).2).length + call.lost)

end Call

/-- The calls take their bytes off the replies in order; what each meets is the front of what is
left. -/
inductive Exchanges (foundation : Foundation) :
    List UInt8 → List Call → List (Except RequestError GuestAgentResponse) → Prop
  | done (replies : List UInt8) : Exchanges foundation replies [] []
  | call {replies : List UInt8} {call : Call} {calls : List Call}
      {outcomes : List (Except RequestError GuestAgentResponse)} :
      content call.arrivals <+: replies →
      Exchanges foundation (call.leaves foundation replies) calls outcomes →
      Exchanges foundation replies (call :: calls) ((call.run foundation).1 :: outcomes)

end SimpleVM.Agent
