import SimpleVM.Agent.Protocol

/-!
# The guest tools coordinator

`start`, `retry`, `stop` and `probe` of `GuestToolsCoordinator`. A probe is a task of the main
actor, cut where it waits for the request handler; in between it runs alone. Everything the
coordinator assigns or calls is logged, because an assignment notifies observers also when it
changes nothing.
-/
namespace SimpleVM.GuestTools

open Agent

inductive GuestToolsConnectionState
  | stopped
  | checking
  | notConnected (reason : Option String)
  | connected (status : GuestAgentStatus)
  | incompatible (message : String)
  | failed (message : String)
deriving DecidableEq, Repr

/-- What the request handler throws, as far as `probe` tells it apart. -/
inductive RequestFailure
  | cancellation
  | incompatibleVersion (version : Int64)
  | other (localizedDescription : String)
deriving DecidableEq, Repr

def RequestFailure.localizedDescription : RequestFailure → String
  | .cancellation => "The operation couldn’t be completed. (Swift.CancellationError error 1.)"
  | .incompatibleVersion version =>
    "Guest Tools protocol version " ++ toString version.toInt ++ " is not supported."
  | .other description => description

abbrev Completion := Except RequestFailure GuestAgentResponse

/-- Where a probe stands: it has not begun, waits for the completion of a request it has made with
a request handler, or has returned. -/
inductive Phase
  | created
  | fetching (handler : Nat)
  | mounting (handler : Nat) (status : GuestAgentStatus)
  | refetching (handler : Nat) (status : GuestAgentStatus)
  | returned
deriving DecidableEq, Repr

structure Probe where
  cancelled : Bool := false
  phase : Phase := .created
deriving DecidableEq, Repr

inductive Effect
  | state (state : GuestToolsConnectionState)
  | notice (notice : Option String)
  /-- The status handler is called. -/
  | statusHandler (status : Option GuestAgentStatus)
  | synchronizerStarts (handler : Nat)
  | synchronizerStops
deriving DecidableEq, Repr

/-- Request handlers and probes go by numbers, probes by their place in the list. -/
structure GuestToolsCoordinator where
  state : GuestToolsConnectionState := .stopped
  notice : Option String := none
  requestHandler : Option Nat := none
  sharedDirectoryConfigured : Bool := false
  /-- The probe of `connectionTask`. -/
  connectionTask : Option Nat := none
  probes : List Probe := []
  effects : List Effect := []
deriving DecidableEq, Repr

namespace GuestToolsCoordinator

section Effects

def setState (c : GuestToolsCoordinator) (state : GuestToolsConnectionState) :
    GuestToolsCoordinator :=
  { c with state, effects := c.effects ++ [.state state] }

def setNotice (c : GuestToolsCoordinator) (notice : Option String) : GuestToolsCoordinator :=
  { c with notice, effects := c.effects ++ [.notice notice] }

def statusHandler (c : GuestToolsCoordinator) (status : Option GuestAgentStatus) :
    GuestToolsCoordinator :=
  { c with effects := c.effects ++ [.statusHandler status] }

def startSynchronizer (c : GuestToolsCoordinator) (handler : Nat) : GuestToolsCoordinator :=
  { c with effects := c.effects ++ [.synchronizerStarts handler] }

def stopSynchronizer (c : GuestToolsCoordinator) : GuestToolsCoordinator :=
  { c with effects := c.effects ++ [.synchronizerStops] }

/-- `connectionTask?.cancel()` -/
def cancel (c : GuestToolsCoordinator) : GuestToolsCoordinator :=
  match c.connectionTask with
  | none => c
  | some p => { c with probes := c.probes.modify p fun probe => { probe with cancelled := true } }

end Effects

section Lifecycle

def retry (c : GuestToolsCoordinator) : GuestToolsCoordinator :=
  if c.requestHandler.isNone then c.setState .stopped
  else
    let c := (((c.cancel.stopSynchronizer).setNotice none).setState .checking).statusHandler none
    { c with connectionTask := some c.probes.length, probes := c.probes ++ [{}] }

def stop (c : GuestToolsCoordinator) : GuestToolsCoordinator :=
  let c := { c.cancel with connectionTask := none }
  let c := { c.stopSynchronizer with requestHandler := none }
  ((c.setState .stopped).setNotice none).statusHandler none

def start (c : GuestToolsCoordinator) (sharedDirectoryConfigured : Bool) (requestHandler : Nat) :
    GuestToolsCoordinator :=
  ({ c.stop with
    requestHandler := some requestHandler
    sharedDirectoryConfigured : GuestToolsCoordinator }).retry

end Lifecycle

section Probing

def unexpectedResponse : RequestFailure := .other "Guest Tools returned an unexpected response."

/-- `GuestToolsOperationError.guest` -/
def guestFailure (failure : GuestAgentFailure) : RequestFailure :=
  .other ("Guest Tools reported " ++ failure.code ++ ": " ++ failure.message)

/-- `fetchStatus`, once its request has completed. -/
def fetchStatus : Completion → Except RequestFailure GuestAgentStatus
  | .ok (.status status) => .ok status
  | .ok (.failure failure) => .error (guestFailure failure)
  | .ok _ => .error unexpectedResponse
  | .error failure => .error failure

/-- The `catch` clauses at the end of `probe`. -/
def failed (c : GuestToolsCoordinator) : RequestFailure → GuestToolsCoordinator
  | .cancellation => c
  | .incompatibleVersion version =>
    (c.setState (.incompatible
      ("Guest protocol " ++ toString version.toInt ++ " is not supported."))).statusHandler none
  | .other description => (c.setState (.notConnected (some description))).statusHandler none

/-- From the last `checkCancellation` on. -/
def connect (c : GuestToolsCoordinator) (cancelled : Bool) (handler : Nat)
    (status : GuestAgentStatus) : GuestToolsCoordinator :=
  if cancelled then c
  else
    let c := (c.setState (.connected status)).statusHandler (some status)
    if status.sessionType = .wayland ∧ .clipboardRead ∈ status.capabilities ∧
        .clipboardWrite ∈ status.capabilities then c.startSynchronizer handler
    else c

/-- The status has been fetched for the first time. -/
def fetched (c : GuestToolsCoordinator) (cancelled : Bool) (handler : Nat)
    (completion : Completion) : GuestToolsCoordinator × Phase :=
  match fetchStatus completion with
  | .error failure => (c.failed failure, .returned)
  | .ok status =>
    if cancelled then (c, .returned)
    else if currentVersion < status.protocolVersion then
      ((c.setState (.incompatible ("Guest protocol " ++ toString status.protocolVersion.toInt ++
        " is newer than the host protocol " ++ toString currentVersion.toInt ++ "."))).statusHandler
          none, .returned)
    else if c.sharedDirectoryConfigured ∧ .mountSharedDirectory ∈ status.capabilities ∧
        status.sharedMountStatus.state ≠ .mounted then (c, .mounting handler status)
    else (c.connect cancelled handler status, .returned)

def mountNotice (reason : String) : Option String :=
  some ("Guest Tools connected, but the shared folder could not be mounted: " ++ reason)

/-- The `catch` clauses around the mount, after which the probe connects all the same. -/
def mountFailed (c : GuestToolsCoordinator) (cancelled : Bool) (handler : Nat)
    (status : GuestAgentStatus) : RequestFailure → GuestToolsCoordinator
  | .cancellation => c
  | failure =>
    (c.setNotice (mountNotice failure.localizedDescription)).connect cancelled handler status

/-- The request to mount the shared directory has completed. -/
def mounted (c : GuestToolsCoordinator) (cancelled : Bool) (handler : Nat)
    (status : GuestAgentStatus) : Completion → GuestToolsCoordinator × Phase
  | .error failure => (c.mountFailed cancelled handler status failure, .returned)
  | .ok response =>
    if cancelled then (c, .returned)
    else
      match response with
      | .accepted => (c, .refetching handler status)
      | .failure failure =>
        ((c.setNotice (mountNotice failure.message)).connect cancelled handler status, .returned)
      | _ =>
        ((c.setNotice (some
          "Guest Tools connected, but returned an unexpected shared-folder response.")).connect
            cancelled handler status, .returned)

/-- The status has been fetched again after a mount; where that fails the first one stays. -/
def refetched (c : GuestToolsCoordinator) (cancelled : Bool) (handler : Nat)
    (status : GuestAgentStatus) (completion : Completion) : GuestToolsCoordinator × Phase :=
  match fetchStatus completion with
  | .error failure => (c.mountFailed cancelled handler status failure, .returned)
  | .ok status => (c.connect cancelled handler status, .returned)

/-- The request a probe waits for completes. -/
def resume (c : GuestToolsCoordinator) (probe : Probe) (completion : Completion) :
    Option (GuestToolsCoordinator × Phase) :=
  match probe.phase with
  | .created | .returned => none
  | .fetching handler => some (c.fetched probe.cancelled handler completion)
  | .mounting handler status => some (c.mounted probe.cancelled handler status completion)
  | .refetching handler status => some (c.refetched probe.cancelled handler status completion)

/-- `guard let requestHandler else { return }`, and the first request. -/
def begin (c : GuestToolsCoordinator) (probe : Probe) : Option Phase :=
  match probe.phase with
  | .created =>
    match c.requestHandler with
    | none => some .returned
    | some handler => some (.fetching handler)
  | _ => none

end Probing

section Steps

inductive Event
  | start (sharedDirectoryConfigured : Bool) (requestHandler : Nat)
  | retry
  | stop
  /-- The task of a probe gets to run. -/
  | begin (probe : Nat)
  | complete (probe : Nat) (completion : Completion)
deriving Repr

/-- The probe that takes the step. -/
def Event.probe : Event → Option Nat
  | .begin p | .complete p _ => some p
  | _ => none

def moves (c : GuestToolsCoordinator) (p : Nat) (phase : Phase) : GuestToolsCoordinator :=
  { c with probes := c.probes.modify p fun probe => { probe with phase } }

def step (c : GuestToolsCoordinator) : Event → Option GuestToolsCoordinator
  | .start configured handler => some (c.start configured handler)
  | .retry => some c.retry
  | .stop => some c.stop
  | .begin p => do
    let probe ← c.probes[p]?
    let phase ← c.begin probe
    return c.moves p phase
  | .complete p completion => do
    let probe ← c.probes[p]?
    let (c, phase) ← c.resume probe completion
    return c.moves p phase

end Steps

end GuestToolsCoordinator

end SimpleVM.GuestTools
