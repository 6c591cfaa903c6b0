import SimpleVM.Transition.Tasks

/-!
# The SPICE connection controller

`SPICEConnectionController` as far as it makes, drops and reports on connections. All of it
runs on the main actor; a call of `connect` is suspended while it waits for its continuation
and while it sleeps between two attempts. An attempt makes one connection and stores one
continuation, so both go by the number of the attempt.
-/
namespace SimpleVM.SPICE

open Transition

inductive SPICEConnectionError
  | startFailed | connectionFailed | unavailable
  | remote (message : String)
deriving DecidableEq, Repr

/-- A delegate callback, made into a task of the main actor. -/
inductive Report
  | connected | disconnected
  | error (message : String)
deriving DecidableEq, Repr

/-- What an attempt finds: no socket, or a connection whose `connect()` answers false or true. -/
inductive Attempt
  | noSocket | refused | started
deriving DecidableEq, Repr

inductive ConnectStage
  | suspended (connection : Nat)
  /-- The continuation has been resumed, with an error or without one. -/
  | resumed (connection : Nat) (error : Option SPICEConnectionError)
  | sleeping
deriving DecidableEq, Repr

/-- A call of `connect`, with the number of attempts after the present one. -/
structure ConnectCall where
  remaining : Nat
  lastError : Option SPICEConnectionError
  stage : ConnectStage
deriving DecidableEq, Repr

/-- How a call of `connect` ended. -/
inductive ConnectResult
  | returned | cancelled
  | threw (error : SPICEConnectionError)
deriving DecidableEq, Repr

structure ConnectionController where
  connection : Option Nat := none
  connectionContinuation : Option Nat := none
  /-- Connections made so far. -/
  made : Nat := 0
  resumptions : List (Nat × Option SPICEConnectionError) := []
  /-- Connections `disconnect` was called on. -/
  disconnected : List Nat := []
  /-- Callbacks that have not reached the main actor. -/
  reports : List (Nat × Report) := []
  calls : List ConnectCall := []
  results : List ConnectResult := []
  /-- What the error handler was given. -/
  errors : List SPICEConnectionError := []
deriving DecidableEq, Repr

inductive Event
  | connect (clientStarts : Bool) (attempt : Attempt)
  /-- The sleep of a call ends. -/
  | wake (index : Nat) (attempt : Attempt)
  /-- The sleep of a call is cancelled. -/
  | cancel (index : Nat)
  /-- A call goes on after its continuation was resumed. -/
  | proceed (index : Nat)
  | disconnect
  | report (connection : Nat) (report : Report)
  | deliver (index : Nat)
deriving DecidableEq, Repr

def ConnectCall.resume (call : ConnectCall) (connection : Nat)
    (error : Option SPICEConnectionError) : ConnectCall :=
  if call.stage = .suspended connection then { call with stage := .resumed connection error }
  else call

namespace ConnectionController

/-- How often the continuation of attempt `k` was resumed. -/
def timesResumed (s : ConnectionController) (k : Nat) : Nat :=
  (s.resumptions.map Prod.fst).count k

def resume (s : ConnectionController) (k : Nat) (error : Option SPICEConnectionError) :
    ConnectionController :=
  { s with
    resumptions := s.resumptions ++ [(k, error)]
    calls := s.calls.map fun call => call.resume k error }

def finish (s : ConnectionController) (result : ConnectResult) : ConnectionController :=
  { s with results := s.results ++ [result] }

/-- `prepareConnection` -/
def prepareConnection (s : ConnectionController) : ConnectionController :=
  { s with connection := some s.made, made := s.made + 1 }

/-- The catch block of an attempt, up to the sleep. -/
def attemptFailed (s : ConnectionController) (remaining connection : Nat)
    (error : SPICEConnectionError) : ConnectionController :=
  { s with
    disconnected := connection :: s.disconnected
    connection := none
    calls := ⟨remaining, some error, .sleeping⟩ :: s.calls }

/-- One round of the loop in `connect`. A refused connection resumes its own continuation before
the call is suspended. -/
def attempt (s : ConnectionController) (remaining : Nat)
    (lastError : Option SPICEConnectionError) : Attempt → ConnectionController
  | .noSocket => { s with calls := ⟨remaining, lastError, .sleeping⟩ :: s.calls }
  | .refused =>
    ({ s.prepareConnection with connectionContinuation := none }.resume s.made
      (some .connectionFailed)).attemptFailed remaining s.made .connectionFailed
  | .started =>
    { s.prepareConnection with
      connectionContinuation := some s.made
      calls := ⟨remaining, lastError, .suspended s.made⟩ :: s.calls }

def connect (s : ConnectionController) (clientStarts : Bool) (attempt : Attempt) :
    ConnectionController :=
  if clientStarts then s.attempt 99 none attempt else s.finish (.threw .startFailed)

/-- The next round of the loop, or its end. -/
def wake (s : ConnectionController) (call : ConnectCall) (attempt : Attempt) :
    Option ConnectionController :=
  match call.stage with
  | .sleeping =>
    match call.remaining with
    | 0 => some (s.finish (.threw (call.lastError.getD .unavailable)))
    | remaining + 1 => some (s.attempt remaining call.lastError attempt)
  | _ => none

def proceed (s : ConnectionController) (call : ConnectCall) : Option ConnectionController :=
  match call.stage with
  | .resumed _ none => some (s.finish .returned)
  | .resumed connection (some error) => some (s.attemptFailed call.remaining connection error)
  | _ => none

def disconnect (s : ConnectionController) : ConnectionController :=
  { s with
    disconnected := s.connection.toList ++ s.disconnected
    connection := none }

/-- The task of a callback from connection `k`. -/
def handle (s : ConnectionController) (k : Nat) : Report → ConnectionController
  | .connected =>
    if s.connection = some k then
      match s.connectionContinuation with
      | some continuation => { s.resume continuation none with connectionContinuation := none }
      | none => s
    else s
  | .disconnected =>
    match s.connectionContinuation with
    | some continuation =>
      if s.connection = some k then
        { s.resume continuation (some .connectionFailed) with connectionContinuation := none }
      else s
    | none => s
  | .error message =>
    match s.connectionContinuation with
    | some continuation =>
      if s.connection = some k then
        { s.resume continuation (some (.remote message)) with connectionContinuation := none }
      else { s with errors := s.errors ++ [.remote message] }
    | none => { s with errors := s.errors ++ [.remote message] }

/-- Without the call at `index`, if there is one. -/
def takeCall (s : ConnectionController) (index : Nat) :
    Option (ConnectCall × ConnectionController) :=
  s.calls[index]?.map fun call => (call, { s with calls := s.calls.eraseIdx index })

def step (s : ConnectionController) : Event → Option ConnectionController
  | .connect clientStarts attempt => some (s.connect clientStarts attempt)
  | .wake index attempt => do
    let (call, s) ← s.takeCall index
    s.wake call attempt
  | .cancel index => do
    let (call, s) ← s.takeCall index
    if call.stage = .sleeping then some (s.finish .cancelled) else none
  | .proceed index => do
    let (call, s) ← s.takeCall index
    s.proceed call
  | .disconnect => some s.disconnect
  | .report k report => if k < s.made then some { s with reports := s.reports ++ [(k, report)] }
    else none
  | .deliver index => do
    let (k, report) ← s.reports[index]?
    some ({ s with reports := s.reports.eraseIdx index }.handle k report)

end ConnectionController

end SimpleVM.SPICE
