import SimpleVM.Domain.Machine
import SimpleVM.Transition.Tasks

/-!
# The Apple runtime

`MachineRuntime` as far as it starts and stops virtual machines. Everything runs on the main
actor; a call is suspended only while the framework or the guest tools answer. Each start makes
one virtual machine, named by the number of starts before it.
-/
namespace SimpleVM.Apple

open Domain

/-- What a suspended call awaits. -/
inductive Awaited
  /-- `virtualMachine.start()` -/
  | start
  /-- `guestTools.requestShutdown()` in `requestStop` -/
  | shutdownRequest
  /-- `virtualMachine.stop()` in `forceStop` -/
  | stop
deriving DecidableEq, Repr

/-- A suspended call, with the virtual machine it has in hand. -/
structure Call where
  virtualMachine : Nat
  awaited : Awaited
deriving DecidableEq, Repr

structure MachineRuntime where
  state : MachineRuntimeState := .stopped
  virtualMachine : Option Nat := none
  virtualMachineDelegate : Option Nat := none
  /-- Virtual machines made so far. -/
  made : Nat := 0
  calls : List Call := []
  /-- States on their way from a delegate to `handleDelegateState`. -/
  deliveries : List (Nat × MachineRuntimeState) := []
  /-- What the error handler was given. -/
  errors : List String := []
deriving DecidableEq, Repr

inductive Event
  | start
  /-- With the outcome of `supports(.gracefulShutdown)` and the error of the framework's own
  `requestStop()`, if any. -/
  | requestStop (gracefulShutdown : Bool) (requestError : Option String)
  | forceStop
  /-- The awaited call returns or throws; `requestError` is as above. -/
  | complete (index : Nat) (error requestError : Option String)
  | guestDidStop (virtualMachine : Nat)
  | didStopWithError (virtualMachine : Nat) (message : String)
  | deliver (index : Nat)
deriving DecidableEq, Repr

namespace MachineRuntime

/-- A runtime made for a machine recorded in state `recorded`. -/
def create (recorded : MachineRuntimeState) : MachineRuntime := { state := recorded.restored }

/-- The virtual machine of the latest start. -/
def isLatest (s : MachineRuntime) (virtualMachine : Nat) : Prop := virtualMachine + 1 = s.made

def report (s : MachineRuntime) (error : String) : MachineRuntime :=
  { s with errors := s.errors ++ [error] }

def suspend (s : MachineRuntime) (virtualMachine : Nat) (awaited : Awaited) : MachineRuntime :=
  { s with calls := ⟨virtualMachine, awaited⟩ :: s.calls }

/-- `clearVirtualMachine(); transition(to: outcome)`. -/
def clear (s : MachineRuntime) (outcome : MachineRuntimeState) : MachineRuntime :=
  { s with virtualMachine := none, virtualMachineDelegate := none, state := outcome }

def start (s : MachineRuntime) : MachineRuntime :=
  if s.state.canStart then
    { s with
      state := .starting
      virtualMachine := some s.made
      virtualMachineDelegate := some s.made
      made := s.made + 1 }.suspend s.made .start
  else s

/-- `virtualMachine.requestStop()` and what follows it. -/
def requestFrameworkStop (s : MachineRuntime) (virtualMachine : Nat) (requestError : Option String) :
    MachineRuntime :=
  if s.virtualMachine = some virtualMachine ∧ s.state = .running then
    match requestError with
    | none => { s with state := .stopping }
    | some error => s.report error
  else s

def requestStop (s : MachineRuntime) (gracefulShutdown : Bool) (requestError : Option String) :
    MachineRuntime :=
  match s.virtualMachine with
  | none => s
  | some virtualMachine =>
    if s.state = .running then
      if gracefulShutdown then s.suspend virtualMachine .shutdownRequest
      else s.requestFrameworkStop virtualMachine requestError
    else s

def forceStop (s : MachineRuntime) : MachineRuntime :=
  match s.virtualMachine with
  | none => s
  | some virtualMachine =>
    if s.state = .running ∨ s.state = .stopping then
      { s with state := .stopping }.suspend virtualMachine .stop
    else s

/-- A call goes on with the answer of what it awaited. -/
def resume (s : MachineRuntime) (call : Call) (error requestError : Option String) :
    MachineRuntime :=
  match call.awaited, error with
  | .start, none => { s with state := .running }
  | .start, some message => s.clear (.failed message)
  | .stop, none => s.clear .stopped
  | .stop, some error => { s with state := .running }.report error
  | .shutdownRequest, none =>
    if s.virtualMachine = some call.virtualMachine ∧ s.state = .running then
      { s with state := .stopping }
    else s
  | .shutdownRequest, some error =>
    if s.virtualMachine = some call.virtualMachine ∧ s.state = .running then
      (s.report error).requestFrameworkStop call.virtualMachine requestError
    else s

/-- The delegate of `virtualMachine` makes a task. -/
def enqueue (s : MachineRuntime) (virtualMachine : Nat) (state : MachineRuntimeState) :
    Option MachineRuntime :=
  if virtualMachine < s.made then
    some { s with deliveries := s.deliveries ++ [(virtualMachine, state)] }
  else none

def step (s : MachineRuntime) : Event → Option MachineRuntime
  | .start => some s.start
  | .requestStop gracefulShutdown requestError => some (s.requestStop gracefulShutdown requestError)
  | .forceStop => some s.forceStop
  | .complete index error requestError => do
    let call ← s.calls[index]?
    some ({ s with calls := s.calls.eraseIdx index }.resume call error requestError)
  | .guestDidStop virtualMachine => s.enqueue virtualMachine .stopped
  | .didStopWithError virtualMachine message => s.enqueue virtualMachine (.failed message)
  | .deliver index => do
    let (_, state) ← s.deliveries[index]?
    -- `handleDelegateState`
    some ({ s with deliveries := s.deliveries.eraseIdx index }.clear state)

/-- The virtual machine whose call or delegate delivery the event completes. -/
def completedMachine (s : MachineRuntime) : Event → Option Nat
  | .complete index .. => s.calls[index]?.map Call.virtualMachine
  | .deliver index => s.deliveries[index]?.map Prod.fst
  | _ => none

end MachineRuntime

end SimpleVM.Apple
