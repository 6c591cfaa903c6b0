import SimpleVM.Domain.Machine
import SimpleVM.QEMU.ProcessController
import SimpleVM.Transition.Tasks

/-!
# The QEMU runtime

`QEMUMachineRuntime` as far as it starts and ends processes. Every call is cut where it
suspends; the actors and the operating system move between any two of its parts. One start
makes one process controller and at most one TPM controller, so both are named by the
generation of their start. The generation is a plain number here; it would wrap after 2^64
starts.
-/
namespace SimpleVM.QEMU

open Domain

/-- Where `start` is suspended, up to its catch block. -/
inductive StartStage
  | allocatingPort
  | startingTPM
  | awaitingTPM
  /-- The launch is queued at the process controller. -/
  | startingProcess
  | processStarted
  | processFailed (message : String)
  | connecting
deriving DecidableEq, Repr

/-- Where `forceStop`, or the catch block of `start`, is suspended. -/
inductive ShutdownStage
  | killQueued (controller : Nat)
  | killWaiting (controller : Nat)
  | killed (controller : Nat)
  | stoppingTPM (controller : Nat)
deriving DecidableEq, Repr

inductive StopStage
  | requestingShutdown
  | stopQueued (controller : Nat)
  | stopWaiting (controller : Nat)
  | answered (result : QEMUStopResult)
  | stoppingTPM (controller : Nat)
deriving DecidableEq, Repr

/-- A `shutdown` that ends in `.stopped` is a `forceStop`; one that ends in `.failed` is the
catch block of `start`. An `exit` is the task made by `finishAfterProcessExit`. -/
inductive Activity
  | start (stage : StartStage)
  | shutdown (outcome : MachineRuntimeState) (stage : ShutdownStage)
  | stop (stage : StopStage)
  | exit (outcome : MachineRuntimeState) (tpm : Option Nat)
deriving DecidableEq, Repr

/-- A suspended call, with the generation it began in. `start` and `exit` keep theirs in the
source too; `stop` and `forceStop` do not. -/
structure Call where
  generation : Nat
  activity : Activity
deriving DecidableEq, Repr

structure Runtime where
  state : MachineRuntimeState := .stopped
  runtimeGeneration : Nat := 0
  processController : Option Nat := none
  softwareTPMController : Option Nat := none
  controllers : Nat → ProcessController := fun _ => {}
  /-- The software TPM processes that run. -/
  tpms : Nat → Bool := fun _ => false
  /-- Reports of process controllers on their way to `handle`. -/
  callbacks : List (Nat × ProcessState) := []
  calls : List Call := []

inductive Reply
  | returns
  | throws (message : String)
  | configured (usesTPM : Bool)
  | launches (launch : Launch)
  | timesOut
deriving DecidableEq, Repr

/-- The error an awaited call threw, if any. -/
def Reply.error? : Reply → Option String
  | .throws message => some message
  | _ => none

inductive Event
  /-- With the error of the synchronous part before the first suspension, if any. -/
  | start (discoveryError : Option String)
  | stop (gracefulShutdown : Bool)
  | forceStop
  | resume (index : Nat) (reply : Reply)
  | deliver (index : Nat)
  | processExits (controller : Nat) (status : Int)
  | processTerminated (controller : Nat)
  | tpmExits (controller : Nat)
deriving DecidableEq, Repr

def Event.isStart : Event → Bool
  | .start _ => true
  | _ => false

namespace Runtime

/-- A runtime made for a machine recorded in state `recorded`. -/
def create (recorded : MachineRuntimeState) : Runtime := { state := recorded.restored }

def push (s : Runtime) (generation : Nat) (activity : Activity) : Runtime :=
  { s with calls := ⟨generation, activity⟩ :: s.calls }

def setController (s : Runtime) (c : Nat) (controller : ProcessController)
    (reports : List ProcessState) : Runtime :=
  { s with
    controllers := fun other => if other = c then controller else s.controllers other
    callbacks := s.callbacks ++ reports.map fun report => (c, report) }

def setTPM (s : Runtime) (t : Nat) (isRunning : Bool) : Runtime :=
  { s with tpms := fun other => if other = t then isRunning else s.tpms other }

/-- `clearRuntime(); transition(to: outcome)`. -/
def finish (s : Runtime) (outcome : MachineRuntimeState) : Runtime :=
  { s with processController := none, softwareTPMController := none, state := outcome }

/-- `await softwareTPMController?.forceStop()` and the rest of a shutdown. -/
def shutdownTPM (s : Runtime) (generation : Nat) (outcome : MachineRuntimeState) : Runtime :=
  match s.softwareTPMController with
  | some t => s.push generation (.shutdown outcome (.stoppingTPM t))
  | none => s.finish outcome

/-- `await processController?.forceStop()` and the rest of a shutdown. -/
def shutdown (s : Runtime) (generation : Nat) (outcome : MachineRuntimeState) : Runtime :=
  match s.processController with
  | some c => s.push generation (.shutdown outcome (.killQueued c))
  | none => s.shutdownTPM generation outcome

def start (s : Runtime) (discoveryError : Option String) : Runtime :=
  if s.state.canStart then
    let generation := s.runtimeGeneration + 1
    let s := { s with runtimeGeneration := generation, state := .starting }
    match discoveryError with
    | none => s.push generation (.start .allocatingPort)
    | some message => s.shutdown generation (.failed message)
  else s

/-- The controller is assigned, then its launch awaited. -/
def startProcess (s : Runtime) (generation : Nat) : Runtime :=
  { s with processController := some generation }.push generation (.start .startingProcess)

/-- What `stop` does with the answer of the process controller. -/
def answerStop (s : Runtime) (generation : Nat) : QEMUStopResult → Runtime
  | .stopped =>
    match s.softwareTPMController with
    | some t => s.push generation (.stop (.stoppingTPM t))
    | none => s.finish .stopped
  | .timedOut => s
  | .requestFailed _ => { s with state := .running }

/-- `await processController?.stop() ?? .stopped`. -/
def stopProcess (s : Runtime) (generation : Nat) : Runtime :=
  match s.processController with
  | some c => s.push generation (.stop (.stopQueued c))
  | none => s.answerStop generation .stopped

def stop (s : Runtime) (gracefulShutdown : Bool) : Runtime :=
  if s.state = .running ∨ s.state = .stopping then
    let s := { s with state := .stopping }
    if gracefulShutdown then s.push s.runtimeGeneration (.stop .requestingShutdown)
    else s.stopProcess s.runtimeGeneration
  else s

/-- The states `forceStop` does anything in. -/
def isActive (s : Runtime) : Bool :=
  decide (s.state = .starting) || decide (s.state = .running) || decide (s.state = .stopping)

def forceStop (s : Runtime) : Runtime :=
  if s.isActive then { s with state := .stopping }.shutdown s.runtimeGeneration .stopped else s

/-- `finishAfterProcessExit`. -/
def finishAfterProcessExit (s : Runtime) (outcome : MachineRuntimeState) : Runtime :=
  { s with softwareTPMController := none }.push s.runtimeGeneration
    (.exit outcome s.softwareTPMController)

/-- `handle(processState:generation:)`. -/
def handle (s : Runtime) (generation : Nat) (processState : ProcessState) : Runtime :=
  if generation = s.runtimeGeneration then
    match processState with
    | .stopped => s.finishAfterProcessExit .stopped
    | .failed message => s.finishAfterProcessExit (.failed message)
    | .starting | .running | .stopping => s
  else s

def resumeStart (s : Runtime) (g : Nat) : StartStage → Reply → Option Runtime
  | .allocatingPort, .configured true => some (s.push g (.start .startingTPM))
  | .allocatingPort, .configured false => some (s.startProcess g)
  | .allocatingPort, .throws message => some (s.shutdown g (.failed message))
  | .startingTPM, .returns => some ((s.setTPM g true).push g (.start .awaitingTPM))
  | .startingTPM, .throws message => some (s.shutdown g (.failed message))
  | .awaitingTPM, .returns => some ({ s with softwareTPMController := some g }.startProcess g)
  | .awaitingTPM, .throws message =>
    -- The TPM controller has waited for its process to exit before it throws.
    if s.tpms g then none else some (s.shutdown g (.failed message))
  | .startingProcess, .launches launch =>
    match (s.controllers g).start launch with
    | (controller, reports, none) =>
      some ((s.setController g controller reports).push g (.start .processStarted))
    | (controller, reports, some message) =>
      some ((s.setController g controller reports).push g (.start (.processFailed message)))
  | .processStarted, .returns => some (s.push g (.start .connecting))
  | .processStarted, .throws message => some (s.shutdown g (.failed message))
  | .processFailed message, .returns => some (s.shutdown g (.failed message))
  | .connecting, .returns => some { s with state := .running }
  | .connecting, .throws message => some (s.shutdown g (.failed message))
  | _, _ => none

def resumeShutdown (s : Runtime) (g : Nat) (outcome : MachineRuntimeState) :
    ShutdownStage → Option Runtime
  | .killQueued c =>
    if (s.controllers c).process then
      let (controller, reports) := (s.controllers c).forceStop
      some ((s.setController c controller reports).push g (.shutdown outcome (.killWaiting c)))
    else some (s.push g (.shutdown outcome (.killed c)))
  | .killWaiting c =>
    if (s.controllers c).isRunning then none
    else
      let (controller, reports) := (s.controllers c).completeExpectedTermination
      some ((s.setController c controller reports).push g (.shutdown outcome (.killed c)))
  | .killed _ => some (s.shutdownTPM g outcome)
  | .stoppingTPM t => if s.tpms t then none else some (s.finish outcome)

def resumeStop (s : Runtime) (g : Nat) : StopStage → Reply → Option Runtime
  | .requestingShutdown, .returns => some s
  | .requestingShutdown, .throws _ => some (s.stopProcess g)
  | .stopQueued c, reply =>
    match (s.controllers c).stop reply.error? with
    | (controller, reports, none) =>
      some ((s.setController c controller reports).push g (.stop (.stopWaiting c)))
    | (controller, reports, some result) =>
      some ((s.setController c controller reports).push g (.stop (.answered result)))
  | .stopWaiting c, .returns =>
    if (s.controllers c).isRunning then none
    else
      let (controller, reports) := (s.controllers c).completeExpectedTermination
      some ((s.setController c controller reports).push g (.stop (.answered .stopped)))
  | .stopWaiting c, .timesOut =>
    if (s.controllers c).isRunning then some (s.push g (.stop (.answered .timedOut))) else none
  | .answered result, .returns => some (s.answerStop g result)
  | .stoppingTPM t, .returns => if s.tpms t then none else some (s.finish .stopped)
  | _, _ => none

/-- The end of the task made by `finishAfterProcessExit`. -/
def resumeExit (s : Runtime) (g : Nat) (outcome : MachineRuntimeState) (tpm : Option Nat) :
    Option Runtime :=
  if tpm.any s.tpms then none
  else some (if g = s.runtimeGeneration then s.finish outcome else s)

/-- A call taken out of `calls` runs to its next suspension, where it goes back in. -/
def resume (s : Runtime) (call : Call) (reply : Reply) : Option Runtime :=
  match call.activity with
  | .start stage => s.resumeStart call.generation stage reply
  | .shutdown outcome stage => s.resumeShutdown call.generation outcome stage
  | .stop stage => s.resumeStop call.generation stage reply
  | .exit outcome tpm => s.resumeExit call.generation outcome tpm

def step (s : Runtime) : Event → Option Runtime
  | .start discoveryError => some (s.start discoveryError)
  | .stop gracefulShutdown => some (s.stop gracefulShutdown)
  | .forceStop => some s.forceStop
  | .resume index reply =>
    match s.calls[index]? with
    | none => none
    | some call => { s with calls := s.calls.eraseIdx index }.resume call reply
  | .deliver index =>
    match s.callbacks[index]? with
    | none => none
    | some (generation, processState) =>
      some ({ s with callbacks := s.callbacks.eraseIdx index }.handle generation processState)
  | .processExits c status =>
    if (s.controllers c).isRunning then
      some (s.setController c ((s.controllers c).exit status) [])
    else none
  | .processTerminated c =>
    match (s.controllers c).isRunning, (s.controllers c).exitStatus with
    | true, _ | _, none => none
    | false, some status =>
      let (controller, reports) := (s.controllers c).processTerminated status
      some (s.setController c { controller with exitStatus := none } reports)
  | .tpmExits t => if s.tpms t then some (s.setTPM t false) else none

/-- The step is the last one of a `forceStop` call. -/
def forceStopReturns (s : Runtime) : Event → Bool
  | .forceStop => !s.isActive || (s.processController.isNone && s.softwareTPMController.isNone)
  | .resume index _ =>
    match s.calls[index]? with
    | some ⟨_, .shutdown .stopped (.killed _)⟩ => s.softwareTPMController.isNone
    | some ⟨_, .shutdown .stopped (.stoppingTPM _)⟩ => true
    | _ => false
  | _ => false

end Runtime

end SimpleVM.QEMU
