import SimpleVM.Domain.Machine

/-!
# Quit requests

`AppLifecycleDelegate`, with the two calls of `AppModel` it waits for: each is cut at its
suspension points, and anything else on the main actor may happen in between.
-/
namespace SimpleVM.App

open Domain

/-- The states `hasActiveMachines` looks for. -/
def isActive : MachineRuntimeState → Bool
  | .starting | .running | .stopping => true
  | .stopped | .failed _ => false

/-- `stopAllMachinesGracefully` and `forceStopAllMachines`. -/
inductive StopMode
  | gracefully | forced
deriving DecidableEq, Repr

/-- Whether the loop over the runtimes of a backend calls `requestStop`, `stop` or `forceStop`
on a runtime in that state. -/
def StopMode.stops : StopMode → VirtualizationBackendKind → MachineRuntimeState → Bool
  | .gracefully, .appleVirtualization, .running => true
  | .gracefully, .qemu, .running | .gracefully, .qemu, .stopping => true
  | .forced, .appleVirtualization, .running | .forced, .appleVirtualization, .stopping => true
  | .forced, .qemu, .starting | .forced, .qemu, .running | .forced, .qemu, .stopping => true
  | _, _, _ => false

/-- Where a call of one of the two is suspended. -/
inductive StopWait
  /-- Before its first line. -/
  | entering
  /-- Asleep in `settleIfStarting`, with the sleeps left to it. -/
  | settling (backend : VirtualizationBackendKind) (runtime : UUID) (sleeps : Nat)
      (rest : List UUID)
  /-- In the call on a runtime. -/
  | stopping (backend : VirtualizationBackendKind) (rest : List UUID)
  /-- Asleep at the end of the graceful stop, with the sleeps left to it. -/
  | polling (sleeps : Nat)
  /-- Returned, its caller not resumed yet. -/
  | returned (result : Bool)
deriving DecidableEq, Repr

/-- The task `applicationShouldTerminate` begins. -/
inductive QuitTask
  | stopping (wait : StopWait)
  | alert
  | forcing (wait : StopWait)
deriving DecidableEq, Repr

structure Application where
  startingMachineIDs : List UUID := []
  appleRuntimes : List (UUID × MachineRuntimeState) := []
  qemuRuntimes : List (UUID × MachineRuntimeState) := []
  /-- The three closures of the delegate are set. -/
  installed : Bool := false
  isTerminating : Bool := false
  quitTask : Option QuitTask := none
  /-- `terminateNow` was returned or `true` replied. -/
  terminated : Bool := false
deriving DecidableEq, Repr

namespace Application

def hasActiveMachines (s : Application) : Bool :=
  !s.startingMachineIDs.isEmpty || (s.appleRuntimes ++ s.qemuRuntimes).any fun r => isActive r.2

def runtimes (s : Application) : VirtualizationBackendKind → List (UUID × MachineRuntimeState)
  | .appleVirtualization => s.appleRuntimes
  | .qemu => s.qemuRuntimes

/-- A runtime is dropped with its machine, which is stopped then. -/
def runtimeState (s : Application) (backend : VirtualizationBackendKind) (id : UUID) :
    MachineRuntimeState :=
  ((s.runtimes backend).lookup id).getD .stopped

def setRuntimes (s : Application) (runtimes : List (UUID × MachineRuntimeState)) :
    VirtualizationBackendKind → Application
  | .appleVirtualization => { s with appleRuntimes := runtimes }
  | .qemu => { s with qemuRuntimes := runtimes }

/-- The loop over the runtimes of one backend, up to its next suspension. -/
def visit (s : Application) (mode : StopMode) (backend : VirtualizationBackendKind) :
    List UUID → Option StopWait
  | [] => none
  | id :: rest =>
    if s.runtimeState backend id = .starting then some (.settling backend id 99 rest)
    else if mode.stops backend (s.runtimeState backend id) then some (.stopping backend rest)
    else s.visit mode backend rest

/-- The last loop of the graceful stop, `sleeps` of its rounds to go. -/
def poll (s : Application) (sleeps : Nat) : StopWait :=
  if 0 < sleeps ∧ s.hasActiveMachines then .polling (sleeps - 1)
  else .returned (!s.hasActiveMachines)

/-- Behind the loops; `forceStopAllMachines` returns nothing. -/
def finish (s : Application) : StopMode → StopWait
  | .gracefully => s.poll 600
  | .forced => .returned true

/-- Goes on with the runtimes left of a backend; the QEMU loop follows the Apple loop. -/
def goOn (s : Application) (mode : StopMode) :
    VirtualizationBackendKind → List UUID → StopWait
  | .qemu, rest => (s.visit mode .qemu rest).getD (s.finish mode)
  | .appleVirtualization, rest =>
    (s.visit mode .appleVirtualization rest).getD
      ((s.visit mode .qemu (s.qemuRuntimes.map (·.1))).getD (s.finish mode))

/-- Resumes the call; one that returned is not resumed again. -/
def resumeStop (s : Application) (mode : StopMode) : StopWait → Option StopWait
  | .entering => some (s.goOn mode .appleVirtualization (s.appleRuntimes.map (·.1)))
  | .settling backend id sleeps rest =>
    if s.runtimeState backend id = .starting ∧ 0 < sleeps then
      some (.settling backend id (sleeps - 1) rest)
    else if mode.stops backend (s.runtimeState backend id) then some (.stopping backend rest)
    else some (s.goOn mode backend rest)
  | .stopping backend rest => some (s.goOn mode backend rest)
  | .polling sleeps => some (s.poll sleeps)
  | .returned _ => none

/-- `applicationShouldTerminate`. -/
def applicationShouldTerminate (s : Application) : Application :=
  if !s.isTerminating && s.installed && s.hasActiveMachines then
    { s with isTerminating := true, quitTask := some (.stopping .entering) }
  else { s with terminated := true }

/-- The quit task up to its next suspension or its end. -/
def resumeQuit (s : Application) : QuitTask → Option Application
  | .stopping (.returned true) => some { s with quitTask := none, terminated := true }
  | .stopping (.returned false) => some { s with quitTask := some .alert }
  | .stopping wait =>
    (s.resumeStop .gracefully wait).map fun next => { s with quitTask := some (.stopping next) }
  | .alert => none
  | .forcing (.returned _) => some { s with quitTask := none, terminated := true }
  | .forcing wait =>
    (s.resumeStop .forced wait).map fun next => { s with quitTask := some (.forcing next) }

/-- The button that ends the alert. -/
def answer (s : Application) (force : Bool) : Option Application :=
  if s.quitTask = some .alert then
    if force then some { s with quitTask := some (.forcing .entering) }
    else some { s with isTerminating := false, quitTask := none }
  else none

end Application

/-- What happens on the main actor. What the machines do, of themselves or because a runtime
was told to stop, arrives as starts and transitions. -/
inductive QuitEvent
  | install
  | shouldTerminate
  | resume
  | answer (force : Bool)
  | starts (id : UUID)
  | startReturns (id : UUID)
  | transitions (backend : VirtualizationBackendKind) (id : UUID) (state : MachineRuntimeState)
  | drops (backend : VirtualizationBackendKind) (id : UUID)
deriving DecidableEq, Repr

/-- One event; nothing follows once the app was allowed to terminate. -/
def Application.step (s : Application) (event : QuitEvent) : Option Application :=
  if s.terminated then none
  else match event with
    | .install => some { s with installed := true }
    | .shouldTerminate => some s.applicationShouldTerminate
    | .resume => s.quitTask.bind s.resumeQuit
    | .answer force => s.answer force
    | .starts id => some { s with startingMachineIDs := s.startingMachineIDs.insert id }
    | .startReturns id => some { s with startingMachineIDs := s.startingMachineIDs.erase id }
    | .transitions backend id state => some
        (s.setRuntimes ((id, state) :: (s.runtimes backend).filter (·.1 ≠ id)) backend)
    | .drops backend id => some
        (s.setRuntimes ((s.runtimes backend).filter (·.1 ≠ id)) backend)

end SimpleVM.App
