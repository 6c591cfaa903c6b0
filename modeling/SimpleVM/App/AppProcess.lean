import SimpleVM.App.Exclusion
import SimpleVM.App.SettingCalls
import SimpleVM.Apple.Recovery
import SimpleVM.QEMU.ForceStop
import SimpleVM.QEMU.Recovery

/-!
# The app from launch to launch

`AppModel` with the runtime objects behind its two dictionaries, and the machines of
library.json, which outlive the process. What a runtime goes through is recorded on its
machine, every record is saved sooner or later, and the next launch starts from what was
saved.
-/
namespace SimpleVM.App

open Domain

/-- An entry of `appleRuntimes` or of `qemuRuntimes`. -/
inductive RuntimeObject
  | apple (runtime : Apple.MachineRuntime)
  | qemu (runtime : QEMU.Runtime)

inductive RuntimeEvent
  | apple (event : Apple.Event)
  | qemu (event : QEMU.Event)
deriving DecidableEq, Repr

namespace RuntimeEvent

def isStart : RuntimeEvent → Bool
  | .apple .start => true
  | .qemu event => event.isStart
  | _ => false

/-- What a `forceStop` that is suspended waits for. -/
def continues : RuntimeEvent → Bool
  | .apple event => event.isCompletion
  | .qemu event => event.isCompletion

end RuntimeEvent

namespace RuntimeObject

def create (machine : Machine) : RuntimeObject :=
  match machine.backend with
  | .appleVirtualization => .apple (.create machine.runtimeState)
  | .qemu => .qemu (.create machine.runtimeState)

def state : RuntimeObject → MachineRuntimeState
  | .apple runtime => runtime.state
  | .qemu runtime => runtime.state

/-- With the error that a start of QEMU meets before its first suspension, if any. -/
def start (startError : Option String) : RuntimeObject → RuntimeObject
  | .apple runtime => .apple runtime.start
  | .qemu runtime => .qemu (runtime.start startError)

/-- The event of a call to `forceStop`. -/
def forceStop : RuntimeObject → RuntimeEvent
  | .apple _ => .apple .forceStop
  | .qemu _ => .qemu .forceStop

/-- `start` has not returned. -/
def isLaunching : RuntimeObject → Bool
  | .apple runtime => runtime.calls.any fun call => decide (call.awaited = .start)
  | .qemu runtime => runtime.calls.any fun call => call.activity.belongsToStart

/-- No call is suspended, no report is on its way and no process runs. A virtual machine may
be held: one that has ended is dropped when the report of its delegate arrives. -/
def AtRest : RuntimeObject → Prop
  | .apple runtime => runtime.calls = [] ∧ runtime.deliveries = []
  | .qemu runtime => runtime.calls = [] ∧ runtime.callbacks = [] ∧
    ∀ c, (runtime.controllers c).isRunning = false

def step : RuntimeObject → RuntimeEvent → Option RuntimeObject
  | .apple runtime, .apple event => (runtime.step event).map .apple
  | .qemu runtime, .qemu event => (runtime.step event).map .qemu
  | _, _ => none

end RuntimeObject

namespace AppModel

/-- The checks at the head of `ejectInstaller`. -/
def ensureEjectable (s : AppModel) (machine : Machine) : Option AppModelError :=
  if machine.id ∈ s.startingMachineIDs then some .machineStartInProgress
  else if s.runtime machine ≠ .stopped then some .machineMustBeStopped
  else none

end AppModel

/-- A change of machines that is not about their runtimes: a setting, its rollback, the
progress of an installation. -/
structure Amendment where
  amend : Machine → Machine
  id_amend : ∀ m, (amend m).id = m.id
  runtimeState_amend : ∀ m, (amend m).runtimeState = m.runtimeState

structure AppProcess where
  app : AppModel
  objects : UUID → Option RuntimeObject := fun _ => none
  /-- `store` is set. -/
  initialized : Bool := false
  /-- What each suspended `initialize` has loaded. -/
  loaded : List (List Machine) := []
  /-- The `previous` of each suspended `removeCustomInputProfile`. -/
  previous : List (List Machine) := []
  /-- The machines of each snapshot on its way to the store. -/
  saves : List (List Machine) := []
  /-- The machines of library.json. -/
  library : List Machine

inductive AppEvent
  /-- `initialize` up to the end of its load. -/
  | load
  /-- The rest of `initialize`, with the error that ends it early, if any. -/
  | restore (index : Nat) (error : Option String)
  | request (operation : DiskOperation) (machine : Machine)
  | resume (index : Nat) (reply : Reply) (startError : Option String)
  /-- A call of `requestStop` or `forceStop`, or an event inside the runtime. -/
  | runtime (machine : Machine) (event : RuntimeEvent)
  /-- A transition of the runtime to the state it is in. -/
  | repeatTransition (id : UUID)
  /-- `runtimeState(for:)`, which the views read. -/
  | runtimeState (machine : Machine)
  /-- `createMachine` lists its machine. -/
  | listMachine (machine : Machine)
  | ejectInstaller (machine : Machine)
  | amend (amendment : Amendment)
  | removeCustomInputProfile (id : UUID)
  /-- The save of a `removeCustomInputProfile` has ended. -/
  | profileRemoved (index : Nat) (error : Option String)
  | persist
  /-- The store executes a save. One that fails leaves the file alone. -/
  | save (index : Nat)
  /-- The process ends, for whatever reason, and the app is launched again. -/
  | relaunch

namespace AppProcess

/-- A launch before `initialize`. -/
def launched (library : List Machine) : AppProcess where
  app := { machines := [] }
  library := library

def object (s : AppProcess) (machine : Machine) : RuntimeObject :=
  (s.objects machine.id).getD (.create machine)

def setObject (s : AppProcess) (id : UUID) (object : RuntimeObject) : AppProcess :=
  { s with objects := fun other => if other = id then some object else s.objects other }

/-- `appleRuntime(for:)` and `qemuRuntime(for:)`: the object is made on first use. -/
def withObject (s : AppProcess) (machine : Machine) : AppProcess :=
  { s.setObject machine.id (s.object machine) with app := s.app.withRuntime machine }

/-- A runtime has become `object`; its state handler records the state if it is a new one. -/
def move (s : AppProcess) (id : UUID) (object : RuntimeObject) : Option AppProcess :=
  if s.app.runtimes id = some object.state then some (s.setObject id object)
  else (s.app.runtimeChanges id object.state).map fun app =>
    { s.setObject id object with app := app }

def refuse (s : AppProcess) (error : AppModelError) : AppProcess :=
  { s with app := s.app.refuse error }

def withMachines (s : AppProcess) (machines : List Machine) : AppProcess :=
  { s with app := { s.app with machines := machines } }

def restore (s : AppProcess) (machines : List Machine) : Option String → AppProcess
  | some error => { s with app := s.app.present error }
  | none => { s.withMachines
      (machines.map fun m => { m with runtimeState := m.runtimeState.restored }) with
    initialized := true }

/-- A call up to its first suspension. Only a start and an export look at no runtime. -/
def request (s : AppProcess) (operation : DiskOperation) (machine : Machine) : AppProcess :=
  if s.initialized then
    let app := s.app.request operation machine
    if operation.registers then { s with app := app }
    else { s.withObject machine with app := app }
  else s.refuse .notInitialized

/-- A task has gone on: it may have started the machine's runtime or removed it. -/
def follow (s : AppProcess) (task : DiskTask) (reply : Reply) (startError : Option String) :
    Option AppProcess :=
  match task.operation, task.phase, reply with
  | .start, .preparing, .returns =>
    s.move task.machine.id ((s.object task.machine).start startError)
  | .deleteMachine, .awaitingStore, .returns =>
    some { s with objects := fun other => if other = task.machine.id then none else s.objects other }
  | _, _, _ => some s

def resume (s : AppProcess) (index : Nat) (reply : Reply) (startError : Option String) :
    Option AppProcess := do
  let task ← s.app.tasks[index]?
  -- `start` goes on when the `start` of the runtime has returned.
  if task.phase = .launching ∧ (s.objects task.machine.id).any RuntimeObject.isLaunching then none
  else
    let app ← s.app.step (.resume index reply)
    { s with app := app }.follow task reply startError

/-- Starts come from `start` only, which is a task of its own. -/
def runtime (s : AppProcess) (machine : Machine) (event : RuntimeEvent) : Option AppProcess :=
  if event.isStart then none
  else do
    let object ← (s.object machine).step event
    (s.withObject machine).move machine.id object

def ejectInstaller (s : AppProcess) (machine : Machine) : AppProcess :=
  match s.app.ensureEjectable machine with
  | some error => (s.withObject machine).refuse error
  | none =>
    let s := s.withObject machine
    s.withMachines (updateMachine machine.id
      (fun m => { m with bootMedia := .systemDisk, provisioningState := .ready }) s.app.machines)

def removeCustomInputProfile (s : AppProcess) (id : UUID) : AppProcess :=
  { s.withMachines (s.app.machines.map (Session.withoutProfile id)) with
    previous := s.app.machines :: s.previous }

/-- The whole list is put back if the save has failed. -/
def profileRemoved (s : AppProcess) (previous : List Machine) : Option String → AppProcess
  | none => s
  | some error => { s with app := { s.app with machines := previous }.present error }

def step (s : AppProcess) : AppEvent → Option AppProcess
  | .load =>
    -- `initialize` begins by clearing the message, then awaits the library.
    if s.initialized then none
    else some { s with
      app := { s.app with errorMessage := none }
      loaded := s.library :: s.loaded }
  | .restore index error => do
    let machines ← s.loaded[index]?
    some ({ s with loaded := s.loaded.eraseIdx index }.restore machines error)
  | .request operation machine => some (s.request operation machine)
  | .resume index reply startError => s.resume index reply startError
  | .runtime machine event => s.runtime machine event
  | .repeatTransition id => do
    let object ← s.objects id
    some { s with app := s.app.transition id object.state }
  | .runtimeState machine => some (s.withObject machine)
  | .listMachine machine =>
    -- A machine is listed stopped, under an identifier of its own.
    if s.app.isFresh machine.id ∧ machine.runtimeState = .stopped then
      some (s.withMachines (s.app.machines ++ [machine]))
    else none
  | .ejectInstaller machine => some (s.ejectInstaller machine)
  | .amend amendment => some (s.withMachines (s.app.machines.map amendment.amend))
  | .removeCustomInputProfile id => some (s.removeCustomInputProfile id)
  | .profileRemoved index error => do
    let previous ← s.previous[index]?
    some ({ s with previous := s.previous.eraseIdx index }.profileRemoved previous error)
  | .persist => if s.initialized then some { s with saves := s.app.machines :: s.saves } else none
  | .save index => do
    let machines ← s.saves[index]?
    some { s with saves := s.saves.eraseIdx index, library := machines }
  | .relaunch => some (launched s.library)

end AppProcess

end SimpleVM.App
