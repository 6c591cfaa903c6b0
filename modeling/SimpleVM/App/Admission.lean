import SimpleVM.Domain.Machine

/-!
# Admission of disk operations

The state `AppModel` consults before it lets an operation at a machine's disk, and the
operations cut at their suspension points. The two runtime dictionaries are one here,
since a machine never changes its backend.
-/
namespace SimpleVM.App

open Domain

inductive AppModelError
  | notInitialized | imageInUse | catalogEntryUnavailable | imageUnavailable
  | machineUnavailable | exportInProgress | machineStartInProgress | missingMachineName
  | machineMustBeStopped | invalidOCIReference | sharedDirectoryUnavailable
  | unsupportedWindowsImage | invalidRosettaConfiguration | windowsRequirementsNotMet
deriving DecidableEq, Repr

def AppModelError.errorDescription : AppModelError → String
  | .notInitialized => "SimpleVM is still initializing."
  | .imageInUse => "This image is used by one or more machines."
  | .catalogEntryUnavailable => "The catalog entry for this image is no longer available."
  | .imageUnavailable => "The selected image is not available."
  | .machineUnavailable => "The selected machine is unavailable."
  | .exportInProgress => "Wait for the current export to finish."
  | .machineStartInProgress => "Wait for the machine to finish starting."
  | .missingMachineName => "Enter a machine name."
  | .machineMustBeStopped => "Stop the machine before performing this action."
  | .invalidOCIReference => "Enter a valid OCI image reference."
  | .sharedDirectoryUnavailable => "The selected shared directory is unavailable."
  | .unsupportedWindowsImage => "Windows 11 currently requires an ARM64 installer ISO."
  | .invalidRosettaConfiguration =>
    "Rosetta is available only to ARM64 Linux machines using Apple Virtualization."
  | .windowsRequirementsNotMet =>
    "Windows 11 requires at least 2 CPU cores, 4 GB of memory, and a 64 GB disk."

inductive DiskOperation
  | start | createSnapshot | restoreSnapshot | cloneMachine | deleteMachine | exportMachineDisk
deriving DecidableEq, Repr

/-- A started guest writes its disk, a restore replaces it, a delete removes it. -/
def DiskOperation.writesDisk : DiskOperation → Bool
  | .start | .restoreSnapshot | .deleteMachine => true
  | .createSnapshot | .cloneMachine | .exportMachineDisk => false

/-- Only a start and an export leave a mark that later admission checks look at. -/
def DiskOperation.registers : DiskOperation → Bool
  | .start | .exportMachineDisk => true
  | .createSnapshot | .restoreSnapshot | .cloneMachine | .deleteMachine => false

/-- Where an admitted operation is suspended. A start is `up` from its return until the
runtime has stopped. -/
inductive Phase
  | awaitingStore | persisting
  | resolving | preparing | launching | up
deriving DecidableEq, Repr

/-- An admitted operation that has not completed, with the machine value it was given. -/
structure DiskTask where
  operation : DiskOperation
  machine : Machine
  phase : Phase
deriving DecidableEq, Repr

structure AppModel where
  machines : List Machine
  exportingMachineIDs : List UUID := []
  startingMachineIDs : List UUID := []
  runtimes : UUID → Option MachineRuntimeState := fun _ => none
  errorMessage : Option String := none
  tasks : List DiskTask := []

def updateMachine (id : UUID) (mutation : Machine → Machine) : List Machine → List Machine
  | [] => []
  | m :: ms => if m.id = id then mutation m :: ms else m :: updateMachine id mutation ms

/-- `machines.first(where: { $0.id == id })`. -/
def firstMachine (id : UUID) (machines : List Machine) : Option Machine :=
  machines.find? fun m => m.id = id

namespace AppModel

def present (s : AppModel) (message : String) : AppModel := { s with errorMessage := some message }

def refuse (s : AppModel) (error : AppModelError) : AppModel := s.present error.errorDescription

/-- `appleRuntime(for:)` and `qemuRuntime(for:)`: the runtime is created on first use. -/
def runtime (s : AppModel) (machine : Machine) : MachineRuntimeState :=
  (s.runtimes machine.id).getD machine.runtimeState.restored

def setRuntime (s : AppModel) (id : UUID) (state : MachineRuntimeState) : AppModel :=
  { s with runtimes := fun other => if other = id then some state else s.runtimes other }

def withRuntime (s : AppModel) (machine : Machine) : AppModel :=
  s.setRuntime machine.id (s.runtime machine)

/-- A transition of the runtime, which its state handler records on the machine. -/
def transition (s : AppModel) (id : UUID) (state : MachineRuntimeState) : AppModel :=
  { s.setRuntime id state with
    machines := updateMachine id (fun m => { m with runtimeState := state }) s.machines }

/-- `ensureMachineIdle`: the error it presents, if any. -/
def ensureMachineIdle (s : AppModel) (machine : Machine) : Option AppModelError :=
  if machine.id ∈ s.exportingMachineIDs then some .exportInProgress
  else if machine.id ∈ s.startingMachineIDs then some .machineStartInProgress
  else if s.runtime machine ≠ .stopped then some .machineMustBeStopped
  else none

/-- The checks at the head of `start`. -/
def ensureStartable (s : AppModel) (machine : Machine) : Option AppModelError :=
  if machine.id ∈ s.exportingMachineIDs then some .exportInProgress
  else if machine.id ∈ s.startingMachineIDs then some .machineStartInProgress
  else none

/-- The checks at the head of `exportMachineDisk`. -/
def ensureExportable (s : AppModel) (machine : Machine) : Option AppModelError :=
  if machine.id ∈ s.exportingMachineIDs then some .exportInProgress
  else match firstMachine machine.id s.machines with
    | none => some .machineUnavailable
    | some current =>
      if machine.id ∈ s.startingMachineIDs then some .machineStartInProgress
      else if machine.runtimeState = .stopped ∧ current.runtimeState = .stopped then none
      else some .machineMustBeStopped

/-- The admission check of each operation. -/
def admission (s : AppModel) (operation : DiskOperation) (machine : Machine) :
    Option AppModelError :=
  match operation with
  | .start => s.ensureStartable machine
  | .exportMachineDisk => s.ensureExportable machine
  | .createSnapshot | .restoreSnapshot | .cloneMachine | .deleteMachine =>
    s.ensureMachineIdle machine

/-- The call of an operation up to its first suspension. -/
def request (s : AppModel) (operation : DiskOperation) (machine : Machine) : AppModel :=
  match operation, s.admission operation machine with
  | .start, none => { s with
      startingMachineIDs := machine.id :: s.startingMachineIDs
      tasks := ⟨.start, machine, .resolving⟩ :: s.tasks }
  | .exportMachineDisk, none => { s with
      exportingMachineIDs := machine.id :: s.exportingMachineIDs
      tasks := ⟨.exportMachineDisk, machine, .awaitingStore⟩ :: s.tasks }
  | operation, none =>
    { s.withRuntime machine with tasks := ⟨operation, machine, .awaitingStore⟩ :: s.tasks }
  | .start, some error => s.refuse error
  | .exportMachineDisk, some error => s.refuse error
  | _, some error => (s.withRuntime machine).refuse error

end AppModel

/-- What a suspended operation is resumed with. -/
inductive Reply
  | fails (message : String)
  | returns
  | cloned (id hardwareUUID : UUID) (disk : MachineDisk) (backendState : BackendStateReference)
      (now : Rat)
deriving DecidableEq, Repr

inductive DiskEvent
  | request (operation : DiskOperation) (machine : Machine)
  | resume (index : Nat) (reply : Reply)
  | runtimeChanges (id : UUID) (state : MachineRuntimeState)
deriving DecidableEq, Repr

namespace AppModel

/-- A new identifier is known to nobody yet. -/
def isFresh (s : AppModel) (id : UUID) : Bool :=
  s.machines.all (fun m => decide (m.id ≠ id)) && (s.runtimes id).isNone &&
    s.tasks.all (fun t => decide (t.machine.id ≠ id))

/-- `startingMachineIDs.remove`. -/
def endStart (s : AppModel) (id : UUID) : AppModel :=
  { s with startingMachineIDs := s.startingMachineIDs.filter fun other => other ≠ id }

/-- `start` from one suspension to the next. The runtime refuses a second start itself. -/
def resumeStart (s : AppModel) (machine : Machine) : Phase → Reply → Option AppModel
  | .resolving, .fails message => some ((s.endStart machine.id).present message)
  | .resolving, .returns =>
    some { s with
      machines := if machine.provisioningState = .readyToInstall
        then updateMachine machine.id (fun m => { m with provisioningState := .installing })
          s.machines
        else s.machines
      tasks := ⟨.start, machine, .preparing⟩ :: s.tasks }
  | .preparing, .fails message => some ((s.endStart machine.id).present message)
  | .preparing, .returns =>
    let s := s.withRuntime machine
    if (s.runtime machine).canStart then
      let s := s.transition machine.id .starting
      some { s with tasks := ⟨.start, machine, .launching⟩ :: s.tasks }
    else some (s.endStart machine.id)
  | .launching, .returns =>
    let s := s.endStart machine.id
    if (s.runtime machine).canStart then some s
    else some { s with tasks := ⟨.start, machine, .up⟩ :: s.tasks }
  | _, _ => none

/-- `deleteMachine` and `cloneMachine` once the store has answered. -/
def resumeStore (s : AppModel) (task : DiskTask) : Reply → Option AppModel
  | .fails message => some (s.present message)
  | .returns =>
    match task.operation with
    | .cloneMachine => none
    | .deleteMachine => some { s with
        machines := s.machines.filter fun m => m.id ≠ task.machine.id
        runtimes := fun other => if other = task.machine.id then none else s.runtimes other
        tasks := { task with phase := .persisting } :: s.tasks }
    | _ => some s
  | .cloned id hardwareUUID disk backendState now =>
    if task.operation = .cloneMachine ∧ s.isFresh id then
      some { s with
        machines := s.machines ++
          [task.machine.cloned id hardwareUUID disk backendState now]
        tasks := { task with phase := .persisting } :: s.tasks }
    else none

/-- A task taken out of `tasks` runs to its next suspension, where it goes back in. -/
def resume (s : AppModel) (task : DiskTask) (reply : Reply) : Option AppModel :=
  match task.operation, task.phase, reply with
  | .start, phase, reply => s.resumeStart task.machine phase reply
  | .exportMachineDisk, _, .cloned .. => none
  | .exportMachineDisk, _, _ =>
    some { s with exportingMachineIDs :=
      s.exportingMachineIDs.filter fun other => other ≠ task.machine.id }
  | _, .persisting, .fails message => some (s.present message)
  | _, .persisting, .returns => some s
  | _, .awaitingStore, reply => s.resumeStore task reply
  | _, _, _ => none

/-- A start that has returned is over once its runtime has stopped. -/
def endRuns (s : AppModel) (id : UUID) : AppModel :=
  { s with tasks := s.tasks.filter fun t =>
      ¬ (t.operation = .start ∧ t.phase = .up ∧ t.machine.id = id) }

/-- Any transition of an existing runtime. -/
def runtimeChanges (s : AppModel) (id : UUID) (state : MachineRuntimeState) : Option AppModel :=
  match s.runtimes id with
  | none => none
  | some _ =>
    let s := s.transition id state
    some (if state.canStart then s.endRuns id else s)

def step (s : AppModel) : DiskEvent → Option AppModel
  | .request operation machine => some (s.request operation machine)
  | .resume index reply =>
    match s.tasks[index]? with
    | none => none
    | some task => { s with tasks := s.tasks.eraseIdx index }.resume task reply
  | .runtimeChanges id state => s.runtimeChanges id state

end AppModel

end SimpleVM.App
