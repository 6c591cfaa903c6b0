import SimpleVM.App.AppProcess

/-!
# Stranded machines

A machine is stranded if nothing of it runs, nothing is in flight on it, and neither the idle
check nor a force stop gets it anywhere. A failed start or run does that: the check asks for
`.stopped`, and `forceStop` leaves `.failed` alone. Besides failures it takes a virtual machine
that is lost while its start or stop is awaited, or a rolled back list of machines that is out
of date.
-/
namespace SimpleVM.App

open Domain Transition

/-- No machine is recorded as failed. -/
def NoneFailed (machines : List Machine) : Prop :=
  ∀ m ∈ machines, m.runtimeState.hasFailed = false

theorem id_of_firstMachine {id : UUID} {machines : List Machine} {machine : Machine}
    (found : firstMachine id machines = some machine) : machine.id = id := by
  simpa using List.find?_some found

theorem mem_of_firstMachine {id : UUID} {machines : List Machine} {machine : Machine}
    (found : firstMachine id machines = some machine) : machine ∈ machines :=
  List.mem_of_find?_eq_some found

theorem firstMachine_map (id : UUID) (f : Machine → Machine) (keeps : ∀ m, (f m).id = m.id)
    (machines : List Machine) :
    firstMachine id (machines.map f) = (firstMachine id machines).map f := by
  induction machines with
  | nil => rfl
  | cons m ms ih =>
    simp only [firstMachine] at ih
    simp only [firstMachine, List.map_cons, List.find?_cons, keeps]
    split
    · rfl
    · exact ih

namespace NoneFailed

theorem map {machines : List Machine} (f : Machine → Machine)
    (keeps : ∀ m ∈ machines, (f m).runtimeState.hasFailed = false) :
    NoneFailed (machines.map f) := by
  intro m listed
  obtain ⟨before, member, rfl⟩ := List.mem_map.mp listed
  exact keeps before member

theorem restored {machines : List Machine} (unfailed : NoneFailed machines) :
    NoneFailed (machines.map fun m => { m with runtimeState := m.runtimeState.restored }) := by
  apply NoneFailed.map
  intro m member
  rw [m.runtimeState.restored_of_unfailed (unfailed m member)]
  rfl

theorem append {machines : List Machine} (unfailed : NoneFailed machines) {machine : Machine}
    (sound : machine.runtimeState.hasFailed = false) : NoneFailed (machines ++ [machine]) := by
  intro m listed
  rcases List.mem_append.mp listed with before | new
  · exact unfailed m before
  · rw [List.mem_singleton.mp new]
    exact sound

theorem update {machines : List Machine} (unfailed : NoneFailed machines) (id : UUID)
    (mutation : Machine → Machine)
    (keeps : ∀ m, m.runtimeState.hasFailed = false → (mutation m).runtimeState.hasFailed = false) :
    NoneFailed (updateMachine id mutation machines) := by
  induction machines with
  | nil => exact unfailed
  | cons m ms ih =>
    have first : m.runtimeState.hasFailed = false := unfailed m List.mem_cons_self
    have rest : NoneFailed ms := fun other member => unfailed other (List.mem_cons_of_mem _ member)
    simp only [updateMachine]
    split
    · intro other listed
      rcases List.mem_cons.mp listed with rfl | member
      · exact keeps m first
      · exact rest other member
    · intro other listed
      rcases List.mem_cons.mp listed with rfl | member
      · exact first
      · exact ih rest other member

end NoneFailed

namespace AppModel

/-- The machine as it is listed passes the checks of `deleteMachine`, of the snapshot
operations, of `cloneMachine` and `setDisplayMode`, of `ejectInstaller` and of
`exportMachineDisk`. -/
def Admits (s : AppModel) (id : UUID) : Prop :=
  ∃ machine, firstMachine id s.machines = some machine ∧ s.ensureMachineIdle machine = none ∧
    s.ensureEjectable machine = none ∧ s.ensureExportable machine = none

/-- No operation on the machine is in flight; a start that has returned is none. -/
def IsIdle (s : AppModel) (id : UUID) : Prop := ∀ t ∈ s.tasks, t.machine.id = id → t.Up

/-- The state of the machine's runtime, which is made stopped unless the machine failed. -/
def stateOf (s : AppModel) (id : UUID) : MachineRuntimeState := (s.runtimes id).getD .stopped

/-- What the checks rely on: a mark belongs to a task, a machine whose runtime is stopped is
listed as stopped, and none is listed or handed in as failed. -/
structure Accounted (s : AppModel) : Prop where
  unfailed : NoneFailed s.machines
  requested : ∀ t ∈ s.tasks, t.machine.runtimeState.hasFailed = false
  recorded : ∀ id m, firstMachine id s.machines = some m → s.stateOf id = .stopped →
    m.runtimeState = .stopped
  starting : ∀ id ∈ s.startingMachineIDs, ∃ t ∈ s.tasks, t.machine.id = id ∧ t.Starting
  exporting : ∀ id ∈ s.exportingMachineIDs, ∃ t ∈ s.tasks, t.machine.id = id ∧ t.Exporting

namespace Accounted

variable {s : AppModel} {task next : DiskTask} {id : UUID}

/-- The same tasks in another order. -/
theorem ofTasks (accounted : Accounted s) {tasks : List DiskTask}
    (same : ∀ t, t ∈ tasks ↔ t ∈ s.tasks) : Accounted { s with tasks := tasks } where
  unfailed := accounted.unfailed
  requested t member := accounted.requested t ((same t).mp member)
  recorded := accounted.recorded
  starting id mark := by
    obtain ⟨t, member, owner⟩ := accounted.starting id mark
    exact ⟨t, (same t).mpr member, owner⟩
  exporting id mark := by
    obtain ⟨t, member, owner⟩ := accounted.exporting id mark
    exact ⟨t, (same t).mpr member, owner⟩

/-- The task to be resumed is moved to the front. -/
theorem takeOut (accounted : Accounted s) {index : Nat} (found : s.tasks[index]? = some task) :
    Accounted { s with tasks := task :: s.tasks.eraseIdx index } := by
  exact accounted.ofTasks (mem_takeOut found)

/-- A task ends whose mark has been removed. -/
theorem retire (accounted : Accounted { s with tasks := task :: s.tasks })
    (started : task.Starting → task.machine.id ∉ s.startingMachineIDs)
    (exported : task.Exporting → task.machine.id ∉ s.exportingMachineIDs) : Accounted s where
  unfailed := accounted.unfailed
  requested t member := accounted.requested t (List.mem_cons_of_mem _ member)
  recorded := accounted.recorded
  starting id mark := by
    obtain ⟨t, member, rfl, owner⟩ := accounted.starting id mark
    rcases List.mem_cons.mp member with rfl | member
    · exact absurd mark (started owner)
    · exact ⟨t, member, rfl, owner⟩
  exporting id mark := by
    obtain ⟨t, member, rfl, owner⟩ := accounted.exporting id mark
    rcases List.mem_cons.mp member with rfl | member
    · exact absurd mark (exported owner)
    · exact ⟨t, member, rfl, owner⟩

theorem add (accounted : Accounted s) (next : DiskTask)
    (sound : next.machine.runtimeState.hasFailed = false) :
    Accounted { s with tasks := next :: s.tasks } where
  unfailed := accounted.unfailed
  requested t member := by
    rcases List.mem_cons.mp member with rfl | member
    · exact sound
    · exact accounted.requested t member
  recorded := accounted.recorded
  starting id mark := by
    obtain ⟨t, member, owner⟩ := accounted.starting id mark
    exact ⟨t, List.mem_cons_of_mem _ member, owner⟩
  exporting id mark := by
    obtain ⟨t, member, owner⟩ := accounted.exporting id mark
    exact ⟨t, List.mem_cons_of_mem _ member, owner⟩

/-- A start goes on and keeps its mark. -/
theorem restage {machine : Machine} {phase later : Phase} {tasks : List DiskTask}
    (accounted : Accounted s) (front : s.tasks = ⟨.start, machine, phase⟩ :: tasks)
    (still : later ≠ .up) : Accounted { s with tasks := ⟨.start, machine, later⟩ :: tasks } where
  unfailed := accounted.unfailed
  requested t member := by
    rcases List.mem_cons.mp member with rfl | member
    · exact accounted.requested ⟨.start, machine, phase⟩ (by simp [front])
    · exact accounted.requested t (by simp [front, member])
  recorded := accounted.recorded
  starting id mark := by
    obtain ⟨t, member, rfl, owner⟩ := accounted.starting id mark
    rw [front] at member
    rcases List.mem_cons.mp member with rfl | member
    · exact ⟨⟨.start, machine, later⟩, List.mem_cons_self, rfl, rfl, still⟩
    · exact ⟨t, List.mem_cons_of_mem _ member, rfl, owner⟩
  exporting id mark := by
    obtain ⟨t, member, rfl, owner⟩ := accounted.exporting id mark
    rw [front] at member
    rcases List.mem_cons.mp member with rfl | member
    · cases owner
    · exact ⟨t, List.mem_cons_of_mem _ member, rfl, owner⟩

theorem present (accounted : Accounted s) (message : String) : Accounted (s.present message) :=
  ⟨accounted.unfailed, accounted.requested, accounted.recorded, accounted.starting,
    accounted.exporting⟩

theorem endStart (accounted : Accounted s) (id : UUID) : Accounted (s.endStart id) where
  unfailed := accounted.unfailed
  requested := accounted.requested
  recorded := accounted.recorded
  starting other mark := accounted.starting other (List.mem_filter.mp mark).1
  exporting := accounted.exporting

/-- A start ends. -/
theorem endTask {machine : Machine} {phase : Phase}
    (accounted : Accounted { s with tasks := ⟨.start, machine, phase⟩ :: s.tasks }) :
    Accounted (s.endStart machine.id) := by
  have marked : Accounted { s.endStart machine.id with
      tasks := ⟨.start, machine, phase⟩ :: s.tasks } := accounted.endStart machine.id
  apply marked.retire
  · simp [AppModel.endStart]
  · rintro exporting
    cases exporting

theorem withMachines (accounted : Accounted s) {machines : List Machine}
    (unfailed : NoneFailed machines)
    (recorded : ∀ id m, firstMachine id machines = some m → s.stateOf id = .stopped →
      m.runtimeState = .stopped) : Accounted { s with machines := machines } :=
  ⟨unfailed, accounted.requested, recorded, accounted.starting, accounted.exporting⟩

/-- An update that is not about the runtime state. -/
theorem update (accounted : Accounted s) (id : UUID) (mutation : Machine → Machine)
    (sameID : ∀ m, (mutation m).id = m.id)
    (sameState : ∀ m, (mutation m).runtimeState = m.runtimeState) :
    Accounted { s with machines := updateMachine id mutation s.machines } := by
  apply accounted.withMachines
  · exact accounted.unfailed.update id mutation fun m sound => by rw [sameState]; exact sound
  · intro other m found
    rw [firstMachine_updateMachine id other mutation sameID] at found
    split at found
    next same =>
      obtain ⟨before, first, rfl⟩ := Option.map_eq_some_iff.mp found
      rw [sameState, same]
      exact accounted.recorded id before first
    next => exact accounted.recorded other m found

/-- A runtime that is made now is stopped, as its machine is listed. -/
theorem withRuntime (accounted : Accounted s) {machine : Machine}
    (sound : machine.runtimeState.hasFailed = false) : Accounted (s.withRuntime machine) where
  unfailed := accounted.unfailed
  requested := accounted.requested
  recorded id m found stopped := by
    apply accounted.recorded id m found
    simp only [stateOf, AppModel.withRuntime, AppModel.setRuntime, AppModel.runtime,
      machine.runtimeState.restored_of_unfailed sound] at stopped
    split at stopped
    next same =>
      rw [same]
      exact stopped
    next => exact stopped
  starting := accounted.starting
  exporting := accounted.exporting

theorem transition (accounted : Accounted s) (id : UUID) (state : MachineRuntimeState)
    (sound : state.hasFailed = false) : Accounted (s.transition id state) where
  unfailed := accounted.unfailed.update id _ fun _ _ => sound
  requested := accounted.requested
  recorded other m found stopped := by
    simp only [stateOf, AppModel.transition, AppModel.setRuntime] at found stopped
    rw [firstMachine_updateMachine id other (fun m => { m with runtimeState := state })
      (fun _ => rfl)] at found
    split at stopped
    next same =>
      rw [if_pos same] at found
      obtain ⟨before, _, rfl⟩ := Option.map_eq_some_iff.mp found
      exact stopped
    next differs =>
      rw [if_neg differs] at found
      exact accounted.recorded other m found stopped
  starting := accounted.starting
  exporting := accounted.exporting

/-- Starts that are up have no mark. -/
theorem endRuns (accounted : Accounted s) (id : UUID) : Accounted (s.endRuns id) where
  unfailed := accounted.unfailed
  requested t member := accounted.requested t (List.mem_filter.mp member).1
  recorded := accounted.recorded
  starting other mark := by
    obtain ⟨t, member, same, owner⟩ := accounted.starting other mark
    refine ⟨t, List.mem_filter.mpr ⟨member, ?_⟩, same, owner⟩
    simp [owner.2]
  exporting other mark := by
    obtain ⟨t, member, same, owner⟩ := accounted.exporting other mark
    refine ⟨t, List.mem_filter.mpr ⟨member, ?_⟩, same, owner⟩
    have kind : t.operation = .exportMachineDisk := owner
    simp [kind]

theorem runtimeChanges (accounted : Accounted s) {state : MachineRuntimeState}
    (sound : state.hasFailed = false) {t : AppModel}
    (taken : s.runtimeChanges id state = some t) : Accounted t := by
  unfold AppModel.runtimeChanges at taken
  split at taken
  · cases taken
  · cases taken
    split
    · exact (accounted.transition id _ sound).endRuns id
    · exact accounted.transition id _ sound

/-- A call leaves a mark only with its task. -/
theorem request (accounted : Accounted s) (operation : DiskOperation) {machine : Machine}
    (sound : machine.runtimeState.hasFailed = false) :
    Accounted (s.request operation machine) := by
  unfold AppModel.request
  cases s.admission operation machine with
  | some error =>
    cases operation with
    | start | exportMachineDisk => exact accounted.present _
    | createSnapshot | restoreSnapshot | cloneMachine | deleteMachine =>
      exact (accounted.withRuntime sound).present _
  | none =>
    cases operation with
    | start =>
      have added := accounted.add ⟨.start, machine, .resolving⟩ sound
      refine ⟨added.unfailed, added.requested, added.recorded, fun id mark => ?_, added.exporting⟩
      rcases List.mem_cons.mp mark with rfl | mark
      · exact ⟨_, List.mem_cons_self, rfl, rfl, by simp⟩
      · exact added.starting id mark
    | exportMachineDisk =>
      have added := accounted.add ⟨.exportMachineDisk, machine, .awaitingStore⟩ sound
      refine ⟨added.unfailed, added.requested, added.recorded, added.starting, fun id mark => ?_⟩
      rcases List.mem_cons.mp mark with rfl | mark
      · exact ⟨_, List.mem_cons_self, rfl, rfl⟩
      · exact added.exporting id mark
    | createSnapshot | restoreSnapshot | cloneMachine | deleteMachine =>
      exact (accounted.withRuntime sound).add _ sound

theorem resumeStart {machine : Machine} {phase : Phase}
    (accounted : Accounted { s with tasks := ⟨.start, machine, phase⟩ :: s.tasks })
    (reply : Reply) {t : AppModel} (taken : s.resumeStart machine phase reply = some t) :
    Accounted t := by
  have sound : machine.runtimeState.hasFailed = false :=
    accounted.requested ⟨.start, machine, phase⟩ List.mem_cons_self
  -- A start keeps its mark from phase to phase; a failure ends it with a message.
  unfold AppModel.resumeStart at taken
  split at taken
  · cases taken
    exact accounted.endTask.present _
  · cases taken
    split
    · have installing := accounted.update machine.id
        (fun m => { m with provisioningState := .installing }) (fun _ => rfl) fun _ => rfl
      exact installing.restage rfl (by simp)
    · exact accounted.restage rfl (by simp)
  · cases taken
    exact accounted.endTask.present _
  · simp only at taken
    split at taken
    · cases taken
      have begun := (accounted.withRuntime sound).transition machine.id .starting rfl
      exact begun.restage rfl (by simp)
    · cases taken
      exact Accounted.endTask (accounted.withRuntime sound)
  · simp only at taken
    split at taken
    · cases taken
      exact accounted.endTask
    · cases taken
      exact accounted.endTask.add _ sound
  · cases taken

/-- What is no start and no export has no mark to lose. -/
theorem unmarked (accounted : Accounted { s with tasks := task :: s.tasks })
    (other : task.operation.registers = false) : Accounted s := by
  apply accounted.retire
  · rintro ⟨kind, _⟩
    rw [kind] at other
    cases other
  · intro exporting
    have kind : task.operation = .exportMachineDisk := exporting
    rw [kind] at other
    cases other

theorem remove (accounted : Accounted s) (id : UUID) : Accounted { s with
    machines := s.machines.filter fun m => m.id ≠ id
    runtimes := fun other => if other = id then none else s.runtimes other } where
  unfailed m listed := accounted.unfailed m (List.mem_filter.mp listed).1
  requested := accounted.requested
  recorded other m found stopped := by
    have here : m.id = other := id_of_firstMachine found
    have kept := (List.mem_filter.mp (mem_of_firstMachine found)).2
    have differs : other ≠ id := by
      rw [here] at kept
      exact of_decide_eq_true kept
    simp only [stateOf, if_neg differs] at stopped
    rw [firstMachine_filter id other differs] at found
    exact accounted.recorded other m found stopped
  starting := accounted.starting
  exporting := accounted.exporting

theorem list (accounted : Accounted s) {machine : Machine}
    (stopped : machine.runtimeState = .stopped) :
    Accounted { s with machines := s.machines ++ [machine] } := by
  apply accounted.withMachines
  · apply accounted.unfailed.append
    rw [stopped]
    rfl
  · intro id m found
    simp only [firstMachine, List.find?_append, Option.or_eq_some_iff] at found
    rcases found with first | ⟨_, last⟩
    · exact accounted.recorded id m first
    · rw [List.mem_singleton.mp (List.mem_of_find?_eq_some last)]
      exact fun _ => stopped

theorem resumeStore (accounted : Accounted { s with tasks := task :: s.tasks })
    (other : task.operation.registers = false) (reply : Reply) {t : AppModel}
    (taken : s.resumeStore task reply = some t) : Accounted t := by
  have sound : task.machine.runtimeState.hasFailed = false :=
    accounted.requested task List.mem_cons_self
  have rest := accounted.unmarked other
  unfold AppModel.resumeStore at taken
  split at taken
  · cases taken
    exact rest.present _
  · split at taken
    · cases taken
    · cases taken
      exact (rest.remove task.machine.id).add { task with phase := .persisting } sound
    · cases taken
      exact rest
  · split at taken
    · cases taken
      exact (rest.list rfl).add { task with phase := .persisting } sound
    · cases taken

theorem resume (accounted : Accounted { s with tasks := task :: s.tasks }) (reply : Reply)
    {t : AppModel} (taken : s.resume task reply = some t) : Accounted t := by
  obtain ⟨operation, machine, phase⟩ := task
  -- An export only clears its mark; the others run through the store and the library.
  cases operation with
  | start => exact accounted.resumeStart reply taken
  | exportMachineDisk =>
    have ended : Accounted { s with
        exportingMachineIDs := s.exportingMachineIDs.filter fun other => other ≠ machine.id } := by
      have fewer : Accounted { s with
          exportingMachineIDs := s.exportingMachineIDs.filter fun other => other ≠ machine.id
          tasks := ⟨.exportMachineDisk, machine, phase⟩ :: s.tasks } :=
        ⟨accounted.unfailed, accounted.requested, accounted.recorded, accounted.starting,
          fun id mark => accounted.exporting id (List.mem_filter.mp mark).1⟩
      apply fewer.retire
      · rintro ⟨kind, _⟩
        cases kind
      · simp
    cases reply with
    | fails message | returns =>
      cases taken
      exact ended
    | cloned => cases taken
  | createSnapshot | restoreSnapshot | cloneMachine | deleteMachine =>
    have rest := accounted.unmarked rfl
    cases phase with
    | awaitingStore => exact accounted.resumeStore rfl reply taken
    | persisting =>
      cases reply with
      | fails message =>
        cases taken
        exact rest.present _
      | returns =>
        cases taken
        exact rest
      | cloned => cases taken
    | resolving | preparing | launching | up => cases taken

/-- **Step lemma** for the operations. -/
theorem resumeIndex (accounted : Accounted s) {index : Nat} {reply : Reply} {t : AppModel}
    (taken : s.step (.resume index reply) = some t) : Accounted t := by
  simp only [AppModel.step] at taken
  split at taken
  · cases taken
  next task found => exact (accounted.takeOut found).resume reply taken

/-- A listed machine whose runtime is stopped is admitted once nothing is in flight. -/
theorem admits (accounted : Accounted s) {machine : Machine}
    (listed : firstMachine id s.machines = some machine) (idle : s.IsIdle id)
    (stopped : s.stateOf id = .stopped) : s.Admits id := by
  have same : machine.id = id := id_of_firstMachine listed
  have recorded := accounted.recorded id machine listed stopped
  have noStart : machine.id ∉ s.startingMachineIDs := by
    intro mark
    obtain ⟨t, member, own, starting⟩ := accounted.starting _ mark
    exact starting.2 (idle t member (own.trans same)).2
  have noExport : machine.id ∉ s.exportingMachineIDs := by
    intro mark
    obtain ⟨t, member, own, exporting⟩ := accounted.exporting _ mark
    have kind : t.operation = .start := (idle t member (own.trans same)).1
    rw [show t.operation = .exportMachineDisk from exporting] at kind
    cases kind
  have runtime : s.runtime machine = .stopped := by
    rw [AppModel.runtime, recorded, same]
    exact stopped
  refine ⟨machine, listed, ?_, ?_, ?_⟩
  · simp [ensureMachineIdle, noStart, noExport, runtime]
  · simp [ensureEjectable, noStart, runtime]
  · rw [same] at noStart noExport
    simp [ensureExportable, noStart, noExport, same, listed, recorded]

end Accounted

end AppModel

namespace RuntimeObject

/-- Nothing fails, and no virtual machine is lost while its start or stop is awaited. -/
def Sound : RuntimeObject → RuntimeEvent → Prop
  | .apple runtime, .apple event => runtime.Sound event
  | .qemu runtime, .qemu event => runtime.Sound event
  | _, _ => True

def Recoverable : RuntimeObject → Prop
  | .apple runtime => runtime.Recoverable
  | .qemu runtime => runtime.Recoverable

variable {object object' : RuntimeObject}

theorem Recoverable.unfailed (recoverable : object.Recoverable) :
    object.state.hasFailed = false := by
  cases object with
  | apple runtime => exact Apple.MachineRuntime.Recoverable.unfailed recoverable
  | qemu runtime => exact QEMU.Runtime.Recoverable.unfailed recoverable

theorem state_create (machine : Machine) :
    (create machine).state = machine.runtimeState.restored := by
  unfold create
  split <;> rfl

theorem recoverable_create {machine : Machine} (sound : machine.runtimeState.hasFailed = false) :
    (create machine).Recoverable := by
  unfold create
  split
  · exact Apple.MachineRuntime.recoverable_create sound
  · exact QEMU.Runtime.recoverable_create sound

theorem Recoverable.start (recoverable : object.Recoverable) :
    (object.start none).Recoverable := by
  cases object with
  | apple runtime =>
    have taken : runtime.step .start = some runtime.start := rfl
    have sound : runtime.Sound .start := trivial
    exact Apple.MachineRuntime.Recoverable.step recoverable sound taken
  | qemu runtime => exact QEMU.Runtime.Recoverable.start recoverable

theorem Recoverable.step {event : RuntimeEvent} (recoverable : object.Recoverable)
    (sound : object.Sound event) (taken : object.step event = some object') :
    object'.Recoverable := by
  cases object with
  | apple runtime =>
    cases event with
    | apple event =>
      obtain ⟨after, moved, rfl⟩ := Option.map_eq_some_iff.mp taken
      exact Apple.MachineRuntime.Recoverable.step recoverable sound moved
    | qemu event => cases taken
  | qemu runtime =>
    cases event with
    | apple event => cases taken
    | qemu event =>
      obtain ⟨after, moved, rfl⟩ := Option.map_eq_some_iff.mp taken
      exact QEMU.Runtime.Recoverable.step recoverable sound moved

theorem run_apple {s t : Apple.MachineRuntime} {events : List Apple.Event}
    (run : Run Apple.MachineRuntime.step s events t)
    (meets : Meets Apple.MachineRuntime.step Apple.MachineRuntime.Sound s events) :
    Run step (.apple s) (events.map .apple) (.apple t) ∧
      Meets step Sound (.apple s) (events.map .apple) := by
  induction run with
  | done => exact ⟨.done _, trivial⟩
  | next taken _ ih =>
    obtain ⟨here, rest⟩ := meets _ taken
    obtain ⟨run, later⟩ := ih rest
    have moved := congrArg (Option.map RuntimeObject.apple) taken
    exact ⟨.next moved run, .next moved here later⟩

theorem run_qemu {s t : QEMU.Runtime} {events : List QEMU.Event}
    (run : Run QEMU.Runtime.step s events t)
    (meets : Meets QEMU.Runtime.step QEMU.Runtime.Sound s events) :
    Run step (.qemu s) (events.map .qemu) (.qemu t) ∧
      Meets step Sound (.qemu s) (events.map .qemu) := by
  induction run with
  | done => exact ⟨.done _, trivial⟩
  | next taken _ ih =>
    obtain ⟨here, rest⟩ := meets _ taken
    obtain ⟨run, later⟩ := ih rest
    have moved := congrArg (Option.map RuntimeObject.qemu) taken
    exact ⟨.next moved run, .next moved here later⟩

/-- A force stop and its completions. -/
def IsForcedStop (object : RuntimeObject) (events : List RuntimeEvent) : Prop :=
  ∃ completions, (∀ e ∈ completions, RuntimeEvent.continues e = true) ∧
    events = object.forceStop :: completions

/-- A runtime of either kind, at rest, is stopped or can be force stopped. -/
theorem Recoverable.stops (recoverable : object.Recoverable) (rest : object.AtRest) :
    object.state = .stopped ∨ ∃ events last, object.IsForcedStop events ∧
      Run RuntimeObject.step object events last ∧ Meets RuntimeObject.step Sound object events ∧
        last.state = .stopped := by
  cases object with
  | apple runtime =>
    rcases Apple.MachineRuntime.Recoverable.stops recoverable rest.1 with
      stopped | ⟨last, run, meets, stopped⟩
    · exact .inl stopped
    · obtain ⟨run, meets⟩ := run_apple run meets
      refine .inr ⟨_, .apple last, ⟨[.apple (.complete 0 none none)], ?_, rfl⟩, run, meets, stopped⟩
      intro e member
      rw [List.mem_singleton.mp member]
      rfl
  | qemu runtime =>
    obtain ⟨idle, _, dead⟩ := rest
    rcases QEMU.Runtime.Recoverable.stops recoverable idle dead with
      stopped | ⟨events, last, completions, run, meets, stopped⟩
    · exact .inl stopped
    · have taken : runtime.step .forceStop = some runtime.forceStop := rfl
      obtain ⟨run, meets⟩ := run_qemu (.next taken run) (.next taken trivial meets)
      refine .inr ⟨_, .qemu last, ⟨events.map .qemu, ?_, rfl⟩, run, meets, stopped⟩
      intro e member
      obtain ⟨event, listed, rfl⟩ := List.mem_map.mp member
      have completes := completions event listed
      cases event <;> first | rfl | cases completes

end RuntimeObject

namespace AppProcess

/-- The machine is admitted, or it is after a call of `forceStop` on it. -/
def Escapes (s : AppProcess) (id : UUID) : Prop :=
  s.app.Admits id ∨ ∃ machine object events t,
    firstMachine id s.app.machines = some machine ∧ s.objects id = some object ∧
      object.IsForcedStop events ∧ Run step s (events.map (AppEvent.runtime machine)) t ∧
      t.app.Admits id

/-- No machine is stranded. -/
def NotStranded (s : AppProcess) : Prop :=
  ∀ machine, firstMachine machine.id s.app.machines = some machine →
    s.app.IsIdle machine.id →
      (∀ object, s.objects machine.id = some object → object.AtRest) → s.Escapes machine.id

/-- No start and no run fails, no virtual machine is lost while its start or stop is awaited,
and a list of machines that is put back has every machine stopped that is. -/
def Sound (s : AppProcess) : AppEvent → Prop
  | .request _ machine | .runtimeState machine | .ejectInstaller machine =>
    machine.runtimeState.hasFailed = false
  | .resume _ _ startError => startError = none
  | .runtime machine event =>
    machine.runtimeState.hasFailed = false ∧ (s.object machine).Sound event
  | .profileRemoved index error => error ≠ none → ∀ previous, s.previous[index]? = some previous →
    ∀ id m, firstMachine id previous = some m → s.app.stateOf id = .stopped →
      m.runtimeState = .stopped
  | _ => True

/-- No list of machines, in memory or on disk, has one that failed. -/
structure Unspoiled (s : AppProcess) : Prop where
  library : NoneFailed s.library
  loaded : ∀ machines ∈ s.loaded, NoneFailed machines
  previous : ∀ machines ∈ s.previous, NoneFailed machines
  saves : ∀ machines ∈ s.saves, NoneFailed machines

/-- The invariant: `AppModel` mirrors runtimes that can be force stopped. -/
structure Sane (s : AppProcess) : Prop where
  accounted : s.app.Accounted
  recoverable : ∀ id object, s.objects id = some object → object.Recoverable
  mirrored : ∀ id, s.app.runtimes id = (s.objects id).map RuntimeObject.state
  unspoiled : s.Unspoiled

section Steps

variable {s t : AppProcess} {id : UUID} {machine : Machine} {entry : RuntimeObject}

theorem sane_launched {library : List Machine} (unfailed : NoneFailed library) :
    (launched library).Sane where
  accounted := by
    refine ⟨fun m listed => ?_, ?_, ?_, ?_, ?_⟩
    · cases listed
    all_goals
      intros
      contradiction
  recoverable _ _ held := by cases held
  mirrored _ := rfl
  unspoiled := by
    refine ⟨unfailed, ?_, ?_, ?_⟩ <;> intros <;> contradiction

/-- A change of `AppModel` that leaves the runtimes alone. -/
theorem Sane.withApp (sane : s.Sane) {app : AppModel} (accounted : app.Accounted)
    (same : app.runtimes = s.app.runtimes) : ({ s with app := app } : AppProcess).Sane where
  accounted := accounted
  recoverable := sane.recoverable
  mirrored id := by
    rw [same]
    exact sane.mirrored id
  unspoiled := ⟨sane.unspoiled.library, sane.unspoiled.loaded, sane.unspoiled.previous,
    sane.unspoiled.saves⟩

theorem Sane.recoverable_object (sane : s.Sane) (sound : machine.runtimeState.hasFailed = false) :
    (s.object machine).Recoverable := by
  unfold AppProcess.object
  cases held : s.objects machine.id with
  | none => exact RuntimeObject.recoverable_create sound
  | some object => exact sane.recoverable _ _ held

/-- The state the checks see is the one of the object. -/
theorem Sane.runtime_eq (sane : s.Sane) (machine : Machine) :
    s.app.runtime machine = (s.object machine).state := by
  unfold AppModel.runtime AppProcess.object
  rw [sane.mirrored]
  cases s.objects machine.id with
  | none => exact (RuntimeObject.state_create machine).symm
  | some object => rfl

theorem Sane.withObject (sane : s.Sane) (sound : machine.runtimeState.hasFailed = false) :
    (s.withObject machine).Sane where
  accounted := sane.accounted.withRuntime sound
  recoverable id object held := by
    simp only [AppProcess.withObject, setObject] at held
    split at held
    · cases held
      exact sane.recoverable_object sound
    · exact sane.recoverable id object held
  mirrored id := by
    simp only [AppProcess.withObject, setObject, AppModel.withRuntime, AppModel.setRuntime]
    split
    · rw [sane.runtime_eq]
      rfl
    · exact sane.mirrored id
  unspoiled := ⟨sane.unspoiled.library, sane.unspoiled.loaded, sane.unspoiled.previous,
    sane.unspoiled.saves⟩

theorem runtimes_runtimeChanges {app after : AppModel} {state : MachineRuntimeState}
    (taken : app.runtimeChanges id state = some after) (other : UUID) :
    after.runtimes other = if other = id then some state else app.runtimes other := by
  unfold AppModel.runtimeChanges at taken
  split at taken
  · cases taken
  · cases taken
    split <;> rfl

/-- A runtime moves, of which `AppModel` may have heard something else. -/
theorem sane_move (accounted : s.app.Accounted) (unspoiled : s.Unspoiled)
    (recoverable : ∀ id object, s.objects id = some object → object.Recoverable)
    (mirrored : ∀ other, other ≠ id →
      s.app.runtimes other = (s.objects other).map RuntimeObject.state)
    (sound : entry.Recoverable) (taken : s.move id entry = some t) :
    t.Sane ∧ t.objects id = some entry := by
  have objects (other : UUID) (held : RuntimeObject)
      (found : (s.setObject id entry).objects other = some held) : held.Recoverable := by
    simp only [setObject] at found
    split at found
    · cases found
      exact sound
    · exact recoverable other held found
  have stored : (s.setObject id entry).Unspoiled :=
    ⟨unspoiled.library, unspoiled.loaded, unspoiled.previous, unspoiled.saves⟩
  -- An unchanged state is not reported; a changed one is recorded with the machine.
  unfold move at taken
  split at taken
  next same =>
    cases taken
    refine ⟨⟨accounted, objects, fun other => ?_, stored⟩, if_pos rfl⟩
    simp only [setObject]
    split
    next here =>
      rw [here]
      exact same
    next elsewhere => exact mirrored other elsewhere
  next =>
    obtain ⟨app, changed, rfl⟩ := Option.map_eq_some_iff.mp taken
    refine ⟨⟨accounted.runtimeChanges sound.unfailed changed, objects, fun other => ?_,
      ⟨stored.library, stored.loaded, stored.previous, stored.saves⟩⟩, if_pos rfl⟩
    simp only [runtimes_runtimeChanges changed, setObject]
    split
    · rfl
    next elsewhere => exact mirrored other elsewhere

/-- An event of a runtime that has one. -/
theorem Sane.runtime (sane : s.Sane) {event : RuntimeEvent}
    (sound : machine.runtimeState.hasFailed = false) (allowed : (s.object machine).Sound event)
    (taken : s.runtime machine event = some t) : t.Sane := by
  unfold AppProcess.runtime at taken
  split at taken
  · cases taken
  · obtain ⟨object, moved, recorded⟩ := Option.bind_eq_some_iff.mp taken
    have made := sane.withObject sound
    exact (sane_move made.accounted made.unspoiled made.recoverable (fun other _ => made.mirrored other)
      ((sane.recoverable_object sound).step allowed moved) recorded).1

theorem request_runtimes (app : AppModel) (operation : DiskOperation) (machine : Machine) :
    (app.request operation machine).runtimes =
      if operation.registers then app.runtimes else (app.withRuntime machine).runtimes := by
  unfold AppModel.request
  cases app.admission operation machine with
  | none => cases operation <;> rfl
  | some error => cases operation <;> rfl

theorem Sane.request (sane : s.Sane) (operation : DiskOperation)
    (sound : machine.runtimeState.hasFailed = false) : (s.request operation machine).Sane := by
  have accounted := sane.accounted.request operation sound
  have runtimes := request_runtimes s.app operation machine
  unfold AppProcess.request
  split
  · simp only
    split
    next registers =>
      rw [if_pos registers] at runtimes
      exact sane.withApp accounted runtimes
    next unmarked =>
      rw [if_neg unmarked] at runtimes
      exact (sane.withObject sound).withApp accounted runtimes
  · exact sane.withApp (sane.accounted.present _) rfl

/-- Which runtimes a task that goes on has changed. -/
theorem resume_runtimes {app after : AppModel} {task : DiskTask} {reply : Reply}
    (taken : app.resume task reply = some after)
    (noStart : ¬ (task.operation = .start ∧ task.phase = .preparing ∧ reply = .returns))
    (noRemoval : ¬ (task.operation = .deleteMachine ∧ task.phase = .awaitingStore ∧
      reply = .returns)) : after.runtimes = app.runtimes := by
  obtain ⟨operation, machine, phase⟩ := task
  -- Only the launch of a start and the removal of a machine touch the runtimes, and both are
  -- excluded.
  cases operation with
  | start =>
    cases phase with
    | resolving => cases reply <;> cases taken <;> rfl
    | preparing =>
      cases reply with
      | fails message =>
        cases taken
        rfl
      | returns => exact absurd ⟨rfl, rfl, rfl⟩ noStart
      | cloned => cases taken
    | launching =>
      cases reply with
      | fails message | cloned => cases taken
      | returns =>
        simp only [AppModel.resume, AppModel.resumeStart] at taken
        split at taken <;> cases taken <;> rfl
    | awaitingStore | persisting | up => cases reply <;> cases taken
  | exportMachineDisk => cases reply <;> cases taken <;> rfl
  | createSnapshot | restoreSnapshot | cloneMachine | deleteMachine =>
    cases phase with
    | awaitingStore =>
      simp only [AppModel.resume, AppModel.resumeStore] at taken
      split at taken
      · cases taken
        rfl
      · first
          | exact absurd ⟨rfl, rfl, rfl⟩ noRemoval
          | (cases taken; done)
          | (cases taken; rfl)
      · split at taken <;> cases taken
        rfl
    | persisting => cases reply <;> cases taken <;> rfl
    | resolving | preparing | launching | up => cases reply <;> cases taken

/-- The start that reaches its runtime changes no other. -/
theorem prepared_runtimes {app after : AppModel} {machine : Machine}
    (taken : app.resume ⟨.start, machine, .preparing⟩ .returns = some after) (other : UUID)
    (differs : other ≠ machine.id) : after.runtimes other = app.runtimes other := by
  simp only [AppModel.resume, AppModel.resumeStart] at taken
  split at taken <;> cases taken <;>
    simp [AppModel.transition, AppModel.withRuntime, AppModel.setRuntime, AppModel.endStart, differs]

theorem Sane.resume (sane : s.Sane) {index : Nat} {reply : Reply}
    (taken : s.resume index reply none = some t) : t.Sane := by
  obtain ⟨task, found, resumed⟩ := Option.bind_eq_some_iff.mp taken
  split at resumed
  · cases resumed
  obtain ⟨app, stepped, followed⟩ := Option.bind_eq_some_iff.mp resumed
  have accounted := sane.accounted.resumeIndex stepped
  have sound := sane.accounted.requested task (List.mem_of_getElem? found)
  simp only [AppModel.step, found] at stepped
  have stored : ({ s with app := app } : AppProcess).Unspoiled :=
    ⟨sane.unspoiled.library, sane.unspoiled.loaded, sane.unspoiled.previous, sane.unspoiled.saves⟩
  obtain ⟨operation, machine, phase⟩ := task
  unfold follow at followed
  split at followed
  · -- The runtime of the machine is started.
    next kind stage =>
    cases kind
    cases stage
    have others := prepared_runtimes stepped
    refine (sane_move accounted stored sane.recoverable (fun other differs => ?_)
      (sane.recoverable_object sound).start followed).1
    exact (others other differs).trans (sane.mirrored other)
  · -- The machine is deleted, its runtime with it.
    next kind stage =>
    cases kind
    cases stage
    cases stepped
    cases followed
    refine ⟨accounted, fun id object held => ?_, fun id => ?_,
      ⟨stored.library, stored.loaded, stored.previous, stored.saves⟩⟩
    · simp only at held
      split at held
      · cases held
      · exact sane.recoverable id object held
    · simp only
      split
      · rfl
      · exact sane.mirrored id
  · next noStart noRemoval =>
    cases followed
    have same := resume_runtimes stepped
    refine sane.withApp accounted (same ?_ ?_)
    · rintro ⟨kind, stage, returned⟩
      exact noStart kind stage returned
    · rintro ⟨kind, stage, returned⟩
      exact noRemoval kind stage returned

/-- Machines are changed, their runtime states are not. -/
theorem Sane.map (sane : s.Sane) (f : Machine → Machine) (sameID : ∀ m, (f m).id = m.id)
    (sameState : ∀ m, (f m).runtimeState = m.runtimeState) :
    (s.withMachines (s.app.machines.map f)).Sane := by
  have accounted : ({ s.app with machines := s.app.machines.map f } : AppModel).Accounted := by
    apply sane.accounted.withMachines
    · apply NoneFailed.map
      intro m member
      rw [sameState]
      exact sane.accounted.unfailed m member
    · intro id m found stopped
      rw [firstMachine_map id f sameID] at found
      obtain ⟨before, first, rfl⟩ := Option.map_eq_some_iff.mp found
      rw [sameState]
      exact sane.accounted.recorded id before first stopped
  exact sane.withApp accounted rfl

/-- The machines that `initialize` lists are stopped. -/
theorem Sane.restore (sane : s.Sane) {machines : List Machine} (unfailed : NoneFailed machines)
    (error : Option String) : (s.restore machines error).Sane := by
  cases error with
  | some message => exact sane.withApp (sane.accounted.present message) rfl
  | none =>
    have accounted : ({ s.app with machines := machines.map fun m =>
        { m with runtimeState := m.runtimeState.restored } } : AppModel).Accounted := by
      apply sane.accounted.withMachines unfailed.restored
      intro id m found _
      obtain ⟨before, listed, rfl⟩ := List.mem_map.mp (mem_of_firstMachine found)
      exact before.runtimeState.restored_of_unfailed (unfailed before listed)
    have restored := sane.withApp accounted rfl
    exact ⟨restored.accounted, restored.recoverable, restored.mirrored, restored.unspoiled.library,
      restored.unspoiled.loaded, restored.unspoiled.previous, restored.unspoiled.saves⟩

theorem Sane.ejectInstaller (sane : s.Sane) (sound : machine.runtimeState.hasFailed = false) :
    (s.ejectInstaller machine).Sane := by
  have made := sane.withObject sound
  unfold AppProcess.ejectInstaller
  split
  · exact made.withApp (made.accounted.present _) rfl
  · exact made.withApp (made.accounted.update machine.id _ (fun _ => rfl) fun _ => rfl) rfl

/-- The lists that are kept change, and none of them has a machine that failed. -/
theorem Sane.stored (sane : s.Sane) (app : t.app = s.app) (objects : t.objects = s.objects)
    (unspoiled : t.Unspoiled) : t.Sane where
  accounted := by
    rw [app]
    exact sane.accounted
  recoverable := by
    rw [objects]
    exact sane.recoverable
  mirrored := by
    rw [app, objects]
    exact sane.mirrored
  unspoiled := unspoiled

theorem Sane.profileRemoved (sane : s.Sane) {previous : List Machine} {error : Option String}
    (unfailed : NoneFailed previous)
    (current : error ≠ none → ∀ id m, firstMachine id previous = some m →
      s.app.stateOf id = .stopped → m.runtimeState = .stopped) :
    (s.profileRemoved previous error).Sane := by
  cases error with
  | none => exact sane
  | some message =>
    have put := sane.accounted.withMachines unfailed (current (by simp))
    exact sane.withApp (put.present message) rfl

/-- **Step lemma.** -/
theorem Sane.step (sane : s.Sane) {event : AppEvent} (sound : s.Sound event)
    (taken : s.step event = some t) : t.Sane := by
  have stored := sane.unspoiled
  -- Every copy of the machine list, in the process and on its way to and from the disk, stays free
  -- of failures.
  cases event with
  | load =>
    simp only [AppProcess.step] at taken
    split at taken
    · cases taken
    · cases taken
      have cleared : AppModel.Accounted { s.app with errorMessage := none } :=
        ⟨sane.accounted.unfailed, sane.accounted.requested, sane.accounted.recorded,
          sane.accounted.starting, sane.accounted.exporting⟩
      refine (sane.withApp cleared rfl).stored rfl rfl
        ⟨stored.library, fun machines member => ?_, stored.previous, stored.saves⟩
      rcases List.mem_cons.mp member with rfl | member
      · exact stored.library
      · exact stored.loaded machines member
  | restore index error =>
    obtain ⟨machines, found, done⟩ := Option.bind_eq_some_iff.mp taken
    cases done
    have rest : ({ s with loaded := s.loaded.eraseIdx index } : AppProcess).Sane :=
      sane.stored rfl rfl ⟨stored.library,
        fun other member => stored.loaded other (mem_of_mem_eraseIdx member), stored.previous,
        stored.saves⟩
    exact rest.restore (stored.loaded machines (List.mem_of_getElem? found)) error
  | request operation machine =>
    cases taken
    exact sane.request operation sound
  | resume index reply startError =>
    have none : startError = none := sound
    subst none
    exact sane.resume taken
  | runtime machine event => exact sane.runtime sound.1 sound.2 taken
  | repeatTransition id =>
    obtain ⟨object, held, done⟩ := Option.bind_eq_some_iff.mp taken
    cases done
    have recoverable := sane.recoverable id object held
    refine ⟨sane.accounted.transition id _ recoverable.unfailed, sane.recoverable, fun other => ?_,
      stored.library, stored.loaded, stored.previous, stored.saves⟩
    simp only [AppModel.transition, AppModel.setRuntime]
    split
    next same =>
      rw [same, held]
      rfl
    next => exact sane.mirrored other
  | runtimeState machine =>
    cases taken
    exact sane.withObject sound
  | listMachine machine =>
    simp only [AppProcess.step] at taken
    split at taken
    next fresh =>
      cases taken
      exact sane.withApp (sane.accounted.list fresh.2) rfl
    next => cases taken
  | ejectInstaller machine =>
    cases taken
    exact sane.ejectInstaller sound
  | amend amendment =>
    cases taken
    exact sane.map amendment.amend amendment.id_amend amendment.runtimeState_amend
  | removeCustomInputProfile id =>
    cases taken
    have removed : (s.withMachines (s.app.machines.map (Session.withoutProfile id))).Sane := by
      apply sane.map
      · intro m
        unfold Session.withoutProfile
        split <;> rfl
      · intro m
        unfold Session.withoutProfile
        split <;> rfl
    refine removed.stored rfl rfl
      ⟨stored.library, stored.loaded, fun machines member => ?_, stored.saves⟩
    rcases List.mem_cons.mp member with rfl | member
    · exact sane.accounted.unfailed
    · exact stored.previous machines member
  | profileRemoved index error =>
    obtain ⟨previous, found, done⟩ := Option.bind_eq_some_iff.mp taken
    cases done
    have rest : ({ s with previous := s.previous.eraseIdx index } : AppProcess).Sane :=
      sane.stored rfl rfl ⟨stored.library, stored.loaded,
        fun other member => stored.previous other (mem_of_mem_eraseIdx member), stored.saves⟩
    exact rest.profileRemoved (stored.previous previous (List.mem_of_getElem? found))
      fun fails => sound fails previous found
  | persist =>
    simp only [AppProcess.step] at taken
    split at taken
    · cases taken
      refine sane.stored rfl rfl
        ⟨stored.library, stored.loaded, stored.previous, fun machines member => ?_⟩
      rcases List.mem_cons.mp member with rfl | member
      · exact sane.accounted.unfailed
      · exact stored.saves machines member
    · cases taken
  | save index =>
    obtain ⟨machines, found, done⟩ := Option.bind_eq_some_iff.mp taken
    cases done
    exact sane.stored rfl rfl ⟨stored.saves machines (List.mem_of_getElem? found), stored.loaded,
      stored.previous, fun other member => stored.saves other (mem_of_mem_eraseIdx member)⟩
  | relaunch =>
    -- A new process knows nothing but the library.
    cases taken
    exact sane_launched stored.library

/-- A runtime that is there moves, and neither tasks nor listed machines are lost. -/
theorem move_exists (made : s.app.runtimes id ≠ none) (entry : RuntimeObject) :
    ∃ t, s.move id entry = some t ∧ (∀ other ∈ t.app.tasks, other ∈ s.app.tasks) ∧
      ∀ m, firstMachine id s.app.machines = some m →
        ∃ m', firstMachine id t.app.machines = some m' := by
  unfold move
  split
  · exact ⟨_, rfl, fun _ member => member, fun m found => ⟨m, found⟩⟩
  · obtain ⟨before, held⟩ := Option.ne_none_iff_exists'.mp made
    simp only [AppModel.runtimeChanges, held, Option.map_some, Option.some.injEq]
    refine ⟨_, rfl, fun other member => ?_, fun m found => ?_⟩
    · split at member
      · exact (List.mem_filter.mp member).1
      · exact member
    · refine ⟨{ m with runtimeState := entry.state }, ?_⟩
      have updated := firstMachine_updateMachine id id
        (fun m => { m with runtimeState := entry.state }) (fun _ => rfl) s.app.machines
      rw [if_pos rfl, found] at updated
      split <;> exact updated

/-- What the runtime of a listed machine can do it does in the app. -/
theorem Sane.lift (sane : s.Sane) {events : List RuntimeEvent} {last : RuntimeObject}
    (sound : machine.runtimeState.hasFailed = false) (held : s.objects machine.id = some entry)
    (run : Run RuntimeObject.step entry events last)
    (meets : Meets RuntimeObject.step RuntimeObject.Sound entry events)
    (calls : ∀ e ∈ events, RuntimeEvent.isStart e = false) :
    ∃ t, Run AppProcess.step s (events.map (AppEvent.runtime machine)) t ∧ t.Sane ∧
      t.objects machine.id = some last ∧ (∀ other ∈ t.app.tasks, other ∈ s.app.tasks) ∧
      ∀ m, firstMachine machine.id s.app.machines = some m →
        ∃ m', firstMachine machine.id t.app.machines = some m' := by
  -- Induction on the run of the one runtime: each of its steps is a step of the process.
  induction run generalizing s with
  | done => exact ⟨s, .done s, sane, held, fun _ member => member, fun m found => ⟨m, found⟩⟩
  | @next before middle after event rest moved _ ih =>
    obtain ⟨allowed, later⟩ := meets _ moved
    have own : s.object machine = before := by
      rw [AppProcess.object, held]
      rfl
    have made := sane.withObject sound
    have present : (s.withObject machine).app.runtimes machine.id ≠ none := by
      simp [AppProcess.withObject, AppModel.withRuntime, AppModel.setRuntime]
    obtain ⟨t, recorded, fewer, listed⟩ := move_exists present middle
    have taken : s.step (.runtime machine event) = some t := by
      simp only [AppProcess.step, AppProcess.runtime, calls event List.mem_cons_self, own, moved]
      exact recorded
    obtain ⟨stays, objects⟩ := sane_move made.accounted made.unspoiled made.recoverable
      (fun other _ => made.mirrored other)
      ((sane.recoverable machine.id before held).step allowed moved) recorded
    obtain ⟨u, run, final, object, fewest, lists⟩ := ih stays objects later
      fun e member => calls e (List.mem_cons_of_mem _ member)
    refine ⟨u, .next taken run, final, object, fun other member => fewer other (fewest other member),
      fun m found => ?_⟩
    obtain ⟨m', found'⟩ := listed m found
    exact lists m' found'

theorem not_start_of_forced {events : List RuntimeEvent} (forced : entry.IsForcedStop events) :
    ∀ e ∈ events, RuntimeEvent.isStart e = false := by
  obtain ⟨completions, all, rfl⟩ := forced
  intro e member
  rcases List.mem_cons.mp member with rfl | member
  · cases entry <;> rfl
  · have completes := all e member
    cases e with
    | apple event => cases event <;> first | rfl | cases completes
    | qemu event => cases event <;> first | rfl | cases completes

/-- In a state with the invariant no machine is stranded. -/
theorem Sane.notStranded (sane : s.Sane) : s.NotStranded := by
  intro machine listed idle rest
  have sound := sane.accounted.unfailed machine (mem_of_firstMachine listed)
  have mirrored := sane.mirrored machine.id
  cases held : s.objects machine.id with
  | none =>
    -- The runtime is yet to be made, and it will be made stopped.
    left
    apply sane.accounted.admits listed idle
    rw [AppModel.stateOf, mirrored, held]
    rfl
  | some object =>
    rcases (sane.recoverable _ _ held).stops (rest object held) with
      stopped | ⟨events, last, forced, run, meets, stopped⟩
    · left
      apply sane.accounted.admits listed idle
      rw [AppModel.stateOf, mirrored, held]
      exact stopped
    · right
      obtain ⟨t, runs, after, now, fewer, lists⟩ :=
        sane.lift sound held run meets (not_start_of_forced forced)
      obtain ⟨m, found⟩ := lists machine listed
      refine ⟨machine, object, events, t, listed, held, forced, runs, ?_⟩
      apply after.accounted.admits found
      · exact fun other member => idle other (fewer other member)
      · rw [AppModel.stateOf, after.mirrored, now]
        exact stopped

/-- The machine's runtime has failed and is at rest. -/
def HasFailed (s : AppProcess) (id : UUID) : Prop :=
  ∃ object, s.objects id = some object ∧ object.state.hasFailed = true ∧ object.AtRest ∧
    s.app.runtimes id = some object.state

theorem HasFailed.not_admits (failed : s.HasFailed id) : ¬ s.app.Admits id := by
  rintro ⟨machine, listed, admitted, _⟩
  obtain ⟨object, _, state, _, mirrored⟩ := failed
  have running : s.app.runtime machine ≠ .stopped := by
    rw [AppModel.runtime, id_of_firstMachine listed, mirrored, Option.getD_some]
    intro stopped
    rw [stopped] at state
    cases state
  simp only [AppModel.ensureMachineIdle, if_pos running] at admitted
  split at admitted
  · cases admitted
  · split at admitted <;> cases admitted

/-- A force stop does nothing to a runtime that has failed, and nothing is left to complete. -/
theorem unmoved_of_failed {object after : RuntimeObject} {event : RuntimeEvent}
    (failed : object.state.hasFailed = true) (rest : object.AtRest)
    (forced : event = object.forceStop ∨ event.continues = true)
    (taken : object.step event = some after) : after.state = object.state ∧ after.AtRest := by
  -- A failed runtime is in none of the states in which a stop does something.
  have idle (state : MachineRuntimeState) (same : object.state = state) :
      state ≠ .starting ∧ state ≠ .running ∧ state ≠ .stopping := by
    rw [same] at failed
    refine ⟨?_, ?_, ?_⟩ <;> rintro rfl <;> cases failed
  cases object with
  | apple runtime =>
    obtain ⟨_, running, stopping⟩ := idle runtime.state rfl
    cases event with
    | qemu event => cases taken
    | apple event =>
      obtain ⟨now, moved, rfl⟩ := Option.map_eq_some_iff.mp taken
      cases event with
      | forceStop =>
        have same : runtime.forceStop = runtime := by
          unfold Apple.MachineRuntime.forceStop
          split
          · rfl
          · exact if_neg (not_or.mpr ⟨running, stopping⟩)
        simp only [Apple.MachineRuntime.step, same, Option.some.injEq] at moved
        subst moved
        exact ⟨rfl, rest⟩
      | complete index error requestError => simp [Apple.MachineRuntime.step, rest.1] at moved
      | start | requestStop | guestDidStop | didStopWithError | deliver =>
        rcases forced with same | completes
        · cases same
        · cases completes
  | qemu runtime =>
    obtain ⟨starting, running, stopping⟩ := idle runtime.state rfl
    cases event with
    | apple event => cases taken
    | qemu event =>
      obtain ⟨now, moved, rfl⟩ := Option.map_eq_some_iff.mp taken
      cases event with
      | forceStop =>
        have same : runtime.forceStop = runtime := by
          simp [QEMU.Runtime.forceStop, QEMU.Runtime.isActive, starting, running, stopping]
        simp only [QEMU.Runtime.step, same, Option.some.injEq] at moved
        subst moved
        exact ⟨rfl, rest⟩
      | resume index reply => simp [QEMU.Runtime.step, rest.1] at moved
      | tpmExits tpm =>
        simp only [QEMU.Runtime.step] at moved
        split at moved <;> cases moved
        exact ⟨rfl, rest⟩
      | start | stop | deliver | processExits | processTerminated =>
        rcases forced with same | completes
        · cases same
        · cases completes

theorem HasFailed.step (failed : s.HasFailed machine.id) {event : RuntimeEvent}
    (forced : (∃ object, event = RuntimeObject.forceStop object) ∨ event.continues = true)
    (taken : s.step (.runtime machine event) = some t) : t.HasFailed machine.id := by
  obtain ⟨object, held, state, rest, mirrored⟩ := failed
  have own : s.object machine = object := by
    rw [AppProcess.object, held]
    rfl
  simp only [AppProcess.step, AppProcess.runtime] at taken
  split at taken
  · cases taken
  obtain ⟨after, moved, recorded⟩ := Option.bind_eq_some_iff.mp taken
  rw [own] at moved
  have called : event = object.forceStop ∨ event.continues = true := by
    rcases forced with ⟨other, rfl⟩ | completes
    · cases object <;> cases other <;> first | exact .inl rfl | cases moved
    · exact .inr completes
  obtain ⟨same, resting⟩ := unmoved_of_failed state rest called moved
  have known : (s.withObject machine).app.runtimes machine.id = some after.state := by
    simp [AppProcess.withObject, AppModel.withRuntime, AppModel.setRuntime, AppModel.runtime,
      mirrored, same]
  rw [move, if_pos known, Option.some.injEq] at recorded
  subst recorded
  exact ⟨after, if_pos rfl, by rw [same]; exact state, resting, known⟩

/-- A machine whose runtime has failed does not escape. -/
theorem HasFailed.stranded (failed : s.HasFailed id) : ¬ s.Escapes id := by
  rintro (admitted | ⟨machine, object, events, t, listed, _, ⟨completions, all, rfl⟩, run, admitted⟩)
  · exact failed.not_admits admitted
  · have same : machine.id = id := id_of_firstMachine listed
    subst same
    apply HasFailed.not_admits _ admitted
    apply run.keeps_of (V := fun event => ∃ e, event = AppEvent.runtime machine e ∧
      ((∃ object, e = RuntimeObject.forceStop object) ∨ e.continues = true))
      (I := fun s => s.HasFailed machine.id) _ _ failed
    · rintro s event t failed ⟨e, rfl, forced⟩ taken
      exact failed.step forced taken
    · intro event member
      obtain ⟨e, listed, rfl⟩ := List.mem_map.mp member
      rcases List.mem_cons.mp listed with rfl | listed
      · exact ⟨_, rfl, .inl ⟨object, rfl⟩⟩
      · exact ⟨e, rfl, .inr (all e listed)⟩

end Steps

end AppProcess

/-- **No machine is stranded** in a run without failed starts and runs, lost virtual machines and
outdated rollbacks: once nothing of it runs and nothing is in flight on it, every operation is
admitted, after a force stop at the latest. -/
theorem no_stranded_machine (library : List Machine) (events : List AppEvent)
    (unfailed : NoneFailed library)
    (sound : Meets AppProcess.step AppProcess.Sound (.launched library) events) :
    Always AppProcess.step AppProcess.NotStranded (.launched library) events :=
  always_of_meets (V := fun _ => True)
    (fun _ _ _ sane _ sound taken => AppProcess.Sane.step sane sound taken)
    (fun _ sane => AppProcess.Sane.notStranded sane) _ events (AppProcess.sane_launched unfailed)
    (fun _ _ => trivial) sound

/-- A machine is started, force stopped, and the app launched again. -/
theorem stopped_machine_not_stranded :
    Always AppProcess.step AppProcess.NotStranded (.launched [stoppedMachine])
      [.load, .restore 0 none, .request .start stoppedMachine, .resume 0 .returns none,
        .resume 0 .returns none, .runtime stoppedMachine (.apple (.complete 0 none none)),
        .resume 0 .returns none, .runtime stoppedMachine (.apple .forceStop),
        .runtime stoppedMachine (.apple (.complete 0 none none)), .persist, .save 0, .relaunch,
        .load, .restore 0 none] := by
  have completes {awaited : Apple.Awaited} {s : Apple.MachineRuntime}
      (only : s.calls = [⟨0, awaited⟩]) (held : s.virtualMachine = some 0) :
      s.Sound (.complete 0 none none) := by
    intro call found
    rw [only] at found
    cases found
    exact ⟨fun _ => ⟨rfl, by simp [held]⟩, fun _ fails => absurd rfl fails⟩
  apply no_stranded_machine
  · intro m listed
    rw [List.mem_singleton.mp listed]
    rfl
  · exact .next rfl trivial (.next rfl trivial (.next rfl rfl (.next rfl rfl (.next rfl rfl
      (.next rfl ⟨rfl, completes rfl rfl⟩ (.next rfl rfl (.next rfl ⟨rfl, trivial⟩
        (.next rfl ⟨rfl, completes rfl rfl⟩ (.next rfl trivial (.next rfl trivial
          (.next rfl trivial (.next rfl trivial (.next rfl trivial trivial)))))))))))))

/-- A start that fails strands its machine. -/
theorem failed_start_strands :
    ¬ ∀ library events, NoneFailed library →
      Always AppProcess.step AppProcess.NotStranded (.launched library) events := by
  intro never
  have unfailed : NoneFailed [stoppedMachine] := by
    intro m listed
    rw [List.mem_singleton.mp listed]
    rfl
  have always := never [stoppedMachine] [.load, .restore 0 none, .request .start stoppedMachine,
    .resume 0 .returns none, .resume 0 .returns none,
    .runtime stoppedMachine (.apple (.complete 0 (some "The disk image is locked.") none)),
    .resume 0 .returns none] unfailed
  have last := Always.last (run_of_execute rfl) always
  have escapes := last { stoppedMachine with runtimeState := .failed "The disk image is locked." }
    rfl (by intro t member; cases member) (by rintro object held; cases held; exact ⟨rfl, rfl⟩)
  exact AppProcess.HasFailed.stranded ⟨.apple { state := .failed "The disk image is locked.", made := 1 },
    rfl, rfl, ⟨rfl, rfl⟩, rfl⟩ escapes

end SimpleVM.App
