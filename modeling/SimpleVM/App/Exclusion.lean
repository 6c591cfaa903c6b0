import SimpleVM.App.Admission
import SimpleVM.Transition.Run
import SimpleVM.Transition.Tasks

/-!
# Exclusive use of a machine's disk

A start and an export register themselves before they suspend, and every later admission
check sees the mark. The other operations leave no mark, so an operation admitted while
one of them is in flight may clash with it. Runs in which that never happens keep every
disk exclusive, and no other runs do.
-/
namespace SimpleVM.App

open Domain Transition

namespace DiskTask

/-- A start whose machine is in `startingMachineIDs`. -/
def Starting (t : DiskTask) : Prop := t.operation = .start ∧ t.phase ≠ .up

def Up (t : DiskTask) : Prop := t.operation = .start ∧ t.phase = .up

def Exporting (t : DiskTask) : Prop := t.operation = .exportMachineDisk

/-- A start that has also passed the runtime's own check, `state.canStart`. -/
def PastGuard (t : DiskTask) : Prop := t.phase = .launching ∨ t.phase = .up

/-- Two operations in flight on one machine, one of which writes or removes the disk. Of two
starts the second is admitted only when the runtime's own check lets it pass. -/
def Clash (a b : DiskTask) : Prop :=
  a.machine.id = b.machine.id ∧
    (a.operation.writesDisk = true ∨ b.operation.writesDisk = true) ∧
    (a.operation = .start → b.operation = .start → a.PastGuard ∧ b.PastGuard)

/-- What the marks guarantee in addition: one start in progress and one export at most. -/
def Apart (a b : DiskTask) : Prop :=
  ¬ Clash a b ∧ (a.machine.id = b.machine.id →
    ¬ (a.Starting ∧ b.Starting) ∧ ¬ (a.Exporting ∧ b.Exporting))

theorem Apart.symm (a b : DiskTask) (apart : Apart a b) : Apart b a := by
  obtain ⟨clear, marks⟩ := apart
  refine ⟨fun ⟨same, writes, guards⟩ => clear ⟨same.symm, writes.symm, ?_⟩, fun same => ?_⟩
  · exact fun first second => (guards second first).symm
  · obtain ⟨starts, exports⟩ := marks same.symm
    exact ⟨fun h => starts h.symm, fun h => exports h.symm⟩

end DiskTask

/-- No two operations in flight clash. -/
def Exclusive (s : AppModel) : Prop := s.tasks.Pairwise fun a b => ¬ DiskTask.Clash a b

/-- An operation is not admitted while an unmarked operation on the same machine is in flight
and one of the two writes or removes the disk. -/
def KeepsClear (s : AppModel) : DiskEvent → Prop
  | .request operation machine =>
    s.admission operation machine = none →
      ∀ t ∈ s.tasks, t.machine.id = machine.id → t.operation.registers = false →
        operation.writesDisk = false ∧ t.operation.writesDisk = false
  | _ => True

/-- What a task in flight relies on: its mark, or a runtime that has not stopped. -/
structure Marked (s : AppModel) (t : DiskTask) : Prop where
  starting : t.Starting → t.machine.id ∈ s.startingMachineIDs
  up : t.Up → ∃ state, s.runtimes t.machine.id = some state ∧ state.canStart = false
  exporting : t.Exporting → t.machine.id ∈ s.exportingMachineIDs

/-- Every task is marked, no two collide, and the state of a runtime that has not stopped is
the one recorded on its machine. -/
structure Consistent (s : AppModel) : Prop where
  marked : ∀ t ∈ s.tasks, Marked s t
  apart : s.tasks.Pairwise DiskTask.Apart
  recorded : ∀ id state, s.runtimes id = some state → state.canStart = false →
    ∀ m, firstMachine id s.machines = some m → m.runtimeState = state

theorem Consistent.exclusive {s : AppModel} (consistent : Consistent s) : Exclusive s :=
  consistent.apart.imp fun apart => apart.1

section Machines

theorem firstMachine_updateMachine (id other : UUID) (mutation : Machine → Machine)
    (keeps : ∀ m, (mutation m).id = m.id) (machines : List Machine) :
    firstMachine other (updateMachine id mutation machines) =
      if other = id then (firstMachine id machines).map mutation
      else firstMachine other machines := by
  induction machines with
  | nil => simp [updateMachine, firstMachine]
  | cons m ms ih =>
    simp only [updateMachine, firstMachine] at ih ⊢
    split
    next here =>
      simp only [List.find?_cons, keeps, here]
      by_cases same : id = other
      · subst same; simp
      · simp [same, Ne.symm same]
    next elsewhere =>
      simp only [List.find?_cons, ih, elsewhere, decide_false]
      by_cases found : m.id = other
      · subst found; simp [elsewhere]
      · simp [found]

theorem firstMachine_filter (id other : UUID) (ne : other ≠ id) (machines : List Machine) :
    firstMachine other (machines.filter fun m => m.id ≠ id) = firstMachine other machines := by
  simp only [firstMachine, List.find?_filter]
  congr 1
  funext m
  by_cases found : m.id = other
  · simp [found, ne]
  · simp [found]

theorem firstMachine_append_fresh (id other : UUID) (ne : other ≠ id) (m : Machine)
    (same : m.id = id) (machines : List Machine) :
    firstMachine other (machines ++ [m]) = firstMachine other machines := by
  have skip : m.id ≠ other := fun h => ne (h.symm.trans same)
  simp [firstMachine, List.find?_append, skip]

end Machines

section Steps

variable {s : AppModel}

/-- Putting a task in flight that fits with the others. -/
theorem Consistent.add (consistent : Consistent s) (t : DiskTask) (marked : Marked s t)
    (apart : ∀ other ∈ s.tasks, DiskTask.Apart t other) :
    Consistent { s with tasks := t :: s.tasks } where
  marked other member := by
    rcases List.mem_cons.mp member with rfl | member
    · exact ⟨marked.starting, marked.up, marked.exporting⟩
    · have old := consistent.marked other member
      exact ⟨old.starting, old.up, old.exporting⟩
  apart := List.pairwise_cons.mpr ⟨apart, consistent.apart⟩
  recorded := consistent.recorded

/-- Taking out the task to be resumed. -/
theorem Consistent.takeOut (consistent : Consistent s) {index : Nat} {t : DiskTask}
    (found : s.tasks[index]? = some t) :
    Consistent { s with tasks := s.tasks.eraseIdx index } ∧
      Marked { s with tasks := s.tasks.eraseIdx index } t ∧
      ∀ other ∈ s.tasks.eraseIdx index, DiskTask.Apart t other := by
  obtain ⟨against, pairwise⟩ := pairwise_takeOut DiskTask.Apart.symm found consistent.apart
  have here := consistent.marked t (List.mem_of_getElem? found)
  refine ⟨⟨fun other member => ?_, pairwise, consistent.recorded⟩,
    ⟨here.starting, here.up, here.exporting⟩, against⟩
  have old := consistent.marked other (mem_of_mem_eraseIdx member)
  exact ⟨old.starting, old.up, old.exporting⟩

/-- Creating a runtime on first use: it is not running. -/
theorem Consistent.withRuntime (consistent : Consistent s) (machine : Machine) :
    Consistent (s.withRuntime machine) where
  marked t member := by
    have old := consistent.marked t member
    refine ⟨old.starting, fun up => ?_, old.exporting⟩
    obtain ⟨state, held, active⟩ := old.up up
    refine ⟨state, ?_, active⟩
    simp only [AppModel.withRuntime, AppModel.setRuntime, AppModel.runtime]
    split
    next same => rw [← same, held, Option.getD_some]
    next => exact held
  apart := consistent.apart
  recorded id state held active := by
    simp only [AppModel.withRuntime, AppModel.setRuntime, AppModel.runtime] at held
    split at held
    next same =>
      subst same
      cases before : s.runtimes machine.id with
      | none =>
        rw [before, Option.getD_none, Option.some.injEq] at held
        rw [← held, MachineRuntimeState.restored_canStart] at active
        cases active
      | some old =>
        rw [before, Option.getD_some, Option.some.injEq] at held
        exact consistent.recorded machine.id state (held ▸ before) active
    next => exact consistent.recorded id state held active

/-- A transition is recorded, and it keeps every mark if no start on the machine is up. -/
theorem Consistent.transition (consistent : Consistent s) (id : UUID)
    (state : MachineRuntimeState)
    (down : state.canStart = true → ∀ t ∈ s.tasks, t.machine.id = id → ¬ t.Up) :
    Consistent (s.transition id state) where
  marked t member := by
    have old := consistent.marked t member
    refine ⟨old.starting, fun up => ?_, old.exporting⟩
    simp only [AppModel.transition, AppModel.setRuntime]
    by_cases same : t.machine.id = id
    · refine ⟨state, if_pos same, ?_⟩
      cases active : state.canStart with
      | false => rfl
      | true => exact absurd up (down active t member same)
    · obtain ⟨before, held, active⟩ := old.up up
      exact ⟨before, by simpa only [if_neg same] using held, active⟩
  apart := consistent.apart
  recorded other held known active m found := by
    simp only [AppModel.transition, AppModel.setRuntime] at known found
    rw [firstMachine_updateMachine id other (fun m => { m with runtimeState := state })
      (fun _ => rfl)] at found
    split at known
    next same =>
      cases known
      rw [if_pos same, Option.map_eq_some_iff] at found
      obtain ⟨_, _, rfl⟩ := found
      rfl
    next differs =>
      rw [if_neg differs] at found
      exact consistent.recorded other held known active m found

/-- A change that does not touch tasks, marks or runtimes, and keeps recorded states. -/
theorem Consistent.ofMachines (consistent : Consistent s) (machines : List Machine)
    (kept : ∀ id state, s.runtimes id = some state → state.canStart = false →
      ∀ m, firstMachine id machines = some m → m.runtimeState = state) :
    Consistent { s with machines := machines } where
  marked t member := by
    have old := consistent.marked t member
    exact ⟨old.starting, old.up, old.exporting⟩
  apart := consistent.apart
  recorded := kept

theorem Consistent.present (consistent : Consistent s) (message : String) :
    Consistent (s.present message) where
  marked t member := by
    have old := consistent.marked t member
    exact ⟨old.starting, old.up, old.exporting⟩
  apart := consistent.apart
  recorded := consistent.recorded

/-- The mark of a start is cleared when no other start of the machine relies on it. -/
theorem Consistent.endStart (consistent : Consistent s) (id : UUID)
    (alone : ∀ t ∈ s.tasks, t.machine.id = id → ¬ t.Starting) : Consistent (s.endStart id) where
  marked t member := by
    have old := consistent.marked t member
    refine ⟨fun starting => ?_, old.up, old.exporting⟩
    have differs : t.machine.id ≠ id := fun same => alone t member same starting
    simpa [AppModel.endStart, differs] using old.starting starting
  apart := consistent.apart
  recorded := consistent.recorded

/-- Step lemma for admission: the marks keep a new task clear of starts and exports in flight,
the guard keeps it clear of the operations that leave no mark. -/
theorem Consistent.apart_of_admitted (consistent : Consistent s) (operation : DiskOperation)
    (machine : Machine) (phase : Phase) (admitted : s.admission operation machine = none)
    (early : phase = .resolving ∨ phase = .awaitingStore)
    (clear : KeepsClear s (.request operation machine)) :
    ∀ other ∈ s.tasks, DiskTask.Apart ⟨operation, machine, phase⟩ other := by
  intro other member
  -- Operations on different machines never clash.
  by_cases differs : machine.id ≠ other.machine.id
  · exact ⟨fun clash => differs clash.1, fun equal => absurd equal differs⟩
  have same : machine.id = other.machine.id := Decidable.not_not.mp differs
  have marked := consistent.marked other member
  -- Each of the marks refuses every operation, so no marked operation is under way.
  have notStarting : ¬ other.Starting := fun starting => by
    have mark := marked.starting starting
    rw [← same] at mark
    cases operation <;>
      simp only [AppModel.admission, AppModel.ensureStartable, AppModel.ensureMachineIdle,
        AppModel.ensureExportable] at admitted <;> grind
  have notExporting : ¬ other.Exporting := fun exporting => by
    have mark := marked.exporting exporting
    rw [← same] at mark
    cases operation <;>
      simp [AppModel.admission, AppModel.ensureStartable, AppModel.ensureMachineIdle,
        AppModel.ensureExportable, mark] at admitted
  refine ⟨fun ⟨_, writes, guards⟩ => ?_, fun _ => ⟨fun h => notStarting h.2,
    fun h => notExporting h.2⟩⟩
  -- A machine that is up is refused by its state; what has no mark is left to the condition.
  by_cases up : other.Up
  · obtain ⟨state, held, active⟩ := marked.up up
    rw [← same] at held
    have running : state ≠ .stopped := fun stopped => by rw [stopped] at active; cases active
    cases operation with
    | start =>
      have passed := (guards rfl up.1).1
      rcases early with rfl | rfl
      · simp [DiskTask.PastGuard] at passed
      · simp [DiskTask.PastGuard] at passed
    | exportMachineDisk =>
      have recorded := consistent.recorded machine.id state held active
      simp only [AppModel.admission, AppModel.ensureExportable] at admitted
      cases found : firstMachine machine.id s.machines with
      | none => grind
      | some current =>
        have now := recorded current found
        grind
    | createSnapshot | restoreSnapshot | cloneMachine | deleteMachine =>
      simp only [AppModel.admission, AppModel.ensureMachineIdle, AppModel.runtime, held,
        Option.getD_some] at admitted
      grind
  · have unmarked : other.operation.registers = false := by
      cases kind : other.operation with
      | start => exact absurd ⟨kind, fun h => up ⟨kind, h⟩⟩ notStarting
      | exportMachineDisk => exact absurd kind notExporting
      | createSnapshot | restoreSnapshot | cloneMachine | deleteMachine => rfl
    obtain ⟨reads, also⟩ := clear admitted other member same.symm unmarked
    rcases writes with first | second
    · exact Bool.false_ne_true (reads.symm.trans first)
    · exact Bool.false_ne_true (also.symm.trans second)

/-- A call keeps consistency if it is admitted clear of the unmarked operations. -/
theorem Consistent.request (consistent : Consistent s) (operation : DiskOperation)
    (machine : Machine) (clear : KeepsClear s (.request operation machine)) :
    Consistent (s.request operation machine) := by
  unfold AppModel.request
  cases admitted : s.admission operation machine with
  | some error =>
    cases operation with
    | start | exportMachineDisk => exact consistent.present _
    | createSnapshot | restoreSnapshot | cloneMachine | deleteMachine =>
      exact (consistent.withRuntime machine).present _
  | none =>
    -- A start and an export mark the machine before anything suspends, the others do not.
    cases operation with
    | start =>
      have apart := consistent.apart_of_admitted .start machine .resolving admitted (.inl rfl) clear
      have base : Consistent
          { s with startingMachineIDs := machine.id :: s.startingMachineIDs } := by
        refine ⟨fun t member => ?_, consistent.apart, consistent.recorded⟩
        have old := consistent.marked t member
        exact ⟨fun h => List.mem_cons_of_mem _ (old.starting h), old.up, old.exporting⟩
      refine base.add ⟨.start, machine, .resolving⟩
        ⟨fun _ => List.mem_cons_self, fun up => ?_, fun exporting => ?_⟩ apart
      · cases up.2
      · cases exporting
    | exportMachineDisk =>
      have apart := consistent.apart_of_admitted .exportMachineDisk machine .awaitingStore
        admitted (.inr rfl) clear
      have base : Consistent
          { s with exportingMachineIDs := machine.id :: s.exportingMachineIDs } := by
        refine ⟨fun t member => ?_, consistent.apart, consistent.recorded⟩
        have old := consistent.marked t member
        exact ⟨old.starting, old.up, fun h => List.mem_cons_of_mem _ (old.exporting h)⟩
      refine base.add ⟨.exportMachineDisk, machine, .awaitingStore⟩
        ⟨fun starting => ?_, fun up => ?_, fun _ => List.mem_cons_self⟩ apart
      · cases starting.1
      · cases up.1
    | createSnapshot | restoreSnapshot | cloneMachine | deleteMachine =>
      have apart := consistent.apart_of_admitted _ machine .awaitingStore admitted (.inr rfl) clear
      refine (consistent.withRuntime machine).add _
        ⟨fun starting => ?_, fun up => ?_, fun exporting => ?_⟩ apart
      · cases starting.1
      · cases up.1
      · cases exporting

/-- A start moves on: the tasks it was apart from stay apart if none of them is a start that
is up when it passes the runtime's check. -/
private theorem DiskTask.Apart.advance {machine : Machine} {phase next : Phase}
    {other : DiskTask} (apart : DiskTask.Apart ⟨.start, machine, phase⟩ other)
    (before : phase ≠ .up)
    (down : machine.id = other.machine.id → next = .launching ∨ next = .up → ¬ other.Up) :
    DiskTask.Apart ⟨.start, machine, next⟩ other := by
  obtain ⟨clear, marks⟩ := apart
  have notStarting (same : machine.id = other.machine.id) : ¬ other.Starting :=
    fun starting => (marks same).1 ⟨⟨rfl, before⟩, starting⟩
  refine ⟨fun ⟨same, writes, guards⟩ => ?_, fun same =>
    ⟨fun h => notStarting same h.2, fun h => by cases h.1⟩⟩
  by_cases kind : other.operation = .start
  · obtain ⟨passed, also⟩ := guards rfl kind
    rcases also with launching | up
    · exact notStarting same ⟨kind, by rw [launching]; decide⟩
    · exact down same passed ⟨kind, up⟩
  · exact clear ⟨same, writes, fun _ h => absurd h kind⟩

/-- The phase of an operation that is not a start plays no part. -/
private theorem DiskTask.Apart.rephase {task other : DiskTask}
    (apart : DiskTask.Apart task other) (kind : task.operation ≠ .start) (next : Phase) :
    DiskTask.Apart { task with phase := next } other := by
  obtain ⟨clear, marks⟩ := apart
  refine ⟨fun ⟨same, writes, _⟩ => clear ⟨same, writes, fun h => absurd h kind⟩, fun same =>
    ⟨fun h => absurd h.1.1 kind, (marks same).2⟩⟩

/-- `start` from one suspension to the next keeps consistency. -/
theorem Consistent.resumeStart (consistent : Consistent s) (machine : Machine) (phase : Phase)
    (reply : Reply) (marked : Marked s ⟨.start, machine, phase⟩)
    (apart : ∀ other ∈ s.tasks, DiskTask.Apart ⟨.start, machine, phase⟩ other) {t : AppModel}
    (taken : s.resumeStart machine phase reply = some t) : Consistent t := by
  have alone (before : phase ≠ .up) :
      ∀ other ∈ s.tasks, other.machine.id = machine.id → ¬ other.Starting :=
    fun other member same starting =>
      ((apart other member).2 same.symm).1 ⟨⟨rfl, before⟩, starting⟩
  -- The marks of a start are kept from phase to phase and cleared when it fails or is up.
  unfold AppModel.resumeStart at taken
  split at taken
  · cases taken
    exact (consistent.endStart machine.id (alone (by decide))).present _
  · cases taken
    have base : Consistent { s with
        machines := if machine.provisioningState = .readyToInstall
          then updateMachine machine.id (fun m => { m with provisioningState := .installing })
            s.machines
          else s.machines } := by
      refine consistent.ofMachines _ fun id state held active m found => ?_
      split at found
      · rw [firstMachine_updateMachine machine.id id
          (fun m => { m with provisioningState := .installing }) (fun _ => rfl)] at found
        split at found
        next same =>
          rw [Option.map_eq_some_iff] at found
          obtain ⟨old, first, rfl⟩ := found
          exact consistent.recorded id state held active old (same ▸ first)
        next => exact consistent.recorded id state held active m found
      · exact consistent.recorded id state held active m found
    refine base.add ⟨.start, machine, .preparing⟩
      ⟨fun _ => marked.starting ⟨rfl, by simp⟩, fun up => ?_, fun exporting => ?_⟩ ?_
    · cases up.2
    · cases exporting
    · exact fun other member => (apart other member).advance (by decide) (by simp)
  · cases taken
    exact (consistent.endStart machine.id (alone (by decide))).present _
  · simp only at taken
    split at taken
    next stopped =>
      cases taken
      -- The machine was just seen stopped, so it is not up.
      have notUp : ∀ other ∈ s.tasks, other.machine.id = machine.id → ¬ other.Up := by
        intro other member same up
        obtain ⟨state, held, active⟩ := ((consistent.withRuntime machine).marked other member).up up
        rw [same] at held
        simp only [AppModel.runtime, held, Option.getD_some, active] at stopped
        cases stopped
      have base := (consistent.withRuntime machine).transition machine.id .starting
        (fun h => by cases h)
      refine base.add ⟨.start, machine, .launching⟩
        ⟨fun _ => marked.starting ⟨rfl, by simp⟩, fun up => ?_, fun exporting => ?_⟩ ?_
      · cases up.2
      · cases exporting
      · exact fun other member => (apart other member).advance (by decide)
          (fun same _ => notUp other member same.symm)
    next =>
      cases taken
      exact (consistent.withRuntime machine).endStart machine.id (alone (by decide))
  · simp only at taken
    have base := consistent.endStart machine.id (alone (by decide))
    split at taken
    next => cases taken; exact base
    next running =>
      cases taken
      refine base.add ⟨.start, machine, .up⟩
        ⟨fun starting => absurd rfl starting.2, fun _ => ?_, fun exporting => ?_⟩ ?_
      · cases held : s.runtimes machine.id with
        | none =>
          simp [AppModel.runtime, AppModel.endStart, held] at running
        | some state =>
          refine ⟨state, held, ?_⟩
          simpa [AppModel.runtime, AppModel.endStart, held] using running
      · cases exporting
      · intro other member
        refine (apart other member).advance (by decide) fun same _ up => ?_
        exact (apart other member).1
          ⟨same, .inl rfl, fun _ _ => ⟨.inl rfl, .inr up.2⟩⟩
  · cases taken

/-- The answer of a store keeps consistency. -/
theorem Consistent.resumeStore (consistent : Consistent s) (task : DiskTask) (reply : Reply)
    (apart : ∀ other ∈ s.tasks, DiskTask.Apart task other)
    (kind : task.operation ≠ .start) (silent : task.operation ≠ .exportMachineDisk)
    {t : AppModel} (taken : s.resumeStore task reply = some t) : Consistent t := by
  have unmarked (base : AppModel) : Marked base { task with phase := .persisting } :=
    ⟨fun h => absurd h.1 kind, fun h => absurd h.1 kind, fun h => absurd h silent⟩
  have later : ∀ other ∈ s.tasks, DiskTask.Apart { task with phase := .persisting } other :=
    fun other member => (apart other member).rephase kind .persisting
  unfold AppModel.resumeStore at taken
  cases reply with
  | fails message =>
    cases taken
    exact consistent.present message
  | returns =>
    simp only at taken
    split at taken
    · cases taken
    next deleting =>
      cases taken
      -- A deletion forgets the runtime; no start that relies on it is under way.
      have noStart : ∀ other ∈ s.tasks, other.machine.id = task.machine.id →
          other.operation ≠ .start := by
        intro other member same start
        exact (apart other member).1
          ⟨same.symm, .inl (by rw [deleting]; rfl), fun h => absurd h kind⟩
      have base : Consistent { s with
          machines := s.machines.filter fun m => m.id ≠ task.machine.id
          runtimes := fun other =>
            if other = task.machine.id then none else s.runtimes other } := by
        refine ⟨fun other member => ?_, consistent.apart, fun id state held active m found => ?_⟩
        · have old := consistent.marked other member
          refine ⟨old.starting, fun up => ?_, old.exporting⟩
          have differs : other.machine.id ≠ task.machine.id :=
            fun same => noStart other member same up.1
          simpa only [if_neg differs] using old.up up
        · dsimp only at held found
          split at held
          · cases held
          next differs =>
            rw [firstMachine_filter _ _ differs] at found
            exact consistent.recorded id state held active m found
      exact base.add _ (unmarked _) later
    · cases taken
      exact consistent
  | cloned id hardwareUUID disk backendState now =>
    simp only at taken
    split at taken
    next fresh =>
      cases taken
      have base := consistent.ofMachines
        (s.machines ++ [task.machine.cloned id hardwareUUID disk backendState now])
        (fun other state held active m found => by
          -- The clone is new, so no runtime is known under its identifier.
          have unknown : s.runtimes id = none := by
            have known := fresh.2
            simp only [AppModel.isFresh, Bool.and_eq_true, Option.isNone_iff_eq_none] at known
            exact known.1.2
          have differs : other ≠ id := fun same => by
            rw [same, unknown] at held
            cases held
          rw [firstMachine_append_fresh id other differs
            (task.machine.cloned id hardwareUUID disk backendState now) rfl] at found
          exact consistent.recorded other state held active m found)
      exact base.add _ (unmarked _) later
    · cases taken

/-- Resuming any task keeps consistency. -/
theorem Consistent.resume (consistent : Consistent s) (task : DiskTask) (reply : Reply)
    (marked : Marked s task) (apart : ∀ other ∈ s.tasks, DiskTask.Apart task other)
    {t : AppModel} (taken : s.resume task reply = some t) : Consistent t := by
  obtain ⟨operation, machine, phase⟩ := task
  unfold AppModel.resume at taken
  split at taken
  next start => exact consistent.resumeStart machine _ _ (start ▸ marked) (start ▸ apart) taken
  · cases taken
  next export' _ =>
    cases taken
    have alone : ∀ other ∈ s.tasks, other.machine.id = machine.id → ¬ other.Exporting :=
      fun other member same exporting =>
        ((apart other member).2 same.symm).2 ⟨export', exporting⟩
    refine ⟨fun other member => ?_, consistent.apart, consistent.recorded⟩
    have old := consistent.marked other member
    refine ⟨old.starting, old.up, fun exporting => ?_⟩
    have differs : other.machine.id ≠ machine.id := fun same => alone other member same exporting
    simpa [differs] using old.exporting exporting
  · cases taken
    exact consistent.present _
  · cases taken
    exact consistent
  next awaiting notStart notExport _ =>
    exact consistent.resumeStore _ _ apart notStart notExport taken
  · cases taken

/-- A runtime that stops ends the start that was up; any other transition ends nothing. -/
theorem Consistent.runtimeChanges (consistent : Consistent s) (id : UUID)
    (state : MachineRuntimeState) {t : AppModel} (taken : s.runtimeChanges id state = some t) :
    Consistent t := by
  unfold AppModel.runtimeChanges at taken
  split at taken
  · cases taken
  · simp only [Option.some.injEq] at taken
    split at taken
    next stopped =>
      subst taken
      have ended : Consistent (s.endRuns id) := by
        refine ⟨fun other member => ?_, consistent.apart.filter _, consistent.recorded⟩
        have old := consistent.marked other (List.mem_filter.mp member).1
        exact ⟨old.starting, old.up, old.exporting⟩
      refine ended.transition id state fun _ other member same up => ?_
      have kept := (List.mem_filter.mp member).2
      simp [up.1, up.2, same] at kept
    next running =>
      subst taken
      exact consistent.transition id state fun stopped => absurd stopped running

/-- Step lemma: every event keeps consistency if it keeps clear. -/
theorem Consistent.step (consistent : Consistent s) (event : DiskEvent)
    (clear : KeepsClear s event) {t : AppModel} (taken : s.step event = some t) :
    Consistent t := by
  cases event with
  | request operation machine =>
    cases taken
    exact consistent.request operation machine clear
  | resume index reply =>
    simp only [AppModel.step] at taken
    split at taken
    · cases taken
    next task found =>
      obtain ⟨rest, marked, apart⟩ := consistent.takeOut found
      exact rest.resume task reply marked apart taken
  | runtimeChanges id state => exact consistent.runtimeChanges id state taken

/-- An admission that does not keep clear clashes at once. -/
theorem keepsClear_of_exclusive (event : DiskEvent) {t : AppModel}
    (taken : s.step event = some t) (exclusive : Exclusive t) : KeepsClear s event := by
  cases event with
  | resume | runtimeChanges => trivial
  | request operation machine =>
    intro admitted other member same unmarked
    cases taken
    have clear : ∃ task, (s.request operation machine).tasks = task :: s.tasks ∧
        task.operation = operation ∧ task.machine = machine := by
      unfold AppModel.request
      rw [admitted]
      cases operation <;> exact ⟨_, rfl, rfl, rfl⟩
    obtain ⟨task, tasks, rfl, rfl⟩ := clear
    rw [Exclusive, tasks] at exclusive
    have apart := (List.pairwise_cons.mp exclusive).1 other member
    have notStart : other.operation ≠ .start := fun h => by rw [h] at unmarked; cases unmarked
    constructor
    · cases writes : task.operation.writesDisk with
      | false => rfl
      | true => exact absurd ⟨same.symm, .inl writes, fun _ h => absurd h notStart⟩ apart
    · cases writes : other.operation.writesDisk with
      | false => rfl
      | true => exact absurd ⟨same.symm, .inr writes, fun _ h => absurd h notStart⟩ apart

end Steps

/-- The model after `initialize`, with no operation in flight. -/
def initialized (machines : List Machine) : AppModel where
  machines := machines

theorem consistent_initialized (machines : List Machine) : Consistent (initialized machines) where
  marked _ member := by cases member
  apart := .nil
  recorded _ _ held := by cases held

/-- In every interleaving the disks stay exclusive in all states passed through exactly when
no operation is admitted beside an unmarked one that it clashes with. -/
theorem disks_exclusive_iff (machines : List Machine) (events : List DiskEvent) :
    Always AppModel.step Exclusive (initialized machines) events ↔
      Meets AppModel.step KeepsClear (initialized machines) events := by
  apply always_iff_meets (I := Consistent) (V := fun _ => True)
  · exact fun s event t consistent _ clear taken => consistent.step event clear taken
  · exact fun s consistent => consistent.exclusive
  · exact fun s event t _ _ taken exclusive => keepsClear_of_exclusive event taken exclusive
  · exact consistent_initialized machines
  · exact fun _ _ => trivial

/-- A stopped machine. -/
def stoppedMachine : Machine where
  id := ⟨1⟩
  name := "Debian"
  spec := { cpuCount := 2, memorySizeBytes := 2147483648, diskSizeBytes := 1048576,
            architecture := .arm64 }
  sourceImageID := ⟨2⟩
  disk := { id := ⟨3⟩, relativePath := "Machines/1/disk.raw", capacityBytes := 1048576 }
  provisioningState := .ready
  bootMedia := .systemDisk
  backend := .appleVirtualization
  backendState := ⟨"Machines/1/Apple"⟩
  createdAt := 0

/-- A start is admitted while a restore of the machine's disk awaits the store. -/
theorem start_admitted_during_restore :
    ¬ Always AppModel.step Exclusive (initialized [stoppedMachine])
      [.request .restoreSnapshot stoppedMachine, .request .start stoppedMachine] := by
  intro always
  have exclusive := (always.2 _ rfl).2 _ rfl
  change List.Pairwise _ [DiskTask.mk .start stoppedMachine .resolving,
    DiskTask.mk .restoreSnapshot stoppedMachine .awaitingStore] at exclusive
  exact (List.pairwise_cons.mp exclusive).1 _ List.mem_cons_self
    ⟨rfl, .inl rfl, fun _ h => by cases h⟩

end SimpleVM.App
