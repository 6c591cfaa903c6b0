import SimpleVM.QEMU.ProcessController
import SimpleVM.Transition.Run
import Mathlib.Logic.Relation

/-!
# Start and exit cycles of one controller

`QEMUProcessController` over any number of launches. Here a process has an identity: the waits
of `stop` and `forceStop` hold the process they were called for, the task of a termination
handler holds only its exit status.
-/
namespace SimpleVM.QEMU

open Transition

/-- A suspended call: `stop` asleep in its polling loop, `forceStop` waiting for the exit. -/
inductive ControllerCall
  | stop (process : Nat)
  | forceStop (process : Nat)
deriving DecidableEq, Repr

/-- The task of a termination handler, and the process that ended. -/
structure TerminationTask where
  process : Nat
  status : Int
deriving DecidableEq, Repr

/-- The actor, with the processes it launched in the order of their launch. -/
structure ProcessCycles where
  process : Option Nat := none
  expectsTermination : Bool := false
  state : ProcessState := .stopped
  launches : Nat := 0
  running : List Nat := []
  /-- What the latest start that was not refused has launched. -/
  latest : Option Nat := none
  calls : List ControllerCall := []
  handlers : List TerminationTask := []
deriving DecidableEq, Repr

inductive ProcessEvent
  | start (launch : Launch)
  | stop (requestError : Option String)
  | forceStop
  | resume (index : Nat) (deadlinePassed : Bool)
  | exits (process : Nat) (status : Int)
  | terminated (index : Nat)
deriving DecidableEq, Repr

namespace ProcessCycles

/-- `start`; the error it throws comes with the controller it leaves. -/
def start (s : ProcessCycles) (launch : Launch) : ProcessCycles × Option String :=
  if s.process.isSome then (s, some "The QEMU machine is already running.")
  else match launch with
    | .runs => ({ s with
        process := some s.launches
        expectsTermination := false
        state := .running
        launches := s.launches + 1
        running := s.launches :: s.running
        latest := some s.launches }, none)
    -- `FileHandle(forWritingTo:)` stands before the `do` whose `catch` reports a failure.
    | .logFails message =>
      ({ s with expectsTermination := false, state := .starting, latest := none }, some message)
    | .runFails message =>
      ({ s with expectsTermination := false, state := .failed message, latest := none },
        some message)

/-- `stop` up to its first sleep or its return. -/
def stop (s : ProcessCycles) (requestError : Option String) : ProcessCycles :=
  match s.process, requestError with
  | none, _ => s
  | some _, some _ => { s with expectsTermination := false, state := .running }
  | some process, none => { s with
      expectsTermination := true, state := .stopping, calls := .stop process :: s.calls }

/-- `forceStop` up to its wait for the exit. -/
def forceStop (s : ProcessCycles) : ProcessCycles :=
  match s.process with
  | none => s
  | some process => { s with
      expectsTermination := true, state := .stopping, calls := .forceStop process :: s.calls }

/-- `completeExpectedTermination(of:)`. -/
def completeExpectedTermination (s : ProcessCycles) (completed : Nat) : ProcessCycles :=
  if s.process = some completed then
    { s with process := none, expectsTermination := false, state := .stopped }
  else s

/-- `processTerminated(status:)`, which does not ask whose status it is. -/
def processTerminated (s : ProcessCycles) (status : Int) : ProcessCycles :=
  if s.process.isSome then
    { s with
      process := none
      expectsTermination := false
      state := if s.expectsTermination ∨ s.state = .stopping ∨ status = 0 then .stopped
        else .failed ("QEMU exited with status " ++ toString status ++ ".") }
  else s

/-- A suspended call goes on: `stop` looks at the process and at the clock, `forceStop` is
resumed by the exit. -/
def resume (s : ProcessCycles) (index : Nat) (deadlinePassed : Bool) : Option ProcessCycles :=
  s.calls[index]?.bind fun call =>
    let rest := { s with calls := s.calls.eraseIdx index }
    match call with
    | .stop process =>
      if process ∈ s.running then some (if deadlinePassed then rest else s)
      else some (rest.completeExpectedTermination process)
    | .forceStop process =>
      if process ∈ s.running then none
      else some (rest.completeExpectedTermination process)

def step (s : ProcessCycles) : ProcessEvent → Option ProcessCycles
  | .start launch => some (s.start launch).1
  | .stop requestError => some (s.stop requestError)
  | .forceStop => some s.forceStop
  | .resume index deadlinePassed => s.resume index deadlinePassed
  | .exits process status =>
    if process ∈ s.running then
      some { s with
        running := s.running.erase process
        handlers := ⟨process, status⟩ :: s.handlers }
    else none
  | .terminated index =>
    s.handlers[index]?.map fun task =>
      { s with handlers := s.handlers.eraseIdx index }.processTerminated task.status

/-! ## The controller without identities -/

/-- One operation of a controller that does not tell its processes apart, or none. -/
inductive Operates (c : ProcessController) : ProcessController → Prop
  | waits : Operates c c
  | start (launch : Launch) : Operates c (c.start launch).1
  | stop (requestError : Option String) : Operates c (c.stop requestError).1
  | forceStop (held : c.process = true) : Operates c c.forceStop.1
  | completes : Operates c c.completeExpectedTermination.1
  | terminated (status : Int) : Operates c (c.processTerminated status).1

/-- The controller is this one without the identities of its processes. -/
def Forgets (s : ProcessCycles) (c : ProcessController) : Prop :=
  c.process = s.process.isSome ∧ c.expectsTermination = s.expectsTermination ∧ c.state = s.state

variable {s t : ProcessCycles} {c : ProcessController} {event : ProcessEvent}

theorem start_forgets (forgets : s.Forgets c) (launch : Launch) :
    (s.start launch).1.Forgets (c.start launch).1 := by
  obtain ⟨process, expects, state⟩ := forgets
  unfold start ProcessController.start
  rw [process]
  cases held : s.process with
  | some running => simp [Forgets, held, process, expects, state]
  | none => cases launch <;> simp [Forgets]

theorem stop_forgets (forgets : s.Forgets c) (requestError : Option String) :
    (s.stop requestError).Forgets (c.stop requestError).1 := by
  obtain ⟨process, expects, state⟩ := forgets
  unfold stop ProcessController.stop
  cases held : s.process with
  | none => simp [Forgets, held, process, expects, state]
  | some running => cases requestError <;> simp [Forgets, held, process]

theorem forceStop_forgets (forgets : s.Forgets c) : ∃ d, Operates c d ∧ s.forceStop.Forgets d := by
  cases held : s.process with
  | none =>
    refine ⟨c, .waits, ?_⟩
    simpa only [forceStop, held] using forgets
  | some process =>
    have some_ : c.process = true := by rw [forgets.1, held]; rfl
    refine ⟨_, .forceStop some_, ?_⟩
    simp [Forgets, forceStop, ProcessController.forceStop, held, some_]

/-- The exit of the process that is held completes its termination, that of another one nothing. -/
theorem completeExpectedTermination_forgets (forgets : s.Forgets c) (completed : Nat) :
    ∃ d, Operates c d ∧ (s.completeExpectedTermination completed).Forgets d := by
  unfold completeExpectedTermination
  split
  · next held =>
    refine ⟨_, .completes, ?_⟩
    simp [Forgets, ProcessController.completeExpectedTermination, forgets.1, held]
  · exact ⟨c, .waits, forgets⟩

theorem processTerminated_forgets (forgets : s.Forgets c) (status : Int) :
    (s.processTerminated status).Forgets (c.processTerminated status).1 := by
  obtain ⟨process, expects, state⟩ := forgets
  unfold processTerminated ProcessController.processTerminated
  rw [process]
  cases held : s.process <;> simp [Forgets, held, process, expects, state]

theorem resume_forgets (forgets : s.Forgets c) {index : Nat} {deadlinePassed : Bool}
    (resumed : s.resume index deadlinePassed = some t) : ∃ d, Operates c d ∧ t.Forgets d := by
  obtain ⟨call, -, resumed⟩ := Option.bind_eq_some_iff.mp resumed
  have rest : Forgets { s with calls := s.calls.eraseIdx index } c := forgets
  cases call with
  | stop process =>
    dsimp only at resumed
    split at resumed
    · cases resumed
      split
      · exact ⟨c, .waits, rest⟩
      · exact ⟨c, .waits, forgets⟩
    · cases resumed
      exact completeExpectedTermination_forgets rest process
  | forceStop process =>
    dsimp only at resumed
    split at resumed
    · cases resumed
    · cases resumed
      exact completeExpectedTermination_forgets rest process

/-- A step of the cycles is an operation of the controller, or none. -/
theorem step_forgets (forgets : s.Forgets c) (taken : s.step event = some t) :
    ∃ d, Operates c d ∧ t.Forgets d := by
  cases event with
  | start launch =>
    cases taken
    exact ⟨_, .start launch, start_forgets forgets launch⟩
  | stop requestError =>
    cases taken
    exact ⟨_, .stop requestError, stop_forgets forgets requestError⟩
  | forceStop =>
    cases taken
    exact forceStop_forgets forgets
  | resume index deadlinePassed => exact resume_forgets forgets taken
  | exits process status =>
    simp only [ProcessCycles.step] at taken
    split at taken
    · cases taken
      exact ⟨c, .waits, forgets⟩
    · cases taken
  | terminated index =>
    obtain ⟨task, -, rfl⟩ := Option.map_eq_some_iff.mp taken
    have rest : Forgets { s with handlers := s.handlers.eraseIdx index } c := forgets
    exact ⟨_, .terminated task.status, processTerminated_forgets rest task.status⟩

/-- **The cycles are those of the controller**: every run of them is one of operations of the
controller that does not tell its processes apart. -/
theorem run_forgets {events : List ProcessEvent} (forgets : s.Forgets c)
    (run : Run step s events t) : ∃ d, Relation.ReflTransGen Operates c d ∧ t.Forgets d := by
  induction run generalizing c with
  | done => exact ⟨c, .refl, forgets⟩
  | next taken _ ih =>
    obtain ⟨d, operates, forgets'⟩ := step_forgets forgets taken
    obtain ⟨e, later, ends⟩ := ih forgets'
    exact ⟨e, .head operates later, ends⟩

/-! ## What the states say -/

/-- A live state comes with the process of the latest start. -/
def Labelled (s : ProcessCycles) : Prop :=
  s.state.isOver = false → s.process.isSome = true ∧ s.process = s.latest

/-- What the step has to respect: live states are those of the latest process, the callback of
an earlier process leaves a later one alone, a start that throws has failed visibly. A start
that is refused because a process is held is none: it changes nothing. -/
def Respects (s : ProcessCycles) (event : ProcessEvent) (t : ProcessCycles) : Prop :=
  t.Labelled ∧
  (∀ index task later, event = .terminated index → s.handlers[index]? = some task →
    s.process = some later → task.process ≠ later →
      t.process = s.process ∧ t.state = s.state) ∧
  (∀ launch, event = .start launch → (s.start launch).2.isSome = true →
    if s.process.isSome then t = s
    else t.process = none ∧ ∃ message, t.state = .failed message)

/-- The log file opens, and no other process is held when a termination is reported. -/
def InTurn (s : ProcessCycles) : ProcessEvent → Prop
  | .start (.logFails _) => s.process.isSome = true
  | .terminated index => ∀ task, s.handlers[index]? = some task →
      s.process = none ∨ s.process = some task.process
  | _ => True

/-- The held process is the latest one. -/
structure Held (s : ProcessCycles) : Prop where
  labelled : s.Labelled
  newest : s.process.isSome = true → s.process = s.latest

theorem Held.cleared (process : s.process = none) (ended : s.state.isOver = true) : s.Held where
  labelled live := by simp [ended] at live
  newest held := by simp [process] at held

theorem Held.kept (held : s.Held) (process : t.process = s.process) (latest : t.latest = s.latest)
    (state : t.state = s.state ∨ s.process.isSome = true) : t.Held where
  labelled live := by
    rw [process, latest]
    rcases state with same | some_
    · exact held.labelled (by simpa only [same] using live)
    · exact ⟨some_, held.newest some_⟩
  newest some_ := by
    rw [process, latest]
    exact held.newest (by simpa only [process] using some_)

theorem Held.start (held : s.Held) {launch : Launch} (allowed : s.InTurn (.start launch)) :
    (s.start launch).1.Held := by
  cases process : s.process with
  | some running =>
    have refused : s.start launch = (s, some "The QEMU machine is already running.") := by
      simp [ProcessCycles.start, process]
    simpa only [refused] using held
  | none =>
    cases launch with
    | runs =>
      simp only [ProcessCycles.start, process]
      exact ⟨fun _ => ⟨rfl, rfl⟩, fun _ => rfl⟩
    | logFails message => simp [InTurn, process] at allowed
    | runFails message =>
      simp only [ProcessCycles.start, process]
      exact Held.cleared rfl rfl

theorem Held.stop (held : s.Held) (requestError : Option String) :
    (s.stop requestError).Held := by
  unfold ProcessCycles.stop
  cases process : s.process with
  | none => simpa only using held
  | some running =>
    have some_ : s.process.isSome = true := by simp [process]
    cases requestError <;> exact held.kept process.symm rfl (.inr some_)

theorem Held.forceStop (held : s.Held) : s.forceStop.Held := by
  unfold ProcessCycles.forceStop
  cases process : s.process with
  | none => simpa only using held
  | some running => exact held.kept process.symm rfl (.inr (by simp [process]))

theorem Held.completeExpectedTermination (held : s.Held) (completed : Nat) :
    (s.completeExpectedTermination completed).Held := by
  unfold ProcessCycles.completeExpectedTermination
  split
  · exact Held.cleared rfl rfl
  · exact held

theorem Held.processTerminated (held : s.Held) (status : Int) :
    (s.processTerminated status).Held := by
  unfold ProcessCycles.processTerminated
  split
  · apply Held.cleared rfl
    dsimp only
    split <;> rfl
  · exact held

theorem Held.withCalls (held : s.Held) (calls : List ControllerCall) :
    Held { s with calls := calls } := held.kept rfl rfl (.inl rfl)

theorem Held.resume (held : s.Held) {index : Nat} {deadlinePassed : Bool}
    (resumed : s.resume index deadlinePassed = some t) : t.Held := by
  obtain ⟨call, -, resumed⟩ := Option.bind_eq_some_iff.mp resumed
  have rest := held.withCalls (s.calls.eraseIdx index)
  cases call with
  | stop process =>
    dsimp only at resumed
    split at resumed
    · cases resumed
      split
      · exact rest
      · exact held
    · cases resumed
      exact rest.completeExpectedTermination process
  | forceStop process =>
    dsimp only at resumed
    split at resumed
    · cases resumed
    · cases resumed
      exact rest.completeExpectedTermination process

theorem Held.step (held : s.Held) (allowed : s.InTurn event) (taken : s.step event = some t) :
    t.Held := by
  cases event with
  | start launch =>
    cases taken
    exact held.start allowed
  | stop requestError =>
    cases taken
    exact held.stop requestError
  | forceStop =>
    cases taken
    exact held.forceStop
  | resume index deadlinePassed => exact held.resume taken
  | exits process status =>
    simp only [ProcessCycles.step] at taken
    split at taken
    · cases taken
      exact held.kept rfl rfl (.inl rfl)
    · cases taken
  | terminated index =>
    obtain ⟨task, -, rfl⟩ := Option.map_eq_some_iff.mp taken
    have rest : Held { s with handlers := s.handlers.eraseIdx index } :=
      held.kept rfl rfl (.inl rfl)
    exact rest.processTerminated task.status

theorem respects_of_inTurn (held : s.Held) (allowed : s.InTurn event)
    (taken : s.step event = some t) : s.Respects event t := by
  refine ⟨(held.step allowed taken).labelled, ?_, ?_⟩
  · rintro index task later rfl reported held_ earlier
    rcases allowed task reported with none_ | own
    · simp [none_] at held_
    · rw [held_] at own
      exact absurd (Option.some.inj own).symm earlier
  · rintro launch rfl threw
    cases taken
    cases process : s.process with
    | some running => simp [start, process]
    | none =>
      cases launch with
      | runs => simp [start, process] at threw
      | logFails message => simp [InTurn, process] at allowed
      | runFails message => simp [start, process]

theorem inTurn_of_respects (taken : s.step event = some t) (respects : s.Respects event t) :
    s.InTurn event := by
  obtain ⟨-, spared, failed⟩ := respects
  cases event with
  | start launch =>
    cases launch with
    | logFails message =>
      cases taken
      cases process : s.process with
      | some running => simp [InTurn, process]
      | none =>
        have visible := failed _ rfl (by simp [start, process])
        simp [start, process] at visible
    | _ => trivial
  | terminated index =>
    intro task reported
    cases process : s.process with
    | none => exact .inl rfl
    | some later =>
      refine .inr ?_
      by_cases earlier : task.process = later
      · rw [earlier]
      · have kept := (spared index task later rfl reported process earlier).1
        simp only [step, reported, Option.map_some, Option.some.injEq] at taken
        subst taken
        simp [processTerminated, process] at kept
  | _ => trivial

/-- A new controller. -/
def created : ProcessCycles := {}

/-- The controller keeps its labels in exactly the runs in which every launch can open its log
and every termination is reported before the next process is launched. -/
theorem cycles_respected_iff (events : List ProcessEvent) :
    Along step Respects created events ↔ Meets step InTurn created events := by
  apply along_iff_meets (I := Held)
  · intro s event t held allowed taken
    exact held.step allowed taken
  · intro s event t held allowed taken
    exact respects_of_inTurn held allowed taken
  · intro s event t _ taken respects
    exact inTurn_of_respects taken respects
  · exact Held.cleared rfl rfl

/-- `stop` sees the exit first, the machine is started again, and then the handler of the first
process drops the second. -/
theorem late_handler_drops_process :
    ¬ ∀ events, Along step Respects created events := by
  intro always
  have along := always [.start .runs, .stop none, .exits 0 0, .resume 0 false, .start .runs,
    .terminated 0]
  have last := ((((((along _ rfl).2 _ rfl).2 _ rfl).2 _ rfl).2 _ rfl).2 _ rfl).1
  have spared := last.2.1 0 ⟨0, 0⟩ 1 rfl rfl rfl (by decide)
  revert spared
  decide

end ProcessCycles

end SimpleVM.QEMU
