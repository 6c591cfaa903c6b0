import SimpleVM.QEMU.Resumption
import SimpleVM.Transition.Run

/-!
# A force stop is final

`forceStop` awaits the controllers the runtime holds, but the calls it overtakes go on when
they are resumed: a start launches what it was about to launch, and its end, a refused
shutdown request or a late failure report moves the runtime out of `.stopped` again. In a
run without such leftovers a force stop is final.
-/
namespace SimpleVM.QEMU

open Domain Transition

/-- The start has no process controller yet. -/
def StartStage.isEarly : StartStage → Bool
  | .allocatingPort | .startingTPM | .awaitingTPM => true
  | .startingProcess | .processStarted | .processFailed _ | .connecting => false

namespace Activity

def isEarly : Activity → Bool
  | .start stage => stage.isEarly
  | _ => false

/-- The launch of the process is still to come. -/
def isPending : Activity → Bool
  | .start .startingProcess => true
  | .start stage => stage.isEarly
  | _ => false

/-- A start or its catch block; a shutdown that ends in `.stopped` is a force stop. -/
def belongsToStart : Activity → Bool
  | .shutdown .stopped _ => false
  | .start _ | .shutdown .. => true
  | _ => false

def isExit : Activity → Bool
  | .exit .. => true
  | _ => false

/-- The process controller has taken up a request, which it does after the launch. -/
def isTakenUp : Activity → Bool
  | .shutdown _ (.killQueued _) => false
  | .shutdown .. => true
  | .stop (.stopWaiting _) | .stop (.answered _) | .stop (.stoppingTPM _) => true
  | .exit .. => true
  | _ => false

/-- The process is over. -/
def isOver : Activity → Bool
  | .shutdown _ (.killed _) | .shutdown _ (.stoppingTPM _) => true
  | .stop (.answered .stopped) | .stop (.stoppingTPM _) => true
  | .exit .. => true
  | _ => false

/-- The process controller the request waits at. -/
def queuedAt : Activity → Option Nat
  | .shutdown _ (.killQueued c) | .stop (.stopQueued c) => some c
  | _ => none

/-- The process controller an activity waits for. -/
def controller? : Activity → Option Nat
  | .shutdown _ (.killQueued c) | .shutdown _ (.killWaiting c) | .shutdown _ (.killed c) => some c
  | .stop (.stopQueued c) | .stop (.stopWaiting c) => some c
  | _ => none

/-- The TPM controller an activity waits for. -/
def tpm? : Activity → Option Nat
  | .shutdown _ (.stoppingTPM t) | .stop (.stoppingTPM t) => some t
  | _ => none

/-- An activity that may be left when a force stop returns. -/
def isHarmless : Activity → Bool
  | .shutdown .stopped _ => true
  | .stop (.answered (.requestFailed _)) => false
  | .stop _ => true
  | .exit .stopped none => true
  | _ => false

theorem isEarly_of_isPending {a : Activity} (settled : a.isPending = false) :
    a.isEarly = false := by
  cases a with
  | start stage => cases stage <;> simp_all [isPending, isEarly, StartStage.isEarly]
  | _ => rfl

theorem isTakenUp_of_isOver {a : Activity} (ceased : a.isOver = true) :
    a.isTakenUp = true := by
  cases a with
  | start stage => cases ceased
  | shutdown outcome stage => cases stage <;> first | rfl | cases ceased
  | stop stage => cases stage <;> first | rfl | cases ceased
  | exit outcome tpm => rfl

theorem isPending_cases {a : Activity} (pending : a.isPending = true) :
    a.isEarly = true ∨ a = .start .startingProcess := by
  cases a with
  | start stage => cases stage <;> simp_all [isPending, isEarly, StartStage.isEarly]
  | _ => simp [isPending] at pending

end Activity

/-- What must be over when a force stop returns: the start it stops, refused shutdown requests,
reports of a failure, and the task that stops a TPM after the exit of the process. -/
structure NothingLeft (s : Runtime) : Prop where
  starts : ∀ call ∈ s.calls, call.generation = s.runtimeGeneration →
    call.activity.belongsToStart = false
  requests : ∀ call ∈ s.calls, call.generation = s.runtimeGeneration →
    ∀ message, call.activity ≠ .stop (.answered (.requestFailed message))
  reports : ∀ message, (s.runtimeGeneration, ProcessState.failed message) ∉ s.callbacks
  exits : ∀ call ∈ s.calls, call.generation = s.runtimeGeneration →
    ∀ outcome tpm, call.activity = .exit outcome tpm → outcome = .stopped
  tpms : ∀ call ∈ s.calls, ∀ outcome t, call.activity = .exit outcome (some t) →
    s.tpms t = false

/-- A resumed call belongs to the latest start, no request overtakes the launch at its process
controller, and a force stop returns with nothing left. -/
def Orderly (s : Runtime) (e : Event) : Prop :=
  (∀ index reply call, e = .resume index reply → s.calls[index]? = some call →
    (call.activity.isExit = false → call.generation = s.runtimeGeneration) ∧
    ∀ c, call.activity.queuedAt = some c →
      ∀ other ∈ s.calls, other.activity.isPending = true → other.generation ≠ c) ∧
  (s.forceStopReturns e = true → NothingLeft s)

namespace Runtime

/-- No process runs and the runtime is not taken for a running or a failed one. -/
def IsOff (s : Runtime) : Prop :=
  (∀ c, (s.controllers c).isRunning = false) ∧ (∀ t, s.tpms t = false) ∧
    s.state ≠ .running ∧ ∀ message, s.state ≠ .failed message

/-- No launch is to come. -/
def NoPending (s : Runtime) : Prop := ∀ call ∈ s.calls, call.activity.isPending = false

def NoEarly (s : Runtime) : Prop := ∀ call ∈ s.calls, call.activity.isEarly = false

/-- What holds of fields, controllers and suspended calls in an orderly run. The activities of
the latest start are those of the current generation. -/
structure Core (s : Runtime) : Prop where
  held : ∀ c, s.processController = some c → c = s.runtimeGeneration
  heldTPM : ∀ t, s.softwareTPMController = some t →
    t = s.runtimeGeneration ∧ s.processController = some s.runtimeGeneration
  process : ∀ c, (s.controllers c).process = true → s.processController = some c
  running : ∀ c, (s.controllers c).isRunning = true → (s.controllers c).process = true
  known : ∀ call ∈ s.calls, call.generation ≤ s.runtimeGeneration
  knownReports : ∀ report ∈ s.callbacks, report.1 ≤ s.runtimeGeneration
  pending : ∀ call ∈ s.calls, call.activity.isPending = true →
    call.generation = s.runtimeGeneration
  early : ∀ call ∈ s.calls, call.activity.isEarly = true →
    s.state = .starting ∧ s.processController = none
  launching : ∀ call ∈ s.calls, call.activity = .start .startingProcess →
    s.processController = some s.runtimeGeneration ∧
      (s.controllers s.runtimeGeneration).process = false
  single : s.calls.Pairwise fun a b => ¬ (a.activity.isPending = true ∧ b.activity.isPending = true)
  settled : ∀ call ∈ s.calls, call.generation = s.runtimeGeneration →
    call.activity.isPending = false → s.NoEarly
  takenUp : ∀ call ∈ s.calls, call.generation = s.runtimeGeneration →
    call.activity.isTakenUp = true → s.NoPending
  ceased : ∀ call ∈ s.calls, call.generation = s.runtimeGeneration →
    call.activity.isOver = true → (s.controllers s.runtimeGeneration).process = false
  controllerOf : ∀ call ∈ s.calls, call.generation = s.runtimeGeneration →
    ∀ c, call.activity.controller? = some c → c = s.runtimeGeneration
  tpmOf : ∀ call ∈ s.calls, call.generation = s.runtimeGeneration →
    ∀ t, call.activity.tpm? = some t → t = s.runtimeGeneration
  exits : ∀ call ∈ s.calls, call.generation = s.runtimeGeneration →
    call.activity.isExit = true → s.softwareTPMController = none
  reported : ∀ report ∈ s.callbacks, report.1 = s.runtimeGeneration → report.2.isOver = true →
    s.NoPending ∧ (s.controllers s.runtimeGeneration).process = false
  stopped : s.state.canStart = true → s.NoPending ∧ s.processController = none

/-- The TPM controller is the runtime's, a start's that waits for it, or an exit task's that
stops it. -/
def HoldsTPM (s : Runtime) (t : Nat) : Prop :=
  s.softwareTPMController = some t ∨ ⟨t, .start .awaitingTPM⟩ ∈ s.calls ∨
    ∃ g outcome, ⟨g, .exit outcome (some t)⟩ ∈ s.calls

/-- No TPM process is forgotten. -/
def TPMsKnown (s : Runtime) : Prop := ∀ t, s.tpms t = true → s.HoldsTPM t

theorem NoPending.noEarly {s : Runtime} (noPending : s.NoPending) : s.NoEarly :=
  fun call member => Activity.isEarly_of_isPending (noPending call member)

namespace Core

variable {s : Runtime}

/-- Forgetting some calls. -/
theorem mono {calls : List Call} (core : Core s) (fewer : ∀ call ∈ calls, call ∈ s.calls)
    (single : calls.Pairwise fun a b => ¬ (a.activity.isPending = true ∧ b.activity.isPending = true)) :
    Core { s with calls := calls } where
  held := core.held
  heldTPM := core.heldTPM
  process := core.process
  running := core.running
  known call member := core.known call (fewer call member)
  knownReports := core.knownReports
  pending call member := core.pending call (fewer call member)
  early call member := core.early call (fewer call member)
  launching call member := core.launching call (fewer call member)
  single := single
  settled call member here apart other later :=
    core.settled call (fewer call member) here apart other (fewer other later)
  takenUp call member here taken other later :=
    core.takenUp call (fewer call member) here taken other (fewer other later)
  ceased call member := core.ceased call (fewer call member)
  controllerOf call member := core.controllerOf call (fewer call member)
  tpmOf call member := core.tpmOf call (fewer call member)
  exits call member := core.exits call (fewer call member)
  reported report member here ceased :=
    ⟨fun other later => (core.reported report member here ceased).1 other (fewer other later),
      (core.reported report member here ceased).2⟩
  stopped ended := ⟨fun other later => (core.stopped ended).1 other (fewer other later),
    (core.stopped ended).2⟩

/-- Without the call in hand. -/
theorem tail {g : Nat} {a : Activity} (core : Core (s.push g a)) : Core s :=
  core.mono (fun _ member => List.mem_cons_of_mem _ member) (List.pairwise_cons.mp core.single).2

/-- A call taken out of the list is in hand. -/
theorem takeOut {index : Nat} {call : Call} (core : Core s)
    (found : s.calls[index]? = some call) :
    Core ({ s with calls := s.calls.eraseIdx index }.push call.generation call.activity) := by
  obtain ⟨apart, rest⟩ := pairwise_takeOut (fun _ _ differ both => differ ⟨both.2, both.1⟩)
    found core.single
  refine core.mono (fun other member => ?_) (List.pairwise_cons.mpr ⟨apart, rest⟩)
  rcases List.mem_cons.mp member with rfl | later
  · exact List.mem_of_getElem? found
  · exact mem_of_mem_eraseIdx later

theorem noPending_of_process (core : Core s)
    (process : (s.controllers s.runtimeGeneration).process = true) : s.NoPending := by
  intro call member
  cases pending : call.activity.isPending with
  | false => rfl
  | true =>
    rcases Activity.isPending_cases pending with early | launching
    · have empty := (core.early call member early).2
      rw [core.process _ process] at empty
      cases empty
    · have idle := (core.launching call member launching).2
      rw [process] at idle
      cases idle

/-- A runtime that holds no process controller and has none to come has no process. -/
theorem ended_of_none (core : Core s) (empty : s.processController = none) (later : s.NoEarly) :
    s.NoPending ∧ (s.controllers s.runtimeGeneration).process = false := by
  constructor
  · intro call member
    cases pending : call.activity.isPending with
    | false => rfl
    | true =>
      rcases Activity.isPending_cases pending with early | launching
      · rw [later call member] at early
        cases early
      · have held := (core.launching call member launching).1
        rw [empty] at held
        cases held
  · cases process : (s.controllers s.runtimeGeneration).process with
    | false => rfl
    | true =>
      have held := core.process _ process
      rw [empty] at held
      cases held

theorem tpm_none (core : Core s) (empty : s.processController = none) :
    s.softwareTPMController = none := by
  cases held : s.softwareTPMController with
  | none => rfl
  | some t =>
    have both := (core.heldTPM t held).2
    rw [empty] at both
    cases both

theorem process_false (core : Core s)
    (ceased : (s.controllers s.runtimeGeneration).process = false) (c : Nat) :
    (s.controllers c).process = false := by
  cases process : (s.controllers c).process with
  | false => rfl
  | true =>
    have here := core.held c (core.process c process)
    rw [here, ceased] at process
    cases process

theorem finish (core : Core s) (outcome : MachineRuntimeState) (noPending : s.NoPending)
    (ceased : (s.controllers s.runtimeGeneration).process = false) : Core (s.finish outcome) where
  held _ held := by cases held
  heldTPM _ held := by cases held
  process c process := by
    rw [show ((s.finish outcome).controllers c).process = (s.controllers c).process from rfl,
      core.process_false ceased c] at process
    cases process
  running := core.running
  known := core.known
  knownReports := core.knownReports
  pending := core.pending
  early call member early := by
    have settled := Activity.isEarly_of_isPending (noPending call member)
    rw [settled] at early
    cases early
  launching call member launching := by
    have settled := noPending call member
    rw [launching] at settled
    cases settled
  single := core.single
  settled := core.settled
  takenUp := core.takenUp
  ceased := core.ceased
  controllerOf := core.controllerOf
  tpmOf := core.tpmOf
  exits _ _ _ _ := rfl
  reported := core.reported
  stopped _ := ⟨noPending, rfl⟩

/-- Suspending at a stage that has no launch to come. -/
theorem push (core : Core s) {g : Nat} {a : Activity} (known : g ≤ s.runtimeGeneration)
    (settled : a.isPending = false)
    (facts : g = s.runtimeGeneration → s.NoEarly ∧ (a.isTakenUp = true → s.NoPending) ∧
      (a.isOver = true → (s.controllers s.runtimeGeneration).process = false) ∧
      (∀ c, a.controller? = some c → c = s.runtimeGeneration) ∧
      (∀ t, a.tpm? = some t → t = s.runtimeGeneration) ∧
      (a.isExit = true → s.softwareTPMController = none)) : Core (s.push g a) where
  held := core.held
  heldTPM := core.heldTPM
  process := core.process
  running := core.running
  known call member := by
    rcases List.mem_cons.mp member with rfl | later
    · exact known
    · exact core.known call later
  knownReports := core.knownReports
  pending call member pending := by
    rcases List.mem_cons.mp member with rfl | later
    · exact absurd pending (by simp [settled])
    · exact core.pending call later pending
  early call member early := by
    rcases List.mem_cons.mp member with rfl | later
    · exact absurd early (by simp [Activity.isEarly_of_isPending settled])
    · exact core.early call later early
  launching call member launching := by
    rcases List.mem_cons.mp member with rfl | later
    · subst launching
      cases settled
    · exact core.launching call later launching
  single := List.pairwise_cons.mpr ⟨fun _ _ both => by simp [settled] at both, core.single⟩
  settled call member here apart other later := by
    have tail (third : Call) (inside : third ∈ s.calls) : third.activity.isEarly = false := by
      rcases List.mem_cons.mp member with rfl | before
      · exact (facts here).1 third inside
      · exact core.settled call before here apart third inside
    rcases List.mem_cons.mp later with rfl | later
    · exact Activity.isEarly_of_isPending settled
    · exact tail other later
  takenUp call member here taken other later := by
    have tail (third : Call) (inside : third ∈ s.calls) : third.activity.isPending = false := by
      rcases List.mem_cons.mp member with rfl | before
      · exact (facts here).2.1 taken third inside
      · exact core.takenUp call before here taken third inside
    rcases List.mem_cons.mp later with rfl | later
    · exact settled
    · exact tail other later
  ceased call member here ceased := by
    rcases List.mem_cons.mp member with rfl | later
    · exact (facts here).2.2.1 ceased
    · exact core.ceased call later here ceased
  controllerOf call member here := by
    rcases List.mem_cons.mp member with rfl | later
    · exact (facts here).2.2.2.1
    · exact core.controllerOf call later here
  tpmOf call member here := by
    rcases List.mem_cons.mp member with rfl | later
    · exact (facts here).2.2.2.2.1
    · exact core.tpmOf call later here
  exits call member here := by
    rcases List.mem_cons.mp member with rfl | later
    · exact (facts here).2.2.2.2.2
    · exact core.exits call later here
  reported report member here ceased := by
    refine ⟨fun other later => ?_, (core.reported report member here ceased).2⟩
    rcases List.mem_cons.mp later with rfl | later
    · exact settled
    · exact (core.reported report member here ceased).1 other later
  stopped ended := by
    refine ⟨fun other later => ?_, (core.stopped ended).2⟩
    rcases List.mem_cons.mp later with rfl | later
    · exact settled
    · exact (core.stopped ended).1 other later

/-- What has to hold around a start whose launch is still to come. -/
structure Undecided (s : Runtime) : Prop where
  noPending : s.NoPending
  calls : ∀ call ∈ s.calls, call.generation = s.runtimeGeneration → call.activity.isTakenUp = false
  reports : ∀ report ∈ s.callbacks, report.1 = s.runtimeGeneration → report.2.isOver = false
  state : s.state.canStart = false

theorem undecided {g : Nat} {a : Activity} (core : Core (s.push g a)) (pending : a.isPending = true) :
    Undecided s := by
  have here : g = s.runtimeGeneration := core.pending ⟨g, a⟩ List.mem_cons_self pending
  have still : ¬ (s.push g a).NoPending := fun noPending =>
    absurd pending (by simp [noPending ⟨g, a⟩ List.mem_cons_self])
  refine ⟨fun other member => ?_, fun call member here => ?_, fun report member here => ?_, ?_⟩
  · have apart := (List.pairwise_cons.mp core.single).1 other member
    cases later : other.activity.isPending with
    | false => rfl
    | true => exact absurd ⟨pending, later⟩ apart
  · cases taken : call.activity.isTakenUp with
    | false => rfl
    | true => exact absurd (core.takenUp call (List.mem_cons_of_mem _ member) here taken) still
  · cases ceased : report.2.isOver with
    | false => rfl
    | true => exact absurd (core.reported report member here ceased).1 still
  · cases ended : s.state.canStart with
    | false => rfl
    | true => exact absurd (core.stopped ended).1 still

private theorem pending_facts {a : Activity} (pending : a.isPending = true) :
    a.isTakenUp = false ∧ a.isOver = false ∧ a.controller? = none ∧ a.tpm? = none ∧
      a.isExit = false := by
  cases a with
  | start stage => exact ⟨rfl, rfl, rfl, rfl, rfl⟩
  | _ => simp [Activity.isPending] at pending

/-- Suspending a start whose launch is still to come. -/
theorem pushPending (core : Core s) {a : Activity} (pending : a.isPending = true)
    (undecided : Undecided s)
    (early : a.isEarly = true → s.state = .starting ∧ s.processController = none ∧
      ∀ call ∈ s.calls, call.generation ≠ s.runtimeGeneration)
    (launching : a = .start .startingProcess →
      s.processController = some s.runtimeGeneration ∧
        (s.controllers s.runtimeGeneration).process = false) :
    Core (s.push s.runtimeGeneration a) := by
  obtain ⟨untaken, notOver, noController, noTPM, noExit⟩ := pending_facts pending
  have contra {call : Call} (member : call ∈ s.calls) (here : call.generation = s.runtimeGeneration)
      (taken : call.activity.isTakenUp = true) : False := by
    rw [undecided.calls call member here] at taken
    cases taken
  exact {
    held := core.held
    heldTPM := core.heldTPM
    process := core.process
    running := core.running
    known := fun call member => by
      rcases List.mem_cons.mp member with rfl | later
      · exact Nat.le_refl _
      · exact core.known call later
    knownReports := core.knownReports
    pending := fun call member pending => by
      rcases List.mem_cons.mp member with rfl | later
      · rfl
      · exact core.pending call later pending
    early := fun call member isEarly => by
      rcases List.mem_cons.mp member with rfl | later
      · exact ⟨(early isEarly).1, (early isEarly).2.1⟩
      · exact core.early call later isEarly
    launching := fun call member isLaunching => by
      rcases List.mem_cons.mp member with rfl | later
      · exact launching isLaunching
      · exact core.launching call later isLaunching
    single := List.pairwise_cons.mpr
      ⟨fun other member both => by simp [undecided.noPending other member] at both, core.single⟩
    settled := fun call member here apart other later => by
      rcases List.mem_cons.mp member with rfl | before
      · rw [pending] at apart
        cases apart
      · rcases List.mem_cons.mp later with rfl | later
        · cases isEarly : a.isEarly with
          | false => rfl
          | true => exact absurd here ((early isEarly).2.2 call before)
        · exact core.settled call before here apart other later
    takenUp := fun call member here taken => by
      rcases List.mem_cons.mp member with rfl | before
      · rw [untaken] at taken
        cases taken
      · exact (contra before here taken).elim
    ceased := fun call member here ceased => by
      rcases List.mem_cons.mp member with rfl | before
      · rw [notOver] at ceased
        cases ceased
      · exact core.ceased call before here ceased
    controllerOf := fun call member here c waits => by
      rcases List.mem_cons.mp member with rfl | before
      · rw [noController] at waits
        cases waits
      · exact core.controllerOf call before here c waits
    tpmOf := fun call member here t waits => by
      rcases List.mem_cons.mp member with rfl | before
      · rw [noTPM] at waits
        cases waits
      · exact core.tpmOf call before here t waits
    exits := fun call member here isExit => by
      rcases List.mem_cons.mp member with rfl | before
      · rw [noExit] at isExit
        cases isExit
      · exact core.exits call before here isExit
    reported := fun report member here ceased => by
      rw [undecided.reports report member here] at ceased
      cases ceased
    stopped := fun ended => by
      have active : (s.push s.runtimeGeneration a).state.canStart = false := undecided.state
      rw [active] at ended
      cases ended }

/-- A request at a process controller, other than the launch: a process only goes away, and
whatever is reported, there was one. -/
theorem setController (core : Core s) (c : Nat) (controller : ProcessController)
    (reports : List ProcessState)
    (process : controller.process = true → (s.controllers c).process = true)
    (running : controller.isRunning = true → controller.process = true)
    (reported : ∀ report ∈ reports, (s.controllers c).process = true ∧
      (report.isOver = true → controller.process = false)) :
    Core (s.setController c controller reports) := by
  have processes (other : Nat) :
      ((s.setController c controller reports).controllers other).process = true →
        (s.controllers other).process = true := by
    intro here
    by_cases same : other = c
    · subst same
      exact process (by simpa [Runtime.setController] using here)
    · simpa [Runtime.setController, same] using here
  have keeps (other : Nat) (ceased : (s.controllers other).process = false) :
      ((s.setController c controller reports).controllers other).process = false := by
    cases here : ((s.setController c controller reports).controllers other).process with
    | false => rfl
    | true =>
      rw [processes other here] at ceased
      cases ceased
  have reportedBefore (report : Nat × ProcessState)
      (member : report ∈ (s.setController c controller reports).callbacks) :
      report ∈ s.callbacks ∨ ∃ state ∈ reports, report = (c, state) := by
    simp only [Runtime.setController, List.mem_append, List.mem_map] at member
    rcases member with before | ⟨state, member, rfl⟩
    · exact .inl before
    · exact .inr ⟨state, member, rfl⟩
  have here (state : ProcessState) (member : state ∈ reports) : c = s.runtimeGeneration :=
    core.held c (core.process c (reported state member).1)
  exact {
    held := core.held
    heldTPM := core.heldTPM
    process := fun other isSet => core.process other (processes other isSet)
    running := fun other isRunning => by
      by_cases same : other = c
      · subst same
        simp only [Runtime.setController, if_true] at isRunning ⊢
        exact running isRunning
      · simp only [Runtime.setController, if_neg same] at isRunning ⊢
        exact core.running other isRunning
    known := core.known
    knownReports := fun report member => by
      rcases reportedBefore report member with before | ⟨state, fresh, rfl⟩
      · exact core.knownReports report before
      · exact Nat.le_of_eq (here state fresh)
    pending := core.pending
    early := core.early
    launching := fun call member launching =>
      ⟨(core.launching call member launching).1, keeps _ (core.launching call member launching).2⟩
    single := core.single
    settled := core.settled
    takenUp := core.takenUp
    ceased := fun call member current ceased => keeps _ (core.ceased call member current ceased)
    controllerOf := core.controllerOf
    tpmOf := core.tpmOf
    exits := core.exits
    reported := fun report member current ceased => by
      rcases reportedBefore report member with before | ⟨state, fresh, rfl⟩
      · exact ⟨(core.reported report before current ceased).1,
          keeps _ (core.reported report before current ceased).2⟩
      · have same := here state fresh
        subst same
        refine ⟨core.noPending_of_process (reported state fresh).1, ?_⟩
        simpa [Runtime.setController] using (reported state fresh).2 ceased
    stopped := core.stopped }

/-- The launch, successful or not, of the process controller the runtime holds. -/
theorem launch (core : Core s) (undecided : Undecided s)
    (held : s.processController = some s.runtimeGeneration) {controller : ProcessController}
    {reports : List ProcessState}
    (running : controller.isRunning = true → controller.process = true)
    (reported : ∀ report ∈ reports, report.isOver = true → controller.process = false) :
    Core (s.setController s.runtimeGeneration controller reports) := by
  have contra {call : Call} (member : call ∈ s.calls) (here : call.generation = s.runtimeGeneration)
      (ceased : call.activity.isOver = true) : False := by
    have taken := Activity.isTakenUp_of_isOver ceased
    rw [undecided.calls call member here] at taken
    cases taken
  exact {
    held := core.held
    heldTPM := core.heldTPM
    process := fun c isSet => by
      by_cases same : c = s.runtimeGeneration
      · rw [same]
        exact held
      · simp only [Runtime.setController, if_neg same] at isSet
        exact core.process c isSet
    running := fun c isRunning => by
      by_cases same : c = s.runtimeGeneration
      · simp only [Runtime.setController, if_pos same] at isRunning ⊢
        exact running isRunning
      · simp only [Runtime.setController, if_neg same] at isRunning ⊢
        exact core.running c isRunning
    known := core.known
    knownReports := fun report member => by
      simp only [Runtime.setController, List.mem_append, List.mem_map] at member
      rcases member with before | ⟨state, _, rfl⟩
      · exact core.knownReports report before
      · exact Nat.le_refl _
    pending := core.pending
    early := core.early
    launching := fun call member launching => by
      have settled := undecided.noPending call member
      rw [launching] at settled
      cases settled
    single := core.single
    settled := core.settled
    takenUp := core.takenUp
    ceased := fun call member here ceased => (contra member here ceased).elim
    controllerOf := core.controllerOf
    tpmOf := core.tpmOf
    exits := core.exits
    reported := fun report member here ceased => by
      simp only [Runtime.setController, List.mem_append, List.mem_map] at member
      rcases member with before | ⟨state, fresh, rfl⟩
      · rw [undecided.reports report before here] at ceased
        cases ceased
      · refine ⟨undecided.noPending, ?_⟩
        simpa only [Runtime.setController, if_true] using reported state fresh ceased
    stopped := fun ended => by
      have active : (s.setController s.runtimeGeneration controller reports).state.canStart =
        false := undecided.state
      rw [active] at ended
      cases ended }

theorem withState (core : Core s) (noEarly : s.NoEarly) {state : MachineRuntimeState}
    (active : state.canStart = false) : Core { s with state := state } :=
  { core with
    early := fun call member early => by
      rw [noEarly call member] at early
      cases early
    stopped := fun ended => by
      have active : ({ s with state := state } : Runtime).state.canStart = false := active
      rw [active] at ended
      cases ended }

/-- The call waits for the software TPM, with its process gone. -/
theorem pushTPM (core : Core s) {a : Activity} {t : Nat} (settled : a.isPending = false)
    (noPending : s.NoPending) (ceased : (s.controllers s.runtimeGeneration).process = false)
    (held : s.softwareTPMController = some t) (controller : a.controller? = none)
    (waits : a.tpm? = some t) (exit : a.isExit = false) :
    Core (s.push s.runtimeGeneration a) := by
  refine core.push (Nat.le_refl _) settled fun _ => ⟨noPending.noEarly, fun _ => noPending,
    fun _ => ceased, ?_, ?_, ?_⟩
  · intro c other
    rw [controller] at other
    cases other
  · intro t' other
    rw [waits] at other
    cases other
    exact (core.heldTPM t held).1
  · intro isExit
    rw [exit] at isExit
    cases isExit

/-- The call waits for its turn at the process controller. -/
theorem pushController (core : Core s) {a : Activity} {c : Nat} (settled : a.isPending = false)
    (noEarly : s.NoEarly) (held : s.processController = some c) (taken : a.isTakenUp = false)
    (ended : a.isOver = false) (waits : a.controller? = some c) (tpm : a.tpm? = none)
    (exit : a.isExit = false) : Core (s.push s.runtimeGeneration a) := by
  refine core.push (Nat.le_refl _) settled fun _ => ⟨noEarly, ?_, ?_, ?_, ?_, ?_⟩
  · intro other
    rw [taken] at other
    cases other
  · intro other
    rw [ended] at other
    cases other
  · intro c' other
    rw [waits] at other
    cases other
    exact core.held c held
  · intro t other
    rw [tpm] at other
    cases other
  · intro isExit
    rw [exit] at isExit
    cases isExit

theorem shutdownTPM (core : Core s) (outcome : MachineRuntimeState) (noPending : s.NoPending)
    (ceased : (s.controllers s.runtimeGeneration).process = false) :
    Core (s.shutdownTPM s.runtimeGeneration outcome) := by
  unfold Runtime.shutdownTPM
  cases held : s.softwareTPMController with
  | none => exact core.finish outcome noPending ceased
  | some t => exact core.pushTPM rfl noPending ceased held rfl rfl rfl

theorem shutdown (core : Core s) (outcome : MachineRuntimeState) (noEarly : s.NoEarly) :
    Core (s.shutdown s.runtimeGeneration outcome) := by
  unfold Runtime.shutdown
  cases held : s.processController with
  | none =>
    obtain ⟨noPending, ceased⟩ := core.ended_of_none held noEarly
    exact core.shutdownTPM outcome noPending ceased
  | some c => exact core.pushController rfl noEarly held rfl rfl rfl rfl rfl

theorem answerStop (core : Core s) (result : QEMUStopResult) (noPending : s.NoPending)
    (ceased : result = .stopped → (s.controllers s.runtimeGeneration).process = false) :
    Core (s.answerStop s.runtimeGeneration result) := by
  cases result with
  | stopped =>
    unfold Runtime.answerStop
    cases held : s.softwareTPMController with
    | none => exact core.finish .stopped noPending (ceased rfl)
    | some t => exact core.pushTPM rfl noPending (ceased rfl) held rfl rfl rfl
  | timedOut => exact core
  | requestFailed message => exact core.withState noPending.noEarly rfl

theorem stopProcess (core : Core s) (noEarly : s.NoEarly) :
    Core (s.stopProcess s.runtimeGeneration) := by
  unfold Runtime.stopProcess
  cases held : s.processController with
  | none =>
    obtain ⟨noPending, ceased⟩ := core.ended_of_none held noEarly
    exact core.answerStop .stopped noPending fun _ => ceased
  | some c => exact core.pushController rfl noEarly held rfl rfl rfl rfl rfl

theorem setTPM (core : Core s) (t : Nat) (isRunning : Bool) : Core (s.setTPM t isRunning) :=
  { core with }

/-- While a start has no controller yet nothing else happens in its generation. -/
theorem alone {g : Nat} {a : Activity} (core : Core (s.push g a)) (early : a.isEarly = true)
    (pending : a.isPending = true) : ∀ call ∈ s.calls, call.generation ≠ s.runtimeGeneration := by
  intro call member here
  have settled := core.settled call (List.mem_cons_of_mem _ member) here
    ((core.undecided pending).noPending call member) ⟨g, a⟩ List.mem_cons_self
  rw [early] at settled
  cases settled

/-- The controllers of the latest start are assigned and the launch is queued. -/
theorem startProcess (core : Core s) (undecided : Undecided s)
    (empty : s.processController = none) {tpm : Option Nat}
    (tpmOf : ∀ t, tpm = some t → t = s.runtimeGeneration) :
    Core ({ s with softwareTPMController := tpm }.startProcess s.runtimeGeneration) := by
  have idle (c : Nat) : (s.controllers c).process = false := by
    cases process : (s.controllers c).process with
    | false => rfl
    | true =>
      have held := core.process c process
      rw [empty] at held
      cases held
  have assigned : Core { s with
      softwareTPMController := tpm
      processController := some s.runtimeGeneration } :=
    { core with
      held := fun c held => (Option.some.inj held).symm
      heldTPM := fun t held => ⟨tpmOf t held, rfl⟩
      process := fun c process => by
        have idle : (s.controllers c).process = false := idle c
        rw [idle] at process
        cases process
      early := fun call member early => by
        rw [undecided.noPending.noEarly call member] at early
        cases early
      launching := fun call member launching => by
        have settled := undecided.noPending call member
        rw [launching] at settled
        cases settled
      exits := fun call member here isExit => by
        have taken := undecided.calls call member here
        cases kind : call.activity with
        | exit outcome tpm =>
          rw [kind] at taken
          cases taken
        | _ =>
          rw [kind] at isExit
          cases isExit
      stopped := fun ended => by
        have active : s.state.canStart = false := undecided.state
        rw [active] at ended
        cases ended }
  exact assigned.pushPending rfl
    ⟨undecided.noPending, undecided.calls, undecided.reports, undecided.state⟩
    (fun early => by cases early) fun _ => ⟨rfl, idle _⟩

/-- A start that has launched its process suspends again. -/
theorem pushLaunched (core : Core s) (stage : StartStage)
    (late : (Activity.start stage).isPending = false) (noEarly : s.NoEarly) :
    Core (s.push s.runtimeGeneration (.start stage)) := by
  refine core.push (Nat.le_refl _) late fun _ => ⟨noEarly, ?_, ?_, ?_, ?_, ?_⟩
  · intro taken
    cases taken
  · intro ceased
    cases ceased
  · intro c waits
    cases waits
  · intro t waits
    cases waits
  · intro isExit
    cases isExit

theorem exited_of_idle (core : Core s) {c : Nat} (idle : (s.controllers c).process = false) :
    (s.controllers c).isRunning = false := by
  cases isRunning : (s.controllers c).isRunning with
  | false => rfl
  | true =>
    have process := core.running c isRunning
    rw [idle] at process
    cases process

/-- Whatever comes of a launch, a process that runs is held, and no end of it is reported. -/
theorem launch_sound {controller launched : ProcessController} {launch : Launch}
    {reports : List ProcessState} {error : Option String} (idle : controller.process = false)
    (exited : controller.isRunning = false)
    (started : controller.start launch = (launched, reports, error)) :
    (launched.isRunning = true → launched.process = true) ∧
      ∀ report ∈ reports, report.isOver = true → launched.process = false := by
  simp only [ProcessController.start, idle, Bool.false_eq_true, if_false] at started
  cases launch with
  | runs =>
    cases started
    refine ⟨fun _ => rfl, fun report member isOver => ?_⟩
    simp only [List.mem_cons, List.not_mem_nil, or_false] at member
    rcases member with rfl | rfl <;> cases isOver
  | logFails message =>
    cases started
    exact ⟨fun isRunning => absurd isRunning (by simp [exited]), fun _ _ _ => rfl⟩
  | runFails message =>
    cases started
    exact ⟨fun isRunning => absurd isRunning (by simp [exited]), fun _ _ _ => rfl⟩

theorem resumeStart {g : Nat} {stage : StartStage} {reply : Reply} {t : Runtime}
    (core : Core (s.push g (.start stage))) (here : g = s.runtimeGeneration)
    (run : s.resumeStart g stage reply = some t) : Core t := by
  subst here
  have rest := core.tail
  have settled (late : (Activity.start stage).isPending = false) : s.NoEarly :=
    fun other member =>
      core.settled _ List.mem_cons_self rfl late other (List.mem_cons_of_mem _ member)
  cases startGoesOn run with
  | needsTPM =>
    obtain ⟨starting, empty⟩ := core.early _ List.mem_cons_self rfl
    exact rest.pushPending rfl (core.undecided rfl)
      (fun _ => ⟨starting, empty, core.alone rfl rfl⟩) (fun launching => by cases launching)
  | needsNoTPM =>
    obtain ⟨_, empty⟩ := core.early _ List.mem_cons_self rfl
    exact rest.startProcess (core.undecided rfl) empty fun t held => by
      rw [rest.tpm_none empty] at held
      cases held
  | startsTPM =>
    have undecided := core.undecided rfl
    obtain ⟨starting, empty⟩ := core.early _ List.mem_cons_self rfl
    exact (rest.setTPM _ true).pushPending rfl
      ⟨undecided.noPending, undecided.calls, undecided.reports, undecided.state⟩
      (fun _ => ⟨starting, empty, core.alone rfl rfl⟩) (fun launching => by cases launching)
  | holdsTPM =>
    obtain ⟨_, empty⟩ := core.early _ List.mem_cons_self rfl
    exact rest.startProcess (core.undecided rfl) empty fun t held => (Option.some.inj held).symm
  | launches started =>
    have undecided := core.undecided rfl
    obtain ⟨held, idle⟩ : s.processController = some s.runtimeGeneration ∧
        (s.controllers s.runtimeGeneration).process = false :=
      core.launching _ List.mem_cons_self rfl
    obtain ⟨running, reported⟩ := launch_sound idle (rest.exited_of_idle idle) started
    exact (rest.launch undecided held running reported).pushLaunched _ rfl
      undecided.noPending.noEarly
  | launchFails refused =>
    have undecided := core.undecided rfl
    obtain ⟨held, idle⟩ : s.processController = some s.runtimeGeneration ∧
        (s.controllers s.runtimeGeneration).process = false :=
      core.launching _ List.mem_cons_self rfl
    obtain ⟨running, reported⟩ := launch_sound idle (rest.exited_of_idle idle) refused
    exact (rest.launch undecided held running reported).pushLaunched _ rfl
      undecided.noPending.noEarly
  | connects => exact rest.pushLaunched _ rfl (settled rfl)
  | reportsFailure => exact rest.shutdown _ (settled rfl)
  | runs => exact rest.withState (settled rfl) rfl
  | fails =>
    -- Before the launch the start is the only one under way, afterwards nothing is early.
    cases pending : (Activity.start stage).isPending with
    | true => exact rest.shutdown _ (core.undecided pending).noPending.noEarly
    | false => exact rest.shutdown _ (settled pending)

/-- No request is taken up before the launch, so once it is, the launch is over. -/
theorem noPending_of_ordered (core : Core s)
    (ordered : ∀ other ∈ s.calls, other.activity.isPending = true →
      other.generation ≠ s.runtimeGeneration) : s.NoPending := by
  intro other member
  cases pending : other.activity.isPending with
  | false => rfl
  | true => exact absurd (core.pending other member pending) (ordered other member pending)

theorem completeExpectedTermination (core : Core s) (c : Nat)
    (exited : (s.controllers c).isRunning = false) :
    Core (s.setController c (s.controllers c).completeExpectedTermination.1
        (s.controllers c).completeExpectedTermination.2) ∧
      ((s.controllers c).completeExpectedTermination.1).process = false := by
  unfold ProcessController.completeExpectedTermination
  cases process : (s.controllers c).process with
  | true =>
    simp only [if_true, and_true]
    refine core.setController c _ _ (fun isSet => process) (fun isRunning => ?_) fun report member => ?_
    · rw [exited] at isRunning
      cases isRunning
    · exact ⟨process, fun _ => rfl⟩
  | false =>
    simp only [Bool.false_eq_true, if_false]
    exact ⟨core.setController c _ _ (fun isSet => isSet) (core.running c) fun report member =>
      absurd member List.not_mem_nil, process⟩

/-- A shutdown that is done with the process controller, or not yet. -/
theorem pushShutdown (core : Core s) {outcome : MachineRuntimeState} {stage : ShutdownStage}
    (waits : (Activity.shutdown outcome stage).controller? = some s.runtimeGeneration)
    (takenUp : (Activity.shutdown outcome stage).isTakenUp = true → s.NoPending)
    (noEarly : s.NoEarly)
    (ceased : (Activity.shutdown outcome stage).isOver = true →
      (s.controllers s.runtimeGeneration).process = false) :
    Core (s.push s.runtimeGeneration (.shutdown outcome stage)) := by
  refine core.push (Nat.le_refl _) rfl fun _ => ⟨noEarly, takenUp, ceased, ?_, ?_, ?_⟩
  · intro c isC
    exact Option.some.inj (isC.symm.trans waits)
  · intro t isT
    cases stage with
    | stoppingTPM _ => cases waits
    | _ => cases isT
  · intro isExit
    cases isExit

theorem resumeShutdown {g : Nat} {outcome : MachineRuntimeState} {stage : ShutdownStage}
    {t : Runtime} (core : Core (s.push g (.shutdown outcome stage))) (here : g = s.runtimeGeneration)
    (ordered : ∀ c, (Activity.shutdown outcome stage).queuedAt = some c →
      ∀ other ∈ s.calls, other.activity.isPending = true → other.generation ≠ c)
    (run : s.resumeShutdown g outcome stage = some t) : Core t := by
  subst here
  have rest := core.tail
  have noEarly : s.NoEarly := fun other member =>
    core.settled _ List.mem_cons_self rfl rfl other (List.mem_cons_of_mem _ member)
  have takenUp (taken : (Activity.shutdown outcome stage).isTakenUp = true) : s.NoPending :=
    fun other member =>
      core.takenUp _ List.mem_cons_self rfl taken other (List.mem_cons_of_mem _ member)
  have own (c : Nat) (waits : (Activity.shutdown outcome stage).controller? = some c) :
      c = s.runtimeGeneration := core.controllerOf _ List.mem_cons_self rfl c waits
  cases shutdownGoesOn run with
  | kills process =>
    cases own _ rfl
    have asked := rest.setController s.runtimeGeneration
      (s.controllers s.runtimeGeneration).forceStop.1
      (s.controllers s.runtimeGeneration).forceStop.2 (fun isSet => isSet) (rest.running _)
      fun report member => by
        rw [List.mem_singleton.mp member]
        exact ⟨process, fun ceased => by cases ceased⟩
    exact asked.pushShutdown rfl (fun _ => rest.noPending_of_ordered (ordered _ rfl)) noEarly
      fun ceased => by cases ceased
  | findsNone idle =>
    cases own _ rfl
    exact rest.pushShutdown rfl (fun _ => rest.noPending_of_ordered (ordered _ rfl)) noEarly
      fun _ => idle
  | killed exited =>
    cases own _ rfl
    obtain ⟨completed, ceased⟩ := rest.completeExpectedTermination s.runtimeGeneration exited
    refine completed.pushShutdown rfl (fun _ => takenUp rfl) noEarly fun _ => ?_
    simpa only [Runtime.setController, if_true] using ceased
  | releasesTPM =>
    exact rest.shutdownTPM outcome (takenUp rfl) (core.ceased _ List.mem_cons_self rfl rfl)
  | ends => exact rest.finish outcome (takenUp rfl) (core.ceased _ List.mem_cons_self rfl rfl)

/-- A `stop` that waits for the process controller, or has its answer. -/
theorem pushStop (core : Core s) {stage : StopStage}
    (waits : ∀ c, (Activity.stop stage).controller? = some c → c = s.runtimeGeneration)
    (noTPM : (Activity.stop stage).tpm? = none)
    (takenUp : (Activity.stop stage).isTakenUp = true → s.NoPending) (noEarly : s.NoEarly)
    (ceased : (Activity.stop stage).isOver = true →
      (s.controllers s.runtimeGeneration).process = false) :
    Core (s.push s.runtimeGeneration (.stop stage)) := by
  refine core.push (Nat.le_refl _) rfl fun _ => ⟨noEarly, takenUp, ceased, waits, ?_, ?_⟩
  · intro t isT
    rw [noTPM] at isT
    cases isT
  · intro isExit
    cases isExit

theorem resumeStop {g : Nat} {stage : StopStage} {reply : Reply} {t : Runtime}
    (core : Core (s.push g (.stop stage))) (here : g = s.runtimeGeneration)
    (ordered : ∀ c, (Activity.stop stage).queuedAt = some c →
      ∀ other ∈ s.calls, other.activity.isPending = true → other.generation ≠ c)
    (run : s.resumeStop g stage reply = some t) : Core t := by
  subst here
  have rest := core.tail
  have noEarly : s.NoEarly := fun other member =>
    core.settled _ List.mem_cons_self rfl rfl other (List.mem_cons_of_mem _ member)
  have takenUp (taken : (Activity.stop stage).isTakenUp = true) : s.NoPending :=
    fun other member =>
      core.takenUp _ List.mem_cons_self rfl taken other (List.mem_cons_of_mem _ member)
  have ceased (isOver : (Activity.stop stage).isOver = true) :
      (s.controllers s.runtimeGeneration).process = false :=
    core.ceased _ List.mem_cons_self rfl isOver
  have own (c : Nat) (waits : (Activity.stop stage).controller? = some c) :
      c = s.runtimeGeneration := core.controllerOf _ List.mem_cons_self rfl c waits
  cases stopGoesOn run with
  | requested => exact rest
  | refused => exact rest.stopProcess noEarly
  | findsNone idle =>
    cases own _ rfl
    refine Core.pushStop (rest.setController _ _ _ (fun isSet => isSet) (rest.running _)
      fun report member => absurd member List.not_mem_nil) (fun c waits => by cases waits) rfl
      (fun _ => rest.noPending_of_ordered (ordered _ rfl)) noEarly fun _ => ?_
    simpa only [Runtime.setController, if_true] using idle
  | waits process =>
    cases own _ rfl
    have asked := rest.setController s.runtimeGeneration
      { s.controllers s.runtimeGeneration with expectsTermination := true, state := .stopping }
      [.stopping] (fun _ => process) (rest.running _) fun report member => by
        rw [List.mem_singleton.mp member]
        exact ⟨process, fun ceased => by cases ceased⟩
    exact asked.pushStop (fun c waits => (Option.some.inj waits).symm) rfl
      (fun _ => rest.noPending_of_ordered (ordered _ rfl)) noEarly fun ceased => by cases ceased
  | requestFails process =>
    cases own _ rfl
    have refused := rest.setController s.runtimeGeneration
      { s.controllers s.runtimeGeneration with expectsTermination := false, state := .running }
      [.stopping, .running] (fun _ => process) (rest.running _) fun report member => by
        simp only [List.mem_cons, List.not_mem_nil, or_false] at member
        rcases member with rfl | rfl <;> exact ⟨process, fun ceased => by cases ceased⟩
    exact refused.pushStop (fun c waits => by cases waits) rfl
      (fun _ => rest.noPending_of_ordered (ordered _ rfl)) noEarly fun ceased => by cases ceased
  | exits exited =>
    cases own _ rfl
    obtain ⟨completed, ceased⟩ := rest.completeExpectedTermination s.runtimeGeneration exited
    refine completed.pushStop (fun c waits => by cases waits) rfl (fun _ => takenUp rfl)
      noEarly fun _ => ?_
    simpa only [Runtime.setController, if_true] using ceased
  | timesOut =>
    exact rest.pushStop (fun c waits => by cases waits) rfl (fun _ => takenUp rfl) noEarly
      fun ceased => by cases ceased
  | answered =>
    exact rest.answerStop _ (takenUp rfl) fun stopped => ceased (by rw [stopped]; rfl)
  | ends => exact rest.finish .stopped (takenUp rfl) (ceased rfl)

theorem resumeExit {g : Nat} {outcome : MachineRuntimeState} {tpm : Option Nat} {t : Runtime}
    (core : Core (s.push g (.exit outcome tpm))) (run : s.resumeExit g outcome tpm = some t) :
    Core t := by
  have rest := core.tail
  unfold Runtime.resumeExit at run
  split at run
  · cases run
  · cases run
    split
    · next here =>
      exact rest.finish outcome (fun other member =>
        core.takenUp _ List.mem_cons_self here rfl other (List.mem_cons_of_mem _ member))
        (core.ceased _ List.mem_cons_self here rfl)
    · exact rest

theorem start (core : Core s) (discoveryError : Option String) :
    Core (s.start discoveryError) := by
  unfold Runtime.start
  split
  · next ended =>
    obtain ⟨noPending, empty⟩ := core.stopped ended
    have fresh (call : Call) (member : call ∈ s.calls) :
        call.generation ≠ s.runtimeGeneration + 1 := by
      have known := core.known call member
      omega
    have freshReport (report : Nat × ProcessState) (member : report ∈ s.callbacks) :
        report.1 ≠ s.runtimeGeneration + 1 := by
      have known := core.knownReports report member
      omega
    have begun : Core { s with
        runtimeGeneration := s.runtimeGeneration + 1
        state := .starting } := {
      held := fun c held => by
        rw [show s.processController = some c from held] at empty
        cases empty
      heldTPM := fun t held => by
        have absent : s.softwareTPMController = none := core.tpm_none empty
        rw [show s.softwareTPMController = some t from held] at absent
        cases absent
      process := core.process
      running := core.running
      known := fun call member => Nat.le_succ_of_le (core.known call member)
      knownReports := fun report member => Nat.le_succ_of_le (core.knownReports report member)
      pending := fun call member pending => by
        rw [noPending call member] at pending
        cases pending
      early := fun call member early => by
        rw [noPending.noEarly call member] at early
        cases early
      launching := fun call member launching => by
        have settled := noPending call member
        rw [launching] at settled
        cases settled
      single := core.single
      settled := fun call member here => absurd here (fresh call member)
      takenUp := fun call member here => absurd here (fresh call member)
      ceased := fun call member here => absurd here (fresh call member)
      controllerOf := fun call member here => absurd here (fresh call member)
      tpmOf := fun call member here => absurd here (fresh call member)
      exits := fun call member here => absurd here (fresh call member)
      reported := fun report member here => absurd here (freshReport report member)
      stopped := fun ended => by cases ended }
    cases discoveryError with
    | none =>
      exact begun.pushPending rfl
        ⟨noPending, fun call member here => absurd here (fresh call member),
          fun report member here => absurd here (freshReport report member), rfl⟩
        (fun _ => ⟨rfl, empty, fresh⟩) (fun launching => by cases launching)
    | some message => exact begun.shutdown _ noPending.noEarly
  · exact core

theorem noEarly_of_state (core : Core s) (later : s.state ≠ .starting) : s.NoEarly := by
  intro call member
  cases early : call.activity.isEarly with
  | false => rfl
  | true => exact absurd (core.early call member early).1 later

theorem stop (core : Core s) (gracefulShutdown : Bool) : Core (s.stop gracefulShutdown) := by
  unfold Runtime.stop
  split
  · next active =>
    have noEarly : s.NoEarly := by
      refine core.noEarly_of_state fun starting => ?_
      rw [starting] at active
      rcases active with running | stopping
      · cases running
      · cases stopping
    have stopping : Core { s with state := .stopping } := core.withState noEarly rfl
    dsimp only
    split
    · exact stopping.pushStop (fun c waits => by cases waits) rfl (fun taken => by cases taken)
        noEarly fun ceased => by cases ceased
    · exact stopping.stopProcess noEarly
  · exact core

/-- A force stop that does not return at once finds no start without a controller. -/
theorem forceStop (core : Core s) (orderly : Orderly s .forceStop) : Core s.forceStop := by
  unfold Runtime.forceStop
  split
  · next active =>
    have noEarly : s.NoEarly := by
      intro call member
      cases early : call.activity.isEarly with
      | false => rfl
      | true =>
        have empty := (core.early call member early).2
        have returns : s.forceStopReturns .forceStop = true := by
          simp [forceStopReturns, empty, core.tpm_none empty]
        have pending : call.activity.isPending = true := by
          cases settled : call.activity.isPending with
          | true => rfl
          | false =>
            rw [Activity.isEarly_of_isPending settled] at early
            cases early
        have apart := (orderly.2 returns).starts call member (core.pending call member pending)
        cases kind : call.activity with
        | start stage =>
          rw [kind] at apart
          cases apart
        | _ =>
          rw [kind] at early
          cases early
    exact (core.withState noEarly rfl).shutdown _ noEarly
  · exact core

theorem handle (core : Core s) {index : Nat} {generation : Nat} {processState : ProcessState}
    (found : s.callbacks[index]? = some (generation, processState)) :
    Core ({ s with callbacks := s.callbacks.eraseIdx index }.handle generation processState) := by
  have fewer (report : Nat × ProcessState) (member : report ∈ s.callbacks.eraseIdx index) :
      report ∈ s.callbacks := mem_of_mem_eraseIdx member
  have rest : Core { s with callbacks := s.callbacks.eraseIdx index } :=
    { core with
      knownReports := fun report member => core.knownReports report (fewer report member)
      reported := fun report member => core.reported report (fewer report member) }
  unfold Runtime.handle
  split
  · next here =>
    have exits (outcome : MachineRuntimeState) (ceased : processState.isOver = true) :
        Core ({ s with callbacks := s.callbacks.eraseIdx index }.finishAfterProcessExit
          outcome) := by
      obtain ⟨noPending, idle⟩ := core.reported _ (List.mem_of_getElem? found) here ceased
      have released : Core { s with
          callbacks := s.callbacks.eraseIdx index
          softwareTPMController := none } :=
        { rest with
          heldTPM := fun t held => by cases held
          exits := fun _ _ _ _ => rfl }
      refine released.push (Nat.le_refl _) rfl fun _ => ⟨noPending.noEarly, fun _ => noPending,
        fun _ => idle, ?_, ?_, fun _ => rfl⟩
      · intro c waits
        cases waits
      · intro t waits
        cases waits
    cases processState with
    | stopped => exact exits .stopped rfl
    | failed message => exact exits (.failed message) rfl
    | _ => exact rest
  · exact rest

theorem processTerminated (core : Core s) (c : Nat) (status : Int)
    (exited : (s.controllers c).isRunning = false) :
    Core (s.setController c
      { ((s.controllers c).processTerminated status).1 with exitStatus := none }
      ((s.controllers c).processTerminated status).2) := by
  unfold ProcessController.processTerminated
  split
  · next process =>
    refine core.setController c _ _ (fun isSet => by cases isSet) (fun isRunning => ?_)
      fun report _ => ⟨process, fun _ => rfl⟩
    rw [show (s.controllers c).isRunning = true from isRunning] at exited
    cases exited
  · next idle =>
    exact core.setController c _ _ (fun isSet => isSet) (core.running c) fun report member =>
      absurd member List.not_mem_nil

/-- One step of an orderly run. -/
theorem step (core : Core s) {e : Event} {t : Runtime} (orderly : Orderly s e)
    (taken : s.step e = some t) : Core t := by
  cases e with
  | start discoveryError =>
    cases taken
    exact core.start discoveryError
  | stop gracefulShutdown =>
    cases taken
    exact core.stop gracefulShutdown
  | forceStop =>
    cases taken
    exact core.forceStop orderly
  | resume index reply =>
    simp only [Runtime.step] at taken
    split at taken
    · cases taken
    · next call found =>
      have inHand := core.takeOut found
      obtain ⟨current, ordered⟩ := orderly.1 index reply call rfl found
      have ordered' (c : Nat) (waits : call.activity.queuedAt = some c) (other : Call)
          (member : other ∈ s.calls.eraseIdx index) : other.activity.isPending = true →
            other.generation ≠ c := ordered c waits other (mem_of_mem_eraseIdx member)
      obtain ⟨g, activity⟩ := call
      cases activity with
      | start stage => exact inHand.resumeStart (current rfl) taken
      | shutdown outcome stage => exact inHand.resumeShutdown (current rfl) ordered' taken
      | stop stage => exact inHand.resumeStop (current rfl) ordered' taken
      | exit outcome tpm => exact inHand.resumeExit taken
  | deliver index =>
    simp only [Runtime.step] at taken
    split at taken
    · cases taken
    · next generation processState found =>
      cases taken
      exact core.handle found
  | processExits c status =>
    simp only [Runtime.step] at taken
    split at taken
    · cases taken
      exact core.setController c _ _ (fun isSet => isSet) (fun isRunning => by cases isRunning)
        fun report member => absurd member List.not_mem_nil
    · cases taken
  | processTerminated c =>
    simp only [Runtime.step] at taken
    split at taken
    · cases taken
    · cases taken
    · next status exited _ =>
      cases taken
      exact core.processTerminated c status exited
  | tpmExits t =>
    simp only [Runtime.step] at taken
    split at taken
    · cases taken
      exact core.setTPM t false
    · cases taken

end Core

namespace TPMsKnown

variable {s : Runtime}

theorem holds_of_calls {s' : Runtime} {t : Nat} (holds : s.HoldsTPM t)
    (field : s.softwareTPMController = some t → s'.HoldsTPM t)
    (calls : ∀ call ∈ s.calls, call ∈ s'.calls) : s'.HoldsTPM t := by
  rcases holds with held | awaiting | ⟨g, outcome, stopping⟩
  · exact field held
  · exact .inr (.inl (calls _ awaiting))
  · exact .inr (.inr ⟨g, outcome, calls _ stopping⟩)

theorem push (known : s.TPMsKnown) (g : Nat) (a : Activity) : (s.push g a).TPMsKnown :=
  fun t isRunning => holds_of_calls (known t isRunning) .inl
    fun _ member => List.mem_cons_of_mem _ member

/-- Clearing the runtime is harmless once the TPM it holds, if any, has stopped. -/
theorem finish (known : s.TPMsKnown) (outcome : MachineRuntimeState)
    (released : ∀ t, s.softwareTPMController = some t → s.tpms t = false) :
    (s.finish outcome).TPMsKnown := by
  intro t isRunning
  have isRunning : s.tpms t = true := isRunning
  refine holds_of_calls (known t isRunning) (fun held => ?_) fun _ member => member
  rw [released t held] at isRunning
  cases isRunning

theorem shutdownTPM (known : s.TPMsKnown) (g : Nat) (outcome : MachineRuntimeState) :
    (s.shutdownTPM g outcome).TPMsKnown := by
  unfold Runtime.shutdownTPM
  cases held : s.softwareTPMController with
  | none => exact known.finish outcome (by simp [held])
  | some t => exact known.push _ _

theorem shutdown (known : s.TPMsKnown) (g : Nat) (outcome : MachineRuntimeState) :
    (s.shutdown g outcome).TPMsKnown := by
  unfold Runtime.shutdown
  cases s.processController with
  | none => exact known.shutdownTPM _ _
  | some c => exact known.push _ _

theorem answerStop (known : s.TPMsKnown) (g : Nat) (result : QEMUStopResult) :
    (s.answerStop g result).TPMsKnown := by
  cases result with
  | stopped =>
    simp only [Runtime.answerStop]
    cases held : s.softwareTPMController with
    | none => exact known.finish .stopped (by simp [held])
    | some t => exact known.push _ _
  | timedOut => exact known
  | requestFailed message => exact known

theorem stopProcess (known : s.TPMsKnown) (g : Nat) : (s.stopProcess g).TPMsKnown := by
  unfold Runtime.stopProcess
  cases s.processController with
  | none => exact known.answerStop _ _
  | some c => exact known.push _ _

theorem takeOut {index : Nat} {call : Call} (known : s.TPMsKnown)
    (found : s.calls[index]? = some call) :
    ({ s with calls := s.calls.eraseIdx index }.push call.generation call.activity).TPMsKnown := by
  intro t isRunning
  refine holds_of_calls (known t isRunning) .inl fun other member => ?_
  obtain ⟨i, here⟩ := List.mem_iff_getElem?.mp member
  by_cases same : i = index
  · rw [same, found] at here
    cases here
    exact List.mem_cons_self
  · exact List.mem_cons_of_mem _ (List.mem_eraseIdx_iff_getElem?.mpr ⟨i, same, here⟩)

/-- A call in hand that holds no running TPM can go. -/
theorem tail {g : Nat} {a : Activity} (known : (s.push g a).TPMsKnown)
    (awaiting : a = .start .awaitingTPM → s.tpms g = false)
    (stopping : ∀ outcome t, a = .exit outcome (some t) → s.tpms t = false) : s.TPMsKnown := by
  intro t isRunning
  rcases known t isRunning with held | member | ⟨h, outcome, member⟩
  · exact .inl held
  · rcases List.mem_cons.mp member with same | later
    · cases same
      rw [awaiting rfl] at isRunning
      cases isRunning
    · exact .inr (.inl later)
  · rcases List.mem_cons.mp member with same | later
    · cases same
      rw [stopping outcome t rfl] at isRunning
      cases isRunning
    · exact .inr (.inr ⟨h, outcome, later⟩)

theorem resumeStart {g : Nat} {stage : StartStage} {reply : Reply} {s' : Runtime}
    (known : (s.push g (.start stage)).TPMsKnown) (core : Core (s.push g (.start stage)))
    (run : s.resumeStart g stage reply = some s') : s'.TPMsKnown := by
  have rest (later : stage ≠ .awaitingTPM) : s.TPMsKnown :=
    known.tail (fun awaiting => absurd (Activity.start.inj awaiting) later)
      fun outcome t isExit => by cases isExit
  cases startGoesOn run with
  | needsTPM => exact (rest (by simp)).push _ _
  | needsNoTPM => exact push (s := { s with processController := some g }) (rest (by simp)) _ _
  | startsTPM =>
    intro t isRunning
    by_cases same : t = g
    · subst same
      exact .inr (.inl List.mem_cons_self)
    · refine holds_of_calls (rest (by simp) t ?_) .inl fun _ member => List.mem_cons_of_mem _ member
      simpa [Runtime.push, Runtime.setTPM, same] using isRunning
  | holdsTPM =>
    -- The TPM the start waited for becomes the runtime's, which held none.
    intro t isRunning
    have empty := core.tpm_none (core.early _ List.mem_cons_self rfl).2
    rcases known t isRunning with held | member | ⟨h, outcome, member⟩
    · rw [held] at empty
      cases empty
    · rcases List.mem_cons.mp member with same | later
      · cases same
        exact .inl rfl
      · exact .inr (.inl (List.mem_cons_of_mem _ later))
    · rcases List.mem_cons.mp member with same | later
      · cases same
      · exact .inr (.inr ⟨h, outcome, List.mem_cons_of_mem _ later⟩)
  | launches => exact push (s := s.setController g _ _) (rest (by simp)) _ _
  | launchFails => exact push (s := s.setController g _ _) (rest (by simp)) _ _
  | connects => exact (rest (by simp)).push _ _
  | reportsFailure => exact (rest (by simp)).shutdown _ _
  | runs => exact rest (by simp)
  | fails apart unreported exited =>
    by_cases awaits : stage = .awaitingTPM
    · subst awaits
      exact (known.tail (fun _ => exited rfl) fun outcome t isExit => by cases isExit).shutdown _ _
    · exact (rest awaits).shutdown _ _

/-- The TPM a call has waited for is the one the runtime holds. -/
theorem released {g : Nat} {a : Activity} {t : Nat} (core : Core (s.push g a))
    (here : g = s.runtimeGeneration) (waited : a.tpm? = some t) (exited : s.tpms t = false)
    (t' : Nat) (held : s.softwareTPMController = some t') : s.tpms t' = false := by
  rw [(core.heldTPM t' held).1, ← core.tpmOf _ List.mem_cons_self here t waited]
  exact exited

theorem resumeShutdown {g : Nat} {outcome : MachineRuntimeState} {stage : ShutdownStage}
    {s' : Runtime} (known : (s.push g (.shutdown outcome stage)).TPMsKnown)
    (core : Core (s.push g (.shutdown outcome stage))) (here : g = s.runtimeGeneration)
    (run : s.resumeShutdown g outcome stage = some s') : s'.TPMsKnown := by
  have rest : s.TPMsKnown := known.tail (fun awaiting => by cases awaiting)
    fun _ _ isExit => by cases isExit
  cases shutdownGoesOn run with
  | kills => exact push (s := s.setController _ _ _) rest _ _
  | findsNone => exact rest.push _ _
  | killed => exact push (s := s.setController _ _ _) rest _ _
  | releasesTPM => exact rest.shutdownTPM _ _
  | ends exited => exact rest.finish outcome (released core here rfl exited)

theorem resumeStop {g : Nat} {stage : StopStage} {reply : Reply} {s' : Runtime}
    (known : (s.push g (.stop stage)).TPMsKnown) (core : Core (s.push g (.stop stage)))
    (here : g = s.runtimeGeneration) (run : s.resumeStop g stage reply = some s') :
    s'.TPMsKnown := by
  have rest : s.TPMsKnown := known.tail (fun awaiting => by cases awaiting)
    fun _ _ isExit => by cases isExit
  cases stopGoesOn run with
  | requested => exact rest
  | refused => exact rest.stopProcess _
  | findsNone => exact push (s := s.setController _ _ _) rest _ _
  | waits => exact push (s := s.setController _ _ _) rest _ _
  | requestFails => exact push (s := s.setController _ _ _) rest _ _
  | exits => exact push (s := s.setController _ _ _) rest _ _
  | timesOut => exact rest.push _ _
  | answered => exact rest.answerStop _ _
  | ends exited => exact rest.finish .stopped (released core here rfl exited)

theorem resumeExit {g : Nat} {outcome : MachineRuntimeState} {tpm : Option Nat} {s' : Runtime}
    (known : (s.push g (.exit outcome tpm)).TPMsKnown) (core : Core (s.push g (.exit outcome tpm)))
    (run : s.resumeExit g outcome tpm = some s') : s'.TPMsKnown := by
  unfold Runtime.resumeExit at run
  split at run
  · cases run
  · next stopped =>
    have rest : s.TPMsKnown := known.tail (fun awaiting => by cases awaiting) fun _ t isExit => by
      cases isExit
      exact eq_false_of_ne_true stopped
    cases run
    split
    · next here =>
      have empty : s.softwareTPMController = none := core.exits _ List.mem_cons_self here rfl
      exact rest.finish outcome (by simp [empty])
    · exact rest

theorem handle (known : s.TPMsKnown) (index generation : Nat) (processState : ProcessState) :
    ({ s with callbacks := s.callbacks.eraseIdx index }.handle generation
      processState).TPMsKnown := by
  have exits (outcome : MachineRuntimeState) : Runtime.TPMsKnown
      ({ s with callbacks := s.callbacks.eraseIdx index }.finishAfterProcessExit outcome) := by
    intro t isRunning
    refine holds_of_calls (known t isRunning) (fun held => .inr (.inr ?_))
      fun _ member => List.mem_cons_of_mem _ member
    refine ⟨s.runtimeGeneration, outcome, ?_⟩
    rw [← held]
    exact List.mem_cons_self
  unfold Runtime.handle
  split
  · cases processState with
    | stopped => exact exits .stopped
    | failed message => exact exits (.failed message)
    | _ => exact known
  · exact known

/-- One step of an orderly run. -/
theorem step (known : s.TPMsKnown) (core : Core s) {e : Event} {s' : Runtime}
    (orderly : Orderly s e) (taken : s.step e = some s') : s'.TPMsKnown := by
  cases e with
  | start discoveryError =>
    cases taken
    unfold Runtime.start
    split
    · cases discoveryError with
      | none => exact push (s := { s with
          runtimeGeneration := s.runtimeGeneration + 1, state := .starting }) known _ _
      | some message => exact shutdown (s := { s with
          runtimeGeneration := s.runtimeGeneration + 1, state := .starting }) known _ _
    · exact known
  | stop gracefulShutdown =>
    cases taken
    unfold Runtime.stop
    split
    · dsimp only
      split
      · exact push (s := { s with state := .stopping }) known _ _
      · exact stopProcess (s := { s with state := .stopping }) known _
    · exact known
  | forceStop =>
    cases taken
    unfold Runtime.forceStop
    split
    · exact shutdown (s := { s with state := .stopping }) known _ _
    · exact known
  | resume index reply =>
    simp only [Runtime.step] at taken
    split at taken
    · cases taken
    · next call found =>
      have inHand := core.takeOut found
      have knownInHand := known.takeOut found
      have current := (orderly.1 index reply call rfl found).1
      obtain ⟨g, activity⟩ := call
      cases activity with
      | start stage => exact knownInHand.resumeStart inHand taken
      | shutdown outcome stage => exact knownInHand.resumeShutdown inHand (current rfl) taken
      | stop stage => exact knownInHand.resumeStop inHand (current rfl) taken
      | exit outcome tpm => exact knownInHand.resumeExit inHand taken
  | deliver index =>
    simp only [Runtime.step] at taken
    split at taken
    · cases taken
    · cases taken
      exact known.handle _ _ _
  | processExits c status =>
    simp only [Runtime.step] at taken
    split at taken
    · cases taken
      exact known
    · cases taken
  | processTerminated c =>
    simp only [Runtime.step] at taken
    split at taken
    · cases taken
    · cases taken
    · cases taken
      exact known
  | tpmExits t =>
    simp only [Runtime.step] at taken
    split at taken
    · cases taken
      intro other isRunning
      by_cases same : other = t
      · simp [Runtime.setTPM, same] at isRunning
      · exact known other (by simpa [Runtime.setTPM, same] using isRunning)
    · cases taken

end TPMsKnown

theorem nothingLeft_push {s : Runtime} (left : NothingLeft s) (g : Nat) {a : Activity}
    (harmless : a.isHarmless = true) : NothingLeft (s.push g a) where
  starts call member here := by
    rcases List.mem_cons.mp member with rfl | later
    · revert harmless
      unfold Activity.isHarmless Activity.belongsToStart
      split <;> simp
    · exact left.starts call later here
  requests call member here message := by
    rcases List.mem_cons.mp member with rfl | later
    · intro refused
      simp only at refused
      rw [refused] at harmless
      cases harmless
    · exact left.requests call later here message
  reports := left.reports
  exits call member here outcome tpm isExit := by
    rcases List.mem_cons.mp member with rfl | later
    · simp only at isExit
      rw [isExit] at harmless
      cases outcome <;> first | rfl | cases harmless
    · exact left.exits call later here outcome tpm isExit
  tpms call member outcome t isExit := by
    rcases List.mem_cons.mp member with rfl | later
    · simp only at isExit
      rw [isExit] at harmless
      cases outcome <;> cases harmless
    · exact left.tpms call later outcome t isExit

theorem nothingLeft_mono {s : Runtime} (left : NothingLeft s) {calls : List Call}
    {callbacks : List (Nat × ProcessState)} (fewer : ∀ call ∈ calls, call ∈ s.calls)
    (fewerReports : ∀ report ∈ callbacks, report ∈ s.callbacks) :
    NothingLeft { s with calls := calls, callbacks := callbacks } where
  starts call member := left.starts call (fewer call member)
  requests call member := left.requests call (fewer call member)
  reports message member := left.reports message (fewerReports _ member)
  exits call member := left.exits call (fewer call member)
  tpms call member := left.tpms call (fewer call member)

/-- After a force stop, and until the next start: nothing is left that could start a process or
leave `.stopped`. -/
structure Stopped (s : Runtime) : Prop where
  core : Core s
  state : s.state = .stopped
  tpms : ∀ t, s.tpms t = false
  left : NothingLeft s

namespace Stopped

variable {s : Runtime}

theorem empty (off : Stopped s) : s.processController = none :=
  (off.core.stopped (by rw [off.state]; rfl)).2

theorem idle (off : Stopped s) (c : Nat) : (s.controllers c).process = false := by
  cases process : (s.controllers c).process with
  | false => rfl
  | true =>
    have held := off.core.process c process
    rw [off.empty] at held
    cases held

/-- The part of `Stopped` that is not about an orderly run. -/
structure Kept (s : Runtime) : Prop where
  state : s.state = .stopped
  tpms : ∀ t, s.tpms t = false
  left : NothingLeft s

theorem kept (off : Stopped s) : Kept s := ⟨off.state, off.tpms, off.left⟩

namespace Kept

theorem push (kept : Kept s) (g : Nat) {a : Activity} (harmless : a.isHarmless = true) :
    Kept (s.push g a) :=
  ⟨kept.state, kept.tpms, nothingLeft_push kept.left g harmless⟩

theorem finish (kept : Kept s) : Kept (s.finish .stopped) :=
  ⟨rfl, kept.tpms, kept.left.starts, kept.left.requests, kept.left.reports, kept.left.exits,
    kept.left.tpms⟩

theorem setController (kept : Kept s) (c : Nat) (controller : ProcessController) :
    Kept (s.setController c controller []) :=
  ⟨kept.state, kept.tpms, kept.left.starts, kept.left.requests,
    by simpa [Runtime.setController] using kept.left.reports, kept.left.exits, kept.left.tpms⟩

end Kept

theorem resume {call : Call} {reply : Reply} {t : Runtime} (rest : Kept s)
    (empty : s.processController = none) (emptyTPM : s.softwareTPMController = none)
    (idle : ∀ c, (s.controllers c).process = false)
    (exited : ∀ c, (s.controllers c).isRunning = false)
    (current : call.activity.isExit = false → call.generation = s.runtimeGeneration)
    (left : NothingLeft { s with calls := call :: s.calls })
    (run : s.resume call reply = some t) : Kept t := by
  obtain ⟨g, activity⟩ := call
  have completes (c : Nat) : (s.controllers c).completeExpectedTermination =
      (s.controllers c, []) := by
    simp [ProcessController.completeExpectedTermination, idle c]
  have answers : s.answerStop g .stopped = s.finish .stopped := by
    simp [Runtime.answerStop, emptyTPM]
  cases activity with
  | start stage =>
    have ceased := left.starts _ List.mem_cons_self (current rfl)
    cases ceased
  | shutdown outcome stage =>
    have ceased := left.starts _ List.mem_cons_self (current rfl)
    cases outcome with
    | stopped =>
      cases stage with
      | killQueued c =>
        simp only [Runtime.resume, Runtime.resumeShutdown, idle c, Bool.false_eq_true, if_false,
          Option.some.injEq] at run
        subst run
        exact rest.push _ rfl
      | killWaiting c =>
        simp only [Runtime.resume, Runtime.resumeShutdown, exited c, Bool.false_eq_true, if_false,
          completes c, Option.some.injEq] at run
        subst run
        exact (rest.setController c _).push _ rfl
      | killed c =>
        simp only [Runtime.resume, Runtime.resumeShutdown, Runtime.shutdownTPM, emptyTPM,
          Option.some.injEq] at run
        subst run
        exact rest.finish
      | stoppingTPM tpm =>
        simp only [Runtime.resume, Runtime.resumeShutdown, rest.tpms tpm, Bool.false_eq_true,
          if_false, Option.some.injEq] at run
        subst run
        exact rest.finish
    | _ => cases ceased
  | stop stage =>
    cases stage with
    | requestingShutdown =>
      cases reply with
      | returns =>
        cases run
        exact rest
      | throws message =>
        simp only [Runtime.resume, Runtime.resumeStop, Runtime.stopProcess, empty, answers,
          Option.some.injEq] at run
        subst run
        exact rest.finish
      | _ => cases run
    | stopQueued c =>
      simp only [Runtime.resume, Runtime.resumeStop, ProcessController.stop, idle c,
        Bool.false_eq_true, if_false, Option.some.injEq] at run
      subst run
      exact (rest.setController c _).push _ rfl
    | stopWaiting c =>
      cases reply with
      | returns =>
        simp only [Runtime.resume, Runtime.resumeStop, exited c, Bool.false_eq_true, if_false,
          completes c, Option.some.injEq] at run
        subst run
        exact (rest.setController c _).push _ rfl
      | timesOut =>
        simp only [Runtime.resume, Runtime.resumeStop, exited c, Bool.false_eq_true,
          if_false] at run
        cases run
      | _ => cases run
    | answered result =>
      cases reply with
      | returns =>
        cases result with
        | stopped =>
          simp only [Runtime.resume, Runtime.resumeStop, answers, Option.some.injEq] at run
          subst run
          exact rest.finish
        | timedOut =>
          cases run
          exact rest
        | requestFailed message =>
          exact absurd rfl (left.requests _ List.mem_cons_self (current rfl) message)
      | _ => cases run
    | stoppingTPM tpm =>
      cases reply with
      | returns =>
        simp only [Runtime.resume, Runtime.resumeStop, rest.tpms tpm, Bool.false_eq_true,
          if_false, Option.some.injEq] at run
        subst run
        exact rest.finish
      | _ => cases run
  | exit outcome tpm =>
    simp only [Runtime.resume, Runtime.resumeExit] at run
    split at run
    · cases run
    · cases run
      split
      · next here =>
        rw [left.exits _ List.mem_cons_self here outcome tpm rfl]
        exact rest.finish
      · exact rest

theorem isOff (off : Stopped s) : s.IsOff := by
  refine ⟨fun c => off.core.exited_of_idle (off.idle c), off.tpms, ?_, fun message => ?_⟩
  · rw [off.state]
    simp
  · rw [off.state]
    simp

/-- One step that is not a start. -/
theorem step (off : Stopped s) {e : Event} {t : Runtime} (orderly : Orderly s e)
    (noStart : e.isStart = false) (taken : s.step e = some t) : Stopped t := by
  have core := off.core.step orderly taken
  have exited := off.isOff.1
  have emptyTPM := off.core.tpm_none off.empty
  have kept : Kept t := by
    cases e with
    | start discoveryError => cases noStart
    | stop gracefulShutdown =>
      simp only [Runtime.step, Runtime.stop, off.state, reduceCtorEq, or_self, if_false,
        Option.some.injEq] at taken
      subst taken
      exact off.kept
    | forceStop =>
      simp only [Runtime.step, Runtime.forceStop, Runtime.isActive, off.state, reduceCtorEq,
        decide_false, Bool.or_self, Bool.false_eq_true, if_false, Option.some.injEq] at taken
      subst taken
      exact off.kept
    | resume index reply =>
      simp only [Runtime.step] at taken
      split at taken
      · cases taken
      · next call found =>
        have rest : Kept { s with calls := s.calls.eraseIdx index } :=
          ⟨off.state, off.tpms, nothingLeft_mono off.left (fun _ member => mem_of_mem_eraseIdx member)
            fun _ member => member⟩
        refine resume rest off.empty emptyTPM off.idle exited (orderly.1 index reply call rfl found).1
          (nothingLeft_mono off.left (fun other member => ?_) fun _ member => member) taken
        rcases List.mem_cons.mp member with rfl | later
        · exact List.mem_of_getElem? found
        · exact mem_of_mem_eraseIdx later
    | deliver index =>
      simp only [Runtime.step] at taken
      split at taken
      · cases taken
      · next generation processState found =>
        cases taken
        have rest : Kept { s with callbacks := s.callbacks.eraseIdx index } :=
          ⟨off.state, off.tpms, nothingLeft_mono off.left (fun _ member => member)
            fun _ member => mem_of_mem_eraseIdx member⟩
        unfold Runtime.handle
        split
        · next here =>
          cases processState with
          | stopped =>
            simp only [Runtime.finishAfterProcessExit, emptyTPM]
            exact Kept.push (s := { s with
                callbacks := s.callbacks.eraseIdx index, softwareTPMController := none })
              ⟨off.state, off.tpms, rest.left.starts, rest.left.requests, rest.left.reports,
                rest.left.exits, rest.left.tpms⟩ _ rfl
          | failed message =>
            have reported := List.mem_of_getElem? found
            rw [show generation = s.runtimeGeneration from here] at reported
            exact absurd reported (off.left.reports message)
          | _ => exact rest
        · exact rest
    | processExits c status =>
      simp only [Runtime.step, exited c, Bool.false_eq_true, if_false] at taken
      cases taken
    | processTerminated c =>
      simp only [Runtime.step] at taken
      split at taken
      · cases taken
      · cases taken
      · simp only [ProcessController.processTerminated, off.idle c, Bool.false_eq_true, if_false,
          Option.some.injEq] at taken
        subst taken
        exact off.kept.setController c _
    | tpmExits t =>
      simp only [Runtime.step, off.tpms t, Bool.false_eq_true, if_false] at taken
      cases taken
  exact ⟨core, kept.state, kept.tpms, kept.left⟩

/-- A force stop that returns in an orderly run has stopped everything. -/
theorem of_return (core : Core s) (known : s.TPMsKnown) {e : Event} {t : Runtime}
    (orderly : Orderly s e) (returns : s.forceStopReturns e = true) (taken : s.step e = some t)
    (state : t.state = .stopped) : Stopped t := by
  have coreAfter := core.step orderly taken
  have left : NothingLeft t := by
    have left := orderly.2 returns
    have cleared {u : Runtime} (left : NothingLeft u) : NothingLeft (u.finish .stopped) :=
      ⟨left.starts, left.requests, left.reports, left.exits, left.tpms⟩
    cases e with
    | forceStop =>
      simp only [Runtime.step, Runtime.forceStop, Option.some.injEq] at taken
      subst taken
      split
      · next active =>
        simp only [forceStopReturns, active, Bool.not_true, Bool.false_or, Bool.and_eq_true,
          Option.isNone_iff_eq_none] at returns
        simp only [Runtime.shutdown, returns.1, Runtime.shutdownTPM, returns.2]
        exact cleared ⟨left.starts, left.requests, left.reports, left.exits, left.tpms⟩
      · exact left
    | resume index reply =>
      have rest : NothingLeft { s with calls := s.calls.eraseIdx index } :=
        nothingLeft_mono left (fun _ member => mem_of_mem_eraseIdx member) fun _ member => member
      simp only [forceStopReturns] at returns
      simp only [Runtime.step] at taken
      split at returns
      · next found =>
        simp only [found, Runtime.resume, Runtime.resumeShutdown, Runtime.shutdownTPM,
          Option.isNone_iff_eq_none.mp returns, Option.some.injEq] at taken
        subst taken
        exact cleared ⟨rest.starts, rest.requests, rest.reports, rest.exits, rest.tpms⟩
      · next found =>
        simp only [found, Runtime.resume, Runtime.resumeShutdown] at taken
        split at taken
        · cases taken
        · cases taken
          exact cleared rest
      · cases returns
    | _ => cases returns
  obtain ⟨noPending, empty⟩ := coreAfter.stopped (by rw [state]; rfl)
  refine ⟨coreAfter, state, fun tpm => ?_, left⟩
  cases isRunning : t.tpms tpm with
  | false => rfl
  | true =>
    rcases known.step core orderly taken tpm isRunning with held | awaiting | ⟨g, outcome, stopping⟩
    · rw [coreAfter.tpm_none empty] at held
      cases held
    · have settled := noPending _ awaiting
      cases settled
    · rw [left.tpms _ stopping outcome tpm rfl] at isRunning
      cases isRunning

end Stopped

end Runtime

/-- Once a force stop has returned with state `.stopped`, the runtime stays off until the next
start. -/
def ForceStopIsFinal (recorded : MachineRuntimeState) (labels : List Event) : Prop :=
  ∀ before e after rest s t u, labels = before ++ e :: (after ++ rest) →
    Run Runtime.step (Runtime.create recorded) before s → s.forceStopReturns e = true →
    s.step e = some t → t.state = .stopped → Run Runtime.step t after u →
    (∀ later ∈ after, later.isStart = false) → u.IsOff

theorem core_create (recorded : MachineRuntimeState) : (Runtime.create recorded).Core where
  held _ held := by cases held
  heldTPM _ held := by cases held
  process _ process := by cases process
  running _ isRunning := by cases isRunning
  known _ member := by cases member
  knownReports _ member := by cases member
  pending _ member := by cases member
  early _ member := by cases member
  launching _ member := by cases member
  single := List.Pairwise.nil
  settled _ member := by cases member
  takenUp _ member := by cases member
  ceased _ member := by cases member
  controllerOf _ member := by cases member
  tpmOf _ member := by cases member
  exits _ member := by cases member
  reported _ member := by cases member
  stopped _ := ⟨fun _ member => (by cases member), rfl⟩

/-- **A force stop is final** in every orderly run. -/
theorem forceStop_final (recorded : MachineRuntimeState) (labels : List Event)
    (orderly : Meets Runtime.step Orderly (Runtime.create recorded) labels) :
    ForceStopIsFinal recorded labels := by
  rintro before e after rest s t u rfl run returns taken state later noStart
  obtain ⟨first, second⟩ := orderly.split run
  have reached : s.Core ∧ s.TPMsKnown := by
    refine run.invariant (I := fun s => s.Core ∧ s.TPMsKnown) (V := fun _ => True)
      (fun s e t both _ ordered taken => ⟨both.1.step ordered taken,
        both.2.step both.1 ordered taken⟩) (fun _ _ => trivial) first
      ⟨core_create recorded, fun _ isRunning => by cases isRunning⟩
  obtain ⟨ordered, third⟩ := second t taken
  have off := Runtime.Stopped.of_return reached.1 reached.2 ordered returns taken state
  have still : u.Stopped :=
    later.invariant (I := Runtime.Stopped) (V := fun e => e.isStart = false)
      (fun s e t off noStart ordered taken => off.step ordered noStart taken) noStart
      (third.split later).1 off
  exact still.isOff

private theorem orderly_unresumed {s : Runtime} {e : Event}
    (apart : ∀ index reply, e ≠ .resume index reply) (unfinished : s.forceStopReturns e = false) :
    Orderly s e := by
  refine ⟨fun index reply _ same => absurd same (apart index reply), fun returns => ?_⟩
  rw [unfinished] at returns
  cases returns

/-- The only call in flight goes on, and no force stop returns. -/
private theorem orderly_resume {s : Runtime} {call : Call} {reply : Reply} (only : s.calls = [call])
    (current : call.generation = s.runtimeGeneration)
    (apart : call.activity.isPending = true → call.activity.queuedAt = none)
    (unfinished : s.forceStopReturns (.resume 0 reply) = false) : Orderly s (.resume 0 reply) := by
  refine ⟨?_, fun returns => ?_⟩
  · rintro index other found same taken
    cases same
    rw [only] at taken
    cases taken
    refine ⟨fun _ => current, fun c queued later member pending => ?_⟩
    rw [only, List.mem_singleton] at member
    subst member
    rw [apart pending] at queued
    cases queued
  · rw [unfinished] at returns
    cases returns

/-- A machine that runs is stopped by force. -/
theorem forceStop_final_running : ForceStopIsFinal .stopped
    [.start none, .resume 0 (.configured false), .resume 0 (.launches .runs), .resume 0 .returns,
      .resume 0 .returns, .forceStop, .resume 0 .returns, .processExits 1 9, .resume 0 .returns,
      .resume 0 .returns] := by
  refine forceStop_final .stopped _ ?_
  refine .next rfl (orderly_unresumed (fun _ _ => by simp) rfl) ?_
  refine .next rfl (orderly_resume rfl rfl (fun _ => rfl) rfl) ?_
  refine .next rfl (orderly_resume rfl rfl (fun _ => rfl) rfl) ?_
  refine .next rfl (orderly_resume rfl rfl (fun _ => rfl) rfl) ?_
  refine .next rfl (orderly_resume rfl rfl (fun _ => rfl) rfl) ?_
  refine .next rfl (orderly_unresumed (fun _ _ => by simp) rfl) ?_
  refine .next rfl (orderly_resume rfl rfl (fun pending => by cases pending) rfl) ?_
  refine .next rfl (orderly_unresumed (fun _ _ => by simp) rfl) ?_
  refine .next rfl (orderly_resume rfl rfl (fun pending => by cases pending) rfl) ?_
  refine .next rfl ⟨?_, fun _ => ?_⟩ trivial
  · rintro index reply call same found
    cases same
    cases found
    exact ⟨fun _ => rfl, fun c queued => by cases queued⟩
  · refine ⟨?_, ?_, ?_, ?_, ?_⟩
    · rintro call (_ | ⟨_, ⟨⟩⟩) _
      rfl
    · rintro call (_ | ⟨_, ⟨⟩⟩) _ message ⟨⟩
    · rintro message (_ | ⟨_, _ | ⟨_, _ | ⟨_, _ | ⟨_, ⟨⟩⟩⟩⟩⟩)
    · rintro call (_ | ⟨_, ⟨⟩⟩) _ outcome tpm ⟨⟩
    · rintro call (_ | ⟨_, ⟨⟩⟩) outcome tpm ⟨⟩

/-- A start that a force stop overtakes while its port is allocated launches QEMU all the same. -/
theorem start_launches_after_forceStop : ∃ recorded labels, ¬ ForceStopIsFinal recorded labels := by
  refine ⟨.stopped, [.start none, .forceStop, .resume 0 (.configured false),
    .resume 0 (.launches .runs)], fun final => ?_⟩
  have off := final [.start none] .forceStop
    [.resume 0 (.configured false), .resume 0 (.launches .runs)] [] _ _ _ rfl
    (.next rfl (.done _)) (by decide) rfl rfl (.next rfl (.next rfl (.done _)))
    (by simp [Event.isStart])
  have isRunning := off.1 1
  revert isRunning
  decide

end SimpleVM.QEMU
