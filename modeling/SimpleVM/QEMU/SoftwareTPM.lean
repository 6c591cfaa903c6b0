import SimpleVM.QEMU.ForceStop

/-!
# One software TPM

All software TPM controllers of a machine share its state file and the path of its control
socket. A start makes a controller of its own; `stop` and `finishAfterProcessExit` both take
the one the runtime holds, and the task that the latter makes is awaited by nobody. So a start has
to begin after the earlier calls are done with theirs: then the controllers that are set are at any
time the one of a single start, which the runtime holds or some call awaits.
-/
namespace SimpleVM.QEMU

open Domain Transition

/-- The runtime with its `SoftwareTPMProcessController`s, named by the generation of their
start. -/
structure TPMRuntime where
  runtime : Runtime
  /-- `process` and `socketURL` of the controller are set. -/
  isSet : Nat → Bool := fun _ => false
  /-- The control socket, by the controller whose process created it. -/
  socket : Option Nat := none

inductive TPMEvent
  | runtime (event : Event)
  /-- `requestReboot` goes on when its `stop` has returned. -/
  | reboot (discoveryError : Option String)
  /-- The process of a controller creates the socket. -/
  | createsSocket (controller : Nat)
  /-- A stop that has waited for the exit of the process runs `clear`. -/
  | clear (controller : Nat)
  /-- The socket is removed otherwise: by the process itself, or by a start that then fails. -/
  | socketVanishes
deriving DecidableEq, Repr

/-- The software TPM controller whose stop the call awaits. A start that fails to see the
socket stops its own. -/
def Call.awaitsTPM (call : Call) : Option Nat :=
  match call.activity with
  | .start .awaitingTPM => some call.generation
  | .exit _ tpm => tpm
  | activity => activity.tpm?

namespace TPMRuntime

def create (recorded : MachineRuntimeState) : TPMRuntime := { runtime := .create recorded }

/-- The controllers' side of a resumed call: `start` removes an existing socket and launches;
a stop returns when the controller has been cleared. -/
def resume (s : TPMRuntime) (call : Call) (reply : Reply) (runtime : Runtime) :
    Option TPMRuntime :=
  match call.activity, reply with
  | .start .startingTPM, .returns =>
    some { runtime := runtime
           isSet := fun c => if c = call.generation then true else s.isSet c
           socket := none }
  | .start .awaitingTPM, .returns => some { s with runtime := runtime }
  | _, _ => if call.awaitsTPM.any s.isSet then none else some { s with runtime := runtime }

def stepRuntime (s : TPMRuntime) (e : Event) : Option TPMRuntime :=
  match s.runtime.step e, e with
  | none, _ => none
  | some runtime, .resume index reply =>
    match s.runtime.calls[index]? with
    | none => none
    | some call => s.resume call reply runtime
  | some runtime, _ => some { s with runtime := runtime }

def step (s : TPMRuntime) : TPMEvent → Option TPMRuntime
  | .runtime event => s.stepRuntime event
  | .reboot discoveryError =>
    if s.runtime.state = .stopped then s.stepRuntime (.start discoveryError) else some s
  | .createsSocket c => if s.runtime.tpms c then some { s with socket := some c } else none
  | .clear c =>
    if s.isSet c && !s.runtime.tpms c && s.runtime.calls.any (fun call => call.awaitsTPM = some c)
    then some { s with isSet := fun d => if d = c then false else s.isSet d, socket := none }
    else none
  | .socketVanishes => some { s with socket := none }

/-- At most one process uses the state file, and no controller that is cleared removes the
socket of a newer one. -/
def OneTPM (s : TPMRuntime) (e : TPMEvent) (t : TPMRuntime) : Prop :=
  (∀ a b, t.runtime.tpms a = true → t.runtime.tpms b = true → a = b) ∧
    ∀ c, e = .clear c → ∀ owner, s.socket = some owner → owner ≤ c

/-- The event begins a start. -/
def startBegins (s : TPMRuntime) : TPMEvent → Bool
  | .runtime event => event.isStart && s.runtime.state.canStart
  | .reboot _ => s.runtime.state = .stopped
  | _ => false

/-- The earlier calls are done with the software TPM: the runtime holds none, no start is still to
launch or to hand over its own, no stop still waits for one, and the exit tasks have had theirs
cleared. -/
structure Released (s : TPMRuntime) : Prop where
  held : s.runtime.softwareTPMController = none
  starts : s.runtime.NoEarly
  stops : ∀ call ∈ s.runtime.calls, call.activity.tpm? = none
  exits : ∀ call ∈ s.runtime.calls, call.activity.isExit = true →
    call.awaitsTPM.any s.isSet = false

instance (s : TPMRuntime) : Decidable s.Released :=
  decidable_of_iff (s.runtime.softwareTPMController = none ∧
      (∀ call ∈ s.runtime.calls, call.activity.isEarly = false) ∧
      (∀ call ∈ s.runtime.calls, call.activity.tpm? = none) ∧
      ∀ call ∈ s.runtime.calls, call.activity.isExit = true →
        call.awaitsTPM.any s.isSet = false)
    ⟨fun ⟨held, starts, stops, exits⟩ => ⟨held, starts, stops, exits⟩,
      fun released => ⟨released.held, released.starts, released.stops, released.exits⟩⟩

/-- A start begins when the earlier calls are done with the software TPM. -/
def Settled (s : TPMRuntime) (e : TPMEvent) : Prop := s.startBegins e = true → s.Released

instance (s : TPMRuntime) (e : TPMEvent) : Decidable (Settled s e) :=
  inferInstanceAs (Decidable (s.startBegins e = true → s.Released))

end TPMRuntime

namespace Runtime

/-- The process controller has not been asked to launch and has reported nothing. -/
structure Unused (s : Runtime) (c : Nat) : Prop where
  controller : s.controllers c = {}
  reports : ∀ report ∈ s.callbacks, report.1 ≠ c

/-- Whose the controllers that are set are, and which calls can be in flight together. -/
structure Ordered (s : Runtime) (isSet : Nat → Bool) : Prop where
  alive : ∀ c, s.tpms c = true → isSet c = true
  single : ∀ a b, isSet a = true → isSet b = true → a = b
  accounted : ∀ c, isSet c = true → s.softwareTPMController = some c ∨
    ∃ call ∈ s.calls, call.awaitsTPM = some c
  waiting : ∀ call ∈ s.calls, ∀ c, call.activity.tpm? = some c →
    s.softwareTPMController = none ∨ s.softwareTPMController = some c
  known : ∀ call ∈ s.calls, call.generation ≤ s.runtimeGeneration
  unused : ∀ c, s.runtimeGeneration < c → s.Unused c
  early : ∀ call ∈ s.calls, call.activity.isEarly = true →
    call.generation = s.runtimeGeneration ∧ s.Unused s.runtimeGeneration ∧
      s.softwareTPMController = none ∧ ∀ other ∈ s.calls, other.activity.tpm? = none
  launching : ∀ call ∈ s.calls,
    call.activity = .start .allocatingPort ∨ call.activity = .start .startingTPM →
      ∀ c, isSet c = false
  one : s.calls.Pairwise fun a b => ¬ (a.activity.isEarly = true ∧ b.activity.isEarly = true)
  begun : ∀ call ∈ s.calls, call.activity = .start .startingProcess →
    call.generation = s.runtimeGeneration → s.NoEarly
  exits : ∀ call ∈ s.calls, call.activity.isExit = true →
    call.generation = s.runtimeGeneration → s.softwareTPMController = none ∧ s.NoEarly

/-- Nothing stands against a start of the current generation that has no process yet. -/
structure Begins (s : Runtime) : Prop where
  unused : s.Unused s.runtimeGeneration
  held : s.softwareTPMController = none
  waiting : ∀ call ∈ s.calls, call.activity.tpm? = none
  early : s.NoEarly
  later : ∀ call ∈ s.calls, call.generation = s.runtimeGeneration →
    call.activity ≠ .start .startingProcess ∧ call.activity.isExit = false

namespace Ordered

variable {s t : Runtime} {isSet : Nat → Bool}

/-! ### Calls that come and go -/

/-- A call that awaits no controller that is set can be taken out. -/
theorem erase (ordered : s.Ordered isSet) {index : Nat} {call : Call}
    (found : s.calls[index]? = some call) (done : call.awaitsTPM.any isSet = false) :
    { s with calls := s.calls.eraseIdx index }.Ordered isSet where
  alive := ordered.alive
  single := ordered.single
  accounted := by
    intro c set
    rcases ordered.accounted c set with held | ⟨other, member, awaits⟩
    · exact .inl held
    · have apart : other ≠ call := by
        rintro rfl
        rw [awaits, Option.any_some, set] at done
        cases done
      exact .inr ⟨other, mem_eraseIdx_of_ne found member apart, awaits⟩
  waiting call member := ordered.waiting call (mem_of_mem_eraseIdx member)
  known call member := ordered.known call (mem_of_mem_eraseIdx member)
  unused c later := ⟨(ordered.unused c later).controller, (ordered.unused c later).reports⟩
  early := by
    intro call member isEarly
    obtain ⟨current, unused, held, waiting⟩ :=
      ordered.early call (mem_of_mem_eraseIdx member) isEarly
    exact ⟨current, ⟨unused.controller, unused.reports⟩, held,
      fun other later => waiting other (mem_of_mem_eraseIdx later)⟩
  launching call member := ordered.launching call (mem_of_mem_eraseIdx member)
  one := ordered.one.sublist (List.eraseIdx_sublist _ _)
  begun call member begins current other later :=
    ordered.begun call (mem_of_mem_eraseIdx member) begins current other (mem_of_mem_eraseIdx later)
  exits := by
    intro call member isExit current
    obtain ⟨held, none⟩ := ordered.exits call (mem_of_mem_eraseIdx member) isExit current
    exact ⟨held, fun other later => none other (mem_of_mem_eraseIdx later)⟩

/-- A start without a process is the only one; once it is taken out nothing stands against it. -/
theorem begins (ordered : s.Ordered isSet) {index : Nat} {call : Call}
    (found : s.calls[index]? = some call) (isEarly : call.activity.isEarly = true) :
    { s with calls := s.calls.eraseIdx index }.Begins := by
  have member := List.mem_of_getElem? found
  obtain ⟨_, unused, held, waiting⟩ := ordered.early call member isEarly
  have alone := (pairwise_takeOut (fun a b apart both => apart both.symm) found ordered.one).1
  refine ⟨⟨unused.controller, unused.reports⟩, held,
    fun other later => waiting other (mem_of_mem_eraseIdx later), ?_, ?_⟩
  · intro other later
    exact eq_false_of_ne_true fun also => alone other later ⟨isEarly, also⟩
  · intro other later current
    constructor
    · intro begins
      have none := ordered.begun other (mem_of_mem_eraseIdx later) begins current call member
      rw [isEarly] at none
      cases none
    · apply eq_false_of_ne_true
      intro isExit
      have none := (ordered.exits other (mem_of_mem_eraseIdx later) isExit current).2 call member
      rw [isEarly] at none
      cases none

theorem push (ordered : s.Ordered isSet) {g : Nat} (known : g ≤ s.runtimeGeneration) {a : Activity}
    (late : a.isEarly = false)
    (waits : ∀ c, a.tpm? = some c → s.softwareTPMController = some c)
    (begun : a = .start .startingProcess → g = s.runtimeGeneration → s.NoEarly)
    (exits : a.isExit = true → g = s.runtimeGeneration →
      s.softwareTPMController = none ∧ s.NoEarly) :
    (s.push g a).Ordered isSet where
  alive := ordered.alive
  single := ordered.single
  accounted := by
    intro c set
    rcases ordered.accounted c set with held | ⟨other, member, awaits⟩
    · exact .inl held
    · exact .inr ⟨other, List.mem_cons_of_mem _ member, awaits⟩
  waiting := by
    intro call member c awaited
    rcases List.mem_cons.mp member with rfl | before
    · exact .inr (waits c awaited)
    · exact ordered.waiting call before c awaited
  known := by
    intro call member
    rcases List.mem_cons.mp member with rfl | before
    · exact known
    · exact ordered.known call before
  unused c later := ⟨(ordered.unused c later).controller, (ordered.unused c later).reports⟩
  early := by
    intro call member isEarly
    rcases List.mem_cons.mp member with rfl | before
    · rw [late] at isEarly
      cases isEarly
    · obtain ⟨current, unused, held, waiting⟩ := ordered.early call before isEarly
      refine ⟨current, ⟨unused.controller, unused.reports⟩, held, ?_⟩
      intro other later
      rcases List.mem_cons.mp later with rfl | earlier
      · cases awaited : a.tpm? with
        | none => rfl
        | some c =>
          have same := waits c awaited
          rw [held] at same
          cases same
      · exact waiting other earlier
  launching := by
    intro call member stage
    rcases List.mem_cons.mp member with rfl | before
    · rcases stage with rfl | rfl <;> cases late
    · exact ordered.launching call before stage
  one := by
    refine List.pairwise_cons.mpr ⟨fun other _ both => ?_, ordered.one⟩
    rw [late] at both
    cases both.1
  begun := by
    intro call member begins current other later
    have none : s.NoEarly := by
      rcases List.mem_cons.mp member with rfl | before
      · exact begun begins current
      · exact ordered.begun call before begins current
    rcases List.mem_cons.mp later with rfl | earlier
    · exact late
    · exact none other earlier
  exits := by
    intro call member isExit current
    have both : s.softwareTPMController = none ∧ s.NoEarly := by
      rcases List.mem_cons.mp member with rfl | before
      · exact exits isExit current
      · exact ordered.exits call before isExit current
    refine ⟨both.1, fun other later => ?_⟩
    rcases List.mem_cons.mp later with rfl | earlier
    · exact late
    · exact both.2 other earlier

/-! ### What the calls do to the runtime -/

/-- The runtime lets go of a controller only when it is not set any more. -/
theorem finish (ordered : s.Ordered isSet) (outcome : MachineRuntimeState)
    (gone : ∀ c, s.softwareTPMController = some c → isSet c = false) :
    (s.finish outcome).Ordered isSet where
  alive := ordered.alive
  single := ordered.single
  accounted := by
    intro c set
    rcases ordered.accounted c set with held | awaited
    · rw [gone c held] at set
      cases set
    · exact .inr awaited
  waiting _ _ _ _ := .inl rfl
  known := ordered.known
  unused c later := ⟨(ordered.unused c later).controller, (ordered.unused c later).reports⟩
  early := by
    intro call member isEarly
    obtain ⟨current, unused, _, waiting⟩ := ordered.early call member isEarly
    exact ⟨current, ⟨unused.controller, unused.reports⟩, rfl, waiting⟩
  launching := ordered.launching
  one := ordered.one
  begun := ordered.begun
  exits call member isExit current := ⟨rfl, (ordered.exits call member isExit current).2⟩

/-- Of the process controllers only those matter that are still to be asked for a launch. -/
theorem of_same (ordered : s.Ordered isSet) (tpms : t.tpms = s.tpms)
    (held : t.softwareTPMController = s.softwareTPMController) (calls : t.calls = s.calls)
    (generation : t.runtimeGeneration = s.runtimeGeneration)
    (unused : ∀ c, s.runtimeGeneration < c ∨ c = s.runtimeGeneration ∧ ¬ s.NoEarly →
      s.Unused c → t.Unused c) : t.Ordered isSet where
  alive := by
    rw [tpms]
    exact ordered.alive
  single := ordered.single
  accounted := by
    rw [held, calls]
    exact ordered.accounted
  waiting := by
    rw [held, calls]
    exact ordered.waiting
  known := by
    rw [calls, generation]
    exact ordered.known
  unused := by
    intro c later
    rw [generation] at later
    exact unused c (.inl later) (ordered.unused c later)
  early := by
    rw [calls, held, generation]
    intro call member isEarly
    obtain ⟨current, fresh, none, waiting⟩ := ordered.early call member isEarly
    refine ⟨current, unused _ (.inr ⟨rfl, fun without => ?_⟩) fresh, none, waiting⟩
    rw [without call member] at isEarly
    cases isEarly
  launching := by
    rw [calls]
    exact ordered.launching
  one := by
    rw [calls]
    exact ordered.one
  begun := by
    rw [NoEarly, calls, generation]
    exact ordered.begun
  exits := by
    rw [NoEarly, calls, generation, held]
    exact ordered.exits

theorem withState (ordered : s.Ordered isSet) (state : MachineRuntimeState) :
    { s with state := state }.Ordered isSet :=
  ordered.of_same rfl rfl rfl rfl fun _ _ unused => ⟨unused.controller, unused.reports⟩

theorem setController (ordered : s.Ordered isSet) {c : Nat} {controller : ProcessController}
    {reports : List ProcessState}
    (used : s.controllers c = {} → controller = {} ∧ reports = []) :
    (s.setController c controller reports).Ordered isSet := by
  refine ordered.of_same rfl rfl rfl rfl fun d _ unused => ?_
  by_cases same : d = c
  · subst same
    obtain ⟨rfl, rfl⟩ := used unused.controller
    refine ⟨if_pos rfl, fun report member => unused.reports report ?_⟩
    simpa [Runtime.setController] using member
  · refine ⟨(if_neg same).trans unused.controller, fun report member => ?_⟩
    rcases List.mem_append.mp member with before | new
    · exact unused.reports report before
    · obtain ⟨_, _, rfl⟩ := List.mem_map.mp new
      exact fun other => same other.symm

/-- The process controller of the latest start is asked when no start is without one. -/
theorem launch (ordered : s.Ordered isSet) {g : Nat} {controller : ProcessController}
    {reports : List ProcessState} (known : g ≤ s.runtimeGeneration)
    (begun : g = s.runtimeGeneration → s.NoEarly) :
    (s.setController g controller reports).Ordered isSet := by
  refine ordered.of_same rfl rfl rfl rfl fun d due unused => ?_
  have apart : d ≠ g := by
    rintro rfl
    rcases due with later | ⟨current, early⟩
    · omega
    · exact early (begun current)
  refine ⟨(if_neg apart).trans unused.controller, fun report member => ?_⟩
  rcases List.mem_append.mp member with before | new
  · exact unused.reports report before
  · obtain ⟨_, _, rfl⟩ := List.mem_map.mp new
    exact fun other => apart other.symm

theorem shutdownTPM (ordered : s.Ordered isSet) {g : Nat} (known : g ≤ s.runtimeGeneration)
    (outcome : MachineRuntimeState) : (s.shutdownTPM g outcome).Ordered isSet := by
  rw [Runtime.shutdownTPM]
  split
  · next c held =>
    refine ordered.push known rfl ?_ (fun same => by cases same) (fun isExit => by cases isExit)
    rintro d ⟨⟩
    exact held
  · next none =>
    refine ordered.finish outcome fun c held => ?_
    rw [none] at held
    cases held

theorem shutdown (ordered : s.Ordered isSet) {g : Nat} (known : g ≤ s.runtimeGeneration)
    (outcome : MachineRuntimeState) : (s.shutdown g outcome).Ordered isSet := by
  rw [Runtime.shutdown]
  split
  · exact ordered.push known rfl (fun _ waits => by cases waits) (fun same => by cases same)
      (fun isExit => by cases isExit)
  · exact ordered.shutdownTPM known outcome

theorem answerStop (ordered : s.Ordered isSet) {g : Nat} (known : g ≤ s.runtimeGeneration)
    (result : QEMUStopResult) : (s.answerStop g result).Ordered isSet := by
  cases result with
  | stopped =>
    rw [Runtime.answerStop]
    split
    · next c held =>
      refine ordered.push known rfl ?_ (fun same => by cases same) (fun isExit => by cases isExit)
      rintro d ⟨⟩
      exact held
    · next none =>
      refine ordered.finish .stopped fun c held => ?_
      rw [none] at held
      cases held
  | timedOut => exact ordered
  | requestFailed message => exact ordered.withState .running

theorem stopProcess (ordered : s.Ordered isSet) {g : Nat} (known : g ≤ s.runtimeGeneration) :
    (s.stopProcess g).Ordered isSet := by
  rw [Runtime.stopProcess]
  split
  · exact ordered.push known rfl (fun _ waits => by cases waits) (fun same => by cases same)
      (fun isExit => by cases isExit)
  · exact ordered.answerStop known .stopped

/-- The exit task takes over what the runtime holds. -/
theorem finishAfterProcessExit (ordered : s.Ordered isSet) (early : s.NoEarly)
    (outcome : MachineRuntimeState) : (s.finishAfterProcessExit outcome).Ordered isSet := by
  have still : (s.finishAfterProcessExit outcome).NoEarly := by
    intro call member
    rcases List.mem_cons.mp member with rfl | before
    · rfl
    · exact early call before
  refine ⟨ordered.alive, ordered.single, ?_, fun _ _ _ _ => .inl rfl, ?_, ?_, ?_, ?_, ?_,
    fun _ _ _ _ => still, fun _ _ _ _ => ⟨rfl, still⟩⟩
  · intro c set
    rcases ordered.accounted c set with held | ⟨call, member, awaits⟩
    · exact .inr ⟨_, List.mem_cons_self, held⟩
    · exact .inr ⟨call, List.mem_cons_of_mem _ member, awaits⟩
  · intro call member
    rcases List.mem_cons.mp member with rfl | before
    · exact Nat.le_refl _
    · exact ordered.known call before
  · exact fun c later => ⟨(ordered.unused c later).controller, (ordered.unused c later).reports⟩
  · intro call member isEarly
    rw [still call member] at isEarly
    cases isEarly
  · intro call member stage
    have none := still call member
    rcases stage with same | same <;> rw [same] at none <;> cases none
  · refine List.pairwise_cons.mpr ⟨fun other _ both => ?_, ordered.one⟩
    cases both.1

theorem handle (ordered : s.Ordered isSet) {generation : Nat}
    (early : generation = s.runtimeGeneration → s.NoEarly) (processState : ProcessState) :
    (s.handle generation processState).Ordered isSet := by
  rw [Runtime.handle.eq_def]
  split
  · next current =>
    cases processState with
    | stopped => exact ordered.finishAfterProcessExit (early current) .stopped
    | failed message => exact ordered.finishAfterProcessExit (early current) (.failed message)
    | starting | running | stopping => exact ordered
  · exact ordered

/-! ### Starts -/

/-- A start without a process is in flight; what is set is its own. -/
theorem pushEarly (ordered : s.Ordered isSet) (begins : s.Begins) {stage : StartStage}
    (isEarly : stage.isEarly = true) (own : stage ≠ .awaitingTPM → ∀ c, isSet c = false) :
    (s.push s.runtimeGeneration (.start stage)).Ordered isSet := by
  have waiting : ∀ call ∈ (s.push s.runtimeGeneration (.start stage)).calls,
      call.activity.tpm? = none := by
    intro call member
    rcases List.mem_cons.mp member with rfl | before
    · rfl
    · exact begins.waiting call before
  have later : ∀ call ∈ (s.push s.runtimeGeneration (.start stage)).calls,
      call.generation = s.runtimeGeneration →
        call.activity ≠ .start .startingProcess ∧ call.activity.isExit = false := by
    intro call member current
    rcases List.mem_cons.mp member with rfl | before
    · refine ⟨?_, rfl⟩
      rintro ⟨⟩
      cases isEarly
    · exact begins.later call before current
  refine ⟨ordered.alive, ordered.single, ?_, ?_, ?_, ?_, ?_, ?_, ?_, ?_, ?_⟩
  · intro c set
    rcases ordered.accounted c set with held | ⟨call, member, awaits⟩
    · exact .inl held
    · exact .inr ⟨call, List.mem_cons_of_mem _ member, awaits⟩
  · intro call member c awaited
    rw [waiting call member] at awaited
    cases awaited
  · intro call member
    rcases List.mem_cons.mp member with rfl | before
    · exact Nat.le_refl _
    · exact ordered.known call before
  · exact fun c above => ⟨(ordered.unused c above).controller, (ordered.unused c above).reports⟩
  · intro call member starts
    rcases List.mem_cons.mp member with rfl | before
    · exact ⟨rfl, ⟨begins.unused.controller, begins.unused.reports⟩, begins.held, waiting⟩
    · rw [begins.early call before] at starts
      cases starts
  · intro call member which
    rcases List.mem_cons.mp member with rfl | before
    · apply own
      rintro rfl
      rcases which with other | other <;> cases other
    · exact ordered.launching call before which
  · refine List.pairwise_cons.mpr ⟨fun other member both => ?_, ordered.one⟩
    rw [begins.early other member] at both
    cases both.2
  · intro call member starts current
    exact absurd starts (later call member current).1
  · intro call member isExit current
    rw [(later call member current).2] at isExit
    cases isExit

/-- The start launches its software TPM where no controller is set. -/
theorem launchTPM (ordered : s.Ordered isSet) (begins : s.Begins) (none : ∀ c, isSet c = false) :
    ((s.setTPM s.runtimeGeneration true).push s.runtimeGeneration (.start .awaitingTPM)).Ordered
      fun c => if c = s.runtimeGeneration then true else isSet c := by
  have own : ∀ c, (if c = s.runtimeGeneration then true else isSet c) = true →
      c = s.runtimeGeneration := by
    intro c set
    by_cases same : c = s.runtimeGeneration
    · exact same
    · rw [if_neg same, none c] at set
      cases set
  have pushed : (s.push s.runtimeGeneration (.start .awaitingTPM)).Ordered isSet :=
    ordered.pushEarly begins rfl fun other => absurd rfl other
  refine ⟨?_, ?_, ?_, pushed.waiting, pushed.known, ?_, ?_, ?_, pushed.one, pushed.begun,
    pushed.exits⟩
  · intro c runs
    by_cases same : c = s.runtimeGeneration
    · exact if_pos same
    · have before : s.tpms c = true := (if_neg same).symm.trans runs
      have set := ordered.alive c before
      rw [none c] at set
      cases set
  · intro a b setA setB
    rw [own a setA, own b setB]
  · intro c set
    rw [own c set]
    exact .inr ⟨_, List.mem_cons_self, rfl⟩
  · exact fun c later => ⟨(pushed.unused c later).controller, (pushed.unused c later).reports⟩
  · intro call member isEarly
    obtain ⟨current, unused, held, waiting⟩ := pushed.early call member isEarly
    exact ⟨current, ⟨unused.controller, unused.reports⟩, held, waiting⟩
  · intro call member which
    rcases List.mem_cons.mp member with rfl | before
    · rcases which with other | other <;> cases other
    · have early := begins.early call before
      rcases which with same | same <;> rw [same] at early <;> cases early

/-- The start hands over its software TPM and goes on to the process. -/
theorem holdTPM (ordered : s.Ordered isSet) {index g : Nat}
    (found : s.calls[index]? = some ⟨g, .start .awaitingTPM⟩) :
    ({ s with calls := s.calls.eraseIdx index, softwareTPMController := some g }.startProcess
      g).Ordered isSet := by
  have begins := ordered.begins found rfl
  obtain ⟨current, _⟩ := ordered.early _ (List.mem_of_getElem? found) rfl
  have held : { s with
      calls := s.calls.eraseIdx index
      softwareTPMController := some g
      processController := some g }.Ordered isSet := by
    refine ⟨ordered.alive, ordered.single, ?_, ?_, ?_, ?_, ?_, ?_, ?_, ?_, ?_⟩
    · intro c set
      rcases ordered.accounted c set with before | ⟨call, member, awaits⟩
      · rw [begins.held] at before
        cases before
      · by_cases own : call = ⟨g, .start .awaitingTPM⟩
        · subst own
          exact .inl awaits
        · exact .inr ⟨call, mem_eraseIdx_of_ne found member own, awaits⟩
    · intro call member c awaited
      rw [begins.waiting call member] at awaited
      cases awaited
    · exact fun call member => ordered.known call (mem_of_mem_eraseIdx member)
    · exact fun c later => ⟨(ordered.unused c later).controller, (ordered.unused c later).reports⟩
    · intro call member isEarly
      rw [begins.early call member] at isEarly
      cases isEarly
    · exact fun call member => ordered.launching call (mem_of_mem_eraseIdx member)
    · exact ordered.one.sublist (List.eraseIdx_sublist _ _)
    · exact fun _ _ _ _ => begins.early
    · intro call member isExit same
      rw [(begins.later call member same).2] at isExit
      cases isExit
  exact held.push (Nat.le_of_eq current) rfl (fun _ waits => by cases waits)
    (fun _ _ => begins.early) (fun isExit => by cases isExit)

theorem start (ordered : s.Ordered isSet) (held : s.softwareTPMController = none)
    (early : s.NoEarly) (stops : ∀ call ∈ s.calls, call.activity.tpm? = none)
    (exits : ∀ call ∈ s.calls, call.activity.isExit = true → call.awaitsTPM.any isSet = false)
    (discoveryError : Option String) (starts : s.state.canStart = true) :
    (s.start discoveryError).Ordered isSet := by
  -- No controller is set when the start begins.
  have none : ∀ c, isSet c = false := by
    intro c
    apply eq_false_of_ne_true
    intro set
    rcases ordered.accounted c set with before | ⟨⟨g, activity⟩, member, awaits⟩
    · rw [held] at before
      cases before
    · have late := early _ member
      have waits := stops _ member
      cases activity with
      | start stage =>
        cases stage with
        | allocatingPort | startingTPM | awaitingTPM => cases late
        | startingProcess | processStarted | processFailed | connecting => cases awaits
      | exit outcome tpm =>
        have gone := exits _ member rfl
        rw [awaits, Option.any_some, set] at gone
        cases gone
      | shutdown outcome stage =>
        rw [show (Activity.shutdown outcome stage).tpm? = some c from awaits] at waits
        cases waits
      | stop stage =>
        rw [show (Activity.stop stage).tpm? = some c from awaits] at waits
        cases waits
  have older : ∀ call ∈ s.calls, call.generation ≠ s.runtimeGeneration + 1 := by
    intro call member same
    have known := ordered.known call member
    omega
  have renewed : { s with
      runtimeGeneration := s.runtimeGeneration + 1
      state := .starting }.Ordered isSet := by
    refine ⟨ordered.alive, ordered.single, ordered.accounted, ordered.waiting, ?_, ?_, ?_,
      ordered.launching, ordered.one, ?_, ?_⟩
    · exact fun call member => Nat.le_succ_of_le (ordered.known call member)
    · intro c later
      have unused := ordered.unused c (Nat.lt_of_succ_lt later)
      exact ⟨unused.controller, unused.reports⟩
    · intro call member isEarly
      rw [early call member] at isEarly
      cases isEarly
    · exact fun call member _ same => absurd same (older call member)
    · exact fun call member _ same => absurd same (older call member)
  rw [Runtime.start, if_pos starts]
  cases discoveryError with
  | some message => exact renewed.shutdown (Nat.le_refl _) (.failed message)
  | none =>
    have fresh := ordered.unused (s.runtimeGeneration + 1) (Nat.lt_succ_self _)
    exact renewed.pushEarly ⟨⟨fresh.controller, fresh.reports⟩, held, stops, early,
      fun call member same => absurd same (older call member)⟩ rfl fun _ => none

/-! ### Resumed calls -/

/-- What a controller without a process completes. -/
theorem completeExpectedTermination_unused {controller : ProcessController}
    (unused : controller = {}) : controller.completeExpectedTermination.1 = {} ∧
      controller.completeExpectedTermination.2 = [] := by
  subst unused
  exact ⟨rfl, rfl⟩

theorem resumeStart (ordered : s.Ordered isSet) {index g : Nat} {stage : StartStage}
    {reply : Reply} (found : s.calls[index]? = some ⟨g, .start stage⟩)
    (done : (Call.mk g (.start stage)).awaitsTPM.any isSet = false)
    (apart : reply = .returns → stage ≠ .startingTPM ∧ stage ≠ .awaitingTPM)
    (taken : { s with calls := s.calls.eraseIdx index }.resumeStart g stage reply = some t) :
    t.Ordered isSet := by
  have rest := ordered.erase found done
  have known : g ≤ s.runtimeGeneration := ordered.known _ (List.mem_of_getElem? found)
  -- The process controller is asked by the start that is not early any more.
  have asked : stage = .startingProcess → g = s.runtimeGeneration →
      { s with calls := s.calls.eraseIdx index }.NoEarly := by
    rintro rfl current call member
    exact ordered.begun _ (List.mem_of_getElem? found) rfl current call (mem_of_mem_eraseIdx member)
  cases startGoesOn taken with
  | needsTPM =>
    have begins := ordered.begins found rfl
    obtain ⟨current, _⟩ := ordered.early _ (List.mem_of_getElem? found) rfl
    have none := ordered.launching _ (List.mem_of_getElem? found) (.inl rfl)
    rw [show g = s.runtimeGeneration from current]
    exact rest.pushEarly begins rfl fun _ => none
  | needsNoTPM =>
    have begins := ordered.begins found rfl
    have process : { s with
        calls := s.calls.eraseIdx index
        processController := some g }.Ordered isSet :=
      rest.of_same rfl rfl rfl rfl fun _ _ unused => ⟨unused.controller, unused.reports⟩
    exact process.push known rfl (fun _ waits => by cases waits) (fun _ _ => begins.early)
      (fun isExit => by cases isExit)
  | startsTPM => exact absurd rfl (apart rfl).1
  | holdsTPM => exact absurd rfl (apart rfl).2
  | launches | launchFails =>
    exact (rest.launch known (asked rfl)).push known rfl (fun _ waits => by cases waits)
      (fun same => by cases same) (fun isExit => by cases isExit)
  | reportsFailure | fails => exact rest.shutdown known _
  | connects =>
    exact rest.push known rfl (fun _ waits => by cases waits) (fun same => by cases same)
      (fun isExit => by cases isExit)
  | runs => exact rest.withState .running

/-- A call that has waited for the stop of a software TPM ends its run. -/
theorem ends (ordered : s.Ordered isSet) {index g c : Nat} {activity : Activity}
    (found : s.calls[index]? = some ⟨g, activity⟩) (waits : activity.tpm? = some c)
    (rest : { s with calls := s.calls.eraseIdx index }.Ordered isSet) (gone : isSet c = false)
    (outcome : MachineRuntimeState) :
    ({ s with calls := s.calls.eraseIdx index }.finish outcome).Ordered isSet := by
  refine rest.finish outcome fun other held => ?_
  rcases ordered.waiting _ (List.mem_of_getElem? found) c waits with none | same
  · rw [show s.softwareTPMController = some other from held] at none
    cases none
  · rw [show s.softwareTPMController = some other from held] at same
    cases same
    exact gone

theorem resumeShutdown (ordered : s.Ordered isSet) {index g : Nat} {outcome : MachineRuntimeState}
    {stage : ShutdownStage} (found : s.calls[index]? = some ⟨g, .shutdown outcome stage⟩)
    (done : (Call.mk g (.shutdown outcome stage)).awaitsTPM.any isSet = false)
    (taken : { s with calls := s.calls.eraseIdx index }.resumeShutdown g outcome stage = some t) :
    t.Ordered isSet := by
  have rest := ordered.erase found done
  have known : g ≤ s.runtimeGeneration := ordered.known _ (List.mem_of_getElem? found)
  cases shutdownGoesOn taken with
  | kills process =>
    refine (rest.setController fun unused => ?_).push known rfl (fun _ waits => by cases waits)
      (fun same => by cases same) (fun isExit => by cases isExit)
    rw [unused] at process
    cases process
  | findsNone =>
    exact rest.push known rfl (fun _ waits => by cases waits) (fun same => by cases same)
      (fun isExit => by cases isExit)
  | killed =>
    exact (rest.setController completeExpectedTermination_unused).push known rfl
      (fun _ waits => by cases waits) (fun same => by cases same) (fun isExit => by cases isExit)
  | releasesTPM => exact rest.shutdownTPM known outcome
  | ends => exact ordered.ends found rfl rest done outcome

theorem resumeStop (ordered : s.Ordered isSet) {index g : Nat} {stage : StopStage} {reply : Reply}
    (found : s.calls[index]? = some ⟨g, .stop stage⟩)
    (done : (Call.mk g (.stop stage)).awaitsTPM.any isSet = false)
    (taken : { s with calls := s.calls.eraseIdx index }.resumeStop g stage reply = some t) :
    t.Ordered isSet := by
  have rest := ordered.erase found done
  have known : g ≤ s.runtimeGeneration := ordered.known _ (List.mem_of_getElem? found)
  have pushed {s : Runtime} (ordered : s.Ordered isSet) (known : g ≤ s.runtimeGeneration)
      (stage : StopStage) (waits : (Activity.stop stage).tpm? = none) :
      (s.push g (.stop stage)).Ordered isSet := by
    refine ordered.push known rfl ?_ (fun same => by cases same) (fun isExit => by cases isExit)
    intro c other
    rw [waits] at other
    cases other
  cases stopGoesOn taken with
  | requested => exact rest
  | refused => exact rest.stopProcess known
  | findsNone => exact pushed (rest.setController fun unused => ⟨unused, rfl⟩) known _ rfl
  | waits process =>
    refine pushed (rest.setController fun unused => ?_) known _ rfl
    rw [unused] at process
    cases process
  | requestFails process =>
    refine pushed (rest.setController fun unused => ?_) known _ rfl
    rw [unused] at process
    cases process
  | exits => exact pushed (rest.setController completeExpectedTermination_unused) known _ rfl
  | timesOut => exact pushed rest known _ rfl
  | answered => exact rest.answerStop known _
  | ends => exact ordered.ends found rfl rest done .stopped

theorem resumeExit (ordered : s.Ordered isSet) {index g : Nat} {outcome : MachineRuntimeState}
    {tpm : Option Nat} (found : s.calls[index]? = some ⟨g, .exit outcome tpm⟩)
    (done : (Call.mk g (.exit outcome tpm)).awaitsTPM.any isSet = false)
    (taken : { s with calls := s.calls.eraseIdx index }.resumeExit g outcome tpm = some t) :
    t.Ordered isSet := by
  have rest := ordered.erase found done
  rw [Runtime.resumeExit] at taken
  split at taken
  · cases taken
  · cases taken
    split
    · next current =>
      -- The runtime has held nothing since the exit was reported.
      have held := (ordered.exits _ (List.mem_of_getElem? found) rfl current).1
      refine rest.finish outcome fun c same => ?_
      rw [show s.softwareTPMController = some c from same] at held
      cases held
    · exact rest

/-! ### The other steps -/

theorem stop (ordered : s.Ordered isSet) (gracefulShutdown : Bool) :
    (s.stop gracefulShutdown).Ordered isSet := by
  have stopping := ordered.withState .stopping
  rw [Runtime.stop]
  split
  · cases gracefulShutdown with
    | true =>
      exact stopping.push (Nat.le_refl _) rfl (fun _ waits => by cases waits)
        (fun same => by cases same) (fun isExit => by cases isExit)
    | false => exact stopping.stopProcess (Nat.le_refl _)
  · exact ordered

theorem forceStop (ordered : s.Ordered isSet) : s.forceStop.Ordered isSet := by
  rw [Runtime.forceStop]
  split
  · exact (ordered.withState .stopping).shutdown (Nat.le_refl _) .stopped
  · exact ordered

theorem deliver (ordered : s.Ordered isSet) {index : Nat} {report : Nat × ProcessState}
    (found : s.callbacks[index]? = some report) :
    ({ s with callbacks := s.callbacks.eraseIdx index }.handle report.1 report.2).Ordered isSet := by
  have rest : { s with callbacks := s.callbacks.eraseIdx index }.Ordered isSet :=
    ordered.of_same rfl rfl rfl rfl fun _ _ unused =>
      ⟨unused.controller, fun other member => unused.reports other (mem_of_mem_eraseIdx member)⟩
  refine rest.handle ?_ report.2
  -- A start whose process controller reports has launched it.
  intro current call member
  apply eq_false_of_ne_true
  intro isEarly
  exact (ordered.early call member isEarly).2.1.reports report (List.mem_of_getElem? found) current

theorem tpmExits (ordered : s.Ordered isSet) (c : Nat) : (s.setTPM c false).Ordered isSet where
  alive := by
    intro d runs
    by_cases same : d = c
    · exact absurd ((if_pos same).symm.trans runs) Bool.false_ne_true
    · exact ordered.alive d ((if_neg same).symm.trans runs)
  single := ordered.single
  accounted := ordered.accounted
  waiting := ordered.waiting
  known := ordered.known
  unused d later := ⟨(ordered.unused d later).controller, (ordered.unused d later).reports⟩
  early := by
    intro call member isEarly
    obtain ⟨current, unused, held, waiting⟩ := ordered.early call member isEarly
    exact ⟨current, ⟨unused.controller, unused.reports⟩, held, waiting⟩
  launching := ordered.launching
  one := ordered.one
  begun := ordered.begun
  exits := ordered.exits

/-- A controller whose process has exited is cleared. -/
theorem clear (ordered : s.Ordered isSet) {c : Nat} (exited : s.tpms c = false) :
    s.Ordered fun d => if d = c then false else isSet d := by
  have before : ∀ d, (if d = c then false else isSet d) = true → isSet d = true := by
    intro d set
    split at set
    · cases set
    · exact set
  refine ⟨?_, fun a b setA setB => ordered.single a b (before a setA) (before b setB),
    fun d set => ordered.accounted d (before d set), ordered.waiting, ordered.known,
    ordered.unused, ordered.early, ?_, ordered.one, ordered.begun, ordered.exits⟩
  · intro d runs
    have apart : d ≠ c := by
      rintro rfl
      rw [exited] at runs
      cases runs
    rw [if_neg apart]
    exact ordered.alive d runs
  · intro call member stage d
    split
    · rfl
    · exact ordered.launching call member stage d

end Ordered

end Runtime

namespace TPMRuntime

variable {s t : TPMRuntime}

/-- What holds at any time of a run whose starts find the earlier calls done: the controllers are
those of one start, and none that could still be cleared is older than the one of the socket. -/
structure Ordered (s : TPMRuntime) : Prop where
  runtime : s.runtime.Ordered s.isSet
  socket : ∀ owner, s.socket = some owner → ∀ c < owner, s.isSet c = false

theorem Ordered.resume (ordered : s.Ordered) {index : Nat} {call : Call} {reply : Reply}
    {runtime : Runtime} (found : s.runtime.calls[index]? = some call)
    (moved : { s.runtime with calls := s.runtime.calls.eraseIdx index }.resume call reply =
      some runtime) (taken : s.resume call reply runtime = some t) : t.Ordered := by
  obtain ⟨g, activity⟩ := call
  rw [TPMRuntime.resume.eq_def] at taken
  split at taken
  · next starting =>
    cases (starting : activity = .start .startingTPM)
    cases taken
    have launching := ordered.runtime.launching _ (List.mem_of_getElem? found) (.inr rfl)
    obtain ⟨current, _⟩ := ordered.runtime.early _ (List.mem_of_getElem? found) rfl
    cases (current : g = s.runtime.runtimeGeneration)
    have rest := ordered.runtime.erase found rfl
    have launched : Runtime.resumeStart _ _ .startingTPM .returns = some runtime := moved
    cases Runtime.startGoesOn launched with
    | startsTPM =>
      exact ⟨rest.launchTPM (ordered.runtime.begins found rfl) launching,
        fun owner created => (by cases created)⟩
  · next waiting =>
    cases (waiting : activity = .start .awaitingTPM)
    cases taken
    have handed : Runtime.resumeStart _ _ .awaitingTPM .returns = some runtime := moved
    cases Runtime.startGoesOn handed with
    | holdsTPM => exact ⟨ordered.runtime.holdTPM found, ordered.socket⟩
  · next launches hands =>
    split at taken
    · cases taken
    · next returned =>
      cases taken
      refine ⟨?_, ordered.socket⟩
      have done := eq_false_of_ne_true returned
      cases activity with
      | start stage =>
        refine ordered.runtime.resumeStart found done ?_ moved
        rintro rfl
        exact ⟨fun same => launches (congrArg _ same) rfl, fun same => hands (congrArg _ same) rfl⟩
      | shutdown outcome stage => exact ordered.runtime.resumeShutdown found done moved
      | stop stage => exact ordered.runtime.resumeStop found done moved
      | exit outcome tpm => exact ordered.runtime.resumeExit found done moved

theorem Ordered.stepRuntime (ordered : s.Ordered) {e : Event}
    (settled : e.isStart = true → s.runtime.state.canStart = true → s.Released)
    (taken : s.stepRuntime e = some t) : t.Ordered := by
  rw [TPMRuntime.stepRuntime.eq_def] at taken
  cases e with
  | start discoveryError =>
    cases taken
    refine ⟨?_, ordered.socket⟩
    by_cases starts : s.runtime.state.canStart = true
    · have released := settled rfl starts
      exact ordered.runtime.start released.held released.starts released.stops released.exits
        discoveryError starts
    · simp only [Runtime.start, if_neg starts]
      exact ordered.runtime
  | stop gracefulShutdown =>
    cases taken
    exact ⟨ordered.runtime.stop gracefulShutdown, ordered.socket⟩
  | forceStop =>
    cases taken
    exact ⟨ordered.runtime.forceStop, ordered.socket⟩
  | resume index reply =>
    cases moved : s.runtime.step (.resume index reply) with
    | none =>
      rw [moved] at taken
      cases taken
    | some runtime =>
      rw [moved] at taken
      cases found : s.runtime.calls[index]? with
      | none =>
        simp only [found] at taken
        cases taken
      | some call =>
        simp only [found] at taken
        simp only [Runtime.step, found] at moved
        exact ordered.resume found moved taken
  | deliver index =>
    cases found : s.runtime.callbacks[index]? with
    | none =>
      simp only [Runtime.step, found] at taken
      cases taken
    | some report =>
      simp only [Runtime.step, found] at taken
      cases taken
      exact ⟨ordered.runtime.deliver found, ordered.socket⟩
  | processExits c status =>
    simp only [Runtime.step] at taken
    by_cases running : (s.runtime.controllers c).isRunning = true
    · simp only [if_pos running] at taken
      cases taken
      refine ⟨ordered.runtime.setController fun unused => ?_, ordered.socket⟩
      rw [unused] at running
      cases running
    · simp only [if_neg running] at taken
      cases taken
  | processTerminated c =>
    simp only [Runtime.step] at taken
    cases running : (s.runtime.controllers c).isRunning with
    | true =>
      simp only [running] at taken
      cases taken
    | false =>
      cases exited : (s.runtime.controllers c).exitStatus with
      | none =>
        simp only [running, exited] at taken
        cases taken
      | some status =>
        simp only [running, exited] at taken
        cases taken
        refine ⟨ordered.runtime.setController fun unused => ?_, ordered.socket⟩
        rw [unused] at exited
        cases exited
  | tpmExits c =>
    simp only [Runtime.step] at taken
    by_cases runs : s.runtime.tpms c = true
    · simp only [if_pos runs] at taken
      cases taken
      exact ⟨ordered.runtime.tpmExits c, ordered.socket⟩
    · simp only [if_neg runs] at taken
      cases taken

theorem Ordered.step (ordered : s.Ordered) {e : TPMEvent} (settled : Settled s e)
    (taken : s.step e = some t) : t.Ordered := by
  cases e with
  | runtime event =>
    refine ordered.stepRuntime (fun isStart starts => settled ?_) taken
    rw [startBegins, isStart, starts]
    rfl
  | reboot discoveryError =>
    simp only [TPMRuntime.step] at taken
    split at taken
    · next stopped =>
      exact ordered.stepRuntime (fun _ _ => settled (decide_eq_true stopped)) taken
    · cases taken
      exact ordered
  | createsSocket owner =>
    simp only [TPMRuntime.step] at taken
    split at taken
    · next runs =>
      cases taken
      refine ⟨ordered.runtime, ?_⟩
      rintro _ ⟨⟩ c earlier
      -- The process that creates the socket is the one that is set.
      apply eq_false_of_ne_true
      intro set
      have same := ordered.runtime.single c owner set (ordered.runtime.alive owner runs)
      omega
    · cases taken
  | clear c =>
    simp only [TPMRuntime.step] at taken
    split at taken
    · next cleared =>
      cases taken
      simp only [Bool.and_eq_true, Bool.not_eq_true'] at cleared
      exact ⟨ordered.runtime.clear cleared.1.2, fun owner created => (by cases created)⟩
    · cases taken
  | socketVanishes =>
    cases taken
    exact ⟨ordered.runtime, fun owner created => (by cases created)⟩

theorem Ordered.oneTPM (ordered : s.Ordered) {e : TPMEvent} (settled : Settled s e)
    (taken : s.step e = some t) : OneTPM s e t := by
  have after := ordered.step settled taken
  refine ⟨fun a b runsA runsB =>
    after.runtime.single a b (after.runtime.alive a runsA) (after.runtime.alive b runsB), ?_⟩
  rintro c rfl owner created
  apply Nat.le_of_not_lt
  intro earlier
  have unset := ordered.socket owner created c earlier
  simp [TPMRuntime.step, unset] at taken

theorem ordered_create (recorded : MachineRuntimeState) : (create recorded).Ordered where
  runtime := by
    refine ⟨?_, fun _ _ set => ?_, ?_, ?_, ?_, fun _ _ => ⟨rfl, ?_⟩, ?_, ?_, List.Pairwise.nil,
      ?_, ?_⟩
    · rintro _ ⟨⟩
    · cases set
    all_goals rintro _ ⟨⟩
  socket _ created := by cases created

/-- **One software TPM** uses the state file, and its socket outlives the stops of earlier
controllers, in every run whose starts begin when the earlier calls are done with theirs. -/
theorem one_tpm (recorded : MachineRuntimeState) (events : List TPMEvent)
    (settled : Meets step Settled (create recorded) events) :
    Along step OneTPM (create recorded) events :=
  along_of_meets (I := Ordered) (fun _ _ _ ordered settled taken => ordered.step settled taken)
    (fun _ _ _ ordered settled taken => ordered.oneTPM settled taken) (create recorded) events
    (ordered_create recorded) settled

/-- A machine starts with its software TPM, its process exits while it stops, and it is started
again when the exit task has stopped the software TPM but has not gone on yet. -/
theorem one_tpm_restart : Along step OneTPM (create .stopped)
    [.runtime (.start none), .runtime (.resume 0 (.configured true)),
      .runtime (.resume 0 .returns), .createsSocket 1, .runtime (.resume 0 .returns),
      .runtime (.resume 0 (.launches .runs)), .runtime (.resume 0 .returns),
      .runtime (.resume 0 .returns), .runtime (.stop false), .runtime (.resume 0 .returns),
      .runtime (.processExits 1 0), .runtime (.resume 0 .returns), .runtime (.deliver 3),
      .runtime (.resume 1 .returns), .runtime (.tpmExits 1), .clear 1, .reboot none,
      .runtime (.resume 0 (.configured true)), .runtime (.resume 0 .returns),
      .createsSocket 2] :=
  one_tpm .stopped _ (by decide +kernel)

/-- A reboot whose stop is overtaken by the exit callback: the callback has taken the software
TPM, so that the stop has none to await, and the restart launches another beside it. -/
theorem reboot_launches_second_tpm :
    ¬ ∀ recorded events, Along step OneTPM (create recorded) events := by
  intro claimed
  have along := claimed .stopped
    [.runtime (.start none), .runtime (.resume 0 (.configured true)),
      .runtime (.resume 0 .returns), .createsSocket 1, .runtime (.resume 0 .returns),
      .runtime (.resume 0 (.launches .runs)), .runtime (.resume 0 .returns),
      .runtime (.resume 0 .returns), .runtime (.stop false), .runtime (.resume 0 .returns),
      .runtime (.processExits 1 0), .runtime (.resume 0 .returns), .runtime (.deliver 3),
      .runtime (.resume 1 .returns), .reboot none, .runtime (.resume 0 (.configured true)),
      .runtime (.resume 0 .returns)]
  have stopped := ((((((((along _ rfl).2 _ rfl).2 _ rfl).2 _ rfl).2 _ rfl).2 _ rfl).2 _ rfl).2 _
    rfl).2
  have rebooted := (((((((stopped _ rfl).2 _ rfl).2 _ rfl).2 _ rfl).2 _ rfl).2 _ rfl).2 _ rfl).2
  have last := (rebooted _ rfl).2 _ rfl
  exact absurd (last.1.1 1 2 rfl rfl) (by decide)

end TPMRuntime

end SimpleVM.QEMU
