import SimpleVM.QEMU.Resumption

/-!
# Which starts occupy a machine

A start occupies its machine while it is in flight and while its process runs. The newest one
also does so while the machine is active, or a call in flight may make it active. No step but
the beginning of a start makes a start occupy the machine that did not before.
-/
namespace SimpleVM.QEMU

open Domain Transition

/-- The states in which `forceStop` does anything. -/
def isActiveState (state : MachineRuntimeState) : Bool :=
  decide (state = .starting) || decide (state = .running) || decide (state = .stopping)

def Activity.isStart : Activity → Bool
  | .start _ => true
  | _ => false

/-- The call may set the state to one of the active ones. -/
def Activity.mayActivate : Activity → Bool
  | .start _ | .stop _ => true
  | .shutdown outcome _ | .exit outcome _ => isActiveState outcome

namespace Runtime

/-- A start of generation `g` is in flight. -/
def HasStart (s : Runtime) (g : Nat) : Prop :=
  ∃ call ∈ s.calls, call.generation = g ∧ call.activity.isStart = true

/-- The machine is active, or may become so without a new start. -/
def Alive (s : Runtime) : Prop :=
  isActiveState s.state = true ∨ ∃ call ∈ s.calls, call.activity.mayActivate = true

structure Occupies (s : Runtime) (g : Nat) : Prop where
  occupied : s.HasStart g ∨ (s.controllers g).isRunning = true ∨
    g = s.runtimeGeneration ∧ s.Alive

/-- In `t` no start occupies the machine that does not in `s`. -/
structure Follows (s t : Runtime) : Prop where
  generation : t.runtimeGeneration = s.runtimeGeneration
  starts : ∀ g, t.HasStart g → s.HasStart g
  running : ∀ g, (t.controllers g).isRunning = true →
    (s.controllers g).isRunning = true ∨ s.HasStart g
  alive : t.Alive → s.Alive

variable {s t u : Runtime} {g : Nat} {a : Activity} {outcome : MachineRuntimeState}

theorem isActive_eq (s : Runtime) : s.isActive = isActiveState s.state := rfl

namespace Follows

theorem refl (s : Runtime) : Follows s s where
  generation := rfl
  starts := fun _ has => has
  running := fun _ runs => .inl runs
  alive := fun alive => alive

theorem trans (first : Follows s t) (second : Follows t u) : Follows s u where
  generation := second.generation.trans first.generation
  starts := fun g has => first.starts g (second.starts g has)
  running := by
    intro g runs
    rcases second.running g runs with earlier | has
    · exact first.running g earlier
    · exact .inr (first.starts g has)
  alive := fun alive => first.alive (second.alive alive)

theorem occupies (follows : Follows s t) (occupies : t.Occupies g) : s.Occupies g := by
  rcases occupies with ⟨has | runs | ⟨newest, alive⟩⟩
  · exact ⟨.inl (follows.starts g has)⟩
  · rcases follows.running g runs with earlier | has
    · exact ⟨.inr (.inl earlier)⟩
    · exact ⟨.inl has⟩
  · exact ⟨.inr (.inr ⟨newest.trans follows.generation, follows.alive alive⟩)⟩

/-- What else the runtime holds is of no account. -/
theorem of_fields (generation : t.runtimeGeneration = s.runtimeGeneration)
    (calls : ∀ call ∈ t.calls, call ∈ s.calls) (controllers : t.controllers = s.controllers)
    (state : isActiveState t.state = true → s.Alive) : Follows s t where
  generation := generation
  starts := by
    rintro g ⟨call, member, rest⟩
    exact ⟨call, calls call member, rest⟩
  running := fun g runs => .inl (controllers ▸ runs)
  alive := by
    rintro (active | ⟨call, member, activates⟩)
    · exact state active
    · exact .inr ⟨call, calls call member, activates⟩

/-- A call in flight is forgotten. -/
theorem drop (s : Runtime) (g : Nat) (a : Activity) : Follows (s.push g a) s := by
  apply of_fields
  · rfl
  · exact fun call member => List.mem_cons_of_mem _ member
  · rfl
  · exact fun active => .inl active

/-- A call that is taken out of the list stands in front of it. -/
theorem takeOut {index : Nat} {call : Call} (found : s.calls[index]? = some call) :
    Follows s ({ s with calls := s.calls.eraseIdx index }.push call.generation call.activity) := by
  apply of_fields
  · rfl
  · intro other member
    rcases List.mem_cons.mp member with rfl | member
    · exact List.mem_of_getElem? found
    · exact mem_of_mem_eraseIdx member
  · rfl
  · exact fun active => .inl active

/-- A call that is no start and activates nothing. -/
theorem pushIdle (s : Runtime) (g : Nat) (noStart : a.isStart = false)
    (idle : a.mayActivate = true → s.Alive) : Follows s (s.push g a) where
  generation := rfl
  starts := by
    rintro h ⟨call, member, generation, start⟩
    rcases List.mem_cons.mp member with rfl | member
    · simp only at start
      rw [noStart] at start
      cases start
    · exact ⟨call, member, generation, start⟩
  running := fun _ runs => .inl runs
  alive := by
    rintro (active | ⟨call, member, activates⟩)
    · exact .inl active
    · rcases List.mem_cons.mp member with rfl | member
      · exact idle activates
      · exact .inr ⟨call, member, activates⟩

/-- A call goes on to its next suspension. -/
theorem replace (s : Runtime) (g : Nat) {a b : Activity}
    (starts : b.isStart = true → a.isStart = true)
    (activates : b.mayActivate = true → (s.push g a).Alive) :
    Follows (s.push g a) (s.push g b) where
  generation := rfl
  starts := by
    rintro h ⟨call, member, generation, start⟩
    rcases List.mem_cons.mp member with rfl | member
    · exact ⟨_, List.mem_cons_self, generation, starts start⟩
    · exact ⟨call, List.mem_cons_of_mem _ member, generation, start⟩
  running := fun _ runs => .inl runs
  alive := by
    rintro (active | ⟨call, member, activates'⟩)
    · exact .inl active
    · rcases List.mem_cons.mp member with rfl | member
      · exact activates activates'
      · exact .inr ⟨call, List.mem_cons_of_mem _ member, activates'⟩

theorem pushStart (s : Runtime) (g : Nat) (stage stage' : StartStage) :
    Follows (s.push g (.start stage)) (s.push g (.start stage')) := by
  apply replace
  · exact fun start => start
  · exact fun _ => .inr ⟨_, List.mem_cons_self, rfl⟩

/-- `push` goes before or after what changes neither calls nor state. -/
theorem push (follows : Follows s t) (g : Nat) (a : Activity) :
    Follows (s.push g a) (t.push g a) where
  generation := follows.generation
  starts := by
    rintro h ⟨call, member, generation, start⟩
    rcases List.mem_cons.mp member with rfl | member
    · exact ⟨_, List.mem_cons_self, generation, start⟩
    · obtain ⟨earlier, listed, rest⟩ := follows.starts h ⟨call, member, generation, start⟩
      exact ⟨earlier, List.mem_cons_of_mem _ listed, rest⟩
  running := by
    intro h runs
    rcases follows.running h runs with earlier | ⟨call, member, rest⟩
    · exact .inl earlier
    · exact .inr ⟨call, List.mem_cons_of_mem _ member, rest⟩
  alive := by
    have kept (alive : s.Alive) : (s.push g a).Alive := by
      rcases alive with active | ⟨call, member, activates⟩
      · exact .inl active
      · exact .inr ⟨call, List.mem_cons_of_mem _ member, activates⟩
    rintro (active | ⟨call, member, activates⟩)
    · exact kept (follows.alive (.inl active))
    · rcases List.mem_cons.mp member with rfl | member
      · exact .inr ⟨_, List.mem_cons_self, activates⟩
      · exact kept (follows.alive (.inr ⟨call, member, activates⟩))

theorem setTPM (s : Runtime) (t : Nat) (isRunning : Bool) : Follows s (s.setTPM t isRunning) :=
  of_fields rfl (fun _ member => member) rfl fun active => .inl active

theorem running_setController {h c : Nat} {controller : ProcessController}
    {reports : List ProcessState}
    (runs : ((s.setController c controller reports).controllers h).isRunning = true) :
    h = c ∧ controller.isRunning = true ∨ (s.controllers h).isRunning = true := by
  simp only [Runtime.setController] at runs
  split at runs
  · next same => exact .inl ⟨same, runs⟩
  · exact .inr runs

/-- No process is launched in a controller. -/
theorem setController (s : Runtime) (c : Nat) (controller : ProcessController)
    (reports : List ProcessState)
    (stays : controller.isRunning = true → (s.controllers c).isRunning = true) :
    Follows s (s.setController c controller reports) where
  generation := rfl
  starts := fun _ has => has
  running := by
    intro h runs
    rcases running_setController runs with ⟨rfl, here⟩ | before
    · exact .inl (stays here)
    · exact .inl before
  alive := fun alive => alive

/-- A start in flight may launch its own process. -/
theorem launch (s : Runtime) (g : Nat) (stage : StartStage) (controller : ProcessController)
    (reports : List ProcessState) :
    Follows (s.push g (.start stage))
      ((s.push g (.start stage)).setController g controller reports) where
  generation := rfl
  starts := fun _ has => has
  running := by
    intro h runs
    rcases running_setController runs with ⟨rfl, -⟩ | before
    · exact .inr ⟨_, List.mem_cons_self, rfl, rfl⟩
    · exact .inl before
  alive := fun alive => alive

theorem withState (state : MachineRuntimeState) (active : isActiveState state = true → s.Alive) :
    Follows s { s with state := state } :=
  of_fields rfl (fun _ member => member) rfl active

theorem finish (active : isActiveState outcome = true → s.Alive) : Follows s (s.finish outcome) :=
  of_fields rfl (fun _ member => member) rfl active

/-- The call that finishes is no longer in flight. -/
theorem finishLast (s : Runtime) (g : Nat) (a : Activity)
    (active : isActiveState outcome = true → (s.push g a).Alive) :
    Follows (s.push g a) (s.finish outcome) := by
  apply of_fields
  · rfl
  · exact fun call member => List.mem_cons_of_mem _ member
  · rfl
  · exact active

theorem shutdownTPM (g : Nat) (active : isActiveState outcome = true → s.Alive) :
    Follows s (s.shutdownTPM g outcome) := by
  unfold Runtime.shutdownTPM
  split
  · apply pushIdle _ _ rfl
    exact active
  · exact finish active

theorem shutdown (g : Nat) (active : isActiveState outcome = true → s.Alive) :
    Follows s (s.shutdown g outcome) := by
  unfold Runtime.shutdown
  split
  · apply pushIdle _ _ rfl
    exact active
  · exact shutdownTPM g active

/-- The catch block of `start`. -/
theorem shutdownFailed (s : Runtime) (g : Nat) (message : String) :
    Follows s (s.shutdown g (.failed message)) := by
  apply shutdown
  intro active
  cases active

theorem answerStop (g : Nat) (result : QEMUStopResult) (alive : s.Alive) :
    Follows s (s.answerStop g result) := by
  unfold Runtime.answerStop
  cases result with
  | stopped =>
    simp only
    split
    · apply pushIdle _ _ rfl
      exact fun _ => alive
    · apply finish
      exact fun _ => alive
  | timedOut => exact refl s
  | requestFailed message =>
    apply withState
    exact fun _ => alive

theorem stopProcess (g : Nat) (alive : s.Alive) : Follows s (s.stopProcess g) := by
  unfold Runtime.stopProcess
  split
  · apply pushIdle _ _ rfl
    exact fun _ => alive
  · exact answerStop g .stopped alive

/-- A start that goes on, fails or ends. -/
theorem resumeStart {stage : StartStage} {reply : Reply}
    (resumed : s.resumeStart g stage reply = some t) : Follows (s.push g (.start stage)) t := by
  have alive : (s.push g (.start stage)).Alive := .inr ⟨_, List.mem_cons_self, rfl⟩
  have failed (message : String) :
      Follows (s.push g (.start stage)) (s.shutdown g (.failed message)) :=
    (drop s g (.start stage)).trans (shutdownFailed s g message)
  have launching {stage : StartStage} (controller tpm : Option Nat) :
      Follows (s.push g (.start stage)) ({ s with
        processController := controller
        softwareTPMController := tpm }.push g (.start .startingProcess)) := by
    apply (pushStart s g stage .startingProcess).trans
    apply of_fields
    · rfl
    · exact fun call member => member
    · rfl
    · exact fun active => .inl active
  cases Runtime.startGoesOn resumed with
  | needsTPM => exact pushStart s g .allocatingPort .startingTPM
  | needsNoTPM => exact launching (some g) s.softwareTPMController
  | startsTPM => exact (pushStart s g .startingTPM .awaitingTPM).trans ((setTPM s g true).push g _)
  | holdsTPM => exact launching (some g) (some g)
  -- A launch that fails leaves no process, and one that succeeds is this start's own.
  | launches =>
    apply (pushStart s g .startingProcess .processStarted).trans
    exact launch s g .processStarted _ _
  | launchFails =>
    apply (pushStart s g .startingProcess (.processFailed _)).trans
    exact launch s g _ _ _
  | reportsFailure => exact failed _
  | connects => exact pushStart s g .processStarted .connecting
  | runs =>
    apply (withState .running fun _ => alive).trans
    apply of_fields
    · rfl
    · exact fun call member => List.mem_cons_of_mem _ member
    · rfl
    · exact fun active => .inl active
  | fails => exact failed _

theorem completeExpectedTermination_running {controller : ProcessController}
    (runs : controller.completeExpectedTermination.1.isRunning = true) :
    controller.isRunning = true := by
  unfold ProcessController.completeExpectedTermination at runs
  split at runs <;> exact runs

/-- A shutdown that goes on or ends. -/
theorem resumeShutdown {stage : ShutdownStage}
    (resumed : s.resumeShutdown g outcome stage = some t) :
    Follows (s.push g (.shutdown outcome stage)) t := by
  have alive (active : isActiveState outcome = true) :
      (s.push g (.shutdown outcome stage)).Alive := .inr ⟨_, List.mem_cons_self, active⟩
  have onward {u : Runtime} (follows : Follows s u) (stage' : ShutdownStage) :
      Follows (s.push g (.shutdown outcome stage)) (u.push g (.shutdown outcome stage')) := by
    apply (replace s g _ _).trans (follows.push g _)
    · exact fun start => start
    · exact alive
  cases Runtime.shutdownGoesOn resumed with
  | kills =>
    apply onward
    apply setController
    exact fun runs => runs
  | findsNone => exact onward (refl s) _
  | killed =>
    apply onward
    apply setController
    exact completeExpectedTermination_running
  | releasesTPM =>
    unfold Runtime.shutdownTPM
    split
    · exact onward (refl s) _
    · exact finishLast s g _ alive
  | ends => exact finishLast s g _ alive

/-- A stop that goes on, ends or finds that the guest will not stop. -/
theorem resumeStop {stage : StopStage} {reply : Reply}
    (resumed : s.resumeStop g stage reply = some t) : Follows (s.push g (.stop stage)) t := by
  have alive : (s.push g (.stop stage)).Alive := .inr ⟨_, List.mem_cons_self, rfl⟩
  have onward {u : Runtime} (follows : Follows s u) (stage' : StopStage) :
      Follows (s.push g (.stop stage)) (u.push g (.stop stage')) := by
    apply (replace s g _ _).trans (follows.push g _)
    · exact fun start => start
    · exact fun _ => alive
  have answered (result : QEMUStopResult) :
      Follows (s.push g (.stop stage)) (s.answerStop g result) := by
    unfold Runtime.answerStop
    cases result with
    | stopped =>
      simp only
      split
      · exact onward (refl s) _
      · exact finishLast s g _ fun _ => alive
    | timedOut => exact drop s g _
    | requestFailed message =>
      apply (withState .running fun _ => alive).trans
      apply of_fields
      · rfl
      · exact fun call member => List.mem_cons_of_mem _ member
      · rfl
      · exact fun active => .inl active
  cases Runtime.stopGoesOn resumed with
  | requested => exact drop s g _
  | refused =>
    unfold Runtime.stopProcess
    split
    · exact onward (refl s) _
    · exact answered .stopped
  -- The actor answers at once, or waits for the process to exit.
  | findsNone | waits | requestFails =>
    apply onward
    apply setController
    exact fun runs => runs
  | exits =>
    apply onward
    apply setController
    exact completeExpectedTermination_running
  | timesOut => exact onward (refl s) _
  | answered => exact answered _
  | ends => exact finishLast s g _ fun _ => alive

theorem resumeExit {tpm : Option Nat} (resumed : s.resumeExit g outcome tpm = some t) :
    Follows (s.push g (.exit outcome tpm)) t := by
  unfold Runtime.resumeExit at resumed
  split at resumed
  · cases resumed
  · cases resumed
    split
    · apply finishLast
      exact fun active => .inr ⟨_, List.mem_cons_self, active⟩
    · exact drop s g _

theorem resume {call : Call} {reply : Reply} (resumed : s.resume call reply = some t) :
    Follows (s.push call.generation call.activity) t := by
  unfold Runtime.resume at resumed
  cases activity : call.activity with
  | start stage =>
    rw [activity] at resumed
    exact resumeStart resumed
  | shutdown outcome stage =>
    rw [activity] at resumed
    exact resumeShutdown resumed
  | stop stage =>
    rw [activity] at resumed
    exact resumeStop resumed
  | exit outcome tpm =>
    rw [activity] at resumed
    exact resumeExit resumed

theorem stop (s : Runtime) (gracefulShutdown : Bool) : Follows s (s.stop gracefulShutdown) := by
  unfold Runtime.stop
  split
  · rename_i guarded
    have alive : s.Alive := by
      left
      rcases guarded with running | stopping
      · simp [isActiveState, running]
      · simp [isActiveState, stopping]
    have stopping : Follows s { s with state := .stopping } := by
      apply withState
      exact fun _ => alive
    split
    · apply stopping.trans
      apply pushIdle _ _ rfl
      exact fun _ => .inl rfl
    · apply stopping.trans
      apply stopProcess
      exact .inl rfl
  · exact refl s

theorem forceStop (s : Runtime) : Follows s s.forceStop := by
  unfold Runtime.forceStop
  split
  · rename_i active
    have alive : s.Alive := .inl (s.isActive_eq ▸ active)
    have stopping : Follows s { s with state := .stopping } := by
      apply withState
      exact fun _ => alive
    apply stopping.trans
    apply shutdown
    exact fun _ => .inl rfl
  · exact refl s

theorem handle (s : Runtime) (index generation : Nat) (processState : ProcessState) :
    Follows s ({ s with callbacks := s.callbacks.eraseIdx index }.handle generation
      processState) := by
  have exited (outcome : MachineRuntimeState) (inactive : isActiveState outcome = false) :
      Follows s ({ s with callbacks := s.callbacks.eraseIdx index }.finishAfterProcessExit
        outcome) := by
    unfold Runtime.finishAfterProcessExit
    apply Follows.trans _ (pushIdle _ _ rfl _)
    · apply of_fields
      · rfl
      · exact fun call member => member
      · rfl
      · exact fun active => .inl active
    · intro active
      simp [Activity.mayActivate, inactive] at active
  have same : Follows s { s with callbacks := s.callbacks.eraseIdx index } := by
    apply of_fields
    · rfl
    · exact fun call member => member
    · rfl
    · exact fun active => .inl active
  unfold Runtime.handle
  split
  · cases processState with
    | stopped => exact exited .stopped rfl
    | failed message => exact exited (.failed message) rfl
    | starting => exact same
    | running => exact same
    | stopping => exact same
  · exact same

end Follows

/-- A new start has a new generation; the others occupy the machine if they did. -/
theorem occupies_start {discoveryError : Option String}
    (occupies : (s.start discoveryError).Occupies g) :
    s.Occupies g ∨ s.state.canStart = true ∧ g = s.runtimeGeneration + 1 := by
  unfold Runtime.start at occupies
  split at occupies
  · rename_i mayStart
    have begun : ({ s with
        runtimeGeneration := s.runtimeGeneration + 1
        state := .starting }.push (s.runtimeGeneration + 1)
          (.start .allocatingPort)).Occupies g := by
      cases discoveryError with
      | none => exact occupies
      | some message =>
        have caught := Follows.shutdownFailed { s with
          runtimeGeneration := s.runtimeGeneration + 1
          state := .starting } (s.runtimeGeneration + 1) message
        exact (Follows.drop _ _ _).occupies (caught.occupies occupies)
    rcases begun with ⟨⟨call, member, generation, start⟩ | runs | ⟨newest, -⟩⟩
    · rcases List.mem_cons.mp member with rfl | member
      · exact .inr ⟨mayStart, generation.symm⟩
      · exact .inl ⟨.inl ⟨call, member, generation, start⟩⟩
    · exact .inl ⟨.inr (.inl runs)⟩
    · exact .inr ⟨mayStart, newest⟩
  · exact .inl occupies

theorem generation_start (s : Runtime) (discoveryError : Option String) :
    (s.start discoveryError).runtimeGeneration = s.runtimeGeneration ∨
      (s.start discoveryError).runtimeGeneration = s.runtimeGeneration + 1 := by
  unfold Runtime.start
  split
  · cases discoveryError with
    | none => exact .inr rfl
    | some message =>
      have caught := Follows.shutdownFailed { s with
        runtimeGeneration := s.runtimeGeneration + 1
        state := .starting } (s.runtimeGeneration + 1) message
      exact .inr caught.generation
  · exact .inl rfl

/-- Every step but the beginning of a start leaves the occupation of the machine alone. -/
theorem follows_step {e : Event} (noStart : e.isStart = false) (stepped : s.step e = some t) :
    Follows s t := by
  cases e with
  | start discoveryError => cases noStart
  | stop gracefulShutdown =>
    cases stepped
    exact Follows.stop s gracefulShutdown
  | forceStop =>
    cases stepped
    exact Follows.forceStop s
  | resume index reply =>
    simp only [Runtime.step] at stepped
    split at stepped
    · cases stepped
    · rename_i call found
      exact (Follows.takeOut found).trans (Follows.resume stepped)
  | deliver index =>
    simp only [Runtime.step] at stepped
    split at stepped
    · cases stepped
    · cases stepped
      exact Follows.handle s index _ _
  | processExits c status =>
    simp only [Runtime.step] at stepped
    split at stepped
    · cases stepped
      apply Follows.setController
      intro runs
      cases runs
    · cases stepped
  | processTerminated c =>
    simp only [Runtime.step] at stepped
    split at stepped
    · cases stepped
    · cases stepped
    · cases stepped
      apply Follows.setController
      unfold ProcessController.processTerminated
      split <;> exact fun runs => runs
  | tpmExits tpm =>
    simp only [Runtime.step] at stepped
    split at stepped
    · cases stepped
      exact Follows.setTPM s tpm false
    · cases stepped

/-- A start that occupies the machine after a step did so before it, or begins with it. -/
theorem occupies_step {e : Event} (stepped : s.step e = some t) (occupies : t.Occupies g) :
    s.Occupies g ∨ g = s.runtimeGeneration + 1 := by
  cases kind : e.isStart with
  | false => exact .inl ((follows_step kind stepped).occupies occupies)
  | true =>
    cases e with
    | start discoveryError =>
      cases stepped
      rcases occupies_start occupies with earlier | ⟨-, begun⟩
      · exact .inl earlier
      · exact .inr begun
    | _ => cases kind

/-- Generations are not taken back. -/
theorem generation_step {e : Event} (stepped : s.step e = some t) :
    s.runtimeGeneration ≤ t.runtimeGeneration := by
  cases kind : e.isStart with
  | false => exact Nat.le_of_eq (follows_step kind stepped).generation.symm
  | true =>
    cases e with
    | start discoveryError =>
      cases stepped
      rcases generation_start s discoveryError with same | next
      · exact Nat.le_of_eq same.symm
      · rw [next]
        exact Nat.le_succ _
    | _ => cases kind

/-- No start in flight is of a generation to come. -/
def Known (s : Runtime) : Prop := ∀ g, s.HasStart g → g ≤ s.runtimeGeneration

theorem Known.follows (known : s.Known) (follows : Follows s t) : t.Known := by
  intro g has
  rw [follows.generation]
  exact known g (follows.starts g has)

theorem Known.start (known : s.Known) (discoveryError : Option String) :
    (s.start discoveryError).Known := by
  unfold Runtime.start
  split
  · have begun : ({ s with
        runtimeGeneration := s.runtimeGeneration + 1
        state := .starting }.push (s.runtimeGeneration + 1) (.start .allocatingPort)).Known := by
      rintro g ⟨call, member, generation, start⟩
      rcases List.mem_cons.mp member with rfl | member
      · exact Nat.le_of_eq generation.symm
      · exact Nat.le_succ_of_le (known g ⟨call, member, generation, start⟩)
    cases discoveryError with
    | none => exact begun
    | some message =>
      exact (begun.follows (Follows.drop _ _ _)).follows (Follows.shutdownFailed _ _ message)
  · exact known

theorem Known.step (known : s.Known) {e : Event} (stepped : s.step e = some t) : t.Known := by
  cases kind : e.isStart with
  | false => exact known.follows (follows_step kind stepped)
  | true =>
    cases e with
    | start discoveryError =>
      cases stepped
      exact known.start discoveryError
    | _ => cases kind

end Runtime

end SimpleVM.QEMU
