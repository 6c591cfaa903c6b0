import SimpleVM.QEMU.Resumption
import SimpleVM.Transition.Run

/-!
# Recovery of the QEMU runtime

A runtime without calls in flight and without a process ends in `.stopped` when it is force
stopped, unless it has failed. Nothing but a start that throws and the report of a process that
has failed leads to `.failed`.
-/
namespace SimpleVM.QEMU

open Domain Transition

/-- What a `forceStop` that is suspended waits for. -/
def Event.isCompletion : Event → Bool
  | .resume .. | .tpmExits _ => true
  | _ => false

/-- The call ends in `.failed`. -/
def Activity.isFailing : Activity → Bool
  | .start (.processFailed _) => true
  | .shutdown outcome _ | .exit outcome _ => outcome.hasFailed
  | _ => false

namespace Runtime

/-- No part of a start throws, QEMU is launched, and no failure of the latest process is
reported. -/
def Sound (s : Runtime) : Event → Prop
  | .start discoveryError => discoveryError = none
  | .resume index reply => ∀ call stage, s.calls[index]? = some call →
    call.activity = .start stage → reply.error? = none ∧ ∀ launch, reply = .launches launch →
      launch = .runs ∧ (s.controllers call.generation).process = false
  | .deliver index => ∀ message, s.callbacks[index]? ≠ some (s.runtimeGeneration, .failed message)
  | _ => True

structure Recoverable (s : Runtime) : Prop where
  unfailed : s.state.hasFailed = false
  calls : ∀ call ∈ s.calls, call.activity.isFailing = false

theorem recoverable_create {recorded : MachineRuntimeState} (unfailed : recorded.hasFailed = false) :
    (create recorded).Recoverable := by
  have stopped : (create recorded).state = .stopped := recorded.restored_of_unfailed unfailed
  refine ⟨?_, (by intros; contradiction)⟩
  rw [stopped]
  rfl

namespace Recoverable

variable {s t : Runtime} {outcome : MachineRuntimeState}

/-- Only the state and the calls play a part. -/
theorem of (recoverable : s.Recoverable) (calls : t.calls = s.calls)
    (unfailed : t.state.hasFailed = false) : t.Recoverable :=
  ⟨unfailed, by rw [calls]; exact recoverable.calls⟩

theorem push (recoverable : s.Recoverable) (generation : Nat) {activity : Activity}
    (sound : activity.isFailing = false) : (s.push generation activity).Recoverable := by
  refine ⟨recoverable.unfailed, fun call member => ?_⟩
  rcases List.mem_cons.mp member with rfl | member
  · exact sound
  · exact recoverable.calls call member

theorem takeOut (recoverable : s.Recoverable) (index : Nat) :
    ({ s with calls := s.calls.eraseIdx index } : Runtime).Recoverable :=
  ⟨recoverable.unfailed, fun call member => recoverable.calls call (mem_of_mem_eraseIdx member)⟩

theorem finish (recoverable : s.Recoverable) (unfailed : outcome.hasFailed = false) :
    (s.finish outcome).Recoverable := recoverable.of rfl unfailed

theorem setController (recoverable : s.Recoverable) (c : Nat) (controller : ProcessController)
    (reports : List ProcessState) : (s.setController c controller reports).Recoverable :=
  recoverable.of rfl recoverable.unfailed

theorem setTPM (recoverable : s.Recoverable) (t : Nat) (isRunning : Bool) :
    (s.setTPM t isRunning).Recoverable := recoverable.of rfl recoverable.unfailed

theorem shutdownTPM (recoverable : s.Recoverable) (g : Nat) (unfailed : outcome.hasFailed = false) :
    (s.shutdownTPM g outcome).Recoverable := by
  unfold Runtime.shutdownTPM
  split
  · exact recoverable.push g unfailed
  · exact recoverable.finish unfailed

theorem shutdown (recoverable : s.Recoverable) (g : Nat) (unfailed : outcome.hasFailed = false) :
    (s.shutdown g outcome).Recoverable := by
  unfold Runtime.shutdown
  split
  · exact recoverable.push g unfailed
  · exact recoverable.shutdownTPM g unfailed

theorem startProcess (recoverable : s.Recoverable) (g : Nat) : (s.startProcess g).Recoverable := by
  have held : ({ s with processController := some g } : Runtime).Recoverable :=
    recoverable.of rfl recoverable.unfailed
  exact held.push g rfl

theorem answerStop (recoverable : s.Recoverable) (g : Nat) (result : QEMUStopResult) :
    (s.answerStop g result).Recoverable := by
  cases result with
  | stopped =>
    simp only [Runtime.answerStop]
    split
    · exact recoverable.push g rfl
    · exact recoverable.finish rfl
  | timedOut => exact recoverable
  | requestFailed message => exact recoverable.of rfl rfl

theorem stopProcess (recoverable : s.Recoverable) (g : Nat) : (s.stopProcess g).Recoverable := by
  unfold Runtime.stopProcess
  split
  · exact recoverable.push g rfl
  · exact recoverable.answerStop g .stopped

theorem stop (recoverable : s.Recoverable) (gracefulShutdown : Bool) :
    (s.stop gracefulShutdown).Recoverable := by
  have stopping : ({ s with state := .stopping } : Runtime).Recoverable := recoverable.of rfl rfl
  simp only [Runtime.stop]
  split
  · split
    · exact stopping.push _ rfl
    · exact stopping.stopProcess _
  · exact recoverable

theorem forceStop (recoverable : s.Recoverable) : s.forceStop.Recoverable := by
  have stopping : ({ s with state := .stopping } : Runtime).Recoverable := recoverable.of rfl rfl
  simp only [Runtime.forceStop]
  split
  · exact stopping.shutdown _ rfl
  · exact recoverable

theorem start (recoverable : s.Recoverable) : (s.start none).Recoverable := by
  have starting : ({ s with
      runtimeGeneration := s.runtimeGeneration + 1, state := .starting } : Runtime).Recoverable :=
    recoverable.of rfl rfl
  simp only [Runtime.start]
  split
  · exact starting.push _ rfl
  · exact recoverable

theorem resumeStart {g : Nat} {stage : StartStage} {reply : Reply} (recoverable : s.Recoverable)
    (returned : reply.error? = none)
    (launched : ∀ launch, reply = .launches launch →
      launch = .runs ∧ (s.controllers g).process = false)
    (whole : ∀ message, stage ≠ .processFailed message)
    (taken : s.resumeStart g stage reply = some t) : t.Recoverable := by
  cases Runtime.startGoesOn taken with
  | needsTPM => exact recoverable.push g rfl
  | needsNoTPM => exact recoverable.startProcess g
  | startsTPM => exact (recoverable.setTPM g true).push g rfl
  | holdsTPM =>
    have held : ({ s with softwareTPMController := some g } : Runtime).Recoverable :=
      recoverable.of rfl recoverable.unfailed
    exact held.startProcess g
  | launches => exact (recoverable.setController g _ _).push g rfl
  | launchFails refused =>
    -- The launch succeeds, so that the start does not come to `.processFailed`.
    obtain ⟨rfl, free⟩ := launched _ rfl
    simp only [ProcessController.start, free] at refused
    cases refused
  | reportsFailure => exact absurd rfl (whole _)
  | connects => exact recoverable.push g rfl
  | runs => exact recoverable.of rfl rfl
  | fails => cases returned

theorem resumeShutdown {g : Nat} {stage : ShutdownStage} (recoverable : s.Recoverable)
    (unfailed : outcome.hasFailed = false)
    (taken : s.resumeShutdown g outcome stage = some t) : t.Recoverable := by
  cases Runtime.shutdownGoesOn taken with
  | kills => exact (recoverable.setController _ _ _).push g unfailed
  | findsNone => exact recoverable.push g unfailed
  | killed => exact (recoverable.setController _ _ _).push g unfailed
  | releasesTPM => exact recoverable.shutdownTPM g unfailed
  | ends => exact recoverable.finish unfailed

theorem resumeStop {g : Nat} {stage : StopStage} {reply : Reply} (recoverable : s.Recoverable)
    (taken : s.resumeStop g stage reply = some t) : t.Recoverable := by
  cases Runtime.stopGoesOn taken with
  | requested => exact recoverable
  | refused => exact recoverable.stopProcess g
  | findsNone => exact (recoverable.setController _ _ _).push g rfl
  | waits => exact (recoverable.setController _ _ _).push g rfl
  | requestFails => exact (recoverable.setController _ _ _).push g rfl
  | exits => exact (recoverable.setController _ _ _).push g rfl
  | timesOut => exact recoverable.push g rfl
  | answered => exact recoverable.answerStop g _
  | ends => exact recoverable.finish rfl

theorem resumeExit {g : Nat} {tpm : Option Nat} (recoverable : s.Recoverable)
    (unfailed : outcome.hasFailed = false)
    (taken : s.resumeExit g outcome tpm = some t) : t.Recoverable := by
  unfold Runtime.resumeExit at taken
  split at taken
  · cases taken
  · cases taken
    split
    · exact recoverable.finish unfailed
    · exact recoverable

theorem handle (recoverable : s.Recoverable) {generation : Nat} {processState : ProcessState}
    (sound : ∀ message, (generation, processState) ≠ (s.runtimeGeneration, .failed message)) :
    (s.handle generation processState).Recoverable := by
  have released : ({ s with softwareTPMController := none } : Runtime).Recoverable :=
    recoverable.of rfl recoverable.unfailed
  unfold Runtime.handle
  split
  next current =>
    cases processState with
    | stopped => exact released.push _ rfl
    | failed message => exact absurd (by rw [current]) (sound message)
    | starting | running | stopping => exact recoverable
  next => exact recoverable

/-- **Step lemma.** -/
theorem step {e : Event} (recoverable : s.Recoverable) (sound : s.Sound e)
    (taken : s.step e = some t) : t.Recoverable := by
  cases e with
  | start discoveryError =>
    have none : discoveryError = none := sound
    subst none
    cases taken
    exact recoverable.start
  | stop gracefulShutdown =>
    cases taken
    exact recoverable.stop gracefulShutdown
  | forceStop =>
    cases taken
    exact recoverable.forceStop
  | resume index reply =>
    simp only [Runtime.step] at taken
    split at taken
    · cases taken
    next call found =>
      have rest := recoverable.takeOut index
      have unfailing := recoverable.calls call (List.mem_of_getElem? found)
      obtain ⟨generation, activity⟩ := call
      cases activity with
      | start stage =>
        obtain ⟨returned, launched⟩ := sound _ stage found rfl
        refine rest.resumeStart returned launched ?_ taken
        rintro message rfl
        cases unfailing
      | shutdown outcome stage => exact rest.resumeShutdown unfailing taken
      | stop stage => exact rest.resumeStop taken
      | exit outcome tpm => exact rest.resumeExit unfailing taken
  | deliver index =>
    simp only [Runtime.step] at taken
    split at taken
    · cases taken
    next generation processState found =>
      cases taken
      have rest : ({ s with callbacks := s.callbacks.eraseIdx index } : Runtime).Recoverable :=
        recoverable.of rfl recoverable.unfailed
      apply rest.handle
      intro message same
      exact sound message (found.trans (congrArg some same))
  | processExits c status =>
    simp only [Runtime.step] at taken
    split at taken
    · cases taken
      exact recoverable.setController _ _ _
    · cases taken
  | processTerminated c =>
    simp only [Runtime.step] at taken
    split at taken
    · cases taken
    · cases taken
    · cases taken
      exact recoverable.setController _ _ _
  | tpmExits tpm =>
    simp only [Runtime.step] at taken
    split at taken
    · cases taken
      exact recoverable.setTPM _ _
    · cases taken

end Recoverable

/-- The force stop in flight comes to an end, and the runtime is stopped. -/
def Ends (s : Runtime) : Prop :=
  ∃ events t, (∀ e ∈ events, Event.isCompletion e = true) ∧ Run Runtime.step s events t ∧
    Meets Runtime.step Sound s events ∧ t.state = .stopped

theorem Ends.next {s t : Runtime} {e : Event} (taken : s.step e = some t)
    (completes : e.isCompletion = true) (sound : s.Sound e) (ends : t.Ends) : s.Ends := by
  obtain ⟨events, last, all, run, meets, stopped⟩ := ends
  refine ⟨e :: events, last, fun other member => ?_, .next taken run, .next taken sound meets,
    stopped⟩
  rcases List.mem_cons.mp member with rfl | member
  · exact completes
  · exact all other member

section Shutdown

variable {s : Runtime} {g : Nat}

/-- The only call in flight is a shutdown, which is resumed. -/
theorem Ends.resume {stage : ShutdownStage} {t : Runtime}
    (only : s.calls = [⟨g, .shutdown .stopped stage⟩])
    (resumed : ({ s with calls := [] } : Runtime).resumeShutdown g .stopped stage = some t)
    (ends : t.Ends) : s.Ends := by
  refine Ends.next (e := .resume 0 .returns) ?_ rfl ?_ ends
  · simp only [Runtime.step, only]
    exact resumed
  · intro call stage found started
    rw [only] at found
    cases found
    cases started

theorem ends_stoppingTPM {t : Nat}
    (only : s.calls = [⟨g, .shutdown .stopped (.stoppingTPM t)⟩]) : s.Ends := by
  -- Without its process the controller answers at once, otherwise when the process has exited.
  have answered (s : Runtime) (only : s.calls = [⟨g, .shutdown .stopped (.stoppingTPM t)⟩])
      (stopped : s.tpms t = false) : s.Ends := by
    have ended : (({ s with calls := [] } : Runtime).finish .stopped).Ends :=
      ⟨[], _, (by intros; contradiction), .done _, trivial, rfl⟩
    refine Ends.resume only ?_ ended
    simp [Runtime.resumeShutdown, stopped]
  cases running : s.tpms t with
  | false => exact answered s only running
  | true =>
    have taken : s.step (.tpmExits t) = some (s.setTPM t false) := by
      simp [Runtime.step, running]
    exact Ends.next taken rfl trivial (answered _ only (by simp [Runtime.setTPM]))

theorem ends_shutdownTPM (idle : s.calls = []) : (s.shutdownTPM g .stopped).Ends := by
  unfold shutdownTPM
  split
  · exact ends_stoppingTPM (by rw [Runtime.push, idle])
  · exact ⟨[], _, (by intros; contradiction), .done _, trivial, rfl⟩

theorem ends_killed {c : Nat} (idle : s.calls = []) :
    (s.push g (.shutdown .stopped (.killed c))).Ends := by
  refine Ends.resume (by rw [Runtime.push, idle]) rfl ?_
  exact ends_shutdownTPM rfl

theorem ends_killWaiting {c : Nat} (idle : s.calls = [])
    (dead : (s.controllers c).isRunning = false) :
    (s.push g (.shutdown .stopped (.killWaiting c))).Ends := by
  have resumed : ({ s with calls := [] } : Runtime).resumeShutdown g .stopped (.killWaiting c) =
      some ((({ s with calls := [] } : Runtime).setController c
        (s.controllers c).completeExpectedTermination.1
        (s.controllers c).completeExpectedTermination.2).push g
          (.shutdown .stopped (.killed c))) := by
    simp only [Runtime.resumeShutdown, dead]
    rfl
  exact Ends.resume (by rw [Runtime.push, idle]) resumed (ends_killed rfl)

theorem ends_killQueued {c : Nat} (idle : s.calls = [])
    (dead : (s.controllers c).isRunning = false) :
    (s.push g (.shutdown .stopped (.killQueued c))).Ends := by
  cases process : (s.controllers c).process with
  | false =>
    have resumed : ({ s with calls := [] } : Runtime).resumeShutdown g .stopped (.killQueued c) =
        some (({ s with calls := [] } : Runtime).push g (.shutdown .stopped (.killed c))) := by
      simp [Runtime.resumeShutdown, process]
    exact Ends.resume (by rw [Runtime.push, idle]) resumed (ends_killed rfl)
  | true =>
    have resumed : ({ s with calls := [] } : Runtime).resumeShutdown g .stopped (.killQueued c) =
        some ((({ s with calls := [] } : Runtime).setController c (s.controllers c).forceStop.1
          (s.controllers c).forceStop.2).push g (.shutdown .stopped (.killWaiting c))) := by
      simp [Runtime.resumeShutdown, process]
    have waits := ends_killWaiting (g := g) (c := c)
      (s := ({ s with calls := [] } : Runtime).setController c (s.controllers c).forceStop.1
        (s.controllers c).forceStop.2) rfl
      (by simp [Runtime.setController, ProcessController.forceStop, dead])
    exact Ends.resume (by rw [Runtime.push, idle]) resumed waits

end Shutdown

/-- **A runtime at rest is stopped or can be force stopped.** -/
theorem Recoverable.stops {s : Runtime} (recoverable : s.Recoverable) (idle : s.calls = [])
    (dead : ∀ c, (s.controllers c).isRunning = false) :
    s.state = .stopped ∨ s.forceStop.Ends := by
  have active : s.isActive = true → s.forceStop.Ends := by
    intro active
    simp only [Runtime.forceStop, active, if_true, Runtime.shutdown]
    split
    · exact ends_killQueued idle (dead _)
    · exact ends_shutdownTPM idle
  cases state : s.state with
  | stopped => exact .inl rfl
  | starting | running | stopping => exact .inr (active (by simp [isActive, state]))
  | failed message =>
    have unfailed := recoverable.unfailed
    rw [state] at unfailed
    cases unfailed

end Runtime

end SimpleVM.QEMU
