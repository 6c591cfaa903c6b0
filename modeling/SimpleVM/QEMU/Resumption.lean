import SimpleVM.QEMU.MachineRuntime

/-!
# Resumed calls of the QEMU runtime

What a call can do between two of its suspensions, one constructor for each way it goes on,
with the tests it has passed. The invariants of the runtime take a resumed call apart by these.
-/
namespace SimpleVM.QEMU.Runtime

open Domain

variable {s t : Runtime} {g : Nat}

/-- How the start of generation `g` goes on. -/
inductive StartGoesOn (s : Runtime) (g : Nat) : StartStage → Reply → Runtime → Prop
  | needsTPM : StartGoesOn s g .allocatingPort (.configured true) (s.push g (.start .startingTPM))
  | needsNoTPM : StartGoesOn s g .allocatingPort (.configured false) (s.startProcess g)
  | startsTPM : StartGoesOn s g .startingTPM .returns
      ((s.setTPM g true).push g (.start .awaitingTPM))
  | holdsTPM : StartGoesOn s g .awaitingTPM .returns
      ({ s with softwareTPMController := some g }.startProcess g)
  | launches {launch : Launch} {controller : ProcessController} {reports : List ProcessState}
      (started : (s.controllers g).start launch = (controller, reports, none)) :
      StartGoesOn s g .startingProcess (.launches launch)
        ((s.setController g controller reports).push g (.start .processStarted))
  | launchFails {launch : Launch} {controller : ProcessController} {reports : List ProcessState}
      {message : String}
      (refused : (s.controllers g).start launch = (controller, reports, some message)) :
      StartGoesOn s g .startingProcess (.launches launch)
        ((s.setController g controller reports).push g (.start (.processFailed message)))
  | reportsFailure {message : String} :
      StartGoesOn s g (.processFailed message) .returns (s.shutdown g (.failed message))
  | connects : StartGoesOn s g .processStarted .returns (s.push g (.start .connecting))
  | runs : StartGoesOn s g .connecting .returns { s with state := .running }
  /-- The catch block of a start that waited for anything but its process controller. -/
  | fails {stage : StartStage} {message : String} (apart : stage ≠ .startingProcess)
      (unreported : ∀ failure, stage ≠ .processFailed failure)
      (exited : stage = .awaitingTPM → s.tpms g = false) :
      StartGoesOn s g stage (.throws message) (s.shutdown g (.failed message))

theorem startGoesOn {stage : StartStage} {reply : Reply}
    (taken : s.resumeStart g stage reply = some t) : StartGoesOn s g stage reply t := by
  unfold resumeStart at taken
  split at taken
  · cases taken
    exact .needsTPM
  · cases taken
    exact .needsNoTPM
  · cases taken
    exact .fails (by simp) (by simp) (by simp)
  · cases taken
    exact .startsTPM
  · cases taken
    exact .fails (by simp) (by simp) (by simp)
  · cases taken
    exact .holdsTPM
  · split at taken
    · cases taken
    · next exited =>
      cases taken
      exact .fails (by simp) (by simp) fun _ => eq_false_of_ne_true exited
  · split at taken
    · next started =>
      cases taken
      exact .launches started
    · next refused =>
      cases taken
      exact .launchFails refused
  · cases taken
    exact .connects
  · cases taken
    exact .fails (by simp) (by simp) (by simp)
  · cases taken
    exact .reportsFailure
  · cases taken
    exact .runs
  · cases taken
    exact .fails (by simp) (by simp) (by simp)
  · cases taken

/-- How a `shutdown` goes on. -/
inductive ShutdownGoesOn (s : Runtime) (g : Nat) (outcome : MachineRuntimeState) :
    ShutdownStage → Runtime → Prop
  | kills {c : Nat} (process : (s.controllers c).process = true) :
      ShutdownGoesOn s g outcome (.killQueued c)
        ((s.setController c (s.controllers c).forceStop.1 (s.controllers c).forceStop.2).push g
          (.shutdown outcome (.killWaiting c)))
  | findsNone {c : Nat} (idle : (s.controllers c).process = false) :
      ShutdownGoesOn s g outcome (.killQueued c) (s.push g (.shutdown outcome (.killed c)))
  | killed {c : Nat} (exited : (s.controllers c).isRunning = false) :
      ShutdownGoesOn s g outcome (.killWaiting c)
        ((s.setController c (s.controllers c).completeExpectedTermination.1
          (s.controllers c).completeExpectedTermination.2).push g (.shutdown outcome (.killed c)))
  | releasesTPM {c : Nat} :
      ShutdownGoesOn s g outcome (.killed c) (s.shutdownTPM g outcome)
  | ends {tpm : Nat} (exited : s.tpms tpm = false) :
      ShutdownGoesOn s g outcome (.stoppingTPM tpm) (s.finish outcome)

theorem shutdownGoesOn {outcome : MachineRuntimeState} {stage : ShutdownStage}
    (taken : s.resumeShutdown g outcome stage = some t) : ShutdownGoesOn s g outcome stage t := by
  unfold resumeShutdown at taken
  split at taken
  · split at taken
    · next process =>
      cases taken
      exact .kills process
    · next idle =>
      cases taken
      exact .findsNone (eq_false_of_ne_true idle)
  · split at taken
    · cases taken
    · next exited =>
      cases taken
      exact .killed (eq_false_of_ne_true exited)
  · cases taken
    exact .releasesTPM
  · split at taken
    · cases taken
    · next exited =>
      cases taken
      exact .ends (eq_false_of_ne_true exited)

/-- How a `stop` goes on. The process controller answers at once when it has no process or the
request has failed. -/
inductive StopGoesOn (s : Runtime) (g : Nat) : StopStage → Reply → Runtime → Prop
  | requested : StopGoesOn s g .requestingShutdown .returns s
  | refused {message : String} :
      StopGoesOn s g .requestingShutdown (.throws message) (s.stopProcess g)
  | findsNone {c : Nat} {reply : Reply} (idle : (s.controllers c).process = false) :
      StopGoesOn s g (.stopQueued c) reply
        ((s.setController c (s.controllers c) []).push g (.stop (.answered .stopped)))
  | waits {c : Nat} {reply : Reply} (process : (s.controllers c).process = true)
      (asked : reply.error? = none) :
      StopGoesOn s g (.stopQueued c) reply
        ((s.setController c { s.controllers c with expectsTermination := true, state := .stopping }
          [.stopping]).push g (.stop (.stopWaiting c)))
  | requestFails {c : Nat} {reply : Reply} {message : String}
      (process : (s.controllers c).process = true) (failed : reply.error? = some message) :
      StopGoesOn s g (.stopQueued c) reply
        ((s.setController c { s.controllers c with expectsTermination := false, state := .running }
          [.stopping, .running]).push g (.stop (.answered (.requestFailed message))))
  | exits {c : Nat} (exited : (s.controllers c).isRunning = false) :
      StopGoesOn s g (.stopWaiting c) .returns
        ((s.setController c (s.controllers c).completeExpectedTermination.1
          (s.controllers c).completeExpectedTermination.2).push g (.stop (.answered .stopped)))
  | timesOut {c : Nat} (running : (s.controllers c).isRunning = true) :
      StopGoesOn s g (.stopWaiting c) .timesOut (s.push g (.stop (.answered .timedOut)))
  | answered {result : QEMUStopResult} :
      StopGoesOn s g (.answered result) .returns (s.answerStop g result)
  | ends {tpm : Nat} (exited : s.tpms tpm = false) :
      StopGoesOn s g (.stoppingTPM tpm) .returns (s.finish .stopped)

theorem stopGoesOn_queued {c : Nat} {reply : Reply}
    (taken : s.resumeStop g (.stopQueued c) reply = some t) :
    StopGoesOn s g (.stopQueued c) reply t := by
  simp only [resumeStop, ProcessController.stop] at taken
  by_cases process : (s.controllers c).process = true
  · rw [if_pos process] at taken
    cases failed : reply.error? with
    | none =>
      rw [failed] at taken
      cases taken
      exact .waits process failed
    | some message =>
      rw [failed] at taken
      cases taken
      exact .requestFails process failed
  · rw [if_neg process] at taken
    cases taken
    exact .findsNone (eq_false_of_ne_true process)

theorem stopGoesOn {stage : StopStage} {reply : Reply}
    (taken : s.resumeStop g stage reply = some t) : StopGoesOn s g stage reply t := by
  cases stage with
  | stopQueued c => exact stopGoesOn_queued taken
  | requestingShutdown =>
    cases reply with
    | returns =>
      cases taken
      exact .requested
    | throws message =>
      cases taken
      exact .refused
    | configured | launches | timesOut => cases taken
  | stopWaiting c =>
    cases reply with
    | returns =>
      simp only [resumeStop] at taken
      split at taken
      · cases taken
      · next exited =>
        cases taken
        exact .exits (eq_false_of_ne_true exited)
    | timesOut =>
      simp only [resumeStop] at taken
      split at taken
      · next running =>
        cases taken
        exact .timesOut running
      · cases taken
    | throws | configured | launches => cases taken
  | answered result =>
    cases reply with
    | returns =>
      cases taken
      exact .answered
    | throws | configured | launches | timesOut => cases taken
  | stoppingTPM tpm =>
    cases reply with
    | returns =>
      simp only [resumeStop] at taken
      split at taken
      · cases taken
      · next exited =>
        cases taken
        exact .ends (eq_false_of_ne_true exited)
    | throws | configured | launches | timesOut => cases taken

end SimpleVM.QEMU.Runtime
