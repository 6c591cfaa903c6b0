import SimpleVM.App.AppLifecycleDelegate
import SimpleVM.Transition.Run

/-!
# Which quit requests are protected

The app ends under active machines in two ways only: a request that passes by the delegate's
check, and a machine that becomes active between the return of the graceful stop and the reply.
-/
namespace SimpleVM.App

open Domain Transition

namespace Application

variable {s t : Application} {event : QuitEvent} {mode : StopMode}
  {backend : VirtualizationBackendKind} {result : Bool}

/-- The user has chosen Force Power Off and Quit. -/
def choseForce (s : Application) : Bool :=
  match s.quitTask with
  | some (.forcing _) => true
  | _ => false

/-- The app is allowed to terminate only without active machines or on the user's word. -/
def Protected (s : Application) (_ : QuitEvent) (t : Application) : Prop :=
  t.terminated = true → s.hasActiveMachines = false ∨ s.choseForce = true

/-- A request finds an active machine only while the delegate looks for one, and none has become
active since the graceful stop found them all stopped. -/
def Checked (s : Application) : QuitEvent → Prop
  | .shouldTerminate =>
    s.isTerminating = true ∨ s.installed = false →
      s.hasActiveMachines = false ∨ s.choseForce = true
  | .resume => s.quitTask = some (.stopping (.returned true)) → s.hasActiveMachines = false
  | _ => True

theorem visit_ne_returned (ids : List UUID) :
    s.visit mode backend ids ≠ some (.returned result) := by
  induction ids with
  | nil =>
    intro impossible
    cases impossible
  | cons id rest ih =>
    simp only [visit]
    split
    · simp
    · split
      · simp
      · exact ih

theorem poll_returned {sleeps : Nat} (returned : s.poll sleeps = .returned true) :
    s.hasActiveMachines = false := by
  unfold poll at returned
  split at returned
  · cases returned
  · simpa using returned

/-- A loop that comes to its end leaves the rest of the call to return. -/
theorem goOn_returned {rest : List UUID}
    (returned : s.goOn mode backend rest = .returned result) :
    s.finish mode = .returned result := by
  cases backend with
  | qemu =>
    simp only [goOn] at returned
    cases visited : s.visit mode .qemu rest with
    | none => simpa only [visited, Option.getD_none] using returned
    | some wait =>
      simp only [visited, Option.getD_some] at returned
      subst returned
      exact absurd visited (visit_ne_returned rest)
  | appleVirtualization =>
    simp only [goOn] at returned
    cases visited : s.visit mode .appleVirtualization rest with
    | some wait =>
      simp only [visited, Option.getD_some] at returned
      subst returned
      exact absurd visited (visit_ne_returned rest)
    | none =>
      simp only [visited, Option.getD_none] at returned
      cases other : s.visit mode .qemu (s.qemuRuntimes.map (·.1)) with
      | none => simpa only [other, Option.getD_none] using returned
      | some wait =>
        simp only [other, Option.getD_some] at returned
        subst returned
        exact absurd other (visit_ne_returned _)

/-- The graceful stop returns `true` only when no machine is active. -/
theorem resumeStop_returned {wait : StopWait}
    (resumed : s.resumeStop .gracefully wait = some (.returned true)) :
    s.hasActiveMachines = false := by
  -- Whatever it waited for, it returns from its last loop.
  cases wait with
  | entering => exact poll_returned (goOn_returned (Option.some.inj resumed))
  | stopping backend rest => exact poll_returned (goOn_returned (Option.some.inj resumed))
  | polling sleeps => exact poll_returned (Option.some.inj resumed)
  | returned result => cases resumed
  | settling backend id sleeps rest =>
    simp only [resumeStop] at resumed
    split at resumed
    · cases resumed
    · split at resumed
      · cases resumed
      · exact poll_returned (goOn_returned (Option.some.inj resumed))

theorem shouldTerminate_terminates :
    s.applicationShouldTerminate.terminated = true ↔
      s.terminated = true ∨ s.isTerminating = true ∨ s.installed = false ∨
        s.hasActiveMachines = false := by
  unfold applicationShouldTerminate
  cases s.isTerminating <;> cases s.installed <;> cases s.hasActiveMachines <;> simp

theorem setRuntimes_terminated (runtimes : List (UUID × MachineRuntimeState)) :
    (s.setRuntimes runtimes backend).terminated = s.terminated := by
  cases backend <;> rfl

/-- The quit task replies `true` after the graceful stop or after the forced one. -/
theorem resumeQuit_terminates {task : QuitTask} (open_ : s.terminated = false)
    (resumed : s.resumeQuit task = some t) :
    t.terminated = true ↔
      task = .stopping (.returned true) ∨ ∃ result, task = .forcing (.returned result) := by
  cases task with
  | alert => cases resumed
  | stopping wait =>
    cases wait with
    | returned result =>
      cases result <;> cases resumed <;> simp [open_]
    | _ =>
      simp only [resumeQuit, Option.map_eq_some_iff] at resumed
      obtain ⟨next, -, rfl⟩ := resumed
      simp [open_]
  | forcing wait =>
    cases wait with
    | returned result =>
      cases resumed
      simp
    | _ =>
      simp only [resumeQuit, Option.map_eq_some_iff] at resumed
      obtain ⟨next, -, rfl⟩ := resumed
      simp [open_]

/-- The two ways to end: every other event leaves the app running. -/
theorem step_terminates (taken : s.step event = some t) (terminated : t.terminated = true) :
    (event = .shouldTerminate ∧
        (s.isTerminating = true ∨ s.installed = false ∨ s.hasActiveMachines = false)) ∨
      (event = .resume ∧
        (s.quitTask = some (.stopping (.returned true)) ∨ s.choseForce = true)) := by
  unfold step at taken
  split at taken
  · cases taken
  · rename_i running
    have open_ : s.terminated = false := by simpa using running
    -- Only `applicationShouldTerminate` and the end of its task let the process terminate.
    cases event with
    | install =>
      cases taken
      simp [open_] at terminated
    | shouldTerminate =>
      cases taken
      have cause := shouldTerminate_terminates.mp terminated
      simp only [open_, Bool.false_eq_true, false_or] at cause
      exact .inl ⟨rfl, cause⟩
    | resume =>
      obtain ⟨task, waiting, resumed⟩ := Option.bind_eq_some_iff.mp taken
      have cause := (resumeQuit_terminates open_ resumed).mp terminated
      refine .inr ⟨rfl, ?_⟩
      rcases cause with rfl | ⟨result, rfl⟩
      · exact .inl waiting
      · exact .inr (by simp only [choseForce, waiting])
    | answer force =>
      simp only [answer] at taken
      split at taken
      · cases force <;> cases taken <;> simp [open_] at terminated
      · cases taken
    | starts id =>
      cases taken
      simp [open_] at terminated
    | startReturns id =>
      cases taken
      simp [open_] at terminated
    | transitions backend id state =>
      cases taken
      simp [setRuntimes_terminated, open_] at terminated
    | drops backend id =>
      cases taken
      simp [setRuntimes_terminated, open_] at terminated

theorem protected_of_checked (checked : s.Checked event) (taken : s.step event = some t) :
    s.Protected event t := by
  intro terminated
  rcases step_terminates taken terminated with ⟨rfl, passed⟩ | ⟨rfl, replied⟩
  · rcases passed with again | bare | idle
    · exact checked (.inl again)
    · exact checked (.inr bare)
    · exact .inl idle
  · rcases replied with stopped | forced
    · exact .inl (checked stopped)
    · exact .inr forced

theorem checked_of_protected (taken : s.step event = some t) (guarded : s.Protected event t) :
    s.Checked event := by
  unfold step at taken
  split at taken
  · cases taken
  · cases event with
    | shouldTerminate =>
      intro passed
      cases taken
      apply guarded
      apply shouldTerminate_terminates.mpr
      rcases passed with again | bare
      · exact .inr (.inl again)
      · exact .inr (.inr (.inl bare))
    | resume =>
      intro waiting
      simp only [waiting, Option.bind_some, resumeQuit] at taken
      cases taken
      rcases guarded rfl with idle | forced
      · exact idle
      · simp only [choseForce, waiting] at forced
        cases forced
    | _ => trivial

/-- The app as it is launched. -/
def launched : Application := {}

/-- Quitting is protected in exactly the runs in which every request finds no active machine
while an earlier one is waiting, and none became active before the reply to a graceful stop. -/
theorem quit_protected_iff (events : List QuitEvent) :
    Along step Protected launched events ↔ Meets step Checked launched events := by
  apply along_iff_meets (I := fun _ => True)
  · intros
    trivial
  · intro s event t _ checked taken
    exact protected_of_checked checked taken
  · intro s event t _ taken guarded
    exact checked_of_protected taken guarded
  · trivial

/-- A machine runs and the user asks twice: the second request ends the app at once. -/
theorem second_request_terminates :
    ¬ ∀ events, Along step Protected launched events := by
  intro always
  have along := always [.install, .transitions .qemu ⟨1⟩ .running, .shouldTerminate,
    .shouldTerminate]
  have last := ((((along _ rfl).2 _ rfl).2 _ rfl).2 _ rfl).1 rfl
  revert last
  decide

end Application

end SimpleVM.App
