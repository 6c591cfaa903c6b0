import SimpleVM.GuestTools.Coordinator
import SimpleVM.Transition.Run

/-!
# Probes that are no longer current

`retry` and `stop` cancel the probe before them. A cancelled probe that is answered notices it by
`checkCancellation`; one whose request fails does not, unless it fails with a `CancellationError`.
-/
namespace SimpleVM.GuestTools

open Agent Transition

namespace GuestToolsCoordinator

variable {c d : GuestToolsCoordinator} {p : Nat} {handler : Nat} {status : GuestAgentStatus}
  {completion : Completion}

section Properties

/-- Nothing has been assigned, called, started or stopped. -/
def SameAs (d c : GuestToolsCoordinator) : Prop :=
  d.state = c.state ∧ d.notice = c.notice ∧ d.effects = c.effects

/-- Only the probe of the latest `start` or `retry` changes anything, and without a request handler,
as `stop` leaves it, the state is stopped. -/
def Inert (c : GuestToolsCoordinator) (event : Event) (d : GuestToolsCoordinator) : Prop :=
  (∀ p, event.probe = some p → c.connectionTask ≠ some p → d.SameAs c) ∧
    (d.requestHandler = none → d.state = .stopped)

/-- A completion that a cancelled probe notices its cancellation by: a status where it waits for
one, any response where it waits for a mount, and a `CancellationError`. -/
def Noticed : Phase → Completion → Prop
  | .fetching _, completion | .refetching _ _, completion =>
    completion = .error .cancellation ∨ ∃ status, completion = .ok (.status status)
  | .mounting _ _, completion =>
    completion = .error .cancellation ∨ ∃ response, completion = .ok response
  | .created, _ | .returned, _ => True

/-- The requests of probes that are not current end in one of these ways. -/
def Cooperative (c : GuestToolsCoordinator) : Event → Prop
  | .complete p completion => c.connectionTask ≠ some p →
    ∀ probe, c.probes[p]? = some probe → Noticed probe.phase completion
  | _ => True

end Properties

section Effects

theorem SameAs.refl (c : GuestToolsCoordinator) : c.SameAs c := ⟨rfl, rfl, rfl⟩

theorem moves_sameAs_iff {p : Nat} {phase : Phase} : (d.moves p phase).SameAs c ↔ d.SameAs c :=
  .rfl

end Effects

section Cancelled

/-- A failure that is not a cancellation is reported, whether or not the probe is cancelled. -/
theorem failed_sameAs_iff {failure : RequestFailure} :
    (c.failed failure).SameAs c ↔ failure = .cancellation := by
  cases failure with
  | cancellation => simp [failed, SameAs.refl]
  | _ => simp [failed, SameAs, statusHandler, setState]

theorem mountFailed_sameAs_iff {failure : RequestFailure} :
    (c.mountFailed true handler status failure).SameAs c ↔ failure = .cancellation := by
  cases failure with
  | cancellation => simp [mountFailed, SameAs.refl]
  | _ => simp [mountFailed, SameAs, connect, setNotice]

theorem fetchStatus_cancellation_iff :
    (∀ failure, fetchStatus completion = .error failure → failure = .cancellation) ↔
      completion = .error .cancellation ∨ ∃ status, completion = .ok (.status status) := by
  rcases completion with failure | response
  · simp [fetchStatus]
  · cases response <;> simp [fetchStatus, guestFailure, unexpectedResponse]

/-- What a cancelled probe leaves behind when its request completes. -/
theorem resume_sameAs_iff {probe : Probe} (cancelled : probe.cancelled = true)
    {phase : Phase} (resumed : c.resume probe completion = some (d, phase)) :
    d.SameAs c ↔ Noticed probe.phase completion := by
  unfold resume at resumed
  rw [cancelled] at resumed
  -- One case for each suspension of the probe; the connection shows a completion only where its
  -- handler does not check for the cancellation.
  split at resumed
  · cases resumed
  · cases resumed
  · next handler at_ =>
    rw [at_, Noticed, ← fetchStatus_cancellation_iff]
    simp only [Option.some.injEq] at resumed
    unfold fetched at resumed
    cases fetch : fetchStatus completion with
    | error failure =>
      rw [fetch] at resumed
      cases resumed
      simp [failed_sameAs_iff]
    | ok status =>
      rw [fetch] at resumed
      cases resumed
      simp [SameAs.refl]
  · next handler status at_ =>
    rw [at_, Noticed]
    simp only [Option.some.injEq] at resumed
    cases completion with
    | error failure =>
      cases resumed
      simp [mountFailed_sameAs_iff]
    | ok response =>
      cases resumed
      simp [SameAs.refl]
  · next handler status at_ =>
    rw [at_, Noticed, ← fetchStatus_cancellation_iff]
    simp only [Option.some.injEq] at resumed
    unfold refetched at resumed
    cases fetch : fetchStatus completion with
    | error failure =>
      rw [fetch] at resumed
      cases resumed
      simp [mountFailed_sameAs_iff]
    | ok status =>
      rw [fetch] at resumed
      cases resumed
      simp [connect, SameAs.refl]

end Cancelled

section Invariant

/-- Every probe but the current one is cancelled, and there is none without a request handler. -/
structure Orderly (c : GuestToolsCoordinator) : Prop where
  stale : ∀ p probe, c.probes[p]? = some probe → c.connectionTask ≠ some p →
    probe.cancelled = true
  idle : c.requestHandler = none → c.connectionTask = none ∧ c.state = .stopped

/-- What a probe does not touch. -/
def Keeps (d c : GuestToolsCoordinator) : Prop :=
  d.connectionTask = c.connectionTask ∧ d.requestHandler = c.requestHandler ∧ d.probes = c.probes

theorem Keeps.refl (c : GuestToolsCoordinator) : c.Keeps c := ⟨rfl, rfl, rfl⟩

theorem failed_keeps (c : GuestToolsCoordinator) (failure : RequestFailure) :
    (c.failed failure).Keeps c := by
  cases failure <;> exact ⟨rfl, rfl, rfl⟩

theorem connect_keeps (c : GuestToolsCoordinator) (cancelled : Bool) (handler : Nat)
    (status : GuestAgentStatus) : (c.connect cancelled handler status).Keeps c := by
  unfold connect
  split
  · exact .refl c
  · dsimp only
    split <;> exact ⟨rfl, rfl, rfl⟩

theorem mountFailed_keeps (c : GuestToolsCoordinator) (cancelled : Bool) (handler : Nat)
    (status : GuestAgentStatus) (failure : RequestFailure) :
    (c.mountFailed cancelled handler status failure).Keeps c := by
  cases failure with
  | cancellation => exact .refl c
  | _ => exact connect_keeps (c.setNotice _) cancelled handler status

theorem resume_keeps {probe : Probe} {phase : Phase}
    (resumed : c.resume probe completion = some (d, phase)) : d.Keeps c := by
  unfold resume at resumed
  -- Every suspension ends in a failure or a connection, and each has its own lemma.
  split at resumed
  · cases resumed
  · cases resumed
  · next handler _ =>
    unfold fetched at resumed
    split at resumed
    · next failure _ =>
      cases resumed
      exact failed_keeps c failure
    · next status _ =>
      split at resumed
      · cases resumed
        exact .refl c
      -- An agent of a newer protocol is refused and one without the mount is asked for it; with any
      -- other the probe connects.
      · split at resumed
        · cases resumed
          exact ⟨rfl, rfl, rfl⟩
        · split at resumed
          · cases resumed
            exact .refl c
          · cases resumed
            exact connect_keeps c probe.cancelled handler status
  · next handler status _ =>
    unfold mounted at resumed
    split at resumed
    · next failure =>
      cases resumed
      exact mountFailed_keeps c probe.cancelled handler status failure
    · split at resumed
      · cases resumed
        exact .refl c
      · split at resumed
        · cases resumed
          exact .refl c
        · cases resumed
          exact connect_keeps (c.setNotice _) probe.cancelled handler status
        · cases resumed
          exact connect_keeps (c.setNotice _) probe.cancelled handler status
  · next handler status _ =>
    unfold refetched at resumed
    split at resumed
    · next failure _ =>
      cases resumed
      exact mountFailed_keeps c probe.cancelled handler status failure
    · next again _ =>
      cases resumed
      exact connect_keeps c probe.cancelled handler again

/-- After `connectionTask?.cancel()` no probe is left that is not cancelled. -/
theorem Orderly.cancel (orderly : c.Orderly) (probe : Probe)
    (found : c.cancel.probes[p]? = some probe) : probe.cancelled = true := by
  unfold GuestToolsCoordinator.cancel at found
  cases current : c.connectionTask with
  | none =>
    rw [current] at found
    exact orderly.stale p probe found (by rw [current]; simp)
  | some q =>
    rw [current] at found
    simp only [List.getElem?_modify] at found
    obtain ⟨before, here, rfl⟩ := Option.map_eq_some_iff.mp found
    split
    · rfl
    · next other =>
      exact orderly.stale p before here (by
        rw [current]
        exact fun same => other (Option.some.inj same))

theorem Orderly.stop (orderly : c.Orderly) : c.stop.Orderly :=
  ⟨fun _ probe found _ => orderly.cancel probe found, fun _ => ⟨rfl, rfl⟩⟩

theorem Orderly.retry (orderly : c.Orderly) : c.retry.Orderly := by
  unfold GuestToolsCoordinator.retry
  split
  · next none =>
    have idle := orderly.idle (Option.isNone_iff_eq_none.mp none)
    exact ⟨orderly.stale, fun _ => ⟨idle.1, rfl⟩⟩
  · next present =>
    refine ⟨fun p probe found other => ?_, fun none => ?_⟩
    · -- The new probe is the last one, and it is the current one.
      have found : (c.cancel.probes ++ [({} : Probe)])[p]? = some probe := found
      have other : some c.cancel.probes.length ≠ some p := other
      rw [List.getElem?_append] at found
      split at found
      · exact orderly.cancel probe found
      · next beyond =>
        have last : p - c.cancel.probes.length ≠ 0 := by
          intro zero
          exact other (congrArg some (by omega))
        rw [List.getElem?_cons, if_neg last, List.getElem?_nil] at found
        cases found
    · have same : c.cancel.requestHandler = c.requestHandler := by
        unfold GuestToolsCoordinator.cancel
        split <;> rfl
      have none : c.cancel.requestHandler = Option.none := none
      rw [same] at none
      rw [none] at present
      exact absurd rfl present

theorem Orderly.moves (orderly : c.Orderly) (phase : Phase) : (c.moves p phase).Orderly := by
  refine ⟨fun q probe found other => ?_, orderly.idle⟩
  simp only [GuestToolsCoordinator.moves, List.getElem?_modify] at found
  obtain ⟨before, here, rfl⟩ := Option.map_eq_some_iff.mp found
  have cancelled := orderly.stale q before here other
  split <;> exact cancelled

theorem step_complete (taken : c.step (.complete p completion) = some d) :
    ∃ probe e phase, c.probes[p]? = some probe ∧ c.resume probe completion = some (e, phase) ∧
      d = e.moves p phase := by
  obtain ⟨probe, found, taken⟩ := Option.bind_eq_some_iff.mp taken
  obtain ⟨⟨e, phase⟩, resumed, taken⟩ := Option.bind_eq_some_iff.mp taken
  cases taken
  exact ⟨probe, e, phase, found, resumed, rfl⟩

theorem step_begin (taken : c.step (.begin p) = some d) : ∃ phase, d = c.moves p phase := by
  obtain ⟨probe, found, taken⟩ := Option.bind_eq_some_iff.mp taken
  obtain ⟨phase, begun, taken⟩ := Option.bind_eq_some_iff.mp taken
  cases taken
  exact ⟨phase, rfl⟩

/-- A probe that is not current changes nothing when it is answered in a way it notices. -/
theorem Orderly.complete (orderly : c.Orderly) (cooperative : c.Cooperative (.complete p completion))
    (taken : c.step (.complete p completion) = some d) :
    c.Inert (.complete p completion) d ∧ d.Orderly := by
  obtain ⟨probe, e, phase, found, resumed, rfl⟩ := step_complete taken
  obtain ⟨task, handler, probes⟩ := resume_keeps resumed
  have inert (other : c.connectionTask ≠ some p) : e.SameAs c :=
    (resume_sameAs_iff (orderly.stale p probe found other) resumed).mpr
      (cooperative other probe found)
  have idle (none : e.requestHandler = none) : e.connectionTask = Option.none ∧ e.state = .stopped := by
    obtain ⟨absent, stopped⟩ := orderly.idle (handler ▸ none)
    have same := inert (by rw [absent]; simp)
    exact ⟨task.trans absent, same.1.trans stopped⟩
  have kept : e.Orderly := ⟨by rw [probes, task]; exact orderly.stale, idle⟩
  refine ⟨⟨?_, fun none => (idle none).2⟩, kept.moves phase⟩
  rintro _ same other
  cases same
  exact moves_sameAs_iff.mpr (inert other)

theorem Orderly.step (orderly : c.Orderly) {event : Event} (cooperative : c.Cooperative event)
    (taken : c.step event = some d) : c.Inert event d ∧ d.Orderly := by
  have inert {e : GuestToolsCoordinator} (kept : e.Orderly) (none : event.probe = none) :
      c.Inert event e := by
    refine ⟨fun p same => ?_, fun none => (kept.idle none).2⟩
    rw [none] at same
    cases same
  cases event with
  | start configured handler =>
    cases taken
    have begun : (c.start configured handler).Orderly := by
      have stopped := orderly.stop
      apply Orderly.retry
      exact ⟨stopped.stale, (by intros; contradiction)⟩
    exact ⟨inert begun rfl, begun⟩
  | retry =>
    cases taken
    exact ⟨inert orderly.retry rfl, orderly.retry⟩
  | stop =>
    cases taken
    exact ⟨inert orderly.stop rfl, orderly.stop⟩
  | begin p =>
    obtain ⟨phase, rfl⟩ := step_begin taken
    have kept := orderly.moves (p := p) phase
    exact ⟨⟨fun _ _ _ => moves_sameAs_iff.mpr (.refl c), fun none => (kept.idle none).2⟩, kept⟩
  | complete p completion => exact orderly.complete cooperative taken

theorem Orderly.cooperative (orderly : c.Orderly) {event : Event} (taken : c.step event = some d)
    (inert : c.Inert event d) : c.Cooperative event := by
  cases event with
  | complete p completion =>
    intro other probe here
    obtain ⟨found, e, phase, present, resumed, rfl⟩ := step_complete taken
    rw [here] at present
    cases present
    exact (resume_sameAs_iff (orderly.stale p probe here other) resumed).mp
      (moves_sameAs_iff.mp (inert.1 p rfl other))
  | _ => trivial

end Invariant

/-- In every run, only the probe of the latest `start` or `retry` changes anything, and the state
stays stopped after `stop`, if and only if every probe that is no longer current is answered with a
response of the kind it waits for or with a `CancellationError`. -/
theorem stale_probes_inert_iff (events : List Event) :
    Along step Inert {} events ↔ Meets step Cooperative {} events := by
  apply along_iff_meets (I := Orderly)
  · intro c event d orderly cooperative taken
    exact (orderly.step cooperative taken).2
  · intro c event d orderly cooperative taken
    exact (orderly.step cooperative taken).1
  · intro c event d orderly taken inert
    exact orderly.cooperative taken inert
  · exact ⟨fun p probe found => by simp at found, fun _ => ⟨rfl, rfl⟩⟩

/-- The request of a stopped probe times out, and the state is `notConnected`. -/
theorem timeout_after_stop :
    ¬ Along step Inert {} [.start false 0, .begin 0, .stop,
      .complete 0 (.error (.other "Guest Tools did not reply before the request timed out."))] := by
  intro along
  have inert := (((along _ rfl).2 _ rfl).2 _ rfl).2 _ rfl
  have stopped := inert.1.2 rfl
  cases stopped

end GuestToolsCoordinator

end SimpleVM.GuestTools
