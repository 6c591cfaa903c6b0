import SimpleVM.Apple.Coherence

/-!
# Recovery of the Apple runtime

A runtime at rest that is not stopped runs or stops a virtual machine it holds, so that a force
stop ends it. This takes runs without failures, in which a start that returns and a stop that
throws find the virtual machine where they left it.
-/
namespace SimpleVM.Apple

open Domain Transition

/-- What a `forceStop` that is suspended waits for. -/
def Event.isCompletion : Event → Bool
  | .complete .. => true
  | _ => false

namespace MachineRuntime

/-- No start fails and no failure is reported, and a virtual machine is held when a start returns
or a stop throws. -/
def Sound (s : MachineRuntime) : Event → Prop
  | .complete index error _ => ∀ call, s.calls[index]? = some call →
    (call.awaited = .start → error = none ∧ s.virtualMachine ≠ none) ∧
      (call.awaited = .stop → error ≠ none → s.virtualMachine ≠ none)
  | .deliver index => ∀ delivery, s.deliveries[index]? = some delivery →
    delivery.2.hasFailed = false
  | _ => True

structure Recoverable (s : MachineRuntime) : Prop where
  unfailed : s.state.hasFailed = false
  holds : s.HoldsMachine
  /-- A start that has not returned is still in flight. -/
  starting : s.state = .starting → ∃ call ∈ s.calls, call.awaited = .start
  ended : ∀ delivery ∈ s.deliveries, delivery.2.canStart = true

theorem recoverable_create {recorded : MachineRuntimeState} (unfailed : recorded.hasFailed = false) :
    (create recorded).Recoverable := by
  have stopped : (create recorded).state = .stopped := recorded.restored_of_unfailed unfailed
  refine ⟨?_, ?_, ?_, (by intros; contradiction)⟩
  · rw [stopped]
    rfl
  · rintro (running | stopping)
    · rw [stopped] at running
      cases running
    · rw [stopped] at stopping
      cases stopping
  · intro starting
    rw [stopped] at starting
    cases starting

/-- A sound event writes no failure, and finds a virtual machine if it keeps it. -/
theorem Sound.write {s : MachineRuntime} {e : Event} (sound : s.Sound e)
    {state : MachineRuntimeState} {drops : Bool} (writes : s.unguardedWrite e = some (state, drops)) :
    state.hasFailed = false ∧ (drops = false → s.virtualMachine ≠ none) := by
  -- A completion writes `.running` only where a machine is held, a delivery only an end.
  cases e with
  | complete index error requestError =>
    simp only [unguardedWrite] at writes
    cases found : s.calls[index]? with
    | none => simp [found] at writes
    | some call =>
      obtain ⟨starts, stops⟩ := sound call found
      obtain ⟨virtualMachine, awaited⟩ := call
      cases awaited with
      | start =>
        obtain ⟨returns, held⟩ := starts rfl
        subst returns
        simp only [found, Option.map_some, Option.some.injEq, Prod.mk.injEq] at writes
        obtain ⟨rfl, rfl⟩ := writes
        exact ⟨rfl, fun _ => held⟩
      | stop =>
        cases error with
        | none =>
          simp only [found, Option.map_some, Option.some.injEq, Prod.mk.injEq] at writes
          obtain ⟨rfl, rfl⟩ := writes
          exact ⟨rfl, (by intros; contradiction)⟩
        | some message =>
          simp only [found, Option.map_some, Option.some.injEq, Prod.mk.injEq] at writes
          obtain ⟨rfl, rfl⟩ := writes
          exact ⟨rfl, fun _ => stops rfl (by simp)⟩
      | shutdownRequest => simp [found] at writes
  | deliver index =>
    obtain ⟨delivery, found, same⟩ := Option.map_eq_some_iff.mp writes
    cases same
    exact ⟨sound delivery found, (by intros; contradiction)⟩
  | _ => cases writes

/-- A runtime that is starting has its start in flight, whatever happens. -/
theorem starting_step {s t : MachineRuntime} {e : Event} (recoverable : s.Recoverable)
    (taken : s.step e = some t) (now : t.state = .starting) :
    ∃ call ∈ t.calls, call.awaited = .start := by
  have before := recoverable.starting
  cases e with
  | start =>
    cases taken
    simp only [start] at now ⊢
    split
    · exact ⟨_, List.mem_cons_self, rfl⟩
    next started =>
      rw [if_neg started] at now
      exact before now
  | requestStop gracefulShutdown requestError =>
    cases taken
    simp only [requestStop] at now ⊢
    split
    · next empty =>
      rw [empty] at now
      exact before now
    · next virtualMachine held =>
      rw [held] at now
      split
      · next running =>
        -- The state is `.running` here, and what follows leads to `.stopping` at most.
        simp only [if_pos running] at now
        split at now
        · exact absurd (running.symm.trans now) (by decide)
        · obtain ⟨same | ⟨_, stopping⟩, _⟩ :=
            s.requestFrameworkStop_cases virtualMachine requestError
          · exact absurd (running.symm.trans (same.symm.trans now)) (by decide)
          · exact absurd (stopping.symm.trans now) (by decide)
      · next idle =>
        simp only [if_neg idle] at now
        exact before now
  | forceStop =>
    cases taken
    simp only [forceStop] at now ⊢
    split
    · next empty =>
      rw [empty] at now
      exact before now
    · next virtualMachine held =>
      rw [held] at now
      split
      · next active =>
        simp only [if_pos active] at now
        cases now
      · next idle =>
        simp only [if_neg idle] at now
        exact before now
  | complete index error requestError =>
    obtain ⟨⟨virtualMachine, awaited⟩, found, resumed⟩ := Option.bind_eq_some_iff.mp taken
    cases resumed
    cases awaited with
    | start => cases error <;> cases now
    | stop => cases error <;> cases now
    | shutdownRequest =>
      -- The start in flight is another call, which stays in flight.
      have kept (starting : s.state = .starting) :
          ∃ call ∈ s.calls.eraseIdx index, call.awaited = .start := by
        obtain ⟨call, member, awaits⟩ := before starting
        refine ⟨call, mem_eraseIdx_of_ne found member ?_, awaits⟩
        rintro rfl
        cases awaits
      cases error with
      | none =>
        simp only [resume] at now ⊢
        split at now
        · cases now
        next other =>
          rw [if_neg other]
          exact kept now
      | some message =>
        simp only [resume] at now ⊢
        split at now
        next running =>
          obtain ⟨same | ⟨_, stopping⟩, _⟩ := requestFrameworkStop_cases
            (({ s with calls := s.calls.eraseIdx index } : MachineRuntime).report message)
            virtualMachine requestError
          · exact absurd (running.2.symm.trans (same.symm.trans now)) (by decide)
          · exact absurd (stopping.symm.trans now) (by decide)
        next other =>
          rw [if_neg other]
          exact kept now
  | guestDidStop virtualMachine =>
    simp only [step, enqueue] at taken
    split at taken <;> cases taken
    exact before now
  | didStopWithError virtualMachine message =>
    simp only [step, enqueue] at taken
    split at taken <;> cases taken
    exact before now
  | deliver index =>
    obtain ⟨⟨virtualMachine, state⟩, found, delivered⟩ := Option.bind_eq_some_iff.mp taken
    cases delivered
    have later := recoverable.ended _ (List.mem_of_getElem? found)
    rw [show state = .starting from now] at later
    cases later

/-- **Step lemma.** -/
theorem Recoverable.step {s t : MachineRuntime} {e : Event} (recoverable : s.Recoverable)
    (sound : s.Sound e) (taken : s.step e = some t) : t.Recoverable := by
  have ended := ended_step recoverable.ended taken
  have starting := starting_step recoverable taken
  -- The step is one of five effects, and of these only the unasked writes need the condition.
  cases step_effect taken with
  | nothing same _ =>
    obtain ⟨state, held, _⟩ := same
    refine ⟨?_, ?_, starting, ended⟩
    · rw [state]
      exact recoverable.unfailed
    · simpa only [HoldsMachine, state, held] using recoverable.holds
  | starts _ _ after =>
    obtain ⟨state, held, _⟩ := after
    refine ⟨?_, fun _ => by simp [held], starting, ended⟩
    rw [state]
    rfl
  | stops _ held _ after =>
    obtain ⟨state, same, _⟩ := after
    refine ⟨?_, fun _ => ?_, starting, ended⟩
    · rw [state]
      rfl
    · rw [same]
      exact held
  | keeps _ writes _ after =>
    obtain ⟨state, same, _⟩ := after
    refine ⟨?_, fun _ => ?_, starting, ended⟩
    · rw [state]
      rfl
    · rw [same]
      exact (sound.write writes).2 rfl
  | drops _ written writes _ after =>
    obtain ⟨state, _, _⟩ := after
    refine ⟨?_, holdsMachine_of_canStart ?_, starting, ended⟩
    · rw [state]
      exact (sound.write writes).1
    · rw [state]
      exact canStart_of_drops recoverable.ended writes

/-- **A runtime at rest is stopped or can be force stopped.** -/
theorem Recoverable.stops {s : MachineRuntime} (recoverable : s.Recoverable)
    (rest : s.calls = []) : s.state = .stopped ∨
      ∃ t, Run MachineRuntime.step s [.forceStop, .complete 0 none none] t ∧
        Meets MachineRuntime.step Sound s [.forceStop, .complete 0 none none] ∧
        t.state = .stopped := by
  have active : s.state = .running ∨ s.state = .stopping → ∃ t,
      Run MachineRuntime.step s [.forceStop, .complete 0 none none] t ∧
        Meets MachineRuntime.step Sound s [.forceStop, .complete 0 none none] ∧
        t.state = .stopped := by
    intro active
    obtain ⟨virtualMachine, held⟩ := Option.ne_none_iff_exists'.mp (recoverable.holds active)
    have taken : s.step .forceStop =
        some ({ s with state := .stopping }.suspend virtualMachine .stop) := by
      simp only [MachineRuntime.step, forceStop, held, if_pos active]
    refine ⟨_, .next taken (.next rfl (.done _)), .next taken trivial (.next rfl ?_ trivial), rfl⟩
    -- The call that is completed is the stop, and it returns.
    intro call found
    cases found
    exact ⟨(by intros; contradiction), fun _ fails => absurd rfl fails⟩
  cases state : s.state with
  | stopped => exact .inl rfl
  | starting =>
    obtain ⟨call, member, _⟩ := recoverable.starting state
    rw [rest] at member
    cases member
  | running => exact .inr (active (.inl state))
  | stopping => exact .inr (active (.inr state))
  | failed message =>
    have unfailed := recoverable.unfailed
    rw [state] at unfailed
    cases unfailed

end MachineRuntime

end SimpleVM.Apple
