import SimpleVM.Apple.MachineRuntime
import SimpleVM.Transition.Run

/-!
# Coherence of the Apple runtime

A runtime that runs or stops holds a virtual machine, and what belongs to an earlier virtual
machine leaves a later start alone. `requestStop` checks both after its await; the ends of
`start` and `forceStop` and the delegate deliveries write without a check, so the two
properties hold in exactly the runs in which such a write is harmless.
-/
namespace SimpleVM.Apple

open Domain Transition

namespace MachineRuntime

/-- While the runtime runs or stops a virtual machine is held. -/
def HoldsMachine (s : MachineRuntime) : Prop :=
  s.state = .running ∨ s.state = .stopping → s.virtualMachine ≠ none

/-- A step that belongs to an earlier virtual machine changes neither the state nor the virtual
machine held. -/
def SparesLater (s : MachineRuntime) (e : Event) (t : MachineRuntime) : Prop :=
  ∀ virtualMachine, s.completedMachine e = some virtualMachine → ¬ s.isLatest virtualMachine →
    t.state = s.state ∧ t.virtualMachine = s.virtualMachine

/-- The state an event writes without looking, and whether it drops the virtual machine. -/
def unguardedWrite (s : MachineRuntime) : Event → Option (MachineRuntimeState × Bool)
  | .complete index error _ =>
    match s.calls[index]?.map Call.awaited, error with
    | some .start, none => some (.running, false)
    | some .start, some message => some (.failed message, true)
    | some .stop, none => some (.stopped, true)
    | some .stop, some _ => some (.running, false)
    | _, _ => none
  | .deliver index => s.deliveries[index]?.map fun delivery => (delivery.2, true)
  | _ => none

/-- An unguarded write is of the latest start, or finds what it writes; one that leads to
`.running` finds a virtual machine. -/
def Harmless (s : MachineRuntime) (e : Event) : Prop :=
  ∀ state drops, s.unguardedWrite e = some (state, drops) →
    (drops = false → s.virtualMachine ≠ none) ∧
    ∀ virtualMachine, s.completedMachine e = some virtualMachine →
      s.isLatest virtualMachine ∨
        (s.state = state ∧ (drops = true → s.virtualMachine = none))

/-- The three ways of a step without an unguarded write, and the write itself. -/
inductive Effect (s : MachineRuntime) (e : Event) (t : MachineRuntime) : Prop
  | nothing (same : t.state = s.state ∧ t.virtualMachine = s.virtualMachine ∧ t.made = s.made)
    (guarded : s.unguardedWrite e = none)
  | starts (unrelated : s.completedMachine e = none) (guarded : s.unguardedWrite e = none)
    (after : t.state = .starting ∧ t.virtualMachine = some s.made ∧ t.made = s.made + 1)
  | stops (guarded : s.unguardedWrite e = none) (held : s.virtualMachine ≠ none)
    (own : ∀ virtualMachine, s.completedMachine e = some virtualMachine →
      s.virtualMachine = some virtualMachine)
    (after : t.state = .stopping ∧ t.virtualMachine = s.virtualMachine ∧ t.made = s.made)
  | keeps (virtualMachine : Nat) (writes : s.unguardedWrite e = some (.running, false))
    (completes : s.completedMachine e = some virtualMachine)
    (after : t.state = .running ∧ t.virtualMachine = s.virtualMachine ∧ t.made = s.made)
  | drops (virtualMachine : Nat) (state : MachineRuntimeState)
    (writes : s.unguardedWrite e = some (state, true))
    (completes : s.completedMachine e = some virtualMachine)
    (after : t.state = state ∧ t.virtualMachine = none ∧ t.made = s.made)

theorem requestFrameworkStop_cases (s : MachineRuntime) (virtualMachine : Nat)
    (requestError : Option String) :
    let t := s.requestFrameworkStop virtualMachine requestError
    (t.state = s.state ∨ s.virtualMachine = some virtualMachine ∧ t.state = .stopping) ∧
      t.virtualMachine = s.virtualMachine ∧ t.made = s.made ∧ t.deliveries = s.deliveries := by
  unfold requestFrameworkStop
  split
  · next current =>
    cases requestError with
    | none => exact ⟨.inr ⟨current.1, rfl⟩, rfl, rfl, rfl⟩
    | some error => exact ⟨.inl rfl, rfl, rfl, rfl⟩
  · exact ⟨.inl rfl, rfl, rfl, rfl⟩

/-- Each suspended call goes on in one of these ways. -/
theorem effect_complete {s : MachineRuntime} {index : Nat} {call : Call}
    (found : s.calls[index]? = some call) (error requestError : Option String) :
    Effect s (.complete index error requestError)
      ({ s with calls := s.calls.eraseIdx index }.resume call error requestError) := by
  obtain ⟨virtualMachine, awaited⟩ := call
  have completes : s.completedMachine (.complete index error requestError) = some virtualMachine := by
    simp [completedMachine, found]
  -- A start that returns writes `.running` whatever machine is held, as does a stop that fails.
  cases awaited with
  | start =>
    cases error with
    | none =>
      exact .keeps virtualMachine (by simp [unguardedWrite, found]) completes ⟨rfl, rfl, rfl⟩
    | some message =>
      exact .drops virtualMachine (.failed message) (by simp [unguardedWrite, found]) completes
        ⟨rfl, rfl, rfl⟩
  | stop =>
    cases error with
    | none =>
      exact .drops virtualMachine .stopped (by simp [unguardedWrite, found]) completes
        ⟨rfl, rfl, rfl⟩
    | some message =>
      exact .keeps virtualMachine (by simp [unguardedWrite, found]) completes ⟨rfl, rfl, rfl⟩
  | shutdownRequest =>
    have guarded : s.unguardedWrite (.complete index error requestError) = none := by
      simp [unguardedWrite, found]
    -- The answer of a shutdown request is only heeded for the machine that is held.
    have own (held : s.virtualMachine = some virtualMachine) : ∀ other,
        s.completedMachine (.complete index error requestError) = some other →
          s.virtualMachine = some other := by
      intro other same
      rw [held, ← completes, same]
    cases error with
    | none =>
      simp only [resume]
      split
      · next current =>
        have held : s.virtualMachine = some virtualMachine := current.1
        exact .stops guarded (by simp [held]) (own held) ⟨rfl, rfl, rfl⟩
      · exact .nothing ⟨rfl, rfl, rfl⟩ guarded
    | some error =>
      simp only [resume]
      split
      · obtain ⟨state | ⟨held, state⟩, same, made, _⟩ := requestFrameworkStop_cases
          (({ s with calls := s.calls.eraseIdx index } : MachineRuntime).report error)
          virtualMachine requestError
        · exact .nothing ⟨state, same, made⟩ guarded
        · have held : s.virtualMachine = some virtualMachine := held
          exact .stops guarded (by simp [held]) (own held) ⟨state, same, made⟩
      · exact .nothing ⟨rfl, rfl, rfl⟩ guarded

theorem step_effect {s t : MachineRuntime} {e : Event} (taken : s.step e = some t) :
    Effect s e t := by
  -- Calls change the state only where it permits; a completion or a delivery does so unasked.
  cases e with
  | start =>
    cases taken
    unfold start
    split
    · exact .starts rfl rfl ⟨rfl, rfl, rfl⟩
    · exact .nothing ⟨rfl, rfl, rfl⟩ rfl
  | requestStop gracefulShutdown requestError =>
    cases taken
    unfold requestStop
    split
    · exact .nothing ⟨rfl, rfl, rfl⟩ rfl
    · next virtualMachine held =>
      split
      · split
        · exact .nothing ⟨rfl, rfl, rfl⟩ rfl
        · obtain ⟨state | ⟨_, state⟩, same, made, _⟩ :=
            s.requestFrameworkStop_cases virtualMachine requestError
          · exact .nothing ⟨state, same, made⟩ rfl
          · exact .stops rfl (by simp [held]) (fun _ completes => by cases completes)
              ⟨state, same, made⟩
      · exact .nothing ⟨rfl, rfl, rfl⟩ rfl
  | forceStop =>
    cases taken
    unfold forceStop
    split
    · exact .nothing ⟨rfl, rfl, rfl⟩ rfl
    · next virtualMachine held =>
      split
      · exact .stops rfl (by simp [held]) (fun _ completes => by cases completes) ⟨rfl, rfl, rfl⟩
      · exact .nothing ⟨rfl, rfl, rfl⟩ rfl
  | complete index error requestError =>
    obtain ⟨call, found, resumed⟩ := Option.bind_eq_some_iff.mp taken
    cases resumed
    exact effect_complete found error requestError
  | guestDidStop virtualMachine =>
    simp only [step, enqueue] at taken
    split at taken
    · cases taken
      exact .nothing ⟨rfl, rfl, rfl⟩ rfl
    · cases taken
  | didStopWithError virtualMachine message =>
    simp only [step, enqueue] at taken
    split at taken
    · cases taken
      exact .nothing ⟨rfl, rfl, rfl⟩ rfl
    · cases taken
  | deliver index =>
    obtain ⟨⟨virtualMachine, state⟩, found, delivered⟩ := Option.bind_eq_some_iff.mp taken
    cases delivered
    exact .drops virtualMachine state (by simp [unguardedWrite, found])
      (by simp [completedMachine, found]) ⟨rfl, rfl, rfl⟩

/-- What the runtime keeps as long as unguarded writes are harmless. -/
structure Coherent (s : MachineRuntime) : Prop where
  holds : s.HoldsMachine
  latest : ∀ virtualMachine, s.virtualMachine = some virtualMachine → s.isLatest virtualMachine
  ended : ∀ delivery ∈ s.deliveries, delivery.2.canStart = true

theorem ended_enqueue {s t : MachineRuntime} {virtualMachine : Nat} {state : MachineRuntimeState}
    (ended : ∀ delivery ∈ s.deliveries, delivery.2.canStart = true) (ceased : state.canStart = true)
    (taken : s.enqueue virtualMachine state = some t) :
    ∀ delivery ∈ t.deliveries, delivery.2.canStart = true := by
  unfold enqueue at taken
  split at taken
  · cases taken
    intro delivery member
    rcases List.mem_append.mp member with before | new
    · exact ended delivery before
    · rw [List.mem_singleton.mp new]
      exact ceased
  · cases taken

/-- Delegates only report that a virtual machine is over. -/
theorem ended_step {s t : MachineRuntime} {e : Event}
    (ended : ∀ delivery ∈ s.deliveries, delivery.2.canStart = true) (taken : s.step e = some t) :
    ∀ delivery ∈ t.deliveries, delivery.2.canStart = true := by
  -- Deliveries are only made of reports of an end.
  cases e with
  | start =>
    cases taken
    unfold start
    split <;> exact ended
  | requestStop gracefulShutdown requestError =>
    cases taken
    unfold requestStop
    split
    · exact ended
    · next virtualMachine _ =>
      split
      · split
        · exact ended
        · rw [(s.requestFrameworkStop_cases virtualMachine requestError).2.2.2]
          exact ended
      · exact ended
  | forceStop =>
    cases taken
    unfold forceStop
    split
    · exact ended
    · split <;> exact ended
  | complete index error requestError =>
    obtain ⟨⟨virtualMachine, awaited⟩, found, resumed⟩ := Option.bind_eq_some_iff.mp taken
    cases resumed
    simp only [resume]
    split
    · exact ended
    · exact ended
    · exact ended
    · exact ended
    · split <;> exact ended
    · split
      · rw [(requestFrameworkStop_cases _ virtualMachine requestError).2.2.2]
        exact ended
      · exact ended
  | guestDidStop virtualMachine => exact ended_enqueue ended rfl taken
  | didStopWithError virtualMachine message => exact ended_enqueue ended rfl taken
  | deliver index =>
    obtain ⟨⟨virtualMachine, state⟩, found, delivered⟩ := Option.bind_eq_some_iff.mp taken
    cases delivered
    exact fun delivery member => ended delivery (mem_of_mem_eraseIdx member)

/-- The state written with the virtual machine dropped is not one that needs it. -/
theorem canStart_of_drops {s : MachineRuntime} {e : Event} {state : MachineRuntimeState}
    (ended : ∀ delivery ∈ s.deliveries, delivery.2.canStart = true)
    (writes : s.unguardedWrite e = some (state, true)) :
    state.canStart = true := by
  cases e with
  | complete index error requestError =>
    simp only [unguardedWrite] at writes
    split at writes <;> cases writes <;> rfl
  | deliver index =>
    simp only [unguardedWrite, Option.map_eq_some_iff] at writes
    obtain ⟨delivery, found, same⟩ := writes
    cases same
    exact ended delivery (List.mem_of_getElem? found)
  | _ => cases writes

theorem holdsMachine_of_canStart {s : MachineRuntime} (ceased : s.state.canStart = true) :
    s.HoldsMachine := by
  rintro (running | stopping)
  · rw [running] at ceased
    cases ceased
  · rw [stopping] at ceased
    cases ceased

/-- **Step lemma.** -/
theorem Coherent.step {s t : MachineRuntime} {e : Event} (coherent : s.Coherent)
    (harmless : s.Harmless e) (taken : s.step e = some t) : t.Coherent := by
  have ended := ended_step coherent.ended taken
  -- One case for each effect; the condition is needed for the completions that keep a machine.
  cases step_effect taken with
  | nothing same guarded =>
    obtain ⟨state, held, made⟩ := same
    refine ⟨?_, ?_, ended⟩
    · simpa only [HoldsMachine, state, held] using coherent.holds
    · simpa only [isLatest, held, made] using coherent.latest
  | starts _ _ after =>
    obtain ⟨state, held, made⟩ := after
    refine ⟨fun _ => by simp [held], fun virtualMachine now => ?_, ended⟩
    rw [held] at now
    cases now
    exact made.symm
  | stops _ held _ after =>
    obtain ⟨_, same, made⟩ := after
    refine ⟨fun _ => by rw [same]; exact held, ?_, ended⟩
    simpa only [isLatest, same, made] using coherent.latest
  | keeps virtualMachine writes _ after =>
    obtain ⟨_, same, made⟩ := after
    refine ⟨fun _ => ?_, ?_, ended⟩
    · rw [same]
      exact (harmless _ _ writes).1 rfl
    · simpa only [isLatest, same, made] using coherent.latest
  | drops virtualMachine state writes _ after =>
    obtain ⟨now, dropped, _⟩ := after
    refine ⟨holdsMachine_of_canStart ?_, fun _ held => ?_, ended⟩
    · rw [now]
      exact canStart_of_drops coherent.ended writes
    · rw [dropped] at held
      cases held

theorem Coherent.sparesLater {s t : MachineRuntime} {e : Event} (coherent : s.Coherent)
    (harmless : s.Harmless e) (taken : s.step e = some t) : s.SparesLater e t := by
  intro virtualMachine completes earlier
  cases step_effect taken with
  | nothing same _ => exact ⟨same.1, same.2.1⟩
  | starts unrelated _ _ =>
    rw [unrelated] at completes
    cases completes
  | stops _ _ own _ => exact absurd (coherent.latest _ (own _ completes)) earlier
  | keeps _ writes _ after =>
    rcases (harmless _ _ writes).2 _ completes with latest | ⟨same, _⟩
    · exact absurd latest earlier
    · exact ⟨after.1.trans same.symm, after.2.1⟩
  | drops _ state writes _ after =>
    rcases (harmless _ _ writes).2 _ completes with latest | ⟨same, empty⟩
    · exact absurd latest earlier
    · exact ⟨after.1.trans same.symm, after.2.1.trans (empty rfl).symm⟩

/-- A write that is not harmless breaks one of the two properties. -/
theorem harmless_of_coherence {s t : MachineRuntime} {e : Event} (taken : s.step e = some t)
    (holds : t.HoldsMachine) (spares : s.SparesLater e t) : s.Harmless e := by
  intro state drops writes
  cases step_effect taken with
  | nothing _ guarded | starts _ guarded _ | stops guarded _ _ _ =>
    rw [guarded] at writes
    cases writes
  | keeps _ wrote _ after =>
    rw [wrote] at writes
    cases writes
    refine ⟨fun _ => ?_, fun virtualMachine completes => ?_⟩
    · rw [← after.2.1]
      exact holds (.inl after.1)
    · by_cases latest : s.isLatest virtualMachine
      · exact .inl latest
      · obtain ⟨same, _⟩ := spares virtualMachine completes latest
        exact .inr ⟨same.symm.trans after.1, (by intros; contradiction)⟩
  | drops _ written wrote _ after =>
    rw [wrote] at writes
    cases writes
    refine ⟨(by intros; contradiction), fun virtualMachine completes => ?_⟩
    by_cases latest : s.isLatest virtualMachine
    · exact .inl latest
    · obtain ⟨same, held⟩ := spares virtualMachine completes latest
      exact .inr ⟨same.symm.trans after.1, fun _ => held.symm.trans after.2.1⟩

end MachineRuntime

/-- A step after which a running or stopping runtime holds a virtual machine, and that does
nothing to a later start. -/
def CoherentStep (s : MachineRuntime) (e : Event) (t : MachineRuntime) : Prop :=
  t.HoldsMachine ∧ s.SparesLater e t

/-- **The Apple runtime is coherent** in exactly the runs whose unguarded writes are harmless. -/
theorem coherent_iff (recorded : MachineRuntimeState) (events : List Event) :
    (MachineRuntime.create recorded).HoldsMachine ∧
      Along MachineRuntime.step CoherentStep (.create recorded) events ↔
      Meets MachineRuntime.step MachineRuntime.Harmless (.create recorded) events := by
  have initial : (MachineRuntime.create recorded).Coherent := by
    refine ⟨MachineRuntime.holdsMachine_of_canStart ?_, (by intros; contradiction), (by intros; contradiction)⟩
    exact recorded.restored_canStart
  have exact := along_iff_meets (Q := CoherentStep)
    (fun s e t coherent harmless taken => coherent.step harmless taken)
    (fun s e t coherent harmless taken =>
      ⟨(coherent.step harmless taken).holds, coherent.sparesLater harmless taken⟩)
    (fun s e t _ taken both => MachineRuntime.harmless_of_coherence taken both.1 both.2)
    (.create recorded) events initial
  exact ⟨fun both => exact.mp both.2, fun meets => ⟨initial.holds, exact.mpr meets⟩⟩

/-- A force stop that fails because the guest has stopped meanwhile: the runtime is said to run
without a virtual machine. -/
theorem forceStop_fails_after_guestDidStop : ∃ recorded events,
    ¬ ((MachineRuntime.create recorded).HoldsMachine ∧
      Along MachineRuntime.step CoherentStep (.create recorded) events) := by
  refine ⟨.stopped, [.start, .complete 0 none none, .forceStop, .guestDidStop 0, .deliver 0,
    .complete 0 (some "The virtual machine is not running.") none], fun both => ?_⟩
  have last := ((((((both.2 _ rfl).2 _ rfl).2 _ rfl).2 _ rfl).2 _ rfl).2 _ rfl).1
  exact last.1 (.inl rfl) rfl

end SimpleVM.Apple
