import Mathlib.Tactic.Simproc.ExistsAndEq

/-!
# Computations that may fail half way

A `Failing` computation changes a state and ends with a value or an error. Unlike a state
transformer over `Except` it keeps what it did before it failed, so a failed operation can
leave traces. `Keeps R x` says that `x`, failed or not, relates every state it starts in to
the one it ends in; for a preorder `R` the rules below follow the shape of the program.
-/
namespace SimpleVM.Effects

def Failing (σ ε α : Type) : Type := σ → Except ε α × σ

variable {σ ε α β : Type}

namespace Failing

def andThen (x : Failing σ ε α) (f : α → Failing σ ε β) : Failing σ ε β := fun s =>
  match x s with
  | (.ok a, t) => f a t
  | (.error e, t) => (.error e, t)

def orElse (x : Failing σ ε α) (handler : ε → Failing σ ε α) : Failing σ ε α := fun s =>
  match x s with
  | (.ok a, t) => (.ok a, t)
  | (.error e, t) => handler e t

instance : Monad (Failing σ ε) where
  pure a := fun s => (.ok a, s)
  bind := andThen

instance : MonadExcept ε (Failing σ ε) where
  throw e := fun s => (.error e, s)
  tryCatch := orElse

def getState : Failing σ ε σ := fun s => (.ok s, s)

def change (f : σ → σ) : Failing σ ε Unit := fun s => (.ok (), f s)

/-- `try?`: the result is dropped, the effects stay. -/
def ignoring (x : Failing σ ε α) : Failing σ ε Unit := fun s => (.ok (), (x s).2)

/-- `defer`: the cleanup runs however the computation ends. -/
def deferring (cleanup : Failing σ ε Unit) (x : Failing σ ε α) : Failing σ ε α := fun s =>
  ((x s).1, (cleanup (x s).2).2)

theorem bind_eq (x : Failing σ ε α) (f : α → Failing σ ε β) (s : σ) :
    (x >>= f) s = match x s with
      | (.ok a, t) => f a t
      | (.error e, t) => (.error e, t) := rfl

theorem bind_of_ok {x : Failing σ ε α} (f : α → Failing σ ε β) {s t : σ} {a : α}
    (run : x s = (.ok a, t)) : (x >>= f) s = f a t := by
  rw [bind_eq, run]

theorem bind_of_error {x : Failing σ ε α} (f : α → Failing σ ε β) {s t : σ} {e : ε}
    (run : x s = (.error e, t)) : (x >>= f) s = (.error e, t) := by
  rw [bind_eq, run]

theorem bind_error {x : Failing σ ε α} {f : α → Failing σ ε β} {s t : σ} {e : ε}
    (run : (x >>= f) s = (.error e, t)) :
    x s = (.error e, t) ∨ ∃ a u, x s = (.ok a, u) ∧ f a u = (.error e, t) := by
  rw [bind_eq] at run
  cases first : x s with
  | mk result u =>
    rw [first] at run
    cases result with
    | ok a => exact .inr ⟨a, u, rfl, run⟩
    | error d =>
      cases run
      exact .inl rfl

theorem bind_eq_ok {x : Failing σ ε α} {f : α → Failing σ ε β} {s u : σ} {b : β} :
    (x >>= f) s = (.ok b, u) ↔ ∃ a t, x s = (.ok a, t) ∧ f a t = (.ok b, u) := by
  constructor
  · intro run
    rw [bind_eq] at run
    cases first : x s with
    | mk result t =>
      rw [first] at run
      cases result with
      | ok a => exact ⟨a, t, rfl, run⟩
      | error e => cases run
  · rintro ⟨a, t, first, second⟩
    rw [bind_of_ok f first, second]

/-- How a sequence ended. -/
theorem bind_cases {x : Failing σ ε α} {f : α → Failing σ ε β} {s t : σ} {result : Except ε β}
    (run : (x >>= f) s = (result, t)) :
    (∃ e, x s = (.error e, t) ∧ result = .error e) ∨
      ∃ a u, x s = (.ok a, u) ∧ f a u = (result, t) := by
  rw [bind_eq] at run
  cases first : x s with
  | mk value u =>
    rw [first] at run
    cases value with
    | ok a => exact .inr ⟨a, u, rfl, run⟩
    | error e =>
      cases run
      exact .inl ⟨e, rfl, rfl⟩

/-- The computation returns a value from `s`. -/
def Succeeds (x : Failing σ ε α) (s : σ) : Prop := ∃ a t, x s = (.ok a, t)

theorem succeeds_bind {x : Failing σ ε α} {f : α → Failing σ ε β} {s : σ} :
    (x >>= f).Succeeds s ↔ ∃ a t, x s = (.ok a, t) ∧ (f a).Succeeds t := by
  constructor
  · rintro ⟨b, u, run⟩
    obtain ⟨a, t, first, second⟩ := bind_eq_ok.mp run
    exact ⟨a, t, first, b, u, second⟩
  · rintro ⟨a, t, first, b, u, second⟩
    exact ⟨b, u, bind_eq_ok.mpr ⟨a, t, first, second⟩⟩

/-- When what follows does not depend on the value or the state reached. -/
theorem succeeds_bind_const {x : Failing σ ε α} {f : α → Failing σ ε β} {s : σ} {p : Prop}
    (rest : ∀ a t, (f a).Succeeds t ↔ p) : (x >>= f).Succeeds s ↔ x.Succeeds s ∧ p := by
  rw [succeeds_bind]
  constructor
  · rintro ⟨a, t, first, second⟩
    exact ⟨⟨a, t, first⟩, (rest a t).mp second⟩
  · rintro ⟨⟨a, t, first⟩, second⟩
    exact ⟨a, t, first, (rest a t).mpr second⟩

@[simp] theorem throw_ne_ok {e : ε} {a : α} {s t : σ} :
    ¬ (throw e : Failing σ ε α) s = (.ok a, t) := by
  intro run
  cases run

@[simp] theorem getState_eq_ok {s t : σ} {a : σ} :
    (getState : Failing σ ε σ) s = (.ok a, t) ↔ a = s ∧ t = s := by
  simp [getState, eq_comm]

@[simp] theorem change_eq_ok {f : σ → σ} {s t : σ} {u : Unit} :
    (change f : Failing σ ε Unit) s = (.ok u, t) ↔ t = f s := by
  simp [change, eq_comm]

theorem pure_eq_ok {a b : α} {s t : σ} :
    (pure a : Failing σ ε α) s = (.ok b, t) ↔ b = a ∧ t = s := by
  constructor
  · intro run
    cases run
    exact ⟨rfl, rfl⟩
  · rintro ⟨rfl, rfl⟩
    rfl

@[simp] theorem succeeds_pure (a : α) (s : σ) : (pure a : Failing σ ε α).Succeeds s :=
  ⟨a, s, rfl⟩

@[simp] theorem succeeds_change (f : σ → σ) (s : σ) :
    (change f : Failing σ ε Unit).Succeeds s := ⟨(), f s, rfl⟩

@[simp] theorem not_succeeds_throw (e : ε) (s : σ) :
    ¬ (throw e : Failing σ ε α).Succeeds s := by
  rintro ⟨a, t, run⟩
  cases run

theorem tryCatch_of_ok {x : Failing σ ε α} (handler : ε → Failing σ ε α) {s t : σ} {a : α}
    (run : x s = (.ok a, t)) : (tryCatch x handler) s = (.ok a, t) := by
  show orElse x handler s = _
  simp only [orElse, run]

theorem tryCatch_of_error {x : Failing σ ε α} (handler : ε → Failing σ ε α) {s t : σ} {e : ε}
    (run : x s = (.error e, t)) : (tryCatch x handler) s = handler e t := by
  show orElse x handler s = _
  simp only [orElse, run]

/-- What is returned past a handler that ends in an error was returned by the body. -/
theorem ok_of_tryCatch {x : Failing σ ε α} {handler : ε → Failing σ ε α} {s t : σ} {a : α}
    (rethrows : ∀ e t, ¬ (handler e).Succeeds t) (run : (tryCatch x handler) s = (.ok a, t)) :
    x s = (.ok a, t) := by
  cases body : x s with
  | mk result u =>
    cases result with
    | ok b => rw [← tryCatch_of_ok handler body, run]
    | error e =>
      rw [tryCatch_of_error handler body] at run
      exact absurd ⟨a, t, run⟩ (rethrows e u)

theorem error_of_tryCatch {x : Failing σ ε α} {handler : ε → Failing σ ε α} {s u : σ} {e : ε}
    (run : (tryCatch x handler) s = (.error e, u)) :
    ∃ d t, x s = (.error d, t) ∧ handler d t = (.error e, u) := by
  cases body : x s with
  | mk result t =>
    cases result with
    | ok a =>
      rw [tryCatch_of_ok handler body] at run
      cases run
    | error d =>
      rw [tryCatch_of_error handler body] at run
      exact ⟨d, t, rfl, run⟩

/-- How a computation with a handler ended. -/
theorem tryCatch_cases {x : Failing σ ε α} {handler : ε → Failing σ ε α} {s t : σ}
    {result : Except ε α} (run : (tryCatch x handler) s = (result, t)) :
    (∃ a, x s = (.ok a, t) ∧ result = .ok a) ∨
      ∃ e u, x s = (.error e, u) ∧ handler e u = (result, t) := by
  cases body : x s with
  | mk value u =>
    cases value with
    | ok a =>
      rw [tryCatch_of_ok handler body] at run
      cases run
      exact .inl ⟨a, rfl, rfl⟩
    | error e =>
      rw [tryCatch_of_error handler body] at run
      exact .inr ⟨e, u, rfl, run⟩

/-- A handler that ends in an error does not turn a failure into a success. -/
theorem succeeds_tryCatch {x : Failing σ ε α} {handler : ε → Failing σ ε α} {s : σ}
    (rethrows : ∀ e t, ¬ (handler e).Succeeds t) :
    (tryCatch x handler).Succeeds s ↔ x.Succeeds s := by
  cases run : x s with
  | mk result t =>
    cases result with
    | ok a =>
      have caught := tryCatch_of_ok handler run
      exact ⟨fun _ => ⟨a, t, run⟩, fun _ => ⟨a, t, caught⟩⟩
    | error e =>
      have caught := tryCatch_of_error handler run
      constructor
      · rintro ⟨a, u, succeeded⟩
        exact absurd ⟨a, u, caught.symm.trans succeeded⟩ (rethrows e t)
      · rintro ⟨a, u, succeeded⟩
        rw [run] at succeeded
        cases succeeded

end Failing

open Failing

/-- Started in any state, `x` ends in a state related to it. -/
def Keeps (R : σ → σ → Prop) (x : Failing σ ε α) : Prop := ∀ s, R s (x s).2

section Rules

variable {R : σ → σ → Prop}

theorem Keeps.of_run {x : Failing σ ε α} (keeps : Keeps R x) {s t : σ} {result : Except ε α}
    (run : x s = (result, t)) : R s t := by
  have related := keeps s
  rwa [run] at related

theorem Keeps.pure (refl : ∀ s, R s s) (a : α) :
    Keeps R (Pure.pure a : Failing σ ε α) := refl

theorem Keeps.throw (refl : ∀ s, R s s) (e : ε) :
    Keeps R (MonadExcept.throw e : Failing σ ε α) := refl

theorem Keeps.getState (refl : ∀ s, R s s) : Keeps R (Failing.getState : Failing σ ε σ) := refl

theorem Keeps.change {f : σ → σ} (moves : ∀ s, R s (f s)) :
    Keeps R (Failing.change f : Failing σ ε Unit) := moves

theorem Keeps.ignoring {x : Failing σ ε α} (keeps : Keeps R x) :
    Keeps R (Failing.ignoring x : Failing σ ε Unit) := keeps

theorem Keeps.deferring (trans : ∀ a b c, R a b → R b c → R a c) {cleanup : Failing σ ε Unit}
    {x : Failing σ ε α} (body : Keeps R x) (after : Keeps R cleanup) :
    Keeps R (Failing.deferring cleanup x) := fun s => trans _ _ _ (body s) (after _)

/-- What follows may rely on the value it is given being one `x` returned. -/
theorem Keeps.bind_of_ok (trans : ∀ a b c, R a b → R b c → R a c) {x : Failing σ ε α}
    {f : α → Failing σ ε β} (first : Keeps R x)
    (second : ∀ s a t, x s = (.ok a, t) → R t (f a t).2) : Keeps R (x >>= f) := by
  intro s
  have one := first s
  rw [bind_eq]
  cases run : x s with
  | mk result t =>
    rw [run] at one
    cases result with
    | ok a => exact trans _ _ _ one (second s a t run)
    | error e => exact one

theorem Keeps.bind (trans : ∀ a b c, R a b → R b c → R a c) {x : Failing σ ε α}
    {f : α → Failing σ ε β} (first : Keeps R x) (second : ∀ a, Keeps R (f a)) :
    Keeps R (x >>= f) :=
  Keeps.bind_of_ok trans first fun _ a t _ => second a t

theorem Keeps.tryCatch (trans : ∀ a b c, R a b → R b c → R a c) {x : Failing σ ε α}
    {handler : ε → Failing σ ε α} (body : Keeps R x) (caught : ∀ e, Keeps R (handler e)) :
    Keeps R (MonadExcept.tryCatch x handler) := by
  intro s
  have one := body s
  show R s (Failing.orElse x handler s).2
  unfold Failing.orElse
  cases run : x s with
  | mk result t =>
    rw [run] at one
    cases result with
    | ok a => exact one
    | error e => exact trans _ _ _ one (caught e t)

/-- Where `x` fails, it ends in a state related to the one it starts in. -/
def FailsIn (R : σ → σ → Prop) (x : Failing σ ε α) : Prop :=
  ∀ s e t, x s = (.error e, t) → R s t

theorem FailsIn.bind (trans : ∀ a b c, R a b → R b c → R a c) {x : Failing σ ε α}
    {f : α → Failing σ ε β} (first : Keeps R x) (second : ∀ a, FailsIn R (f a)) :
    FailsIn R (x >>= f) := by
  intro s e u run
  rcases bind_error run with failed | ⟨a, t, returned, failed⟩
  · exact first.of_run failed
  · exact trans _ _ _ (first.of_run returned) (second a t e u failed)

end Rules

end SimpleVM.Effects
