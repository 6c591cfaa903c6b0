/-!
# Results in sequence

How a sequence of `Except` computations succeeds or fails.
-/
namespace SimpleVM.Effects

variable {ε α β : Type}

theorem bind_ok_iff {x : Except ε α} {f : α → Except ε β} {b : β} :
    (x >>= f) = .ok b ↔ ∃ a, x = .ok a ∧ f a = .ok b := by
  cases x with
  | error e => simp [bind, Except.bind]
  | ok a => simp [bind, Except.bind]

theorem bind_error_iff {x : Except ε α} {f : α → Except ε β} {e : ε} :
    (x >>= f) = .error e ↔ x = .error e ∨ ∃ a, x = .ok a ∧ f a = .error e := by
  cases x with
  | error d => simp [bind, Except.bind]
  | ok a => simp [bind, Except.bind]

theorem toOption_eq_some {x : Except ε α} {a : α} : x.toOption = some a ↔ x = .ok a := by
  cases x <;> simp [Except.toOption]

theorem mapError_ok {δ : Type} (f : ε → δ) (a : α) :
    (Except.ok a : Except ε α).mapError f = .ok a := rfl

theorem mapError_error {δ : Type} (f : ε → δ) (e : ε) :
    (Except.error e : Except ε α).mapError f = .error (f e) := rfl

/-- A sequence succeeds when each of its computations does. -/
theorem mapM_ok_iff {f : α → Except ε β} {items : List α} :
    (∃ results, items.mapM f = .ok results) ↔ ∀ item ∈ items, ∃ b, f item = .ok b := by
  induction items with
  | nil => simp [pure, Except.pure]
  | cons item items ih =>
    rw [List.mapM_cons, List.forall_mem_cons, ← ih]
    constructor
    · rintro ⟨results, whole⟩
      obtain ⟨b, first, whole⟩ := bind_ok_iff.mp whole
      obtain ⟨others, rest, -⟩ := bind_ok_iff.mp whole
      exact ⟨⟨b, first⟩, others, rest⟩
    · rintro ⟨⟨b, first⟩, others, rest⟩
      exact ⟨b :: others, by rw [first, rest]; rfl⟩

/-- The results of a sequence whose computations succeed on a condition, each with one result. -/
theorem mapM_eq_ok_iff {f : α → Except ε β} {P : α → Prop} {g : α → β} {items : List α}
    {results : List β} (each : ∀ item b, f item = .ok b ↔ P item ∧ b = g item) :
    items.mapM f = .ok results ↔ (∀ item ∈ items, P item) ∧ results = items.map g := by
  induction items generalizing results with
  | nil => simp [pure, Except.pure, eq_comm]
  | cons item items ih =>
    rw [List.mapM_cons, bind_ok_iff]
    constructor
    · rintro ⟨b, first, whole⟩
      obtain ⟨others, later, whole⟩ := bind_ok_iff.mp whole
      cases whole
      obtain ⟨here, rfl⟩ := (each item b).mp first
      obtain ⟨all, rfl⟩ := ih.mp later
      exact ⟨List.forall_mem_cons.mpr ⟨here, all⟩, rfl⟩
    · rintro ⟨all, rfl⟩
      obtain ⟨here, later⟩ := List.forall_mem_cons.mp all
      refine ⟨g item, (each item (g item)).mpr ⟨here, rfl⟩, ?_⟩
      exact bind_ok_iff.mpr ⟨items.map g, ih.mpr ⟨later, rfl⟩, rfl⟩

/-- The error of a sequence is one of its computations'. -/
theorem exists_of_mapM_error {f : α → Except ε β} {items : List α} {e : ε}
    (failed : items.mapM f = .error e) : ∃ item ∈ items, f item = .error e := by
  induction items with
  | nil => cases failed
  | cons item items ih =>
    rw [List.mapM_cons] at failed
    rcases bind_error_iff.mp failed with first | ⟨b, -, later⟩
    · exact ⟨item, List.mem_cons_self, first⟩
    · rcases bind_error_iff.mp later with rest | ⟨others, -, none⟩
      · obtain ⟨other, inside, same⟩ := ih rest
        exact ⟨other, List.mem_cons_of_mem item inside, same⟩
      · cases none

end SimpleVM.Effects
