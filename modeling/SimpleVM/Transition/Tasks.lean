/-!
# Tasks in flight

The suspended operations of a system form a list in no particular order. Resuming one
takes it out of the list and, if it suspends again, puts it back at the head.
-/
namespace SimpleVM.Transition

variable {Task : Type} {R : Task → Task → Prop}

theorem mem_of_mem_eraseIdx {tasks : List Task} {index : Nat} {t : Task}
    (member : t ∈ tasks.eraseIdx index) : t ∈ tasks :=
  (List.eraseIdx_sublist tasks index).subset member

/-- The list is the task taken out and the rest. -/
theorem mem_takeOut {tasks : List Task} {index : Nat} {t : Task} (found : tasks[index]? = some t)
    (other : Task) : other ∈ t :: tasks.eraseIdx index ↔ other ∈ tasks := by
  constructor
  · intro member
    rcases List.mem_cons.mp member with rfl | rest
    · exact List.mem_of_getElem? found
    · exact mem_of_mem_eraseIdx rest
  · intro member
    obtain ⟨i, here⟩ := List.getElem?_of_mem member
    by_cases same : i = index
    · subst same
      rw [found, Option.some.injEq] at here
      exact List.mem_cons.mpr (.inl here.symm)
    · exact List.mem_cons_of_mem _ (List.mem_eraseIdx_iff_getElem?.mpr ⟨i, same, here⟩)

theorem mem_eraseIdx_of_ne {tasks : List Task} {index : Nat} {t other : Task}
    (found : tasks[index]? = some t) (member : other ∈ tasks) (ne : other ≠ t) :
    other ∈ tasks.eraseIdx index :=
  (List.mem_cons.mp ((mem_takeOut found other).mpr member)).resolve_left ne

/-- Taking one task out of a pairwise compatible list leaves it compatible with the rest. -/
theorem pairwise_takeOut (symm : ∀ a b, R a b → R b a) {tasks : List Task} {index : Nat}
    {t : Task} (found : tasks[index]? = some t) (pairwise : tasks.Pairwise R) :
    (∀ other ∈ tasks.eraseIdx index, R t other) ∧ (tasks.eraseIdx index).Pairwise R := by
  induction tasks generalizing index with
  | nil => simp at found
  | cons first rest ih =>
    obtain ⟨apart, tail⟩ := List.pairwise_cons.mp pairwise
    cases index with
    | zero =>
      simp only [List.getElem?_cons_zero, Option.some.injEq] at found
      subst found
      simpa only [List.eraseIdx_cons_zero] using And.intro apart tail
    | succ index =>
      simp only [List.getElem?_cons_succ] at found
      obtain ⟨against, kept⟩ := ih found tail
      have member : t ∈ rest := List.mem_of_getElem? found
      simp only [List.eraseIdx_cons_succ, List.mem_cons, List.pairwise_cons]
      refine ⟨?_, fun other here => apart other (mem_of_mem_eraseIdx here), kept⟩
      rintro other (rfl | later)
      · exact symm _ _ (apart t member)
      · exact against other later

/-- The tasks before one, the task itself and the tasks after it. -/
theorem split_at {tasks : List Task} {index : Nat} {t : Task} (found : tasks[index]? = some t) :
    tasks = tasks.take index ++ t :: tasks.drop (index + 1) := by
  obtain ⟨bound, here⟩ := List.getElem?_eq_some_iff.mp found
  rw [← here, ← List.drop_eq_getElem_cons bound, List.take_append_drop]

/-- A task that is replaced changes its place for its successor. -/
theorem set_split {tasks : List Task} {index : Nat} {t : Task} (found : tasks[index]? = some t)
    (changed : Task) :
    tasks.set index changed = tasks.take index ++ changed :: tasks.drop (index + 1) := by
  obtain ⟨bound, -⟩ := List.getElem?_eq_some_iff.mp found
  rw [List.set_eq_take_append_cons_drop, if_pos bound]

/-- The other tasks stay in the list. -/
theorem mem_set_of_mem {tasks : List Task} {index : Nat} {t other : Task}
    (found : tasks[index]? = some t) (changed : Task) (member : other ∈ tasks) :
    other = t ∧ changed ∈ tasks.set index changed ∨ other ∈ tasks.set index changed := by
  rw [split_at found] at member
  rw [set_split found]
  simp only [List.mem_append, List.mem_cons] at member ⊢
  rcases member with before | rfl | after
  · exact .inr (.inl before)
  · simp
  · exact .inr (.inr (.inr after))

/-- What a replaced task keeps, the list keeps. -/
theorem map_set_of_eq {β : Type} {tasks : List Task} {index : Nat} {t : Task} {f : Task → β}
    (found : tasks[index]? = some t) (changed : Task) (same : f changed = f t) :
    (tasks.set index changed).map f = tasks.map f := by
  have all := congrArg (List.map f) (split_at found)
  rw [List.map_append, List.map_cons] at all
  rw [set_split found, List.map_append, List.map_cons, same, ← all]

end SimpleVM.Transition
