/-!
# Paths with dot components

What stands between the slashes of a path may be empty, `.` or `..`. Resolved from the root of the
file system on, such components leave a path of names. A path that is followed from a directory
stays below it unless some `..` outnumbers the names before it.
-/
namespace SimpleVM.Files

/-- One component more; above the root of the file system there is nothing. -/
def descend (path : List (List Char)) (component : List Char) : List (List Char) :=
  if component = [] ∨ component = ['.'] then path
  else if component = ['.', '.'] then path.dropLast
  else path ++ [component]

/-- The names that are left when the dot components are resolved. -/
def standardized (components : List (List Char)) : List (List Char) :=
  components.foldl descend []

/-- Followed from `depth` names below a directory, the path never leaves it. -/
def StaysBelow : Nat → List (List Char) → Prop
  | _, [] => True
  | depth, component :: rest =>
    if component = [] ∨ component = ['.'] then StaysBelow depth rest
    else if component = ['.', '.'] then 0 < depth ∧ StaysBelow (depth - 1) rest
    else StaysBelow (depth + 1) rest

instance decidableStaysBelow : ∀ depth components, Decidable (StaysBelow depth components)
  | _, [] => .isTrue trivial
  | depth, component :: rest => by
    have := decidableStaysBelow depth rest
    have := decidableStaysBelow (depth - 1) rest
    have := decidableStaysBelow (depth + 1) rest
    unfold StaysBelow
    infer_instance

/-- Neither empty nor a dot component. -/
def IsEntry (name : List Char) : Prop := name ≠ [] ∧ name ≠ ['.'] ∧ name ≠ ['.', '.']

variable {directory stack components : List (List Char)}

theorem standardized_append (more : List (List Char)) :
    standardized (components ++ more) = more.foldl descend (standardized components) :=
  List.foldl_append

/-- Names are kept as they are. -/
theorem foldl_descend_plain (plain : ∀ name ∈ components, IsEntry name) :
    components.foldl descend directory = directory ++ components := by
  induction components generalizing directory with
  | nil => simp
  | cons name rest ih =>
    obtain ⟨nonempty, current, parent⟩ := plain name List.mem_cons_self
    have step : descend directory name = directory ++ [name] := by
      simp [descend, nonempty, current, parent]
    rw [List.foldl_cons, step, ih fun other member => plain other (List.mem_cons_of_mem _ member)]
    simp

/-- Nothing but names is left. -/
theorem plain_foldl_descend (plain : ∀ name ∈ directory, IsEntry name) :
    ∀ name ∈ components.foldl descend directory, IsEntry name := by
  induction components generalizing directory with
  | nil => exact plain
  | cons component rest ih =>
    apply ih
    unfold descend
    split
    · exact plain
    · next named =>
      split
      · exact fun name member => plain name (List.dropLast_subset directory member)
      · next inner =>
        intro name member
        rcases List.mem_append.mp member with old | new
        · exact plain name old
        · rw [List.mem_singleton.mp new]
          rw [not_or] at named
          exact ⟨named.1, named.2, inner⟩

theorem plain_standardized (components : List (List Char)) :
    ∀ name ∈ standardized components, IsEntry name :=
  plain_foldl_descend fun _ member => absurd member List.not_mem_nil

/-- Names come from the path. -/
theorem mem_foldl_descend {name : List Char} (member : name ∈ components.foldl descend directory) :
    name ∈ directory ∨ name ∈ components := by
  induction components generalizing directory with
  | nil => exact .inl member
  | cons component rest ih =>
    rcases ih member with inside | later
    · unfold descend at inside
      split at inside
      · exact .inl inside
      · split at inside
        · exact .inl (List.dropLast_subset directory inside)
        · rcases List.mem_append.mp inside with old | new
          · exact .inl old
          · exact .inr (List.mem_cons.mpr (.inl (List.mem_singleton.mp new)))
    · exact .inr (List.mem_cons_of_mem component later)

/-- A path that stays below a directory leads to somewhere below it. -/
theorem foldl_descend_below (directory stack : List (List Char))
    (below : StaysBelow stack.length components) :
    ∃ more, components.foldl descend (directory ++ stack) = directory ++ more := by
  induction components generalizing stack with
  | nil => exact ⟨stack, rfl⟩
  | cons component rest ih =>
    unfold StaysBelow at below
    rw [List.foldl_cons]
    unfold descend
    by_cases current : component = [] ∨ component = ['.']
    · rw [if_pos current] at below ⊢
      exact ih stack below
    · rw [if_neg current] at below ⊢
      by_cases parent : component = ['.', '.']
      · rw [if_pos parent] at below ⊢
        obtain ⟨inside, below⟩ := below
        rw [List.dropLast_append_of_ne_nil (List.length_pos_iff.mp inside)]
        exact ih _ (by rwa [List.length_dropLast])
      · rw [if_neg parent] at below ⊢
        rw [List.append_assoc]
        exact ih _ (by rwa [List.length_append])

/-- A path that leaves a directory of one name leads to names of its own. -/
theorem foldl_descend_leaves {top : List Char} (leaves : ¬ StaysBelow stack.length components) :
    ∀ name ∈ components.foldl descend (top :: stack), name ∈ components := by
  induction components generalizing stack with
  | nil => exact absurd trivial leaves
  | cons component rest ih =>
    intro name member
    apply List.mem_cons.mpr
    unfold StaysBelow at leaves
    rw [List.foldl_cons] at member
    unfold descend at member
    by_cases current : component = [] ∨ component = ['.']
    · rw [if_pos current] at leaves member
      exact .inr (ih leaves name member)
    · rw [if_neg current] at leaves member
      by_cases parent : component = ['.', '.']
      · rw [if_pos parent] at leaves member
        cases stack with
        | nil =>
          -- Here the path leaves the directory.
          rcases mem_foldl_descend member with nothing | later
          · cases nothing
          · exact .inr later
        | cons next stack =>
          have shorter : ¬ StaysBelow (next :: stack).dropLast.length rest := fun below =>
            leaves ⟨Nat.succ_pos _, by rwa [List.length_dropLast] at below⟩
          exact .inr (ih shorter name member)
      · rw [if_neg parent] at leaves member
        have longer : ¬ StaysBelow (stack ++ [component]).length rest := by
          rwa [List.length_append]
        exact .inr (ih longer name member)

end SimpleVM.Files
