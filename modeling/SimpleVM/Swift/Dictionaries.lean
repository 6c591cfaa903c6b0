/-!
# Dictionaries as lists

A dictionary is a list of pairs whose keys are distinct. Assigning puts a pair in front and takes
away what was under its key.
-/
namespace SimpleVM.Swift

variable {Key Value : Type} [DecidableEq Key] {dictionary entries : List (Key × Value)}
  {key other : Key} {value : Value} {entry : Key × Value}

/-- `dictionary[key] = value`. -/
def assign (dictionary : List (Key × Value)) (entry : Key × Value) : List (Key × Value) :=
  entry :: dictionary.filter fun other => decide (other.1 ≠ entry.1)

theorem mem_of_lookup (found : dictionary.lookup key = some value) : (key, value) ∈ dictionary := by
  obtain ⟨front, back, split, -⟩ := List.lookup_eq_some_iff.mp found
  simp [split]

theorem mem_keys_of_lookup (found : dictionary.lookup key = some value) :
    key ∈ dictionary.map Prod.fst :=
  List.mem_map_of_mem (mem_of_lookup found)

/-- What is taken away under one key is not missed under another. -/
theorem lookup_filter (apart : other ≠ key) :
    (dictionary.filter fun entry => decide (entry.1 ≠ key)).lookup other =
      dictionary.lookup other := by
  induction dictionary with
  | nil => rfl
  | cons entry dictionary ih =>
    by_cases taken : entry.1 = key
    · have skipped : (other == entry.1) = false := by simpa [taken] using apart
      rw [List.filter_cons_of_neg (by simpa using taken), ih, List.lookup_cons, skipped]
    · rw [List.filter_cons_of_pos (by simpa using taken), List.lookup_cons, List.lookup_cons, ih]

theorem lookup_assign (dictionary : List (Key × Value)) (entry : Key × Value) (key : Key) :
    (assign dictionary entry).lookup key =
      if key = entry.1 then some entry.2 else dictionary.lookup key := by
  unfold assign
  by_cases same : key = entry.1
  · rw [if_pos same, List.lookup_cons, same, beq_self_eq_true]
  · have differs : (key == entry.1) = false := by simpa using same
    rw [if_neg same, List.lookup_cons, differs]
    exact lookup_filter same

theorem nodup_assign (distinct : (dictionary.map Prod.fst).Nodup) :
    ((assign dictionary entry).map Prod.fst).Nodup := by
  have sub : ((dictionary.filter fun other => decide (other.1 ≠ entry.1)).map Prod.fst).Nodup :=
    (List.filter_sublist.map Prod.fst).nodup distinct
  refine List.nodup_cons.mpr ⟨?_, sub⟩
  intro listed
  obtain ⟨other, member, same⟩ := List.mem_map.mp listed
  have apart := (List.mem_filter.mp member).2
  simp [same] at apart

theorem nodup_assigned (distinct : (dictionary.map Prod.fst).Nodup) :
    ((entries.foldl assign dictionary).map Prod.fst).Nodup := by
  induction entries generalizing dictionary with
  | nil => exact distinct
  | cons entry entries ih => exact ih (nodup_assign distinct)

/-- In a dictionary, what is listed is what is found. -/
theorem lookup_iff_mem (distinct : (dictionary.map Prod.fst).Nodup) :
    dictionary.lookup key = some value ↔ (key, value) ∈ dictionary := by
  refine ⟨mem_of_lookup, fun member => ?_⟩
  induction dictionary with
  | nil => cases member
  | cons entry dictionary ih =>
    simp only [List.map_cons, List.nodup_cons] at distinct
    rw [List.lookup_cons]
    rcases List.mem_cons.mp member with rfl | later
    · rw [beq_self_eq_true]
    · have apart : key ≠ entry.1 := by
        rintro rfl
        exact distinct.1 (List.mem_map.mpr ⟨(entry.1, value), later, rfl⟩)
      have differs : (key == entry.1) = false := by simpa using apart
      rw [differs]
      exact ih distinct.2 later

/-- Assigned entries are found before those of the dictionary. -/
theorem lookup_assigned (distinct : (entries.map Prod.fst).Nodup) :
    (entries.foldl assign dictionary).lookup key =
      (entries.lookup key).or (dictionary.lookup key) := by
  induction entries generalizing dictionary with
  | nil => rfl
  | cons entry entries ih =>
    simp only [List.map_cons, List.nodup_cons] at distinct
    rw [List.foldl_cons, ih distinct.2, lookup_assign, List.lookup_cons]
    by_cases same : key = entry.1
    · have absent : entries.lookup key = none := by
        cases found : entries.lookup key with
        | none => rfl
        | some value => exact absurd (same ▸ mem_keys_of_lookup found) distinct.1
      rw [absent, if_pos same, same, beq_self_eq_true]
      rfl
    · have differs : (key == entry.1) = false := by simpa using same
      rw [if_neg same, differs]

theorem mem_assigned (member : entry ∈ entries.foldl assign dictionary) :
    entry ∈ entries ∨ entry ∈ dictionary := by
  induction entries generalizing dictionary with
  | nil => exact .inr member
  | cons first entries ih =>
    rcases ih member with later | assigned
    · exact .inl (List.mem_cons_of_mem _ later)
    · rcases List.mem_cons.mp assigned with rfl | kept
      · exact .inl List.mem_cons_self
      · exact .inr (List.mem_filter.mp kept).1

end SimpleVM.Swift
