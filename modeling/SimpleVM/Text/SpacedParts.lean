/-!
# Parts between runs of a separator

A text that is cut at each separator has empty pieces where separators stand side by side, and at
its ends. Without these it has the parts that it was spaced out of, however many separators there
are.
-/
namespace SimpleVM.Text

variable {α : Type} {sep : α}

/-- Parts with a number of separators behind each. -/
def spaced (sep : α) (items : List (List α × Nat)) : List α :=
  items.flatMap fun item => item.1 ++ List.replicate item.2 sep

/-- Parts are not empty and have no separator, and only the last one may have none behind it. -/
structure Spaces (sep : α) (items : List (List α × Nat)) : Prop where
  parts : ∀ item ∈ items, item.1 ≠ [] ∧ sep ∉ item.1
  between : ∀ item ∈ items.dropLast, 0 < item.2

theorem spaced_cons (part : List α) (count : Nat) (items : List (List α × Nat)) :
    spaced sep ((part, count) :: items) = part ++ (List.replicate count sep ++ spaced sep items) := by
  simp [spaced]

theorem Spaces.tail {item : List α × Nat} {items : List (List α × Nat)}
    (spaces : Spaces sep (item :: items)) : Spaces sep items := by
  refine ⟨fun other member => spaces.parts other (List.mem_cons_of_mem _ member), ?_⟩
  intro other member
  cases items with
  | nil => cases member
  | cons next rest =>
    apply spaces.between other
    rw [List.dropLast_cons_cons]
    exact List.mem_cons_of_mem _ member

/-- Something stands behind a part that another one follows. -/
theorem Spaces.head {item next : List α × Nat} {items : List (List α × Nat)}
    (spaces : Spaces sep (item :: next :: items)) : 0 < item.2 := by
  apply spaces.between
  rw [List.dropLast_cons_cons]
  exact List.mem_cons_self

theorem Spaces.cons {part : List α} {count : Nat} {items : List (List α × Nat)}
    (nonempty : part ≠ []) (plain : sep ∉ part) (apart : items ≠ [] → 0 < count)
    (spaces : Spaces sep items) : Spaces sep ((part, count) :: items) := by
  constructor
  · intro item member
    rcases List.mem_cons.mp member with rfl | later
    · exact ⟨nonempty, plain⟩
    · exact spaces.parts item later
  · intro item member
    cases items with
    | nil => cases member
    | cons next rest =>
      rw [List.dropLast_cons_cons] at member
      rcases List.mem_cons.mp member with rfl | later
      · exact apart (by simp)
      · exact spaces.between item later

section Pieces

variable [DecidableEq α]

/-- The pieces between the separators, the empty ones as well. -/
def pieces (sep : α) : List α → List (List α)
  | [] => [[]]
  | c :: rest =>
    if c = sep then [] :: pieces sep rest
    else match pieces sep rest with
      | [] => [[c]]
      | piece :: more => (c :: piece) :: more

theorem pieces_ne_nil (text : List α) : pieces sep text ≠ [] := by
  unfold pieces
  split
  · simp
  · split
    · simp
    · split <;> simp

def nonemptyPieces (sep : α) (text : List α) : List (List α) :=
  (pieces sep text).filter fun piece => !piece.isEmpty

theorem nonemptyPieces_sep (text : List α) :
    nonemptyPieces sep (sep :: text) = nonemptyPieces sep text := by
  simp [nonemptyPieces, pieces]

theorem nonemptyPieces_replicate (count : Nat) (text : List α) :
    nonemptyPieces sep (List.replicate count sep ++ text) = nonemptyPieces sep text := by
  induction count with
  | zero => rfl
  | succ count ih => rw [List.replicate_succ, List.cons_append, nonemptyPieces_sep, ih]

theorem pieces_plain {part : List α} (plain : sep ∉ part) : pieces sep part = [part] := by
  induction part with
  | nil => rfl
  | cons c part ih =>
    simp only [List.mem_cons, not_or] at plain
    have other : c ≠ sep := fun same => plain.1 same.symm
    simp [pieces, other, ih plain.2]

theorem pieces_append {part : List α} (plain : sep ∉ part) (text : List α) :
    pieces sep (part ++ sep :: text) = part :: pieces sep text := by
  induction part with
  | nil => simp [pieces]
  | cons c part ih =>
    simp only [List.mem_cons, not_or] at plain
    have other : c ≠ sep := fun same => plain.1 same.symm
    simp [pieces, other, ih plain.2]

/-- The parts are found again. -/
theorem nonemptyPieces_spaced {items : List (List α × Nat)} (spaces : Spaces sep items)
    (front : Nat) :
    nonemptyPieces sep (List.replicate front sep ++ spaced sep items) = items.map Prod.fst := by
  rw [nonemptyPieces_replicate]
  induction items with
  | nil => rfl
  | cons item items ih =>
    obtain ⟨part, count⟩ := item
    obtain ⟨nonempty, plain⟩ := spaces.parts (part, count) List.mem_cons_self
    have later := ih spaces.tail
    rw [spaced_cons, List.map_cons]
    cases count with
    | zero =>
      -- a part with nothing behind it is the last one
      cases items with
      | nil => simp [spaced, nonemptyPieces, pieces_plain plain, nonempty]
      | cons next rest => exact absurd spaces.head (Nat.lt_irrefl 0)
    | succ count =>
      rw [List.replicate_succ, List.cons_append, nonemptyPieces, pieces_append plain,
        List.filter_cons_of_pos (by simp [nonempty])]
      rw [← later, ← nonemptyPieces_replicate count]
      rfl

/-- Every text is made of parts and separators. -/
theorem exists_spaced (sep : α) (text : List α) :
    ∃ front items, text = List.replicate front sep ++ spaced sep items ∧ Spaces sep items := by
  induction text with
  | nil => exact ⟨0, [], rfl, ⟨by simp, by simp⟩⟩
  | cons c text ih =>
    obtain ⟨front, items, rfl, spaces⟩ := ih
    by_cases here : c = sep
    · exact ⟨front + 1, items, by rw [here, List.replicate_succ, List.cons_append], spaces⟩
    · have single : sep ∉ [c] := by simpa using fun same : sep = c => here same.symm
      cases front with
      | succ front =>
        refine ⟨0, ([c], front + 1) :: items, ?_, spaces.cons (by simp) single fun _ => by simp⟩
        rw [spaced_cons]
        rfl
      | zero =>
        cases items with
        | nil =>
          refine ⟨0, [([c], 0)], rfl, spaces.cons (by simp) single fun other => absurd rfl other⟩
        | cons item rest =>
          -- the character begins the first part
          obtain ⟨part, count⟩ := item
          obtain ⟨-, plain⟩ := spaces.parts (part, count) List.mem_cons_self
          refine ⟨0, (c :: part, count) :: rest, ?_, ?_⟩
          · rw [spaced_cons, spaced_cons]
            rfl
          · refine spaces.tail.cons (by simp) ?_ fun more => ?_
            · simpa [plain] using fun same : sep = c => here same.symm
            · obtain ⟨next, others, rfl⟩ := List.exists_cons_of_ne_nil more
              exact spaces.head

end Pieces

section Single

/-- One separator between each two parts. -/
def spacedByOne : List (List α) → List (List α × Nat)
  | [] => []
  | [part] => [(part, 0)]
  | part :: rest => (part, 1) :: spacedByOne rest

theorem spacedByOne_fst (parts : List (List α)) : (spacedByOne parts).map Prod.fst = parts := by
  fun_induction spacedByOne parts with
  | case1 => rfl
  | case2 part => rfl
  | case3 part rest more ih => simp [ih]

theorem spaced_byOne (parts : List (List α)) :
    spaced sep (spacedByOne parts) = List.intercalate [sep] parts := by
  fun_induction spacedByOne parts with
  | case1 => rfl
  | case2 part => simp [spaced]
  | case3 part rest more ih =>
    obtain ⟨next, others, rfl⟩ := List.exists_cons_of_ne_nil more
    rw [spaced_cons, ih, List.intercalate_cons_cons]
    simp

theorem spaces_byOne {parts : List (List α)} (plain : ∀ part ∈ parts, part ≠ [] ∧ sep ∉ part) :
    Spaces sep (spacedByOne parts) := by
  fun_induction spacedByOne parts with
  | case1 => exact ⟨by simp, by simp⟩
  | case2 part =>
    obtain ⟨nonempty, without⟩ := plain part List.mem_cons_self
    exact Spaces.cons nonempty without (fun more => absurd rfl more) ⟨by simp, by simp⟩
  | case3 part rest more ih =>
    obtain ⟨nonempty, without⟩ := plain part List.mem_cons_self
    exact Spaces.cons nonempty without (fun _ => Nat.zero_lt_one)
      (ih fun other member => plain other (List.mem_cons_of_mem _ member))

variable [DecidableEq α]

theorem count_spaced_cons {part : List α} (plain : sep ∉ part) (count : Nat)
    (items : List (List α × Nat)) :
    (spaced sep ((part, count) :: items)).count sep = count + (spaced sep items).count sep := by
  rw [spaced_cons, List.count_append, List.count_append, List.count_eq_zero_of_not_mem plain,
    List.count_replicate_self, Nat.zero_add]

theorem count_byOne {parts : List (List α)} (plain : ∀ part ∈ parts, sep ∉ part) :
    (spaced sep (spacedByOne parts)).count sep = parts.length - 1 := by
  fun_induction spacedByOne parts with
  | case1 => rfl
  | case2 part =>
    rw [count_spaced_cons (plain part List.mem_cons_self)]
    rfl
  | case3 part rest more ih =>
    have nonempty : 0 < rest.length := List.length_pos_iff.mpr more
    rw [count_spaced_cons (plain part List.mem_cons_self),
      ih fun other member => plain other (List.mem_cons_of_mem _ member), List.length_cons]
    omega

/-- The parts need a separator between each two of them, and no more only if they are spaced by
one. -/
theorem count_spaced {items : List (List α × Nat)} (spaces : Spaces sep items) :
    items.length ≤ (spaced sep items).count sep + 1 ∧
      ((spaced sep items).count sep + 1 ≤ items.length →
        spaced sep items = List.intercalate [sep] (items.map Prod.fst)) := by
  induction items with
  | nil => simp [spaced]
  | cons item items ih =>
    obtain ⟨part, count⟩ := item
    obtain ⟨-, plain⟩ := spaces.parts (part, count) List.mem_cons_self
    obtain ⟨least, exactly⟩ := ih spaces.tail
    rw [count_spaced_cons plain, List.length_cons]
    cases items with
    | nil =>
      have nothing : (spaced sep ([] : List (List α × Nat))).count sep = 0 := rfl
      rw [nothing, List.length_nil]
      refine ⟨by omega, fun few => ?_⟩
      have none : count = 0 := by omega
      simp [spaced, none]
    | cons next rest =>
      have some := spaces.head
      simp only at some
      refine ⟨by omega, fun few => ?_⟩
      have one : count = 1 := by omega
      rw [spaced_cons, exactly (by omega), one]
      simp [List.intercalate_cons_cons]

end Single

end SimpleVM.Text
