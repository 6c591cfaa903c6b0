/-!
# Items between separators

A text is cut into items at single separators; a doubled separator stands for the separator
itself. Doubling the separators of an item protects it. An item that is put in without doubling
survives only if it has no separator.
-/
namespace SimpleVM.Text

variable {α : Type} {sep c : α}

/-- Puts characters in front of the first item. -/
def extend (front : List α) : List (List α) → List (List α)
  | [] => [front]
  | first :: rest => (front ++ first) :: rest

@[simp] theorem extend_nil (list : List (List α)) (nonempty : list ≠ []) :
    extend [] list = list := by
  cases list with
  | nil => exact absurd rfl nonempty
  | cons first rest => rfl

@[simp] theorem extend_extend (front more : List α) (list : List (List α)) :
    extend front (extend more list) = extend (front ++ more) list := by
  cases list with
  | nil => rfl
  | cons first rest => simp [extend]

@[simp] theorem extend_cons (front first : List α) (rest : List (List α)) :
    extend front (first :: rest) = (front ++ first) :: rest := rfl

theorem extend_ne_nil (front : List α) (list : List (List α)) : extend front list ≠ [] := by
  cases list <;> simp [extend]

variable [DecidableEq α]

/-- Every separator is doubled. -/
def doubled (sep : α) : List α → List α
  | [] => []
  | c :: rest => if c = sep then sep :: sep :: doubled sep rest else c :: doubled sep rest

/-- The items of a text. A single separator at the end begins no further item. -/
def items (sep : α) : List α → List (List α)
  | [] => [[]]
  | [c] => if c = sep then [[]] else [[c]]
  | c :: d :: rest =>
    if c = sep then
      if d = sep then extend [sep] (items sep rest) else [] :: items sep (d :: rest)
    else extend [c] (items sep (d :: rest))

/-- An item that starts with something and has no separator. -/
def IsPlain (sep : α) (item : List α) : Prop := item ≠ [] ∧ sep ∉ item

attribute [local simp] items doubled in
theorem items_ne_nil (text : List α) : items sep text ≠ [] := by
  unfold items
  split
  · simp
  · split <;> simp
  · split
    · split
      · exact extend_ne_nil _ _
      · simp
    · exact extend_ne_nil _ _

theorem items_cons (other : c ≠ sep) (rest : List α) :
    items sep (c :: rest) = extend [c] (items sep rest) := by
  cases rest with
  | nil => simp [items, other]
  | cons d rest => rw [items, if_neg other]

theorem items_pair (rest : List α) :
    items sep (sep :: sep :: rest) = extend [sep] (items sep rest) := by
  rw [items, if_pos rfl, if_pos rfl]

theorem items_sep (other : c ≠ sep) (rest : List α) :
    items sep (sep :: c :: rest) = [] :: items sep (c :: rest) := by
  rw [items, if_pos rfl, if_neg other]

/-- A doubled item is read back in front of what follows it. -/
theorem items_doubled_append (sep : α) (item rest : List α) :
    items sep (doubled sep item ++ rest) = extend item (items sep rest) := by
  induction item with
  | nil => exact (extend_nil _ (items_ne_nil rest)).symm
  | cons c item ih =>
    by_cases same : c = sep
    · subst same
      simp only [doubled, if_true, List.cons_append, items_pair, ih, extend_extend,
        List.nil_append]
    · simp only [doubled, same, if_false, List.cons_append, items_cons same, ih, extend_extend,
        List.nil_append]

theorem doubled_of_notMem {item : List α} (plain : sep ∉ item) : doubled sep item = item := by
  induction item with
  | nil => rfl
  | cons c item ih =>
    simp only [List.mem_cons, not_or] at plain
    have other : c ≠ sep := fun same => plain.1 same.symm
    simp only [doubled, other, if_false, ih plain.2]

theorem items_append {item : List α} (plain : sep ∉ item) (rest : List α) :
    items sep (item ++ rest) = extend item (items sep rest) := by
  have read := items_doubled_append sep item rest
  rwa [doubled_of_notMem plain] at read

theorem items_doubled (item : List α) : items sep (doubled sep item) = [item] := by
  have read := items_doubled_append sep item []
  simpa [items] using read

theorem items_doubled_sep (item rest : List α) (other : c ≠ sep) :
    items sep (doubled sep item ++ sep :: c :: rest) = item :: items sep (c :: rest) := by
  rw [items_doubled_append, items_sep other]
  simp

theorem items_append_sep {item : List α} (plain : sep ∉ item) (rest : List α) (other : c ≠ sep) :
    items sep (item ++ sep :: c :: rest) = item :: items sep (c :: rest) := by
  have read : items sep (doubled sep item ++ sep :: c :: rest) = item :: items sep (c :: rest) :=
    items_doubled_sep item rest other
  rwa [doubled_of_notMem plain] at read

/-- What can stand behind an item: the end, or a single separator. -/
def Ended (sep : α) (rest : List α) : Prop :=
  rest = [] ∨ rest = [sep] ∨ ∃ c more, rest = sep :: c :: more ∧ c ≠ sep

/-- The first item is read from its doubled form, up to a single separator or the end. -/
theorem exists_first (sep : α) (text : List α) :
    ∃ first others rest, items sep text = first :: others ∧ text = doubled sep first ++ rest ∧
      Ended sep rest := by
  induction text using items.induct sep with
  | case1 => exact ⟨[], [], [], rfl, rfl, .inl rfl⟩
  | case2 => exact ⟨[], [], [sep], by simp [items], by simp [doubled], .inr (.inl rfl)⟩
  | case3 c other => exact ⟨[c], [], [], by simp [items, other], by simp [doubled, other], .inl rfl⟩
  | case4 rest ih =>
    obtain ⟨first, others, tail, read, text, ended⟩ := ih
    refine ⟨sep :: first, others, tail, ?_, ?_, ended⟩
    · rw [items_pair, read]
      rfl
    · simp [doubled, text]
  | case5 d rest other =>
    rename_i ih
    exact ⟨[], _, sep :: d :: rest, items_sep other rest, rfl, .inr (.inr ⟨d, rest, rfl, other⟩)⟩
  | case6 c d rest other ih =>
    obtain ⟨first, others, tail, read, text, ended⟩ := ih
    refine ⟨c :: first, others, tail, ?_, ?_, ended⟩
    · rw [items_cons other, read]
      rfl
    · simp [doubled, other, text]

theorem length_doubled (item : List α) :
    (doubled sep item).length = item.length + item.count sep := by
  induction item with
  | nil => rfl
  | cons c item ih =>
    by_cases same : c = sep
    · subst same
      simp only [doubled, if_true, List.length_cons, ih, List.count_cons_self]
      omega
    · have apart : ¬ (c == sep) = true := by simpa using same
      simp only [doubled, same, if_false, List.length_cons, ih, List.count_cons, apart,
        Bool.false_eq_true]
      omega

theorem count_doubled (item : List α) :
    (doubled sep item).count sep = 2 * item.count sep := by
  induction item with
  | nil => rfl
  | cons c item ih =>
    by_cases same : c = sep
    · subst same
      simp only [doubled, if_true, List.count_cons_self, ih]
      omega
    · simp [doubled, same, ih]

/-- What stands in front of the first separator does not change with doubling. -/
theorem takeWhile_doubled (item rest : List α) (ended : Ended sep rest) :
    (doubled sep item ++ rest).takeWhile (fun c => !decide (c = sep)) =
      item.takeWhile fun c => !decide (c = sep) := by
  induction item with
  | nil =>
    rcases ended with rfl | rfl | ⟨c, more, rfl, -⟩ <;> simp [doubled]
  | cons c item ih =>
    by_cases same : c = sep
    · simp [doubled, same]
    · simp [doubled, same, ih]

/-- The item with some of its separators doubled, by the count of those that are. -/
def PartlyDoubled (sep : α) (item raw : List α) : Prop :=
  ∃ extra, extra ≤ item.count sep ∧ raw.length = item.length + extra ∧
    raw.count sep = item.count sep + extra

theorem partlyDoubled_raw (item : List α) : PartlyDoubled sep item item :=
  ⟨0, Nat.zero_le _, rfl, rfl⟩

theorem doubled_eq_self {item : List α} : item = doubled sep item ↔ sep ∉ item := by
  constructor
  · intro same
    have length := congrArg List.length same
    rw [length_doubled] at length
    apply List.count_eq_zero.mp
    omega
  · intro plain
    exact (doubled_of_notMem plain).symm

/-- An item with some separators doubled is read back only if all of them are. -/
theorem eq_doubled_of_first {item raw rest : List α} {others : List (List α)}
    (partly : PartlyDoubled sep item raw)
    (ended : rest = [] ∨ ∃ c more, rest = sep :: c :: more ∧ c ≠ sep)
    (read : items sep (raw ++ rest) = item :: others) : raw = doubled sep item := by
  obtain ⟨extra, some_, length, count⟩ := partly
  obtain ⟨first, _, tail, isFirst, text, stops⟩ := exists_first sep (raw ++ rest)
  rw [read] at isFirst
  cases isFirst
  -- What the doubled form has beyond `raw` are separators only.
  obtain ⟨between, split⟩ : ∃ between, doubled sep item = raw ++ between := by
    have longer : raw.length ≤ (doubled sep item).length := by
      rw [length_doubled]
      omega
    have starts : raw <+: doubled sep item := by
      apply List.prefix_of_prefix_length_le (List.prefix_append raw rest) _ longer
      rw [text]
      exact List.prefix_append _ _
    obtain ⟨between, joins⟩ := starts
    exact ⟨between, joins.symm⟩
  have size := congrArg List.length split
  have seps := congrArg (List.count sep) split
  simp only [List.length_append, List.count_append, length_doubled, count_doubled] at size seps
  have all : ∀ x ∈ between, sep = x := by
    apply List.count_eq_length.mp
    omega
  rw [split, List.append_assoc, List.append_cancel_left_eq] at text
  cases between with
  | nil => simpa using split.symm
  | cons head between =>
    -- It cannot be more than the one separator behind `raw`, and that one is single.
    exfalso
    rcases ended with rfl | ⟨c, more, rfl, other⟩
    · cases text
    · simp only [List.cons_append, List.cons.injEq] at text
      obtain ⟨rfl, text⟩ := text
      cases between with
      | cons second between =>
        simp only [List.cons_append, List.cons.injEq] at text
        have isSep := all second (by simp)
        exact other (text.1.trans isSep.symm)
      | nil =>
        simp only [List.nil_append] at text
        subst text
        rcases stops with impossible | impossible | ⟨d, later, impossible, _⟩
        · cases impossible
        · simp only [List.cons.injEq] at impossible
          exact other impossible.1
        · simp only [List.cons.injEq] at impossible
          exact other impossible.1

/-- Plain items in front are read one by one. -/
theorem items_joined_append {front : List (List α)} (plain : ∀ item ∈ front, IsPlain sep item)
    {c : α} (rest : List α) (other : c ≠ sep) :
    items sep (front.flatMap (fun item => item ++ [sep]) ++ c :: rest) =
      front ++ items sep (c :: rest) := by
  induction front with
  | nil => rfl
  | cons item front ih =>
    obtain ⟨nonempty, apart⟩ := plain item List.mem_cons_self
    have tail := ih fun later member => plain later (List.mem_cons_of_mem _ member)
    -- The next item, or what comes behind all of them, starts with no separator.
    obtain ⟨d, later, starts, differs⟩ : ∃ d later,
        front.flatMap (fun item => item ++ [sep]) ++ c :: rest = d :: later ∧ d ≠ sep := by
      cases front with
      | nil => exact ⟨c, rest, rfl, other⟩
      | cons next front =>
        obtain ⟨filled, clear⟩ := plain next (by simp)
        cases next with
        | nil => exact absurd rfl filled
        | cons d next =>
          refine ⟨d, _, rfl, fun same => clear ?_⟩
          simp [same]
    simp only [List.flatMap_cons, List.append_assoc, List.cons_append, List.nil_append]
    rw [starts, items_append_sep apart later differs, ← starts, tail]

end SimpleVM.Text
