import SimpleVM.Python.Locality

/-!
# Reading what was joined

A container is written as its elements joined by commas. A scanner that reads each element from
its text, whatever ends it, reads the container back; one that fails on an element fails on the
container.
-/
namespace SimpleVM.Python

variable {α : Type} {scan : List Char → Scan α} {close : Char}

/-- The scanner reads this value from the text, which starts like an element. -/
structure Yields (scan : List Char → Scan α) (text : List Char) (v : α) : Prop where
  starts : ∃ c tail, text = c :: tail ∧ isSpace c = false ∧ c ≠ '}' ∧ c ≠ ']'
  reads : ∀ more, Ends more → scan (text ++ more) = .ok (v, more)

theorem Yields.skipSpace {text : List Char} {v : α} (yields : Yields scan text v)
    (more : List Char) : Python.skipSpace (text ++ more) = text ++ more := by
  obtain ⟨c, tail, rfl, plain, -⟩ := yields.starts
  exact skipSpace_of_not plain

theorem ends_mark {c : Char} (mark : c = ',' ∨ c = '}' ∨ c = ']') (more : List Char) :
    Ends (c :: more) :=
  @ends_blanks [] (by simp) c mark more

/-- The texts of elements between commas, each with blanks after it. -/
def separated (blanks : List Char) (items : List (List Char × α)) : List Char :=
  List.intercalate (',' :: blanks) (items.map Prod.fst)

/-- The texts of elements between commas. -/
def commas (items : List (List Char × α)) : List Char := separated [] items

theorem separated_cons_cons (blanks : List Char) (item next : List Char × α)
    (items : List (List Char × α)) : separated blanks (item :: next :: items) =
      item.1 ++ ',' :: (blanks ++ separated blanks (next :: items)) := by
  simp only [separated, List.map_cons, List.intercalate_cons_cons, List.append_assoc,
    List.cons_append]

theorem commas_cons_cons (item next : List Char × α) (items : List (List Char × α)) :
    commas (item :: next :: items) = item.1 ++ ',' :: commas (next :: items) :=
  separated_cons_cons [] item next items

/-- The text of the first element starts the whole. -/
theorem separated_starts (blanks : List Char) (item : List Char × α)
    (items : List (List Char × α)) :
    ∃ tail, separated blanks (item :: items) = item.1 ++ tail := by
  cases items with
  | nil => exact ⟨[], by simp [separated]⟩
  | cons next items => exact ⟨_, separated_cons_cons blanks item next items⟩

theorem commas_starts (item : List Char × α) (items : List (List Char × α)) :
    ∃ tail, commas (item :: items) = item.1 ++ tail :=
  separated_starts [] item items

/-- Each element but the first has its comma. -/
theorem length_le_separated (blanks : List Char) (item : List Char × α)
    (items : List (List Char × α)) :
    items.length ≤ (separated blanks (item :: items)).length := by
  induction items generalizing item with
  | nil => exact Nat.zero_le _
  | cons next items ih =>
    have rest := ih next
    simp only [separated_cons_cons, List.length_append, List.length_cons] at rest ⊢
    omega

/-- No blank stands before the first element. -/
theorem skipSpace_separated {blanks : List Char} {item : List Char × α}
    {items : List (List Char × α)} (first : Yields scan item.1 item.2) (more : List Char) :
    Python.skipSpace (separated blanks (item :: items) ++ more) =
      separated blanks (item :: items) ++ more := by
  obtain ⟨tail, starts⟩ := separated_starts blanks item items
  rw [starts, List.append_assoc]
  exact first.skipSpace _

theorem scanElements_separated (bracket : close = '}' ∨ close = ']') {blanks after : List Char}
    (blank : ∀ c ∈ blanks, isSpace c = true) (blankAfter : ∀ c ∈ after, isSpace c = true)
    (item : List Char × α) (items : List (List Char × α))
    (yields : ∀ other ∈ item :: items, Yields scan other.1 other.2) {fuel : Nat}
    (covers : items.length < fuel) (more : List Char) :
    scanElements close scan fuel
        (separated blanks (item :: items) ++ (after ++ close :: more)) =
      .ok ((item :: items).map Prod.snd, more) := by
  have closes : close = ',' ∨ close = '}' ∨ close = ']' := .inr bracket
  have closePlain : isSpace close = false := by rcases bracket with rfl | rfl <;> decide
  have other : ¬ ',' = close := by rcases bracket with rfl | rfl <;> decide
  have comma : isSpace ',' = false := by decide
  induction items generalizing item fuel with
  | nil =>
    obtain ⟨fuel, rfl⟩ := Nat.exists_eq_add_of_lt covers
    have first := (yields item List.mem_cons_self).reads _ (ends_blanks blankAfter closes more)
    simp only [separated, List.map_cons, List.map_nil, List.intercalate_singleton, scanElements,
      first, skipSpace_append blankAfter, skipSpace_of_not closePlain, scanMore, if_true]
  | cons next items ih =>
    obtain ⟨fuel, rfl⟩ := Nat.exists_eq_add_of_le' (Nat.lt_of_le_of_lt (Nat.zero_le _) covers)
    have rest := ih next (fun other member => yields other (List.mem_cons_of_mem item member))
      (Nat.lt_of_succ_lt_succ covers)
    have first := (yields item List.mem_cons_self).reads _ (ends_mark (.inl rfl)
      (blanks ++ (separated blanks (next :: items) ++ (after ++ close :: more))))
    -- The blanks before the next element are skipped, and it starts with none of its own.
    have second := yields next (List.mem_cons_of_mem item List.mem_cons_self)
    rw [separated_cons_cons, List.append_assoc, List.cons_append, List.append_assoc]
    simp only [scanElements, first, skipSpace_of_not comma, scanMore, if_neg other, if_true,
      skipSpace_append blank, skipSpace_separated second, rest, Except.map, List.map_cons]

/-- A container, after its opening bracket, is read as its elements. -/
theorem scanContainer_separated (bracket : close = '}' ∨ close = ']')
    {before blanks after : List Char} (blankBefore : ∀ c ∈ before, isSpace c = true)
    (blank : ∀ c ∈ blanks, isSpace c = true) (blankAfter : ∀ c ∈ after, isSpace c = true)
    (items : List (List Char × α)) (yields : ∀ item ∈ items, Yields scan item.1 item.2)
    (more : List Char) :
    scanContainer close scan (before ++ (separated blanks items ++ (after ++ close :: more))) =
      .ok (items.map Prod.snd, more) := by
  have closePlain : isSpace close = false := by rcases bracket with rfl | rfl <;> decide
  -- Without items the closing bracket follows the blanks; with items the first character is no
  -- bracket.
  cases items with
  | nil =>
    simp only [separated, List.map_nil, List.intercalate_nil, List.nil_append, scanContainer,
      skipSpace_append blankBefore, skipSpace_append blankAfter, skipSpace_of_not closePlain,
      if_true]
  | cons item items =>
    have first := yields item List.mem_cons_self
    obtain ⟨tail, starts⟩ := separated_starts blanks item items
    have skipped : Python.skipSpace
        (before ++ (separated blanks (item :: items) ++ (after ++ close :: more))) =
          separated blanks (item :: items) ++ (after ++ close :: more) := by
      rw [skipSpace_append blankBefore]
      exact skipSpace_separated first _
    obtain ⟨c, front, text, plain, brace, square⟩ := first.starts
    have open_ : ¬ c = close := by
      rcases bracket with rfl | rfl
      · exact brace
      · exact square
    have covers : items.length <
        (separated blanks (item :: items) ++ (after ++ close :: more)).length := by
      have joined := length_le_separated blanks item items
      simp only [List.length_append, List.length_cons]
      omega
    have elements := scanElements_separated bracket blank blankAfter item items yields covers more
    rw [starts, text] at skipped elements ⊢
    simp only [List.cons_append] at skipped elements ⊢
    simp only [scanContainer, skipped, if_neg open_]
    exact elements

theorem scanContainer_commas (bracket : close = '}' ∨ close = ']') (items : List (List Char × α))
    (yields : ∀ item ∈ items, Yields scan item.1 item.2) (more : List Char) :
    scanContainer close scan (commas items ++ close :: more) =
      .ok (items.map Prod.snd, more) :=
  scanContainer_separated bracket (List.forall_mem_nil _) (List.forall_mem_nil _)
    (List.forall_mem_nil _) items yields more

section Failing

/-- The scanner fails on the text, which starts like an element, whatever ends it. -/
structure Fails (scan : List Char → Scan α) (text : List Char) : Prop where
  starts : ∃ c tail, text = c :: tail ∧ isSpace c = false ∧ c ≠ '}' ∧ c ≠ ']'
  fails : ∀ more, Ends more → ∃ e, scan (text ++ more) = .error e

theorem Fails.skipSpace {text : List Char} (fails : Fails scan text) (more : List Char) :
    Python.skipSpace (text ++ more) = text ++ more := by
  obtain ⟨c, tail, rfl, plain, -⟩ := fails.starts
  exact skipSpace_of_not plain

/-- Elements of which some may be unreadable, each as it starts. -/
theorem starts_of_either {item : List Char × α}
    (either : Yields scan item.1 item.2 ∨ Fails scan item.1) :
    ∃ c tail, item.1 = c :: tail ∧ isSpace c = false ∧ c ≠ '}' ∧ c ≠ ']' := by
  rcases either with yields | fails
  · exact yields.starts
  · exact fails.starts

theorem scanElements_fails (bracket : close = '}' ∨ close = ']') (item : List Char × α)
    (items : List (List Char × α))
    (each : ∀ other ∈ item :: items, Yields scan other.1 other.2 ∨ Fails scan other.1)
    (some_ : ∃ other ∈ item :: items, Fails scan other.1) (fuel : Nat) (more : List Char) :
    ∃ e, scanElements close scan fuel (commas (item :: items) ++ close :: more) = .error e := by
  have closes : close = ',' ∨ close = '}' ∨ close = ']' := .inr bracket
  have other : ¬ ',' = close := by rcases bracket with rfl | rfl <;> decide
  have comma : isSpace ',' = false := by decide
  -- On the items: the first fails, or it is read and one of the others fails after the comma.
  induction items generalizing item fuel with
  | nil =>
    obtain ⟨last, member, fails⟩ := some_
    cases List.mem_singleton.mp member
    cases fuel with
    | zero => exact ⟨_, rfl⟩
    | succ fuel =>
      obtain ⟨e, failed⟩ := fails.fails _ (ends_mark closes more)
      refine ⟨e, ?_⟩
      simp only [commas, separated, List.map_cons, List.map_nil, List.intercalate_singleton,
        scanElements, failed]
  | cons next items ih =>
    cases fuel with
    | zero => exact ⟨_, rfl⟩
    | succ fuel =>
      have ends := ends_mark (.inl rfl) (commas (next :: items) ++ close :: more)
      rw [commas_cons_cons, List.append_assoc, List.cons_append]
      rcases each item List.mem_cons_self with yields | fails
      · have later : ∃ other ∈ next :: items, Fails scan other.1 := by
          obtain ⟨bad, member, fails⟩ := some_
          rcases List.mem_cons.mp member with rfl | inside
          · -- An element is not read and refused both.
            obtain ⟨e, failed⟩ := fails.fails [] (fun _ front => by cases front)
            have read := yields.reads [] (fun _ front => by cases front)
            rw [failed] at read
            cases read
          · exact ⟨bad, inside, fails⟩
        obtain ⟨e, rest⟩ := ih next (fun bad member => each bad (List.mem_cons_of_mem item member))
          later fuel
        obtain ⟨c, front, text, plain, -⟩ :=
          starts_of_either (each next (List.mem_cons_of_mem item List.mem_cons_self))
        obtain ⟨tail, starts⟩ := commas_starts next items
        have skipped : Python.skipSpace (commas (next :: items) ++ close :: more) =
            commas (next :: items) ++ close :: more := by
          rw [starts, text]
          exact skipSpace_of_not plain
        refine ⟨e, ?_⟩
        simp only [scanElements, yields.reads _ ends, skipSpace_of_not comma, scanMore, if_neg other,
          if_true, skipped, rest, Except.map]
      · obtain ⟨e, failed⟩ := fails.fails _ ends
        exact ⟨e, by simp only [scanElements, failed]⟩

/-- A container with an element that cannot be read cannot be read. -/
theorem scanContainer_fails (bracket : close = '}' ∨ close = ']') (items : List (List Char × α))
    (each : ∀ item ∈ items, Yields scan item.1 item.2 ∨ Fails scan item.1)
    (some_ : ∃ item ∈ items, Fails scan item.1) (more : List Char) :
    ∃ e, scanContainer close scan (commas items ++ close :: more) = .error e := by
  cases items with
  | nil =>
    obtain ⟨item, member, -⟩ := some_
    cases member
  | cons item items =>
    obtain ⟨c, front, text, plain, brace, square⟩ := starts_of_either (each item List.mem_cons_self)
    obtain ⟨tail, starts⟩ := commas_starts item items
    have skipped : Python.skipSpace (commas (item :: items) ++ close :: more) =
        commas (item :: items) ++ close :: more := by
      rw [starts, text]
      exact skipSpace_of_not plain
    have open_ : ¬ c = close := by
      rcases bracket with rfl | rfl
      · exact brace
      · exact square
    obtain ⟨e, elements⟩ := scanElements_fails bracket item items each some_
      (commas (item :: items) ++ close :: more).length more
    refine ⟨e, ?_⟩
    rw [starts, text] at skipped elements ⊢
    simp only [List.cons_append] at skipped elements ⊢
    simp only [scanContainer, skipped, if_neg open_]
    exact elements

/-- The scanner reads this value from the text where it is good, and fails where it is not. -/
def Decides (good : Prop) (scan : List Char → Scan α) (text : List Char) (v : α) : Prop :=
  good ∧ Yields scan text v ∨ ¬ good ∧ Fails scan text

/-- Elements with what they stand for in place of their values. -/
theorem commas_map {ι : Type} (g : ι → α) (items : List (List Char × ι)) :
    commas (items.map fun item => (item.1, g item.2)) = commas items := by
  simp only [commas, separated, List.map_map, Function.comp_def]

/-- A container is read exactly when all its elements are good. -/
theorem scanContainer_decides {ι : Type} (g : ι → α) (bracket : close = '}' ∨ close = ']')
    {good : ι → Prop} (items : List (List Char × ι))
    (each : ∀ item ∈ items, Decides (good item.2) scan item.1 (g item.2)) (more : List Char) :
    (∀ item ∈ items, good item.2) ∧
        scanContainer close scan (commas items ++ close :: more) =
          .ok (items.map fun item => g item.2, more) ∨
      (¬ ∀ item ∈ items, good item.2) ∧
        ∃ e, scanContainer close scan (commas items ++ close :: more) = .error e := by
  rw [← commas_map g]
  -- All good are all read; a bad one makes the whole fail wherever it stands.
  by_cases all : ∀ item ∈ items, good item.2
  · refine .inl ⟨all, ?_⟩
    rw [scanContainer_commas bracket _ _ more]
    · simp only [List.map_map, Function.comp_def]
    · intro shown member
      obtain ⟨item, inside, rfl⟩ := List.mem_map.mp member
      rcases each item inside with ⟨-, yields⟩ | ⟨bad, -⟩
      · exact yields
      · exact absurd (all item inside) bad
  · refine .inr ⟨all, scanContainer_fails bracket _ ?_ ?_ more⟩
    · intro shown member
      obtain ⟨item, inside, rfl⟩ := List.mem_map.mp member
      rcases each item inside with ⟨-, yields⟩ | ⟨-, fails⟩
      · exact .inl yields
      · exact .inr fails
    · obtain ⟨item, bad⟩ := Classical.not_forall.mp all
      obtain ⟨inside, bad⟩ := Classical.not_imp.mp bad
      refine ⟨_, List.mem_map.mpr ⟨item, inside, rfl⟩, ?_⟩
      rcases each item inside with ⟨good, -⟩ | ⟨-, fails⟩
      · exact absurd good bad
      · exact fails

end Failing

end SimpleVM.Python
