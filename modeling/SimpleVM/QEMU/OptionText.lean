import SimpleVM.QEMU.Configuration
import SimpleVM.Text.DoubledSeparator

/-!
# How QEMU reads an option

The value of an option is cut at its commas, a doubled comma being a literal one. An item is a
key with its value; the first item may be the value of an implied key. What the builder puts in
is read back as it was meant exactly when its commas are doubled.
-/
namespace SimpleVM.QEMU

open Text

/-- An item as a key and its value. One without an equals sign is the value of the implied key, or
a flag. -/
def keyed (implied : Option String) (item : List Char) : String × String :=
  if '=' ∈ item then
    (String.ofList (item.takeWhile fun c => !decide (c = '=')),
      String.ofList ((item.dropWhile fun c => !decide (c = '=')).drop 1))
  else match implied with
    | some key => (key, String.ofList item)
    | none => (String.ofList item, "on")

/-- Only the first item can be that of the implied key. An empty text has no items. -/
def parseOptions (implied : Option String) (text : List Char) : List (String × String) :=
  if text = [] then []
  else match items ',' text with
    | [] => []
    | first :: rest => keyed implied first :: rest.map (keyed none)

/-- A key and its value as they are written. -/
def fieldText (field : String × String) : List Char := field.1.toList ++ '=' :: field.2.toList

/-- Neither the key nor the value has a comma, and the key has no equals sign. -/
def PlainField (field : String × String) : Prop :=
  ',' ∉ field.1.toList ∧ '=' ∉ field.1.toList ∧ ',' ∉ field.2.toList

instance (field : String × String) : Decidable (PlainField field) :=
  inferInstanceAs (Decidable (',' ∉ field.1.toList ∧ '=' ∉ field.1.toList ∧ ',' ∉ field.2.toList))

/-- Fields in front of another one. -/
def leading (fields : List (String × String)) : List Char :=
  fields.flatMap fun field => fieldText field ++ [',']

/-- Fields behind another one. -/
def trailing (fields : List (String × String)) : List Char :=
  fields.flatMap fun field => ',' :: fieldText field

variable {implied : Option String} {key value : String} {front after : List (String × String)}
  {raw : List Char}

theorem takeWhile_ne {key : List Char} (plain : '=' ∉ key) (rest : List Char) :
    (key ++ '=' :: rest).takeWhile (fun c => !decide (c = '=')) = key := by
  induction key with
  | nil => simp
  | cons c key ih =>
    simp only [List.mem_cons, not_or] at plain
    have other : c ≠ '=' := fun same => plain.1 same.symm
    simp [other, ih plain.2]

theorem dropWhile_ne {key : List Char} (plain : '=' ∉ key) (rest : List Char) :
    (key ++ '=' :: rest).dropWhile (fun c => !decide (c = '=')) = '=' :: rest := by
  induction key with
  | nil => simp
  | cons c key ih =>
    simp only [List.mem_cons, not_or] at plain
    have other : c ≠ '=' := fun same => plain.1 same.symm
    simp [other, ih plain.2]

theorem keyed_pair {key : List Char} (plain : '=' ∉ key) (value : List Char) :
    keyed implied (key ++ '=' :: value) = (String.ofList key, String.ofList value) := by
  have equals : '=' ∈ key ++ '=' :: value := by simp
  simp only [keyed, equals, if_true, takeWhile_ne plain, dropWhile_ne plain, List.drop_one,
    List.tail_cons]

theorem keyed_field {field : String × String} (plain : PlainField field) :
    keyed implied (fieldText field) = field := by
  unfold fieldText
  rw [keyed_pair plain.2.1]
  simp

theorem keyed_implied {item : List Char} (plain : '=' ∉ item) :
    keyed (some key) item = (key, String.ofList item) := by
  simp [keyed, plain]

theorem keyed_string (key item : String) (plain : '=' ∉ item.toList) :
    keyed (some key) item.toList = (key, item) := by
  rw [keyed_implied plain, String.ofList_toList]

/-- A field begins with no comma. -/
theorem fieldText_starts {field : String × String} (plain : ',' ∉ field.1.toList) :
    ∃ c rest, fieldText field = c :: rest ∧ c ≠ ',' := by
  unfold fieldText
  cases chars : field.1.toList with
  | nil => exact ⟨'=', _, rfl, by decide⟩
  | cons c rest =>
    rw [chars] at plain
    simp only [List.mem_cons, not_or] at plain
    exact ⟨c, _, rfl, fun same => plain.1 same.symm⟩

theorem fieldText_plain {field : String × String} (plain : PlainField field) :
    IsPlain ',' (fieldText field) := by
  constructor
  · simp [fieldText]
  · simp [fieldText, plain.1, plain.2.2]

theorem trailing_cases (plain : ∀ field ∈ after, PlainField field) :
    trailing after = [] ∨ ∃ c more, trailing after = ',' :: c :: more ∧ c ≠ ',' := by
  cases after with
  | nil => exact .inl rfl
  | cons field rest =>
    obtain ⟨c, more, starts, other⟩ := fieldText_starts (plain field List.mem_cons_self).1
    refine .inr ⟨c, more ++ trailing rest, ?_, other⟩
    simp only [trailing, List.flatMap_cons, starts]
    rfl

theorem items_trailing (plain : ∀ field ∈ after, PlainField field) :
    items ',' (trailing after) = [] :: after.map fieldText := by
  induction after with
  | nil => rfl
  | cons field rest ih =>
    have tail := ih fun later member => plain later (List.mem_cons_of_mem _ member)
    have here := plain field List.mem_cons_self
    obtain ⟨c, more, starts, other⟩ := fieldText_starts here.1
    have shape : trailing (field :: rest) = ',' :: (fieldText field ++ trailing rest) := rfl
    rw [shape, starts, List.cons_append, items_sep other, ← List.cons_append, ← starts,
      items_append (fieldText_plain here).2, tail]
    simp

theorem items_leading (plain : ∀ field ∈ front, PlainField field) {c : Char} (rest : List Char)
    (other : c ≠ ',') :
    items ',' (leading front ++ c :: rest) = front.map fieldText ++ items ',' (c :: rest) := by
  have shape : leading front = (front.map fieldText).flatMap fun item => item ++ [','] := by
    simp only [leading, List.flatMap_map]
  rw [shape]
  apply items_joined_append
  · intro item member
    obtain ⟨field, listed, rfl⟩ := List.mem_map.mp member
    exact fieldText_plain (plain field listed)
  · exact other

theorem map_keyed (plain : ∀ field ∈ front, PlainField field) :
    (front.map fieldText).map (keyed none) = front := by
  rw [List.map_map]
  refine (List.map_congr_left fun field member => ?_).trans (List.map_id front)
  exact keyed_field (plain field member)

/-- Without an implied key all items are read alike. -/
theorem parseOptions_none {text : List Char} (nonempty : text ≠ []) :
    parseOptions none text = (items ',' text).map (keyed none) := by
  unfold parseOptions
  rw [if_neg nonempty]
  cases items ',' text <;> rfl

/-- A first item that is fixed, behind which the text goes on. -/
theorem parseOptions_first {first : List Char} (plain : ',' ∉ first) {c : Char} (rest : List Char)
    (other : c ≠ ',') :
    parseOptions implied (first ++ ',' :: c :: rest) =
      keyed implied first :: parseOptions none (c :: rest) := by
  unfold parseOptions
  rw [if_neg (by simp), if_neg (by simp), items_append_sep plain rest other]
  cases read : items ',' (c :: rest) with
  | nil => exact absurd read (items_ne_nil _)
  | cons first others => rfl

/-- One field among fixed ones is read back exactly if its commas are doubled. -/
theorem parse_field_iff (front : List (String × String)) (key : String)
    (after : List (String × String)) (frontPlain : ∀ field ∈ front, PlainField field)
    (afterPlain : ∀ field ∈ after, PlainField field) (comma : ',' ∉ key.toList)
    (equals : '=' ∉ key.toList) (partly : PartlyDoubled ',' value.toList raw) :
    parseOptions none (leading front ++ (key.toList ++ '=' :: (raw ++ trailing after))) =
        front ++ (key, value) :: after ↔
      raw = doubled ',' value.toList := by
  have plain : ',' ∉ (key, "").1.toList := comma
  obtain ⟨c, more, starts, other⟩ := fieldText_starts plain
  have keyStarts : ∃ c more, key.toList ++ ['='] = c :: more ∧ c ≠ ',' := by
    refine ⟨c, more, ?_, other⟩
    simpa [fieldText] using starts
  obtain ⟨c, more, starts, other⟩ := keyStarts
  have stem : ∀ text, key.toList ++ '=' :: text = c :: (more ++ text) := by
    intro text
    have split : key.toList ++ '=' :: text = (key.toList ++ ['=']) ++ text := by simp
    rw [split, starts, List.cons_append]
  have plain : ',' ∉ key.toList ++ ['='] := by simp [comma]
  have read : items ',' (leading front ++ (key.toList ++ '=' :: (raw ++ trailing after))) =
      front.map fieldText ++ extend (key.toList ++ ['=']) (items ',' (raw ++ trailing after)) := by
    rw [stem, items_leading frontPlain _ other, ← stem, ← items_append plain]
    simp
  rw [parseOptions_none (by simp), read, List.map_append, map_keyed frontPlain,
    List.append_cancel_left_eq]
  constructor
  · intro same
    -- The item itself is compared; what follows it is of no account.
    cases list : items ',' (raw ++ trailing after) with
    | nil => exact absurd list (items_ne_nil _)
    | cons first others =>
      rw [list] at same
      simp only [extend_cons, List.map_cons, List.cons.injEq] at same
      have pair : key.toList ++ ['='] ++ first = key.toList ++ '=' :: first := by simp
      rw [pair, keyed_pair equals, Prod.mk.injEq] at same
      have isValue : first = value.toList := by
        rw [← same.1.2]
        exact String.toList_ofList.symm
      subst isValue
      exact eq_doubled_of_first partly (trailing_cases afterPlain) list
  · rintro rfl
    rw [items_doubled_append, items_trailing afterPlain]
    simp only [extend_cons, List.append_nil, List.map_cons, map_keyed afterPlain, List.cons.injEq,
      and_true]
    have pair : key.toList ++ ['='] ++ value.toList = fieldText (key, value) := by simp [fieldText]
    rw [pair]
    unfold fieldText
    rw [keyed_pair equals]
    simp

/-- A path that is put in as it is. -/
theorem parse_raw_iff (front : List (String × String)) (key value : String)
    (after : List (String × String)) (frontPlain : ∀ field ∈ front, PlainField field)
    (afterPlain : ∀ field ∈ after, PlainField field) (comma : ',' ∉ key.toList)
    (equals : '=' ∉ key.toList) :
    parseOptions none (leading front ++ (key.toList ++ '=' :: (value.toList ++ trailing after))) =
        front ++ (key, value) :: after ↔
      ',' ∉ value.toList := by
  rw [parse_field_iff front key after frontPlain afterPlain comma equals (partlyDoubled_raw _)]
  exact doubled_eq_self

/-- Nothing is read from a first item with an equals sign but what stands around the sign. -/
theorem keyed_some_iff {item value : List Char} :
    keyed (some key) item = (key, String.ofList value) ↔
      ('=' ∉ item ∧ item = value) ∨ ('=' ∉ key.toList ∧ item = key.toList ++ '=' :: value) := by
  by_cases equals : '=' ∈ item
  · obtain ⟨name, rest, rfl, plain⟩ := List.eq_append_cons_of_mem equals
    rw [keyed_pair plain, Prod.mk.injEq]
    constructor
    · rintro ⟨rfl, same⟩
      right
      have isValue := congrArg String.toList same
      simp only [String.toList_ofList] at isValue
      exact ⟨by simpa using plain, by simp [isValue]⟩
    · rintro (⟨without, -⟩ | ⟨clear, split⟩)
      · exact absurd equals without
      · -- Both stand in front of the first equals sign.
        have names := congrArg (List.takeWhile fun c => !decide (c = '=')) split
        rw [takeWhile_ne plain, takeWhile_ne clear] at names
        subst names
        simp only [List.append_cancel_left_eq, List.cons.injEq, true_and] at split
        subst split
        simp
  · rw [keyed_implied equals]
    constructor
    · intro same
      have isValue := congrArg String.toList (Prod.mk.inj same).2
      simp only [String.toList_ofList] at isValue
      exact .inl ⟨equals, isValue⟩
    · rintro (⟨-, rfl⟩ | ⟨-, rfl⟩)
      · rfl
      · simp at equals

/-- What stands in front of the first comma, where one follows. -/
theorem takeWhile_comma (text rest : List Char) :
    (text ++ ',' :: rest).takeWhile (fun c => !decide (c = ',')) =
      text.takeWhile fun c => !decide (c = ',') := by
  induction text with
  | nil => simp
  | cons c text ih => by_cases same : c = ',' <;> simp [same, ih]

theorem takeWhile_append {front : List Char} (plain : ',' ∉ front) (rest : List Char) :
    (front ++ rest).takeWhile (fun c => !decide (c = ',')) =
      front ++ rest.takeWhile fun c => !decide (c = ',') := by
  induction front with
  | nil => rfl
  | cons c front ih =>
    simp only [List.mem_cons, not_or] at plain
    have other : c ≠ ',' := fun same => plain.1 same.symm
    simp [other, ih plain.2]

/-- A text in the place of the implied key, in front of fixed fields. -/
theorem parse_implied_iff (key : String) (text : List Char) (after : List (String × String))
    (comma : ',' ∉ key.toList)
    (afterPlain : ∀ field ∈ after, PlainField field) (nonempty : after ≠ []) :
    parseOptions (some key) (text ++ trailing after) = (key, String.ofList text) :: after ↔
      ',' ∉ text ∧ '=' ∉ text := by
  obtain ⟨c, more, starts, other⟩ : ∃ c more, trailing after = ',' :: c :: more ∧ c ≠ ',' := by
    rcases trailing_cases afterPlain with none_ | some_
    · cases after with
      | nil => exact absurd rfl nonempty
      | cons field rest => simp [trailing] at none_
    · exact some_
  have read := items_trailing afterPlain
  rw [starts, items_sep other] at read
  simp only [List.cons.injEq, true_and] at read
  constructor
  · intro same
    obtain ⟨first, others, rest, isFirst, split, ended⟩ :=
      exists_first ',' (text ++ trailing after)
    unfold parseOptions at same
    rw [if_neg (by simp [starts]), isFirst] at same
    simp only [List.cons.injEq] at same
    rcases keyed_some_iff.mp same.1 with ⟨clear, rfl⟩ | ⟨-, rfl⟩
    · have whole := eq_doubled_of_first (partlyDoubled_raw _) (.inr ⟨c, more, starts, other⟩) isFirst
      exact ⟨doubled_eq_self.mp whole, clear⟩
    · -- The key would stand in front of the text, and the first comma come later than it does.
      exfalso
      have plain : ',' ∉ key.toList ++ ['='] := by simp [comma]
      have fronts := congrArg (List.takeWhile fun c => !decide (c = ',')) split
      have pair : key.toList ++ '=' :: text = (key.toList ++ ['=']) ++ text := by simp
      rw [takeWhile_doubled _ _ ended, starts, takeWhile_comma, pair, takeWhile_append plain]
        at fronts
      have lengths := congrArg List.length fronts
      simp only [List.length_append, List.length_cons, List.length_nil] at lengths
      omega
  · rintro ⟨clear, equals⟩
    have plainAfter := map_keyed afterPlain
    rw [starts, parseOptions_first clear more other, keyed_implied equals,
      parseOptions_none (by simp), read, plainAfter]

/-- A name is all there is. -/
theorem parse_name_iff (key : String) {name raw : List Char} (partly : PartlyDoubled ',' name raw) :
    parseOptions (some key) raw = [(key, String.ofList name)] ↔
      raw = doubled ',' name ∧ name ≠ [] ∧ '=' ∉ name := by
  unfold parseOptions
  by_cases empty : raw = []
  · subst empty
    obtain ⟨extra, -, length, -⟩ := partly
    have none_ : name = [] := by
      apply List.length_eq_zero_iff.mp
      simp only [List.length_nil] at length
      omega
    simp [none_]
  · rw [if_neg empty]
    have filled : name ≠ [] := by
      rintro rfl
      obtain ⟨extra, few, length, -⟩ := partly
      simp only [List.count_nil, List.length_nil] at few length
      exact empty (List.length_eq_zero_iff.mp (by omega))
    constructor
    · intro same
      obtain ⟨first, others, rest, isFirst, split, ended⟩ := exists_first ',' raw
      rw [isFirst] at same
      simp only [List.cons.injEq, List.map_eq_nil_iff] at same
      obtain ⟨isKeyed, rfl⟩ := same
      rcases keyed_some_iff.mp isKeyed with ⟨clear, rfl⟩ | ⟨-, rfl⟩
      · have read : items ',' (raw ++ []) = [first] := by simpa using isFirst
        have whole := eq_doubled_of_first partly (.inl rfl) read
        exact ⟨whole, filled, clear⟩
      · -- The key and the sign have no place in a name that is no shorter than its text.
        exfalso
        obtain ⟨extra, few, length, -⟩ := partly
        have lengths := congrArg List.length split
        simp only [List.length_append, length_doubled, List.count_append, List.length_cons,
          List.count_cons] at lengths
        omega
    · rintro ⟨rfl, -, equals⟩
      rw [items_doubled]
      simp only [keyed_implied equals, List.map_nil]

end SimpleVM.QEMU
