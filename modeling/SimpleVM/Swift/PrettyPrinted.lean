import SimpleVM.Swift.JSONText

/-!
# Pretty-printed JSON

`JSONEncoder` with `.prettyPrinted`: a line for each element, two spaces for each level, blanks
around the colons. What it prints of a value `JSONDecoder` parses as that value.
-/
namespace SimpleVM.Swift

open Python (Yields Ends IsNumber isSpace skipSpace_of_not skipSpace_append separated
  separated_cons_cons scanContainer scanContainer_separated)

def indentation (level : Nat) : List Char := List.replicate (2 * level) ' '

/-- The elements of a container at this level, between its brackets. -/
def bracketed (opening closing : Char) (level : Nat) (texts : List (List Char)) : List Char :=
  opening :: '\n' ::
    (List.intercalate [',', '\n'] (texts.map fun text => indentation (level + 1) ++ text) ++
      '\n' :: (indentation level ++ [closing]))

mutual

/-- A value at this level. -/
def pretty (level : Nat) : JSON → List Char
  | .null => "null".toList
  | .bool b => if b then "true".toList else "false".toList
  | .number literal => literal
  | .string s => encodeString s
  | .array items => bracketed '[' ']' level (prettyItems (level + 1) items)
  | .object members => bracketed '{' '}' level (prettyMembers (level + 1) members)

def prettyItems (level : Nat) : List JSON → List (List Char)
  | [] => []
  | item :: items => pretty level item :: prettyItems level items

def prettyMembers (level : Nat) : List (String × JSON) → List (List Char)
  | [] => []
  | (key, v) :: members =>
    (encodeString key ++ " : ".toList ++ pretty level v) :: prettyMembers level members

end

/-- A value whose numbers are numbers of the grammar, with at most so many levels of nesting. -/
inductive Printable : Nat → JSON → Prop
  | null {levels : Nat} : Printable levels .null
  | bool {levels : Nat} (b : Bool) : Printable levels (.bool b)
  | number {levels : Nat} {literal : List Char} (isNumber : IsNumber literal) :
    Printable levels (.number literal)
  | string {levels : Nat} (s : String) : Printable levels (.string s)
  | array {levels : Nat} {items : List JSON} (each : ∀ item ∈ items, Printable levels item) :
    Printable (levels + 1) (.array items)
  | object {levels : Nat} {members : List (String × JSON)}
    (each : ∀ m ∈ members, Printable levels m.2) : Printable (levels + 1) (.object members)

section Containers

variable {α : Type} {scan : List Char → Python.Scan α} {closing : Char}

theorem isSpace_indentation (level : Nat) : ∀ c ∈ indentation level, isSpace c = true := by
  intro c member
  rw [List.eq_of_mem_replicate member]
  decide

theorem isSpace_line (level : Nat) : ∀ c ∈ '\n' :: indentation level, isSpace c = true := by
  intro c member
  rcases List.mem_cons.mp member with rfl | inside
  · decide
  · exact isSpace_indentation level c inside

/-- The indentation of the first line stands before the elements. -/
theorem intercalate_indented (level : Nat) (first : List Char × α)
    (items : List (List Char × α)) :
    List.intercalate [',', '\n']
        (((first :: items).map Prod.fst).map fun text => indentation level ++ text) =
      indentation level ++ separated ('\n' :: indentation level) (first :: items) := by
  induction items generalizing first with
  | nil => simp [separated]
  | cons next items ih =>
    have rest := ih next
    simp only [List.map_cons] at rest ⊢
    rw [separated_cons_cons, List.intercalate_cons_cons, rest]
    simp only [List.append_assoc, List.cons_append, List.nil_append]

/-- Elements between brackets are read back. -/
theorem scanContainer_bracketed (opening : Char) (bracket : closing = '}' ∨ closing = ']')
    (level : Nat) (items : List (List Char × α)) (yields : ∀ item ∈ items, Yields scan item.1 item.2)
    (more : List Char) : ∃ text, bracketed opening closing level (items.map Prod.fst) =
        opening :: text ∧
      scanContainer closing scan (text ++ more) = .ok (items.map Prod.snd, more) := by
  refine ⟨_, rfl, ?_⟩
  cases items with
  | nil =>
    have read := scanContainer_separated bracket (isSpace_line 0) (isSpace_line 0)
      (isSpace_line level) ([] : List (List Char × α)) yields more
    simpa [separated, indentation] using read
  | cons item items =>
    have read := scanContainer_separated bracket (isSpace_line (level + 1))
      (isSpace_line (level + 1)) (isSpace_line level) (item :: items) yields more
    rw [intercalate_indented]
    simpa only [List.append_assoc, List.cons_append, List.nil_append] using read

end Containers

section Values

variable {levels : Nat} {v : JSON}

theorem prettyItems_eq (level : Nat) (items : List JSON) :
    prettyItems level items = (items.map fun item => (pretty level item, item)).map Prod.fst := by
  induction items with
  | nil => rfl
  | cons item items ih => rw [prettyItems, ih, List.map_cons, List.map_cons]

theorem prettyMembers_eq (level : Nat) (members : List (String × JSON)) :
    prettyMembers level members = (members.map fun m =>
      (encodeString m.1 ++ " : ".toList ++ pretty level m.2, m)).map Prod.fst := by
  induction members with
  | nil => rfl
  | cons m members ih => rw [prettyMembers, ih, List.map_cons, List.map_cons]

theorem yields_member {key : String} {text : List Char}
    (yields : Yields (scanValue levels) text v) :
    Yields (scanMember (scanValue levels)) (encodeString key ++ " : ".toList ++ text) (key, v) := by
  have colon : isSpace ':' = false := by decide
  have blank : ∀ c ∈ [' '], isSpace c = true := by
    intro c member
    rw [List.mem_singleton.mp member]
    decide
  refine ⟨⟨'"', _, rfl, by decide, by decide, by decide⟩, fun more ends => ?_⟩
  have spaced := skipSpace_append blank (':' :: ' ' :: (text ++ more))
  have after := skipSpace_append blank (text ++ more)
  rw [skipSpace_of_not colon] at spaced
  rw [yields.skipSpace more] at after
  have split : encodeString key ++ " : ".toList ++ text ++ more =
      '"' :: (key.toList.flatMap escape ++ '"' :: ([' '] ++ ':' :: ' ' :: (text ++ more))) := by
    simp [encodeString]
  rw [split]
  simp only [scanMember, scanString_encoded, spaced]
  rw [show ' ' :: (text ++ more) = [' '] ++ (text ++ more) from rfl, after]
  simp only [yields.reads more ends, Except.map]

/-- What is printed is read back. -/
theorem yields_pretty (printable : Printable levels v) (level : Nat) :
    Yields (scanValue levels) (pretty level v) v := by
  induction printable generalizing level with
  | @null levels =>
    refine ⟨⟨'n', _, rfl, by decide, by decide, by decide⟩, fun more _ => ?_⟩
    cases levels <;> rfl
  | @bool levels b =>
    cases b with
    | true =>
      refine ⟨⟨'t', _, rfl, by decide, by decide, by decide⟩, fun more _ => ?_⟩
      cases levels <;> rfl
    | false =>
      refine ⟨⟨'f', _, rfl, by decide, by decide, by decide⟩, fun more _ => ?_⟩
      cases levels <;> rfl
  | number isNumber => exact yields_number _ isNumber
  | string s => exact yields_encodeString _ s
  | @array levels items each ih =>
    let texts := items.map fun item => (pretty (level + 1) item, item)
    have yields : ∀ text ∈ texts, Yields (scanValue levels) text.1 text.2 := by
      intro text member
      obtain ⟨item, inside, rfl⟩ := List.mem_map.mp member
      exact ih item inside (level + 1)
    have values : texts.map Prod.snd = items := by
      rw [List.map_map]
      exact List.map_id' items
    rw [pretty, prettyItems_eq]
    refine ⟨⟨'[', _, rfl, by decide, by decide, by decide⟩, fun more _ => ?_⟩
    obtain ⟨text, written, read⟩ := scanContainer_bracketed '[' (.inr rfl) level texts yields more
    rw [written, List.cons_append, scanValue, read, values]
    rfl
  | @object levels members each ih =>
    let texts := members.map fun m =>
      (encodeString m.1 ++ " : ".toList ++ pretty (level + 1) m.2, m)
    have yields : ∀ text ∈ texts, Yields (scanMember (scanValue levels)) text.1 text.2 := by
      intro text member
      obtain ⟨m, inside, rfl⟩ := List.mem_map.mp member
      exact yields_member (ih m inside (level + 1))
    have values : texts.map Prod.snd = members := by
      rw [List.map_map]
      exact List.map_id' members
    rw [pretty, prettyMembers_eq]
    refine ⟨⟨'\x7b', _, rfl, by decide, by decide, by decide⟩, fun more _ => ?_⟩
    obtain ⟨text, written, read⟩ := scanContainer_bracketed '\x7b' (.inl rfl) level texts
      yields more
    rw [written, List.cons_append, scanValue, read, values]
    rfl

/-- A value that is printed is parsed again. -/
theorem parse_pretty (foundation : Foundation) (printable : Printable foundation.nesting v) :
    foundation.parse (pretty 0 v) = .ok v :=
  parse_of_yields foundation (yields_pretty printable 0)

theorem Printable.mono {deeper : Nat} (printable : Printable levels v) (le : levels ≤ deeper) :
    Printable deeper v := by
  induction printable generalizing deeper with
  | null => exact .null
  | bool b => exact .bool b
  | number isNumber => exact .number isNumber
  | string s => exact .string s
  | array each ih =>
    obtain ⟨rest, rfl⟩ := Nat.exists_eq_add_of_le' (Nat.le_trans (Nat.le_add_left 1 _) le)
    exact .array fun item inside => ih item inside (by omega)
  | object each ih =>
    obtain ⟨rest, rfl⟩ := Nat.exists_eq_add_of_le' (Nat.le_trans (Nat.le_add_left 1 _) le)
    exact .object fun m inside => ih m inside (by omega)

end Values

end SimpleVM.Swift
