import SimpleVM.Agent.HostText
import SimpleVM.Python.Nesting

/-!
# The host's decoder on the guest's JSON

The other way round: what `json.dumps` writes for a value without floats, whose strings are text,
Swift parses as that value.
-/
namespace SimpleVM.Agent

open Effects Python Swift Text

section Texts

/-- Every code point is a character, so none is a lone surrogate. -/
def IsText (s : Str) : Prop := ∀ n ∈ s, ∃ c : Char, c.toNat = n

/-- The Swift string with these characters. -/
def hostString (s : Str) : String := String.ofList (s.map Char.ofNat)

theorem isText_str (s : String) : IsText (str s) := by
  intro n member
  obtain ⟨c, -, same⟩ := List.mem_map.mp member
  exact ⟨c, same⟩

/-- A text keeps its characters on the host. -/
theorem str_hostString {s : Str} (text : IsText s) : str (hostString s) = s := by
  rw [str, hostString, String.toList_ofList, List.map_map]
  induction s with
  | nil => rfl
  | cons n s ih =>
    obtain ⟨c, rfl⟩ := text n List.mem_cons_self
    rw [List.map_cons, ih fun m member => text m (List.mem_cons_of_mem _ member)]
    simp

@[simp] theorem hostString_str (s : String) : hostString (str s) = s := by
  simp [hostString, str, Function.comp_def]

theorem IsText.append {s t : Str} (first : IsText s) (second : IsText t) : IsText (s ++ t) := by
  intro n member
  rcases List.mem_append.mp member with inside | inside
  · exact first n inside
  · exact second n inside

/-- A text is encoded as UTF-8. -/
theorem encode?_of_isText {s : Str} (text : IsText s) :
    encode? s = some (utf8 (s.map Char.ofNat)) := by
  have plain : s.any isSurrogate = false := by
    rw [List.any_eq_false]
    intro n member
    obtain ⟨c, rfl⟩ := text n member
    simp [not_isSurrogate]
  simp only [encode?, plain, Bool.false_eq_true, if_false]

end Texts

section Strings

/-- The four digits that a control character is written with name it. -/
theorem hex4_hexLower {n : Nat} (control : n < 0x20) :
    hex4 '0' '0' (Char.ofNat (hexLower (n / 16))) (Char.ofNat (hexLower (n % 16))) = some n := by
  have each : ∀ m : Fin 32, hex4 '0' '0' (Char.ofNat (hexLower (m / 16)))
      (Char.ofNat (hexLower (m % 16))) = some m.val := by decide
  exact each ⟨n, control⟩

/-- A character is written as two, by its number or as it is. -/
theorem escapeUnit_cases (c : Char) :
    (∃ mark, (escapeUnit c.toNat).map Char.ofNat = ['\\', mark] ∧ unescape mark = some c.toNat) ∨
    (c.toNat < 0x20 ∧ (escapeUnit c.toNat).map Char.ofNat =
      ['\\', 'u', '0', '0', Char.ofNat (hexLower (c.toNat / 16)),
        Char.ofNat (hexLower (c.toNat % 16))]) ∨
    (c ≠ '"' ∧ c ≠ '\\' ∧ ¬ c.toNat < 0x20 ∧ (escapeUnit c.toNat).map Char.ofNat = [c]) := by
  -- The seven escapes that have a letter of their own come first.
  have letter (unit : Nat) (mark : Char) (same : c.toNat = unit) (short : unescape mark = some unit) :
      ∃ other, ['\\', mark] = ['\\', other] ∧ unescape other = some c.toNat :=
    ⟨mark, rfl, same ▸ short⟩
  unfold escapeUnit
  split
  · next same => exact .inl (letter 0x22 '"' same rfl)
  split
  · next same => exact .inl (letter 0x5c '\\' same rfl)
  split
  · next same => exact .inl (letter 0x08 'b' same rfl)
  split
  · next same => exact .inl (letter 0x0c 'f' same rfl)
  split
  · next same => exact .inl (letter 0x0a 'n' same rfl)
  split
  · next same => exact .inl (letter 0x0d 'r' same rfl)
  split
  · next same => exact .inl (letter 0x09 't' same rfl)
  split
  · next control => exact .inr (.inl ⟨control, rfl⟩)
  · next quote backslash _ _ _ _ _ printed =>
    refine .inr (.inr ⟨?_, ?_, printed, by rw [List.map_singleton, Char.ofNat_toNat]⟩)
    · rintro rfl
      exact quote rfl
    · rintro rfl
      exact backslash rfl

theorem scanCharacters_escapeUnit (c : Char) (more : List Char) :
    scanCharacters ((escapeUnit c.toNat).map Char.ofNat ++ more) =
      Swift.prepend c (scanCharacters more) := by
  rcases escapeUnit_cases c with ⟨mark, written, letter⟩ | ⟨control, written⟩ |
    ⟨quote, backslash, printed, written⟩
  · rw [written, List.cons_append, List.singleton_append, scanCharacters_letter letter,
      Char.ofNat_toNat]
  · have read := scanCharacters_unicode control (hex4_hexLower control) more
    rw [Char.ofNat_toNat] at read
    rw [written]
    exact read
  · rw [written, List.singleton_append]
    exact scanCharacters_plain quote backslash printed more

/-- The characters of a dumped string, after its opening quote. -/
theorem scanString_dumped {s : Str} (text : IsText s) (more : List Char) :
    Swift.scanString ((s.flatMap escapeUnit).map Char.ofNat ++ '"' :: more) =
      .ok (hostString s, more) := by
  have characters : scanCharacters ((s.flatMap escapeUnit).map Char.ofNat ++ '"' :: more) =
      .ok (s.map Char.ofNat, more) := by
    induction s with
    | nil => rfl
    | cons n s ih =>
      obtain ⟨c, rfl⟩ := text n List.mem_cons_self
      rw [List.flatMap_cons, List.map_append, List.append_assoc, scanCharacters_escapeUnit,
        ih fun m member => text m (List.mem_cons_of_mem _ member)]
      simp [Swift.prepend, Except.map]
  simp only [Swift.scanString, characters, Except.map, hostString]

/-- Escapes are ASCII and everything else stays what it is. -/
theorem isText_escapeUnit (c : Char) : IsText (escapeUnit c.toNat) := by
  have lower : ∀ m : Fin 16, (Char.ofNat (hexLower m)).toNat = hexLower m := by decide
  have digit (m : Fin 16) : IsText [hexLower m] := by
    intro n member
    rw [List.mem_singleton.mp member]
    exact ⟨_, lower m⟩
  unfold escapeUnit
  split
  · exact isText_str "\\\""
  split
  · exact isText_str "\\\\"
  split
  · exact isText_str "\\b"
  split
  · exact isText_str "\\f"
  split
  · exact isText_str "\\n"
  split
  · exact isText_str "\\r"
  split
  · exact isText_str "\\t"
  split
  · next control =>
    have high := digit ⟨c.toNat / 16, by omega⟩
    have low := digit ⟨c.toNat % 16, by omega⟩
    exact (isText_str "\\u00").append (high.append low)
  · intro n member
    exact ⟨c, (List.mem_singleton.mp member).symm⟩

theorem isText_dumpsString {s : Str} (text : IsText s) : IsText (dumpsString s) := by
  have quote : IsText [0x22] := isText_str "\""
  have body : IsText (s.flatMap escapeUnit) := by
    intro n member
    obtain ⟨m, inside, here⟩ := List.mem_flatMap.mp member
    obtain ⟨c, rfl⟩ := text m inside
    exact isText_escapeUnit c n here
  exact quote.append (body.append quote)

end Strings

section Numbers

/-- What Python writes for an infinite float is no JSON. -/
theorem fails_infinity (limit : Nat) {text : List Char}
    (infinite : text = "Infinity".toList ∨ text = "-Infinity".toList) :
    Fails (Swift.scanValue limit) text := by
  rcases infinite with rfl | rfl
  · refine ⟨⟨'I', _, rfl, by decide⟩, fun more _ => ⟨.value, ?_⟩⟩
    cases limit <;> rfl
  · refine ⟨⟨'-', _, rfl, by decide⟩, fun more _ => ⟨.value, ?_⟩⟩
    cases limit <;> rfl

end Numbers

section Values

/-- The characters of a text of the guest. -/
def characters (t : Str) : List Char := t.map Char.ofNat

/-- The parsed form of a value, given how its floats are written. -/
def json (floatRepr : FloatRepr) : Value → JSON
  | .null => .null
  | .bool b => .bool b
  | .int n => .number (toString n).toList
  | .float literal => .number (characters (floatRepr literal))
  | .string s => .string (hostString s)
  | .list items => .array (items.map (json floatRepr))
  | .dict members =>
    .object (members.map fun member => (hostString member.1, json floatRepr member.2))
decreasing_by
  · decreasing_tactic
  · next inside =>
    have smaller := List.sizeOf_lt_of_mem inside
    cases member
    simp only [Prod.mk.sizeOf_spec] at smaller
    simp only [Value.dict.sizeOf_spec]
    omega

/-- No floats, text for strings, no integer that is too long, and at most so many levels of
nesting. -/
def Portable : Nat → Value → Prop
  | _, .float _ => False
  | _, .int n => (Nat.toDigits 10 n.natAbs).length ≤ maxStrDigits
  | _, .string s => IsText s
  | 0, .list _ => False
  | 0, .dict _ => False
  | levels + 1, .list items => ∀ item ∈ items, Portable levels item
  | levels + 1, .dict members => ∀ member ∈ members, IsText member.1 ∧ Portable levels member.2
  | _, _ => True

/-- Where each item has a text, the whole list has, and the texts stand in order. -/
theorem mapM_pairs {ι β ε : Type} {f : ι → Except ε Str} {g : ι → β} {P : Str → β → Prop}
    (items : List ι) (each : ∀ item ∈ items, ∃ t, f item = .ok t ∧ P t (g item)) :
    ∃ pairs : List (Str × β), items.mapM f = .ok (pairs.map Prod.fst) ∧
      pairs.map Prod.snd = items.map g ∧ ∀ pair ∈ pairs, P pair.1 pair.2 := by
  induction items with
  | nil => exact ⟨[], rfl, rfl, by simp⟩
  | cons item items ih =>
    obtain ⟨t, first, holds⟩ := each item List.mem_cons_self
    obtain ⟨pairs, rest, same, all⟩ := ih fun other member => each other (List.mem_cons_of_mem _ member)
    refine ⟨(t, g item) :: pairs, ?_, by simp [same], ?_⟩
    · rw [List.mapM_cons, first, rest]
      rfl
    · intro pair member
      rcases List.mem_cons.mp member with rfl | inside
      · exact holds
      · exact all pair inside

/-- The texts of a whole list, each with what its item stands for. -/
theorem pairs_of_mapM {ι β ε : Type} {f : ι → Except ε Str} {g : ι → β} {P : Str → β → Prop}
    {items : List ι} {texts : List Str} (written : items.mapM f = .ok texts)
    (each : ∀ item ∈ items, ∀ t, f item = .ok t → P t (g item)) :
    ∃ pairs : List (Str × β), texts = pairs.map Prod.fst ∧
      pairs.map Prod.snd = items.map g ∧ ∀ pair ∈ pairs, P pair.1 pair.2 := by
  have singly := mapM_ok_iff.mp ⟨texts, written⟩
  obtain ⟨pairs, again, same, all⟩ := mapM_pairs (f := f) (g := g) (P := P) items
    fun item member => by
      obtain ⟨t, one⟩ := singly item member
      exact ⟨t, one, each item member t one⟩
  rw [written] at again
  exact ⟨pairs, Except.ok.inj again, same, all⟩

theorem map_intercalate {α β : Type} (f : α → β) (separator : List α) (texts : List (List α)) :
    (List.intercalate separator texts).map f =
      List.intercalate (separator.map f) (texts.map (List.map f)) := by
  induction texts with
  | nil => rfl
  | cons t texts ih =>
    cases texts with
    | nil => simp
    | cons next texts =>
      rw [List.map_cons] at ih
      simp only [List.intercalate_cons_cons, List.map_append, List.map_cons, ih]

/-- The texts of elements as characters, with what they stand for. -/
def read {β : Type} (pairs : List (Str × β)) : List (List Char × β) :=
  pairs.map fun pair => (characters pair.1, pair.2)

theorem characters_joined {β : Type} (opens closes : Char) (pairs : List (Str × β)) :
    characters (joined opens.toNat closes.toNat (pairs.map Prod.fst)) =
      opens :: (commas (read pairs) ++ [closes]) := by
  have comma : [0x2c].map Char.ofNat = [','] := rfl
  simp only [characters, joined, commas, separated, read, List.map_cons, List.map_append,
    map_intercalate, comma, List.map_map, Function.comp_def, Char.ofNat_toNat, List.map_nil]

theorem isText_joined {β : Type} (opens closes : Char) {pairs : List (Str × β)}
    (texts : ∀ pair ∈ pairs, IsText pair.1) :
    IsText (joined opens.toNat closes.toNat (pairs.map Prod.fst)) := by
  have one (c : Char) : IsText [c.toNat] := by
    intro n member
    exact ⟨c, (List.mem_singleton.mp member).symm⟩
  have body : IsText (List.intercalate [0x2c] (pairs.map Prod.fst)) := by
    induction pairs with
    | nil => exact isText_str ""
    | cons pair pairs ih =>
      have first := texts pair List.mem_cons_self
      have rest := ih fun other member => texts other (List.mem_cons_of_mem _ member)
      cases pairs with
      | nil => simpa using first
      | cons next pairs =>
        simp only [List.map_cons, List.intercalate_cons_cons] at rest ⊢
        exact (first.append (one ',')).append rest
  exact (one opens).append (body.append (one closes))

/-- A container between its brackets is read, in whatever it is wrapped, exactly when all its
elements are good. -/
theorem decides_container {ι β γ : Type} {outer : List Char → Scan γ}
    {element : List Char → Scan β} (g : ι → β) (opens closes : Char)
    (bracket : closes = '}' ∨ closes = ']')
    (front : isSpace opens = false ∧ opens ≠ '}' ∧ opens ≠ ']') (finish : Scan (List β) → Scan γ)
    (scans : ∀ text, outer (opens :: text) = finish (scanContainer closes element text))
    (fails : ∀ e, ∃ d, finish (.error e) = .error d) (good : ι → Prop) {pairs : List (Str × ι)}
    (each : ∀ pair ∈ pairs, Decides (good pair.2) element (characters pair.1) (g pair.2)) {v : γ}
    (reads : ∀ more, finish (.ok ((pairs.map Prod.snd).map g, more)) = .ok (v, more)) :
    Decides (∀ i ∈ pairs.map Prod.snd, good i) outer
      (characters (joined opens.toNat closes.toNat (pairs.map Prod.fst))) v := by
  have shape := characters_joined opens closes pairs
  have starts : ∃ c tail, characters (joined opens.toNat closes.toNat (pairs.map Prod.fst)) =
      c :: tail ∧ isSpace c = false ∧ c ≠ '}' ∧ c ≠ ']' := ⟨opens, _, shape, front⟩
  have decides : ∀ item ∈ read pairs, Decides (good item.2) element item.1 (g item.2) := by
    intro item member
    obtain ⟨pair, inside, rfl⟩ := List.mem_map.mp member
    exact each pair inside
  have values : ((read pairs).map fun item => g item.2) = (pairs.map Prod.snd).map g := by
    simp only [read, List.map_map, Function.comp_def]
  have all : (∀ item ∈ read pairs, good item.2) ↔ ∀ i ∈ pairs.map Prod.snd, good i := by
    simp only [read, List.forall_mem_map]
  have outcome (more : List Char) := scanContainer_decides g bracket (read pairs) decides more
  rw [values, all] at outcome
  -- The container is read when each element is, and fails with the first that is not.
  by_cases fine : ∀ i ∈ pairs.map Prod.snd, good i
  · refine .inl ⟨fine, starts, fun more _ => ?_⟩
    rcases outcome more with ⟨-, contents⟩ | ⟨bad, -⟩
    · rw [shape, List.cons_append, List.append_assoc, List.singleton_append, scans, contents, reads]
    · exact absurd fine bad
  · refine .inr ⟨fine, starts, fun more _ => ?_⟩
    rcases outcome more with ⟨good, -⟩ | ⟨-, e, contents⟩
    · exact absurd good fine
    · obtain ⟨d, failed⟩ := fails e
      refine ⟨d, ?_⟩
      rw [shape, List.cons_append, List.append_assoc, List.singleton_append, scans, contents, failed]

/-- What the host needs of a value that the guest writes: text for strings, and a float written as a
number of JSON or as an infinity. -/
inductive Textual (floatRepr : FloatRepr) : Value → Prop
  | null : Textual floatRepr .null
  | bool (b : Bool) : Textual floatRepr (.bool b)
  | int (n : Int) : Textual floatRepr (.int n)
  | float (literal text : List Char) : floatRepr literal = text.map Char.toNat →
      (IsNumber text ∨ text = "Infinity".toList ∨ text = "-Infinity".toList) →
      Textual floatRepr (.float literal)
  | string (s : Str) : IsText s → Textual floatRepr (.string s)
  | list (items : List Value) : (∀ item ∈ items, Textual floatRepr item) →
      Textual floatRepr (.list items)
  | dict (members : List (Str × Value)) : (∀ member ∈ members, IsText member.1) →
      (∀ member ∈ members, Textual floatRepr member.2) → Textual floatRepr (.dict members)

/-- The value nests no deeper than the host parses, and its floats are finite. -/
def Parseable (floatRepr : FloatRepr) : Nat → Value → Prop
  | _, .float literal => IsNumber (characters (floatRepr literal))
  | 0, .list _ => False
  | 0, .dict _ => False
  | levels + 1, .list items => ∀ item ∈ items, Parseable floatRepr levels item
  | levels + 1, .dict members => ∀ member ∈ members, Parseable floatRepr levels member.2
  | _, _ => True

variable {floatRepr : FloatRepr}

/-- What was dumped is text, and the host reads it exactly where it can be parsed. -/
def Crosses (floatRepr : FloatRepr) (v : Value) (t : Str) : Prop :=
  IsText t ∧ ∀ levels, Decides (Parseable floatRepr levels v) (Swift.scanValue levels)
    (characters t) (json floatRepr v)

theorem characters_str (s : String) : characters (str s) = s.toList := by
  simp [characters, str, Function.comp_def]

theorem characters_chars (text : List Char) : characters (text.map Char.toNat) = text := by
  simp [characters, Function.comp_def]

theorem crosses_word (s : String) (v : Value) {c : Char} {tail : List Char}
    (starts : s.toList = c :: tail) (front : isSpace c = false ∧ c ≠ '}' ∧ c ≠ ']')
    (atom : ∀ levels, Parseable floatRepr levels v)
    (reads : ∀ levels more, Ends more →
      Swift.scanValue levels (s.toList ++ more) = .ok (json floatRepr v, more)) :
    Crosses floatRepr v (str s) := by
  refine ⟨isText_str s, fun levels => .inl ⟨atom levels, ?_⟩⟩
  rw [characters_str]
  exact ⟨⟨c, tail, starts, front⟩, reads levels⟩

theorem crosses_float {literal text : List Char} (written : floatRepr literal = text.map Char.toNat)
    (shape : IsNumber text ∨ text = "Infinity".toList ∨ text = "-Infinity".toList) :
    Crosses floatRepr (.float literal) (floatRepr literal) := by
  have isText : IsText (floatRepr literal) := by
    intro n member
    rw [written] at member
    obtain ⟨c, -, same⟩ := List.mem_map.mp member
    exact ⟨c, same⟩
  have same : characters (floatRepr literal) = text := by
    rw [written, characters_chars]
  refine ⟨isText, fun levels => ?_⟩
  have parseable : Parseable floatRepr levels (.float literal) ↔ IsNumber text := by
    cases levels <;> rw [Parseable, same]
  have value : json floatRepr (.float literal) = .number text := by rw [json, same]
  rw [Decides, parseable, same, value]
  rcases shape with number | infinite
  · exact .inl ⟨number, yields_number levels number⟩
  · have fails := fails_infinity levels infinite
    refine .inr ⟨fun number => ?_, fails⟩
    obtain ⟨e, failed⟩ := fails.fails [] (fun _ front => by cases front)
    have read := (yields_number levels number).reads [] (fun _ front => by cases front)
    rw [failed] at read
    cases read

theorem crosses_string {s : Str} (text : IsText s) :
    Crosses floatRepr (.string s) (dumpsString s) := by
  have shape : characters (dumpsString s) =
      '"' :: ((s.flatMap escapeUnit).map Char.ofNat ++ ['"']) := by
    simp [characters, dumpsString]
  refine ⟨isText_dumpsString text, fun levels => .inl ⟨by simp [Parseable],
    ⟨'"', _, shape, by decide, by decide, by decide⟩, fun more _ => ?_⟩⟩
  simp only [shape, List.cons_append, List.append_assoc, List.nil_append, Swift.scanValue,
    scanString_dumped text, Except.map, json]

/-- The items are read one by one, one level of nesting below the list. -/
theorem crosses_list {items : List Value} {texts : List Str} {encoder : Nat}
    (written : items.mapM (dumps floatRepr encoder) = .ok texts)
    (each : ∀ item ∈ items, ∀ t, dumps floatRepr encoder item = .ok t → Crosses floatRepr item t) :
    Crosses floatRepr (.list items) (joined 0x5b 0x5d texts) := by
  obtain ⟨pairs, rfl, values, crosses⟩ := pairs_of_mapM (g := id)
    (P := fun t item => Crosses floatRepr item t) written each
  rw [List.map_id] at values
  refine ⟨isText_joined '[' ']' fun pair member => (crosses pair member).1, fun levels => ?_⟩
  cases levels with
  | zero =>
    have shape := characters_joined '[' ']' pairs
    refine .inr ⟨by simp [Parseable], ⟨'[', _, shape, by decide, by decide, by decide⟩,
      fun more _ => ⟨.recursion, ?_⟩⟩
    rw [show joined 0x5b 0x5d (pairs.map Prod.fst) = joined '['.toNat ']'.toNat _ from rfl, shape]
    rfl
  | succ levels =>
    have whole : Decides (∀ item ∈ pairs.map Prod.snd, Parseable floatRepr levels item)
        (Swift.scanValue (levels + 1))
        (characters (joined '['.toNat ']'.toNat (pairs.map Prod.fst))) (json floatRepr (.list items)) :=
      decides_container (json floatRepr) '[' ']' (.inr rfl) (by decide)
        (Except.map fun read => (JSON.array read.1, read.2)) (fun text => rfl)
        (fun e => ⟨e, rfl⟩) (Parseable floatRepr levels)
        (fun pair member => (crosses pair member).2 levels) fun more => by
          rw [values, json]
          rfl
    rw [values] at whole
    exact whole

/-- A member is read as its value is, under its key. -/
theorem crosses_member {levels : Nat} {key t : Str} {v : JSON} {good : Prop} (keyText : IsText key)
    (decides : Decides good (Swift.scanValue levels) (characters t) v) :
    Decides good (Swift.scanMember (Swift.scanValue levels))
      (characters (dumpsString key ++ [0x3a] ++ t)) (hostString key, v) := by
  have written : characters (dumpsString key ++ [0x3a] ++ t) =
      '"' :: ((key.flatMap escapeUnit).map Char.ofNat ++ '"' :: ':' :: characters t) := by
    simp [characters, dumpsString]
  have colon : isSpace ':' = false := by decide
  rcases decides with ⟨holds, yields⟩ | ⟨bad, fails⟩
  · refine .inl ⟨holds, ⟨'"', _, written, by decide, by decide, by decide⟩, fun more ends => ?_⟩
    rw [written]
    simp only [List.cons_append, List.append_assoc, Swift.scanMember, scanString_dumped keyText,
      skipSpace_of_not colon, yields.skipSpace more, yields.reads more ends, Except.map]
  · refine .inr ⟨bad, ⟨'"', _, written, by decide, by decide, by decide⟩, fun more ends => ?_⟩
    obtain ⟨e, failed⟩ := fails.fails more ends
    refine ⟨e, ?_⟩
    rw [written]
    simp only [List.cons_append, List.append_assoc, Swift.scanMember, scanString_dumped keyText,
      skipSpace_of_not colon, fails.skipSpace more, failed, Except.map]

theorem crosses_dict {members : List (Str × Value)} {texts : List Str} {encoder : Nat}
    (keys : ∀ member ∈ members, IsText member.1)
    (written : members.mapM (dumpsMember floatRepr encoder) = .ok texts)
    (each : ∀ member ∈ members, ∀ t, dumps floatRepr encoder member.2 = .ok t →
      Crosses floatRepr member.2 t) :
    Crosses floatRepr (.dict members) (joined 0x7b 0x7d texts) := by
  obtain ⟨pairs, rfl, values, crosses⟩ := pairs_of_mapM (g := id)
    (P := fun t member => IsText t ∧ ∀ levels, Decides (Parseable floatRepr levels member.2)
      (Swift.scanMember (Swift.scanValue levels)) (characters t)
        (hostString member.1, json floatRepr member.2)) written
    fun member inside t one => by
      obtain ⟨text, value, rfl⟩ := dumpsMember_ok one
      obtain ⟨isText, decides⟩ := each member inside text value
      have colon : IsText [0x3a] := isText_str ":"
      have key := keys member inside
      exact ⟨((isText_dumpsString key).append colon).append isText, fun levels =>
        crosses_member key (decides levels)⟩
  rw [List.map_id] at values
  refine ⟨isText_joined '{' '}' fun pair member => (crosses pair member).1, fun levels => ?_⟩
  -- Without a level left the parser fails at the bracket.
  cases levels with
  | zero =>
    have shape := characters_joined '{' '}' pairs
    refine .inr ⟨by simp [Parseable], ⟨'{', _, shape, by decide, by decide, by decide⟩,
      fun more _ => ⟨.recursion, ?_⟩⟩
    rw [show joined 0x7b 0x7d (pairs.map Prod.fst) = joined '{'.toNat '}'.toNat _ from rfl, shape]
    rfl
  | succ levels =>
    have whole : Decides (∀ member ∈ pairs.map Prod.snd, Parseable floatRepr levels member.2)
        (Swift.scanValue (levels + 1))
        (characters (joined '{'.toNat '}'.toNat (pairs.map Prod.fst)))
        (json floatRepr (.dict members)) :=
      decides_container (fun member => (hostString member.1, json floatRepr member.2)) '{' '}'
        (.inl rfl) (by decide) (Except.map fun read => (JSON.object read.1, read.2))
        (fun text => rfl) (fun e => ⟨e, rfl⟩) (fun member => Parseable floatRepr levels member.2)
        (fun pair member => (crosses pair member).2 levels) fun more => by
          rw [values, json]
          rfl
    rw [values] at whole
    exact whole

/-- The host parses what the guest dumps, or fails on it where it cannot be parsed. -/
theorem crosses {v : Value} (textual : Textual floatRepr v) {encoder : Nat} {t : Str}
    (written : dumps floatRepr encoder v = .ok t) : Crosses floatRepr v t := by
  -- Induction on the value; the lists and dicts are read element by element.
  induction textual generalizing encoder t with
  | null =>
    simp only [dumps] at written
    cases written
    exact crosses_word "null" .null rfl (by decide) (by simp [Parseable]) (by
      simp [Swift.scanValue, json])
  | bool b =>
    simp only [dumps] at written
    cases written
    cases b with
    | true =>
      exact crosses_word "true" (.bool true) rfl (by decide) (by simp [Parseable]) (by
        simp [Swift.scanValue, json])
    | false =>
      exact crosses_word "false" (.bool false) rfl (by decide) (by simp [Parseable]) (by
        simp [Swift.scanValue, json])
  | int n =>
    simp only [dumps] at written
    split at written
    · cases written
    · cases written
      have yields (levels : Nat) := yields_number levels (isNumber_int n)
      obtain ⟨c, tail, starts, front⟩ := (yields 0).starts
      exact crosses_word (toString n) (.int n) starts front (by simp [Parseable])
        fun levels more ends => by rw [json]; exact (yields levels).reads more ends
  | float literal text same shape =>
    simp only [dumps] at written
    cases written
    exact crosses_float same shape
  | string s text =>
    simp only [dumps] at written
    cases written
    exact crosses_string text
  | list items each ih =>
    obtain ⟨encoder, texts, rfl, inner, rfl⟩ := dumps_list_ok written
    exact crosses_list inner fun item member t one => ih item member one
  | dict members keys each ih =>
    obtain ⟨encoder, texts, rfl, inner, rfl⟩ := dumps_dict_ok written
    exact crosses_dict keys inner fun member inside t one => ih member inside one

/-- A portable value can be written and read at its levels. -/
theorem Portable.writable (floatRepr : FloatRepr) {levels : Nat} {v : Value} (portable : Portable levels v) {limit : Nat}
    (within : levels ≤ limit) :
    Textual floatRepr v ∧ ShortInts v ∧ NestsWithin limit v ∧ Parseable floatRepr limit v := by
  have atom {v : Value} {limit : Nat} (portable : Portable 0 v) :
      Textual floatRepr v ∧ ShortInts v ∧ NestsWithin limit v ∧ Parseable floatRepr limit v := by
    cases v with
    | null => exact ⟨.null, .null, by simp [NestsWithin], by simp [Parseable]⟩
    | bool b => exact ⟨.bool b, .bool b, by simp [NestsWithin], by simp [Parseable]⟩
    | int n => exact ⟨.int n, .int n portable, by simp [NestsWithin], by simp [Parseable]⟩
    | float literal => exact portable.elim
    | string s => exact ⟨.string s portable, .string s, by simp [NestsWithin], by simp [Parseable]⟩
    | list items => exact portable.elim
    | dict members => exact portable.elim
  -- Induction on the levels: a list or a dict takes one of them and of the limit.
  induction levels generalizing v limit with
  | zero => exact atom portable
  | succ levels ih =>
    cases v with
    | list items =>
      obtain ⟨limit, rfl⟩ := Nat.exists_eq_add_of_le' (Nat.le_trans (Nat.le_add_left 1 levels) within)
      have each (item : Value) (member : item ∈ items) :=
        ih (portable item member) (Nat.le_of_succ_le_succ within)
      exact ⟨.list items fun item member => (each item member).1,
        .list items fun item member => (each item member).2.1,
        fun item member => (each item member).2.2.1, fun item member => (each item member).2.2.2⟩
    | dict members =>
      obtain ⟨limit, rfl⟩ := Nat.exists_eq_add_of_le' (Nat.le_trans (Nat.le_add_left 1 levels) within)
      have each (member : Str × Value) (inside : member ∈ members) :=
        ih (portable member inside).2 (Nat.le_of_succ_le_succ within)
      exact ⟨.dict members (fun member inside => (portable member inside).1)
          fun member inside => (each member inside).1,
        .dict members fun member inside => (each member inside).2.1,
        fun member inside => (each member inside).2.2.1,
        fun member inside => (each member inside).2.2.2⟩
    | null => exact atom trivial
    | bool b => exact atom trivial
    | int n => exact atom portable
    | float literal => exact portable.elim
    | string s => exact atom portable

/-- The host parses what the guest dumps of a portable value. -/
theorem yields_dumps (floatRepr : FloatRepr) (levels : Nat) (v : Value)
    (portable : Portable levels v) {encoder decoder : Nat} (encodes : levels ≤ encoder)
    (decodes : levels ≤ decoder) :
    ∃ t, dumps floatRepr encoder v = .ok t ∧ IsText t ∧
      Yields (Swift.scanValue decoder) (characters t) (json floatRepr v) := by
  obtain ⟨textual, short, nests, -⟩ := portable.writable floatRepr encodes
  obtain ⟨-, -, -, parseable⟩ := portable.writable floatRepr decodes
  obtain ⟨t, written⟩ := dumps_ok_iff.mpr ⟨nests, short⟩
  obtain ⟨isText, decides⟩ := crosses textual written
  refine ⟨t, written, isText, ?_⟩
  rcases decides decoder with ⟨-, yields⟩ | ⟨bad, -⟩
  · exact yields
  · exact absurd parseable bad

end Values

section Parsing

theorem parse_fails (foundation : Foundation) {text : List Char}
    (fails : Fails (Swift.scanValue foundation.nesting) text) :
    foundation.parse text = .error .dataCorrupted := by
  obtain ⟨e, failed⟩ := fails.fails [] (fun _ front => by cases front)
  have skipped := fails.skipSpace []
  simp only [List.append_nil] at failed skipped
  simp only [Foundation.parse, skipped, failed]

end Parsing

end SimpleVM.Agent
