import SimpleVM.Python.Text
import SimpleVM.Text.Unescaping

/-!
# The os-release file

The guest tools read assignments of shell variables, one in a line. A value between double quotes
has its backslashes and quotes escaped.
-/
namespace SimpleVM.Agent

open Python Text

/-- `str.isalnum` of one character. White space is neither a letter nor a number. -/
structure Letters where
  isalnum : Nat → Bool
  ascii : ∀ n < 128, isalnum n =
    (decide (48 ≤ n ∧ n ≤ 57) || decide (65 ≤ n ∧ n ≤ 90) || decide (97 ≤ n ∧ n ≤ 122))
  apart : ∀ n, isalnum n = true → isWhitespace n = false

/-- `s.replace(old, new)` -/
def replace (old new : String) (s : Str) : Str := replaceFrom (str old) (str new) 0 s

/-- `key.replace("_", "").isalnum()` -/
def isKey (letters : Letters) (key : Str) : Bool :=
  let name := replace "_" "" key
  !name.isEmpty && name.all letters.isalnum

/-- `value[1:-1]` -/
def inner (value : Str) : Str := (value.drop 1).dropLast

/-- The two replacements, of the quotes first. -/
def unescaped (value : Str) : Str := replace "\\\\" "\\" (replace "\\\"" "\"" value)

/-- The value without the quotes around it, if it has them. -/
def unquoted (value : Str) : Str :=
  if 2 ≤ value.length ∧ value.head? = some 34 ∧ value.getLast? = some 34 then
    unescaped (inner value)
  else value

/-- The assignment in a line, if there is one. -/
def assignment (letters : Letters) (rawLine : Str) : Option (Str × Str) :=
  let line := strip rawLine
  if line.isEmpty || line.head? = some 35 then none
  else match partition (str "=") line with
    | none => none
    | some (key, value) => if isKey letters key then some (key, unquoted value) else none

/-- `values[key] = value` -/
def setItem (key value : Str) (values : List (Str × Str)) : List (Str × Str) :=
  (key, value) :: values.filter fun entry => entry.1 ≠ key

/-- `values.get(key)` -/
def getItem (key : Str) (values : List (Str × Str)) : Option Str :=
  (values.find? fun entry => entry.1 = key).map Prod.snd

/-- `parse_os_release` of the lines that are read before the file ends or fails. An error is
passed over. -/
def parseOSRelease (letters : Letters) (lines : List Str) : List (Str × Str) :=
  lines.foldl (fun values rawLine =>
    match assignment letters rawLine with
    | some (key, value) => setItem key value values
    | none => values) []

/-- The text of a quoted value. -/
def escaped (s : Str) : Str := escape 92 34 s

/-- `KEY="e"` -/
def quotedAssignment (key s : Str) : Str := key ++ 61 :: 34 :: (escaped s ++ [34])

/-- The text is empty, or its last line has an end. -/
def EndsLine (text : Str) : Prop := ∀ n, text.getLast? = some n → n = 10 ∨ n = 13

/-- The text is empty, or begins with the end of a line. -/
def BeginsWithEnd (text : Str) : Prop := ∀ n, text.head? = some n → n = 10 ∨ n = 13

variable {letters : Letters} {key s value line text before after : Str}

section Values

theorem unescaped_escaped (s : Str) : unescaped (escaped s) = s :=
  replace_escape (by decide) s

/-- One pass from left to right gives the same. -/
theorem unescaped_eq_unescape (s : Str) : unescaped (escaped s) = unescape 92 34 (escaped s) := by
  rw [unescaped_escaped, escaped, unescape_escape]

theorem inner_quoted (value : Str) : inner (34 :: (value ++ [34])) = value := by
  simp [inner]

theorem unquoted_quoted (s : Str) : unquoted (34 :: (escaped s ++ [34])) = s := by
  have quotes : 2 ≤ (34 :: (escaped s ++ [34])).length ∧
      (34 :: (escaped s ++ [34])).head? = some 34 ∧
      (34 :: (escaped s ++ [34])).getLast? = some 34 := by
    refine ⟨by simp, rfl, ?_⟩
    rw [← List.cons_append, List.getLast?_concat]
  rw [unquoted, if_pos quotes, inner_quoted, unescaped_escaped]

end Values

section Lines

theorem replaceFrom_nothing (c : Nat) (text : Str) :
    replaceFrom [c] [] 0 text = text.filter fun n => n ≠ c := by
  induction text with
  | nil => rfl
  | cons d text ih =>
    by_cases same : d = c
    · subst same
      rw [replaceFrom, if_pos (by simp [List.isPrefixOf]), List.filter_cons_of_neg (by simp)]
      exact ih
    · rw [replaceFrom_other same, ih, List.filter_cons_of_pos (by simp [same])]

/-- A key has letters, numbers and underscores, not underscores alone. -/
theorem isKey_iff : isKey letters key = true ↔
    (∃ n ∈ key, n ≠ 95) ∧ ∀ n ∈ key, n ≠ 95 → letters.isalnum n = true := by
  have name : replace "_" "" key = key.filter fun n => n ≠ 95 := replaceFrom_nothing 95 key
  simp only [isKey, name, Bool.and_eq_true, Bool.not_eq_true', List.isEmpty_eq_false_iff_exists_mem,
    List.mem_filter, List.all_eq_true, decide_eq_true_eq, and_imp]

/-- What a key does not contain. -/
theorem key_ordinary (valid : isKey letters key = true) {n : Nat} (member : n ∈ key) :
    isWhitespace n = false ∧ n ≠ 61 ∧ n ≠ 35 ∧ n ≠ 10 ∧ n ≠ 13 := by
  obtain ⟨-, each⟩ := isKey_iff.mp valid
  by_cases underscore : n = 95
  · subst underscore
    decide
  · have alnum := each n member underscore
    refine ⟨letters.apart n alnum, ?_⟩
    have special (m : Nat) (small : m < 128) (other : (decide (48 ≤ m ∧ m ≤ 57) ||
        decide (65 ≤ m ∧ m ≤ 90) || decide (97 ≤ m ∧ m ≤ 122)) = false) : n ≠ m := by
      rintro rfl
      rw [letters.ascii n small, other] at alnum
      cases alnum
    exact ⟨special 61 (by decide) (by decide), special 35 (by decide) (by decide),
      special 10 (by decide) (by decide), special 13 (by decide) (by decide)⟩

theorem partition_equals (plain : 61 ∉ key) (value : Str) :
    partition (str "=") (key ++ 61 :: value) = some (key, value) := by
  have sign : str "=" = [61] := rfl
  rw [sign]
  induction key with
  | nil => simp [partition, List.isPrefixOf]
  | cons c key ih =>
    simp only [List.mem_cons, not_or] at plain
    simp [partition, List.isPrefixOf, plain.1, ih plain.2]

/-- Only white space behind it is taken from a text that begins and ends with something else. -/
theorem strip_closed {first last : Nat} {middle blank : Str}
    (begins : isWhitespace first = false) (ends : isWhitespace last = false)
    (blanks : ∀ n ∈ blank, isWhitespace n = true) :
    strip (first :: (middle ++ last :: blank)) = first :: (middle ++ [last]) := by
  have reversed : (first :: (middle ++ last :: blank)).reverse =
      blank.reverse ++ last :: (first :: middle).reverse := by simp
  rw [strip, List.dropWhile_cons_of_neg (by simp [begins]), reversed,
    List.dropWhile_append_of_pos fun n member => blanks n (List.mem_reverse.mp member),
    List.dropWhile_cons_of_neg (by simp [ends])]
  simp

/-- The line with the assignment of a quoted value gives the value. -/
theorem assignment_quoted (valid : isKey letters key = true) (s : Str) {blank : Str}
    (blanks : ∀ n ∈ blank, isWhitespace n = true) :
    assignment letters (quotedAssignment key s ++ blank) = some (key, s) := by
  obtain ⟨⟨c, member, -⟩, -⟩ := isKey_iff.mp valid
  obtain ⟨first, rest, rfl⟩ := List.exists_cons_of_ne_nil (List.ne_nil_of_mem member)
  have firstPlain := key_ordinary valid List.mem_cons_self
  have shape : quotedAssignment (first :: rest) s ++ blank =
      first :: ((rest ++ 61 :: 34 :: escaped s) ++ 34 :: blank) := by
    simp [quotedAssignment]
  have line : strip (quotedAssignment (first :: rest) s ++ blank) =
      (first :: rest) ++ 61 :: (34 :: (escaped s ++ [34])) := by
    rw [shape, strip_closed firstPlain.1 (by decide) blanks]
    simp
  have noEquals : 61 ∉ first :: rest := fun inside => (key_ordinary valid inside).2.1 rfl
  simp only [assignment, line, partition_equals noEquals, valid, unquoted_quoted, if_true]
  simp [firstPlain.2.2.1]

end Lines

section Files

/-- A file is read in two parts where the first one ends a line. -/
theorem linesFrom_append (next : text.head? ≠ some 10) {line : Str} {afterReturn : Bool}
    (ends : EndsLine before) (begun : before = [] → line = [])
    (returned : afterReturn = true → line = []) :
    linesFrom line afterReturn (before ++ text) =
      linesFrom line afterReturn before ++ fileLines text := by
  induction before generalizing line afterReturn with
  | nil =>
    rw [begun rfl]
    cases text with
    | nil => rfl
    | cons d rest =>
      have other : d ≠ 10 := fun same => next (by simp [same])
      simp [linesFrom, fileLines, other]
  | cons c rest ih =>
    have restEnds : EndsLine rest := by
      intro n last
      exact ends n (by rw [List.getLast?_cons, last]; rfl)
    rw [List.cons_append, linesFrom, linesFrom]
    split
    · rename_i skips
      exact ih restEnds (fun _ => returned skips.2) (by simp)
    · split
      · rw [ih restEnds (by simp) (by simp), List.cons_append]
      · rename_i inside
        -- the last character ends the line
        refine ih restEnds (fun last => ?_) (by simp)
        subst last
        exact absurd (ends c rfl) inside

/-- Characters inside a line are collected. -/
theorem linesFrom_inside {body line : Str} (unbroken : ∀ n ∈ body, n ≠ 10 ∧ n ≠ 13)
    (nonempty : body ≠ []) (rest : Str) {afterReturn : Bool} :
    linesFrom line afterReturn (body ++ rest) = linesFrom (line ++ body) false rest := by
  induction body generalizing line afterReturn with
  | nil => exact absurd rfl nonempty
  | cons c body ih =>
    obtain ⟨noFeed, noReturn⟩ := unbroken c List.mem_cons_self
    rw [List.cons_append, linesFrom, if_neg (by simp [noFeed]), if_neg (by simp [noFeed, noReturn])]
    cases body with
    | nil => rfl
    | cons d more =>
      rw [ih (fun n member => unbroken n (List.mem_cons_of_mem c member)) (by simp)]
      simp

/-- A line is followed by lines of what comes behind it. -/
theorem fileLines_line {body : Str} (unbroken : ∀ n ∈ body, n ≠ 10 ∧ n ≠ 13)
    (nonempty : body ≠ []) (begins : BeginsWithEnd after) :
    ∃ blank later, fileLines (body ++ after) = (body ++ blank) :: later ∧
      (∀ n ∈ blank, isWhitespace n = true) ∧ later ⊆ fileLines after := by
  rw [fileLines, linesFrom_inside unbroken nonempty]
  cases after with
  | nil =>
    refine ⟨[], [], ?_, by simp, by simp⟩
    simp [linesFrom, nonempty]
  | cons c rest =>
    have breaks := begins c rfl
    refine ⟨[10], linesFrom [] (decide (c = 13)) rest, ?_, by simp [isWhitespace], ?_⟩
    · simp [linesFrom, breaks]
    · simp [fileLines, linesFrom, breaks]

theorem getItem_setItem (other : Str) (values : List (Str × Str)) :
    getItem other (setItem key value values) =
      if other = key then some value else getItem other values := by
  unfold getItem setItem
  by_cases same : other = key
  · simp [same]
  · have differ : key ≠ other := fun equal => same equal.symm
    rw [List.find?_cons_of_neg (by simp [differ]), List.find?_filter, if_neg same]
    congr 2
    funext entry
    by_cases here : entry.1 = other
    · simp [here, same]
    · simp [here]

/-- The assignments of a key, in the order of the lines. -/
def assignmentsOf (letters : Letters) (key : Str) (lines : List Str) : List (Str × Str) :=
  (lines.filterMap (assignment letters)).filter fun entry => entry.1 = key

theorem getItem_fold (letters : Letters) (key : Str) (lines : List Str)
    (values : List (Str × Str)) :
    getItem key (lines.foldl (fun values rawLine =>
        match assignment letters rawLine with
        | some (key, value) => setItem key value values
        | none => values) values) =
      ((assignmentsOf letters key lines).getLast?.map Prod.snd).or (getItem key values) := by
  induction lines generalizing values with
  | nil => rfl
  | cons rawLine lines ih =>
    rw [List.foldl_cons, ih]
    unfold assignmentsOf
    cases found : assignment letters rawLine with
    | none => rw [List.filterMap_cons_none found]
    | some entry =>
      obtain ⟨name, value⟩ := entry
      rw [List.filterMap_cons_some found]
      by_cases same : name = key
      · subst same
        rw [List.filter_cons_of_pos (by simp), List.getLast?_cons, getItem_setItem, if_pos rfl]
        cases ((lines.filterMap (assignment letters)).filter fun entry => entry.1 = name).getLast? <;>
          rfl
      · have differ : key ≠ name := fun equal => same equal.symm
        rw [List.filter_cons_of_neg (by simp [same]), getItem_setItem, if_neg differ]

/-- The last assignment of a key is the one that counts. -/
theorem getItem_parse (letters : Letters) (key : Str) (lines : List Str) :
    getItem key (parseOSRelease letters lines) =
      (assignmentsOf letters key lines).getLast?.map Prod.snd := by
  rw [parseOSRelease, getItem_fold]
  exact Option.or_none

end Files

/-- Nothing in an escaped value ends a line. -/
theorem quotedAssignment_unbroken (valid : isKey letters key = true)
    (unbroken : ∀ n ∈ s, n ≠ 10 ∧ n ≠ 13) : ∀ n ∈ quotedAssignment key s, n ≠ 10 ∧ n ≠ 13 := by
  intro n member
  rcases List.mem_append.mp member with inKey | later
  · exact (key_ordinary valid inKey).2.2.2
  · rcases List.mem_cons.mp later with rfl | later
    · decide
    · rcases List.mem_cons.mp later with rfl | later
      · decide
      · rcases List.mem_append.mp later with inValue | last
        · rcases mem_escape inValue with rfl | inside
          · decide
          · exact unbroken n inside
        · rw [List.mem_singleton.mp last]
          decide

/-- A quoted value is read back as it was before its escaping, wherever its line stands in the
file, unless a later line assigns the key again. The two replacements do what one pass does, and
of several assignments the last one counts. -/
theorem os_release_faithful (letters : Letters) (key s before after : Str)
    (valid : isKey letters key = true) (unbroken : ∀ n ∈ s, n ≠ 10 ∧ n ≠ 13)
    (ends : EndsLine before) (begins : BeginsWithEnd after)
    (last : assignmentsOf letters key (fileLines after) = []) :
    getItem key (parseOSRelease letters (fileLines (before ++ (quotedAssignment key s ++ after)))) =
        some s ∧
      unescaped (escaped s) = unescape 92 34 (escaped s) ∧
      ∀ lines other, getItem other (parseOSRelease letters lines) =
        (assignmentsOf letters other lines).getLast?.map Prod.snd := by
  refine ⟨?_, unescaped_eq_unescape s, fun lines other => getItem_parse letters other lines⟩
  obtain ⟨c, member, -⟩ := (isKey_iff.mp valid).1
  obtain ⟨first, rest, rfl⟩ := List.exists_cons_of_ne_nil (List.ne_nil_of_mem member)
  have noFeed : first ≠ 10 := (key_ordinary valid List.mem_cons_self).2.2.2.1
  obtain ⟨blank, later, here, blanks, behind⟩ := fileLines_line
    (quotedAssignment_unbroken valid unbroken) (by simp [quotedAssignment]) begins
  have lines : fileLines (before ++ (quotedAssignment (first :: rest) s ++ after)) =
      fileLines before ++ (quotedAssignment (first :: rest) s ++ blank) :: later := by
    rw [← here]
    exact linesFrom_append (by simp [quotedAssignment, noFeed]) ends (fun _ => rfl) fun _ => rfl
  have nothingLater : assignmentsOf letters (first :: rest) later = [] := by
    simp only [assignmentsOf, List.filter_eq_nil_iff, List.mem_filterMap] at last ⊢
    rintro entry ⟨line, listed, found⟩
    exact last entry ⟨line, behind listed, found⟩
  rw [getItem_parse, lines]
  simp only [assignmentsOf, List.filterMap_append, List.filterMap_cons,
    assignment_quoted valid s blanks, List.filter_append, List.filter_cons, decide_true, if_true]
    at nothingLater ⊢
  rw [nothingLater]
  simp

/-- The letters and numbers of ASCII only. -/
def asciiLetters : Letters where
  isalnum n := decide (48 ≤ n ∧ n ≤ 57) || decide (65 ≤ n ∧ n ≤ 90) || decide (97 ≤ n ∧ n ≤ 122)
  ascii _ _ := rfl
  apart n alnum := by
    simp only [Bool.or_eq_true, decide_eq_true_eq] at alnum
    simp only [isWhitespace, Bool.or_eq_false_iff, decide_eq_false_iff_not]
    omega

theorem quoted_name_read :
    getItem (str "NAME") (parseOSRelease asciiLetters (fileLines (str "NAME=Arch\n" ++
        (quotedAssignment (str "NAME") (str "a\\\"b\\") ++ str "\r\nID=arch\n")))) =
      some (str "a\\\"b\\") := by
  refine (os_release_faithful asciiLetters (str "NAME") (str "a\\\"b\\") (str "NAME=Arch\n")
    (str "\r\nID=arch\n") (by decide +kernel) ?_ ?_ ?_ (by decide +kernel)).1
  · decide +kernel
  · rintro n last
    cases last
    exact .inl rfl
  · rintro n first
    cases first
    exact .inr rfl

end SimpleVM.Agent
