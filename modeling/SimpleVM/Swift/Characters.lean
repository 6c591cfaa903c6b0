import SimpleVM.Text.Trimming

/-!
# Characters of a Swift string

A string is a list of Unicode scalars. Its characters are grapheme clusters, and two of them are
equal when they are canonically equivalent. What Unicode says of scalars outside ASCII is a
parameter, with the rules that hold for the others.
-/
namespace SimpleVM.Swift

/-- The scalar itself, or the ASCII scalar it is canonically equivalent to. -/
def canonical (c : Char) : Char :=
  if c = '\u037e' then ';' else if c = '\u1fef' then '`' else if c = '\u212a' then 'K' else c

def IsASCII (c : Char) : Prop := c.toNat < 128

instance (c : Char) : Decidable (IsASCII c) :=
  inferInstanceAs (Decidable (_ < _))

structure Unicode where
  /-- The grapheme clusters of a text. -/
  characters : List Char → List (List Char)
  joined : ∀ text, (characters text).flatten = text
  /-- Among these scalars, only CR LF does not come apart. -/
  apart : ∀ text, (∀ c ∈ text, IsASCII (canonical c)) → ∀ character ∈ characters text,
    character = ['\r', '\n'] ∨ ∃ c, character = [c]
  lowercased : List Char → List Char
  lowercased_ascii : ∀ text, (∀ c ∈ text, IsASCII c) → lowercased text = text.map Char.toLower
  /-- `CharacterSet.whitespacesAndNewlines`. -/
  isWhitespaceOrNewline : Char → Bool
  whitespace_ascii : ∀ c, IsASCII c →
    (isWhitespaceOrNewline c = true ↔ c = ' ' ∨ 9 ≤ c.toNat ∧ c.toNat ≤ 13)

/-- A character equals one of ASCII. -/
def isCharacter (character : List Char) (c : Char) : Bool :=
  decide (character.map canonical = [c])

/-- `replacingOccurrences(of:with:)`, after `skipped` more scalars of an occurrence. -/
def replacing (target replacement : List Char) : Nat → List Char → List Char
  | _, [] => []
  | skipped + 1, _ :: rest => replacing target replacement skipped rest
  | 0, c :: rest =>
    if target.isPrefixOf (c :: rest) then
      replacement ++ replacing target replacement (target.length - 1) rest
    else c :: replacing target replacement 0 rest

def replacingOccurrences (target replacement text : List Char) : List Char :=
  replacing target replacement 0 text

/-- `components(separatedBy:)`, after `skipped` more scalars of a separator. -/
def cut (separator : List Char) : Nat → List Char → List (List Char)
  | _, [] => [[]]
  | skipped + 1, _ :: rest => cut separator skipped rest
  | 0, c :: rest =>
    if separator.isPrefixOf (c :: rest) then [] :: cut separator (separator.length - 1) rest
    else (cut separator 0 rest).modifyHead (List.cons c)

def components (separator text : List Char) : List (List Char) := cut separator 0 text

/-- `Character.isNewline`. -/
def isNewline : List Char → Bool
  | [] => false
  | c :: _ =>
    decide (10 ≤ c.toNat ∧ c.toNat ≤ 13) || c = '\u0085' || c = '\u2028' || c = '\u2029'

namespace Unicode

/-- `split(omittingEmptySubsequences: false, whereSeparator:)`. -/
def split (u : Unicode) (isSeparator : List Char → Bool) (text : List Char) : List (List Char) :=
  ((u.characters text).splitOnP isSeparator).map List.flatten

/-- `trimmingCharacters(in: .whitespacesAndNewlines)`. -/
def trimmed (u : Unicode) (text : List Char) : List Char :=
  Text.trim u.isWhitespaceOrNewline text

/-- `hasPrefix` of one character. -/
def starts (u : Unicode) (text : List Char) (c : Char) : Bool :=
  match u.characters text with
  | [] => false
  | character :: _ => isCharacter character c

variable {u : Unicode} {text : List Char}

/-- The scalars of a text are those of its characters. -/
theorem mem_text (u : Unicode) {c : Char} :
    c ∈ text ↔ ∃ character ∈ u.characters text, c ∈ character := by
  have joined := u.joined text
  constructor
  · intro member
    rw [← joined] at member
    obtain ⟨character, listed, inside⟩ := List.mem_flatten.mp member
    exact ⟨character, listed, inside⟩
  · rintro ⟨character, listed, inside⟩
    rw [← joined]
    exact List.mem_flatten.mpr ⟨character, listed, inside⟩

/-- Clusters of one scalar each are the scalars one by one. -/
theorem flatten_singles {clusters : List (List Char)}
    (single : ∀ character ∈ clusters, ∃ c, character = [c]) :
    clusters = clusters.flatten.map fun c => [c] := by
  induction clusters with
  | nil => rfl
  | cons character clusters ih =>
    obtain ⟨c, rfl⟩ := single character List.mem_cons_self
    have rest := ih fun other listed => single other (List.mem_cons_of_mem _ listed)
    rw [List.flatten_cons, List.map_append, ← rest]
    rfl

theorem characters_single (u : Unicode)
    (single : ∀ character ∈ u.characters text, ∃ c, character = [c]) :
    u.characters text = text.map fun c => [c] := by
  have singles := flatten_singles single
  rwa [u.joined] at singles

end Unicode

/-- CR LF is one character, and every other scalar is one. -/
def clusters : List Char → List (List Char)
  | [] => []
  | [c] => [[c]]
  | c :: d :: rest =>
    if c = '\r' ∧ d = '\n' then [c, d] :: clusters rest else [c] :: clusters (d :: rest)

/-- Unicode as far as ASCII goes. -/
def ascii : Unicode where
  characters := clusters
  joined := by
    intro text
    fun_induction clusters text with
    | case1 => rfl
    | case2 c => rfl
    | case3 c d rest together ih => simp [ih]
    | case4 c d rest apart ih => simp [ih]
  apart := by
    intro text _
    fun_induction clusters text with
    | case1 => simp
    | case2 c => simp
    | case3 c d rest together ih =>
      obtain ⟨rfl, rfl⟩ := together
      rename_i plain
      intro character listed
      rcases List.mem_cons.mp listed with rfl | later
      · exact .inl rfl
      · apply ih _ character later
        intro c member
        exact plain c (by simp [member])
    | case4 c d rest apart ih =>
      rename_i plain
      intro character listed
      rcases List.mem_cons.mp listed with rfl | later
      · exact .inr ⟨c, rfl⟩
      · apply ih _ character later
        intro c member
        exact plain c (List.mem_cons_of_mem _ member)
  lowercased := fun text => text.map Char.toLower
  lowercased_ascii := fun _ _ => rfl
  isWhitespaceOrNewline := fun c => decide (c = ' ' ∨ 9 ≤ c.toNat ∧ c.toNat ≤ 13)
  whitespace_ascii := by simp

/-- Which scalars form one character with an ASCII neighbour other than CR and LF: marks with the
one before them, leaders with the one after them. -/
structure Joins where
  mark : Char → Bool
  leader : Char → Bool
  mark_ascii : ∀ c, IsASCII c → mark c = false
  leader_ascii : ∀ c, IsASCII c → leader c = false

namespace Joins

/-- No mark follows. -/
def endsBefore (joins : Joins) : List Char → Bool
  | [] => true
  | c :: _ => !joins.mark c

/-- Nothing before joins the next scalar. -/
def startsAfter (joins : Joins) : Option Char → Bool
  | none => true
  | some c => !joins.leader c

/-- The combining acute accent is the only mark. -/
def acute : Joins where
  mark c := decide (c = '\u0301')
  leader _ := false
  mark_ascii := by
    intro c ascii
    apply decide_eq_false
    rintro rfl
    revert ascii
    decide
  leader_ascii _ _ := rfl

end Joins

end SimpleVM.Swift
