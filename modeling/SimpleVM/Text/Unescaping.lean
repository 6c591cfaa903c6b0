import SimpleVM.Text.DoubledSeparator

/-!
# Escaping with a mark

A mark stands before every mark and every quote of an escaped text. One pass takes the marks away
again. So do two replacements, of a marked quote and then of a doubled mark: in an escaped text no
quote stands behind a mark that belongs to another mark.
-/
namespace SimpleVM.Text

variable {α : Type} [DecidableEq α] {mark quote : α}

/-- Every occurrence from the left on is replaced, after `skipped` more elements of one. -/
def replaceFrom (target replacement : List α) : Nat → List α → List α
  | _, [] => []
  | skipped + 1, _ :: rest => replaceFrom target replacement skipped rest
  | 0, c :: rest =>
    if target.isPrefixOf (c :: rest) then
      replacement ++ replaceFrom target replacement (target.length - 1) rest
    else c :: replaceFrom target replacement 0 rest

def escape (mark quote : α) (text : List α) : List α :=
  text.flatMap fun c => if c = mark ∨ c = quote then [mark, c] else [c]

/-- One pass from the left. A mark before anything else stays. -/
def unescape (mark quote : α) : List α → List α
  | c :: d :: rest =>
    if c = mark ∧ (d = mark ∨ d = quote) then d :: unescape mark quote rest
    else c :: unescape mark quote (d :: rest)
  | short => short

theorem escape_special {c : α} (special : c = mark ∨ c = quote) (text : List α) :
    escape mark quote (c :: text) = mark :: c :: escape mark quote text := by
  simp [escape, special]

theorem escape_plain {c : α} (plain : ¬ (c = mark ∨ c = quote)) (text : List α) :
    escape mark quote (c :: text) = c :: escape mark quote text := by
  simp [escape, plain]

theorem unescape_plain {c : α} (plain : c ≠ mark) (text : List α) :
    unescape mark quote (c :: text) = c :: unescape mark quote text := by
  cases text with
  | nil => rfl
  | cons d rest => simp [unescape, plain]

/-- One pass undoes the escaping. -/
theorem unescape_escape (text : List α) : unescape mark quote (escape mark quote text) = text := by
  induction text with
  | nil => rfl
  | cons c text ih =>
    by_cases special : c = mark ∨ c = quote
    · rw [escape_special special, unescape, if_pos ⟨rfl, special⟩, ih]
    · rw [escape_plain special, unescape_plain fun same => special (.inl same), ih]

/-- An escaped text begins with no quote: there is a mark before it. -/
theorem escape_head (distinct : mark ≠ quote) (text : List α) :
    (escape mark quote text).head? ≠ some quote := by
  cases text with
  | nil => simp [escape]
  | cons c text =>
    by_cases special : c = mark ∨ c = quote
    · rw [escape_special special]
      simpa using distinct
    · rw [escape_plain special]
      simp only [List.head?_cons, ne_eq, Option.some.injEq]
      exact fun same => special (.inr same)

/-- A pair whose second element does not follow is no occurrence. -/
theorem replaceFrom_mark {text replacement : List α} (next : text.head? ≠ some quote) :
    replaceFrom [mark, quote] replacement 0 (mark :: text) =
      mark :: replaceFrom [mark, quote] replacement 0 text := by
  have other : ([mark, quote].isPrefixOf (mark :: text)) = false := by
    cases text with
    | nil => simp [List.isPrefixOf]
    | cons d rest =>
      have differ : quote ≠ d := fun same => next (by simp [same])
      simp [List.isPrefixOf, differ]
  rw [replaceFrom, if_neg (by simp [other])]

theorem replaceFrom_other {c first : α} {more replacement : List α} (differ : c ≠ first)
    (text : List α) :
    replaceFrom (first :: more) replacement 0 (c :: text) =
      c :: replaceFrom (first :: more) replacement 0 text := by
  have other : first ≠ c := fun same => differ same.symm
  rw [replaceFrom, if_neg (by simp [List.isPrefixOf, other])]

theorem replaceFrom_pair {first second : α} {replacement : List α} (text : List α) :
    replaceFrom [first, second] replacement 0 (first :: second :: text) =
      replacement ++ replaceFrom [first, second] replacement 0 text := by
  rw [replaceFrom, if_pos (by simp [List.isPrefixOf])]
  rfl

/-- The first replacement leaves the marks doubled that stand for marks. -/
theorem replace_quotes (distinct : mark ≠ quote) (text : List α) :
    replaceFrom [mark, quote] [quote] 0 (escape mark quote text) = doubled mark text := by
  induction text with
  | nil => rfl
  | cons c text ih =>
    by_cases isMark : c = mark
    · subst isMark
      -- neither of the two marks has a quote behind it
      rw [escape_special (.inl rfl), replaceFrom_mark (by simpa using distinct),
        replaceFrom_mark (escape_head distinct text), ih]
      simp [doubled]
    · by_cases isQuote : c = quote
      · subst isQuote
        rw [escape_special (.inr rfl), replaceFrom_pair, ih]
        simp [doubled, isMark]
      · rw [escape_plain (by simp [isMark, isQuote]), replaceFrom_other isMark, ih]
        simp [doubled, isMark]

/-- The second one takes one mark of each pair. -/
theorem replace_marks (text : List α) :
    replaceFrom [mark, mark] [mark] 0 (doubled mark text) = text := by
  induction text with
  | nil => rfl
  | cons c text ih =>
    by_cases isMark : c = mark
    · subst isMark
      rw [doubled, if_pos rfl, replaceFrom_pair, ih]
      rfl
    · rw [doubled, if_neg isMark, replaceFrom_other isMark, ih]

/-- Both replacements together undo the escaping. -/
theorem replace_escape (distinct : mark ≠ quote) (text : List α) :
    replaceFrom [mark, mark] [mark] 0
      (replaceFrom [mark, quote] [quote] 0 (escape mark quote text)) = text := by
  rw [replace_quotes distinct, replace_marks]

/-- What the text does not have comes in by no escaping. -/
theorem mem_escape {c : α} {text : List α} (member : c ∈ escape mark quote text) :
    c = mark ∨ c ∈ text := by
  obtain ⟨d, listed, inside⟩ := List.mem_flatMap.mp member
  split at inside
  · rcases List.mem_cons.mp inside with same | last
    · exact .inl same
    · exact .inr (List.mem_singleton.mp last ▸ listed)
  · exact .inr (List.mem_singleton.mp inside ▸ listed)

end SimpleVM.Text
