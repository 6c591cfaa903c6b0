import SimpleVM.Input.RuleSpelling
import Mathlib.Data.List.Forall2

/-!
# Respelled rules

What a text of rules is parsed to is the same for every text with the same rules, in any order, in
any spelling, and with any blank lines and comments between them.
-/
namespace SimpleVM.Input

open Swift

namespace KeyboardProfileRuleParser

variable {u : Unicode}

theorem cut_ne_nil (separator text : List Char) (skipped : Nat) :
    cut separator skipped text ≠ [] := by
  induction text generalizing skipped with
  | nil => simp [cut]
  | cons c text ih =>
    cases skipped with
    | succ skipped => exact ih skipped
    | zero =>
      rw [cut]
      split
      · simp
      · cases pieces : cut separator 0 text with
        | nil => exact absurd pieces (ih 0)
        | cons first rest => simp

theorem modifyHead_append {α : Type} {f : α → α} {list more : List α} (nonempty : list ≠ []) :
    (list ++ more).modifyHead f = list.modifyHead f ++ more := by
  cases list with
  | nil => exact absurd rfl nonempty
  | cons first rest => rfl

/-- No arrow begins with the last scalar of the text, so that it comes apart after it. -/
theorem cut_arrow {text more : List Char} (last : text.getLast? ≠ some '-') {skipped : Nat}
    (within : skipped ≤ text.length) : cut ['-', '>'] skipped (text ++ '-' :: '>' :: more) =
      cut ['-', '>'] skipped text ++ cut ['-', '>'] 0 more := by
  induction text generalizing skipped with
  | nil =>
    have zero : skipped = 0 := by simpa using within
    subst zero
    simp [cut]
  | cons c text ih =>
    have later : text.getLast? ≠ some '-' := by
      cases text with
      | nil => simp
      | cons d text => simpa [List.getLast?_cons_cons] using last
    cases skipped with
    | succ skipped => exact ih later (Nat.le_of_succ_le_succ within)
    | zero =>
      -- An arrow that begins here ends within the text.
      have here : ['-', '>'].isPrefixOf (c :: (text ++ '-' :: '>' :: more)) =
          ['-', '>'].isPrefixOf (c :: text) := by
        cases text with
        | nil =>
          have other : c ≠ '-' := by simpa using last
          simp [List.isPrefixOf]
        | cons d text => simp [List.isPrefixOf]
      rw [List.cons_append, cut, cut, here]
      split
      · rename_i starts
        have one : 1 ≤ text.length := by
          cases text with
          | nil => simp [List.isPrefixOf] at starts
          | cons d text => simp
        rw [List.cons_append]
        exact congrArg _ (ih later one)
      · rw [ih later (Nat.zero_le _)]
        exact modifyHead_append (cut_ne_nil _ _ _)

theorem cut_arrowless {text : List Char} (arrowless : ¬['-', '>'] <:+: text) :
    components ['-', '>'] text = [text] := by
  unfold components
  induction text with
  | nil => rfl
  | cons c text ih =>
    have notHere : ['-', '>'].isPrefixOf (c :: text) = false := by
      apply Bool.eq_false_iff.mpr
      intro starts
      exact arrowless (List.isPrefixOf_iff_prefix.mp starts).isInfix
    have later : ¬['-', '>'] <:+: text := fun inside =>
      arrowless (List.infix_cons_iff.mpr (.inr inside))
    rw [cut, notHere, ih later]
    rfl

theorem arrowless_padRight {text : List Char} (arrowless : ¬['-', '>'] <:+: text) :
    ¬['-', '>'] <:+: text ++ [' '] := by
  intro inside
  rcases List.infix_concat_iff.mp inside with atEnd | before
  · obtain ⟨front, split⟩ := atEnd
    have ends := congrArg List.getLast? split
    simp at ends
  · exact arrowless before

theorem arrowless_padLeft {text : List Char} (arrowless : ¬['-', '>'] <:+: text) :
    ¬['-', '>'] <:+: [' '] ++ text := by
  intro inside
  rcases List.infix_cons_iff.mp inside with atStart | after
  · obtain ⟨rest, split⟩ := atStart
    have starts := congrArg List.head? split
    simp at starts
  · exact arrowless after

/-- One text, or two spellings of one shortcut. -/
def SameShortcut (text other : List Char) : Prop :=
  text = other ∨ ∃ s t : Spelling, text = s.text ∧ other = t.text ∧ Respelled s t

/-- One line, or one rule with its shortcuts spelled in two ways and blanks around the arrow. -/
def SameLine (line other : List Char) : Prop :=
  line = other ∨ ∃ host host' guest guest', SameShortcut host host' ∧ SameShortcut guest guest' ∧
    line = host ++ [' ', '-', '>', ' '] ++ guest ∧ other = host' ++ [' ', '-', '>', ' '] ++ guest'

/-- What the parts of a line on one side of the arrow are read as. -/
theorem left_same {host host' : List Char} (same : SameShortcut host host') :
    (components ['-', '>'] ((host ++ [' ']).dropWhile u.isWhitespaceOrNewline)).map (shortcut u) =
      (components ['-', '>'] ((host' ++ [' ']).dropWhile u.isWhitespaceOrNewline)).map
        (shortcut u) := by
  rcases same with rfl | ⟨s, t, rfl, rfl, respelled⟩
  · rfl
  have one : ∀ s : Spelling,
      components ['-', '>'] ((s.text ++ [' ']).dropWhile u.isWhitespaceOrNewline) =
        [(s.text ++ [' ']).dropWhile u.isWhitespaceOrNewline] := by
    intro s
    apply cut_arrowless
    intro inside
    exact arrowless_padRight s.arrowless (inside.trans (List.dropWhile_suffix _).isInfix)
  rw [one, one, List.map_singleton, List.map_singleton, shortcut_left, shortcut_left,
    chordOf_respelled respelled]

theorem right_same {guest guest' : List Char} (same : SameShortcut guest guest') :
    (components ['-', '>'] (Text.trimEnd u.isWhitespaceOrNewline ([' '] ++ guest))).map
        (shortcut u) =
      (components ['-', '>'] (Text.trimEnd u.isWhitespaceOrNewline ([' '] ++ guest'))).map
        (shortcut u) := by
  rcases same with rfl | ⟨s, t, rfl, rfl, respelled⟩
  · rfl
  have one : ∀ s : Spelling,
      components ['-', '>'] (Text.trimEnd u.isWhitespaceOrNewline ([' '] ++ s.text)) =
        [Text.trimEnd u.isWhitespaceOrNewline ([' '] ++ s.text)] := by
    intro s
    apply cut_arrowless
    intro inside
    obtain ⟨pad, split, -⟩ := Text.trimEnd_split u.isWhitespaceOrNewline ([' '] ++ s.text)
    apply arrowless_padLeft s.arrowless
    rw [split]
    exact inside.trans (List.prefix_append _ _).isInfix
  rw [one, one, List.map_singleton, List.map_singleton, shortcut_right, shortcut_right,
    chordOf_respelled respelled]

/-- A line with an arrow is read in two halves. -/
theorem components_line (u : Unicode) (host guest : List Char) :
    components ['-', '>'] (u.trimmed (host ++ [' ', '-', '>', ' '] ++ guest)) =
      components ['-', '>'] ((host ++ [' ']).dropWhile u.isWhitespaceOrNewline) ++
        components ['-', '>'] (Text.trimEnd u.isWhitespaceOrNewline ([' '] ++ guest)) := by
  have dash : u.isWhitespaceOrNewline '-' = false := by
    rw [blank_iff u (by decide)]
    decide
  have greater : u.isWhitespaceOrNewline '>' = false := by
    rw [blank_iff u (by decide)]
    decide
  have halves : u.trimmed (host ++ [' ', '-', '>', ' '] ++ guest) =
      (host ++ [' ']).dropWhile u.isWhitespaceOrNewline ++ '-' :: '>' ::
        Text.trimEnd u.isWhitespaceOrNewline ([' '] ++ guest) := by
    have around : host ++ [' ', '-', '>', ' '] ++ guest =
        (host ++ [' ']) ++ '-' :: ([] ++ '>' :: ([' '] ++ guest)) := by simp
    unfold Unicode.trimmed Text.trim
    rw [around, Text.dropWhile_append_cons dash, Text.trimEnd_append_cons dash,
      Text.trimEnd_append_cons greater]
    rfl
  rw [halves]
  apply cut_arrow
  · -- What is left of the text in front of the arrow ends with the blank.
    obtain ⟨dropped, split⟩ := List.dropWhile_suffix u.isWhitespaceOrNewline (l := host ++ [' '])
    have ends := congrArg List.getLast? split
    rw [List.getLast?_append, List.getLast?_concat] at ends
    intro isDash
    rw [isDash] at ends
    cases ends
  · exact Nat.zero_le _

/-- A line means the same however its shortcuts are spelled. -/
theorem meaning_same {line other : List Char} (same : SameLine line other)
    (read : significant u line = true) (read' : significant u other = true) :
    meaning u line = meaning u other := by
  rcases same with rfl | ⟨host, host', guest, guest', hosts, guests, rfl, rfl⟩
  · rfl
  simp only [significant, Bool.not_eq_true'] at read read'
  unfold meaning
  rw [parseLine_toOption, parseLine_toOption, read, read', components_line, components_line,
    List.map_append, List.map_append, left_same hosts, right_same guests]

/-! ## Respelled texts -/

/-- The lines of two texts are the same but for their order, for spelling, and for blank lines and
comments. -/
def SameRules (u : Unicode) (rules rules' : List Char) : Prop :=
  ∃ ordered, ((lines u rules).filter (significant u)).Perm ordered ∧
    List.Forall₂ SameLine ordered ((lines u rules').filter (significant u))

/-- A line that is not significant is skipped. -/
theorem meaning_skipped {line : List Char} (skipped : significant u line = false) :
    meaning u line = some none := by
  simp only [significant, Bool.not_eq_false'] at skipped
  unfold meaning
  rw [parseLine_toOption, if_pos skipped]

theorem rulesOf_significant (u : Unicode) (lines : List (List Char)) :
    rulesOf u (lines.filter (significant u)) = rulesOf u lines := by
  induction lines with
  | nil => rfl
  | cons line lines ih =>
    unfold rulesOf at ih ⊢
    cases read : significant u line with
    | true => rw [List.filter_cons_of_pos read, List.filterMap_cons, List.filterMap_cons, ih]
    | false =>
      rw [List.filter_cons_of_neg (by simp [read]), List.filterMap_cons, meaning_skipped read, ih]
      rfl

theorem refused_significant (lines : List (List Char)) :
    (∀ line ∈ lines, meaning u line ≠ none) ↔
      ∀ line ∈ lines.filter (significant u), meaning u line ≠ none := by
  constructor
  · exact fun all line listed => all line (List.mem_filter.mp listed).1
  · intro all line listed
    cases read : significant u line with
    | true => exact all line (List.mem_filter.mpr ⟨listed, read⟩)
    | false => simp [meaning_skipped read]

theorem rulesOf_perm {lines lines' : List (List Char)} (perm : lines.Perm lines') :
    (rulesOf u lines).Perm (rulesOf u lines') := perm.filterMap _

/-- Lines that mean the same give the same rules. -/
theorem meanings_same {lines lines' : List (List Char)} (same : List.Forall₂ SameLine lines lines')
    (read : ∀ line ∈ lines, significant u line = true)
    (read' : ∀ line ∈ lines', significant u line = true) :
    lines.map (meaning u) = lines'.map (meaning u) := by
  induction same with
  | nil => rfl
  | cons alike _ ih =>
    have here := meaning_same alike (read _ List.mem_cons_self) (read' _ List.mem_cons_self)
    have later := ih (fun line listed => read line (List.mem_cons_of_mem _ listed))
      (fun line listed => read' line (List.mem_cons_of_mem _ listed))
    rw [List.map_cons, List.map_cons, here, later]

/-- Texts with the same rules are both refused, or have the same rules in another order. -/
theorem SameRules.rules {rules rules' : List Char} (same : SameRules u rules rules') :
    ((∀ line ∈ lines u rules, meaning u line ≠ none) ↔
      ∀ line ∈ lines u rules', meaning u line ≠ none) ∧
    (rulesOf u (lines u rules)).Perm (rulesOf u (lines u rules')) := by
  obtain ⟨ordered, perm, alike⟩ := same
  have read : ∀ line ∈ ordered, significant u line = true := fun line listed =>
    (List.mem_filter.mp (perm.mem_iff.mpr listed)).2
  have meanings := meanings_same alike read fun line listed => (List.mem_filter.mp listed).2
  constructor
  · rw [refused_significant (lines u rules), refused_significant (lines u rules')]
    have accepted : ∀ list : List (List Char), (∀ line ∈ list, meaning u line ≠ none) ↔
        none ∉ list.map (meaning u) := by simp
    rw [accepted, accepted, ← meanings]
    exact not_congr (perm.map (meaning u)).mem_iff
  · rw [← rulesOf_significant u (lines u rules), ← rulesOf_significant u (lines u rules')]
    have collected : ∀ list : List (List Char),
        rulesOf u list = (list.map (meaning u)).filterMap Option.join := by
      intro list
      rw [List.filterMap_map]
      rfl
    have equal : rulesOf u ordered = rulesOf u ((lines u rules').filter (significant u)) := by
      rw [collected, collected, meanings]
    rw [← equal]
    exact rulesOf_perm perm

/-- The outcome does not depend on the spelling of the rules, nor on the order of a dictionary. -/
theorem parse_same {rules rules' : List Char} (same : SameRules u rules rules')
    (it it' : Iteration) : (parse u it rules).toOption = (parse u it' rules').toOption := by
  obtain ⟨accepted, perm⟩ := same.rules
  have distinct := (perm.map Prod.fst).nodup_iff
  have iff : ∀ entries, parse u it rules = .ok entries ↔ parse u it' rules' = .ok entries := by
    intro entries
    rw [parse_iff, parse_iff, accepted, distinct]
    apply and_congr_right
    intro _
    apply and_congr_right
    intro nodup
    have sorted := sortedEntries_eq it it'
      (((List.reverse_perm _).trans perm).trans (List.reverse_perm _).symm)
      (((List.reverse_perm _).map Prod.fst).nodup_iff.mpr (distinct.mpr nodup))
    rw [sorted]
  cases first : parse u it rules with
  | ok entries => rw [(iff entries).mp first]
  | error _ =>
    cases second : parse u it' rules' with
    | error _ => rfl
    | ok entries =>
      rw [(iff entries).mpr second] at first
      cases first

/-- Parsing is canonical: host chords are distinct and sorted, the outcome is that of the rules
however they are ordered and spelled, and no host chord is mapped twice. -/
theorem parse_canonical (u : Unicode) (rules : List Char) :
    (∀ it entries, parse u it rules = .ok entries →
      entries.Pairwise (fun a b => a.precedes b = true) ∧
        (entries.map KeyboardMappingEntry.host).Nodup) ∧
    (∀ it it' rules', SameRules u rules rules' →
      (parse u it rules).toOption = (parse u it' rules').toOption) ∧
    ∀ it front line between other back host guest guest',
      lines u rules = front ++ line :: (between ++ other :: back) →
      meaning u line = some (some (host, guest)) → meaning u other = some (some (host, guest')) →
      ∃ error, parse u it rules = .error error := by
  refine ⟨?_, fun it it' rules' same => parse_same same it it', ?_⟩
  · intro it entries accepted
    obtain ⟨-, distinct, rfl⟩ := parse_iff.mp accepted
    have reversed := ((List.reverse_perm (rulesOf u (lines u rules))).map Prod.fst).nodup_iff.mpr
      distinct
    refine ⟨sortedEntries_sorted reversed, ?_⟩
    have listed := (sortedEntries_perm it (rulesOf u (lines u rules)).reverse).map
      KeyboardMappingEntry.host
    rw [List.map_map] at listed
    exact listed.nodup_iff.mpr reversed
  · intro it front line between other back host guest guest' split reads reads'
    cases accepted : parse u it rules with
    | error error => exact ⟨error, rfl⟩
    | ok entries =>
      obtain ⟨-, distinct, -⟩ := parse_iff.mp accepted
      rw [split] at distinct
      simp only [rulesOf, List.filterMap_append, List.filterMap_cons, reads, reads',
        Option.join_some, List.map_append, List.map_cons] at distinct
      -- The rule of the later line is behind that of the earlier one.
      have later := (List.nodup_cons.mp (List.nodup_append.mp distinct).2.1).1
      exact absurd (by simp) later

theorem plain_of_all {words : List (List Char)}
    (all : words.all fun word => word.all fun c => decide (IsASCII c ∧ c ≠ '\r' ∧ c ≠ '+')) :
    ∀ word ∈ words, ∀ c ∈ word, IsASCII c ∧ c ≠ '\r' ∧ c ≠ '+' := by
  intro word listed c inside
  exact of_decide_eq_true (List.all_eq_true.mp (List.all_eq_true.mp all word listed) c inside)

theorem written_of_any {words : List (List Char)}
    (all : words.all fun word => word.any fun c => !isBlank c) :
    ∀ word ∈ words, ∃ c ∈ word, isBlank c = false := by
  intro word listed
  simpa using List.all_eq_true.mp all word listed

def shiftCommandA : Spelling where
  modifiers := ["shift".toList, "cmd".toList]
  key := "a".toList
  plain := plain_of_all (by decide +kernel)
  written := written_of_any (by decide +kernel)
  arrowless := by decide +kernel

/-- The same shortcut. -/
def commandShiftA : Spelling where
  modifiers := ["Command".toList, "Shift".toList]
  key := "A".toList
  plain := plain_of_all (by decide +kernel)
  written := written_of_any (by decide +kernel)
  arrowless := by decide +kernel

theorem respelled_shiftCommandA : Respelled shiftCommandA commandShiftA := by
  apply Respelled.names
  · intro word listed
    rcases List.mem_cons.mp listed with rfl | later
    · exact ⟨"Shift".toList, by decide +kernel, .inl (by decide +kernel)⟩
    · rw [List.mem_singleton.mp later]
      exact ⟨"Command".toList, by decide +kernel, .inr (by decide +kernel)⟩
  · intro word listed
    rcases List.mem_cons.mp listed with rfl | later
    · exact ⟨"cmd".toList, by decide +kernel, .inr (by decide +kernel)⟩
    · rw [List.mem_singleton.mp later]
      exact ⟨"shift".toList, by decide +kernel, .inl (by decide +kernel)⟩
  · exact .inl (by decide +kernel)

/-- Two rules. -/
def twoRules : List Char := "shift+cmd+a -> ctrl+c\nb -> ctrl+v".toList

/-- They again, in another order and spelling, behind a comment. -/
def respelledRules : List Char := "# copy\nb -> ctrl+v\nCommand+Shift+A -> ctrl+c".toList

/-- Two spellings of one host chord. -/
def doubledRules : List Char := "shift+cmd+a -> ctrl+c\nCommand+Shift+A -> ctrl+v".toList

/-- A dictionary that is iterated in the other order. -/
def backwards : Iteration := ⟨List.reverse, List.reverse_perm⟩

theorem sameRules_respelled : SameRules ascii twoRules respelledRules := by
  have written : (lines ascii twoRules).filter (significant ascii) =
      ["shift+cmd+a -> ctrl+c".toList, "b -> ctrl+v".toList] := by decide +kernel
  have rewritten : (lines ascii respelledRules).filter (significant ascii) =
      ["b -> ctrl+v".toList, "Command+Shift+A -> ctrl+c".toList] := by decide +kernel
  refine ⟨["b -> ctrl+v".toList, "shift+cmd+a -> ctrl+c".toList], ?_, ?_⟩
  · rw [written]
    exact .swap _ _ []
  · rw [rewritten]
    refine .cons (.inl rfl) (.cons (.inr ⟨shiftCommandA.text, commandShiftA.text, "ctrl+c".toList,
      "ctrl+c".toList, ?_, .inl rfl, by decide +kernel, by decide +kernel⟩) .nil)
    exact .inr ⟨shiftCommandA, commandShiftA, rfl, rfl, respelled_shiftCommandA⟩

/-- The rules are parsed to one result in both spellings, and refused where both are in one text. -/
theorem parse_canonical_respelled :
    (∃ entries, parse ascii inOrder twoRules = .ok entries ∧
      entries.Pairwise (fun a b => a.precedes b = true) ∧
      (parse ascii backwards respelledRules).toOption = some entries) ∧
    ∃ error, parse ascii inOrder doubledRules = .error error := by
  obtain ⟨sorted, spelled, -⟩ := parse_canonical ascii twoRules
  obtain ⟨-, -, refused⟩ := parse_canonical ascii doubledRules
  obtain ⟨entries, parsed⟩ : ∃ entries, parse ascii inOrder twoRules = .ok entries := ⟨_, rfl⟩
  have same := spelled inOrder backwards respelledRules sameRules_respelled
  rw [parsed] at same
  constructor
  · exact ⟨entries, parsed, (sorted inOrder entries parsed).1, same.symm⟩
  · exact refused inOrder [] "shift+cmd+a -> ctrl+c".toList [] "Command+Shift+A -> ctrl+v".toList []
      ⟨0, ModifierFlags.shift.union .command⟩ ⟨8, .control⟩ ⟨9, .control⟩ (by decide +kernel)
      (by decide +kernel) (by decide +kernel)

end KeyboardProfileRuleParser

end SimpleVM.Input
