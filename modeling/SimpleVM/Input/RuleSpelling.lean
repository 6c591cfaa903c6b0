import SimpleVM.Input.CanonicalRules

/-!
# Spellings of a shortcut

A shortcut can be written with its modifiers in any order and more than once, under other names and
in other letters, and with a symbol or with Shift and the key of the symbol. The parser reads one
chord from all of them.
-/
namespace SimpleVM.Input

open Swift

/-- White space in ASCII. -/
def isBlank (c : Char) : Bool := c = ' ' || decide (9 ≤ c.toNat ∧ c.toNat ≤ 13)

/-- Words that are not empty, with blanks around them at most. -/
structure Words where
  modifiers : List (List Char)
  key : List Char
  plain : ∀ word ∈ modifiers ++ [key], ∀ c ∈ word, IsASCII c ∧ c ≠ '\r' ∧ c ≠ '+'
  written : ∀ word ∈ modifiers ++ [key], ∃ c ∈ word, isBlank c = false

/-- The words with plus signs between them. -/
def Words.text (w : Words) : List Char := w.modifiers.flatMap (fun word => word ++ ['+']) ++ w.key

/-- The spelling of a shortcut. -/
structure Spelling extends Words where
  arrowless : ¬['-', '>'] <:+: toWords.text

/-- A word without blanks around it, in lower case. -/
def nameOf (word : List Char) : List Char := (Text.trim isBlank word).map Char.toLower

def modifierAliases : List (List String) :=
  [["cmd", "command", "super", "win", "windows"], ["ctrl", "control"], ["alt", "option"]]

def keyAliases : List (List String) :=
  [["return", "enter"], ["escape", "esc"], ["delete", "forwarddelete"], ["colon", ":"],
    ["semicolon", ";"], ["minus", "-"], ["equal", "="], ["slash", "/"], ["backslash", "\\"],
    ["comma", ","], ["period", "."], ["quote", "'"]]

/-- The words are one, or two names of one thing. -/
def SameName (aliases : List (List String)) (word other : List Char) : Prop :=
  nameOf word = nameOf other ∨
    ∃ names ∈ aliases, String.ofList (nameOf word) ∈ names ∧ String.ofList (nameOf other) ∈ names

/-- Two spellings of one shortcut. -/
inductive Respelled : Spelling → Spelling → Prop
  /-- Other names in another order. -/
  | names {s t : Spelling}
    (here : ∀ word ∈ s.modifiers, ∃ other ∈ t.modifiers, SameName modifierAliases word other)
    (there : ∀ word ∈ t.modifiers, ∃ other ∈ s.modifiers, SameName modifierAliases word other)
    (key : SameName keyAliases s.key t.key) : Respelled s t
  /-- A symbol, or Shift and its key. -/
  | symbol {s t : Spelling} {symbol base : Char} {keyCode : UInt16} {shift : List Char}
    (shifted : (symbol, keyCode) ∈ GuestTextEncoder.shifted)
    (unshifted : (base, keyCode) ∈ GuestTextEncoder.unshifted)
    (before : nameOf s.key = [symbol]) (after : nameOf t.key = [base])
    (named : String.ofList (nameOf shift) = "shift")
    (modifiers : t.modifiers = s.modifiers ++ [shift]) : Respelled s t
  | symm {s t : Spelling} (same : Respelled s t) : Respelled t s
  | trans {s t v : Spelling} (first : Respelled s t) (second : Respelled t v) : Respelled s v

/-! ## What a spelling means -/

namespace KeyboardProfileRuleParser

variable {u : Unicode}

/-- The modifiers that all of the names stand for. -/
def flagsOfNames : List (List Char) → ModifierFlags → Option ModifierFlags
  | [], modifiers => some modifiers
  | name :: rest, modifiers =>
    match modifierNamed (String.ofList name) with
    | some flag => flagsOfNames rest (modifiers.union flag)
    | none => none

/-- The chord of a key's name. -/
def keyChord (name : List Char) : Option GuestChord :=
  match name with
  | [c] => (GuestTextEncoder.chord [c]).toOption
  | _ =>
    match GuestTextEncoder.namedCharacters.lookup (String.ofList name) with
    | some character => (GuestTextEncoder.chord [character]).toOption
    | none =>
      (GuestTextEncoder.namedKeyCodes.lookup (String.ofList name)).map fun keyCode =>
        ⟨keyCode, .empty⟩

/-- The chord of words. -/
def chordOf (w : Words) : Option GuestChord :=
  (flagsOfNames (w.modifiers.map nameOf) .empty).bind fun modifiers =>
    (keyChord (nameOf w.key)).map fun key => ⟨key.keyCode, modifiers.union key.modifiers⟩

/-- All names are known, and each stands for one of the modifiers. -/
theorem flagsOfNames_bits {names : List (List Char)} (start : ModifierFlags)
    (known : ∀ name ∈ names, modifierNamed (String.ofList name) ≠ none) :
    ∃ flags, flagsOfNames names start = some flags ∧ ∀ i, flags.rawValue.getLsbD i = true ↔
      start.rawValue.getLsbD i = true ∨ ∃ name ∈ names, ∃ flag,
        modifierNamed (String.ofList name) = some flag ∧ flag.rawValue.getLsbD i = true := by
  induction names generalizing start with
  | nil => exact ⟨start, rfl, by simp⟩
  | cons name names ih =>
    have here := known name List.mem_cons_self
    cases found : modifierNamed (String.ofList name) with
    | none => exact absurd found here
    | some flag =>
      obtain ⟨flags, read, bits⟩ := ih (start.union flag)
        fun other listed => known other (List.mem_cons_of_mem _ listed)
      refine ⟨flags, by simp only [flagsOfNames, found, read], fun i => ?_⟩
      rw [bits]
      simp only [ModifierFlags.union, BitVec.getLsbD_or, Bool.or_eq_true, List.mem_cons,
        exists_eq_or_imp, found, Option.some.injEq, exists_eq_left', or_assoc]

theorem flagsOfNames_none {names : List (List Char)} {start : ModifierFlags}
    (unknown : ∃ name ∈ names, modifierNamed (String.ofList name) = none) :
    flagsOfNames names start = none := by
  induction names generalizing start with
  | nil =>
    obtain ⟨name, listed, -⟩ := unknown
    cases listed
  | cons name names ih =>
    simp only [flagsOfNames]
    cases found : modifierNamed (String.ofList name) with
    | none => rfl
    | some flag =>
      apply ih
      obtain ⟨other, listed, isNone⟩ := unknown
      rcases List.mem_cons.mp listed with rfl | later
      · rw [found] at isNone
        cases isNone
      · exact ⟨other, later, isNone⟩

/-- Only the set of modifiers matters. -/
theorem flagsOfNames_congr {names names' : List (List Char)} {start : ModifierFlags}
    (here : ∀ name ∈ names, ∃ other ∈ names',
      modifierNamed (String.ofList name) = modifierNamed (String.ofList other))
    (there : ∀ name ∈ names', ∃ other ∈ names,
      modifierNamed (String.ofList name) = modifierNamed (String.ofList other)) :
    flagsOfNames names start = flagsOfNames names' start := by
  -- An unknown name on one side is unknown on the other; otherwise both sides have the same bits.
  by_cases unknown : ∃ name ∈ names, modifierNamed (String.ofList name) = none
  · have unknown' : ∃ name ∈ names', modifierNamed (String.ofList name) = none := by
      obtain ⟨name, listed, isNone⟩ := unknown
      obtain ⟨other, listed', same⟩ := here name listed
      exact ⟨other, listed', same ▸ isNone⟩
    rw [flagsOfNames_none unknown, flagsOfNames_none unknown']
  · have known : ∀ name ∈ names, modifierNamed (String.ofList name) ≠ none :=
      fun name listed isNone => unknown ⟨name, listed, isNone⟩
    have known' : ∀ name ∈ names', modifierNamed (String.ofList name) ≠ none := by
      intro name listed isNone
      obtain ⟨other, listed', same⟩ := there name listed
      exact known other listed' (same ▸ isNone)
    obtain ⟨flags, read, bits⟩ := flagsOfNames_bits start known
    obtain ⟨flags', read', bits'⟩ := flagsOfNames_bits start known'
    rw [read, read']
    apply congrArg some
    apply ModifierFlags.ext_bits
    intro i
    apply Bool.eq_iff_iff.mpr
    rw [bits, bits']
    apply or_congr Iff.rfl
    constructor
    · rintro ⟨name, listed, flag, found, set⟩
      obtain ⟨other, listed', same⟩ := here name listed
      exact ⟨other, listed', flag, same ▸ found, set⟩
    · rintro ⟨name, listed, flag, found, set⟩
      obtain ⟨other, listed', same⟩ := there name listed
      exact ⟨other, listed', flag, same ▸ found, set⟩

theorem flagsOfNames_append (names more : List (List Char)) (start : ModifierFlags) :
    flagsOfNames (names ++ more) start =
      (flagsOfNames names start).bind fun flags => flagsOfNames more flags := by
  induction names generalizing start with
  | nil => rfl
  | cons name names ih =>
    simp only [List.cons_append, flagsOfNames]
    cases modifierNamed (String.ofList name) with
    | none => rfl
    | some flag => exact ih _

/-- Two names of one modifier stand for it. -/
theorem modifierNamed_same {word other : List Char}
    (same : SameName modifierAliases word other) :
    modifierNamed (String.ofList (nameOf word)) = modifierNamed (String.ofList (nameOf other)) := by
  have all : ∀ names ∈ modifierAliases, ∀ a ∈ names, ∀ b ∈ names,
      modifierNamed a = modifierNamed b := by decide +kernel
  rcases same with equal | ⟨names, listed, first, second⟩
  · rw [equal]
  · exact all names listed _ first _ second

theorem keyChord_same {word other : List Char} (same : SameName keyAliases word other) :
    keyChord (nameOf word) = keyChord (nameOf other) := by
  have all : ∀ names ∈ keyAliases, ∀ a ∈ names, ∀ b ∈ names,
      keyChord a.toList = keyChord b.toList := by decide +kernel
  rcases same with equal | ⟨names, listed, first, second⟩
  · rw [equal]
  · have chords := all names listed _ first _ second
    simpa using chords

/-- A symbol is typed with Shift and its key. -/
theorem keyChord_symbol {symbol base : Char} {keyCode : UInt16}
    (shifted : (symbol, keyCode) ∈ GuestTextEncoder.shifted)
    (unshifted : (base, keyCode) ∈ GuestTextEncoder.unshifted) :
    keyChord [symbol] = some ⟨keyCode, .shift⟩ ∧ keyChord [base] = some ⟨keyCode, .empty⟩ := by
  have symbols : ∀ entry ∈ GuestTextEncoder.shifted,
      keyChord [entry.1] = some ⟨entry.2, .shift⟩ := by decide +kernel
  have bases : ∀ entry ∈ GuestTextEncoder.unshifted,
      keyChord [entry.1] = some ⟨entry.2, .empty⟩ := by decide +kernel
  exact ⟨symbols _ shifted, bases _ unshifted⟩

/-- All spellings of a shortcut mean one chord. -/
theorem chordOf_respelled {s t : Spelling} (same : Respelled s t) :
    chordOf s.toWords = chordOf t.toWords := by
  -- On the steps of respelling: other names for the same keys, or a shifted symbol written as the
  -- shift and its base.
  induction same with
  | @names s t here there key =>
    unfold chordOf
    have flags : flagsOfNames (s.modifiers.map nameOf) .empty =
        flagsOfNames (t.modifiers.map nameOf) .empty := by
      apply flagsOfNames_congr
      · intro name listed
        obtain ⟨word, member, rfl⟩ := List.mem_map.mp listed
        obtain ⟨other, member', alike⟩ := here word member
        exact ⟨nameOf other, List.mem_map_of_mem member', modifierNamed_same alike⟩
      · intro name listed
        obtain ⟨word, member, rfl⟩ := List.mem_map.mp listed
        obtain ⟨other, member', alike⟩ := there word member
        exact ⟨nameOf other, List.mem_map_of_mem member', modifierNamed_same alike⟩
    rw [flags, keyChord_same key]
  | @symbol s t symbol base keyCode shift shifted unshifted before after named modifiers =>
    unfold chordOf
    obtain ⟨ofSymbol, ofBase⟩ := keyChord_symbol shifted unshifted
    rw [before, after, ofSymbol, ofBase, modifiers, List.map_append, flagsOfNames_append]
    cases flagsOfNames (s.modifiers.map nameOf) .empty with
    | none => rfl
    | some flags =>
      have isShift : modifierNamed (String.ofList (nameOf shift)) = some .shift := by
        rw [named]
        decide
      have empty : (flags.union .shift).union .empty = flags.union .shift := by
        simp [ModifierFlags.union, ModifierFlags.empty]
      simp only [List.map_cons, List.map_nil, flagsOfNames, isShift, Option.bind_some,
        Option.map_some, empty]
  | symm _ ih => exact ih.symm
  | trans _ _ first second => exact first.trans second

/-! ## Reading a spelling -/

theorem blank_iff (u : Unicode) {c : Char} (ascii : IsASCII c) :
    u.isWhitespaceOrNewline c = isBlank c := by
  apply Bool.eq_iff_iff.mpr
  rw [u.whitespace_ascii c ascii]
  simp [isBlank]

theorem canonical_ascii {c : Char} (ascii : IsASCII c) : canonical c = c := by
  unfold canonical
  have apart : ∀ d : Char, ¬IsASCII d → c ≠ d := by
    rintro d other rfl
    exact other ascii
  rw [if_neg (apart _ (by decide)), if_neg (apart _ (by decide)), if_neg (apart _ (by decide))]

variable {word : List Char}

theorem trimmed_plain (ascii : ∀ c ∈ word, IsASCII c) : u.trimmed word = Text.trim isBlank word :=
  Text.trim_congr fun c member => blank_iff u (ascii c member)

theorem lowercased_plain (ascii : ∀ c ∈ word, IsASCII c) :
    u.lowercased (u.trimmed word) = nameOf word := by
  rw [trimmed_plain ascii, u.lowercased_ascii]
  · rfl
  · exact fun c member => ascii c (Text.mem_of_mem_trim member)

/-- A plain text is read scalar by scalar. -/
theorem characters_plain (plain : ∀ c ∈ word, IsASCII c ∧ c ≠ '\r') :
    u.characters word = word.map fun c => [c] := by
  apply u.characters_single
  intro character listed
  have ascii : ∀ c ∈ word, IsASCII (canonical c) := by
    intro c member
    rw [canonical_ascii (plain c member).1]
    exact (plain c member).1
  rcases u.apart word ascii character listed with rfl | single
  · have member : '\r' ∈ word := u.mem_text.mpr ⟨_, listed, by simp⟩
    exact absurd rfl (plain _ member).2
  · exact single

theorem flagsOf_names {words : List (List Char)} {start : ModifierFlags}
    (ascii : ∀ word ∈ words, ∀ c ∈ word, IsASCII c) :
    flagsOf u (words.map u.trimmed) start = flagsOfNames (words.map nameOf) start := by
  induction words generalizing start with
  | nil => rfl
  | cons word words ih =>
    simp only [List.map_cons, flagsOf, flagsOfNames, lowercased_plain (ascii word List.mem_cons_self)]
    cases modifierNamed (String.ofList (nameOf word)) with
    | none => rfl
    | some flag => exact ih fun other listed => ascii other (List.mem_cons_of_mem _ listed)

theorem toLower_plain {c : Char} (plain : IsASCII c ∧ c ≠ '\r') :
    IsASCII c.toLower ∧ c.toLower ≠ '\r' := by
  have all : ∀ n : Fin 128, Char.ofNat n ≠ '\r' →
      IsASCII (Char.ofNat n).toLower ∧ (Char.ofNat n).toLower ≠ '\r' := by decide +kernel
  have here := all ⟨c.toNat, plain.1⟩
  rw [Char.ofNat_toNat] at here
  exact here plain.2

/-- The chord of a key is that of its name. -/
theorem chordForKeyName_plain (plain : ∀ c ∈ word, IsASCII c ∧ c ≠ '\r')
    (written : ∃ c ∈ word, isBlank c = false) :
    (GuestTextEncoder.chordForKeyName u (u.trimmed word)).toOption = keyChord (nameOf word) := by
  have ascii : ∀ c ∈ word, IsASCII c := fun c member => (plain c member).1
  have twice : u.trimmed (u.trimmed word) = u.trimmed word := by
    apply Text.trim_trim
    obtain ⟨c, member, other⟩ := written
    exact ⟨c, member, (blank_iff u (ascii c member)).trans other⟩
  have named : ∀ c ∈ nameOf word, IsASCII c ∧ c ≠ '\r' := by
    intro c member
    obtain ⟨d, inside, rfl⟩ := List.mem_map.mp member
    exact toLower_plain (plain d (Text.mem_of_mem_trim inside))
  unfold GuestTextEncoder.chordForKeyName keyChord
  simp only
  rw [twice, lowercased_plain ascii, characters_plain named]
  cases nameOf word with
  | nil => rfl
  | cons c rest =>
    cases rest with
    | nil => rfl
    | cons d rest =>
      simp only [List.map_cons]
      cases GuestTextEncoder.namedCharacters.lookup (String.ofList (c :: d :: rest)) with
      | some character => rfl
      | none =>
        simp only
        cases GuestTextEncoder.namedKeyCodes.lookup (String.ofList (c :: d :: rest)) with
        | none => rfl
        | some keyCode => rfl

/-- The trimmed words are read as their names. -/
theorem readParts_words (w : Words) :
    readParts u ((w.modifiers ++ [w.key]).map u.trimmed) = chordOf w := by
  have ascii : ∀ word ∈ w.modifiers, ∀ c ∈ word, IsASCII c := fun word listed c member =>
    (w.plain word (List.mem_append_left _ listed) c member).1
  have keyListed : w.key ∈ w.modifiers ++ [w.key] := by simp
  have keyPlain : ∀ c ∈ w.key, IsASCII c ∧ c ≠ '\r' := fun c member =>
    ⟨(w.plain _ keyListed c member).1, (w.plain _ keyListed c member).2.1⟩
  have keyWritten : (u.trimmed w.key).isEmpty = false := by
    rw [trimmed_plain fun c member => (keyPlain c member).1]
    exact List.isEmpty_eq_false_iff.mpr (Text.trim_ne_nil (w.written _ keyListed))
  unfold readParts chordOf
  rw [List.map_append, List.map_singleton, List.getLast?_concat, List.dropLast_concat]
  simp only [keyWritten, flagsOf_names ascii,
    chordForKeyName_plain keyPlain (w.written _ keyListed)]
  rfl

theorem splitOnP_singles (p : List Char → Bool) (text : List Char) :
    ((text.map fun c => [c]).splitOnP p).map List.flatten = text.splitOnP fun c => p [c] := by
  induction text with
  | nil => rfl
  | cons c text ih =>
    rw [List.map_cons, List.splitOnP_cons_eq_if_modifyHead, List.splitOnP_cons_eq_if_modifyHead,
      ← ih]
    split
    · rfl
    · cases (text.map fun c => [c]).splitOnP p with
      | nil => rfl
      | cons first rest => rfl

theorem splitOnP_words {p : Char → Bool} (plus : p '+' = true) {words : List (List Char)}
    {key : List Char} (others : ∀ word ∈ words ++ [key], ∀ c ∈ word, p c = false) :
    (words.flatMap (fun word => word ++ ['+']) ++ key).splitOnP p = words ++ [key] := by
  induction words with
  | nil => exact List.splitOnP_eq_singleton (others key (by simp))
  | cons word words ih =>
    have rest := ih fun other listed => others other (List.mem_cons_of_mem _ listed)
    rw [List.flatMap_cons, List.append_assoc, List.append_assoc, List.singleton_append,
      List.splitOnP_append_cons_of_forall_mem (others word List.mem_cons_self) _ plus, rest]
    rfl

theorem mem_text {w : Words} {c : Char} (member : c ∈ w.text) :
    c = '+' ∨ ∃ word ∈ w.modifiers ++ [w.key], c ∈ word := by
  rcases List.mem_append.mp member with front | key
  · obtain ⟨word, listed, inside⟩ := List.mem_flatMap.mp front
    rcases List.mem_append.mp inside with inside | plus
    · exact .inr ⟨word, List.mem_append_left _ listed, inside⟩
    · exact .inl (List.mem_singleton.mp plus)
  · exact .inr ⟨w.key, by simp, key⟩

theorem text_plain (w : Words) : ∀ c ∈ w.text, IsASCII c ∧ c ≠ '\r' := by
  intro c member
  rcases mem_text member with rfl | ⟨word, listed, inside⟩
  · decide
  · exact ⟨(w.plain word listed c inside).1, (w.plain word listed c inside).2.1⟩

/-- The words of a shortcut are read as its chord. -/
theorem shortcut_words (w : Words) : shortcut u w.text = chordOf w := by
  have words : parts u w.text = (w.modifiers ++ [w.key]).map u.trimmed := by
    unfold parts Unicode.split
    rw [characters_plain (text_plain w), splitOnP_singles, Words.text, splitOnP_words]
    · rw [List.filter_eq_self.mpr]
      intro word listed
      obtain ⟨c, member, -⟩ := w.written word listed
      simp [List.ne_nil_of_mem member]
    · decide
    · intro word listed c member
      obtain ⟨ascii, -, other⟩ := w.plain word listed c member
      simp [isCharacter, canonical_ascii ascii, other]
  unfold shortcut
  rw [words]
  exact readParts_words w

/-! ## Blanks at the ends -/

/-- A change of a word that leaves its name and keeps it a word. -/
structure Keeps (change : List Char → List Char) : Prop where
  plain : ∀ word, (∀ c ∈ word, IsASCII c ∧ c ≠ '\r' ∧ c ≠ '+') →
    ∀ c ∈ change word, IsASCII c ∧ c ≠ '\r' ∧ c ≠ '+'
  written : ∀ word, (∃ c ∈ word, isBlank c = false) → ∃ c ∈ change word, isBlank c = false
  name : ∀ word, (∃ c ∈ word, isBlank c = false) → nameOf (change word) = nameOf word

/-- A change of the first word changes the text in front, and not the chord. -/
theorem exists_first {change W : List Char → List Char} (keeps : Keeps change)
    (front : ∀ word rest, (∃ c ∈ word, isBlank c = false) →
      W (word ++ rest) = change word ++ rest) (w : Words) :
    ∃ w' : Words, w'.text = W w.text ∧ chordOf w' = chordOf w := by
  obtain ⟨modifiers, key, plain, written⟩ := w
  -- The first word is the key itself, or the first of the modifiers.
  cases modifiers with
  | nil =>
    have keyPlain := plain key (by simp)
    have keyWritten := written key (by simp)
    refine ⟨⟨[], change key, ?_, ?_⟩, ?_, ?_⟩
    · intro word listed
      cases List.mem_singleton.mp listed
      exact keeps.plain key keyPlain
    · intro word listed
      cases List.mem_singleton.mp listed
      exact keeps.written key keyWritten
    · have changed := front key [] keyWritten
      rw [List.append_nil, List.append_nil] at changed
      exact changed.symm
    · simp only [chordOf, keeps.name key keyWritten]
  | cons first modifiers =>
    have firstPlain := plain first (by simp)
    have firstWritten := written first (by simp)
    refine ⟨⟨change first :: modifiers, key, ?_, ?_⟩, ?_, ?_⟩
    · intro word listed
      rcases List.mem_cons.mp listed with rfl | later
      · exact keeps.plain first firstPlain
      · exact plain word (List.mem_cons_of_mem _ later)
    · intro word listed
      rcases List.mem_cons.mp listed with rfl | later
      · exact keeps.written first firstWritten
      · exact written word (List.mem_cons_of_mem _ later)
    · simp only [Words.text, List.flatMap_cons, List.append_assoc]
      rw [front first _ firstWritten]
    · simp only [chordOf, List.map_cons, keeps.name first firstWritten]

/-- A change of the key changes the text at the end. -/
theorem exists_last {change W : List Char → List Char} (keeps : Keeps change)
    (back : ∀ rest word, (∃ c ∈ word, isBlank c = false) →
      W (rest ++ word) = rest ++ change word) (w : Words) :
    ∃ w' : Words, w'.text = W w.text ∧ chordOf w' = chordOf w := by
  obtain ⟨modifiers, key, plain, written⟩ := w
  have keyPlain := plain key (by simp)
  have keyWritten := written key (by simp)
  refine ⟨⟨modifiers, change key, ?_, ?_⟩, ?_, ?_⟩
  · intro word listed
    rcases List.mem_append.mp listed with modifier | isKey
    · exact plain word (List.mem_append_left _ modifier)
    · cases List.mem_singleton.mp isKey
      exact keeps.plain key keyPlain
  · intro word listed
    rcases List.mem_append.mp listed with modifier | isKey
    · exact written word (List.mem_append_left _ modifier)
    · cases List.mem_singleton.mp isKey
      exact keeps.written key keyWritten
  · exact (back _ key keyWritten).symm
  · simp only [chordOf, keeps.name key keyWritten]

theorem blank_space : ∀ c ∈ [' '], isBlank c = true := by
  intro c listed
  cases List.mem_singleton.mp listed
  decide

theorem keeps_padLeft : Keeps fun word => [' '] ++ word where
  plain := by
    intro word plain c member
    rcases List.mem_append.mp member with space | inside
    · cases List.mem_singleton.mp space
      decide
    · exact plain c inside
  written := by
    rintro word ⟨c, member, other⟩
    exact ⟨c, List.mem_append_right _ member, other⟩
  name := by
    intro word _
    unfold nameOf
    rw [Text.trim_append_left blank_space]

theorem keeps_padRight : Keeps fun word => word ++ [' '] where
  plain := by
    intro word plain c member
    rcases List.mem_append.mp member with inside | space
    · exact plain c inside
    · cases List.mem_singleton.mp space
      decide
  written := by
    rintro word ⟨c, member, other⟩
    exact ⟨c, List.mem_append_left _ member, other⟩
  name := by
    intro word written
    unfold nameOf
    rw [Text.trim_append_right blank_space written]

theorem keeps_dropWhile : Keeps fun word => word.dropWhile isBlank where
  plain := fun word plain c member => plain c ((List.dropWhile_suffix _).subset member)
  written := fun _ written => Text.exists_dropWhile written
  name := by
    intro word _
    unfold nameOf
    rw [Text.trim_dropWhile]

theorem keeps_trimEnd : Keeps fun word => Text.trimEnd isBlank word where
  plain := fun word plain c member => plain c (Text.mem_of_mem_trimEnd member)
  written := fun _ written => Text.exists_trimEnd written
  name := by
    intro word written
    unfold nameOf
    rw [Text.trim_trimEnd written]

/-- A shortcut on the left of an arrow, with the line trimmed. -/
theorem shortcut_left (w : Words) :
    shortcut u ((w.text ++ [' ']).dropWhile u.isWhitespaceOrNewline) = chordOf w := by
  obtain ⟨padded, text, chord⟩ := exists_last (W := fun text => text ++ [' ']) keeps_padRight
    (fun rest word _ => List.append_assoc rest word [' ']) w
  obtain ⟨dropped, text', chord'⟩ := exists_first (W := fun text => text.dropWhile isBlank)
    keeps_dropWhile (fun _ _ written => Text.dropWhile_append_of_exists written) padded
  have blanks : ∀ c ∈ padded.text, u.isWhitespaceOrNewline c = isBlank c :=
    fun c member => blank_iff u (text_plain padded c member).1
  rw [← text, Text.dropWhile_congr blanks, ← text', shortcut_words, chord', chord]

/-- And on its right. -/
theorem shortcut_right (w : Words) :
    shortcut u (Text.trimEnd u.isWhitespaceOrNewline ([' '] ++ w.text)) = chordOf w := by
  obtain ⟨padded, text, chord⟩ := exists_first (W := fun text => [' '] ++ text) keeps_padLeft
    (fun word rest _ => (List.append_assoc [' '] word rest).symm) w
  obtain ⟨trimmed, text', chord'⟩ := exists_last (W := fun text => Text.trimEnd isBlank text)
    keeps_trimEnd (fun _ _ written => Text.trimEnd_append written) padded
  have blanks : ∀ c ∈ padded.text, u.isWhitespaceOrNewline c = isBlank c :=
    fun c member => blank_iff u (text_plain padded c member).1
  rw [← text, Text.trimEnd_congr blanks, ← text', shortcut_words, chord', chord]

end KeyboardProfileRuleParser

end SimpleVM.Input
