import SimpleVM.Input.CustomKeyboardProfiles

/-!
# Canonical rules

What `parse` makes of a text depends on what its lines mean and not on where they stand: each line
is skipped, refused or means a rule, no two rules have one host chord, and the entries are sorted.
-/
namespace SimpleVM.Input

open Swift

/-! ## Sorted entries -/

theorem precedes_iff {a b : KeyboardMappingEntry} : a.precedes b = true ↔
    a.host.keyCode.toNat < b.host.keyCode.toNat ∨
      a.host.keyCode = b.host.keyCode ∧
        a.host.modifiers.rawValue.toNat < b.host.modifiers.rawValue.toNat := by
  unfold KeyboardMappingEntry.precedes
  by_cases same : a.host.keyCode = b.host.keyCode
  · simp [same, BitVec.lt_def]
  · simp [same, UInt16.lt_iff_toNat_lt]

theorem host_eq_iff {a b : HostChord} :
    a = b ↔ a.keyCode = b.keyCode ∧ a.modifiers.rawValue.toNat = b.modifiers.rawValue.toNat := by
  constructor
  · rintro rfl
    exact ⟨rfl, rfl⟩
  · rintro ⟨keyCode, modifiers⟩
    obtain ⟨code, flags⟩ := a
    obtain ⟨code', flags'⟩ := b
    obtain ⟨raw⟩ := flags
    obtain ⟨raw'⟩ := flags'
    simp only at keyCode modifiers
    rw [keyCode, BitVec.eq_of_toNat_eq modifiers]

theorem precedes_trans {a b c : KeyboardMappingEntry} (first : a.precedes b = true)
    (second : b.precedes c = true) : a.precedes c = true := by
  rw [precedes_iff] at first second ⊢
  rcases first with less | ⟨same, less⟩
  · rcases second with less' | ⟨same', less'⟩
    · exact .inl (by omega)
    · exact .inl (same' ▸ less)
  · rcases second with less' | ⟨same', less'⟩
    · exact .inl (same ▸ less')
    · exact .inr ⟨same.trans same', by omega⟩

theorem precedes_irrefl (a : KeyboardMappingEntry) : a.precedes a = false := by
  apply Bool.eq_false_iff.mpr
  intro before
  rcases precedes_iff.mp before with less | ⟨-, less⟩
  · omega
  · omega

/-- Of two host chords that differ, one comes first. -/
theorem precedes_or {a b : KeyboardMappingEntry} (apart : a.host ≠ b.host) :
    a.precedes b = true ∨ b.precedes a = true := by
  rw [precedes_iff, precedes_iff]
  by_cases same : a.host.keyCode = b.host.keyCode
  · have flags : a.host.modifiers.rawValue.toNat ≠ b.host.modifiers.rawValue.toNat :=
      fun equal => apart (host_eq_iff.mpr ⟨same, equal⟩)
    rcases Nat.lt_or_gt_of_ne flags with less | more
    · exact .inl (.inr ⟨same, less⟩)
    · exact .inr (.inr ⟨same.symm, more⟩)
  · have codes : a.host.keyCode.toNat ≠ b.host.keyCode.toNat :=
      fun equal => same (UInt16.toNat_inj.mp equal)
    rcases Nat.lt_or_gt_of_ne codes with less | more
    · exact .inl (.inl less)
    · exact .inr (.inl more)

variable {it it' : Iteration} {dictionary dictionary' : List (HostChord × GuestChord)}

theorem sortedEntries_perm (it : Iteration) (dictionary : List (HostChord × GuestChord)) :
    (sortedEntries it dictionary).Perm (dictionary.map fun entry => ⟨entry.1, entry.2⟩) :=
  (List.mergeSort_perm _ _).trans ((it.perm dictionary).map _)

/-- The entries of a dictionary come in strict order. -/
theorem sortedEntries_sorted (distinct : (dictionary.map Prod.fst).Nodup) :
    (sortedEntries it dictionary).Pairwise fun a b => a.precedes b = true := by
  have sorted : (sortedEntries it dictionary).Pairwise fun a b => (!b.precedes a) = true := by
    -- The merge sort asks for a total preorder; not coming after is one, since distinct hosts
    -- compare either way.
    apply List.pairwise_mergeSort
    · intro a b c first second
      simp only [Bool.not_eq_true'] at first second ⊢
      apply Bool.eq_false_iff.mpr
      intro before
      by_cases same : a.host = b.host
      · have moved : c.precedes b = true := by
          rw [precedes_iff] at before ⊢
          rwa [same] at before
        rw [second] at moved
        cases moved
      · rcases precedes_or same with less | more
        · rw [precedes_trans before less] at second
          cases second
        · rw [more] at first
          cases first
    · intro a b
      cases before : b.precedes a with
      | false => simp
      | true =>
        cases after : a.precedes b with
        | false => simp
        | true =>
          have self := precedes_trans before after
          rw [precedes_irrefl] at self
          cases self
  have apart : (sortedEntries it dictionary).Pairwise fun a b => a.host ≠ b.host := by
    have listed := (sortedEntries_perm it dictionary).map KeyboardMappingEntry.host
    rw [List.map_map] at listed
    have nodup : ((sortedEntries it dictionary).map KeyboardMappingEntry.host).Nodup :=
      listed.nodup_iff.mpr distinct
    exact List.pairwise_map.mp nodup
  -- No two entries share a host chord, so not coming after is coming before.
  refine (sorted.and apart).imp ?_
  rintro a b ⟨notAfter, different⟩
  rcases precedes_or different with before | after
  · exact before
  · rw [after] at notAfter
    cases notAfter

/-- They do not depend on the order of the dictionary. -/
theorem sortedEntries_eq (it it' : Iteration) (perm : dictionary.Perm dictionary')
    (distinct : (dictionary.map Prod.fst).Nodup) :
    sortedEntries it dictionary = sortedEntries it' dictionary' := by
  have distinct' : (dictionary'.map Prod.fst).Nodup := (perm.map Prod.fst).nodup_iff.mp distinct
  have same := (sortedEntries_perm it dictionary).trans
    ((perm.map _).trans (sortedEntries_perm it' dictionary').symm)
  refine List.Perm.eq_of_pairwise ?_ (sortedEntries_sorted distinct)
    (sortedEntries_sorted distinct') same
  intro a b _ _ before after
  have self := precedes_trans before after
  rw [precedes_irrefl] at self
  cases self

/-! ## What lines mean -/

namespace KeyboardProfileRuleParser

variable {u : Unicode}

/-- The modifiers of names that are all known. -/
def flagsOf (u : Unicode) : List (List Char) → ModifierFlags → Option ModifierFlags
  | [], modifiers => some modifiers
  | name :: rest, modifiers =>
    match modifierNamed (String.ofList (u.lowercased name)) with
    | some flag => flagsOf u rest (modifiers.union flag)
    | none => none

theorem parseModifiers_toOption (u : Unicode) (line : Nat) (names : List (List Char))
    (modifiers : ModifierFlags) :
    (parseModifiers u line names modifiers).toOption = flagsOf u names modifiers := by
  induction names generalizing modifiers with
  | nil => rfl
  | cons name names ih =>
    simp only [parseModifiers, flagsOf]
    cases modifierNamed (String.ofList (u.lowercased name)) with
    | none => rfl
    | some flag => exact ih _

/-- The chord of the parts of a shortcut. -/
def readParts (u : Unicode) (parts : List (List Char)) : Option GuestChord :=
  match parts.getLast? with
  | none => none
  | some keyName =>
    if keyName.isEmpty then none
    else
      (flagsOf u parts.dropLast .empty).bind fun modifiers =>
        (GuestTextEncoder.chordForKeyName u keyName).toOption.map fun key =>
          ⟨key.keyCode, modifiers.union key.modifiers⟩

theorem parseShortcut_toOption (u : Unicode) (source : List Char) (line : Nat) :
    (parseShortcut u source line).toOption = readParts u (parts u source) := by
  unfold parseShortcut readParts
  simp only
  cases (parts u source).getLast? with
  | none => rfl
  | some keyName =>
    simp only
    split
    · rfl
    rw [← parseModifiers_toOption u line]
    cases parseModifiers u line (parts u source).dropLast .empty with
    | error _ => rfl
    | ok modifiers =>
      cases GuestTextEncoder.chordForKeyName u keyName with
      | error _ => rfl
      | ok key => rfl

/-- The chord of a shortcut. -/
def shortcut (u : Unicode) (source : List Char) : Option GuestChord :=
  readParts u (parts u source)

/-- What a line means: nothing if it is refused, otherwise a rule or that it is skipped. -/
def meaning (u : Unicode) (line : List Char) : Option (Option (HostChord × GuestChord)) :=
  (parseLine u line 0).toOption

/-- The rule of two sides. -/
def ruleOf : List (Option GuestChord) → Option (Option (HostChord × GuestChord))
  | [host?, guest?] =>
    host?.bind fun host =>
      guest?.map fun guest => some (⟨host.keyCode, host.modifiers⟩, guest)
  | _ => none

theorem parseLine_toOption (u : Unicode) (rawLine : List Char) (line : Nat) :
    (parseLine u rawLine line).toOption =
      if (u.trimmed rawLine).isEmpty || u.starts (u.trimmed rawLine) '#' then some none
      else ruleOf ((components ['-', '>'] (u.trimmed rawLine)).map (shortcut u)) := by
  unfold parseLine
  simp only
  split
  · rfl
  cases components ['-', '>'] (u.trimmed rawLine) with
  | nil => rfl
  | cons hostSide more =>
    cases more with
    | nil => rfl
    | cons guestSide more =>
      cases more with
      | cons _ _ => rfl
      | nil =>
        have host := parseShortcut_toOption u hostSide line
        have guest := parseShortcut_toOption u guestSide line
        simp only [List.map_cons, List.map_nil, shortcut, ← host, ← guest]
        cases parseShortcut u hostSide line with
        | error _ => rfl
        | ok hostChord =>
          cases parseShortcut u guestSide line with
          | error _ => rfl
          | ok guestChord => rfl

theorem parseLine_meaning (u : Unicode) (rawLine : List Char) (line : Nat) :
    (parseLine u rawLine line).toOption = meaning u rawLine := by
  unfold meaning
  rw [parseLine_toOption, parseLine_toOption]

/-- A line is neither blank nor a comment. -/
def significant (u : Unicode) (rawLine : List Char) : Bool :=
  !((u.trimmed rawLine).isEmpty || u.starts (u.trimmed rawLine) '#')

/-- The rules that lines mean. -/
def rulesOf (u : Unicode) (lines : List (List Char)) : List (HostChord × GuestChord) :=
  lines.filterMap fun line => (meaning u line).join

/-- The loop collects the rules, unless it comes to a line that is refused or to a host chord that
it has. -/
theorem parseLines_iff {lines : List (List Char)} {offset : Nat}
    {entries result : List (HostChord × GuestChord)} (distinct : (entries.map Prod.fst).Nodup) :
    parseLines u offset lines entries = .ok result ↔
      (∀ line ∈ lines, meaning u line ≠ none) ∧ result = (rulesOf u lines).reverse ++ entries ∧
        (result.map Prod.fst).Nodup := by
  -- On the lines, with the entries read so far in general: a line that is a rule is put in front of
  -- them, and they stay without a repeated host chord.
  induction lines generalizing offset entries with
  | nil =>
    simp only [parseLines, rulesOf, Except.ok.injEq]
    constructor
    · rintro rfl
      exact ⟨by simp, rfl, distinct⟩
    · rintro ⟨-, rfl, -⟩
      rfl
  | cons line lines ih =>
    have same := parseLine_meaning u line (offset + 1)
    simp only [parseLines, rulesOf, List.filterMap_cons]
    cases read : parseLine u line (offset + 1) with
    | error error =>
      rw [read] at same
      simp only [reduceCtorEq, false_iff]
      rintro ⟨all, -⟩
      exact all line List.mem_cons_self same.symm
    | ok rule? =>
      rw [read] at same
      have here : meaning u line = some rule? := same.symm
      cases rule? with
      | none =>
        simp only [here, Option.join_some, List.mem_cons, forall_eq_or_imp]
        rw [ih distinct]
        simp [rulesOf]
      | some rule =>
        obtain ⟨host, guest⟩ := rule
        simp only [here, Option.join_some, List.mem_cons, forall_eq_or_imp, List.reverse_cons]
        split
        · -- The result would have the host chord twice.
          rename_i taken
          simp only [reduceCtorEq, false_iff]
          rintro ⟨-, rfl, nodup⟩
          obtain ⟨other, found⟩ := Option.isSome_iff_exists.mp taken
          obtain ⟨front, back, split, -⟩ := List.lookup_eq_some_iff.mp found
          have twice : host ∈ entries.map Prod.fst := by simp [split]
          simp only [List.append_assoc, List.map_append, List.map_cons, List.singleton_append]
            at nodup
          exact (List.nodup_cons.mp (List.nodup_append.mp nodup).2.1).1 twice
        · rename_i free
          have fresh : host ∉ entries.map Prod.fst := by
            intro listed
            obtain ⟨entry, member, rfl⟩ := List.mem_map.mp listed
            apply free
            cases found : entries.lookup entry.1 with
            | some _ => rfl
            | none =>
              have missing := List.lookup_eq_none_iff.mp found entry member
              simp at missing
          have extended : (((host, guest) :: entries).map Prod.fst).Nodup :=
            List.nodup_cons.mpr ⟨fresh, distinct⟩
          rw [ih extended]
          simp [rulesOf]

variable {it it' : Iteration} {rules rules' : List Char}

/-- A text is accepted if no line is refused and no host chord comes twice. -/
theorem parse_iff {entries : List KeyboardMappingEntry} : parse u it rules = .ok entries ↔
    (∀ line ∈ lines u rules, meaning u line ≠ none) ∧
      ((rulesOf u (lines u rules)).map Prod.fst).Nodup ∧
      entries = sortedEntries it (rulesOf u (lines u rules)).reverse := by
  have reversed : ((rulesOf u (lines u rules)).reverse.map Prod.fst).Nodup ↔
      ((rulesOf u (lines u rules)).map Prod.fst).Nodup :=
    ((List.reverse_perm _).map Prod.fst).nodup_iff
  have collected : ∀ result, parseLines u 0 (lines u rules) [] = .ok result ↔
      (∀ line ∈ lines u rules, meaning u line ≠ none) ∧
        result = (rulesOf u (lines u rules)).reverse ∧ (result.map Prod.fst).Nodup := by
    intro result
    have distinct : (([] : List (HostChord × GuestChord)).map Prod.fst).Nodup := List.nodup_nil
    rw [parseLines_iff distinct, List.append_nil]
  unfold parse
  cases read : parseLines u 0 (lines u rules) [] with
  | error error =>
    simp only [reduceCtorEq, false_iff]
    rintro ⟨all, distinct, -⟩
    have accepted := (collected _).mpr ⟨all, rfl, reversed.mpr distinct⟩
    rw [read] at accepted
    cases accepted
  | ok dictionary =>
    obtain ⟨all, rfl, distinct⟩ := (collected _).mp read
    simp only [Except.ok.injEq]
    constructor
    · rintro rfl
      exact ⟨all, reversed.mp distinct, rfl⟩
    · rintro ⟨-, -, rfl⟩
      rfl

end KeyboardProfileRuleParser

end SimpleVM.Input
