import SimpleVM.Swift.JSONText

/-!
# The guest's decoder on the host's JSON

Swift's encoder and Python's decoder were written apart. Each value the encoder writes is read
back here, whatever ends it.
-/
namespace SimpleVM.Agent

open Python Text
open Swift (shortEscape escape encodeString encodeInt encodeMember encodeObject encodeArray
  printed_of_shortEscape unescape_of_shortEscape hex4_of_control isDigit_of_mem_toDigits toDigits_head
  digitsValue_toDigits)

variable {hook : Nat}

section Strings

theorem scanUnits_escape (c : Char) (more : List Char) :
    scanUnits (escape c ++ more) = prepend c.toNat (scanUnits more) := by
  unfold escape
  split
  · next letter short =>
    exact scanUnits_letter (unescape_of_shortEscape short) more
  · next plain =>
    split
    · next control => exact scanUnits_unicode (hex4_of_control control) more
    · next printed =>
      obtain ⟨quote, backslash⟩ := printed_of_shortEscape plain
      exact scanUnits_plain quote backslash printed more

theorem scanUnits_escaped (text more : List Char) :
    scanUnits (text.flatMap escape ++ '"' :: more) = .ok (text.map Char.toNat, more) := by
  induction text with
  | nil => rfl
  | cons c text ih =>
    rw [List.flatMap_cons, List.append_assoc, scanUnits_escape, ih]
    rfl

/-- A character is no half of a surrogate pair. -/
theorem isHigh_toNat (c : Char) : isHigh c.toNat = false := by
  have valid := c.valid
  simp only [UInt32.isValidChar, Nat.isValidChar] at valid
  simp only [isHigh, Bool.and_eq_false_iff, decide_eq_false_iff_not, Char.toNat]
  omega

theorem not_isSurrogate (c : Char) : isSurrogate c.toNat = false := by
  have valid := c.valid
  simp only [UInt32.isValidChar, Nat.isValidChar] at valid
  simp only [isSurrogate, Bool.and_eq_false_iff, decide_eq_false_iff_not, Char.toNat]
  omega

theorem encode?_str (s : String) : encode? (str s) = some (utf8 s.toList) := by
  have plain : (str s).any isSurrogate = false := by
    simp only [str, List.any_map, List.any_eq_false, Function.comp_apply, not_isSurrogate,
      Bool.false_eq_true, not_false_eq_true, implies_true]
  have chars : (str s).map Char.ofNat = s.toList := by
    simp [str, Function.comp_def]
  simp only [encode?, plain, Bool.false_eq_true, if_false, chars]

theorem joinSurrogates_chars (text : List Char) :
    joinSurrogates (text.map Char.toNat) = text.map Char.toNat := by
  induction text with
  | nil => rfl
  | cons c text ih =>
    cases text with
    | nil => rfl
    | cons d text =>
      simp only [List.map_cons] at ih
      simp only [List.map_cons, joinSurrogates, isHigh_toNat, Bool.false_and, Bool.false_eq_true,
        if_false, ih]

theorem scanString_escaped (s : String) (more : List Char) :
    scanString (s.toList.flatMap escape ++ '"' :: more) = .ok (str s, more) := by
  simp only [scanString, scanUnits_escaped, Except.map, joinSurrogates_chars, str]

end Strings

/-- The decoder reads this value back from its text, which starts with no blank. -/
structure Reads (hook limit : Nat) (text : List Char) (v : Value) : Prop where
  starts : ∃ c tail, text = c :: tail ∧ isSpace c = false
  reads : ∀ more, Ends more → scanValue hook limit (text ++ more) = .ok (v, more)

theorem Reads.skipSpace {limit : Nat} {text : List Char} {v : Value} (reads : Reads hook limit text v)
    (more : List Char) : skipSpace (text ++ more) = text ++ more := by
  obtain ⟨c, tail, rfl, plain⟩ := reads.starts
  exact skipSpace_of_not plain

theorem reads_encodeString (limit : Nat) (s : String) :
    Reads hook limit (encodeString s) (.string (str s)) := by
  refine ⟨⟨'"', _, rfl, by decide⟩, fun more _ => ?_⟩
  simp only [encodeString, List.cons_append, List.append_assoc, List.nil_append, scanValue,
    scanString_escaped, Except.map]

section Numbers

theorem finishNumber_whole (negative : Bool) {digits more : List Char} (ends : Ends more)
    (short : digits.length ≤ maxStrDigits) :
    finishNumber negative digits more =
      .ok (.int (if negative then -(digitsValue digits : Int) else digitsValue digits), more) := by
  have fraction := scanFraction_none fun c front => (ne_of_ends ends c front).1
  have exponent := scanExponent_none fun c front => (ne_of_ends ends c front).2
  simp only [finishNumber, fraction, exponent, List.isEmpty_nil, Bool.and_true, if_true,
    Nat.not_lt.mpr short, if_false]

theorem scanUnsigned_toDigits (negative : Bool) {n : Nat} {more : List Char} (ends : Ends more)
    (short : (Nat.toDigits 10 n).length ≤ maxStrDigits) :
    scanUnsigned negative (Nat.toDigits 10 n ++ more) =
      .ok (.int (if negative then -(n : Int) else n), more) := by
  have digits : ∀ c ∈ Nat.toDigits 10 n, isDigit c = true := fun c => isDigit_of_mem_toDigits
  cases written : Nat.toDigits 10 n with
  | nil => exact absurd written Nat.toDigits_ne_nil
  | cons d rest =>
    rw [written] at digits short
    by_cases zero : d = '0'
    · subst zero
      have isZero := toDigits_head written
      subst isZero
      cases written
      exact finishNumber_whole negative ends short
    · obtain ⟨taken, dropped⟩ := span_digits
        (fun c member => digits c (List.mem_cons_of_mem d member)) (isDigit_false_of_ends ends)
      rw [List.cons_append, scanUnsigned_digit (digits d List.mem_cons_self) zero, taken, dropped,
        finishNumber_whole negative ends short, ← written, digitsValue_toDigits]

/-- A 64-bit integer is short enough for `int()`. -/
theorem length_toDigits_int64 (n : Int64) :
    (Nat.toDigits 10 n.toInt.natAbs).length ≤ maxStrDigits := by
  have above := n.toInt_lt
  have below := n.le_toInt
  have short : (Nat.toDigits 10 n.toInt.natAbs).length ≤ 20 := by
    rw [Nat.length_toDigits_le_iff (by decide) (by decide)]
    omega
  exact Nat.le_trans short (by decide)

theorem reads_encodeInt (limit : Nat) (n : Int64) : Reads hook limit (encodeInt n) (.int n.toInt) := by
  unfold encodeInt
  split
  · next negative =>
    refine ⟨⟨'-', _, rfl, by decide⟩, fun more ends => scanValue_number limit ?_⟩
    have read := scanUnsigned_toDigits true ends (length_toDigits_int64 n)
    have value : -(n.toInt.natAbs : Int) = n.toInt := by omega
    simp only [if_true, value] at read
    exact read
  · next positive =>
    have read (more : List Char) (ends : Ends more) :
        scanUnsigned false (Nat.toDigits 10 n.toInt.natAbs ++ more) = .ok (.int n.toInt, more) := by
      have value : (n.toInt.natAbs : Int) = n.toInt := by omega
      simpa only [Bool.false_eq_true, if_false, value] using
        scanUnsigned_toDigits false ends (length_toDigits_int64 n)
    -- The first digit is no blank and no sign, so the scanner starts with the digits.
    cases written : Nat.toDigits 10 n.toInt.natAbs with
    | nil => exact absurd written Nat.toDigits_ne_nil
    | cons d rest =>
      have digit : isDigit d = true :=
        isDigit_of_mem_toDigits (n := n.toInt.natAbs) (written ▸ List.mem_cons_self)
      refine ⟨⟨d, rest, rfl, ?_⟩, fun more ends => scanValue_number limit ?_⟩
      · cases space : isSpace d with
        | false => rfl
        | true =>
          simp only [isSpace, Bool.or_eq_true, decide_eq_true_eq] at space
          rcases space with ((rfl | rfl) | rfl) | rfl <;> cases digit
      · have unsigned : scanNumber (d :: rest ++ more) = scanUnsigned false (d :: rest ++ more) := by
          unfold scanNumber
          split
          · next same =>
            cases same
            cases digit
          · rfl
        rw [unsigned, ← written]
        exact read more ends

end Numbers

section Objects

/-- The members of an object, with the texts of their values and what these are read as. -/
abbrev Member := String × List Char × Value

def texts (members : List Member) : List (String × List Char) := members.map fun m => (m.1, m.2.1)

def values (members : List Member) : List (Str × Value) := members.map fun m => (str m.1, m.2.2)

variable {limit : Nat} {members : List Member}

theorem scanMember_encodeMember {m : Member} (reads : Reads hook limit m.2.1 m.2.2) {more : List Char}
    (ends : Ends more) :
    scanMember (scanValue hook limit) (encodeMember (m.1, m.2.1) ++ more) =
      .ok ((str m.1, m.2.2), more) := by
  have colon : isSpace ':' = false := by decide
  simp only [encodeMember, encodeString, List.cons_append, List.append_assoc, List.nil_append,
    scanMember, scanString_escaped, skipSpace_of_not colon, reads.skipSpace more,
    reads.reads more ends, Except.map]

theorem ends_close (more : List Char) : Ends ('}' :: more) := by
  intro c front
  cases front
  exact .inr (.inr (.inl rfl))

theorem ends_comma (more : List Char) : Ends (',' :: more) := by
  intro c front
  cases front
  exact .inr (.inl rfl)

/-- The members of an object start with a key. -/
theorem joined_starts (m : Member) (members : List Member) (more : List Char) :
    ∃ tail, List.intercalate [','] ((texts (m :: members)).map encodeMember) ++ more =
      '"' :: tail := by
  cases members with
  | nil => exact ⟨_, rfl⟩
  | cons _ _ =>
    simp only [texts, List.map_cons, List.intercalate_cons_cons]
    exact ⟨_, rfl⟩

theorem scanElements_members (m : Member)
    (reads : ∀ m' ∈ m :: members, Reads hook limit m'.2.1 m'.2.2) {fuel : Nat} (covers : members.length < fuel) (more : List Char) :
    scanElements '}' (scanMember (scanValue hook limit)) fuel
        (List.intercalate [','] ((texts (m :: members)).map encodeMember) ++ '}' :: more) =
      .ok (values (m :: members), more) := by
  induction members generalizing m fuel with
  | nil =>
    obtain ⟨fuel, rfl⟩ := Nat.exists_eq_add_of_lt covers
    have first := scanMember_encodeMember (reads m List.mem_cons_self) (ends_close more)
    have close : isSpace '}' = false := by decide
    simp only [texts, values, List.map_cons, List.map_nil, List.intercalate_singleton, scanElements,
      first, skipSpace_of_not close, scanMore, if_true]
  | cons next members ih =>
    obtain ⟨fuel, rfl⟩ := Nat.exists_eq_add_of_le' (Nat.lt_of_le_of_lt (Nat.zero_le _) covers)
    have shorter : members.length < fuel := Nat.lt_of_succ_lt_succ covers
    have rest := ih next (fun m' member => reads m' (List.mem_cons_of_mem m member)) shorter
    have first := scanMember_encodeMember (reads m List.mem_cons_self)
      (ends_comma (List.intercalate [','] ((texts (next :: members)).map encodeMember) ++ '}' :: more))
    have comma : isSpace ',' = false := by decide
    have other : ¬ ',' = '}' := by decide
    have quoted : isSpace '"' = false := by decide
    have joined : List.intercalate [','] ((texts (m :: next :: members)).map encodeMember) =
        encodeMember (m.1, m.2.1) ++
          ',' :: List.intercalate [','] ((texts (next :: members)).map encodeMember) := by
      simp only [texts, List.map_cons, List.intercalate_cons_cons, List.append_assoc,
        List.cons_append, List.nil_append]
    -- The next member starts with its key, so no blank is skipped before it.
    obtain ⟨tail, start⟩ := joined_starts next members ('}' :: more)
    rw [joined, List.append_assoc, List.cons_append]
    simp only [scanElements, first, skipSpace_of_not comma, scanMore, if_neg other, if_true]
    rw [start, skipSpace_of_not quoted, ← start, rest]
    rfl

/-- Each member but the first has its comma. -/
theorem length_le_joined (m : Member) (members : List Member) :
    members.length ≤ (List.intercalate [','] ((texts (m :: members)).map encodeMember)).length := by
  induction members generalizing m with
  | nil => exact Nat.zero_le _
  | cons next members ih =>
    have rest := ih next
    simp only [texts, List.map_cons, List.intercalate_cons_cons, List.length_append,
      List.length_cons, List.length_nil] at rest ⊢
    omega

/-- An object of readable members with distinct keys is read with one more level, if the hook can
be called below it. -/
theorem reads_encodeObject (called : hook ≤ limit) (nonempty : members ≠ [])
    (reads : ∀ m ∈ members, Reads hook limit m.2.1 m.2.2) (names : (members.map Prod.fst).Nodup) :
    Reads hook (limit + 1) (encodeObject (texts members)) (.dict (values members)) := by
  have distinct : ((values members).map Prod.fst).Nodup := by
    rw [values, List.map_map]
    have keys : ((members.map Prod.fst).map str).Nodup :=
      List.Pairwise.map str (fun _ _ different same => different (str_inj.mp same)) names
    rwa [List.map_map] at keys
  refine ⟨⟨'{', _, rfl, by decide⟩, fun more _ => ?_⟩
  cases members with
  | nil => exact absurd rfl nonempty
  | cons m members =>
    have quoted : isSpace '"' = false := by decide
    have open_ : ¬ '"' = '}' := by decide
    obtain ⟨tail, start⟩ := joined_starts m members ('}' :: more)
    have covers : members.length < ('"' :: tail).length := by
      have joined := length_le_joined m members
      rw [← start, List.length_append, List.length_cons]
      omega
    have elements := scanElements_members m reads covers more
    rw [start] at elements
    simp only [encodeObject, List.cons_append, List.append_assoc, List.nil_append, scanValue,
      scanContainer, start, skipSpace_of_not quoted, if_neg open_, elements, strictObject,
      if_neg (Nat.not_lt.mpr called), if_pos distinct]

end Objects

/-- A text that is read as a value is what `json.loads` returns it for. -/
theorem loads_of_reads {limit : Nat} {text : List Char} {v : Value} (reads : Reads hook limit text v) :
    loads hook limit text = .ok v := by
  have whole := reads.reads [] (fun _ front => by cases front)
  have skipped := reads.skipSpace []
  simp only [List.append_nil] at whole skipped
  obtain ⟨c, tail, rfl, plain⟩ := reads.starts
  have mark : ¬ (c :: tail).head? = some '\ufeff' := by
    intro first
    cases first
    -- No value starts with the byte order mark.
    have digit : isDigit '\ufeff' = false := by decide
    simp [scanValue, scanNumber, scanUnsigned, digit] at whole
  have blank : skipSpace [] = [] := rfl
  simp only [loads, if_neg mark, skipped, whole, blank, List.isEmpty_nil, if_true]

end SimpleVM.Agent
