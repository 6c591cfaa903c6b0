import SimpleVM.Python.Joined
import SimpleVM.Swift.JSONDecoder
import SimpleVM.Swift.JSONEncoder

/-!
# JSON texts in Swift

What `JSONEncoder` writes for a string or an integer `JSONDecoder` reads back, whatever ends it,
and a number of the grammar is read as its literal.
-/
namespace SimpleVM.Swift

open Text
open Python (Scan Yields Ends IsNumber IsInteger IsFraction IsExponent hex4 unescape isDigit isHigh
  isLow isSpace digitsValue skipSpace_of_not span_digits unescape_ne_u)

variable {limit : Nat}

section Strings

theorem printed_of_shortEscape {c : Char} (plain : shortEscape c = none) : c ≠ '"' ∧ c ≠ '\\' := by
  constructor <;>
  · rintro rfl
    cases plain

/-- The letter of a short escape stands for its character. -/
theorem unescape_of_shortEscape {c letter : Char} (short : shortEscape c = some letter) :
    unescape letter = some c.toNat := by
  unfold shortEscape at short
  split at short <;> cases short <;> rfl

theorem hex4_of_control {c : Char} (control : c.toNat < 0x20) :
    hex4 '0' '0' (Nat.digitChar (c.toNat / 16)) (Nat.digitChar (c.toNat % 16)) = some c.toNat := by
  have each : ∀ n : Fin 32, hex4 '0' '0' (Nat.digitChar (n / 16)) (Nat.digitChar (n % 16)) =
      some n.val := by decide
  exact each ⟨c.toNat, control⟩

attribute [local simp] scanCharacters Swift.scanValue in
theorem scanCharacters_letter {c : Char} {n : Nat} (letter : unescape c = some n)
    (rest : List Char) :
    scanCharacters ('\\' :: c :: rest) = Swift.prepend (Char.ofNat n) (scanCharacters rest) := by
  have other := unescape_ne_u letter
  rw [scanCharacters]
  · simp only [letter]
  · rintro a b c d rest rfl
    exact absurd rfl other

theorem scanCharacters_plain {c : Char} (quote : c ≠ '"') (escape : c ≠ '\\')
    (printed : ¬ c.toNat < 0x20) (rest : List Char) :
    scanCharacters (c :: rest) = Swift.prepend c (scanCharacters rest) := by
  rw [scanCharacters]
  · simp only [printed, if_false]
  · exact quote
  · rintro a b d e rest rfl
    exact absurd rfl escape
  · rintro d rest rfl
    exact absurd rfl escape

/-- The escape of a control character names it. -/
theorem scanCharacters_unicode {n : Nat} (control : n < 0x20) {c d : Char}
    (code : hex4 '0' '0' c d = some n) (rest : List Char) :
    scanCharacters ('\\' :: 'u' :: '0' :: '0' :: c :: d :: rest) =
      Swift.prepend (Char.ofNat n) (scanCharacters rest) := by
  have high : isHigh n = false := by
    simp only [isHigh, Bool.and_eq_false_iff, decide_eq_false_iff_not]
    omega
  have low : isLow n = false := by
    simp only [isLow, Bool.and_eq_false_iff, decide_eq_false_iff_not]
    omega
  simp only [scanCharacters, code, high, low, Bool.false_eq_true, if_false]

theorem scanCharacters_escape (c : Char) (more : List Char) :
    scanCharacters (escape c ++ more) = Swift.prepend c (scanCharacters more) := by
  unfold escape
  split
  · next letter short =>
    have read := scanCharacters_letter (unescape_of_shortEscape short) more
    rw [Char.ofNat_toNat] at read
    exact read
  · next plain =>
    split
    · next control =>
      have read := scanCharacters_unicode control (hex4_of_control control) more
      rw [Char.ofNat_toNat] at read
      exact read
    · next printed =>
      obtain ⟨quote, backslash⟩ := printed_of_shortEscape plain
      exact scanCharacters_plain quote backslash printed more

/-- The characters of an encoded string, after its opening quote. -/
theorem scanString_encoded (s : String) (more : List Char) :
    Swift.scanString (s.toList.flatMap escape ++ '"' :: more) = .ok (s, more) := by
  have characters (text : List Char) :
      scanCharacters (text.flatMap escape ++ '"' :: more) = .ok (text, more) := by
    induction text with
    | nil => rfl
    | cons c text ih =>
      rw [List.flatMap_cons, List.append_assoc, scanCharacters_escape, ih]
      rfl
  simp only [Swift.scanString, characters, Except.map, String.ofList_toList]

theorem yields_encodeString (limit : Nat) (s : String) :
    Yields (Swift.scanValue limit) (encodeString s) (.string s) := by
  refine ⟨⟨'"', _, rfl, by decide, by decide, by decide⟩, fun more _ => ?_⟩
  simp only [encodeString, List.cons_append, List.append_assoc, List.nil_append, Swift.scanValue,
    scanString_encoded, Except.map]

end Strings

section Numbers

theorem isDigit_of_mem_toDigits {n : Nat} {c : Char} (member : c ∈ Nat.toDigits 10 n) :
    isDigit c = true := by
  have digit := Nat.isDigit_of_mem_toDigits (by decide) (Nat.le_refl 10) member
  simp only [Char.isDigit, Bool.and_eq_true, decide_eq_true_eq] at digit
  simp only [isDigit, Bool.and_eq_true, decide_eq_true_eq]
  exact digit

/-- Only zero is written with a leading zero. -/
theorem toDigits_head {n : Nat} {rest : List Char} (leading : Nat.toDigits 10 n = '0' :: rest) :
    n = 0 := by
  induction n using Nat.strongRecOn generalizing rest with
  | ind n ih =>
    rw [Nat.toDigits_eq_if (by decide)] at leading
    split at leading
    · next small =>
      have each : ∀ m : Fin 10, Nat.digitChar m = '0' → m.val = 0 := by decide
      exact each ⟨n, small⟩ (List.cons.inj leading).1
    · next large =>
      cases front : Nat.toDigits 10 (n / 10) with
      | nil => exact absurd front Nat.toDigits_ne_nil
      | cons c tail =>
        rw [front] at leading
        cases leading
        have zero := ih (n / 10) (by omega) front
        omega

theorem digitsValue_toDigits (n : Nat) : digitsValue (Nat.toDigits 10 n) = n := by
  have value := @Nat.ofDigitChars_ten_toDigits n
  rw [Nat.ofDigitChars_eq_foldl] at value
  simp only [digitsValue, Nat.mul_comm _ 10]
  exact value

/-- What starts like a number is scanned as one. -/
theorem scanValue_scanNumber {limit : Nat} {c : Char} (start : c = '-' ∨ isDigit c = true)
    (rest : List Char) : Swift.scanValue limit (c :: rest) = Swift.scanNumber (c :: rest) := by
  unfold Swift.scanValue
  split
  all_goals first
    | rfl
    | (next same =>
        cases same
        rcases start with same | digit
        · exact absurd same (by decide)
        · exact absurd digit (by decide))

theorem toList_toString_int (n : Int) :
    (toString n).toList =
      if 0 ≤ n then Nat.toDigits 10 n.toNat else '-' :: Nat.toDigits 10 (-n).toNat := by
  have digits (m : Nat) : m.repr.toList = Nat.toDigits 10 m := by
    rw [Nat.repr_eq_ofList_toDigits, String.toList_ofList]
  have written : toString n = n.repr := rfl
  rw [written, Int.repr_eq_if]
  split
  · exact digits _
  · rw [String.toList_append, digits]
    rfl

/-- A digit is none of the marks of the grammar. -/
theorem digit_marks {d : Char} (digit : isDigit d = true) :
    d ≠ '-' ∧ isSpace d = false ∧ d ≠ '}' ∧ d ≠ ']' := by
  have other (c : Char) (letter : isDigit c = false) : d ≠ c := by
    rintro rfl
    exact absurd digit (by simp [letter])
  refine ⟨other '-' (by decide), ?_, other '}' (by decide), other ']' (by decide)⟩
  simp [isSpace, other ' ' (by decide), other '\t' (by decide), other '\n' (by decide),
    other '\r' (by decide)]

theorem toDigits_starts (n : Nat) :
    ∃ d rest, Nat.toDigits 10 n = d :: rest ∧ isDigit d = true := by
  cases written : Nat.toDigits 10 n with
  | nil => exact absurd written Nat.toDigits_ne_nil
  | cons d rest =>
    exact ⟨d, rest, rfl, isDigit_of_mem_toDigits (n := n) (written ▸ List.mem_cons_self)⟩

theorem isInteger_toDigits (n : Nat) : IsInteger (Nat.toDigits 10 n) := by
  obtain ⟨d, rest, written, -⟩ := toDigits_starts n
  by_cases zero : d = '0'
  · subst zero
    rw [toDigits_head written]
    exact .inl rfl
  · refine .inr ⟨d, rest, written, zero, fun c member => ?_⟩
    exact isDigit_of_mem_toDigits (n := n) (written ▸ member)

theorem isNumber_int (n : Int) : IsNumber (toString n).toList := by
  have plain (digits : List Char) : digits = digits ++ ([] ++ []) := by simp
  rw [toList_toString_int]
  split
  · exact ⟨[], Nat.toDigits 10 n.toNat, [], [], .inl rfl, isInteger_toDigits _, .inl rfl, .inl rfl,
      plain _⟩
  · exact ⟨['-'], Nat.toDigits 10 (-n).toNat, [], [], .inr rfl, isInteger_toDigits _, .inl rfl,
      .inl rfl, congrArg ('-' :: ·) (plain _)⟩

/-- The host takes a number with or without a fraction and an exponent. -/
theorem scanUnsigned_number (sign : List Char) {integer fraction exponent more : List Char}
    (whole : IsInteger integer) (point : IsFraction fraction) (power : IsExponent exponent)
    (ends : Ends more) :
    Swift.scanUnsigned sign (integer ++ (fraction ++ exponent) ++ more) =
      .ok (.number (sign ++ (integer ++ (fraction ++ exponent))), more) := by
  have exponentReads := power.reads ends
  have front := power.front ends
  have fractionReads := point.reads front
  -- The digits end where the fraction, the exponent or what follows them starts.
  have stops : ∀ c ∈ (fraction ++ (exponent ++ more)).head?, isDigit c = false := by
    intro c next
    rcases point with rfl | ⟨d, digits, rfl, -⟩
    · exact (front c next).1
    · cases next
      decide
  have finished (integer : List Char) :
      Swift.finishNumber (sign ++ integer) (fraction ++ (exponent ++ more)) =
        .ok (.number (sign ++ (integer ++ (fraction ++ exponent))), more) := by
    simp only [Swift.finishNumber, fractionReads, exponentReads, List.append_assoc]
  simp only [List.append_assoc]
  rcases whole with rfl | ⟨d, digits, rfl, nonzero, all⟩
  · exact finished ['0']
  · obtain ⟨taken, dropped⟩ :=
      span_digits (fun c member => all c (List.mem_cons_of_mem d member)) stops
    have digit := all d List.mem_cons_self
    rw [List.cons_append, Swift.scanUnsigned]
    · simp only [digit, if_true, taken, dropped]
      exact finished (d :: digits)
    · rintro rfl
      exact nonzero rfl

theorem yields_number (limit : Nat) {text : List Char} (number : IsNumber text) :
    Yields (Swift.scanValue limit) text (.number text) := by
  obtain ⟨sign, integer, fraction, exponent, signed, whole, point, power, rfl⟩ := number
  rcases signed with rfl | rfl
  · have starts : ∃ d rest, integer = d :: rest ∧ isDigit d = true := by
      rcases whole with rfl | ⟨d, digits, rfl, -, all⟩
      · exact ⟨'0', [], rfl, rfl⟩
      · exact ⟨d, digits, rfl, all d List.mem_cons_self⟩
    obtain ⟨d, rest, rfl, digit⟩ := starts
    obtain ⟨noSign, marks⟩ := digit_marks digit
    refine ⟨⟨d, _, rfl, marks⟩, fun more ends => ?_⟩
    have read := scanUnsigned_number [] whole point power ends
    rw [List.nil_append, List.cons_append] at read ⊢
    rw [List.cons_append, scanValue_scanNumber (.inr digit), Swift.scanNumber]
    · exact read
    · rintro others same
      exact noSign (List.cons.inj same).1
  · refine ⟨⟨'-', _, rfl, by decide, by decide, by decide⟩, fun more ends => ?_⟩
    rw [List.singleton_append, List.cons_append, scanValue_scanNumber (.inl rfl)]
    exact scanUnsigned_number ['-'] whole point power ends

theorem encodeInt_eq (n : Int64) : encodeInt n = (toString n.toInt).toList := by
  rw [toList_toString_int, encodeInt]
  by_cases negative : n.toInt < 0
  · have magnitude : n.toInt.natAbs = (-n.toInt).toNat := by omega
    rw [if_pos negative, if_neg (by omega), magnitude]
  · have magnitude : n.toInt.natAbs = n.toInt.toNat := by omega
    rw [if_neg negative, if_pos (by omega), magnitude]

theorem yields_encodeInt (limit : Nat) (n : Int64) :
    Yields (Swift.scanValue limit) (encodeInt n) (.number (encodeInt n)) := by
  apply yields_number
  rw [encodeInt_eq]
  exact isNumber_int n.toInt

/-- The literal of an integer stands for it. -/
theorem wholeLiteral_int (n : Int) : wholeLiteral (toString n).toList = some n := by
  have digits (m : Nat) : (Nat.toDigits 10 m).all isDigit = true :=
    List.all_eq_true.mpr fun c member => isDigit_of_mem_toDigits member
  rw [toList_toString_int]
  split
  · next positive =>
    have value : (n.toNat : Int) = n := by omega
    obtain ⟨d, rest, written, digit⟩ := toDigits_starts n.toNat
    have all := digits n.toNat
    have whole := digitsValue_toDigits n.toNat
    rw [written] at all whole ⊢
    rw [wholeLiteral]
    · simp only [all, if_true, whole, value]
    · intro others same
      exact (digit_marks digit).1 (List.cons.inj same).1
  · next negative =>
    have value : -((-n).toNat : Int) = n := by omega
    simp only [wholeLiteral, digits, if_true, digitsValue_toDigits, value]

/-- An integer is decoded from what it is written as. -/
theorem decodeInt_encodeInt (foundation : Foundation) (n : Int64) :
    foundation.decodeInt (.number (encodeInt n)) = .ok n := by
  have range : Int64.minValue.toInt ≤ n.toInt ∧ n.toInt ≤ Int64.maxValue.toInt :=
    ⟨Int64.le_iff_toInt_le.mp (Int64.minValue_le n), Int64.le_iff_toInt_le.mp (Int64.le_maxValue n)⟩
  rw [encodeInt_eq]
  simp only [Foundation.decodeInt, wholeLiteral_int, if_pos range, Int64.ofInt_toInt]

end Numbers

theorem yields_encodeMember {key : String} {text : List Char} {v : JSON}
    (yields : Yields (Swift.scanValue limit) text v) :
    Yields (Swift.scanMember (Swift.scanValue limit)) (encodeMember (key, text)) (key, v) := by
  have colon : isSpace ':' = false := by decide
  refine ⟨⟨'"', _, rfl, by decide, by decide, by decide⟩, fun more ends => ?_⟩
  simp only [encodeMember, encodeString, List.cons_append, List.append_assoc, List.nil_append,
    Swift.scanMember, scanString_encoded, skipSpace_of_not colon, yields.skipSpace more,
    yields.reads more ends, Except.map]

/-- A text that is read as a value is parsed as that value. -/
theorem parse_of_yields (foundation : Foundation) {text : List Char} {v : JSON}
    (yields : Yields (Swift.scanValue foundation.nesting) text v) :
    foundation.parse text = .ok v := by
  have whole := yields.reads [] (fun _ front => by cases front)
  have skipped := yields.skipSpace []
  have blank : Python.skipSpace [] = [] := rfl
  simp only [List.append_nil] at whole skipped
  simp only [Foundation.parse, skipped, whole, blank, List.isEmpty_nil, if_true]

section Keyed

variable {members : List (String × JSON)} {key : String} {α : Type}

theorem decode_of_lookup {v : JSON} (found : members.lookup key = some v)
    (value : JSON → Except DecodingError α) : decode members key value = value v := by
  rw [decode, found]

theorem decodeIfPresent_of_lookup {v : JSON} (found : members.lookup key = some v) (present : v ≠ .null)
    (value : JSON → Except DecodingError α) :
    decodeIfPresent members key value = (value v).map some := by
  unfold decodeIfPresent
  rw [found]
  cases v <;> first
    | exact absurd rfl present
    | rfl

theorem decodeIfPresent_of_missing (missing : members.lookup key = none)
    (value : JSON → Except DecodingError α) : decodeIfPresent members key value = .ok none := by
  rw [decodeIfPresent, missing]

theorem mapM_decodeString (items : List String) :
    (items.map JSON.string).mapM decodeString = .ok items := by
  induction items with
  | nil => rfl
  | cons item items ih =>
    simp only [List.map_cons, List.mapM_cons, decodeString, ih, bind, Except.bind]
    rfl

end Keyed

end SimpleVM.Swift
