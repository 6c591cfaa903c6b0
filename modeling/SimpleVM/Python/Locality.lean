import SimpleVM.Python.Json

/-!
# The decoder reads locally

What a scanner returns depends only on the characters it takes. So a complete object stays what it
is when more text follows, and an object that is cut off is never read as a whole one. None of the
characters taken is the NUL character.
-/
namespace SimpleVM.Python

variable {α : Type}

/-- What may follow a number without being read as part of it. -/
def Ends (more : List Char) : Prop :=
  ∀ c ∈ more.head?, isSpace c = true ∨ c = ',' ∨ c = '}' ∨ c = ']'

/-- The scanner takes these characters, whatever admissible text comes after them. -/
structure Takes (admissible : List Char → Prop) (scan : List Char → Scan α) (used : List Char)
    (v : α) : Prop where
  nonempty : used ≠ []
  noNul : '\x00' ∉ used
  reads : ∀ more, admissible more → scan (used ++ more) = .ok (v, more)

/-- Every success of the scanner comes from the characters it takes. -/
def Local (admissible : List Char → Prop) (scan : List Char → Scan α) : Prop :=
  ∀ text v rest, scan text = .ok (v, rest) →
    ∃ used, text = used ++ rest ∧ Takes admissible scan used v

def Always : List Char → Prop := fun _ => True

section Blanks

theorem isSpace_ne_nul {c : Char} (space : isSpace c = true) : c ≠ '\x00' := by
  rintro rfl
  exact absurd space (by decide)

theorem skipSpace_append {blanks : List Char} (spaces : ∀ c ∈ blanks, isSpace c = true)
    (more : List Char) : skipSpace (blanks ++ more) = skipSpace more := by
  induction blanks with
  | nil => rfl
  | cons c blanks ih =>
    have first := spaces c List.mem_cons_self
    simp only [skipSpace, List.cons_append, List.dropWhile_cons, first, if_true]
    exact ih fun d member => spaces d (List.mem_cons_of_mem c member)

theorem skipSpace_of_not {c : Char} {text : List Char} (plain : isSpace c = false) :
    skipSpace (c :: text) = c :: text := by
  simp [skipSpace, plain]

/-- The blanks before the rest, which starts with none. -/
theorem exists_skipSpace (text : List Char) :
    ∃ blanks, text = blanks ++ skipSpace text ∧ (∀ c ∈ blanks, isSpace c = true) ∧
      ∀ c ∈ (skipSpace text).head?, isSpace c = false := by
  refine ⟨text.takeWhile isSpace, (List.takeWhile_append_dropWhile).symm, ?_, ?_⟩
  · intro c member
    exact List.all_eq_true.mp List.all_takeWhile c member
  · intro c member
    have front := List.head?_dropWhile_not isSpace text
    rw [skipSpace] at member
    rw [Option.mem_def.mp member] at front
    simpa using front

theorem nul_notMem_of_spaces {blanks : List Char} (spaces : ∀ c ∈ blanks, isSpace c = true) :
    '\x00' ∉ blanks := fun member => isSpace_ne_nul (spaces _ member) rfl

end Blanks

section Strings

theorem prepend_ok {n : Nat} {scanned : Scan Str} {s : Str} {rest : List Char} :
    prepend n scanned = .ok (s, rest) ↔ ∃ t, s = n :: t ∧ scanned = .ok (t, rest) := by
  cases scanned with
  | error e => simp [prepend, Except.map]
  | ok read =>
    simp only [prepend, Except.map, Except.ok.injEq, Prod.mk.injEq]
    constructor
    · rintro ⟨rfl, rfl⟩
      exact ⟨read.1, rfl, rfl⟩
    · rintro ⟨t, rfl, rfl⟩
      exact ⟨rfl, rfl⟩

theorem scanUnits_unicode {a b c d : Char} {n : Nat} (code : hex4 a b c d = some n)
    (rest : List Char) :
    scanUnits ('\\' :: 'u' :: a :: b :: c :: d :: rest) = prepend n (scanUnits rest) := by
  simp only [scanUnits, code]

theorem unescape_ne_u {c : Char} {n : Nat} (letter : unescape c = some n) : c ≠ 'u' := by
  rintro rfl
  cases letter

theorem scanUnits_letter {c : Char} {n : Nat} (letter : unescape c = some n) (rest : List Char) :
    scanUnits ('\\' :: c :: rest) = prepend n (scanUnits rest) := by
  have other := unescape_ne_u letter
  rw [scanUnits]
  · simp only [letter]
  · rintro a b c d rest rfl
    exact absurd rfl other

theorem scanUnits_plain {c : Char} (quote : c ≠ '"') (escape : c ≠ '\\') (printed : ¬ c.toNat < 0x20)
    (rest : List Char) : scanUnits (c :: rest) = prepend c.toNat (scanUnits rest) := by
  rw [scanUnits]
  · simp only [printed, if_false]
  · exact quote
  · rintro a b d e rest rfl
    exact absurd rfl escape
  · rintro d rest rfl
    exact absurd rfl escape

theorem hexDigit_ne_nul {c : Char} {n : Nat} (digit : hexDigit c = some n) : c ≠ '\x00' := by
  rintro rfl
  cases digit

theorem hex4_eq_some {a b c d : Char} {n : Nat} (code : hex4 a b c d = some n) :
    '\x00' ∉ ['\\', 'u', a, b, c, d] := by
  simp only [hex4, Option.pure_def, Option.bind_eq_bind, Option.bind_eq_some_iff] at code
  obtain ⟨_, first, _, second, _, third, _, fourth, -⟩ := code
  simp only [List.mem_cons, List.not_mem_nil, or_false, not_or]
  exact ⟨by decide, by decide, (hexDigit_ne_nul first).symm, (hexDigit_ne_nul second).symm,
    (hexDigit_ne_nul third).symm, (hexDigit_ne_nul fourth).symm⟩

/-- A string ends here, or one escape or plain character is taken and it goes on. -/
theorem scanUnits_cases {text rest : List Char} {s : Str} (scanned : scanUnits text = .ok (s, rest)) :
    (text = '"' :: rest ∧ s = []) ∨
    ∃ piece tail n t, text = piece ++ tail ∧ piece ≠ [] ∧ '\x00' ∉ piece ∧ s = n :: t ∧
      scanUnits tail = .ok (t, rest) ∧
      ∀ more, scanUnits (piece ++ more) = prepend n (scanUnits more) := by
  unfold scanUnits at scanned
  split at scanned
  · cases scanned
  · next tail =>
    left
    cases scanned
    exact ⟨rfl, rfl⟩
  · next a b c d tail =>
    right
    cases code : hex4 a b c d with
    | none => simp [code] at scanned
    | some n =>
      simp only [code] at scanned
      obtain ⟨t, rfl, later⟩ := prepend_ok.mp scanned
      exact ⟨['\\', 'u', a, b, c, d], tail, n, t, rfl, List.cons_ne_nil _ _, hex4_eq_some code, rfl,
        later, scanUnits_unicode code⟩
  · next c tail _ =>
    right
    cases letter : unescape c with
    | none => simp [letter] at scanned
    | some n =>
      simp only [letter] at scanned
      obtain ⟨t, rfl, later⟩ := prepend_ok.mp scanned
      refine ⟨['\\', c], tail, n, t, rfl, List.cons_ne_nil _ _, ?_, rfl, later,
        scanUnits_letter letter⟩
      have printed : c ≠ '\x00' := by
        rintro rfl
        cases letter
      simp [printed.symm]
  · next c tail quote _ escape =>
    right
    split at scanned
    · cases scanned
    · next printed =>
      obtain ⟨t, rfl, later⟩ := prepend_ok.mp scanned
      have plain : c ≠ '\\' := by
        rintro rfl
        -- A backslash at the end of the text was none of the cases above.
        cases tail with
        | nil => cases later
        | cons d tail => exact escape d tail rfl rfl
      refine ⟨[c], tail, c.toNat, t, rfl, List.cons_ne_nil _ _, ?_, rfl, later,
        scanUnits_plain quote plain printed⟩
      rw [List.mem_singleton]
      rintro rfl
      exact printed (by decide)

/-- The units of a string are read the same way before any text. -/
theorem scanUnits_local : Local Always scanUnits := by
  intro text
  induction size : text.length using Nat.strongRecOn generalizing text with
  | ind length ih =>
    intro s rest scanned
    rcases scanUnits_cases scanned with ⟨rfl, rfl⟩ |
      ⟨piece, tail, n, t, rfl, nonempty, noNul, rfl, later, again⟩
    · exact ⟨['"'], rfl, List.cons_ne_nil _ _, by decide, fun more _ => by rfl⟩
    · have shorter : tail.length < length := by
        have long := List.length_pos_iff.mpr nonempty
        rw [← size, List.length_append]
        omega
      obtain ⟨used, rfl, takes⟩ := ih tail.length shorter tail rfl t rest later
      refine ⟨piece ++ used, (List.append_assoc ..).symm, by simp [nonempty], ?_, ?_⟩
      · simp [noNul, takes.noNul]
      · intro more free
        rw [List.append_assoc, again, takes.reads more free]
        rfl

theorem scanString_local : Local Always scanString := by
  intro text s rest scanned
  cases units : scanUnits text with
  | error e => simp [scanString, units, Except.map] at scanned
  | ok read =>
    simp only [scanString, units, Except.map, Except.ok.injEq, Prod.mk.injEq] at scanned
    obtain ⟨rfl, rfl⟩ := scanned
    obtain ⟨used, same, takes⟩ := scanUnits_local text read.1 read.2 units
    refine ⟨used, same, takes.nonempty, takes.noNul, fun more free => ?_⟩
    simp only [scanString, takes.reads more free, Except.map]

end Strings

section Numbers

theorem isDigit_ne_nul {c : Char} (digit : isDigit c = true) : c ≠ '\x00' := by
  rintro rfl
  exact absurd digit (by decide)

/-- A run of digits ends where something else starts. -/
theorem span_digits {digits : List Char} (all : ∀ c ∈ digits, isDigit c = true)
    {more : List Char} (stops : ∀ c ∈ more.head?, isDigit c = false) :
    (digits ++ more).takeWhile isDigit = digits ∧ (digits ++ more).dropWhile isDigit = more := by
  induction digits with
  | nil =>
    cases more with
    | nil => exact ⟨rfl, rfl⟩
    | cons c more =>
      have other := stops c rfl
      simp only [List.nil_append, List.takeWhile_cons, List.dropWhile_cons, other,
        Bool.false_eq_true, if_false, and_self]
  | cons c digits ih =>
    have first := all c List.mem_cons_self
    obtain ⟨taken, dropped⟩ := ih fun d member => all d (List.mem_cons_of_mem c member)
    simp only [List.cons_append, List.takeWhile_cons, List.dropWhile_cons, first, if_true, taken,
      dropped, and_self]

/-- The rest of a run of digits, and the run without what follows it. -/
theorem exists_digits (text : List Char) :
    (∀ c ∈ text.takeWhile isDigit, isDigit c = true) ∧
      text = text.takeWhile isDigit ++ text.dropWhile isDigit :=
  ⟨fun c member => List.all_eq_true.mp List.all_takeWhile c member,
    List.takeWhile_append_dropWhile.symm⟩

theorem nul_notMem_of_digits {digits : List Char} (all : ∀ c ∈ digits, isDigit c = true) :
    '\x00' ∉ digits := fun member => isDigit_ne_nul (all _ member) rfl

/-- A fraction is empty, or a point with digits. -/
def IsFraction (text : List Char) : Prop :=
  text = [] ∨ ∃ d digits, text = '.' :: d :: digits ∧ ∀ c ∈ d :: digits, isDigit c = true

/-- An exponent is empty, or a letter, perhaps a sign, and digits. -/
def IsExponent (text : List Char) : Prop :=
  text = [] ∨ ∃ e, (e = 'e' ∨ e = 'E') ∧
    ((∃ d digits, text = e :: d :: digits ∧ ∀ c ∈ d :: digits, isDigit c = true) ∨
      ∃ s d digits, (s = '+' ∨ s = '-') ∧ text = e :: s :: d :: digits ∧
        ∀ c ∈ d :: digits, isDigit c = true)

/-- Digits without a leading zero. -/
def IsInteger (text : List Char) : Prop :=
  text = ['0'] ∨ ∃ d digits, text = d :: digits ∧ d ≠ '0' ∧ ∀ c ∈ d :: digits, isDigit c = true

/-- A number of JSON. -/
def IsNumber (text : List Char) : Prop :=
  ∃ sign integer fraction exponent, (sign = [] ∨ sign = ['-']) ∧ IsInteger integer ∧
    IsFraction fraction ∧ IsExponent exponent ∧ text = sign ++ (integer ++ (fraction ++ exponent))

theorem scanFraction_cases (text : List Char) :
    ∃ used rest, scanFraction text = (used, rest) ∧ text = used ++ rest ∧ IsFraction used := by
  unfold scanFraction
  split
  · next d tail =>
    split
    · next digit =>
      refine ⟨_, _, rfl, ?_, .inr ⟨d, tail.takeWhile isDigit, rfl, ?_⟩⟩
      · rw [List.cons_append, List.cons_append, List.takeWhile_append_dropWhile]
      · intro c member
        rcases List.mem_cons.mp member with rfl | later
        · exact digit
        · exact (exists_digits tail).1 c later
    · exact ⟨[], _, rfl, rfl, .inl rfl⟩
  · exact ⟨[], text, rfl, rfl, .inl rfl⟩

theorem scanExponent_cases (text : List Char) :
    ∃ used rest, scanExponent text = (used, rest) ∧ text = used ++ rest ∧ IsExponent used := by
  -- An exponent is taken only with a digit after the letter, or after its sign; a letter without
  -- one is left unread.
  unfold scanExponent
  split
  · next e s d tail =>
    split
    · next letter =>
      split
      · next sign =>
        refine ⟨_, _, rfl, ?_, .inr ⟨e, letter, .inr ⟨s, d, tail.takeWhile isDigit, sign.1, rfl, ?_⟩⟩⟩
        · simp only [List.cons_append, List.takeWhile_append_dropWhile]
        · intro c member
          rcases List.mem_cons.mp member with rfl | later
          · exact sign.2
          · exact (exists_digits tail).1 c later
      · split
        · next digit =>
          refine ⟨_, _, rfl, ?_, .inr ⟨e, letter, .inl ⟨s, (d :: tail).takeWhile isDigit, rfl, ?_⟩⟩⟩
          · simp only [List.cons_append, List.takeWhile_append_dropWhile]
          · intro c member
            rcases List.mem_cons.mp member with rfl | later
            · exact digit
            · exact (exists_digits (d :: tail)).1 c later
        · exact ⟨[], _, rfl, rfl, .inl rfl⟩
    · exact ⟨[], _, rfl, rfl, .inl rfl⟩
  · next e d =>
    split
    · next letter =>
      refine ⟨_, _, rfl, rfl, .inr ⟨e, letter.1, .inl ⟨d, [], rfl, ?_⟩⟩⟩
      intro c member
      rw [List.mem_singleton.mp member]
      exact letter.2
    · exact ⟨[], _, rfl, rfl, .inl rfl⟩
  · exact ⟨[], text, rfl, rfl, .inl rfl⟩

theorem isDigit_false_of_ends {more : List Char} (ends : Ends more) :
    ∀ c ∈ more.head?, isDigit c = false := by
  intro c front
  rcases ends c front with space | rfl | rfl | rfl
  · simp only [isSpace, Bool.or_eq_true, decide_eq_true_eq] at space
    rcases space with ((rfl | rfl) | rfl) | rfl <;> decide
  · decide
  · decide
  · decide

theorem ne_of_ends {more : List Char} (ends : Ends more) :
    ∀ c ∈ more.head?, c ≠ '.' ∧ c ≠ 'e' ∧ c ≠ 'E' := by
  intro c front
  rcases ends c front with space | rfl | rfl | rfl
  · simp only [isSpace, Bool.or_eq_true, decide_eq_true_eq] at space
    rcases space with ((rfl | rfl) | rfl) | rfl <;> decide
  · decide
  · decide
  · decide

theorem scanFraction_none {more : List Char} (point : ∀ c ∈ more.head?, c ≠ '.') :
    scanFraction more = ([], more) := by
  unfold scanFraction
  split
  · exact absurd rfl (point '.' rfl)
  · rfl

theorem scanFraction_digits {d : Char} {digits more : List Char}
    (all : ∀ c ∈ d :: digits, isDigit c = true) (stops : ∀ c ∈ more.head?, isDigit c = false) :
    scanFraction ('.' :: d :: digits ++ more) = ('.' :: d :: digits, more) := by
  have first := all d List.mem_cons_self
  obtain ⟨taken, dropped⟩ :=
    span_digits (fun c member => all c (List.mem_cons_of_mem d member)) stops
  simp only [List.cons_append, scanFraction, first, if_true, taken, dropped]

theorem scanExponent_none {more : List Char} (letter : ∀ c ∈ more.head?, c ≠ 'e' ∧ c ≠ 'E') :
    scanExponent more = ([], more) := by
  unfold scanExponent
  split
  · next e _ _ _ =>
    have other := letter e rfl
    rw [if_neg (by simp [other])]
  · next e _ =>
    have other := letter e rfl
    rw [if_neg (by simp [other])]
  · rfl

theorem scanExponent_digits {e d : Char} {digits more : List Char} (letter : e = 'e' ∨ e = 'E')
    (all : ∀ c ∈ d :: digits, isDigit c = true) (stops : ∀ c ∈ more.head?, isDigit c = false) :
    scanExponent (e :: d :: digits ++ more) = (e :: d :: digits, more) := by
  have first := all d List.mem_cons_self
  have unsigned : ¬ (d = '+' ∨ d = '-') := by
    rintro (rfl | rfl) <;> exact absurd first (by decide)
  obtain ⟨taken, dropped⟩ :=
    span_digits (fun c member => all c (List.mem_cons_of_mem d member)) stops
  cases tail : digits ++ more with
  | nil =>
    obtain ⟨rfl, rfl⟩ := List.append_eq_nil_iff.mp tail
    simp only [List.cons_append, List.nil_append, scanExponent, letter, first, and_self, if_true]
  | cons x tail' =>
    rw [tail] at taken dropped
    simp only [List.cons_append, tail, scanExponent, letter, unsigned, false_and, first, if_true,
      if_false, taken, dropped]

theorem scanExponent_signed {e s d : Char} {digits more : List Char} (letter : e = 'e' ∨ e = 'E')
    (sign : s = '+' ∨ s = '-') (all : ∀ c ∈ d :: digits, isDigit c = true)
    (stops : ∀ c ∈ more.head?, isDigit c = false) :
    scanExponent (e :: s :: d :: digits ++ more) = (e :: s :: d :: digits, more) := by
  have first := all d List.mem_cons_self
  obtain ⟨taken, dropped⟩ :=
    span_digits (fun c member => all c (List.mem_cons_of_mem d member)) stops
  simp only [List.cons_append, scanExponent, letter, sign, first, and_self, if_true, taken, dropped]

/-- What a number takes after its integer part. It starts with no digit. -/
theorem IsExponent.reads {exponent : List Char} (shape : IsExponent exponent) {more : List Char}
    (ends : Ends more) : scanExponent (exponent ++ more) = (exponent, more) := by
  have noDigit := isDigit_false_of_ends ends
  rcases shape with rfl | ⟨e, letter, ⟨d, digits, rfl, all⟩ | ⟨s, d, digits, sign, rfl, all⟩⟩
  · exact scanExponent_none fun c front => (ne_of_ends ends c front).2
  · exact scanExponent_digits letter all noDigit
  · exact scanExponent_signed letter sign all noDigit

/-- What follows a fraction does not go on with it. -/
theorem IsExponent.front {exponent : List Char} (shape : IsExponent exponent) {more : List Char}
    (ends : Ends more) : ∀ c ∈ (exponent ++ more).head?, isDigit c = false ∧ c ≠ '.' := by
  have noDigit := isDigit_false_of_ends ends
  intro c front
  rcases shape with rfl | ⟨e, rfl | rfl, ⟨d, digits, rfl, -⟩ | ⟨s, d, digits, -, rfl, -⟩⟩
  · exact ⟨noDigit c front, (ne_of_ends ends c front).1⟩
  all_goals
    cases front
    decide

theorem IsFraction.reads {fraction : List Char} (shape : IsFraction fraction) {more : List Char}
    (front : ∀ c ∈ more.head?, isDigit c = false ∧ c ≠ '.') :
    scanFraction (fraction ++ more) = (fraction, more) := by
  rcases shape with rfl | ⟨d, digits, rfl, all⟩
  · exact scanFraction_none fun c next => (front c next).2
  · exact scanFraction_digits all fun c next => (front c next).1

theorem finishNumber_takes {negative : Bool} {digits text rest : List Char} {v : Value}
    (finished : finishNumber negative digits text = .ok (v, rest)) :
    ∃ used, text = used ++ rest ∧ '\x00' ∉ used ∧ ∀ more, Ends more →
      (∀ c ∈ (used ++ more).head?, isDigit c = false) ∧
        finishNumber negative digits (used ++ more) = .ok (v, more) := by
  obtain ⟨fraction, tail, point, rfl, fractionShape⟩ := scanFraction_cases text
  obtain ⟨exponent, last, power, rfl, exponentShape⟩ := scanExponent_cases tail
  -- Fraction and exponent are all that is read, whether the number is a float or an integer.
  have same : last = rest := by
    simp only [finishNumber, point, power] at finished
    split at finished
    · split at finished
      · cases finished
      · exact congrArg Prod.snd (Except.ok.inj finished)
    · exact congrArg Prod.snd (Except.ok.inj finished)
  subst same
  refine ⟨fraction ++ exponent, (List.append_assoc ..).symm, ?_, ?_⟩
  · rw [List.mem_append, not_or]
    constructor
    · rcases fractionShape with rfl | ⟨d, more, rfl, all⟩
      · exact List.not_mem_nil
      · simp only [List.mem_cons, not_or]
        exact ⟨by decide, (isDigit_ne_nul (all d List.mem_cons_self)).symm,
          nul_notMem_of_digits fun c member => all c (List.mem_cons_of_mem d member)⟩
    · rcases exponentShape with rfl | ⟨e, letter, ⟨d, more, rfl, all⟩ | ⟨s, d, more, sign, rfl, all⟩⟩
      · exact List.not_mem_nil
      · rw [List.mem_cons, not_or]
        exact ⟨by rcases letter with rfl | rfl <;> decide, nul_notMem_of_digits all⟩
      · rw [List.mem_cons, not_or, List.mem_cons, not_or]
        exact ⟨by rcases letter with rfl | rfl <;> decide, by rcases sign with rfl | rfl <;> decide,
          nul_notMem_of_digits all⟩
  · intro more ends
    -- From the right: what follows ends the exponent, and the exponent or what follows it ends the
    -- fraction.
    have exponentReads := exponentShape.reads ends
    have exponentFront := exponentShape.front ends
    have fractionReads := fractionShape.reads exponentFront
    rw [List.append_assoc]
    constructor
    · intro c front
      rcases fractionShape with rfl | ⟨d, digits, rfl, -⟩
      · exact (exponentFront c front).1
      · cases front
        decide
    · simp only [finishNumber, point, power] at finished
      simp only [finishNumber, fractionReads, exponentReads]
      split at finished
      · next whole =>
        rw [if_pos whole]
        split at finished
        · cases finished
        · next short =>
          cases finished
          rw [if_neg short]
      · next float =>
        cases finished
        rw [if_neg float]

theorem scanUnsigned_digit {d : Char} (digit : isDigit d = true) (nonzero : d ≠ '0')
    (negative : Bool) (rest : List Char) :
    scanUnsigned negative (d :: rest) =
      finishNumber negative (d :: rest.takeWhile isDigit) (rest.dropWhile isDigit) := by
  rw [scanUnsigned]
  · simp only [digit, if_true]
  · exact nonzero

theorem scanUnsigned_local (negative : Bool) : Local Ends (scanUnsigned negative) := by
  intro text v rest scanned
  unfold scanUnsigned at scanned
  split at scanned
  · next tail =>
    obtain ⟨used, rfl, noNul, reads⟩ := finishNumber_takes scanned
    refine ⟨'0' :: used, rfl, List.cons_ne_nil _ _, by simp [noNul], fun more ends => ?_⟩
    exact (reads more ends).2
  · next d tail nonzero =>
    split at scanned
    · next digit =>
      obtain ⟨all, spanned⟩ := exists_digits tail
      obtain ⟨used, ends, noNul, reads⟩ := finishNumber_takes scanned
      refine ⟨d :: tail.takeWhile isDigit ++ used, ?_, by simp, ?_, fun more free => ?_⟩
      · rw [List.append_assoc, ← ends, List.cons_append, ← spanned]
      · rw [List.mem_append, List.mem_cons, not_or, not_or]
        exact ⟨⟨(isDigit_ne_nul digit).symm, nul_notMem_of_digits all⟩, noNul⟩
      · obtain ⟨front, finished⟩ := reads more free
        obtain ⟨taken, dropped⟩ := span_digits all front
        rw [List.cons_append, List.cons_append, List.append_assoc,
          scanUnsigned_digit digit nonzero, taken, dropped, finished]
    · cases scanned
  · cases scanned

theorem scanNumber_local : Local Ends scanNumber := by
  intro text v rest scanned
  unfold scanNumber at scanned
  split at scanned
  · next tail =>
    obtain ⟨used, rfl, takes⟩ := scanUnsigned_local true tail v rest scanned
    exact ⟨'-' :: used, rfl, List.cons_ne_nil _ _, by simp [takes.noNul], takes.reads⟩
  · next unsigned =>
    obtain ⟨used, rfl, takes⟩ := scanUnsigned_local false text v rest scanned
    refine ⟨used, rfl, takes.nonempty, takes.noNul, fun more ends => ?_⟩
    have positive : scanNumber (used ++ more) = scanUnsigned false (used ++ more) := by
      unfold scanNumber
      split
      · next same =>
        cases used with
        | nil => exact absurd rfl takes.nonempty
        | cons c used =>
          cases same
          exact absurd rfl (unsigned (used ++ rest))
      · rfl
    rw [positive, takes.reads more ends]

end Numbers

section Containers

/-- Blanks before a scan are skipped whatever follows, when the scan starts at something else. -/
theorem Takes.skipSpace {admissible : List Char → Prop} {scan : List Char → Scan α}
    {used : List Char} {v : α} (takes : Takes admissible scan used v) {blanks : List Char}
    (spaces : ∀ c ∈ blanks, isSpace c = true) {more : List Char}
    (front : ∀ c ∈ (used ++ more).head?, isSpace c = false) (text : List Char) :
    Python.skipSpace (blanks ++ (used ++ text)) = used ++ text := by
  rw [skipSpace_append spaces]
  cases used with
  | nil => exact absurd rfl takes.nonempty
  | cons c used => exact skipSpace_of_not (front c rfl)

theorem ends_blanks {blanks : List Char} (spaces : ∀ c ∈ blanks, isSpace c = true) {c : Char}
    (mark : c = ',' ∨ c = '}' ∨ c = ']') (more : List Char) : Ends (blanks ++ c :: more) := by
  intro d front
  cases blanks with
  | nil =>
    cases front
    exact .inr mark
  | cons b blanks =>
    cases front
    exact .inl (spaces d List.mem_cons_self)

theorem scanMember_local {value : List Char → Scan Value} (values : Local Ends value) :
    Local Ends (scanMember value) := by
  intro text member rest scanned
  unfold scanMember at scanned
  split at scanned
  · next text =>
    cases key : scanString text with
    | error e => simp [key] at scanned
    | ok read =>
      obtain ⟨name, text'⟩ := read
      simp only [key] at scanned
      obtain ⟨used, rfl, keyTakes⟩ := scanString_local text name text' key
      obtain ⟨blanks, same, spaces, -⟩ := exists_skipSpace text'
      split at scanned
      · next tail colon =>
        rw [colon] at same
        obtain ⟨blanks', same', spaces', front⟩ := exists_skipSpace tail
        cases read : value (skipSpace tail) with
        | error e => simp [read, Except.map] at scanned
        | ok found =>
          obtain ⟨v, last⟩ := found
          simp only [read, Except.map, Except.ok.injEq, Prod.mk.injEq] at scanned
          obtain ⟨rfl, rfl⟩ := scanned
          obtain ⟨used', split', takes⟩ := values (skipSpace tail) v last read
          rw [split'] at same' front
          -- What a member takes: the key, the colon between its blanks, and what the value takes.
          refine ⟨'"' :: (used ++ (blanks ++ ':' :: (blanks' ++ used'))), ?_, List.cons_ne_nil _ _,
            ?_, fun more ends => ?_⟩
          · simp only [same, same', List.cons_append, List.append_assoc]
          · simp only [List.mem_cons, List.mem_append, not_or]
            exact ⟨by decide, keyTakes.noNul, nul_notMem_of_spaces spaces, by decide,
              nul_notMem_of_spaces spaces', takes.noNul⟩
          · simp only [List.cons_append, List.append_assoc, scanMember,
              keyTakes.reads _ trivial, skipSpace_append spaces,
              skipSpace_of_not (show isSpace ':' = false by decide),
              takes.skipSpace spaces' front more, takes.reads more ends, Except.map]
      · cases scanned
  · cases scanned

/-- Elements take the same characters with any fuel that covers them. -/
theorem scanElements_takes {close : Char} (bracket : close = '}' ∨ close = ']')
    {element : List Char → Scan α} (elements : Local Ends element) (fuel : Nat) :
    ∀ text items rest, scanElements close element fuel text = .ok (items, rest) →
      ∃ used, text = used ++ rest ∧ ∀ fuel', used.length ≤ fuel' →
        Takes Always (scanElements close element fuel') used items := by
  have closes : close = ',' ∨ close = '}' ∨ close = ']' := .inr bracket
  have closePlain : isSpace close = false := by rcases bracket with rfl | rfl <;> decide
  have closeNul : '\x00' ≠ close := by rcases bracket with rfl | rfl <;> decide
  -- On the fuel of the scan at hand. The text taken is shorter than any fuel that covers it, so the
  -- same items are read again with other fuel.
  induction fuel with
  | zero => exact fun _ _ _ scanned => by cases scanned
  | succ fuel ih =>
    intro text items rest scanned
    cases read : element text with
    | error e => simp [scanElements, read] at scanned
    | ok found =>
      obtain ⟨first, tail⟩ := found
      simp only [scanElements, read] at scanned
      obtain ⟨used, rfl, takes⟩ := elements text first tail read
      obtain ⟨blanks, same, spaces, -⟩ := exists_skipSpace tail
      unfold scanMore at scanned
      split at scanned
      · next c tail' mark =>
        rw [mark] at same
        split at scanned
        · next closed =>
          subst closed
          cases scanned
          refine ⟨used ++ (blanks ++ [c]), by simp [same], fun fuel' covers => ?_⟩
          -- The last element: its blanks and the closing mark are taken with it.
          obtain ⟨fuel', rfl⟩ := Nat.exists_eq_add_of_le' (show 1 ≤ fuel' by
            simp only [List.length_append, List.length_singleton] at covers
            omega)
          refine ⟨by simp [takes.nonempty], ?_, fun more _ => ?_⟩
          · simp only [List.mem_append, List.mem_singleton, not_or]
            exact ⟨takes.noNul, nul_notMem_of_spaces spaces, closeNul⟩
          · simp only [List.append_assoc, List.cons_append, List.nil_append, scanElements,
              takes.reads _ (ends_blanks spaces closes more), skipSpace_append spaces,
              skipSpace_of_not closePlain, scanMore, if_true]
        · next open_ =>
          split at scanned
          · next comma =>
            subst comma
            obtain ⟨blanks', same', spaces', front⟩ := exists_skipSpace tail'
            cases later : scanElements close element fuel (skipSpace tail') with
            | error e => simp [later, Except.map] at scanned
            | ok found =>
              obtain ⟨others, last⟩ := found
              simp only [later, Except.map, Except.ok.injEq, Prod.mk.injEq] at scanned
              obtain ⟨rfl, rfl⟩ := scanned
              -- Another element follows the comma and the blanks after it.
              obtain ⟨used', split', others'⟩ := ih (skipSpace tail') others last later
              rw [split'] at same' front
              refine ⟨used ++ (blanks ++ ',' :: (blanks' ++ used')), by simp [same, same'],
                fun fuel' covers => ?_⟩
              simp only [List.length_append, List.length_cons] at covers
              obtain ⟨fuel', rfl⟩ := Nat.exists_eq_add_of_le' (show 1 ≤ fuel' by omega)
              have laterTakes := others' fuel' (by omega)
              refine ⟨by simp [takes.nonempty], ?_, fun more free => ?_⟩
              · simp only [List.mem_append, List.mem_cons, not_or]
                exact ⟨takes.noNul, nul_notMem_of_spaces spaces, by decide,
                  nul_notMem_of_spaces spaces', laterTakes.noNul⟩
              · simp only [List.append_assoc, List.cons_append, scanElements,
                  takes.reads _ (ends_blanks spaces (.inl rfl) _), skipSpace_append spaces,
                  skipSpace_of_not (show isSpace ',' = false by decide), scanMore, if_neg open_,
                  if_true, laterTakes.skipSpace spaces' front more, laterTakes.reads more free,
                  Except.map]
          · cases scanned
      · cases scanned

theorem scanContainer_local {close : Char} (bracket : close = '}' ∨ close = ']')
    {element : List Char → Scan α} (elements : Local Ends element) :
    Local Always (scanContainer close element) := by
  have closePlain : isSpace close = false := by rcases bracket with rfl | rfl <;> decide
  have closeNul : '\x00' ≠ close := by rcases bracket with rfl | rfl <;> decide
  intro text items rest scanned
  obtain ⟨blanks, same, spaces, front⟩ := exists_skipSpace text
  unfold scanContainer at scanned
  split at scanned
  · cases scanned
  · next c tail found =>
    rw [found] at same front
    split at scanned
    · next closed =>
      subst closed
      cases scanned
      refine ⟨blanks ++ [c], by simp [same], by simp, ?_, fun more _ => ?_⟩
      · rw [List.mem_append, List.mem_singleton, not_or]
        exact ⟨nul_notMem_of_spaces spaces, closeNul⟩
      · simp only [List.append_assoc, List.cons_append, List.nil_append, scanContainer,
          skipSpace_append spaces, skipSpace_of_not closePlain, if_true]
    · next open_ =>
      obtain ⟨used, split', reads⟩ := scanElements_takes bracket elements _ _ items rest scanned
      have nonempty := (reads used.length (Nat.le_refl _)).nonempty
      have noNul := (reads used.length (Nat.le_refl _)).noNul
      refine ⟨blanks ++ used, by rw [same, split', List.append_assoc], by simp [nonempty], ?_, ?_⟩
      · rw [List.mem_append, not_or]
        exact ⟨nul_notMem_of_spaces spaces, noNul⟩
      · intro more free
        -- The first character of the elements is no blank, so skipping the blanks stops at it.
        cases used with
        | nil => exact absurd rfl nonempty
        | cons d used =>
          cases split'
          have plain := front c rfl
          have takes := reads (c :: used ++ more).length (by simp)
          simp only [List.append_assoc, List.cons_append, scanContainer, skipSpace_append spaces,
            skipSpace_of_not plain, if_neg open_]
          exact takes.reads more free

end Containers

section Values

variable {hook : Nat}

attribute [local simp] scanValue in
theorem scanValue_number (limit : Nat) {text rest : List Char} {v : Value}
    (scanned : scanNumber text = .ok (v, rest)) : scanValue hook limit text = .ok (v, rest) := by
  -- A number starts with a sign or a digit, which is the mark of no other kind of value.
  have start : ∀ c ∈ text.head?, c = '-' ∨ isDigit c = true := by
    intro c front
    cases text with
    | nil => cases front
    | cons d text =>
      cases front
      unfold scanNumber at scanned
      split at scanned
      · next same =>
        cases same
        exact .inl rfl
      · unfold scanUnsigned at scanned
        split at scanned
        · next same =>
          cases same
          exact .inr (by decide)
        · next same =>
          cases same
          split at scanned
          · next digit => exact .inr digit
          · cases scanned
        · next same => cases same
  rw [← scanned]
  unfold scanValue
  split
  all_goals first
    | rfl
    | (rcases start _ rfl with same | digit
       · exact absurd same (by decide)
       · exact absurd digit (by decide))

/-- The hook is called, and finds the keys distinct. -/
theorem strictObject_ok {limit : Nat} {scanned : Scan (List (Str × Value))} {rest : List Char}
    {v : Value} (accepted : strictObject hook limit scanned = .ok (v, rest)) :
    ∃ members, scanned = .ok (members, rest) ∧ v = .dict members ∧ hook ≤ limit ∧
      (members.map Prod.fst).Nodup := by
  cases scanned with
  | error e => cases accepted
  | ok found =>
    rw [strictObject] at accepted
    split at accepted
    · cases accepted
    · next called =>
      split at accepted
      · next distinct =>
        cases accepted
        exact ⟨_, rfl, rfl, Nat.le_of_not_lt called, distinct⟩
      · cases accepted

theorem scanObject_local {limit : Nat} (values : Local Ends (scanValue hook limit)) :
    Local Always fun text =>
      strictObject hook limit (scanContainer '}' (scanMember (scanValue hook limit)) text) := by
  intro text v rest scanned
  obtain ⟨members, read, rfl, called, distinct⟩ := strictObject_ok scanned
  obtain ⟨used, rfl, takes⟩ :=
    scanContainer_local (.inl rfl) (scanMember_local values) text members _ read
  refine ⟨used, rfl, takes.nonempty, takes.noNul, fun more free => ?_⟩
  simp only [takes.reads more free, strictObject, if_neg (Nat.not_lt.mpr called), if_pos distinct]

theorem scanString_takes {limit : Nat} {text rest : List Char} {v : Value}
    (scanned : (scanString text).map (fun (s, rest) => (Value.string s, rest)) = .ok (v, rest)) :
    ∃ used, '"' :: text = used ++ rest ∧ Takes Always (scanValue hook limit) used v := by
  cases read : scanString text with
  | error e => simp [read, Except.map] at scanned
  | ok found =>
    obtain ⟨s, tail⟩ := found
    simp only [read, Except.map, Except.ok.injEq, Prod.mk.injEq] at scanned
    obtain ⟨rfl, rfl⟩ := scanned
    obtain ⟨used, rfl, takes⟩ := scanString_local text s tail read
    refine ⟨'"' :: used, rfl, List.cons_ne_nil _ _, by simp [takes.noNul], fun more free => ?_⟩
    simp only [List.cons_append, scanValue, takes.reads more free, Except.map]

theorem Takes.mono {admissible stronger : List Char → Prop} {scan : List Char → Scan α}
    {used : List Char} {v : α} (takes : Takes admissible scan used v)
    (implied : ∀ more, stronger more → admissible more) : Takes stronger scan used v :=
  ⟨takes.nonempty, takes.noNul, fun more holds => takes.reads more (implied more holds)⟩

theorem number_takes {limit : Nat} {text rest : List Char} {v : Value}
    (scanned : scanNumber text = .ok (v, rest)) :
    ∃ used, text = used ++ rest ∧ Takes Ends (scanValue hook limit) used v := by
  obtain ⟨used, same, takes⟩ := scanNumber_local text v rest scanned
  exact ⟨used, same, takes.nonempty, takes.noNul, fun more ends =>
    scanValue_number limit (takes.reads more ends)⟩

def constants : List (List Char × Value) :=
  [(['n', 'u', 'l', 'l'], .null), (['t', 'r', 'u', 'e'], .bool true),
    (['f', 'a', 'l', 's', 'e'], .bool false)]

theorem constant_takes {limit : Nat} {word : List Char} {v : Value}
    (constant : (word, v) ∈ constants) : Takes Ends (scanValue hook limit) word v := by
  simp only [constants, List.mem_cons, List.not_mem_nil, or_false, Prod.mk.injEq] at constant
  rcases constant with ⟨rfl, rfl⟩ | ⟨rfl, rfl⟩ | ⟨rfl, rfl⟩
  all_goals exact ⟨List.cons_ne_nil _ _, by decide, fun more _ => by simp [scanValue]⟩

/-- A value is a string, an object, a list, a constant or a number. -/
theorem scanValue_cases {limit : Nat} {text rest : List Char} {v : Value}
    (scanned : scanValue hook limit text = .ok (v, rest)) :
    (∃ tail, text = '"' :: tail ∧
      (scanString tail).map (fun (s, rest) => (Value.string s, rest)) = .ok (v, rest)) ∨
    (∃ levels tail, limit = levels + 1 ∧ text = '{' :: tail ∧
      strictObject hook levels (scanContainer '}' (scanMember (scanValue hook levels)) tail) = .ok (v, rest)) ∨
    (∃ levels tail, limit = levels + 1 ∧ text = '[' :: tail ∧
      (scanContainer ']' (scanValue hook levels) tail).map
        (fun (items, rest) => (Value.list items, rest)) = .ok (v, rest)) ∨
    (∃ word, (word, v) ∈ constants ∧ text = word ++ rest) ∨
    scanNumber text = .ok (v, rest) := by
  unfold scanValue at scanned
  split at scanned
  · exact .inl ⟨_, rfl, scanned⟩
  · cases scanned
  · cases scanned
  · exact .inr (.inl ⟨_, _, rfl, rfl, scanned⟩)
  · exact .inr (.inr (.inl ⟨_, _, rfl, rfl, scanned⟩))
  · cases scanned
    exact .inr (.inr (.inr (.inl ⟨['n', 'u', 'l', 'l'], by simp [constants], rfl⟩)))
  · cases scanned
    exact .inr (.inr (.inr (.inl ⟨['t', 'r', 'u', 'e'], by simp [constants], rfl⟩)))
  · cases scanned
    exact .inr (.inr (.inr (.inl ⟨['f', 'a', 'l', 's', 'e'], by simp [constants], rfl⟩)))
  · exact .inr (.inr (.inr (.inr scanned)))

/-- The induction is on the levels of nesting left. -/
theorem scanValue_local (limit : Nat) : Local Ends (scanValue hook limit) := by
  have always : ∀ more, Ends more → Always more := fun _ _ => trivial
  induction limit using Nat.strongRecOn with
  | ind limit ih =>
    intro text v rest scanned
    rcases scanValue_cases scanned with ⟨tail, rfl, inner⟩ | ⟨levels, tail, rfl, rfl, inner⟩ |
      ⟨levels, tail, rfl, rfl, inner⟩ | ⟨word, constant, rfl⟩ | number
    · obtain ⟨used, same, takes⟩ := scanString_takes inner
      exact ⟨used, same, takes.mono always⟩
    · have values := ih levels (Nat.lt_succ_self levels)
      obtain ⟨used, rfl, takes⟩ := scanObject_local values tail v rest inner
      exact ⟨'{' :: used, rfl, List.cons_ne_nil _ _, by simp [takes.noNul],
        fun more _ => takes.reads more trivial⟩
    · have values := ih levels (Nat.lt_succ_self levels)
      cases read : scanContainer ']' (scanValue hook levels) tail with
      | error e => simp [read, Except.map] at inner
      | ok found =>
        obtain ⟨items, last⟩ := found
        simp only [read, Except.map, Except.ok.injEq, Prod.mk.injEq] at inner
        obtain ⟨rfl, rfl⟩ := inner
        obtain ⟨used, rfl, takes⟩ := scanContainer_local (.inr rfl) values tail items last read
        refine ⟨'[' :: used, rfl, List.cons_ne_nil _ _, by simp [takes.noNul], fun more _ => ?_⟩
        simp only [List.cons_append, scanValue, takes.reads more trivial, Except.map]
    · exact ⟨word, rfl, constant_takes constant⟩
    · exact number_takes number

/-- A text that is cut off inside an object is not a text of any object: what a whole object
takes is a whole object wherever it stands. -/
theorem scanValue_object_append {limit : Nat} {text rest : List Char} {v : Value}
    (scanned : scanValue hook limit ('{' :: text) = .ok (v, rest)) (more : List Char) :
    scanValue hook limit ('{' :: text ++ more) = .ok (v, rest ++ more) := by
  cases limit with
  | zero => cases scanned
  | succ limit =>
    obtain ⟨used, rfl, takes⟩ := scanObject_local (scanValue_local limit) text v rest scanned
    rw [List.cons_append, List.append_assoc]
    exact takes.reads (rest ++ more) trivial

section Objects

variable {limit : Nat} {members : List (Str × Value)}

theorem finishNumber_number {negative : Bool} {digits text rest : List Char} {v : Value}
    (finished : finishNumber negative digits text = .ok (v, rest)) :
    (∃ n, v = .int n) ∨ ∃ literal, v = .float literal := by
  simp only [finishNumber] at finished
  split at finished
  · split at finished
    · cases finished
    · cases finished
      exact .inl ⟨_, rfl⟩
  · cases finished
    exact .inr ⟨_, rfl⟩

/-- A number is an integer or a float. -/
theorem scanNumber_number {text rest : List Char} {v : Value}
    (scanned : scanNumber text = .ok (v, rest)) :
    (∃ n, v = .int n) ∨ ∃ literal, v = .float literal := by
  have unsigned (negative : Bool) (text : List Char)
      (scanned : scanUnsigned negative text = .ok (v, rest)) :
      (∃ n, v = .int n) ∨ ∃ literal, v = .float literal := by
    unfold scanUnsigned at scanned
    split at scanned
    · exact finishNumber_number scanned
    · split at scanned
      · exact finishNumber_number scanned
      · cases scanned
    · cases scanned
  unfold scanNumber at scanned
  split at scanned
  · exact unsigned true _ scanned
  · exact unsigned false _ scanned

/-- A text that loads to an object is one object between blanks. -/
theorem loads_dict {text : List Char} (loaded : loads hook limit text = .ok (.dict members)) :
    ∃ tail rest, skipSpace text = '{' :: tail ∧
      scanValue hook limit ('{' :: tail) = .ok (.dict members, rest) ∧ skipSpace rest = [] := by
  unfold loads at loaded
  split at loaded
  · cases loaded
  · split at loaded
    · next v rest scanned =>
      split at loaded
      · next blank =>
        cases loaded
        rcases scanValue_cases scanned with ⟨tail, same, inner⟩ | ⟨levels, tail, rfl, same, inner⟩ |
          ⟨levels, tail, rfl, same, inner⟩ | ⟨word, constant, -⟩ | number
        · cases read : scanString tail <;> simp [read, Except.map] at inner
        · exact ⟨tail, rest, same, same ▸ scanned, List.isEmpty_iff.mp blank⟩
        · cases read : scanContainer ']' (scanValue hook levels) tail <;>
            simp [read, Except.map] at inner
        · simp [constants] at constant
        · rcases scanNumber_number number with ⟨n, same⟩ | ⟨literal, same⟩ <;> cases same
      · cases loaded
    · cases loaded

end Objects

/-- No text with a NUL character is JSON. -/
theorem nul_notMem_of_loads {limit : Nat} {text : List Char} {v : Value}
    (loaded : loads hook limit text = .ok v) : '\x00' ∉ text := by
  unfold loads at loaded
  split at loaded
  · cases loaded
  · split at loaded
    · next found rest scanned =>
      split at loaded
      · next blank =>
        obtain ⟨blanks, same, spaces, -⟩ := exists_skipSpace text
        obtain ⟨used, split', takes⟩ := scanValue_local limit _ _ _ scanned
        obtain ⟨blanks', same', spaces', -⟩ := exists_skipSpace rest
        rw [List.isEmpty_iff.mp blank, List.append_nil] at same'
        rw [same, split', same']
        simp only [List.mem_append, not_or]
        exact ⟨nul_notMem_of_spaces spaces, takes.noNul, nul_notMem_of_spaces spaces'⟩
      · cases loaded
    · cases loaded

end Values

end SimpleVM.Python
