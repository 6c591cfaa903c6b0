import SimpleVM.Python.CodePoints
import SimpleVM.Python.Nesting

/-!
# What the decoder makes

Every value that `json.loads` returns holds strings of Python, integers that `str()` converts back,
floats read from a number, and dicts whose keys are distinct.
-/
namespace SimpleVM.Python

inductive Loaded : Value → Prop
  | null : Loaded .null
  | bool (b : Bool) : Loaded (.bool b)
  | int (n : Int) : (Nat.toDigits 10 n.natAbs).length ≤ maxStrDigits → Loaded (.int n)
  | float (literal : List Char) : IsNumber literal → Loaded (.float literal)
  | string (s : Str) : IsPython s → Loaded (.string s)
  | list (items : List Value) : (∀ item ∈ items, Loaded item) → Loaded (.list items)
  | dict (members : List (Str × Value)) : (members.map Prod.fst).Nodup →
      (∀ member ∈ members, IsPython member.1) → (∀ member ∈ members, Loaded member.2) →
      Loaded (.dict members)

theorem Loaded.shortInts {v : Value} (loaded : Loaded v) : ShortInts v := by
  induction loaded with
  | null => exact .null
  | bool b => exact .bool b
  | int n short => exact .int n short
  | float literal _ => exact .float literal
  | string s _ => exact .string s
  | list items _ ih => exact .list items ih
  | dict members _ _ _ ih => exact .dict members ih

section Numbers

theorem digitsValue_lt (digits : List Char) (all : ∀ c ∈ digits, isDigit c = true) :
    digitsValue digits < Nat.pow 10 digits.length := by
  rw [Nat.pow_eq]
  have fold (digits : List Char) (all : ∀ c ∈ digits, isDigit c = true) (n m : Nat) (small : n < m) :
      digits.foldl (fun n d => n * 10 + (d.toNat - '0'.toNat)) n < m * 10 ^ digits.length := by
    induction digits generalizing n m with
    | nil => simpa using small
    | cons d digits ih =>
      have digit := all d List.mem_cons_self
      simp only [isDigit, Bool.and_eq_true, decide_eq_true_eq] at digit
      have nine : d.toNat ≤ '9'.toNat := digit.2
      have value : n * 10 + (d.toNat - '0'.toNat) < m * 10 := by
        have : '9'.toNat = 57 := rfl
        have : '0'.toNat = 48 := rfl
        omega
      have rest := ih (fun c member => all c (List.mem_cons_of_mem d member)) _ _ value
      rwa [List.foldl_cons, List.length_cons, Nat.pow_succ', ← Nat.mul_assoc]
  have whole := fold digits all 0 1 (by decide)
  rwa [Nat.one_mul] at whole

/-- Digits that were read are at least as many as the number is written with. -/
theorem length_toDigits_digitsValue {digits : List Char} (nonempty : digits ≠ [])
    (all : ∀ c ∈ digits, isDigit c = true) :
    (Nat.toDigits 10 (digitsValue digits)).length ≤ digits.length := by
  have positive := List.length_pos_iff.mpr nonempty
  rw [Nat.length_toDigits_le_iff (by decide) positive]
  exact digitsValue_lt digits all

theorem IsInteger.digits {digits : List Char} (whole : IsInteger digits) :
    digits ≠ [] ∧ ∀ c ∈ digits, isDigit c = true := by
  rcases whole with rfl | ⟨d, more, rfl, -, all⟩
  · refine ⟨by simp, fun c member => ?_⟩
    rw [List.mem_singleton.mp member]
    rfl
  · exact ⟨by simp, all⟩

theorem finishNumber_loaded {negative : Bool} {digits text rest : List Char} {v : Value}
    (whole : IsInteger digits) (finished : finishNumber negative digits text = .ok (v, rest)) :
    Loaded v := by
  obtain ⟨nonempty, all⟩ := whole.digits
  obtain ⟨fraction, afterPoint, point, -, fractional⟩ := scanFraction_cases text
  obtain ⟨exponent, afterPower, power, -, exponential⟩ := scanExponent_cases afterPoint
  simp only [finishNumber, point, power] at finished
  split at finished
  · split at finished
    · cases finished
    · next short =>
      cases finished
      apply Loaded.int
      have same : (if negative then -(digitsValue digits : Int) else digitsValue digits).natAbs =
          digitsValue digits := by
        cases negative <;> simp
      rw [same]
      exact Nat.le_trans (length_toDigits_digitsValue nonempty all) (Nat.le_of_not_lt short)
  · cases finished
    refine .float _ ⟨if negative then ['-'] else [], digits, fraction, exponent, ?_, whole,
      fractional, exponential, by simp⟩
    cases negative
    · exact .inl rfl
    · exact .inr rfl

theorem takeWhile_digits {text : List Char} {c : Char} (member : c ∈ text.takeWhile isDigit) :
    isDigit c = true :=
  List.all_eq_true.mp List.all_takeWhile c member

theorem scanNumber_loaded {text rest : List Char} {v : Value}
    (scanned : scanNumber text = .ok (v, rest)) : Loaded v := by
  have unsigned (negative : Bool) (text : List Char)
      (scanned : scanUnsigned negative text = .ok (v, rest)) : Loaded v := by
    unfold scanUnsigned at scanned
    split at scanned
    · exact finishNumber_loaded (.inl rfl) scanned
    · next d tail nonzero =>
      split at scanned
      · next digit =>
        have first : d ≠ '0' := by
          rintro rfl
          exact nonzero rfl
        refine finishNumber_loaded (.inr ⟨d, _, rfl, first, fun c member => ?_⟩) scanned
        rcases List.mem_cons.mp member with rfl | inside
        · exact digit
        · exact takeWhile_digits inside
      · cases scanned
    · cases scanned
  unfold scanNumber at scanned
  split at scanned
  · exact unsigned true _ scanned
  · exact unsigned false _ scanned

end Numbers

/-- A member is a key and a value, each from its scanner. -/
theorem scanMember_ok {value : List Char → Scan Value} {text rest : List Char} {key : Str}
    {v : Value} (scanned : scanMember value text = .ok ((key, v), rest)) :
    IsPython key ∧ ∃ at_, value at_ = .ok (v, rest) := by
  unfold scanMember at scanned
  split at scanned
  · split at scanned
    · cases scanned
    · next read =>
      split at scanned
      · next after _ =>
        cases inner : value (skipSpace after) with
        | error e => simp [inner, Except.map] at scanned
        | ok pair =>
          obtain ⟨w, left⟩ := pair
          simp only [inner, Except.map, Except.ok.injEq, Prod.mk.injEq] at scanned
          obtain ⟨⟨rfl, rfl⟩, rfl⟩ := scanned
          exact ⟨scanString_isPython read, _, inner⟩
      · cases scanned
  · cases scanned

variable {hook : Nat}

/-- A value is made of values of the level below. -/
theorem scanValue_loaded_of {limit : Nat}
    (below : ∀ levels, limit = levels + 1 → ∀ {text rest : List Char} {v : Value},
      scanValue hook levels text = .ok (v, rest) → Loaded v)
    {text rest : List Char} {v : Value} (scanned : scanValue hook limit text = .ok (v, rest)) :
    Loaded v := by
  -- A string, an object, an array, one of the constants or a number.
  rcases scanValue_cases scanned with ⟨tail, rfl, inner⟩ | ⟨levels, tail, rfl, rfl, inner⟩ |
    ⟨levels, tail, rfl, rfl, inner⟩ | ⟨word, constant, rfl⟩ | number
  · cases read : scanString tail with
    | error e => simp [read, Except.map] at inner
    | ok found =>
      obtain ⟨s, left⟩ := found
      simp only [read, Except.map, Except.ok.injEq, Prod.mk.injEq] at inner
      obtain ⟨rfl, -⟩ := inner
      exact .string s (scanString_isPython read)
  · obtain ⟨members, read, rfl, -, distinct⟩ := strictObject_ok inner
    have each := scanContainer_each read
    refine .dict members distinct (fun member inside => ?_) fun member inside => ?_
    · obtain ⟨at_, after, element⟩ := each member inside
      exact (scanMember_ok element).1
    · obtain ⟨at_, after, element⟩ := each member inside
      obtain ⟨-, start, value⟩ := scanMember_ok element
      exact below levels rfl value
  · cases read : scanContainer ']' (scanValue hook levels) tail with
    | error e => simp [read, Except.map] at inner
    | ok found =>
      obtain ⟨items, left⟩ := found
      simp only [read, Except.map, Except.ok.injEq, Prod.mk.injEq] at inner
      obtain ⟨rfl, -⟩ := inner
      refine .list items fun item member => ?_
      obtain ⟨at_, after, element⟩ := scanContainer_each read item member
      exact below levels rfl element
  · simp only [constants, List.mem_cons, Prod.mk.injEq, List.not_mem_nil, or_false] at constant
    rcases constant with ⟨-, rfl⟩ | ⟨-, rfl⟩ | ⟨-, rfl⟩
    · exact .null
    · exact .bool true
    · exact .bool false
  · exact scanNumber_loaded number

theorem scanValue_loaded {limit : Nat} {text rest : List Char} {v : Value}
    (scanned : scanValue hook limit text = .ok (v, rest)) : Loaded v := by
  induction limit generalizing text rest v with
  | zero => exact scanValue_loaded_of (by intro levels none; cases none) scanned
  | succ limit ih =>
    refine scanValue_loaded_of (fun levels same => ?_) scanned
    cases same
    exact ih

theorem loads_loaded {limit : Nat} {text : List Char} {v : Value}
    (loaded : loads hook limit text = .ok v) : Loaded v := by
  unfold loads at loaded
  split at loaded
  · cases loaded
  · split at loaded
    · next scanned =>
      split at loaded
      · cases loaded
        exact scanValue_loaded scanned
      · cases loaded
    · cases loaded

end SimpleVM.Python
