import SimpleVM.Python.Locality

/-!
# Code points

A list of numbers is more than a Python string can hold. What the decoder reads is one: each number
is a code point.
-/
namespace SimpleVM.Python

variable {α : Type} {hook : Nat}

/-- A string of Python holds code points only. -/
def IsPython (s : Str) : Prop := ∀ n ∈ s, n < 0x110000

theorem hexDigit_lt {c : Char} {n : Nat} (digit : hexDigit c = some n) : n < 16 := by
  have order (a b : Char) (below : a ≤ b) : a.toNat ≤ b.toNat := below
  unfold hexDigit at digit
  split at digit
  · next range =>
    have high := order c '9' range.2
    have nine : '9'.toNat = 57 := rfl
    have zero : '0'.toNat = 48 := rfl
    cases digit
    omega
  · split at digit
    · next range =>
      have high := order c 'f' range.2
      have last : 'f'.toNat = 102 := rfl
      have first : 'a'.toNat = 97 := rfl
      cases digit
      omega
    · split at digit
      · next range =>
        have high := order c 'F' range.2
        have last : 'F'.toNat = 70 := rfl
        have first : 'A'.toNat = 65 := rfl
        cases digit
        omega
      · cases digit

theorem hex4_lt {a b c d : Char} {n : Nat} (code : hex4 a b c d = some n) : n < 0x10000 := by
  simp only [hex4, Option.pure_def, Option.bind_eq_bind, Option.bind_eq_some_iff,
    Option.some.injEq] at code
  obtain ⟨w, first, x, second, y, third, z, fourth, rfl⟩ := code
  have := hexDigit_lt first
  have := hexDigit_lt second
  have := hexDigit_lt third
  have := hexDigit_lt fourth
  omega

theorem unescape_lt {c : Char} {n : Nat} (letter : unescape c = some n) : n < 0x80 := by
  unfold unescape at letter
  split at letter <;> cases letter <;> decide

theorem toNat_lt (c : Char) : c.toNat < 0x110000 := by
  have valid := c.valid
  simp only [UInt32.isValidChar, Nat.isValidChar] at valid
  simp only [Char.toNat]
  omega

theorem scanUnits_isPython {text rest : List Char} {s : Str}
    (scanned : scanUnits text = .ok (s, rest)) : IsPython s := by
  -- Every code unit that is put in front is below the bound, whichever escape or character it came
  -- from.
  have more {n : Nat} {text : List Char} {s : Str} (small : n < 0x110000)
      (ih : ∀ {s : Str}, scanUnits text = .ok (s, rest) → IsPython s)
      (scanned : prepend n (scanUnits text) = .ok (s, rest)) : IsPython s := by
    obtain ⟨t, rfl, later⟩ := prepend_ok.mp scanned
    intro m member
    rcases List.mem_cons.mp member with rfl | inside
    · exact small
    · exact ih later m inside
  induction text using scanUnits.induct generalizing s with
  | case1 => cases scanned
  | case2 tail =>
    cases scanned
    exact fun _ member => by cases member
  | case3 a b c d tail n code ih =>
    simp only [scanUnits, code] at scanned
    have small := hex4_lt code
    exact more (by omega) ih scanned
  | case4 a b c d tail code =>
    simp only [scanUnits, code] at scanned
    cases scanned
  | case5 tail c other n letter ih =>
    rw [scanUnits_letter letter] at scanned
    have small := unescape_lt letter
    exact more (by omega) ih scanned
  | case6 tail c other letter =>
    rw [scanUnits] at scanned
    · simp only [letter] at scanned
      cases scanned
    · exact other
  | case7 c tail quote unicode escape control =>
    rw [scanUnits] at scanned
    · simp only [control, if_true] at scanned
      cases scanned
    · exact quote
    · exact unicode
    · exact escape
  | case8 c tail quote unicode escape printed ih =>
    rw [scanUnits] at scanned
    · simp only [printed, if_false] at scanned
      exact more (toNat_lt c) ih scanned
    · exact quote
    · exact unicode
    · exact escape

theorem joinSurrogates_isPython {s : Str} (python : IsPython s) : IsPython (joinSurrogates s) := by
  induction s using joinSurrogates.induct with
  | case1 high low rest pair ih =>
    rw [joinSurrogates, if_pos pair]
    simp only [isHigh, isLow, Bool.and_eq_true, decide_eq_true_eq] at pair
    intro n member
    rcases List.mem_cons.mp member with same | inside
    · rw [same]
      omega
    · exact ih (fun m member => python m (List.mem_cons_of_mem _ (List.mem_cons_of_mem _ member))) n inside
  | case2 high low rest single ih =>
    rw [joinSurrogates, if_neg single]
    intro n member
    rcases List.mem_cons.mp member with rfl | inside
    · exact python _ List.mem_cons_self
    · exact ih (fun m member => python m (List.mem_cons_of_mem _ member)) n inside
  | case3 s short =>
    rw [joinSurrogates]
    · exact python
    · exact short

theorem scanString_isPython {text rest : List Char} {s : Str}
    (scanned : scanString text = .ok (s, rest)) : IsPython s := by
  cases units : scanUnits text with
  | error e => simp [scanString, units, Except.map] at scanned
  | ok read =>
    simp only [scanString, units, Except.map, Except.ok.injEq, Prod.mk.injEq] at scanned
    obtain ⟨rfl, rfl⟩ := scanned
    exact joinSurrogates_isPython (scanUnits_isPython units)

/-- Every element of a container was scanned somewhere. -/
theorem scanElements_each {close : Char} {element : List Char → Scan α} {fuel : Nat}
    {text rest : List Char} {items : List α}
    (scanned : scanElements close element fuel text = .ok (items, rest)) :
    ∀ item ∈ items, ∃ at_ left, element at_ = .ok (item, left) := by
  -- On the fuel: the first item was read here, the others after the comma.
  induction fuel generalizing text items rest with
  | zero => cases scanned
  | succ fuel ih =>
    cases read : element text with
    | error e => simp [scanElements, read] at scanned
    | ok found =>
      obtain ⟨first, tail⟩ := found
      simp only [scanElements, read] at scanned
      unfold scanMore at scanned
      intro item member
      split at scanned
      · split at scanned
        · cases scanned
          rw [List.mem_singleton.mp member]
          exact ⟨text, tail, read⟩
        · split at scanned
          · next after _ _ _ =>
            cases later : scanElements close element fuel (skipSpace after) with
            | error e => simp [later, Except.map] at scanned
            | ok others =>
              simp only [later, Except.map, Except.ok.injEq, Prod.mk.injEq] at scanned
              obtain ⟨rfl, rfl⟩ := scanned
              rcases List.mem_cons.mp member with rfl | inside
              · exact ⟨text, tail, read⟩
              · exact ih later item inside
          · cases scanned
      · cases scanned

theorem scanContainer_each {close : Char} {element : List Char → Scan α} {text rest : List Char}
    {items : List α} (scanned : scanContainer close element text = .ok (items, rest)) :
    ∀ item ∈ items, ∃ at_ left, element at_ = .ok (item, left) := by
  unfold scanContainer at scanned
  split at scanned
  · cases scanned
  · split at scanned
    · cases scanned
      exact fun _ member => by cases member
    · exact scanElements_each scanned

theorem string_isPython {limit : Nat} {text rest : List Char} {s : Str}
    (scanned : scanValue hook limit text = .ok (.string s, rest)) : IsPython s := by
  rcases scanValue_cases scanned with ⟨tail, rfl, inner⟩ | ⟨levels, tail, rfl, rfl, inner⟩ |
    ⟨levels, tail, rfl, rfl, inner⟩ | ⟨word, constant, rfl⟩ | number
  · cases read : scanString tail with
    | error e => simp [read, Except.map] at inner
    | ok found =>
      simp only [read, Except.map, Except.ok.injEq, Prod.mk.injEq, Value.string.injEq] at inner
      obtain ⟨rfl, -⟩ := inner
      exact scanString_isPython read
  · obtain ⟨members, -, same, -⟩ := strictObject_ok inner
    cases same
  · cases read : scanContainer ']' (scanValue hook levels) tail <;> simp [read, Except.map] at inner
  · simp [constants] at constant
  · rcases scanNumber_number number with ⟨n, same⟩ | ⟨literal, same⟩ <;> cases same

/-- A string that stands directly in a decoded object. -/
theorem member_isPython {limit : Nat} {text : List Char} {members : List (Str × Value)}
    (loaded : loads hook limit text = .ok (.dict members)) {key s : Str}
    (member : (key, .string s) ∈ members) : IsPython s := by
  obtain ⟨tail, rest, -, scanned, -⟩ := loads_dict loaded
  cases limit with
  | zero => simp [scanValue] at scanned
  | succ levels =>
    simp only [scanValue] at scanned
    obtain ⟨_, read, same, -⟩ := strictObject_ok scanned
    cases same
    -- Only `scanMember` makes a member, and its value was scanned one level below.
    obtain ⟨at_, left, element⟩ := scanContainer_each read _ member
    unfold scanMember at element
    split at element
    · split at element
      · cases element
      · split at element
        · next _ _ _ _ after _ =>
          cases value : scanValue hook levels (skipSpace after) with
          | error e => simp [value, Except.map] at element
          | ok pair =>
            obtain ⟨v, later⟩ := pair
            simp only [value, Except.map, Except.ok.injEq, Prod.mk.injEq] at element
            obtain ⟨⟨-, rfl⟩, -⟩ := element
            exact string_isPython value
        · cases element
    · cases element

end SimpleVM.Python
