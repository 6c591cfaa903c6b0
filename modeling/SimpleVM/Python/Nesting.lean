import SimpleVM.Effects.Result
import SimpleVM.Python.Json

/-!
# What the encoder takes

`json.dumps` recurses once for each level of lists and objects, so it exceeds the interpreter's
limit only on values that nest deeper. Other than that it refuses only integers of too many digits.
-/
namespace SimpleVM.Python

open Effects

/-- Lists and objects stand in one another at most so deep. -/
def NestsWithin : Nat → Value → Prop
  | 0, .list _ => False
  | 0, .dict _ => False
  | levels + 1, .list items => ∀ item ∈ items, NestsWithin levels item
  | levels + 1, .dict members => ∀ member ∈ members, NestsWithin levels member.2
  | _, _ => True

/-- `str()` converts every integer in the value. -/
inductive ShortInts : Value → Prop
  | null : ShortInts .null
  | bool (b : Bool) : ShortInts (.bool b)
  | int (n : Int) : (Nat.toDigits 10 n.natAbs).length ≤ maxStrDigits → ShortInts (.int n)
  | float (literal : List Char) : ShortInts (.float literal)
  | string (s : Str) : ShortInts (.string s)
  | list (items : List Value) : (∀ item ∈ items, ShortInts item) → ShortInts (.list items)
  | dict (members : List (Str × Value)) : (∀ member ∈ members, ShortInts member.2) →
      ShortInts (.dict members)

/-- What `dumps` writes for a member. -/
def dumpsMember (floatRepr : FloatRepr) (limit : Nat) (member : Str × Value) :
    Except DumpsError Str := do
  return dumpsString member.1 ++ [0x3a] ++ (← dumps floatRepr limit member.2)

theorem dumps_list (floatRepr : FloatRepr) (limit : Nat) (items : List Value) :
    dumps floatRepr (limit + 1) (.list items) =
      (do return joined 0x5b 0x5d (← items.mapM (dumps floatRepr limit))) := rfl

theorem dumps_dict (floatRepr : FloatRepr) (limit : Nat) (members : List (Str × Value)) :
    dumps floatRepr (limit + 1) (.dict members) =
      (do return joined 0x7b 0x7d (← members.mapM (dumpsMember floatRepr limit))) := rfl

theorem dumps_list_ok {floatRepr : FloatRepr} {limit : Nat} {items : List Value} {t : Str}
    (written : dumps floatRepr limit (.list items) = .ok t) :
    ∃ inner texts, limit = inner + 1 ∧ items.mapM (dumps floatRepr inner) = .ok texts ∧
      t = joined 0x5b 0x5d texts := by
  cases limit with
  | zero => cases written
  | succ inner =>
    rw [dumps_list] at written
    obtain ⟨texts, items, same⟩ := bind_ok_iff.mp written
    exact ⟨inner, texts, rfl, items, (Except.ok.inj same).symm⟩

theorem dumps_dict_ok {floatRepr : FloatRepr} {limit : Nat} {members : List (Str × Value)} {t : Str}
    (written : dumps floatRepr limit (.dict members) = .ok t) :
    ∃ inner texts, limit = inner + 1 ∧ members.mapM (dumpsMember floatRepr inner) = .ok texts ∧
      t = joined 0x7b 0x7d texts := by
  cases limit with
  | zero => cases written
  | succ inner =>
    rw [dumps_dict] at written
    obtain ⟨texts, members, same⟩ := bind_ok_iff.mp written
    exact ⟨inner, texts, rfl, members, (Except.ok.inj same).symm⟩

theorem dumpsMember_ok {floatRepr : FloatRepr} {limit : Nat} {member : Str × Value} {t : Str}
    (written : dumpsMember floatRepr limit member = .ok t) :
    ∃ text, dumps floatRepr limit member.2 = .ok text ∧
      t = dumpsString member.1 ++ [0x3a] ++ text := by
  obtain ⟨text, value, same⟩ := bind_ok_iff.mp written
  exact ⟨text, value, (Except.ok.inj same).symm⟩

/-- A member fails as its value does. -/
theorem dumpsMember_error {floatRepr : FloatRepr} {limit : Nat} {member : Str × Value}
    {e : DumpsError} (failed : dumpsMember floatRepr limit member = .error e) :
    dumps floatRepr limit member.2 = .error e := by
  rcases bind_error_iff.mp failed with inner | ⟨text, -, none⟩
  · exact inner
  · cases none

/-- The encoder writes only what nests within the limit and has no integer that is too long. -/
theorem dumps_ok {floatRepr : FloatRepr} {limit : Nat} {v : Value} {t : Str}
    (written : dumps floatRepr limit v = .ok t) : NestsWithin limit v ∧ ShortInts v := by
  have atom {limit : Nat} {n : Int} {t : Str} (written : dumps floatRepr limit (.int n) = .ok t) :
      ShortInts (.int n) := by
    simp only [dumps] at written
    split at written
    · cases written
    · next short => exact .int n (Nat.le_of_not_lt short)
  -- On the limit, which is one less inside a list or a dictionary; at zero neither is written.
  induction limit generalizing v t with
  | zero =>
    cases v with
    | list items => cases written
    | dict members => cases written
    | int n => exact ⟨by simp [NestsWithin], atom written⟩
    | _ => exact ⟨by simp [NestsWithin], by constructor⟩
  | succ limit ih =>
    cases v with
    | list items =>
      rw [dumps_list] at written
      obtain ⟨texts, inner, -⟩ := bind_ok_iff.mp written
      have each := mapM_ok_iff.mp ⟨texts, inner⟩
      constructor
      · intro item member
        obtain ⟨text, item_⟩ := each item member
        exact (ih item_).1
      · refine .list items fun item member => ?_
        obtain ⟨text, item_⟩ := each item member
        exact (ih item_).2
    | dict members =>
      rw [dumps_dict] at written
      obtain ⟨texts, inner, -⟩ := bind_ok_iff.mp written
      have each := mapM_ok_iff.mp ⟨texts, inner⟩
      have value (member : Str × Value) (inside : member ∈ members) :
          ∃ text, dumps floatRepr limit member.2 = .ok text := by
        obtain ⟨line, whole⟩ := each member inside
        obtain ⟨text, value, -⟩ := dumpsMember_ok whole
        exact ⟨text, value⟩
      constructor
      · intro member inside
        obtain ⟨text, value⟩ := value member inside
        exact (ih value).1
      · refine .dict members fun member inside => ?_
        obtain ⟨text, value⟩ := value member inside
        exact (ih value).2
    | int n => exact ⟨by simp [NestsWithin], atom written⟩
    | _ => exact ⟨by simp [NestsWithin], by constructor⟩

/-- Each error of the encoder has its reason in the value. -/
theorem dumps_error {floatRepr : FloatRepr} {limit : Nat} {v : Value} {e : DumpsError}
    (failed : dumps floatRepr limit v = .error e) :
    e = .recursion ∧ ¬ NestsWithin limit v ∨ e = .value ∧ ¬ ShortInts v := by
  have atom {limit : Nat} {n : Int} (failed : dumps floatRepr limit (.int n) = .error e) :
      e = .value ∧ ¬ ShortInts (.int n) := by
    simp only [dumps] at failed
    split at failed
    · next long =>
      cases failed
      refine ⟨rfl, fun short => ?_⟩
      cases short with
      | int _ short => exact absurd long (Nat.not_lt_of_le short)
    · cases failed
  -- As above: the error is that of the first item or member that fails.
  induction limit generalizing v with
  | zero =>
    cases v with
    | list items =>
      cases failed
      exact .inl ⟨rfl, by simp [NestsWithin]⟩
    | dict members =>
      cases failed
      exact .inl ⟨rfl, by simp [NestsWithin]⟩
    | int n => exact .inr (atom failed)
    | _ => cases failed
  | succ limit ih =>
    cases v with
    | list items =>
      rw [dumps_list] at failed
      rcases bind_error_iff.mp failed with inner | ⟨texts, -, none⟩
      · obtain ⟨item, member, same⟩ := exists_of_mapM_error inner
        rcases ih same with ⟨recursion, deep⟩ | ⟨value, long⟩
        · exact .inl ⟨recursion, fun nests => deep (nests item member)⟩
        · refine .inr ⟨value, fun short => ?_⟩
          cases short with
          | list _ short => exact long (short item member)
      · cases none
    | dict members =>
      rw [dumps_dict] at failed
      rcases bind_error_iff.mp failed with inner | ⟨texts, -, none⟩
      · obtain ⟨member, inside, same⟩ := exists_of_mapM_error inner
        rcases ih (dumpsMember_error same) with ⟨recursion, deep⟩ | ⟨value, long⟩
        · exact .inl ⟨recursion, fun nests => deep (nests member inside)⟩
        · refine .inr ⟨value, fun short => ?_⟩
          cases short with
          | dict _ short => exact long (short member inside)
      · cases none
    | int n => exact .inr (atom failed)
    | _ => cases failed

/-- What nests within the limit does not make the encoder recurse too deep. -/
theorem not_dumps_recursion {floatRepr : FloatRepr} {limit : Nat} {v : Value}
    (nests : NestsWithin limit v) : dumps floatRepr limit v ≠ .error .recursion := by
  intro failed
  rcases dumps_error failed with ⟨-, deep⟩ | ⟨other, -⟩
  · exact deep nests
  · cases other

/-- Without long integers only the nesting decides. -/
theorem dumps_recursion_iff {floatRepr : FloatRepr} {limit : Nat} {v : Value} (short : ShortInts v) :
    dumps floatRepr limit v = .error .recursion ↔ ¬ NestsWithin limit v := by
  constructor
  · exact fun failed nests => not_dumps_recursion nests failed
  · intro deep
    cases written : dumps floatRepr limit v with
    | ok t => exact absurd (dumps_ok written).1 deep
    | error e =>
      rcases dumps_error written with ⟨rfl, -⟩ | ⟨-, long⟩
      · rfl
      · exact absurd short long

theorem dumps_ok_iff {floatRepr : FloatRepr} {limit : Nat} {v : Value} :
    (∃ t, dumps floatRepr limit v = .ok t) ↔ NestsWithin limit v ∧ ShortInts v := by
  constructor
  · rintro ⟨t, written⟩
    exact dumps_ok written
  · rintro ⟨nests, short⟩
    cases written : dumps floatRepr limit v with
    | ok t => exact ⟨t, rfl⟩
    | error e =>
      rcases dumps_error written with ⟨-, deep⟩ | ⟨-, long⟩
      · exact absurd nests deep
      · exact absurd short long

end SimpleVM.Python
