import SimpleVM.Swift.ISO8601
import SimpleVM.Swift.PrettyPrinted
import Mathlib.Data.List.Forall2

/-!
# Codable values

What `Codable` makes of numbers, of optional and defaulted members and of enumerations with
payloads, as JSON values. Each decoder reads what the encoder beside it writes.
-/
namespace SimpleVM.Swift

open Python (IsNumber)

/-- How a `Double` is written and read, and the absolute string of `URL(string:)`. -/
structure Conversions where
  IsDouble : Rat → Prop
  literal : Rat → List Char
  double : List Char → Option Rat
  url : String → Option String
  isNumber : ∀ d, IsDouble d → IsNumber (literal d)
  reads : ∀ d, IsDouble d → double (literal d) = some d

section Encoding

/-- The members that are there; an optional value that is nil is left out. -/
def present (members : List (String × Option JSON)) : List (String × JSON) :=
  members.filterMap fun m => m.2.map fun v => (m.1, v)

/-- A keyed container, its keys sorted already. -/
def encodeKeyed (members : List (String × Option JSON)) : JSON := .object (present members)

def encodeInteger (n : Int) : JSON := .number (toString n).toList

def Conversions.encodeDouble (c : Conversions) (d : Rat) : JSON := .number (c.literal d)

/-- A case of an enumeration, with its payload. -/
def encodeCase (name : String) (payload : List (String × JSON)) : JSON :=
  .object [(name, .object payload)]

end Encoding

section Decoding

variable {α : Type}

def decodeBool : JSON → Except DecodingError Bool
  | .bool b => .ok b
  | .null => .error .valueNotFound
  | _ => .error .typeMismatch

def Conversions.decodeDouble (c : Conversions) : JSON → Except DecodingError Rat
  | .number literal =>
    match c.double literal with
    | some d => .ok d
    | none => .error .dataCorrupted
  | .null => .error .valueNotFound
  | _ => .error .typeMismatch

/-- The integer that a literal stands for, with or without a fraction. -/
def Conversions.integral (c : Conversions) (literal : List Char) : Option Int :=
  match wholeLiteral literal with
  | some n => some n
  | none => (c.double literal).bind fun d => if d.den = 1 then some d.num else none

/-- An integer type with these bounds. -/
def Conversions.decodeInteger (c : Conversions) (low high : Int) :
    JSON → Except DecodingError Int
  | .number literal =>
    match c.integral literal with
    | some n => if low ≤ n ∧ n ≤ high then .ok n else .error .dataCorrupted
    | none => .error .dataCorrupted
  | .null => .error .valueNotFound
  | _ => .error .typeMismatch

/-- `decodeIfPresent(_:forKey:) ?? default`. -/
def decodeWithDefault (members : List (String × JSON)) (key : String)
    (value : JSON → Except DecodingError α) (default : α) : Except DecodingError α :=
  (decodeIfPresent members key value).map (·.getD default)

/-- `init(rawValue:)`. -/
def ofRawValue (rawValue : α → String) (cases_ : List α) (text : String) : Option α :=
  cases_.find? fun a => rawValue a == text

/-- The only key of an enumeration, and its payload. -/
def decodeCase (names : List String) (v : JSON) :
    Except DecodingError (String × List (String × JSON)) := do
  let members ← container v
  match names.filter (contains members) with
  | [name] => return (name, ← decode members name container)
  | _ => throw .typeMismatch

end Decoding

/-! ## What is encoded is decoded -/

section Scalars

variable {c : Conversions}

theorem decodeInteger_encodeInteger {low high n : Int} (atLeast : low ≤ n) (atMost : n ≤ high) :
    c.decodeInteger low high (encodeInteger n) = .ok n := by
  simp only [Conversions.decodeInteger, encodeInteger, Conversions.integral, wholeLiteral_int,
    if_pos (And.intro atLeast atMost)]

theorem decodeDouble_encodeDouble {d : Rat} (isDouble : c.IsDouble d) :
    c.decodeDouble (c.encodeDouble d) = .ok d := by
  simp only [Conversions.decodeDouble, Conversions.encodeDouble, c.reads d isDouble]

theorem decodeRawValue_string {α : Type} {parse : String → Option α} {text : String} {a : α}
    (read : parse text = some a) : decodeRawValue parse (.string text) = .ok a := by
  simp only [decodeRawValue, decodeString, bind, Except.bind, read]
  rfl

end Scalars

section Keyed

variable {members : List (String × Option JSON)} {key : String} {α β : Type}

theorem lookup_present (distinct : (members.map Prod.fst).Nodup) (key : String) :
    (present members).lookup key = (members.lookup key).join := by
  induction members with
  | nil => rfl
  | cons m members ih =>
    obtain ⟨name, value⟩ := m
    rw [List.map_cons, List.nodup_cons] at distinct
    have rest := ih distinct.2
    have split : present ((name, value) :: members) =
        (value.map fun v => (name, v)).toList ++ present members := by
      cases value <;> rfl
    rw [split]
    by_cases same : key = name
    · subst same
      cases value with
      | some v =>
        simp only [Option.map_some, Option.toList_some, List.singleton_append,
          List.lookup_cons_self, Option.join_some]
      | none =>
        -- No later member has the key.
        have missing : members.lookup key = none := by
          rw [List.lookup_eq_none_iff]
          intro m listed
          rw [bne_iff_ne]
          rintro rfl
          exact distinct.1 (List.mem_map.mpr ⟨m, listed, rfl⟩)
        simp only [Option.map_none, Option.toList_none, List.nil_append, rest, missing,
          List.lookup_cons_self]
        rfl
    · have other : (key == name) = false := beq_false_of_ne same
      cases value with
      | some v =>
        simp only [Option.map_some, Option.toList_some, List.singleton_append, List.lookup_cons,
          other, rest]
      | none =>
        simp only [Option.map_none, Option.toList_none, List.nil_append, List.lookup_cons, other,
          rest]

/-- A member is as it is written, or it is left out and has its default. -/
def AbsentOr (members : List (String × JSON)) (key : String) (encode : α → JSON) (default a : α) :
    Prop :=
  members.lookup key = some (encode a) ∨ members.lookup key = none ∧ a = default

theorem decodeWithDefault_ok {members : List (String × JSON)} {encode : α → JSON}
    {value : JSON → Except DecodingError α} {default a : α}
    (written : AbsentOr members key encode default a) (apart : encode a ≠ .null)
    (reads : value (encode a) = .ok a) :
    decodeWithDefault members key value default = .ok a := by
  unfold decodeWithDefault
  rcases written with found | ⟨missing, rfl⟩
  · rw [decodeIfPresent_of_lookup found apart, reads]
    rfl
  · rw [decodeIfPresent_of_missing missing]
    rfl

/-- An optional member is there if it has a value. -/
theorem decodeIfPresent_ok {members : List (String × JSON)} {encode : α → JSON}
    {value : JSON → Except DecodingError α} {a : Option α}
    (written : members.lookup key = a.map encode) (apart : ∀ x, encode x ≠ .null)
    (reads : ∀ x, a = some x → value (encode x) = .ok x) :
    decodeIfPresent members key value = .ok a := by
  cases a with
  | none => exact decodeIfPresent_of_missing written value
  | some x =>
    rw [decodeIfPresent_of_lookup written (apart x), reads x rfl]
    rfl

theorem decode_ok {members : List (String × JSON)} {v : JSON}
    {value : JSON → Except DecodingError α} {a : α} (written : members.lookup key = some v)
    (reads : value v = .ok a) : decode members key value = .ok a := by
  rw [decode_of_lookup written, reads]

/-- An array is decoded element by element. -/
theorem decodeArray_forall₂ {items : List JSON} {elements : List α} {Written : JSON → α → Prop}
    {element : JSON → Except DecodingError α} (each : List.Forall₂ Written items elements)
    (reads : ∀ v a, a ∈ elements → Written v a → element v = .ok a) :
    decodeArray element (.array items) = .ok elements := by
  unfold decodeArray
  simp only
  induction each with
  | nil => rfl
  | cons here _ ih =>
    rw [List.mapM_cons, reads _ _ List.mem_cons_self here,
      ih fun v a inside => reads v a (List.mem_cons_of_mem _ inside)]
    rfl

theorem decodeArray_map {encode : α → JSON} {elements : List α}
    {element : JSON → Except DecodingError α}
    (reads : ∀ a ∈ elements, element (encode a) = .ok a) :
    decodeArray element (.array (elements.map encode)) = .ok elements := by
  have each : List.Forall₂ (fun v a => v = encode a) (elements.map encode) elements := by
    rw [List.forall₂_map_left_iff, List.forall₂_same]
    exact fun _ _ => rfl
  apply decodeArray_forall₂ each
  rintro _ a inside rfl
  exact reads a inside

/-- The case that is written is the only one. -/
theorem decodeCase_encodeCase {names : List String} (distinct : names.Nodup) {name : String}
    (listed : name ∈ names) (payload : List (String × JSON)) :
    decodeCase names (encodeCase name payload) = .ok (name, payload) := by
  have only : names.filter (contains [(name, .object payload)]) = [name] := by
    have tests : ∀ other ∈ names, contains [(name, JSON.object payload)] other = (other == name) := by
      intro other _
      simp only [contains, List.lookup_cons, List.lookup_nil]
      cases other == name <;> rfl
    rw [List.filter_congr tests]
    induction names with
    | nil => cases listed
    | cons first names ih =>
      rw [List.nodup_cons] at distinct
      rcases List.mem_cons.mp listed with rfl | later
      · have others : names.filter (· == name) = [] := by
          rw [List.filter_eq_nil_iff]
          intro other inside same
          exact distinct.1 (beq_iff_eq.mp same ▸ inside)
        rw [List.filter_cons_of_pos (by simp), others]
      · have differs : first ≠ name := by
          rintro rfl
          exact distinct.1 later
        rw [List.filter_cons_of_neg (by simpa using differs)]
        exact ih distinct.2 later fun other inside => tests other (List.mem_cons_of_mem _ inside)
  unfold decodeCase encodeCase
  simp only [container, bind, Except.bind, only, decode, List.lookup_cons_self]
  rfl

end Keyed

section Printing

variable {levels : Nat}

theorem printable_keyed {members : List (String × Option JSON)}
    (each : ∀ m ∈ members, ∀ v, m.2 = some v → Printable levels v) :
    Printable (levels + 1) (encodeKeyed members) := by
  apply Printable.object
  intro m listed
  obtain ⟨member, inside, made⟩ := List.mem_filterMap.mp listed
  obtain ⟨v, held, rfl⟩ := Option.map_eq_some_iff.mp made
  exact each member inside v held

theorem printable_case {name : String} {payload : List (String × JSON)}
    (each : ∀ m ∈ payload, Printable levels m.2) :
    Printable (levels + 2) (encodeCase name payload) := by
  apply Printable.object
  intro m listed
  rw [List.mem_singleton.mp listed]
  exact .object each

theorem printable_integer (n : Int) : Printable levels (encodeInteger n) := .number (isNumber_int n)

theorem printable_array {α : Type} {encode : α → JSON} {elements : List α}
    (each : ∀ a ∈ elements, Printable levels (encode a)) :
    Printable (levels + 1) (.array (elements.map encode)) := by
  apply Printable.array
  intro item listed
  obtain ⟨a, inside, rfl⟩ := List.mem_map.mp listed
  exact each a inside

end Printing

end SimpleVM.Swift
