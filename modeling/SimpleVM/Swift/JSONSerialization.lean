/-!
# JSON objects

What `JSONSerialization` makes of a file: dictionaries have no order and no duplicate keys, and a
number is its value.
-/
namespace SimpleVM.Swift

inductive JSONValue
  | null
  | bool (b : Bool)
  | number (value : Rat)
  | string (s : String)
  | array (items : List JSONValue)
  | object (members : String → Option JSONValue)

/-- `[String: Any]`. -/
abbrev Dictionary := String → Option JSONValue

namespace Dictionary

def empty : Dictionary := fun _ => none

/-- A dictionary literal. -/
def of (members : List (String × JSONValue)) : Dictionary := fun key => members.lookup key

/-- `dictionary[key] = value`. -/
def set (dictionary : Dictionary) (key : String) (value : JSONValue) : Dictionary :=
  fun other => if other = key then some value else dictionary other

variable {dictionary : Dictionary} {key other : String} {value value' : JSONValue}

@[simp] theorem set_self : dictionary.set key value key = some value := if_pos rfl

@[simp] theorem set_other (apart : other ≠ key) :
    dictionary.set key value other = dictionary other := if_neg apart

/-- A value that is there already changes nothing. -/
theorem set_of_eq (held : dictionary key = some value) : dictionary.set key value = dictionary := by
  funext other
  by_cases same : other = key
  · rw [same, set_self, held]
  · exact set_other same

end Dictionary

namespace JSONValue

/-- `as? [String: Any]`. -/
def asDictionary : JSONValue → Option Dictionary
  | .object members => some members
  | _ => none

/-- `as? [[String: Any]]`. -/
def asDictionaries : JSONValue → Option (List Dictionary)
  | .array items => items.mapM asDictionary
  | _ => none

/-- `as? [Any]`. -/
def asArray : JSONValue → Option (List JSONValue)
  | .array items => some items
  | _ => none

/-- `isValidJSONObject` of a value that can be written inside another. -/
def isTopLevel : JSONValue → Bool
  | .array _ | .object _ => true
  | _ => false

theorem asArray_eq_some {value : JSONValue} {items : List JSONValue} :
    value.asArray = some items ↔ value = .array items := by
  cases value with
  | array others => simp [asArray]
  | _ => simp [asArray]

/-- `as? String`. -/
def asString : JSONValue → Option String
  | .string s => some s
  | _ => none

theorem asDictionary_eq_some {value : JSONValue} {members : Dictionary} :
    value.asDictionary = some members ↔ value = .object members := by
  cases value with
  | object others => simp [asDictionary]
  | _ => simp [asDictionary]

theorem mapM_asDictionary {items : List JSONValue} {dictionaries : List Dictionary} :
    items.mapM asDictionary = some dictionaries ↔ items = dictionaries.map .object := by
  induction items generalizing dictionaries with
  | nil => cases dictionaries <;> simp
  | cons item items ih =>
    rw [List.mapM_cons]
    cases here : item.asDictionary with
    | none =>
      cases dictionaries with
      | nil => simp
      | cons first rest =>
        simp only [Option.bind_eq_bind, Option.bind_none, reduceCtorEq, List.map_cons,
          List.cons.injEq, false_iff, not_and]
        intro isObject
        rw [isObject] at here
        cases here
    | some members =>
      cases asDictionary_eq_some.mp here
      cases dictionaries with
      | nil => cases items.mapM asDictionary <;> simp
      | cons first rest =>
        simp only [List.map_cons, List.cons.injEq, object.injEq, ← ih]
        cases items.mapM asDictionary with
        | none => simp
        | some others => simp

theorem asDictionaries_eq_some {value : JSONValue} {dictionaries : List Dictionary} :
    value.asDictionaries = some dictionaries ↔ value = .array (dictionaries.map .object) := by
  cases value with
  | array items => simp [asDictionaries, mapM_asDictionary]
  | _ => simp [asDictionaries]

end JSONValue

/-- What can be written: finite dictionaries, and the numbers of `NSNumber`. -/
inductive Serializable (isNumber : Rat → Prop) : JSONValue → Prop
  | null : Serializable isNumber .null
  | bool (b : Bool) : Serializable isNumber (.bool b)
  | number {value : Rat} (held : isNumber value) : Serializable isNumber (.number value)
  | string (s : String) : Serializable isNumber (.string s)
  | array {items : List JSONValue} (each : ∀ item ∈ items, Serializable isNumber item) :
    Serializable isNumber (.array items)
  | object {members : Dictionary} (keys : List String)
    (finite : ∀ key, members key ≠ none → key ∈ keys)
    (each : ∀ key value, members key = some value → Serializable isNumber value) :
    Serializable isNumber (.object members)

/-- `JSONSerialization`: it reads what can be written, writes that, and reads it again as it was. -/
structure JSONSerialization (Data : Type) where
  isNumber : Rat → Prop
  one : isNumber 1
  jsonObject : Data → Option JSONValue
  data : JSONValue → Option Data
  parsed : ∀ d value, jsonObject d = some value → Serializable isNumber value
  writes : ∀ root : Dictionary, Serializable isNumber (.object root) →
    (data (.object root)).isSome = true
  reads : ∀ value d, data value = some d → jsonObject d = some value

/-- `JSONSerialization` that writes arrays as well. -/
structure ArraySerialization (Data : Type) extends JSONSerialization Data where
  writesArray : ∀ items, Serializable isNumber (.array items) → (data (.array items)).isSome = true

/-- What `data(withJSONObject:)` comes to. A value that is neither an array nor a dictionary raises
an exception, which Swift does not catch. -/
inductive Serialized (Data : Type)
  | data (d : Data)
  | throws
  | raises

def ArraySerialization.dataWithJSONObject {Data : Type} (json : ArraySerialization Data)
    (value : JSONValue) : Serialized Data :=
  if value.isTopLevel then
    match json.data value with
    | some d => .data d
    | none => .throws
  else .raises

/-- `as? Bool`, which also takes the numbers one and zero. -/
def JSONValue.asBool : JSONValue → Option Bool
  | .bool b => some b
  | .number value => if value = 1 then some true else if value = 0 then some false else none
  | _ => none

namespace Serializable

variable {isNumber : Rat → Prop} {dictionary members : Dictionary} {key : String}
  {value : JSONValue}

theorem member (whole : Serializable isNumber (.object members))
    (held : members key = some value) : Serializable isNumber value := by
  cases whole with
  | object _ _ each => exact each key value held

theorem item {items : List JSONValue} (whole : Serializable isNumber (.array items))
    (listed : value ∈ items) : Serializable isNumber value := by
  cases whole with
  | array each => exact each value listed

theorem empty : Serializable isNumber (.object Dictionary.empty) := by
  apply Serializable.object []
  · exact fun key held => absurd rfl held
  · intro key value held
    cases held

theorem set (whole : Serializable isNumber (.object dictionary))
    (new : Serializable isNumber value) :
    Serializable isNumber (.object (dictionary.set key value)) := by
  cases whole with
  | object keys finite each =>
    apply Serializable.object (key :: keys)
    · intro other held
      by_cases same : other = key
      · exact same ▸ List.mem_cons_self
      · rw [Dictionary.set_other same] at held
        exact List.mem_cons_of_mem _ (finite other held)
    · intro other found held
      by_cases same : other = key
      · rw [same, Dictionary.set_self] at held
        cases held
        exact new
      · rw [Dictionary.set_other same] at held
        exact each other found held

theorem of {list : List (String × JSONValue)}
    (each : ∀ entry ∈ list, Serializable isNumber entry.2) :
    Serializable isNumber (.object (Dictionary.of list)) := by
  have listed : ∀ key value, Dictionary.of list key = some value → (key, value) ∈ list := by
    intro key value held
    obtain ⟨front, back, split, -⟩ := List.lookup_eq_some_iff.mp held
    simp [split]
  apply Serializable.object (list.map Prod.fst)
  · intro key held
    obtain ⟨value, found⟩ := Option.ne_none_iff_exists'.mp held
    exact List.mem_map_of_mem (a := (key, value)) (listed key value found)
  · exact fun key value held => each _ (listed key value held)

end Serializable

end SimpleVM.Swift
