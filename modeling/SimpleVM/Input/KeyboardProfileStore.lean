import SimpleVM.Input.CustomKeyboardProfiles
import SimpleVM.Storage.LibraryCodec
import SimpleVM.Swift.JSONSerialization

/-!
# The store of keyboard profiles

`KeyboardProfileStore` keeps the custom profiles in one value of the user defaults, a JSON array.
Entries it does not understand are kept aside and written back behind the profiles.
-/
namespace SimpleVM.Input

open Domain Effects Swift
open Storage (uuidString uuidOfString)

structure CustomKeyboardProfile where
  id : UUID
  name : String
  baseProfile : MachineInputProfile
  rules : String
deriving DecidableEq, Repr

namespace CustomKeyboardProfile

/-- What `JSONEncoder` writes. -/
def encoded (profile : CustomKeyboardProfile) : JSONValue :=
  .object (Dictionary.of [
    ("id", .string (uuidString profile.id)),
    ("name", .string profile.name),
    ("baseProfile", .string profile.baseProfile.rawValue),
    ("rules", .string profile.rules)])

def baseProfileOf (rawValue : String) : Option MachineInputProfile :=
  ofRawValue MachineInputProfile.rawValue
    [.automatic, .macOSGNOME, .macOSHyprland, .macOSWindows, .linuxPassthrough] rawValue

/-- `decode(String.self, forKey:)`. -/
def stringMember (members : Dictionary) (key : String) : Option String :=
  (members key).bind JSONValue.asString

/-- What `JSONDecoder` reads; other members are passed over. -/
def decoded : JSONValue → Option CustomKeyboardProfile
  | .object members => do
    let id ← (stringMember members "id").bind uuidOfString
    let name ← stringMember members "name"
    let baseProfile ← (stringMember members "baseProfile").bind baseProfileOf
    let rules ← stringMember members "rules"
    pure ⟨id, name, baseProfile, rules⟩
  | _ => none

end CustomKeyboardProfile

structure KeyboardProfileStore where
  profiles : List CustomKeyboardProfile
  preservedEntries : List JSONValue := []
  storageIsUnreadable : Bool := false

/-- `==` of strings. Numbers at the end keep texts apart. -/
structure StringEquality where
  equal : String → String → Bool
  equivalence : Equivalence fun a b => equal a b = true
  numbered : ∀ (text : String) (m n : Nat),
    equal (text ++ " " ++ toString m) (text ++ " " ++ toString n) = true → m = n

/-- A `KeyboardProfileError`, or one of the encoder. -/
inductive StoreError
  | profile (error : KeyboardProfileError)
  | encoding
deriving DecidableEq, Repr

namespace KeyboardProfileStore

section Launch

variable {Data : Type} (json : ArraySerialization Data)

/-- How the loop over the entries ends. -/
inductive Loading
  | finished (decoded : List CustomKeyboardProfile) (preserved : List JSONValue)
  | failed (preserved : List JSONValue)
  | raised

/-- `JSONDecoder().decode(CustomKeyboardProfile.self, from:)`. -/
def decodeEntry (entryData : Data) : Option CustomKeyboardProfile :=
  (json.jsonObject entryData).bind CustomKeyboardProfile.decoded

/-- The loop over the entries. -/
def loadEntries (decoded : List CustomKeyboardProfile) (preserved : List JSONValue) :
    List JSONValue → Loading
  | [] => .finished decoded preserved
  | object :: objects =>
    match json.dataWithJSONObject object with
    | .raises => .raised
    | .throws => .failed preserved
    | .data entryData =>
      match decodeEntry json entryData with
      | some profile => loadEntries (decoded ++ [profile]) preserved objects
      | none => loadEntries decoded (preserved ++ [object]) objects

/-- `init(defaults:storageKey:)`; `none` when an exception ends the app. -/
def launch : Option Data → Option KeyboardProfileStore
  | none => some { profiles := [] }
  | some data =>
    match (json.jsonObject data).bind JSONValue.asArray with
    | none => some { profiles := [], storageIsUnreadable := true }
    | some objects =>
      match loadEntries json [] [] objects with
      | .raised => none
      | .failed preserved =>
        some { profiles := [], preservedEntries := preserved, storageIsUnreadable := true }
      | .finished decoded preserved =>
        some { profiles := decoded, preservedEntries := preserved }

end Launch

def allowedBaseProfiles : List MachineInputProfile :=
  [.macOSGNOME, .macOSHyprland, .macOSWindows, .linuxPassthrough]

/-- The suffix the loop of `uniqueName` stops at. -/
def freeSuffix (eq : StringEquality) (names : List String) (proposed : String) : Nat → Nat → Nat
  | 0, suffix => suffix
  | fuel + 1, suffix =>
    if names.any (eq.equal · (proposed ++ " " ++ toString suffix)) then
      freeSuffix eq names proposed fuel (suffix + 1)
    else suffix

def uniqueName (eq : StringEquality) (store : KeyboardProfileStore) (proposed : String) : String :=
  let names := store.profiles.map (·.name)
  if names.any (eq.equal · proposed) then
    proposed ++ " " ++ toString (freeSuffix eq names proposed names.length 2)
  else proposed

end KeyboardProfileStore

/-- The value in the user defaults and the store of the running app. -/
structure ProfileDefaults (Data : Type) where
  storage : Option Data
  store : KeyboardProfileStore

namespace KeyboardProfileStore

variable {Data : Type} (json : ArraySerialization Data)

abbrev Editing (Data : Type) := Failing (ProfileDefaults Data) StoreError

/-- `JSONEncoder().encode` and `JSONSerialization.jsonObject`. -/
def reencoded (profile : CustomKeyboardProfile) : Option JSONValue :=
  (json.data profile.encoded).bind json.jsonObject

def persist (updated : List CustomKeyboardProfile) : Editing Data Unit := do
  let s ← Failing.getState
  if s.store.storageIsUnreadable then throw (.profile .unreadableStorage)
  match updated.mapM (reencoded json) with
  | none => throw .encoding
  | some encoded =>
    match json.dataWithJSONObject (.array (encoded ++ s.store.preservedEntries)) with
    | .data data =>
      Failing.change fun s => ⟨some data, { s.store with profiles := updated }⟩
    -- an array does not raise
    | _ => throw .encoding

def create (eq : StringEquality) (id : UUID) (baseProfile : MachineInputProfile) :
    Editing Data Unit := do
  let s ← Failing.getState
  let profile : CustomKeyboardProfile := {
    id := id
    name := uniqueName eq s.store "Custom Profile"
    baseProfile := if allowedBaseProfiles.contains baseProfile then baseProfile else .macOSWindows
    rules := "" }
  persist json (s.store.profiles ++ [profile])

def duplicate (eq : StringEquality) (id : UUID) (source : CustomKeyboardProfile) :
    Editing Data Unit := do
  let s ← Failing.getState
  let profile : CustomKeyboardProfile := {
    id := id
    name := uniqueName eq s.store (source.name ++ " Copy")
    baseProfile := source.baseProfile
    rules := source.rules }
  persist json (s.store.profiles ++ [profile])

/-- The profile at an index with its new name, base profile and rules. -/
def updating (name : String) (baseProfile : MachineInputProfile) (rules : String)
    (profile : CustomKeyboardProfile) : CustomKeyboardProfile :=
  { profile with name := name, baseProfile := baseProfile, rules := rules }

def save (u : Unicode) (it : Iteration) (id : UUID) (name : String)
    (baseProfile : MachineInputProfile) (rules : String) : Editing Data Unit := do
  let trimmedName := String.ofList (u.trimmed name.toList)
  if trimmedName.isEmpty then throw (.profile .missingName)
  if ¬ allowedBaseProfiles.contains baseProfile then throw (.profile .invalidBaseProfile)
  match KeyboardProfileRuleParser.parse u it rules.toList with
  | .error error => throw (.profile error)
  | .ok _ =>
    let s ← Failing.getState
    match s.store.profiles.findIdx? fun profile => decide (profile.id = id) with
    | none => throw (.profile .notFound)
    | some index =>
      persist json (s.store.profiles.modify index (updating trimmedName baseProfile rules))

def delete (id : UUID) : Editing Data Unit := do
  let s ← Failing.getState
  persist json (s.store.profiles.filter fun profile => decide (profile.id ≠ id))

end KeyboardProfileStore

/-- A call, or the next launch of the app; new identifiers are chosen outside. -/
inductive ProfileCall
  | create (id : UUID) (baseProfile : MachineInputProfile)
  | duplicate (id : UUID) (source : CustomKeyboardProfile)
  | save (id : UUID) (name : String) (baseProfile : MachineInputProfile) (rules : String)
  | delete (id : UUID)
  | relaunch

/-- What stays fixed over a run. -/
structure ProfileContext (Data : Type) where
  json : ArraySerialization Data
  unicode : Unicode
  iteration : Iteration
  equality : StringEquality

namespace ProfileContext

open KeyboardProfileStore

variable {Data : Type} (c : ProfileContext Data)

/-- The call; `none` when a launch does not complete. -/
def perform (s : ProfileDefaults Data) :
    ProfileCall → Option (Except StoreError Unit × ProfileDefaults Data)
  | .create id baseProfile => some (create c.json c.equality id baseProfile s)
  | .duplicate id source => some (duplicate c.json c.equality id source s)
  | .save id name baseProfile rules =>
    some (save c.json c.unicode c.iteration id name baseProfile rules s)
  | .delete id => some (delete c.json id s)
  | .relaunch => (launch c.json s.storage).map fun store => (.ok (), { s with store := store })

def step (s : ProfileDefaults Data) (call : ProfileCall) : Option (ProfileDefaults Data) :=
  (c.perform s call).map (·.2)

end ProfileContext

end SimpleVM.Input
