import SimpleVM.Input.CustomKeyboardProfiles
import SimpleVM.Swift.JSONSerialization

/-!
# The Karabiner bridge

`KarabinerInputBridge`: the rule generated from the mapping entries, and its installation into
Karabiner's configuration.
-/
namespace SimpleVM.Input

open Swift

inductive KarabinerBridgeError
  | configurationUnavailable | invalidConfiguration | unsupportedMapping
  /-- An error of the file system or of `JSONSerialization`. -/
  | cocoa
deriving DecidableEq, Repr

/-- What varies between the manipulators. -/
structure Manipulator where
  fromKey : String
  fromModifiers : List String
  toKey : String
  toModifiers : List String
deriving DecidableEq, Repr

namespace KarabinerInputBridge

def ruleDescription : String := "SimpleVM Immersion Mappings"

def variableName : String := "simplevm_vz_immersion"

/-- The table of `keyName(for:)`. -/
def keyNames : List (UInt16 × String) :=
  [(0, "a"), (1, "s"), (2, "d"), (3, "f"), (4, "h"), (5, "g"), (6, "z"), (7, "x"), (8, "c"),
    (9, "v"), (11, "b"), (12, "q"), (13, "w"), (14, "e"), (15, "r"), (16, "y"), (17, "t"),
    (18, "1"), (19, "2"), (20, "3"), (21, "4"), (22, "6"), (23, "5"), (24, "equal_sign"),
    (25, "9"), (26, "7"), (27, "hyphen"), (28, "8"), (29, "0"), (30, "close_bracket"),
    (33, "open_bracket"), (31, "o"), (32, "u"), (34, "i"), (35, "p"), (36, "return_or_enter"),
    (37, "l"), (38, "j"), (40, "k"), (39, "quote"), (41, "semicolon"), (42, "backslash"),
    (43, "comma"), (44, "slash"), (45, "n"), (46, "m"), (47, "period"), (48, "tab"),
    (49, "spacebar"), (50, "grave_accent_and_tilde"), (51, "delete_or_backspace"),
    (53, "escape"), (96, "f5"), (97, "f6"), (98, "f7"), (99, "f3"), (100, "f8"), (101, "f9"),
    (103, "f11"), (109, "f10"), (111, "f12"), (115, "home"), (116, "page_up"), (118, "f4"),
    (120, "f2"), (121, "page_down"), (122, "f1"), (117, "delete_forward"), (119, "end"),
    (123, "left_arrow"), (124, "right_arrow"), (125, "down_arrow"), (126, "up_arrow")]

def keyName (keyCode : UInt16) : Option String := keyNames.lookup keyCode

/-- The modifiers in the order of `modifierNames`, with their names on either side. -/
def modifierTable : List (ModifierFlags × String × String) :=
  [(.command, "command", "left_command"), (.control, "control", "left_control"),
    (.option, "option", "left_option"), (.shift, "shift", "left_shift"), (.function, "fn", "fn")]

def modifierNames (modifiers : ModifierFlags) (sideSpecific : Bool) : List String :=
  modifierTable.filterMap fun entry =>
    if modifiers.contains entry.1 then some (if sideSpecific then entry.2.2 else entry.2.1)
    else none

/-- What `mapping` puts into the manipulator of an entry. -/
def mapping (entry : KeyboardMappingEntry) : Option Manipulator :=
  match keyName entry.host.keyCode, keyName entry.guest.keyCode with
  | some fromKey, some toKey =>
    some ⟨fromKey, modifierNames entry.host.modifiers false, toKey,
      modifierNames entry.guest.modifiers true⟩
  | _, _ => none

def strings (list : List String) : JSONValue := .array (list.map .string)

/-- The manipulator as `mapping` writes it. -/
def Manipulator.json (m : Manipulator) : JSONValue :=
  let target := Dictionary.of [("key_code", .string m.toKey)]
  .object (Dictionary.of [("type", .string "basic"),
    ("from", .object (Dictionary.of [("key_code", .string m.fromKey),
      ("modifiers", .object (Dictionary.of [("mandatory", strings m.fromModifiers),
        ("optional", strings ["caps_lock", "fn"])]))])),
    ("to", .array [.object (if m.toModifiers.isEmpty then target
      else target.set "modifiers" (strings m.toModifiers))]),
    ("conditions", .array [.object (Dictionary.of [("type", .string "frontmost_application_if"),
        ("bundle_identifiers", strings ["^com\\.simplevm\\.app$"])]),
      .object (Dictionary.of [("type", .string "variable_if"), ("name", .string variableName),
        ("value", .number 1)])])])

/-- The manipulators of `generatedRule(entries:)`. -/
def manipulators (entries : List KeyboardMappingEntry) :
    Except KarabinerBridgeError (List Manipulator) :=
  let manipulators := entries.filterMap mapping
  if manipulators.length ≠ entries.length then .error .unsupportedMapping else .ok manipulators

def generatedRule (entries : List KeyboardMappingEntry) :
    Except KarabinerBridgeError Dictionary :=
  match manipulators entries with
  | .error error => .error error
  | .ok manipulators =>
    .ok (Dictionary.of [("description", .string ruleDescription),
      ("manipulators", .array (manipulators.map Manipulator.json))])

/-- A rule that is SimpleVM's. -/
def isOwn (rule : Dictionary) : Bool :=
  decide ((rule "description").bind JSONValue.asString = some ruleDescription)

/-- The first profile that is selected, or the first one. -/
def profileIndex (profiles : List Dictionary) : Nat :=
  (profiles.findIdx? fun profile =>
    decide ((profile "selected").bind JSONValue.asBool = some true)).getD 0

/-- The rules of a profile that the installation starts from. -/
def modifications (profile : Dictionary) : Dictionary :=
  ((profile "complex_modifications").bind JSONValue.asDictionary).getD .empty

def rules (profile : Dictionary) : List Dictionary :=
  ((modifications profile "rules").bind JSONValue.asDictionaries).getD []

/-- A profile with the rule in place of SimpleVM's earlier ones. -/
def withRule (profile rule : Dictionary) : Dictionary :=
  let rules := (rules profile).filter (fun rule => !isOwn rule) ++ [rule]
  profile.set "complex_modifications"
    (.object ((modifications profile).set "rules" (.array (rules.map .object))))

/-- The configuration with the rule. -/
def withRules (root : Dictionary) (profiles : List Dictionary) (rule : Dictionary) : Dictionary :=
  root.set "profiles" (.array ((profiles.modify (profileIndex profiles)
    fun profile => withRule profile rule).map .object))

variable {Data : Type}

/-- The configuration file and its backup. -/
structure Files (Data : Type) where
  config : Option Data
  backup : Option Data

/-- How the operations on the files end. -/
structure FileOutcome where
  removes : Bool
  copies : Bool
  writes : Bool

/-- `removeItem`, whose error is dropped, and `copyItem`, for which the backup must be gone. -/
def backUp (outcome : FileOutcome) (files : Files Data) : Option (Files Data) :=
  let remaining := if outcome.removes then none else files.backup
  if outcome.copies && remaining.isNone then some { files with backup := files.config }
  else none

def installRules (json : JSONSerialization Data) (entries : List KeyboardMappingEntry)
    (outcome : FileOutcome) (files : Files Data) :
    Files Data × Except KarabinerBridgeError Unit :=
  match files.config with
  | none => (files, .error .configurationUnavailable)
  | some data =>
    match json.jsonObject data with
    | none => (files, .error .cocoa)
    | some value =>
      match value.asDictionary with
      | none => (files, .error .invalidConfiguration)
      | some root =>
        match (root "profiles").bind JSONValue.asDictionaries with
        | none | some [] => (files, .error .invalidConfiguration)
        | some (first :: rest) =>
          match generatedRule entries with
          | .error error => (files, .error error)
          | .ok rule =>
            match backUp outcome files with
            | none =>
              ({ files with backup := if outcome.removes then none else files.backup },
                .error .cocoa)
            | some backedUp =>
              match json.data (.object (withRules root (first :: rest) rule)) with
              | none => (backedUp, .error .cocoa)
              | some output =>
                if outcome.writes then ({ backedUp with config := some output }, .ok ())
                else (backedUp, .error .cocoa)

end KarabinerInputBridge

end SimpleVM.Input
