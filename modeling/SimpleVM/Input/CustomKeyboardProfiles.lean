import SimpleVM.Input.GuestTextInput

/-!
# Custom keyboard profiles

`KeyboardProfileRuleParser`: the rules of a profile, one a line. The entries are collected in a
dictionary, whose order is not known, and sorted.
-/
namespace SimpleVM.Input

open Swift

structure HostChord where
  keyCode : UInt16
  modifiers : ModifierFlags
deriving DecidableEq, Repr

structure KeyboardMappingEntry where
  host : HostChord
  guest : GuestChord
deriving DecidableEq, Repr

/-- Of these `parse` throws the last. -/
inductive KeyboardProfileError
  | missingName | invalidBaseProfile | notFound | unreadableStorage
  | invalidRule (line : Nat) (message : String)
deriving DecidableEq, Repr

def KeyboardProfileError.errorDescription : KeyboardProfileError → String
  | .missingName => "Enter a profile name."
  | .invalidBaseProfile => "Choose a built-in base profile."
  | .notFound => "The custom profile no longer exists."
  | .unreadableStorage =>
    "Saved keyboard profiles could not be read. The original data was preserved."
  | .invalidRule line message => "Line " ++ toString line ++ ": " ++ message

/-- The order in which a dictionary is iterated. -/
structure Iteration where
  entries : List (HostChord × GuestChord) → List (HostChord × GuestChord)
  perm : ∀ dictionary, (entries dictionary).Perm dictionary

/-- A dictionary that is iterated in the order in which it is kept. -/
def inOrder : Iteration := ⟨id, List.Perm.refl⟩

/-- The order of the entries, also that of `activeMappingEntries`. -/
def KeyboardMappingEntry.precedes (a b : KeyboardMappingEntry) : Bool :=
  if a.host.keyCode ≠ b.host.keyCode then decide (a.host.keyCode < b.host.keyCode)
  else decide (a.host.modifiers.rawValue < b.host.modifiers.rawValue)

/-- `sorted` with it. -/
def sortedEntries (it : Iteration) (dictionary : List (HostChord × GuestChord)) :
    List KeyboardMappingEntry :=
  ((it.entries dictionary).map fun entry => ⟨entry.1, entry.2⟩).mergeSort
    fun a b => !b.precedes a

namespace KeyboardProfileRuleParser

/-- The cases of the switch in `parseShortcut`. -/
def modifierNamed (name : String) : Option ModifierFlags :=
  if name ∈ ["cmd", "command", "super", "win", "windows"] then some .command
  else if name ∈ ["ctrl", "control"] then some .control
  else if name ∈ ["alt", "option"] then some .option
  else if name = "shift" then some .shift
  else none

/-- The loop over the modifiers. -/
def parseModifiers (u : Unicode) (line : Nat) :
    List (List Char) → ModifierFlags → Except KeyboardProfileError ModifierFlags
  | [], modifiers => .ok modifiers
  | modifier :: rest, modifiers =>
    match modifierNamed (String.ofList (u.lowercased modifier)) with
    | some flag => parseModifiers u line rest (modifiers.union flag)
    | none =>
      .error (.invalidRule line ("Unknown modifier “" ++ String.ofList modifier ++ "”."))

/-- The parts between plus signs, without the empty ones. -/
def parts (u : Unicode) (source : List Char) : List (List Char) :=
  ((u.split (isCharacter · '+') source).filter fun part => !part.isEmpty).map u.trimmed

def parseShortcut (u : Unicode) (source : List Char) (line : Nat) :
    Except KeyboardProfileError GuestChord :=
  let parts := parts u source
  match parts.getLast? with
  | none => .error (.invalidRule line "A key is required.")
  | some keyName =>
    if keyName.isEmpty then .error (.invalidRule line "A key is required.")
    else
      match parseModifiers u line parts.dropLast .empty with
      | .error error => .error error
      | .ok modifiers =>
        match GuestTextEncoder.chordForKeyName u keyName with
        | .error error => .error (.invalidRule line error.errorDescription)
        | .ok key => .ok ⟨key.keyCode, modifiers.union key.modifiers⟩

/-- The body of the loop up to the duplicate check: `none` for a line that is skipped. -/
def parseLine (u : Unicode) (rawLine : List Char) (line : Nat) :
    Except KeyboardProfileError (Option (HostChord × GuestChord)) :=
  let text := u.trimmed rawLine
  if text.isEmpty || u.starts text '#' then .ok none
  else
    match components ['-', '>'] text with
    | [hostSide, guestSide] =>
      match parseShortcut u hostSide line with
      | .error error => .error error
      | .ok hostChord =>
        match parseShortcut u guestSide line with
        | .error error => .error error
        | .ok guestChord => .ok (some (⟨hostChord.keyCode, hostChord.modifiers⟩, guestChord))
    | _ => .error (.invalidRule line "Use “host shortcut -> guest shortcut”.")

/-- The loop over the lines, from the one at `offset`. -/
def parseLines (u : Unicode) (offset : Nat) :
    List (List Char) → List (HostChord × GuestChord) →
      Except KeyboardProfileError (List (HostChord × GuestChord))
  | [], entries => .ok entries
  | rawLine :: rest, entries =>
    match parseLine u rawLine (offset + 1) with
    | .error error => .error error
    | .ok none => parseLines u (offset + 1) rest entries
    | .ok (some (host, guest)) =>
      if (entries.lookup host).isSome then
        .error (.invalidRule (offset + 1) "The host shortcut is already mapped.")
      else parseLines u (offset + 1) rest ((host, guest) :: entries)

def lines (u : Unicode) (rules : List Char) : List (List Char) := u.split isNewline rules

def parse (u : Unicode) (it : Iteration) (rules : List Char) :
    Except KeyboardProfileError (List KeyboardMappingEntry) :=
  match parseLines u 0 (lines u rules) [] with
  | .error error => .error error
  | .ok entries => .ok (sortedEntries it entries)

end KeyboardProfileRuleParser

end SimpleVM.Input
