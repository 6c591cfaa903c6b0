import SimpleVM.Input.QEMUKeyMapper
import SimpleVM.Swift.Characters

/-!
# Text for the guest

`GuestTextEncoder`: the chord of each character of a text and of each key name, for a virtual US
keyboard. A dictionary whose keys are distinct is a list of pairs.
-/
namespace SimpleVM.Input

open Swift

inductive GuestTextEncodingError
  | unsupportedCharacter (character : List Char)
  | unknownKey (name : List Char)
deriving DecidableEq, Repr

structure CharacterMapping where
  keyCode : UInt16
  shifted : Bool
deriving DecidableEq, Repr

namespace GuestTextEncoder

def letters : List (Char × UInt16) :=
  [('a', 0), ('b', 11), ('c', 8), ('d', 2), ('e', 14), ('f', 3), ('g', 5), ('h', 4), ('i', 34),
    ('j', 38), ('k', 40), ('l', 37), ('m', 46), ('n', 45), ('o', 31), ('p', 35), ('q', 12),
    ('r', 15), ('s', 1), ('t', 17), ('u', 32), ('v', 9), ('w', 13), ('x', 7), ('y', 16), ('z', 6)]

def unshifted : List (Char × UInt16) :=
  [('1', 18), ('2', 19), ('3', 20), ('4', 21), ('5', 23), ('6', 22), ('7', 26), ('8', 28),
    ('9', 25), ('0', 29), ('-', 27), ('=', 24), ('[', 33), (']', 30), ('\\', 42), (';', 41),
    ('\'', 39), (',', 43), ('.', 47), ('/', 44), ('`', 50), (' ', 49)]

def shifted : List (Char × UInt16) :=
  [('!', 18), ('@', 19), ('#', 20), ('$', 21), ('%', 23), ('^', 22), ('&', 26), ('*', 28),
    ('(', 25), (')', 29), ('_', 27), ('+', 24), ('{', 33), ('}', 30), ('|', 42), (':', 41),
    ('"', 39), ('<', 43), ('>', 47), ('?', 44), ('~', 50)]

def characterMappings : List (Char × CharacterMapping) :=
  letters.flatMap (fun entry =>
      [(entry.1, ⟨entry.2, false⟩), (entry.1.toUpper, ⟨entry.2, true⟩)]) ++
    unshifted.map (fun entry => (entry.1, ⟨entry.2, false⟩)) ++
    shifted.map (fun entry => (entry.1, ⟨entry.2, true⟩))

/-- `characterMappings[character]`. -/
def mapping (character : List Char) : Option CharacterMapping :=
  match character.map canonical with
  | [c] => characterMappings.lookup c
  | _ => none

/-- `chord(for:)`. -/
def chord (character : List Char) : Except GuestTextEncodingError GuestChord :=
  if isCharacter character '\n' then .ok ⟨36, .empty⟩
  else if isCharacter character '\t' then .ok ⟨48, .empty⟩
  else match mapping character with
    | none => .error (.unsupportedCharacter character)
    | some mapping => .ok ⟨mapping.keyCode, if mapping.shifted then .shift else .empty⟩

/-- `chords(for:)`. -/
def chords (u : Unicode) (text : List Char) : Except GuestTextEncodingError (List GuestChord) :=
  let normalized := replacingOccurrences ['\r'] ['\n']
    (replacingOccurrences ['\r', '\n'] ['\n'] text)
  (u.characters normalized).mapM chord

def namedCharacters : List (String × Char) :=
  [("colon", ':'), ("semicolon", ';'), ("plus", '+'), ("minus", '-'), ("equal", '='),
    ("slash", '/'), ("backslash", '\\'), ("comma", ','), ("period", '.'), ("quote", '\''),
    ("space", ' ')]

def namedKeyCodes : List (String × UInt16) :=
  [("return", 36), ("enter", 36), ("tab", 48), ("escape", 53), ("esc", 53), ("backspace", 51),
    ("delete", 117), ("forwarddelete", 117), ("home", 115), ("end", 119), ("pageup", 116),
    ("pagedown", 121), ("left", 123), ("right", 124), ("down", 125), ("up", 126), ("f1", 122),
    ("f2", 120), ("f3", 99), ("f4", 118), ("f5", 96), ("f6", 97), ("f7", 98), ("f8", 100),
    ("f9", 101), ("f10", 109), ("f11", 103), ("f12", 111)]

/-- `chord(forKeyName:)`. -/
def chordForKeyName (u : Unicode) (name : List Char) : Except GuestTextEncodingError GuestChord :=
  let normalized := u.lowercased (u.trimmed name)
  match u.characters normalized with
  | [character] => chord character
  | _ =>
    match namedCharacters.lookup (String.ofList normalized) with
    | some character => chord [character]
    | none =>
      match namedKeyCodes.lookup (String.ofList normalized) with
      | some keyCode => .ok ⟨keyCode, .empty⟩
      | none => .error (.unknownKey name)

end GuestTextEncoder

def GuestTextEncodingError.errorDescription : GuestTextEncodingError → String
  | .unsupportedCharacter character =>
    "The character “" ++ String.ofList character ++ "” cannot be typed with the virtual US keyboard."
  | .unknownKey key => "Unknown key “" ++ String.ofList key ++ "”."

end SimpleVM.Input
