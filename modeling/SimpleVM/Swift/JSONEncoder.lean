import SimpleVM.Text.UTF8

/-!
# JSON out of Swift

What `JSONEncoder` writes for strings, integers and keyed containers: no blanks, a slash escaped,
characters beyond ASCII left as they are.
-/
namespace SimpleVM.Swift

open Text

/-- The characters written as a backslash and one character. -/
def shortEscape : Char → Option Char
  | '"' => some '"'
  | '\\' => some '\\'
  | '/' => some '/'
  | '\x08' => some 'b'
  | '\x0c' => some 'f'
  | '\n' => some 'n'
  | '\r' => some 'r'
  | '\t' => some 't'
  | _ => none

def escape (c : Char) : List Char :=
  match shortEscape c with
  | some letter => ['\\', letter]
  | none =>
    if c.toNat < 0x20 then
      ['\\', 'u', '0', '0', Nat.digitChar (c.toNat / 16), Nat.digitChar (c.toNat % 16)]
    else [c]

def encodeString (s : String) : List Char := '"' :: (s.toList.flatMap escape ++ ['"'])

def encodeInt (n : Int64) : List Char :=
  if n.toInt < 0 then '-' :: Nat.toDigits 10 n.toInt.natAbs else Nat.toDigits 10 n.toInt.natAbs

def encodeMember (member : String × List Char) : List Char :=
  encodeString member.1 ++ ':' :: member.2

/-- An object whose keys are sorted already. -/
def encodeObject (members : List (String × List Char)) : List Char :=
  '{' :: (List.intercalate [','] (members.map encodeMember) ++ ['}'])

def encodeArray (items : List (List Char)) : List Char :=
  '[' :: (List.intercalate [','] items ++ [']'])

end SimpleVM.Swift
