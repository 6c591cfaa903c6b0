import SimpleVM.Python.Json

/-!
# JSON into Swift

`JSONDecoder` on UTF-8 data, with the keyed and single-value containers that the decoded types
use. The two JSON parsers share the grammar of containers and of numbers, so the scanners for these
are the guest's; strings and keyed access are Swift's own.
-/
namespace SimpleVM.Swift

open Python (Scan scanContainer scanFraction scanExponent skipSpace isDigit isSpace isHigh isLow
  hex4 unescape digitsValue)

/-- A parsed value. Numbers stay literals until a type is asked for. -/
inductive JSON
  | null
  | bool (b : Bool)
  | number (literal : List Char)
  | string (s : String)
  | array (items : List JSON)
  | object (members : List (String × JSON))

section Parsing

def prepend (c : Char) : Scan (List Char) → Scan (List Char) :=
  Except.map fun (s, rest) => (c :: s, rest)

/-- The characters up to the closing quote. Half a surrogate pair is an error. -/
def scanCharacters : List Char → Scan (List Char)
  | [] => .error .value
  | '"' :: rest => .ok ([], rest)
  | '\\' :: 'u' :: a :: b :: c :: d :: rest =>
    match hex4 a b c d with
    | none => .error .value
    | some n =>
      if isHigh n then
        match rest with
        | '\\' :: 'u' :: e :: f :: g :: h :: rest =>
          match hex4 e f g h with
          | none => .error .value
          | some low =>
            if isLow low then
              prepend (Char.ofNat (0x10000 + (n - 0xd800) * 0x400 + (low - 0xdc00)))
                (scanCharacters rest)
            else .error .value
        | _ => .error .value
      else if isLow n then .error .value
      else prepend (Char.ofNat n) (scanCharacters rest)
  | '\\' :: c :: rest =>
    match unescape c with
    | some n => prepend (Char.ofNat n) (scanCharacters rest)
    | none => .error .value
  | c :: rest => if c.toNat < 0x20 then .error .value else prepend c (scanCharacters rest)

/-- A string after its opening quote. -/
def scanString (text : List Char) : Scan String :=
  (scanCharacters text).map fun (s, rest) => (String.ofList s, rest)

def scanMember (value : List Char → Scan JSON) : List Char → Scan (String × JSON)
  | '"' :: text =>
    match scanString text with
    | .error e => .error e
    | .ok (key, text) =>
      match skipSpace text with
      | ':' :: text => (value (skipSpace text)).map fun (v, rest) => ((key, v), rest)
      | _ => .error .value
  | _ => .error .value

/-- A number whose integer part has been read. -/
def finishNumber (integer rest : List Char) : Scan JSON :=
  let (fraction, rest) := scanFraction rest
  let (exponent, rest) := scanExponent rest
  .ok (.number (integer ++ fraction ++ exponent), rest)

def scanUnsigned (sign : List Char) : List Char → Scan JSON
  | '0' :: rest => finishNumber (sign ++ ['0']) rest
  | d :: rest =>
    if isDigit d then
      finishNumber (sign ++ d :: rest.takeWhile isDigit) (rest.dropWhile isDigit)
    else .error .value
  | [] => .error .value

def scanNumber : List Char → Scan JSON
  | '-' :: rest => scanUnsigned ['-'] rest
  | text => scanUnsigned [] text

/-- A value, with `limit` levels of nesting left. -/
def scanValue : Nat → List Char → Scan JSON
  | _, '"' :: text => (scanString text).map fun (s, rest) => (.string s, rest)
  | 0, '{' :: _ => .error .recursion
  | 0, '[' :: _ => .error .recursion
  | limit + 1, '{' :: text =>
    (scanContainer '}' (scanMember (scanValue limit)) text).map fun (members, rest) =>
      (.object members, rest)
  | limit + 1, '[' :: text =>
    (scanContainer ']' (scanValue limit) text).map fun (items, rest) => (.array items, rest)
  | _, 'n' :: 'u' :: 'l' :: 'l' :: rest => .ok (.null, rest)
  | _, 't' :: 'r' :: 'u' :: 'e' :: rest => .ok (.bool true, rest)
  | _, 'f' :: 'a' :: 'l' :: 's' :: 'e' :: rest => .ok (.bool false, rest)
  | _, text => scanNumber text

end Parsing

section Decoding

inductive DecodingError
  | typeMismatch | valueNotFound | keyNotFound | dataCorrupted
deriving DecidableEq, Repr

/-- What Foundation leaves open: how deep it parses, which is deep enough for every message, the
integer a literal with a fraction or an exponent stands for, and the texts of its errors. -/
structure Foundation where
  nesting : Nat
  integral : List Char → Option Int64
  localizedDescription : DecodingError → String
  parses : 4 ≤ nesting

/-- Foundation as shipped, short of the texts of its errors. -/
def appleFoundation : Foundation :=
  { nesting := 512, integral := fun _ => none, localizedDescription := fun _ => "",
    parses := by decide }

/-- The text of a value with blanks around it. -/
def Foundation.parse (foundation : Foundation) (text : List Char) : Except DecodingError JSON :=
  match scanValue foundation.nesting (skipSpace text) with
  | .ok (v, rest) => if (skipSpace rest).isEmpty then .ok v else .error .dataCorrupted
  | .error _ => .error .dataCorrupted

variable {α : Type}

/-- `decode(String.self)` -/
def decodeString : JSON → Except DecodingError String
  | .string s => .ok s
  | .null => .error .valueNotFound
  | _ => .error .typeMismatch

/-- The value of a literal of digits only, with or without a sign. -/
def wholeLiteral : List Char → Option Int
  | '-' :: digits => if digits.all isDigit then some (-(digitsValue digits : Int)) else none
  | digits => if digits.all isDigit then some (digitsValue digits) else none

/-- `decode(Int.self)` -/
def Foundation.decodeInt (foundation : Foundation) : JSON → Except DecodingError Int64
  | .number literal =>
    match wholeLiteral literal with
    | some n =>
      if Int64.minValue.toInt ≤ n ∧ n ≤ Int64.maxValue.toInt then .ok (Int64.ofInt n)
      else .error .dataCorrupted
    | none =>
      match foundation.integral literal with
      | some n => .ok n
      | none => .error .dataCorrupted
  | .null => .error .valueNotFound
  | _ => .error .typeMismatch

/-- `decode([Element].self)` -/
def decodeArray (element : JSON → Except DecodingError α) : JSON → Except DecodingError (List α)
  | .array items => items.mapM element
  | .null => .error .valueNotFound
  | _ => .error .typeMismatch

/-- `decode` of an enumeration with string raw values. -/
def decodeRawValue (ofRawValue : String → Option α) (v : JSON) : Except DecodingError α := do
  match ofRawValue (← decodeString v) with
  | some a => return a
  | none => throw .dataCorrupted

/-- `container(keyedBy:)` -/
def container : JSON → Except DecodingError (List (String × JSON))
  | .object members => .ok members
  | .null => .error .valueNotFound
  | _ => .error .typeMismatch

/-- `decode(_:forKey:)` -/
def decode (members : List (String × JSON)) (key : String)
    (value : JSON → Except DecodingError α) : Except DecodingError α :=
  match members.lookup key with
  | some v => value v
  | none => .error .keyNotFound

/-- `decodeIfPresent(_:forKey:)` -/
def decodeIfPresent (members : List (String × JSON)) (key : String)
    (value : JSON → Except DecodingError α) : Except DecodingError (Option α) :=
  match members.lookup key with
  | none | some .null => .ok none
  | some v => (value v).map some

/-- `contains(_:)` -/
def contains (members : List (String × JSON)) (key : String) : Bool :=
  (members.lookup key).isSome

end Decoding

end SimpleVM.Swift
