import SimpleVM.Text.UTF8

/-!
# JSON in Python

`json.loads` and `json.dumps` as the guest tools call them: duplicate keys and the constants
`NaN` and `Infinity` are rejected, and output keeps non-ASCII characters. A string is a list of
code points, because an escape can name a lone surrogate, which no UTF-8 text contains.
-/
namespace SimpleVM.Python

open Text

abbrev Str := List Nat

def str (text : String) : Str := text.toList.map Char.toNat

@[simp] theorem str_inj {a b : String} : str a = str b ↔ a = b := by
  constructor
  · intro same
    have chars : a.toList = b.toList :=
      (List.map_inj_right fun _ _ => Char.toNat_inj.mp).mp same
    exact String.toList_inj.mp chars
  · rintro rfl
    rfl

@[simp] theorem str_beq (a b : String) : (str a == str b) = (a == b) := by
  rw [Bool.eq_iff_iff, beq_iff_eq, beq_iff_eq, str_inj]

def isSurrogate (n : Nat) : Bool := decide (0xd800 ≤ n) && decide (n < 0xe000)

/-- `s.encode("utf-8")`; `none` is `UnicodeEncodeError`. -/
def encode? (s : Str) : Option (List UInt8) :=
  if s.any isSurrogate then none else some (utf8 (s.map Char.ofNat))

inductive Value
  | null
  | bool (b : Bool)
  | int (n : Int)
  /-- A float, by the literal it was read from. -/
  | float (literal : List Char)
  | string (s : Str)
  | list (items : List Value)
  | dict (members : List (Str × Value))

/-- Every error of the decoder but the recursion limit is a `ValueError`. -/
inductive LoadsError
  | value | recursion
deriving DecidableEq, Repr

/-- What a scanner has read, and the text after it. -/
abbrev Scan (α : Type) := Except LoadsError (α × List Char)

def isSpace (c : Char) : Bool := c = ' ' || c = '\t' || c = '\n' || c = '\r'

def skipSpace (text : List Char) : List Char := text.dropWhile isSpace

section Strings

def hexDigit (c : Char) : Option Nat :=
  if '0' ≤ c ∧ c ≤ '9' then some (c.toNat - '0'.toNat)
  else if 'a' ≤ c ∧ c ≤ 'f' then some (c.toNat - 'a'.toNat + 10)
  else if 'A' ≤ c ∧ c ≤ 'F' then some (c.toNat - 'A'.toNat + 10)
  else none

def hex4 (a b c d : Char) : Option Nat := do
  return (((← hexDigit a) * 16 + (← hexDigit b)) * 16 + (← hexDigit c)) * 16 + (← hexDigit d)

def unescape : Char → Option Nat
  | '"' => some 0x22
  | '\\' => some 0x5c
  | '/' => some 0x2f
  | 'b' => some 0x08
  | 'f' => some 0x0c
  | 'n' => some 0x0a
  | 'r' => some 0x0d
  | 't' => some 0x09
  | _ => none

def prepend (n : Nat) : Scan Str → Scan Str := Except.map fun (s, rest) => (n :: s, rest)

/-- The code points up to the closing quote, the halves of a surrogate pair still apart. -/
def scanUnits : List Char → Scan Str
  | [] => .error .value
  | '"' :: rest => .ok ([], rest)
  | '\\' :: 'u' :: a :: b :: c :: d :: rest =>
    match hex4 a b c d with
    | some n => prepend n (scanUnits rest)
    | none => .error .value
  | '\\' :: c :: rest =>
    match unescape c with
    | some n => prepend n (scanUnits rest)
    | none => .error .value
  | c :: rest => if c.toNat < 0x20 then .error .value else prepend c.toNat (scanUnits rest)

def isHigh (n : Nat) : Bool := decide (0xd800 ≤ n) && decide (n < 0xdc00)
def isLow (n : Nat) : Bool := decide (0xdc00 ≤ n) && decide (n < 0xe000)

/-- Only escapes make surrogates, so this joins what two escapes in a row name. -/
def joinSurrogates : Str → Str
  | high :: low :: rest =>
    if isHigh high && isLow low then
      (0x10000 + (high - 0xd800) * 0x400 + (low - 0xdc00)) :: joinSurrogates rest
    else high :: joinSurrogates (low :: rest)
  | s => s

/-- A string after its opening quote. -/
def scanString (text : List Char) : Scan Str :=
  (scanUnits text).map fun (s, rest) => (joinSurrogates s, rest)

end Strings

section Numbers

def isDigit (c : Char) : Bool := decide ('0' ≤ c) && decide (c ≤ '9')

/-- The digits `int()` converts at most. -/
def maxStrDigits : Nat := 4300

def digitsValue (digits : List Char) : Nat :=
  digits.foldl (fun n d => n * 10 + (d.toNat - '0'.toNat)) 0

/-- A fraction or an exponent, where there is one with a digit in it. -/
def scanFraction : List Char → List Char × List Char
  | '.' :: d :: rest =>
    if isDigit d then ('.' :: d :: rest.takeWhile isDigit, rest.dropWhile isDigit)
    else ([], '.' :: d :: rest)
  | text => ([], text)

def scanExponent : List Char → List Char × List Char
  | e :: s :: d :: rest =>
    if e = 'e' ∨ e = 'E' then
      if (s = '+' ∨ s = '-') ∧ isDigit d then
        (e :: s :: d :: rest.takeWhile isDigit, rest.dropWhile isDigit)
      else if isDigit s then
        (e :: s :: (d :: rest).takeWhile isDigit, (d :: rest).dropWhile isDigit)
      else ([], e :: s :: d :: rest)
    else ([], e :: s :: d :: rest)
  | [e, d] => if (e = 'e' ∨ e = 'E') ∧ isDigit d then ([e, d], []) else ([], [e, d])
  | text => ([], text)

/-- A number whose integer part has been read. -/
def finishNumber (negative : Bool) (digits rest : List Char) : Scan Value :=
  let (fraction, rest) := scanFraction rest
  let (exponent, rest) := scanExponent rest
  if fraction.isEmpty && exponent.isEmpty then
    if maxStrDigits < digits.length then .error .value
    else
      let n : Int := digitsValue digits
      .ok (.int (if negative then -n else n), rest)
  else
    let sign := if negative then ['-'] else []
    .ok (.float (sign ++ digits ++ fraction ++ exponent), rest)

def scanUnsigned (negative : Bool) : List Char → Scan Value
  | '0' :: rest => finishNumber negative ['0'] rest
  | d :: rest =>
    if isDigit d then
      finishNumber negative (d :: rest.takeWhile isDigit) (rest.dropWhile isDigit)
    else .error .value
  | [] => .error .value

def scanNumber : List Char → Scan Value
  | '-' :: rest => scanUnsigned true rest
  | text => scanUnsigned false text

end Numbers

section Containers

/-- What stands after an element: a comma and more, or the bracket that closes. `next` scans the
rest after the comma. -/
def scanMore {α : Type} (close : Char) (element : α) (next : List Char → Scan (List α)) :
    List Char → Scan (List α)
  | c :: rest =>
    if c = close then .ok ([element], rest)
    else if c = ',' then (next (skipSpace rest)).map fun (more, rest) => (element :: more, rest)
    else .error .value
  | [] => .error .value

/-- `"key": value`. -/
def scanMember (value : List Char → Scan Value) : List Char → Scan (Str × Value)
  | '"' :: text =>
    match scanString text with
    | .error e => .error e
    | .ok (key, text) =>
      match skipSpace text with
      | ':' :: text => (value (skipSpace text)).map fun (v, rest) => ((key, v), rest)
      | _ => .error .value
  | _ => .error .value

/-- Elements up to the closing bracket. Each takes at least one character, so fuel of the length
of the text does not run out. -/
def scanElements {α : Type} (close : Char) (element : List Char → Scan α) :
    Nat → List Char → Scan (List α)
  | 0, _ => .error .value
  | fuel + 1, text =>
    match element text with
    | .error e => .error e
    | .ok (first, text) => scanMore close first (scanElements close element fuel) (skipSpace text)

/-- A container after its opening bracket. -/
def scanContainer {α : Type} (close : Char) (element : List Char → Scan α) (text : List Char) :
    Scan (List α) :=
  match skipSpace text with
  | [] => .error .value
  | c :: rest =>
    if c = close then .ok ([], rest) else scanElements close element (c :: rest).length (c :: rest)

/-- `object_pairs_hook` is called at the end of an object, inside of it: the call takes `hook` of
the levels that are left there. -/
def strictObject (hook limit : Nat) : Scan (List (Str × Value)) → Scan Value
  | .error e => .error e
  | .ok (members, rest) =>
    if limit < hook then .error .recursion
    else if (members.map Prod.fst).Nodup then .ok (.dict members, rest)
    else .error .value

/-- A value, with `limit` levels of recursion left. -/
def scanValue (hook : Nat) : Nat → List Char → Scan Value
  | _, '"' :: text => (scanString text).map fun (s, rest) => (.string s, rest)
  | 0, '{' :: _ => .error .recursion
  | 0, '[' :: _ => .error .recursion
  | limit + 1, '{' :: text =>
    strictObject hook limit (scanContainer '}' (scanMember (scanValue hook limit)) text)
  | limit + 1, '[' :: text =>
    (scanContainer ']' (scanValue hook limit) text).map fun (items, rest) => (.list items, rest)
  | _, 'n' :: 'u' :: 'l' :: 'l' :: rest => .ok (.null, rest)
  | _, 't' :: 'r' :: 'u' :: 'e' :: rest => .ok (.bool true, rest)
  | _, 'f' :: 'a' :: 'l' :: 's' :: 'e' :: rest => .ok (.bool false, rest)
  -- The constants `NaN`, `Infinity` and `-Infinity` are rejected like any other letter.
  | _, text => scanNumber text

/-- `json.loads` of a decoded text; the recursion limit is the interpreter's. -/
def loads (hook limit : Nat) (text : List Char) : Except LoadsError Value :=
  if text.head? = some '\ufeff' then .error .value
  else
    match scanValue hook limit (skipSpace text) with
    | .ok (v, rest) => if (skipSpace rest).isEmpty then .ok v else .error .value
    | .error e => .error e

end Containers

section Dumps

def hexLower (n : Nat) : Nat := if n < 10 then 0x30 + n else 0x57 + n

def escapeUnit (n : Nat) : Str :=
  if n = 0x22 then [0x5c, 0x22]
  else if n = 0x5c then [0x5c, 0x5c]
  else if n = 0x08 then [0x5c, 0x62]
  else if n = 0x0c then [0x5c, 0x66]
  else if n = 0x0a then [0x5c, 0x6e]
  else if n = 0x0d then [0x5c, 0x72]
  else if n = 0x09 then [0x5c, 0x74]
  else if n < 0x20 then [0x5c, 0x75, 0x30, 0x30, hexLower (n / 16), hexLower (n % 16)]
  else [n]

def dumpsString (s : Str) : Str := 0x22 :: (s.flatMap escapeUnit ++ [0x22])

/-- The texts between brackets, separated by commas. -/
def joined (open_ close : Nat) (texts : List Str) : Str :=
  open_ :: (List.intercalate [0x2c] texts ++ [close])

/-- `repr` of a float, by the literal it was read from. -/
abbrev FloatRepr := List Char → Str

/-- An integer of more digits than `str()` converts is a `ValueError`. -/
inductive DumpsError
  | value | recursion
deriving DecidableEq, Repr

variable (floatRepr : FloatRepr)

/-- `json.dumps` with `limit` levels of nesting left. -/
def dumps : Nat → Value → Except DumpsError Str
  | _, .null => .ok (str "null")
  | _, .bool b => .ok (str (if b then "true" else "false"))
  | _, .int n =>
    if maxStrDigits < (Nat.toDigits 10 n.natAbs).length then .error .value
    else .ok (str (toString n))
  | _, .float literal => .ok (floatRepr literal)
  | _, .string s => .ok (dumpsString s)
  | 0, .list _ => .error .recursion
  | 0, .dict _ => .error .recursion
  | limit + 1, .list items => do return joined 0x5b 0x5d (← items.mapM (dumps limit))
  | limit + 1, .dict members => do
    let texts ← members.mapM fun (key, v) => do
      return dumpsString key ++ [0x3a] ++ (← dumps limit v)
    return joined 0x7b 0x7d texts

end Dumps

end SimpleVM.Python
