import BrickFormula.Binary64.Decimal
import BrickFormula.Json
import BrickFormula.Text.Digits

/-!
# Reading JSON

The standard grammar, with the literals `NaN`, `Infinity` and `-Infinity` as numbers.  Control
characters inside strings, trailing commas, comments and a byte-order mark are malformed; of two
fields of one name the last counts.  An integer of more than 4300 digits is refused.

The two readers differ in string escapes that name half a surrogate pair: `Json.read?` refuses the
document, `Json.readLenient?` keeps a broken string.
-/

namespace BrickFormula.Json

/-- Why a text is not JSON. -/
inductive ReadError where
  | malformed
  | integerTooLong (digits : Nat)
  deriving DecidableEq

/-- The most digits of an integer. -/
def maxDigits : Nat := 4300

/-! ## Tokens -/

def isSpace (c : Char) : Bool := c == ' ' || c == '\t' || c == '\n' || c == '\r'

def skipSpace (text : List Char) : List Char := text.dropWhile isSpace

/-- The rest after a literal word. -/
def dropWord? : (word text : List Char) → Option (List Char)
  | [], text => some text
  | w :: word, c :: text => if w = c then dropWord? word text else none
  | _ :: _, [] => none

/-- The digits after a decimal point, if a point and at least one digit follow. -/
def fraction : List Char → List Char × List Char
  | '.' :: rest =>
    let (digits, rest') := Digits.split rest
    if digits.isEmpty then ([], '.' :: rest) else (digits, rest')
  | text => ([], text)

/-- A number after its sign; a leading zero stands alone. -/
def readNumber (negative : Bool) (text : List Char) : Except ReadError (Json × List Char) :=
  let (digits, rest) :=
    match text with
    | '0' :: rest => (['0'], rest)
    | _ => Digits.split text
  if digits.isEmpty then .error .malformed
  else
    let (decimals, rest') := fraction rest
    let coefficient := Digits.toNat 10 (digits ++ decimals)
    match Digits.exponent? rest' with
    | some (e, rest'') =>
      .ok (.real (Binary64.ofDecimal negative coefficient (e - decimals.length)), rest'')
    | none =>
      if decimals.isEmpty then
        if maxDigits < digits.length then .error (.integerTooLong digits.length)
        else .ok (.integer (Digits.signedValue negative digits), rest')
      else .ok (.real (Binary64.ofDecimal negative coefficient (-decimals.length)), rest')

/-! ## Strings -/

/-- Four hexadecimal digits. -/
def readHex4 : List Char → Option (Nat × List Char)
  | a :: b :: c :: d :: rest =>
    if [a, b, c, d].all Digits.isHex then some (Digits.toNat 16 [a, b, c, d], rest) else none
  | _ => none

/-- The character of a one-letter escape. -/
def simpleEscape? : Char → Option Char
  | '"' => some '"'
  | '\\' => some '\\'
  | '/' => some '/'
  | 'b' => some '\x08'
  | 'f' => some '\x0c'
  | 'n' => some '\n'
  | 'r' => some '\r'
  | 't' => some '\t'
  | _ => none

/-- The low half of a surrogate pair, written as an escape. -/
def readLowHalf : List Char → Option (Nat × List Char)
  | '\\' :: 'u' :: rest =>
    match readHex4 rest with
    | some (n, rest) => if 0xDC00 ≤ n ∧ n ≤ 0xDFFF then some (n, rest) else none
    | none => none
  | _ => none

/-- The character of a `\u` escape after its letter; an inner `none` is half a pair. -/
def readUnicode (text : List Char) : Option (Option Char × List Char) :=
  match readHex4 text with
  | none => none
  | some (n, rest) =>
    if 0xD800 ≤ n ∧ n ≤ 0xDBFF then
      match readLowHalf rest with
      | some (low, rest') =>
        some (some (Char.ofNat (0x10000 + (n - 0xD800) * 0x400 + (low - 0xDC00))), rest')
      | none => some (none, rest)
    else if 0xDC00 ≤ n ∧ n ≤ 0xDFFF then some (none, rest)
    else some (some (Char.ofNat n), rest)

/-- The characters of a string after its opening quote, with `none` for each half of a pair. -/
def readChars : (fuel : Nat) → List Char → Option (List (Option Char) × List Char)
  | 0, _ => none
  | _ + 1, [] => none
  | _ + 1, '"' :: rest => some ([], rest)
  | fuel + 1, '\\' :: c :: rest =>
    match (if c = 'u' then readUnicode rest else (simpleEscape? c).map (some ·, rest)) with
    | some (x, rest) => (readChars fuel rest).map fun (xs, rest) => (x :: xs, rest)
    | none => none
  | fuel + 1, c :: rest =>
    if c = '\\' ∨ c.toNat < 0x20 then none
    else (readChars fuel rest).map fun (xs, rest) => (some c :: xs, rest)

/-- A string after its opening quote; halves of pairs are refused unless `lenient`. -/
def readString (lenient : Bool) (fuel : Nat) (text : List Char) :
    Except ReadError (List (Option Char) × List Char) :=
  match readChars fuel text with
  | some (chars, rest) =>
    if lenient || chars.all Option.isSome then .ok (chars, rest) else .error .malformed
  | none => .error .malformed

/-- The text of a string, a replacement character standing for each half of a pair. -/
def textOf (chars : List (Option Char)) : String :=
  String.ofList (chars.map (·.getD '\uFFFD'))

def stringOf (chars : List (Option Char)) : Json :=
  if chars.all Option.isSome then .string (textOf chars) else .brokenString

/-! ## Values -/

/-- The literal words and their values. -/
def words : List (List Char × Json) :=
  [("null".toList, .null), ("true".toList, .bool true), ("false".toList, .bool false),
   ("NaN".toList, .real .nan), ("Infinity".toList, .real (.infinity false)),
   ("-Infinity".toList, .real (.infinity true))]

/-- The literal word that the text starts with. -/
def readWord? (text : List Char) : Option (Json × List Char) :=
  words.findSome? fun (word, value) => (dropWord? word text).map (value, ·)

/-- A number or literal word. -/
def readScalar (text : List Char) : Except ReadError (Json × List Char) :=
  match readWord? text with
  | some result => .ok result
  | none =>
    match text with
    | '-' :: rest => readNumber true rest
    | _ => readNumber false text

mutual

/-- A value without space before it. -/
def readValue (lenient : Bool) : (fuel : Nat) → List Char → Except ReadError (Json × List Char)
  | 0, _ => .error .malformed
  | fuel + 1, '"' :: rest =>
    (readString lenient (fuel + 1) rest).map fun (chars, rest) => (stringOf chars, rest)
  | fuel + 1, '[' :: rest =>
    match skipSpace rest with
    | ']' :: rest => .ok (.array [], rest)
    | rest => (readItems lenient fuel rest).map fun (items, rest) => (.array items, rest)
  | fuel + 1, '{' :: rest =>
    match skipSpace rest with
    | '}' :: rest => .ok (.object [], rest)
    | rest => (readFields lenient fuel [] rest).map fun (fields, rest) => (.object fields, rest)
  | _ + 1, text => readScalar text

/-- The items of an array, up to and including its closing bracket. -/
def readItems (lenient : Bool) : (fuel : Nat) → List Char → Except ReadError (List Json × List Char)
  | 0, _ => .error .malformed
  | fuel + 1, text => do
    let (item, rest) ← readValue lenient fuel text
    match skipSpace rest with
    | ']' :: rest => return ([item], rest)
    | ',' :: rest =>
      let (items, rest) ← readItems lenient fuel (skipSpace rest)
      return (item :: items, rest)
    | _ => .error .malformed

/-- The fields of an object, added to those before them, up to and including its closing brace. -/
def readFields (lenient : Bool) :
    (fuel : Nat) → List (String × Json) → List Char →
    Except ReadError (List (String × Json) × List Char)
  | 0, _, _ => .error .malformed
  | fuel + 1, before, '"' :: text => do
    let (name, rest) ← readString lenient (fuel + 1) text
    match skipSpace rest with
    | ':' :: rest =>
      let (value, rest) ← readValue lenient fuel (skipSpace rest)
      let fields := setField before (textOf name) value
      match skipSpace rest with
      | '}' :: rest => return (fields, rest)
      | ',' :: rest => readFields lenient fuel fields (skipSpace rest)
      | _ => .error .malformed
    | _ => .error .malformed
  | _ + 1, _, _ => .error .malformed

end

/-- A whole document: one value with nothing but space around it. -/
def readDocument (lenient : Bool) (text : List Char) : Except ReadError Json := do
  let (value, rest) ← readValue lenient (2 * text.length + 2) (skipSpace text)
  if (skipSpace rest).isEmpty then return value else .error .malformed

/-- Reads a document whose strings are all text. -/
def read? (text : String) : Except ReadError Json := readDocument false text.toList

/-- Reads a document, keeping strings with halves of surrogate pairs as broken strings. -/
def readLenient? (text : String) : Except ReadError Json := readDocument true text.toList

end BrickFormula.Json
