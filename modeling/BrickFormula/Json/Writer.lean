import BrickFormula.Json
import BrickFormula.Numeral

/-!
# Writing JSON

The compact form: no space between tokens, fields in their order.  In strings the quote, the
backslash and the characters below U+0020 are escaped and everything else stands for itself, so
reading the text gives back the value.
-/

namespace BrickFormula.Json

/-- A hexadecimal digit, in lower case. -/
def hexDigit (n : Nat) : Char := Nat.digitChar n

/-- A character inside a string. -/
def escapeChar (c : Char) : List Char :=
  if c = '"' then ['\\', '"']
  else if c = '\\' then ['\\', '\\']
  else if c = '\x08' then ['\\', 'b']
  else if c = '\x0c' then ['\\', 'f']
  else if c = '\n' then ['\\', 'n']
  else if c = '\r' then ['\\', 'r']
  else if c = '\t' then ['\\', 't']
  else if c.toNat < 0x20 then
    ['\\', 'u', '0', '0', hexDigit (c.toNat / 16), hexDigit (c.toNat % 16)]
  else [c]

/-- A string in quotes. -/
def quote (s : String) : List Char := '"' :: s.toList.flatMap escapeChar ++ ['"']

/-- The reals are written as in JSON where it has a form for them. -/
def realChars : Binary64 → List Char
  | .nan => "NaN".toList
  | .infinity negative => if negative then "-Infinity".toList else "Infinity".toList
  | x => Numeral.compact.writeChars x

mutual

def chars : Json → List Char
  | .null => "null".toList
  | .bool b => if b then "true".toList else "false".toList
  | .integer n => (toString n).toList
  | .real x => realChars x
  | .string s => quote s
  | .brokenString => quote "\uFFFD"
  | .array items => '[' :: itemChars items ++ [']']
  | .object fields => '{' :: fieldChars fields ++ ['}']

/-- Items separated by commas. -/
def itemChars : List Json → List Char
  | [] => []
  | [item] => chars item
  | item :: rest => chars item ++ ',' :: itemChars rest

/-- Fields separated by commas. -/
def fieldChars : List (String × Json) → List Char
  | [] => []
  | [(name, value)] => quote name ++ ':' :: chars value
  | (name, value) :: rest => quote name ++ ':' :: chars value ++ ',' :: fieldChars rest

end

/-- The compact text of a value. -/
def write (value : Json) : String := String.ofList (chars value)

end BrickFormula.Json
