/-!
# Digit strings

Splitting a text into its leading digits and the rest, and the number that a digit string writes.
-/

namespace BrickFormula.Digits

/-- The value of a digit; letters stand for ten and up. -/
def value (c : Char) : Nat :=
  if c.isDigit then c.toNat - '0'.toNat
  else if c.isLower then c.toNat - 'a'.toNat + 10
  else c.toNat - 'A'.toNat + 10

def isHex (c : Char) : Bool :=
  c.isDigit || ('a' ≤ c && c ≤ 'f') || ('A' ≤ c && c ≤ 'F')

def isOctal (c : Char) : Bool := '0' ≤ c && c ≤ '7'

def isBinary (c : Char) : Bool := c == '0' || c == '1'

/-- The number written by digits in a base, most significant first. -/
def toNat (base : Nat) (digits : List Char) : Nat :=
  digits.foldl (fun n c => n * base + value c) 0

/-- The leading decimal digits and the rest. -/
def split (text : List Char) : List Char × List Char :=
  (text.takeWhile Char.isDigit, text.dropWhile Char.isDigit)

/-- An optional sign: whether it is a minus, and the rest. -/
def splitSign : List Char → Bool × List Char
  | '-' :: rest => (true, rest)
  | '+' :: rest => (false, rest)
  | rest => (false, rest)

/-- The signed value of a digit string. -/
def signedValue (negative : Bool) (digits : List Char) : Int :=
  if negative then -(toNat 10 digits : Int) else toNat 10 digits

/-- A decimal exponent, if the text starts with its mark and at least one digit follows. -/
def exponent? : List Char → Option (Int × List Char)
  | mark :: rest =>
    if mark = 'e' ∨ mark = 'E' then
      let (negative, rest) := splitSign rest
      let (digits, rest) := split rest
      if digits.isEmpty then none else some (signedValue negative digits, rest)
    else none
  | [] => none

end BrickFormula.Digits
