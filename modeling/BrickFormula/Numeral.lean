import BrickFormula.Binary64.Decimal
import BrickFormula.Text.Digits

/-!
# Numerals

How numbers are written.  A numeral is an optional sign, then `NaN`, `Infinity` or decimal digits
with an optional point, exponent and one-letter suffix; space and control characters around it do
not count.  A number is written with the fewest digits that read back to it, in positional or
exponent notation as its `NumberFormat` says:

    parse? text    the number that a numeral writes; none for any other text
    write x        the numeral of a number in the language's own format
-/

namespace BrickFormula.Numeral

/-! ## Trimming -/

/-- Space and the control characters below it. -/
def isBlank (c : Char) : Bool := c.toNat ≤ 0x20

/-- Drops blanks from both ends. -/
def trimChars (text : List Char) : List Char :=
  ((text.dropWhile isBlank).reverse.dropWhile isBlank).reverse

def trim (text : String) : String := String.ofList (trimChars text.toList)

/-! ## Whole numbers on display -/

/-- Drops a final `.0`, so that whole numbers show without decimals. -/
def stripTrailingZero (text : String) : String :=
  match text.toList.reverse with
  | '0' :: '.' :: rest => String.ofList rest.reverse
  | _ => text

/-! ## Reading -/

/-- One of the letters that may end a numeral. -/
def isSuffix (c : Char) : Bool := c == 'f' || c == 'F' || c == 'd' || c == 'D'

/-- The digits before and after an optional point, and the rest. -/
def splitPoint (text : List Char) : List Char × List Char × List Char :=
  let (whole, rest) := Digits.split text
  match rest with
  | '.' :: rest =>
    let (decimals, rest) := Digits.split rest
    (whole, decimals, rest)
  | rest => (whole, [], rest)

/-- An unsigned decimal with an optional exponent and suffix. -/
def parseDecimal? (negative : Bool) (text : List Char) : Option Binary64 :=
  let (whole, decimals, rest) := splitPoint text
  if whole.isEmpty && decimals.isEmpty then none
  else
    let (exponent, rest) := (Digits.exponent? rest).getD (0, rest)
    let ended := match rest with
      | [] => true
      | [c] => isSuffix c
      | _ => false
    if ended then
      some (.ofDecimal negative (Digits.toNat 10 (whole ++ decimals))
        (exponent - decimals.length))
    else none

/-- A numeral without blanks around it. -/
def parseChars? (text : List Char) : Option Binary64 :=
  let (negative, rest) := Digits.splitSign text
  if rest = "NaN".toList then some .nan
  else if rest = "Infinity".toList then some (.infinity negative)
  else parseDecimal? negative rest

/-- The number that a text writes; none when the text is not a numeral. -/
def parse? (text : String) : Option Binary64 := parseChars? (trimChars text.toList)

/-! ## Writing -/

/-- The choices that tell one way of writing numbers from another.  Numbers whose first digit
stands for ten to the `leastPositional` or more, and less than ten to the `leastScientific`, are
written with a point and no exponent. -/
structure NumberFormat where
  nan : String
  infinity : String
  leastPositional : Int
  leastScientific : Int
  /-- Stands between the digits and the exponent. -/
  mark : String
  /-- A single digit is still followed by `.0` before an exponent. -/
  alwaysPoint : Bool
  /-- Exponents carry a sign and at least two digits. -/
  paddedExponent : Bool

/-- Numbers between a thousandth and ten million are positional; otherwise the exponent follows an
`E`, as in `1.0E7`. -/
def native : NumberFormat :=
  ⟨"NaN", "Infinity", -3, 7, "E", true, false⟩

/-- Numbers between a ten-thousandth and ten to the sixteenth are positional; otherwise the
exponent is signed and padded, as in `1e+16`. -/
def compact : NumberFormat :=
  ⟨"nan", "inf", -4, 16, "e", false, true⟩

/-- Digits with a point, the first of them standing for ten to the `exponent`. -/
def positional (digits : List Char) (exponent : Int) : List Char :=
  if exponent < 0 then '0' :: '.' :: List.replicate (-exponent - 1).toNat '0' ++ digits
  else
    let whole := exponent.toNat + 1
    if digits.length ≤ whole then
      digits ++ List.replicate (whole - digits.length) '0' ++ ['.', '0']
    else digits.take whole ++ '.' :: digits.drop whole

/-- The decimal digits of a natural number. -/
def decimalDigits (n : Nat) : List Char := Nat.toDigits 10 n

namespace NumberFormat

def exponentText (format : NumberFormat) (exponent : Int) : List Char :=
  let digits := decimalDigits exponent.natAbs
  if format.paddedExponent then
    (if exponent < 0 then '-' else '+') :: (if digits.length < 2 then '0' :: digits else digits)
  else if exponent < 0 then '-' :: digits
  else digits

/-- One digit before the point, the others after it, and the exponent. -/
def scientific (format : NumberFormat) (digits : List Char) (exponent : Int) : List Char :=
  let point := match digits with
    | [] => []
    | [d] => if format.alwaysPoint then [d, '.', '0'] else [d]
    | d :: rest => d :: '.' :: rest
  point ++ format.mark.toList ++ format.exponentText exponent

/-- The numeral of a finite number without its sign. -/
def magnitude (format : NumberFormat) (d : Binary64.Decimal) : List Char :=
  let digits := decimalDigits d.coefficient
  let exponent := d.exponent + digits.length - 1
  if format.leastPositional ≤ exponent ∧ exponent < format.leastScientific then
    positional digits exponent
  else format.scientific digits exponent

def writeChars (format : NumberFormat) : Binary64 → List Char
  | .nan => format.nan.toList
  | .infinity negative => (if negative then ['-'] else []) ++ format.infinity.toList
  | .finite negative units h =>
    (if negative then ['-'] else []) ++
      (if units = 0 then ['0', '.', '0']
       else format.magnitude (Binary64.shortestDecimal negative units h))

/-- The text of a number. -/
def write (format : NumberFormat) (x : Binary64) : String := String.ofList (format.writeChars x)

end NumberFormat

/-- The numeral of a number in the language's own format. -/
def write (x : Binary64) : String := native.write x

end BrickFormula.Numeral
