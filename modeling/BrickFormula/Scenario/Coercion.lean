import BrickFormula.Binary64.Arithmetic
import BrickFormula.Binary64.Decimal
import BrickFormula.Json
import BrickFormula.Problem
import BrickFormula.Text.Digits
import BrickFormula.Text.Letter
import BrickFormula.Value

/-!
# Coercion of document values

How numbers, whole numbers, truth values and texts are read from JSON where a scenario asks for
them.  Texts that write a number count as that number, truth values count as one and zero, and a
number without a fraction counts as a whole number.  A text is never made of anything else.
-/

namespace BrickFormula.Coercion

/-! ## Texts of numbers -/

/-- White space around a number. -/
def isSpace (c : Char) : Bool := Letter.isSpace c && !(0x1C ≤ c.toNat && c.toNat ≤ 0x1F)

def trim (text : List Char) : List Char :=
  ((text.dropWhile isSpace).reverse.dropWhile isSpace).reverse

/-- Drops the underscores between the characters of a text; none where one stands at an end or
beside another. -/
def dropUnderscores? (text : List Char) : Option (List Char) :=
  if (text.splitOn '_').any List.isEmpty then none else some (text.filter (· ≠ '_'))

/-- The numbers that are written as words. -/
def numberWord? (negative : Bool) (text : List Char) : Option Binary64 :=
  let word := text.map Char.toLower
  if word = "nan".toList then some .nan
  else if word = "inf".toList || word = "infinity".toList then some (.infinity negative)
  else none

/-- A decimal with an optional point and exponent. -/
def decimal? (negative : Bool) (text : List Char) : Option Binary64 :=
  let (whole, rest) := Digits.split text
  let (decimals, rest) := match rest with
    | '.' :: rest => Digits.split rest
    | rest => ([], rest)
  let (exponent, rest) := (Digits.exponent? rest).getD (0, rest)
  if rest.isEmpty && !(whole.isEmpty && decimals.isEmpty) then
    some (.ofDecimal negative (Digits.toNat 10 (whole ++ decimals)) (exponent - decimals.length))
  else none

/-- A number without space around it. -/
def plainNumber? (text : List Char) : Option Binary64 :=
  let (negative, rest) := Digits.splitSign text
  (numberWord? negative rest).or (decimal? negative rest)

/-- The number that a text writes. -/
def number? (text : List Char) : Option Binary64 :=
  (plainNumber? (trim text)).or ((dropUnderscores? text).bind plainNumber?)

/-- Drops a point with nothing but zeros behind it. -/
def dropZeroFraction (text : List Char) : List Char :=
  match text.span (· ≠ '.') with
  | (whole, '.' :: zeros) => if zeros.all (· = '0') then whole else text
  | _ => text

/-- The whole number that a text writes. -/
def wholeNumber? (text : List Char) : Option Int :=
  let (negative, rest) := Digits.splitSign (trim text)
  match dropUnderscores? (dropZeroFraction rest) with
  | none => none
  | some digits =>
    if !digits.isEmpty && digits.all Char.isDigit then some (Digits.signedValue negative digits)
    else none

/-- The most characters of a text that writes a whole number. -/
def maxLength : Nat := 4300

/-- The truth value that a text writes. -/
def truth? (text : String) : Option Bool :=
  let word := String.ofList (text.toList.map Char.toLower)
  if ["1", "on", "t", "true", "y", "yes"].contains word then some true
  else if ["0", "off", "f", "false", "n", "no"].contains word then some false
  else none

/-! ## Values of documents -/

/-- Reads a part of a document at a path. -/
abbrev Reader (α : Type) := Path → Json → Checked α

def ofOption {α : Type} (path : Path) (kind : ProblemKind) (value : Option α) : Checked α :=
  value.elim (.fail path kind) .ok

/-- A text; nothing is converted to one. -/
def text : Reader String
  | _, .string s => .ok s
  | path, .brokenString => .fail path .stringUnicode
  | path, _ => .fail path .stringType

def number : Reader Binary64
  | _, .real x => .ok x
  | _, .bool b => .ok (if b then .one else .zero)
  | path, .integer n =>
    if (Binary64.ofInt n).isFinite then .ok (.ofInt n) else .fail path .floatType
  | path, .string s => ofOption path .floatParsing (number? s.toList)
  | path, .brokenString => .fail path .stringUnicode
  | path, _ => .fail path .floatType

/-- A number or a text; a text is never read as a number. -/
def value : Reader Value
  | _, .string s => .ok (.text s)
  | path, json =>
    match number (path ++ ["float"]) json with
    | .ok x => .ok (.number x)
    | .error problems => .error (problems ++ (text (path ++ ["str"]) json).problems)

/-- Two to the 63rd: whole numbers that come from other numbers are smaller in magnitude. -/
def wholeLimit : Int := 9223372036854775808

/-- The whole number that a number is; a fraction, an infinity or a magnitude beyond 63 bits is
none. -/
def wholeOf (path : Path) (x : Binary64) : Checked Int :=
  if !x.isFinite then .fail path .finiteNumber
  else if x.isWhole && x.abs.lt (.ofInt wholeLimit) then .ok x.truncate
  else .fail path .intFromFloat

/-- The whole number that a text writes, which may not be too long. -/
def wholeText (path : Path) (s : String) : Checked Int :=
  if maxLength < (trim s.toList).length then .fail path .intParsingSize
  else ofOption path .intParsing (wholeNumber? s.toList)

def whole : Reader Int
  | _, .integer n => .ok n
  | _, .bool b => .ok (if b then 1 else 0)
  | path, .real x => wholeOf path x
  | path, .string s => wholeText path s
  | path, .brokenString => .fail path .stringUnicode
  | path, _ => .fail path .intType

/-- The truth value of a whole number; only zero and one have one. -/
def truthOf (path : Path) (n : Int) : Checked Bool :=
  if n = 0 then .ok false else if n = 1 then .ok true else .fail path .boolParsing

def truth : Reader Bool
  | _, .bool b => .ok b
  | path, .integer n =>
    if -wholeLimit ≤ n && n < wholeLimit then truthOf path n else .fail path .boolType
  | path, .real x =>
    match wholeOf path x with
    | .ok n => truthOf path n
    | .error _ => .fail path .boolType
  | path, .string s => ofOption path .boolParsing (truth? s)
  | path, .brokenString => .fail path .stringUnicode
  | path, _ => .fail path .boolType

/-! ## Containers -/

/-- Null, or what the reader takes. -/
def nullable {α : Type} (reader : Reader α) : Reader (Option α)
  | _, .null => .ok none
  | path, json => (reader path json).map some

/-- The items of a list from an index on. -/
def items {α : Type} (reader : Reader α) (path : Path) : (index : Nat) → List Json →
    Checked (List α)
  | _, [] => .ok []
  | index, item :: rest =>
    .both List.cons (reader (path ++ [toString index]) item) (items reader path (index + 1) rest)

def list {α : Type} (reader : Reader α) : Reader (List α)
  | path, .array js => items reader path 0 js
  | path, _ => .fail path .listType

/-- A list of exactly two items. -/
def pair {α : Type} (reader : Reader α) : Reader (α × α)
  | path, .array js =>
    let item (index : Nat) : Checked α :=
      let place := path ++ [toString index]
      (js[index]?).elim (.fail place .missing) (reader place)
    if 2 < js.length then .fail path .tooLong else .both Prod.mk (item 0) (item 1)
  | path, _ => .fail path .tupleType

/-- Reads the name of a field as a key. -/
abbrev KeyReader (κ : Type) := Path → String → Checked κ

def nameKey : KeyReader String := fun _ name => .ok name

def wholeKey : KeyReader Int := wholeText

/-- The entries of an object; of two with the same key the last counts. -/
def table {κ α : Type} [DecidableEq κ] (key : KeyReader κ) (reader : Reader α) :
    Reader (List (κ × α))
  | path, .object fields =>
    let entry (field : String × Json) : Checked (κ × α) :=
      let place := path ++ [field.1]
      .both Prod.mk (key (place ++ ["[key]"]) field.1) (reader place field.2)
    (Checked.all (fields.map entry)).map fun entries =>
      entries.foldl (fun entries (key, value) => setField entries key value) []
  | path, _ => .fail path .dictType

/-- A field of an object, or its default where it is absent. -/
def field {α : Type} (reader : Reader α) (default : α) (path : Path) (name : String)
    (fields : List (String × Json)) : Checked α :=
  (fields.lookup name).elim (.ok default) (reader (path ++ [name]))

/-- A field that every object has. -/
def needed {α : Type} (reader : Reader α) (path : Path) (name : String)
    (fields : List (String × Json)) : Checked α :=
  (fields.lookup name).elim (.fail (path ++ [name]) .missing) (reader (path ++ [name]))

end BrickFormula.Coercion
