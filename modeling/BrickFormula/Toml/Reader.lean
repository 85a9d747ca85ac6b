import BrickFormula.Binary64.Decimal
import BrickFormula.Text.Digits
import BrickFormula.Toml

/-!
# Reading TOML

Version 1.0 of the format.  A document is read line by line into one table.  Which tables may still
be opened is kept beside the data:

* an array or table that is written as a value is *frozen*: nothing can be added to it;
* a table that a header has opened is *declared*: no header opens it again, and no dotted key leads
  through it;
* a table that a dotted key has made is declared as soon as the next header comes.

An integer of more than 4300 digits is refused in its own way.
-/

namespace BrickFormula.Toml

/-- Why a text is no document. -/
inductive ReadError where
  | malformed
  | integerTooLong (digits : Nat)
  deriving DecidableEq

abbrev Reader := StateT (List Char) (Except ReadError)

/-- A path of keys from the root. -/
abbrev Key := List String

namespace Reader

/-! ## Characters -/

def malformed {α : Type} : Reader α := throw .malformed

def skip (test : Char → Bool) : Reader Unit := modify (·.dropWhile test)

def isBlank (c : Char) : Bool := c == ' ' || c == '\t'

def isBlankOrLineEnd (c : Char) : Bool := isBlank c || c == '\n'

/-- A control character other than the tab. -/
def isControl (c : Char) : Bool := (c.toNat < 0x20 && c != '\t') || c.toNat = 0x7F

/-- Drops the given characters if they are next. -/
def accept (word : List Char) : Reader Bool := do
  let text ← get
  if word.isPrefixOf text then
    set (text.drop word.length)
    return true
  else return false

def expect (word : List Char) : Reader Unit := do
  if !(← accept word) then malformed

/-- Takes a character. -/
def take : Reader Char := do
  match ← get with
  | [] => malformed
  | c :: rest =>
    set rest
    return c

/-- Takes the characters that pass a test. -/
def takeWhile (test : Char → Bool) : Reader (List Char) := do
  let text ← get
  set (text.dropWhile test)
  return text.takeWhile test

/-- Skips a comment, in which there are no control characters. -/
def skipComment : Reader Unit := do
  if ← accept ['#'] then
    if (← takeWhile (· ≠ '\n')).any isControl then malformed

/-- Skips blanks, line ends and comments. -/
def skipLines : (fuel : Nat) → Reader Unit
  | 0 => return
  | fuel + 1 => do
    skip isBlankOrLineEnd
    if (← get).head? = some '#' then
      skipComment
      skipLines fuel

/-! ## Strings -/

/-- A character by its number in so many hexadecimal digits. -/
def hexChar (size : Nat) : Reader Char := do
  let text ← get
  let digits := text.take size
  if digits.length < size || !digits.all Digits.isHex then malformed
  else
    set (text.drop size)
    let n := Digits.toNat 16 digits
    if n.isValidChar then return Char.ofNat n else malformed

/-- The character of an escape after its backslash. -/
def escape : Reader Char := do
  match ← take with
  | 'b' => return '\x08'
  | 't' => return '\t'
  | 'n' => return '\n'
  | 'f' => return '\x0c'
  | 'r' => return '\r'
  | '"' => return '"'
  | '\\' => return '\\'
  | 'u' => hexChar 4
  | 'U' => hexChar 8
  | _ => malformed

/-- Skips a line end after a backslash, with all blanks and line ends around it. -/
def skipLineEnd : Reader Unit := do
  skip isBlank
  match ← get with
  | [] => return
  | '\n' :: _ => skip isBlankOrLineEnd
  | _ => malformed

/-- A string in double quotes after the opening one. -/
def basicString : (fuel : Nat) → List Char → Reader String
  | 0, _ => malformed
  | fuel + 1, before => do
    match ← take with
    | '"' => return String.ofList before.reverse
    | '\\' => basicString fuel ((← escape) :: before)
    | c => if isControl c || c = '\n' then malformed else basicString fuel (c :: before)

/-- Up to two quotes before the three that end a string belong to it. -/
def extraQuotes (quote : Char) (before : List Char) : Reader String := do
  let one ← accept [quote]
  let two ← if one then accept [quote] else pure false
  return String.ofList (before.reverse ++ (if one then [quote] else []) ++
    (if two then [quote] else []))

/-- A string in three double quotes after the opening ones. -/
def basicLines : (fuel : Nat) → List Char → Reader String
  | 0, _ => malformed
  | fuel + 1, before => do
    if ← accept ['"', '"', '"'] then extraQuotes '"' before
    else
      match ← take with
      | '\\' =>
        if (← get).head?.any isBlankOrLineEnd then
          skipLineEnd
          basicLines fuel before
        else basicLines fuel ((← escape) :: before)
      | c => if isControl c && c ≠ '\n' then malformed else basicLines fuel (c :: before)

/-- A string in single quotes after the opening one. -/
def literalString : Reader String := do
  let chars ← takeWhile (· ≠ '\'')
  expect ['\'']
  if chars.any fun c => isControl c || c = '\n' then malformed
  else return String.ofList chars

/-- A string in three single quotes after the opening ones. -/
def literalLines : (fuel : Nat) → List Char → Reader String
  | 0, _ => malformed
  | fuel + 1, before => do
    if ← accept ['\'', '\'', '\''] then extraQuotes '\'' before
    else
      let c ← take
      if isControl c && c ≠ '\n' then malformed else literalLines fuel (c :: before)

/-- A bound for the number of steps from here on. -/
def fuelAhead : Reader Nat := do return (← get).length + 1

/-- A string in double quotes. -/
def doubleQuoted : Reader String := do
  if ← accept ['"', '"', '"'] then
    let _ ← accept ['\n']
    basicLines (← fuelAhead) []
  else
    expect ['"']
    basicString (← fuelAhead) []

/-- A string in single quotes. -/
def singleQuoted : Reader String := do
  if ← accept ['\'', '\'', '\''] then
    let _ ← accept ['\n']
    literalLines (← fuelAhead) []
  else
    expect ['\'']
    literalString

/-! ## Keys -/

def isBareKey (c : Char) : Bool := c.isAlphanum || c == '-' || c == '_'

def keyPart : Reader String := do
  match (← get).head? with
  | some '"' =>
    expect ['"']
    basicString (← fuelAhead) []
  | some '\'' =>
    expect ['\'']
    literalString
  | _ =>
    let chars ← takeWhile isBareKey
    if chars.isEmpty then malformed else return String.ofList chars

/-- The parts of a key after the first one. -/
def keyParts : (fuel : Nat) → Reader Key
  | 0 => malformed
  | fuel + 1 => do
    skip isBlank
    if ← accept ['.'] then
      skip isBlank
      let part ← keyPart
      return part :: (← keyParts fuel)
    else return []

/-- A key of parts separated by points. -/
def key : Reader Key := do
  let first ← keyPart
  return first :: (← keyParts (← fuelAhead))

/-! ## Dates and times -/

/-- A number of exactly so many digits. -/
def fixedNumber (size : Nat) (text : List Char) : Option (Nat × List Char) :=
  let digits := text.take size
  if digits.length = size && digits.all Char.isDigit then
    some (Digits.toNat 10 digits, text.drop size)
  else none

/-- The rest after a character. -/
def after? (c : Char) : List Char → Option (List Char)
  | d :: rest => if c = d then some rest else none
  | [] => none

/-- The fraction of a second in millionths, cut after six digits, if there is one. -/
def fraction (text : List Char) : Nat × List Char :=
  match text with
  | '.' :: rest =>
    let (digits, rest') := Digits.split rest
    if digits.isEmpty then (0, text)
    else (Digits.toNat 10 ((digits ++ List.replicate 6 '0').take 6), rest')
  | _ => (0, text)

/-- Two numbers with a colon between them, below 24 and 60. -/
def hourMinute? (text : List Char) : Option (Nat × Nat × List Char) := do
  let (hour, rest) ← fixedNumber 2 text
  let (minute, rest) ← fixedNumber 2 (← after? ':' rest)
  if hour < 24 && minute < 60 then some (hour, minute, rest) else none

def time? (text : List Char) : Option (ClockTime × List Char) := do
  let (hour, minute, rest) ← hourMinute? text
  let (second, rest) ← fixedNumber 2 (← after? ':' rest)
  if 60 ≤ second then none
  else
    let (micro, rest) := fraction rest
    some (⟨hour, minute, second, micro⟩, rest)

/-- The offset of a zone in minutes, if it is given. -/
def zone (text : List Char) : Option Int × List Char :=
  match text with
  | 'Z' :: rest | 'z' :: rest => (some 0, rest)
  | sign :: rest =>
    if sign = '+' || sign = '-' then
      match hourMinute? rest with
      | some (hour, minute, rest) =>
        let offset : Int := hour * 60 + minute
        (some (if sign = '-' then -offset else offset), rest)
      | none => (none, text)
    else (none, text)
  | [] => (none, text)

def date? (text : List Char) : Option (CalendarDate × List Char) := do
  let (year, rest) ← fixedNumber 4 text
  let (month, rest) ← fixedNumber 2 (← after? '-' rest)
  let (day, rest) ← fixedNumber 2 (← after? '-' rest)
  if 1 ≤ month && month ≤ 12 && 1 ≤ day && day ≤ 31 then some (⟨year, month, day⟩, rest) else none

/-- The time after a date, behind a letter or a blank. -/
def timeOfDate? : List Char → Option (ClockTime × Option Int × List Char)
  | mark :: rest =>
    if mark = 'T' || mark = 't' || mark = ' ' then
      (time? rest).map fun (clock, rest) =>
        let (offset, rest) := zone rest
        (clock, offset, rest)
    else none
  | [] => none

/-- A date, a time or both. -/
def moment? (text : List Char) : Option (Toml × List Char) :=
  match date? text with
  | some (day, rest) =>
    match timeOfDate? rest with
    | some (clock, offset, rest) => some (.moment day clock offset, rest)
    | none => some (.date day, rest)
  | none => (time? text).map fun (clock, rest) => (.time clock, rest)

/-- The date of a value is on the calendar. -/
def hasValidDate : Toml → Bool
  | .date d | .moment d _ _ => d.isValid
  | _ => true

/-! ## Numbers -/

/-- Digits with single underscores between them. -/
def groupedDigits (isDigit : Char → Bool) : List Char → List Char × List Char
  | '_' :: c :: rest =>
    if isDigit c then
      let (digits, rest) := groupedDigits isDigit rest
      (c :: digits, rest)
    else ([], '_' :: c :: rest)
  | c :: rest =>
    if isDigit c then
      let (digits, rest) := groupedDigits isDigit rest
      (c :: digits, rest)
    else ([], c :: rest)
  | [] => ([], [])

/-- Digits that start with a digit. -/
def digits (isDigit : Char → Bool) (text : List Char) : List Char × List Char :=
  if text.head?.any isDigit then groupedDigits isDigit text else ([], text)

/-- An integer in another base, after its leading zero. -/
def basedInteger? : List Char → Option (Int × List Char)
  | mark :: rest =>
    let (base, isDigit) : Nat × (Char → Bool) :=
      match mark with
      | 'x' => (16, Digits.isHex)
      | 'o' => (8, Digits.isOctal)
      | 'b' => (2, Digits.isBinary)
      | _ => (10, fun _ => false)
    match digits isDigit rest with
    | ([], _) => none
    | (ds, rest) => some (Digits.toNat base ds, rest)
  | [] => none

/-- The whole part of a decimal; a leading zero stands alone. -/
def wholePart : List Char → List Char × List Char
  | '0' :: rest => (['0'], rest)
  | chars => digits Char.isDigit chars

/-- The digits after a point; none if there are not any. -/
def decimalPart (text : List Char) : List Char × List Char :=
  match text with
  | '.' :: rest =>
    match digits Char.isDigit rest with
    | ([], _) => ([], text)
    | result => result
  | _ => ([], text)

/-- The exponent after its mark, if there is one. -/
def exponent? : List Char → Option (Int × List Char)
  | mark :: rest =>
    if mark = 'e' || mark = 'E' then
      let (negative, rest) := Digits.splitSign rest
      match digits Char.isDigit rest with
      | ([], _) => none
      | (ds, rest) => some (Digits.signedValue negative ds, rest)
    else none
  | [] => none

/-- The most digits of an integer. -/
def maxDigits : Nat := 4300

/-- A decimal number, which is an integer without point and exponent. -/
def decimal (text : List Char) : Except ReadError (Option (Toml × List Char)) :=
  let (negative, rest) := Digits.splitSign text
  match wholePart rest with
  | ([], _) => .ok none
  | (whole, rest) =>
    let (decimals, rest') := decimalPart rest
    let real (exponent : Int) : Toml :=
      .real (.ofDecimal negative (Digits.toNat 10 (whole ++ decimals)) (exponent - decimals.length))
    match exponent? rest' with
    | some (e, rest) => .ok (some (real e, rest))
    | none =>
      if !decimals.isEmpty then .ok (some (real 0, rest'))
      else if maxDigits < whole.length then .error (.integerTooLong whole.length)
      else .ok (some (.integer (Digits.signedValue negative whole), rest'))

/-- The numbers that are written as words. -/
def specialNumbers : List (List Char × Toml) :=
  [("inf".toList, .real (.infinity false)), ("+inf".toList, .real (.infinity false)),
   ("-inf".toList, .real (.infinity true)), ("nan".toList, .real .nan),
   ("+nan".toList, .real .nan), ("-nan".toList, .real .nan)]

def special? (text : List Char) : Option (Toml × List Char) :=
  specialNumbers.findSome? fun (word, value) =>
    if word.isPrefixOf text then some (value, text.drop word.length) else none

/-- A date, time or number. -/
def scalar : Reader Toml := do
  let text ← get
  match moment? text with
  | some (value, rest) =>
    set rest
    if hasValidDate value then return value else malformed
  | none =>
    match if text.head? = some '0' then basedInteger? text.tail else none with
    | some (n, rest) =>
      set rest
      return .integer n
    | none =>
      match ← (decimal text : Except ReadError _) with
      | some (value, rest) =>
        set rest
        return value
      | none =>
        match special? text with
        | some (value, rest) =>
          set rest
          return value
        | none => malformed

/-! ## Values -/

/-- The names that can no longer be opened. -/
structure Ledger where
  frozen : List Key := []
  declared : List Key := []
  /-- Names that are declared when the next header comes. -/
  pending : List Key := []

namespace Ledger

/-- A name, or one that it lies below, is frozen. -/
def isFrozen (ledger : Ledger) (name : Key) : Bool := ledger.frozen.any (·.isPrefixOf name)

def isDeclared (ledger : Ledger) (name : Key) : Bool := ledger.declared.contains name

def freeze (ledger : Ledger) (name : Key) : Ledger := { ledger with frozen := name :: ledger.frozen }

def declare (ledger : Ledger) (name : Key) : Ledger :=
  { ledger with declared := name :: ledger.declared }

/-- Declares the names that wait for a header. -/
def settle (ledger : Ledger) : Ledger :=
  { ledger with declared := ledger.pending ++ ledger.declared, pending := [] }

/-- Forgets a name and all names below it. -/
def forget (ledger : Ledger) (name : Key) : Ledger :=
  { ledger with
    frozen := ledger.frozen.filter fun k => !name.isPrefixOf k
    declared := ledger.declared.filter fun k => !name.isPrefixOf k }

end Ledger

/-- A value that cannot be added to. -/
def isContainer : Toml → Bool
  | .array _ | .table _ => true
  | _ => false

/-- A change that is possible. -/
def need {α : Type} (result : Option α) : Reader α := result.elim malformed pure

mutual

def value : (fuel : Nat) → Reader Toml
  | 0 => malformed
  | fuel + 1 => do
    match (← get).head? with
    | some '"' => return .text (← doubleQuoted)
    | some '\'' => return .text (← singleQuoted)
    | some '[' =>
      expect ['[']
      skipLines (← fuelAhead)
      arrayItems fuel []
    | some '\x7b' =>
      expect ['\x7b']
      skip isBlank
      if ← accept ['\x7d'] then return .table [] else inlineEntries fuel {} []
    | _ =>
      if ← accept "true".toList then return .truth true
      else if ← accept "false".toList then return .truth false
      else scalar

/-- The items of an array up to its closing bracket, after those before them. -/
def arrayItems : (fuel : Nat) → List Toml → Reader Toml
  | 0, _ => malformed
  | fuel + 1, before => do
    if ← accept [']'] then return .array before
    else
      let item ← value fuel
      skipLines (← fuelAhead)
      if ← accept [','] then
        skipLines (← fuelAhead)
        arrayItems fuel (before ++ [item])
      else
        expect [']']
        return .array (before ++ [item])

/-- The entries of a table in braces up to its closing one, after those before them. -/
def inlineEntries : (fuel : Nat) → Ledger → Entries → Reader Toml
  | 0, _, _ => malformed
  | fuel + 1, ledger, before => do
    let (name, item) ← entry fuel
    if ledger.isFrozen name then malformed
    else
      let entries ← need <|
        updateAt false (addEntry (name.getLast?.getD "") item) name.dropLast before
      skip isBlank
      if ← accept ['\x7d'] then return .table entries
      else
        expect [',']
        skip isBlank
        inlineEntries fuel (if isContainer item then ledger.freeze name else ledger) entries

/-- A key with its value. -/
def entry : (fuel : Nat) → Reader (Key × Toml)
  | 0 => malformed
  | fuel + 1 => do
    let name ← key
    expect ['=']
    skip isBlank
    return (name, ← value fuel)

end

/-! ## Documents -/

/-- A document under construction: its table, its names, and the table of the last header. -/
structure Draft where
  entries : Entries := []
  ledger : Ledger := {}
  header : Key := []

/-- The keys that a dotted key leads through, from the header on. -/
def innerKeys (header name : Key) : List Key :=
  (List.range (name.length - 1)).map fun n => header ++ name.take (n + 1)

/-- Adds an entry below the header. -/
def addLine (draft : Draft) : Reader Draft := do
  let (name, item) ← entry (4 * (← fuelAhead))
  let inner := innerKeys draft.header name
  let parent := draft.header ++ name.dropLast
  if inner.any draft.ledger.isDeclared || draft.ledger.isFrozen parent then malformed
  else
    let entries ← need <|
      updateAt true (addEntry (name.getLast?.getD "") item) parent draft.entries
    let ledger := { draft.ledger with pending := inner ++ draft.ledger.pending }
    return { draft with
      entries := entries
      ledger := if isContainer item then ledger.freeze (draft.header ++ name) else ledger }

/-- Opens the table of a header in single brackets. -/
def openTable (draft : Draft) : Reader Draft := do
  skip isBlank
  let name ← key
  if draft.ledger.isDeclared name || draft.ledger.isFrozen name then malformed
  else
    let entries ← need (updateAt true some name draft.entries)
    expect [']']
    return ⟨entries, draft.ledger.declare name, name⟩

/-- Opens a new table of the array of a header in double brackets. -/
def openArrayTable (draft : Draft) : Reader Draft := do
  skip isBlank
  let name ← key
  if draft.ledger.isFrozen name then malformed
  else
    let entries ← need <|
      updateAt true (addTable (name.getLast?.getD "")) name.dropLast draft.entries
    expect [']', ']']
    return ⟨entries, (draft.ledger.forget name).declare name, name⟩

/-- What a line says. -/
def statement (draft : Draft) : Reader Draft := do
  if ← accept ['[', '['] then openArrayTable { draft with ledger := draft.ledger.settle }
  else if ← accept ['['] then openTable { draft with ledger := draft.ledger.settle }
  else
    match (← get).head? with
    | none | some '\n' | some '#' => return draft
    | _ => addLine draft

/-- The lines of a document. -/
def lines : (fuel : Nat) → Draft → Reader Draft
  | 0, _ => malformed
  | fuel + 1, draft => do
    skip isBlank
    let draft ← statement draft
    skip isBlank
    skipComment
    if (← get).isEmpty then return draft
    else
      expect ['\n']
      lines fuel draft

end Reader

/-- Reads every kind of line end as one. -/
def unifyLineEnds : List Char → List Char
  | '\r' :: '\n' :: rest => '\n' :: unifyLineEnds rest
  | '\r' :: rest => '\n' :: unifyLineEnds rest
  | c :: rest => c :: unifyLineEnds rest
  | [] => []

/-- The table of a document. -/
def ofText? (text : String) : Except ReadError Entries :=
  let chars := unifyLineEnds text.toList
  ((Reader.lines (chars.length + 1) {}).run chars).map fun (draft, _) => draft.entries

end BrickFormula.Toml
