import BrickFormula.Pattern.Flaw
import BrickFormula.Pattern.Matcher
import BrickFormula.Text.CharacterName
import BrickFormula.Text.Digits
import BrickFormula.Text.Identifier
import BrickFormula.Text.LooseNumber

/-!
# Reading patterns

A pattern text is a row of *tokens*: a backslash together with the character after it, or any other
single character.  The reader looks one token ahead, so a backslash at the very end is noticed as
soon as the token before it has been taken, and positions of flaws count the characters taken.

    SearchPattern.ofText? characters text   the pattern that a text writes, ready to be searched for
-/

namespace BrickFormula

/-! ## Reader -/

namespace PatternReader

/-- What has been learned while reading. -/
structure Progress where
  /-- What names of characters stand for, throughout the text. -/
  characters : CharacterNames
  rest : List Char
  position : Nat := 0
  /-- The flags of the whole pattern. -/
  flags : PatternFlags
  names : List (String × Nat) := []
  /-- The number of capturing groups opened so far; they are numbered from one. -/
  opened : Nat := 0
  /-- The widths of the groups that are closed. -/
  closed : List (Nat × Pattern.Width) := []
  /-- The number of the first group inside the outermost look-behind being read. -/
  lookbehindFloor : Option Nat := none
  /-- Groups that conditions refer to by number, and where they first do. -/
  references : List (Nat × Nat) := []

end PatternReader

abbrev PatternReader := StateT PatternReader.Progress (Except PatternError)

namespace PatternReader

abbrev Token := List Char

/-- Stops with a flaw at a position. -/
def failAt {α : Type} (flaw : PatternFlaw) (position : Nat) : PatternReader α :=
  throw (.flaw flaw (some position))

/-- Stops with a flaw so many characters back. -/
def fail {α : Type} (flaw : PatternFlaw) (back : Nat := 0) : PatternReader α := do
  failAt flaw ((← get).position - back)

/-! ### Tokens -/

/-- The token ahead. -/
def tokenAhead? : List Char → Option Token
  | [] => none
  | '\\' :: c :: _ => some ['\\', c]
  | c :: _ => some [c]

def peek : PatternReader (Option Token) := do return tokenAhead? (← get).rest

/-- A backslash may not be the last character. -/
def checkAhead : PatternReader Unit := do
  if (← get).rest = ['\\'] then fail .escapeAtEnd

/-- Takes the token ahead. -/
def take : PatternReader (Option Token) := do
  let ahead ← peek
  let size := (ahead.getD []).length
  modify fun s => { s with rest := s.rest.drop size, position := s.position + size }
  checkAhead
  return ahead

/-- Takes the token ahead if it is the given character. -/
def accept (c : Char) : PatternReader Bool := do
  if (← peek) = some [c] then
    let _ ← take
    return true
  else return false

/-- Takes at most so many characters that pass a test. -/
def takeWhile (test : Char → Bool) : (most : Nat) → PatternReader (List Char)
  | 0 => return []
  | most + 1 => do
    match ← peek with
    | some [c] =>
      if test c then
        let _ ← take
        return c :: (← takeWhile test most)
      else return []
    | _ => return []

/-- Takes all the digits ahead. -/
def takeDigits : PatternReader (List Char) := do takeWhile Char.isDigit (← get).rest.length

/-- Takes a name up to its closing mark. -/
def takeName (mark : Char) (what : String) : (fuel : Nat) → List Char → PatternReader (List Char)
  | 0, _ => fail (.missing what)
  | fuel + 1, before => do
    match ← take with
    | none =>
      if before.isEmpty then fail (.missing what)
      else fail (.unterminatedName mark) before.length
    | some token =>
      if token = [mark] then
        if before.isEmpty then fail (.missing what) 1 else return before
      else takeName mark what fuel (before ++ token)

/-- Takes a name that is not empty, up to its closing mark. -/
def takeUntil (mark : Char) (what : String) : PatternReader (List Char) := do
  takeName mark what ((← get).rest.length + 1) []

/-- Takes the rest of a comment in a line of its own. -/
def skipLine : (fuel : Nat) → PatternReader Unit
  | 0 => return
  | fuel + 1 => do
    match ← take with
    | none | some ['\n'] => return
    | _ => skipLine fuel

/-- Takes the rest of a comment in parentheses. -/
def skipComment (start : Nat) : (fuel : Nat) → PatternReader Unit
  | 0 => failAt .unterminatedComment start
  | fuel + 1 => do
    if (← peek).isNone then failAt .unterminatedComment start
    else if (← take) = some [')'] then return
    else skipComment start fuel

/-! ### Escapes -/

def escapeText (chars : List Char) : String := String.ofList ('\\' :: chars)

/-- Characters with a letter of their own. -/
def letterEscape? : Char → Option Nat
  | 'a' => some 0x07
  | 'b' => some 0x08
  | 'f' => some 0x0C
  | 'n' => some 0x0A
  | 'r' => some 0x0D
  | 't' => some 0x09
  | 'v' => some 0x0B
  | '\\' => some 0x5C
  | _ => none

/-- Classes of characters; a capital letter stands for the complement. -/
def classEscape? : Char → Option SetItem
  | 'd' => some (.charClass .digit false)
  | 'D' => some (.charClass .digit true)
  | 's' => some (.charClass .space false)
  | 'S' => some (.charClass .space true)
  | 'w' => some (.charClass .word false)
  | 'W' => some (.charClass .word true)
  | _ => none

def anchorEscape? : Char → Option Anchor
  | 'A' => some .textStart
  | 'b' => some .wordBoundary
  | 'B' => some .noWordBoundary
  | 'Z' => some .textEnd
  | _ => none

/-- The number in the escape text, exactly so many hexadecimal digits. -/
def hexEscape (letter : Char) (size : Nat) : PatternReader Nat := do
  let digits ← takeWhile Digits.isHex size
  if digits.length < size then
    fail (.incompleteEscape (escapeText (letter :: digits))) (digits.length + 2)
  else
    let n := Digits.toNat 16 digits
    if 0x7FFFFFFF < n then throw (.fault .codePointTooLarge)
    else if 0x10FFFF < n then
      fail (.badEscape (escapeText (letter :: digits))) (digits.length + 2)
    else return n

/-- The greatest number of an octal escape. -/
def octalLimit : Nat := 0o377

/-- An octal escape of the digits. -/
def octalEscape (digits : List Char) : PatternReader Nat :=
  if octalLimit < Digits.toNat 8 digits then
    fail (.octalTooLarge (escapeText digits)) (digits.length + 1)
  else return Digits.toNat 8 digits

/-- An escape that is refused with no more than its letter taken. -/
def badEscape {α : Type} (c : Char) : PatternReader α := fail (.badEscape (escapeText [c])) 2

/-- An escape by code or by name, or the character itself when it is no letter or digit. -/
def codeEscape (c : Char) : PatternReader Nat := do
  match c with
  | 'x' => hexEscape 'x' 2
  | 'u' => hexEscape 'u' 4
  | 'U' => hexEscape 'U' 8
  | 'N' =>
    if ← accept '\x7b' then
      let name ← takeUntil '\x7d' "character name"
      match (← get).characters (String.ofList name) with
      | some named => return named.toNat
      | none => fail (.undefinedCharacter (String.ofList name)) (name.length + 4)
    else fail (.missing "\x7b")
  | c => if c.isAlphanum then badEscape c else return c.toNat

/-- An escape inside a character set. -/
def setEscape (c : Char) : PatternReader SetItem := do
  match letterEscape? c, classEscape? c with
  | some n, _ => return .char n
  | none, some item => return item
  | none, none =>
    if Digits.isOctal c then
      return .char (← octalEscape (c :: (← takeWhile Digits.isOctal 2)))
    else return .char (← codeEscape c)

/-! ### Groups -/

/-- A group inside a look-behind can only be referred to from outside of it. -/
def checkLookbehind (index : Nat) : PatternReader Unit := do
  let s ← get
  match s.lookbehindFloor with
  | none => return
  | some floor =>
    if (s.closed.lookup index).isNone then fail .openGroup
    else if floor ≤ index then fail .groupOfLookbehind

/-- A reference to a closed group; `size` characters name it. -/
def referTo (index size : Nat) : PatternReader Pattern := do
  if ((← get).closed.lookup index).isNone then fail .openGroup size
  else
    checkLookbehind index
    return .backReference index

/-- The digits of an escape that is a reference or else an octal code of three digits. -/
def numberEscape (c : Char) : PatternReader Pattern := do
  let more ← takeWhile Char.isDigit 1
  let octal := Digits.isOctal c && !more.isEmpty && more.all Digits.isOctal
  let last ← if octal then takeWhile Digits.isOctal 1 else pure []
  if !last.isEmpty then return .char (← octalEscape (c :: more ++ last))
  else
    let index := Digits.toNat 10 (c :: more)
    if index ≤ (← get).opened then referTo index (more.length + 2)
    else fail (.invalidReference index) (more.length + 1)

/-- An escape outside of character sets. -/
def escape (c : Char) : PatternReader Pattern := do
  match anchorEscape? c, classEscape? c, letterEscape? c with
  | some a, _, _ => return .anchor a
  | none, some item, _ => return .set false [item]
  | none, none, some n => return .char n
  | none, none, none =>
    if c = '0' then return .char (Digits.toNat 8 (c :: (← takeWhile Digits.isOctal 2)))
    else if c.isDigit then numberEscape c
    else return .char (← codeEscape c)

/-- The number of a new group. -/
def openGroup (name : Option String) : PatternReader Nat := do
  let index := (← get).opened + 1
  modify fun s => { s with opened := index }
  match name with
  | none => return index
  | some name =>
    match (← get).names.lookup name with
    | some earlier => fail (.redefinedGroup name index earlier) (name.length + 1)
    | none =>
      modify fun s => { s with names := (name, index) :: s.names }
      return index

def closeGroup (index : Nat) (body : Pattern) : PatternReader Unit :=
  modify fun s => { s with closed := (index, body.width s.closed) :: s.closed }

/-- The name of a group up to its closing mark. -/
def groupName (mark : Char) : PatternReader String := do
  let name ← takeUntil mark "group name"
  if Identifier.isIdentifier name then return String.ofList name
  else fail (.badNameCharacter (String.ofList name)) (name.length + 1)

/-! ### Character sets -/

/-- A member of a set as it is written: its token, and what it stands for. -/
def setMember (token : Token) : PatternReader SetItem :=
  match token with
  | ['\\', c] => setEscape c
  | c :: _ => return .char c.toNat
  | [] => return .char 0

/-- A range of a set. -/
def setRange (first last : Token) (low high : SetItem) : PatternReader SetItem :=
  let flaw := PatternFlaw.badRange (String.ofList first) (String.ofList last)
  match low, high with
  | .char low, .char high =>
    if high < low then fail flaw (first.length + 1 + last.length) else return .range low high
  | _, _ => fail flaw (first.length + 1 + last.length)

/-- The members of a set up to its closing bracket; a bracket in the first place is a member. -/
def setItems (start : Nat) : (fuel : Nat) → List SetItem → PatternReader (List SetItem)
  | 0, _ => failAt .unterminatedSet start
  | fuel + 1, items => do
    match ← take with
    | none => failAt .unterminatedSet start
    | some token =>
      if token = [']'] && !items.isEmpty then return items
      else
        let item ← setMember token
        if ← accept '-' then
          match ← take with
          | none => failAt .unterminatedSet start
          | some [']'] => return items ++ [item, .char '-'.toNat]
          | some last =>
            let range ← setRange token last item (← setMember last)
            setItems start fuel (items ++ [range])
        else setItems start fuel (items ++ [item])

/-- A character set after its opening bracket. -/
def charSet : PatternReader Pattern := do
  let start := (← get).position - 1
  let negated ← accept '^'
  let items ← setItems start ((← get).rest.length + 1) []
  return .set negated items

/-! ### Repetitions -/

/-- The most digits of a number. -/
def maxDigits : Nat := 4300

/-- A number of repetitions. -/
def repetitions (digits : List Char) : PatternReader Nat :=
  if maxDigits < digits.length then throw (.fault (.numeralTooLong digits.length))
  else if Pattern.repetitionLimit ≤ Digits.toNat 10 digits then
    throw (.fault .repetitionTooLarge)
  else return Digits.toNat 10 digits

/-- The bounds between braces; none if the opening brace stands for itself. -/
def bounds? : PatternReader (Option (Nat × Option Nat)) := do
  let here ← get
  if (← peek) = some ['\x7d'] then return none
  else
    let low ← takeDigits
    let high ← if ← accept ',' then takeDigits else pure low
    if !(← accept '\x7d') then
      set here
      return none
    else
      let least ← if low.isEmpty then pure 0 else repetitions low
      if high.isEmpty then return some (least, none)
      else
        let most ← repetitions high
        if most < least then failAt .leastAboveMost here.position else return some (least, some most)

/-- Whether a repetition is lazy or possessive. -/
def repetitionMode : PatternReader Repetition := do
  if ← accept '?' then return .lazy
  else if ← accept '+' then return .possessive
  else return .greedy

/-- Repeats the last item; `start` is the place of the repetition sign. -/
def repeatLast (start least : Nat) (most : Option Nat) (items : List Pattern) :
    PatternReader (List Pattern) :=
  match items with
  | [] => failAt .nothingToRepeat start
  | item :: rest => do
    if item.isAnchor then failAt .nothingToRepeat start
    else if item.isRepeated then failAt .multipleRepeat start
    else return .repeated (← repetitionMode) least most item :: rest

/-- A repetition sign after the items before it, the last of them first. -/
def repetition (sign : Char) (items : List Pattern) : PatternReader (List Pattern) := do
  let start := (← get).position - 1
  match sign with
  | '?' => repeatLast start 0 (some 1) items
  | '*' => repeatLast start 0 none items
  | '+' => repeatLast start 1 none items
  | sign =>
    match ← bounds? with
    | none => return .char sign.toNat :: items
    | some (least, most) => repeatLast start least most items

/-! ### Flags -/

/-- The letters of flags. -/
def flagOf? : Char → Option PatternFlags
  | 'i' => some { ignoreCase := true }
  | 'm' => some { multiline := true }
  | 's' => some { dotAll := true }
  | 'x' => some { verbose := true }
  | 'a' => some { ascii := true }
  | 't' => some { template := true }
  | 'u' => some { unicode := true }
  | _ => none

/-- The letter of a flag; a flag for matching by locale is known but never accepted. -/
def isFlag (token : Token) : Bool :=
  match token with
  | [c] => c = 'L' || (flagOf? c).isSome
  | _ => false

def isLetter (token : Token) : Bool :=
  match token with
  | [c] => Letter.isAlphabetic c
  | _ => false

/-- Refuses a token that is no flag. -/
def refuseFlag {α : Type} (token : Token) (missing : String) : PatternReader α :=
  fail (if isLetter token then .unknownFlag else .missing missing) token.length

/-- The flags turned on, starting with the given letter, and the mark after them. -/
def flagsOn : (fuel : Nat) → PatternFlags → Token → PatternReader (PatternFlags × Token)
  | 0, _, _ => fail (.missing "-, : or )")
  | fuel + 1, before, token => do
    match (token.head?.bind flagOf? : Option PatternFlags) with
    | none => fail .localeFlag
    | some flag =>
      let flags := before.union flag
      if (flag.ascii || flag.unicode) && flags.ascii && flags.unicode then fail .incompatibleFlags
      else
        match ← take with
        | none => fail (.missing "-, : or )")
        | some token =>
          if token = [')'] || token = ['-'] || token = [':'] then return (flags, token)
          else if isFlag token then flagsOn fuel flags token
          else refuseFlag token "-, : or )"

/-- The flags turned off, starting with the given letter, up to the colon after them. -/
def flagsOff : (fuel : Nat) → PatternFlags → Token → PatternReader PatternFlags
  | 0, _, _ => fail (.missing ":")
  | fuel + 1, before, token => do
    match (token.head?.bind flagOf? : Option PatternFlags) with
    | none => fail .typeFlagOff
    | some flag =>
      if flag.ascii || flag.unicode then fail .typeFlagOff
      else
        let flags := before.union flag
        match ← take with
        | none => fail (.missing ":")
        | some token =>
          if token = [':'] then return flags
          else if isFlag token then flagsOff fuel flags token
          else refuseFlag token ":"

/-- The flags to turn off, if the mark before them says so. -/
def flagsAfter (mark : Token) : PatternReader PatternFlags := do
  if mark = ['-'] then
    match ← take with
    | none => fail (.missing "flag")
    | some token =>
      if isFlag token then flagsOff ((← get).rest.length + 1) {} token
      else refuseFlag token "flag"
  else return {}

/-- The flags that a group turns on and off, or none if they hold for the whole pattern. -/
def inlineFlags (token : Token) : PatternReader (Option (PatternFlags × PatternFlags)) := do
  let (add, mark) ← if token = ['-'] then pure ({}, token)
    else flagsOn ((← get).rest.length + 1) {} token
  if mark = [')'] then
    modify fun s => { s with flags := s.flags.union add }
    return none
  else if add.template then fail .globalFlagOn 1
  else
    let remove ← flagsAfter mark
    if remove.template then fail .globalFlagOff 1
    else if !(add.inter remove).isEmpty then fail .flagOnAndOff 1
    else return some (add, remove)

/-! ### Conditions -/

/-- Group numbers stay below this limit. -/
def groupLimit : Nat := 1073741823

/-- The group that a condition asks about. -/
def conditionGroup : PatternReader Nat := do
  let name ← takeUntil ')' "group name"
  let back := name.length + 1
  if Identifier.isIdentifier name then
    match (← get).names.lookup (String.ofList name) with
    | some index => return index
    | none => fail (.unknownGroup (String.ofList name)) back
  else
    match LooseNumber.parse? name with
    | none => fail (.badNameCharacter (String.ofList name)) back
    | some 0 => fail .badGroupNumber back
    | some index =>
      if groupLimit ≤ index then fail (.invalidReference index) back
      else
        let s ← get
        if (s.references.lookup index).isNone then
          set { s with references := s.references ++ [(index, s.position - back)] }
        return index

/-! ### Sequences and alternatives -/

/-- Blanks that do not count in verbose patterns. -/
def isBlank (c : Char) : Bool :=
  c == ' ' || c == '\t' || c == '\n' || c == '\r' || c == '\x0b' || c == '\x0c'

mutual

/-- Alternatives up to the end of the group or pattern. -/
def alternatives : (fuel : Nat) → (verbose whole : Bool) → PatternReader Pattern
  | 0, _, _ => fail .unexpectedEnd
  | fuel + 1, verbose, whole => do
    let first ← sequence fuel verbose whole []
    moreAlternatives fuel verbose whole first
termination_by structural fuel => fuel

/-- Alternatives after the first one. -/
def moreAlternatives : (fuel : Nat) → (verbose whole : Bool) → Pattern → PatternReader Pattern
  | 0, _, _, _ => fail .unexpectedEnd
  | fuel + 1, verbose, whole, first => do
    if ← accept '|' then
      let flags := (← get).flags
      let verbose := if whole then flags.verbose else verbose
      let next ← sequence fuel verbose false []
      return .alt first (← moreAlternatives fuel verbose whole next)
    else return first
termination_by structural fuel => fuel

/-- Items up to the end of the alternative, added to those before them, the last of which is the
first in the list.  Flags of the whole pattern may stand before all items if `start` is set. -/
def sequence :
    (fuel : Nat) → (verbose start : Bool) → List Pattern → PatternReader Pattern
  | 0, _, _, _ => fail .unexpectedEnd
  | fuel + 1, verbose, start, items => do
    let ahead ← peek
    if ahead.isNone || ahead = some ['|'] || ahead = some [')'] then
      return Pattern.ofList items.reverse
    else
      let token ← take
      let (verbose, items) ← element fuel verbose start items (token.getD [])
      sequence fuel verbose start items
termination_by structural fuel => fuel

/-- The items after one more token, and whether the rest is verbose. -/
def element :
    (fuel : Nat) → (verbose start : Bool) → List Pattern → Token →
    PatternReader (Bool × List Pattern)
  | 0, _, _, _, _ => fail .unexpectedEnd
  | fuel + 1, verbose, start, items, token => do
    match token with
    | [c] =>
      match c with
      | '[' => return (verbose, (← charSet) :: items)
      | '.' => return (verbose, .anyChar :: items)
      | '^' => return (verbose, .anchor .lineStart :: items)
      | '$' => return (verbose, .anchor .lineEnd :: items)
      | '(' => group fuel verbose start items
      | _ =>
        if verbose && isBlank c then return (verbose, items)
        else if verbose && c = '#' then
          skipLine ((← get).rest.length + 1)
          return (verbose, items)
        else if c = '?' || c = '*' || c = '+' || c = '\x7b' then
          return (verbose, ← repetition c items)
        else return (verbose, .char c.toNat :: items)
    | ['\\', c] => return (verbose, (← escape c) :: items)
    | _ => return (verbose, items)
termination_by structural fuel => fuel

/-- The items after a group whose opening parenthesis has been taken. -/
def group :
    (fuel : Nat) → (verbose start : Bool) → List Pattern → PatternReader (Bool × List Pattern)
  | 0, _, _, _ => fail .unexpectedEnd
  | fuel + 1, verbose, start, items => do
    let place := (← get).position - 1
    if !(← accept '?') then
      return (verbose, (← captured fuel verbose place none) :: items)
    else
      match ← take with
      | none => fail .unexpectedEnd
      | some ['P'] => return (verbose, (← namedGroup fuel verbose place) :: items)
      | some [':'] =>
        return (verbose, .group none {} {} (← enclosed fuel verbose place) :: items)
      | some ['#'] =>
        skipComment place ((← get).rest.length + 1)
        return (verbose, items)
      | some ['='] => return (verbose, .look true false (← enclosed fuel verbose place) :: items)
      | some ['!'] => return (verbose, .look true true (← enclosed fuel verbose place) :: items)
      | some ['<'] => return (verbose, (← lookbehind fuel verbose place) :: items)
      | some ['('] => return (verbose, (← conditional fuel verbose place) :: items)
      | some ['>'] => return (verbose, .atomic (← enclosed fuel verbose place) :: items)
      | some token =>
        if isFlag token || token = ['-'] then
          match ← inlineFlags token with
          | some (add, remove) =>
            let inner := (verbose || add.verbose) && !remove.verbose
            return (verbose, .group none add remove (← enclosed fuel inner place) :: items)
          | none =>
            if !start || !items.isEmpty then failAt .lateGlobalFlags place
            else return ((← get).flags.verbose, items)
        else fail (.unknownExtension ("?" ++ String.ofList token)) (token.length + 1)
termination_by structural fuel => fuel

/-- The content of a group up to and with its closing parenthesis. -/
def enclosed : (fuel : Nat) → (verbose : Bool) → (place : Nat) → PatternReader Pattern
  | 0, _, _ => fail .unexpectedEnd
  | fuel + 1, verbose, place => do
    let body ← alternatives fuel verbose false
    if ← accept ')' then return body else failAt .unterminatedGroup place
termination_by structural fuel => fuel

/-- A capturing group. -/
def captured :
    (fuel : Nat) → (verbose : Bool) → (place : Nat) → Option String → PatternReader Pattern
  | 0, _, _, _ => fail .unexpectedEnd
  | fuel + 1, verbose, place, name => do
    let index ← openGroup name
    let body ← enclosed fuel verbose place
    closeGroup index body
    return .group (some index) {} {} body
termination_by structural fuel => fuel

/-- A group with a name, or a reference to one. -/
def namedGroup : (fuel : Nat) → (verbose : Bool) → (place : Nat) → PatternReader Pattern
  | 0, _, _ => fail .unexpectedEnd
  | fuel + 1, verbose, place => do
    if ← accept '<' then captured fuel verbose place (some (← groupName '>'))
    else if ← accept '=' then
      let name ← groupName ')'
      match (← get).names.lookup name with
      | none => fail (.unknownGroup name) (name.length + 1)
      | some index => referTo index (name.length + 1)
    else
      match ← take with
      | none => fail .unexpectedEnd
      | some token => fail (.unknownExtension ("?P" ++ String.ofList token)) (token.length + 2)
termination_by structural fuel => fuel

/-- A look-behind. -/
def lookbehind : (fuel : Nat) → (verbose : Bool) → (place : Nat) → PatternReader Pattern
  | 0, _, _ => fail .unexpectedEnd
  | fuel + 1, verbose, place => do
    match ← take with
    | none => fail .unexpectedEnd
    | some token =>
      if token ≠ ['='] && token ≠ ['!'] then
        fail (.unknownExtension ("?<" ++ String.ofList token)) (token.length + 2)
      else
        let floor := (← get).lookbehindFloor
        modify fun s => { s with lookbehindFloor := floor.or (some (s.opened + 1)) }
        let body ← alternatives fuel verbose false
        modify fun s => { s with lookbehindFloor := floor }
        if ← accept ')' then return .look false (token = ['!']) body
        else failAt .unterminatedGroup place
termination_by structural fuel => fuel

/-- A choice between two patterns that depends on a group. -/
def conditional : (fuel : Nat) → (verbose : Bool) → (place : Nat) → PatternReader Pattern
  | 0, _, _ => fail .unexpectedEnd
  | fuel + 1, verbose, place => do
    let index ← conditionGroup
    checkLookbehind index
    let yes ← sequence fuel verbose false []
    let no ← if ← accept '|' then sequence fuel verbose false [] else pure .empty
    if (← peek) = some ['|'] then fail .tooManyBranches
    else if ← accept ')' then return .conditional index yes no
    else failAt .unterminatedGroup place
termination_by structural fuel => fuel

end

end PatternReader

/-! ## Patterns ready for a search -/

/-- The first part of a pattern that no search can follow: a look-behind without a fixed width, or
a repetition in a pattern that forbids them. -/
def Pattern.flaw? (template : Bool) (groups : List (Nat × Pattern.Width)) :
    Pattern → Option PatternFlaw
  | .seq p q | .alt p q | .conditional _ p q =>
    (p.flaw? template groups).or (q.flaw? template groups)
  | .group _ _ _ p | .atomic p => p.flaw? template groups
  | .repeated mode _ _ p =>
    if template then some (.templateRepetition mode) else p.flaw? template groups
  | .look ahead _ p =>
    let w := p.width groups
    if !ahead && Pattern.repetitionLimit < w.least then some .farLookbehind
    else if !ahead && w.least ≠ w.most then some .variableLookbehind
    else p.flaw? template groups
  | _ => none

/-- A pattern with what its text says about the whole: flags, and the capturing groups. -/
structure SearchPattern where
  pattern : Pattern
  flags : PatternFlags
  groupCount : Nat
  widths : List (Nat × Pattern.Width)

namespace SearchPattern

open PatternReader

/-- Flags that are set before reading: a dot takes line ends, and anchors hold at every line. -/
def initialFlags : PatternFlags := { dotAll := true, multiline := true }

/-- Every group that a condition refers to exists. -/
def checkReferences (opened : Nat) : List (Nat × Nat) → PatternReader Unit
  | [] => return
  | (index, position) :: rest =>
    if opened < index then failAt (.invalidReference index) position
    else checkReferences opened rest

/-- A whole pattern text. -/
def reader (text : List Char) : PatternReader SearchPattern := do
  checkAhead
  let pattern ← alternatives (8 * text.length + 8) false true
  let s ← get
  if s.flags.ascii && s.flags.unicode then throw (.fault .conflictingPatternFlags)
  if !s.rest.isEmpty then fail .unbalanced
  checkReferences s.opened s.references
  match pattern.flaw? s.flags.template s.closed with
  | some flaw => throw (.flaw flaw none)
  | none => return ⟨pattern, s.flags, s.opened, s.closed⟩

/-- The pattern that a text writes. -/
def ofText? (characters : CharacterNames) (text : List Char) : Except PatternError SearchPattern :=
  ((reader text).run { characters, rest := text, flags := initialFlags }).map Prod.fst

/-- The outcome of a search: nothing found, a first group that took no part, or the text of the
first group, which is the whole match when there are no groups. -/
inductive Outcome where
  | noMatch
  | noGroup
  | found (text : List Char)
  deriving DecidableEq, Repr

/-- Searches a text for the leftmost match. -/
def search (p : SearchPattern) (text : List Char) : Outcome :=
  match p.pattern.search p.widths text.toArray p.flags with
  | none => .noMatch
  | some (start, s) =>
    if p.groupCount = 0 then .found ((text.take s.position).drop start)
    else
      match s.group? 1 with
      | none => .noGroup
      | some (first, last) => .found ((text.take last).drop first)

end SearchPattern

end BrickFormula
