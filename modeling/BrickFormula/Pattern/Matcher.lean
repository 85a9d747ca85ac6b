import BrickFormula.Pattern
import BrickFormula.Pattern.CaseFold
import BrickFormula.Text.Letter

/-!
# Matching

A matcher takes a state (a position and the captured groups) and a continuation, and gives the first
success of the continuation in the order of the pattern's choices.  The search tries every start
position from the left:

    Pattern.run      the matcher of a pattern
    Pattern.search   the first match in a text
-/

namespace BrickFormula.Pattern

/-! ## States -/

/-- A position in the text and the start and end of each captured group. -/
structure MatchState where
  position : Nat
  groups : List (Nat × Nat × Nat)
  deriving DecidableEq, Repr

namespace MatchState

def group? (s : MatchState) (index : Nat) : Option (Nat × Nat) := s.groups.lookup index

def setGroup (s : MatchState) (index first last : Nat) : MatchState :=
  { s with groups := (index, first, last) :: s.groups.filter (·.1 ≠ index) }

end MatchState

abbrev Continuation := MatchState → Option MatchState

abbrev Matcher := Continuation → Continuation

/-! ## Characters and places -/

def CharClass.holds (ascii : Bool) (c : Char) : CharClass → Bool
  | .digit => if ascii then c.isDigit else Letter.isDecimal c
  | .space =>
    if ascii then c.toNat = 0x20 || (9 ≤ c.toNat && c.toNat ≤ 13) else Letter.isSpace c
  | .word => (if ascii then c.isAlphanum else Letter.isAlphanumeric c) || c = '_'

/-- The code points that stand for a character. -/
def readings (flags : PatternFlags) (c : Char) : List Nat :=
  if flags.ignoreCase then CaseFold.equivalents flags.ascii c else [c.toNat]

def SetItem.holds (flags : PatternFlags) (c : Char) : SetItem → Bool
  | .char n => (readings flags c).contains n
  | .range first last => (readings flags c).any fun n => first ≤ n && n ≤ last
  | .charClass k negated => CharClass.holds flags.ascii c k != negated

/-- The character just before a position. -/
def before? (text : Array Char) (position : Nat) : Option Char :=
  if position = 0 then none else text[position - 1]?

def atWordBoundary (flags : PatternFlags) (text : Array Char) (position : Nat) : Bool :=
  (before? text position).any (CharClass.holds flags.ascii · .word) !=
    text[position]?.any (CharClass.holds flags.ascii · .word)

/-- The place holds at a position; the empty text has neither word boundaries nor other places for
them. -/
def Anchor.holds (flags : PatternFlags) (text : Array Char) (position : Nat) : Anchor → Bool
  | .textStart => position = 0
  | .textEnd => position = text.size
  | .lineStart => position = 0 || (flags.multiline && before? text position = some '\n')
  | .lineEnd =>
    position = text.size || (text[position]? = some '\n' &&
      (flags.multiline || position + 1 = text.size))
  | .wordBoundary => !text.isEmpty && atWordBoundary flags text position
  | .noWordBoundary => !text.isEmpty && !atWordBoundary flags text position

/-- Takes one character that passes a test. -/
def takeChar (text : Array Char) (test : Char → Bool) : Matcher := fun k s =>
  match text[s.position]? with
  | some c => if test c then k { s with position := s.position + 1 } else none
  | none => none

/-- The characters of a captured group occur again. -/
def takeGroup (flags : PatternFlags) (text : Array Char) (index : Nat) : Matcher := fun k s =>
  match s.group? index with
  | none => none
  | some (first, last) =>
    let size := last - first
    let same := (List.range size).all fun i =>
      match text[first + i]?, text[s.position + i]? with
      | some a, some b =>
        if flags.ignoreCase then CaseFold.fold flags.ascii a = CaseFold.fold flags.ascii b
        else a = b
      | _, _ => false
    if same then k { s with position := s.position + size } else none

/-! ## Repetition -/

/-- More repetitions may follow: the bound is not reached, and the last one beyond the least number
has moved on. -/
def mayRepeat (most : Option Nat) (count : Nat) (last : Option Nat) (s : MatchState) : Bool :=
  most.all (count < ·) && last ≠ some s.position

/-- As many repetitions as possible first. -/
def greedy (body : Matcher) (least : Nat) (most : Option Nat) (k : Continuation) :
    (fuel count : Nat) → (last : Option Nat) → Continuation
  | 0, _, _, _ => none
  | fuel + 1, count, last, s =>
    if count < least then body (greedy body least most k fuel (count + 1) last) s
    else if mayRepeat most count last s then
      match body (greedy body least most k fuel (count + 1) (some s.position)) s with
      | some result => some result
      | none => k s
    else k s

/-- As few repetitions as possible first. -/
def lazily (body : Matcher) (least : Nat) (most : Option Nat) (k : Continuation) :
    (fuel count : Nat) → (last : Option Nat) → Continuation
  | 0, _, _, _ => none
  | fuel + 1, count, last, s =>
    if count < least then body (lazily body least most k fuel (count + 1) last) s
    else
      match k s with
      | some result => some result
      | none =>
        if mayRepeat most count last s then
          body (lazily body least most k fuel (count + 1) (some s.position)) s
        else none

/-- As many repetitions as possible, each of them final. -/
def possessively (body : Matcher) (least : Nat) (most : Option Nat) (k : Continuation) :
    (fuel count : Nat) → (last : Option Nat) → Continuation
  | 0, _, _, _ => none
  | fuel + 1, count, last, s =>
    if count < least then
      (body some s).bind (possessively body least most k fuel (count + 1) last)
    else if mayRepeat most count last s then
      match body some s with
      | some s' => possessively body least most k fuel (count + 1) (some s.position) s'
      | none => k s
    else k s

/-- A repetition; every round beyond the least number moves on, which bounds their number. -/
def repeatBody (mode : Repetition) (body : Matcher) (least : Nat) (most : Option Nat) (size : Nat) :
    Matcher := fun k =>
  let fuel := least + size + 3
  match mode with
  | .greedy => greedy body least most k fuel 0 none
  | .lazy => lazily body least most k fuel 0 none
  | .possessive => possessively body least most k fuel 0 none

/-! ## Patterns -/

/-- The matcher of a pattern, where `widths` holds the widths of captured groups. -/
def run (widths : List (Nat × Width)) (text : Array Char) : PatternFlags → Pattern → Matcher
  | _, .empty => fun k => k
  | flags, .seq p q => fun k => run widths text flags p (run widths text flags q k)
  | flags, .alt p q => fun k s =>
    match run widths text flags p k s with
    | some result => some result
    | none => run widths text flags q k s
  | flags, .char n => takeChar text fun c => (readings flags c).contains n
  | flags, .notChar n => takeChar text fun c => !(readings flags c).contains n
  | flags, .anyChar => takeChar text fun c => flags.dotAll || c ≠ '\n'
  | flags, .set negated items =>
    takeChar text fun c => items.any (SetItem.holds flags c) != negated
  | flags, .anchor a => fun k s => if Anchor.holds flags text s.position a then k s else none
  | flags, .group index add remove body => fun k s =>
    run widths text (flags.within add remove) body
      (fun s' => k (index.elim s' fun i => s'.setGroup i s.position s'.position)) s
  | flags, .atomic body => fun k s => (run widths text flags body some s).bind k
  | flags, .repeated mode least most body =>
    repeatBody mode (run widths text flags body) least most text.size
  | flags, .backReference index => takeGroup flags text index
  | flags, .conditional index yes no => fun k s =>
    if (s.group? index).isSome then run widths text flags yes k s
    else run widths text flags no k s
  | flags, .look ahead negated body => fun k s =>
    let back := if ahead then 0 else (width widths body).least
    let found :=
      if back ≤ s.position then
        run widths text flags body some { s with position := s.position - back }
      else none
    match found, negated with
    | some s', false => k { s' with position := s.position }
    | none, true => k s
    | _, _ => none

/-! ## Search -/

/-- The first match that starts at one of the positions. -/
def searchFrom (widths : List (Nat × Width)) (text : Array Char) (flags : PatternFlags)
    (p : Pattern) : List Nat → Option (Nat × MatchState)
  | [] => none
  | start :: rest =>
    match run widths text flags p some ⟨start, []⟩ with
    | some s => some (start, s)
    | none => searchFrom widths text flags p rest

/-- The start and the final state of the leftmost match. -/
def search (widths : List (Nat × Width)) (text : Array Char) (flags : PatternFlags) (p : Pattern) :
    Option (Nat × MatchState) :=
  searchFrom widths text flags p (List.range (text.size + 1))

end BrickFormula.Pattern
