/-!
# Patterns

Regular expressions with captures, back references, look-around, lazy, greedy and possessive
repetition.  A pattern describes an ordered search: of two alternatives the first that leads to a
match wins.

`Pattern.width` bounds the number of characters a pattern takes; a look-behind needs both bounds to
agree.
-/

namespace BrickFormula

/-! ## Syntax -/

/-- How a pattern reads characters and lines. -/
structure PatternFlags where
  ignoreCase : Bool := false
  multiline : Bool := false
  dotAll : Bool := false
  verbose : Bool := false
  ascii : Bool := false
  unicode : Bool := false
  template : Bool := false
  deriving DecidableEq, Repr

namespace PatternFlags

/-- The flags of either side. -/
def union (a b : PatternFlags) : PatternFlags :=
  ⟨a.ignoreCase || b.ignoreCase, a.multiline || b.multiline, a.dotAll || b.dotAll,
   a.verbose || b.verbose, a.ascii || b.ascii, a.unicode || b.unicode, a.template || b.template⟩

/-- The flags of both sides. -/
def inter (a b : PatternFlags) : PatternFlags :=
  ⟨a.ignoreCase && b.ignoreCase, a.multiline && b.multiline, a.dotAll && b.dotAll,
   a.verbose && b.verbose, a.ascii && b.ascii, a.unicode && b.unicode, a.template && b.template⟩

def isEmpty (a : PatternFlags) : Bool := a = {}

/-- The flags inside a group that turns some on and some off; a choice between ASCII and Unicode
replaces the one before it. -/
def within (flags add remove : PatternFlags) : PatternFlags :=
  let base := if add.ascii || add.unicode then { flags with ascii := false, unicode := false }
    else flags
  let all := base.union add
  ⟨all.ignoreCase && !remove.ignoreCase, all.multiline && !remove.multiline,
   all.dotAll && !remove.dotAll, all.verbose && !remove.verbose, all.ascii && !remove.ascii,
   all.unicode && !remove.unicode, all.template && !remove.template⟩

end PatternFlags

/-- A named class of characters. -/
inductive CharClass where
  | digit | space | word
  deriving DecidableEq, Repr

/-- A member of a character set; characters are code points. -/
inductive SetItem where
  | char (n : Nat)
  | range (first last : Nat)
  | charClass (c : CharClass) (negated : Bool)
  deriving DecidableEq, Repr

/-- A place in the text, between two characters. -/
inductive Anchor where
  | lineStart | lineEnd | textStart | textEnd | wordBoundary | noWordBoundary
  deriving DecidableEq, Repr

/-- Which numbers of repetitions are tried, and in what order: as many as possible first, as few as
possible first, or only as many as possible. -/
inductive Repetition where
  | greedy | lazy | possessive
  deriving DecidableEq, Repr

inductive Pattern where
  | empty
  | seq (first rest : Pattern)
  | alt (first second : Pattern)
  | char (n : Nat)
  | notChar (n : Nat)
  | anyChar
  | set (negated : Bool) (items : List SetItem)
  | anchor (a : Anchor)
  /-- A group, captured under its index if it has one, with flags turned on and off inside. -/
  | group (index : Option Nat) (add remove : PatternFlags) (body : Pattern)
  | atomic (body : Pattern)
  | repeated (mode : Repetition) (least : Nat) (most : Option Nat) (body : Pattern)
  | backReference (index : Nat)
  | conditional (index : Nat) (yes no : Pattern)
  | look (ahead negated : Bool) (body : Pattern)
  deriving DecidableEq, Repr

namespace Pattern

def isAnchor : Pattern → Bool
  | .anchor _ => true
  | _ => false

def isRepeated : Pattern → Bool
  | .repeated .. => true
  | _ => false

/-- The patterns one after the other. -/
def ofList : List Pattern → Pattern
  | [] => .empty
  | [p] => p
  | p :: rest => .seq p (ofList rest)

/-! ## Width -/

/-- Counts of repetitions stay below this limit. -/
def repetitionLimit : Nat := 4294967295

/-- Widths stop counting here. -/
def widthLimit : Nat := 18446744073709551616

/-- The least and the greatest number of characters. -/
structure Width where
  least : Nat
  most : Nat
  deriving DecidableEq, Repr

/-- Bounds cut off at the limit. -/
def Width.capped (least most : Nat) : Width := ⟨min least widthLimit, min most widthLimit⟩

/-- The width of a pattern, where `groups` holds the widths of captured groups. -/
def width (groups : List (Nat × Width)) : Pattern → Width
  | .empty | .anchor _ | .look .. => ⟨0, 0⟩
  | .char _ | .notChar _ | .anyChar | .set .. => ⟨1, 1⟩
  | .seq p q => .capped ((width groups p).least + (width groups q).least)
      ((width groups p).most + (width groups q).most)
  | .alt p q => .capped (min (width groups p).least (width groups q).least)
      (max (width groups p).most (width groups q).most)
  | .group _ _ _ p | .atomic p => width groups p
  | .repeated _ least most p => .capped ((width groups p).least * least)
      ((width groups p).most * most.getD widthLimit)
  | .backReference n => (groups.lookup n).getD ⟨0, 0⟩
  | .conditional _ p q => .capped (min (width groups p).least (width groups q).least)
      (max (width groups p).most (width groups q).most)

end Pattern

end BrickFormula
