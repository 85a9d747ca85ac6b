import BrickFormula.Pattern
import BrickFormula.Text.Quoted
import BrickFormula.Value

/-!
# Flaws of patterns

Why a text is not a pattern.  A flaw found while reading has a position in the text; when the text
has several lines the report also gives line and column.  Some texts are refused with a fault that
stops the whole evaluation.
-/

namespace BrickFormula

/-- What is wrong with a pattern text. -/
inductive PatternFlaw where
  | escapeAtEnd
  | badEscape (text : String)
  | incompleteEscape (text : String)
  | octalTooLarge (text : String)
  | missing (what : String)
  | unterminatedName (terminator : Char)
  | undefinedCharacter (name : String)
  | badNameCharacter (name : String)
  | unknownGroup (name : String)
  | openGroup
  | groupOfLookbehind
  | invalidReference (index : Nat)
  | badGroupNumber
  | redefinedGroup (name : String) (index earlier : Nat)
  | unknownExtension (text : String)
  | unexpectedEnd
  | unterminatedSet
  | badRange (first last : String)
  | nothingToRepeat
  | multipleRepeat
  | leastAboveMost
  | unterminatedComment
  | unterminatedGroup
  | unbalanced
  | tooManyBranches
  | lateGlobalFlags
  | localeFlag
  | incompatibleFlags
  | globalFlagOn
  | globalFlagOff
  | typeFlagOff
  | flagOnAndOff
  | unknownFlag
  | variableLookbehind
  | farLookbehind
  | templateRepetition (mode : Repetition)
  deriving DecidableEq, Repr

/-- The wording of a flaw, without its position. -/
def PatternFlaw.message : PatternFlaw → String
  | .escapeAtEnd => "bad escape (end of pattern)"
  | .badEscape text => "bad escape " ++ text
  | .incompleteEscape text => "incomplete escape " ++ text
  | .octalTooLarge text => "octal escape value " ++ text ++ " outside of range 0-0o377"
  | .missing what => "missing " ++ what
  | .unterminatedName terminator => "missing " ++ terminator.toString ++ ", unterminated name"
  | .undefinedCharacter name => "undefined character name " ++ Quoted.quote name
  | .badNameCharacter name => "bad character in group name " ++ Quoted.quote name
  | .unknownGroup name => "unknown group name " ++ Quoted.quote name
  | .openGroup => "cannot refer to an open group"
  | .groupOfLookbehind => "cannot refer to group defined in the same lookbehind subpattern"
  | .invalidReference index => "invalid group reference " ++ toString index
  | .badGroupNumber => "bad group number"
  | .redefinedGroup name index earlier =>
    "redefinition of group name " ++ Quoted.quote name ++ " as group " ++ toString index ++
      "; was group " ++ toString earlier
  | .unknownExtension text => "unknown extension " ++ text
  | .unexpectedEnd => "unexpected end of pattern"
  | .unterminatedSet => "unterminated character set"
  | .badRange first last => "bad character range " ++ first ++ "-" ++ last
  | .nothingToRepeat => "nothing to repeat"
  | .multipleRepeat => "multiple repeat"
  | .leastAboveMost => "min repeat greater than max repeat"
  | .unterminatedComment => "missing ), unterminated comment"
  | .unterminatedGroup => "missing ), unterminated subpattern"
  | .unbalanced => "unbalanced parenthesis"
  | .tooManyBranches => "conditional backref with more than two branches"
  | .lateGlobalFlags => "global flags not at the start of the expression"
  | .localeFlag => "bad inline flags: cannot use 'L' flag with a str pattern"
  | .incompatibleFlags => "bad inline flags: flags 'a', 'u' and 'L' are incompatible"
  | .globalFlagOn => "bad inline flags: cannot turn on global flag"
  | .globalFlagOff => "bad inline flags: cannot turn off global flag"
  | .typeFlagOff => "bad inline flags: cannot turn off flags 'a', 'u' and 'L'"
  | .flagOnAndOff => "bad inline flags: flag turned on and off"
  | .unknownFlag => "unknown flag"
  | .variableLookbehind => "look-behind requires fixed-width pattern"
  | .farLookbehind => "looks too much behind"
  | .templateRepetition mode =>
    "internal: unsupported template operator " ++ match mode with
      | .greedy => "MAX_REPEAT"
      | .lazy => "MIN_REPEAT"
      | .possessive => "POSSESSIVE_REPEAT"

/-- The refusal of a pattern. -/
inductive PatternError where
  | flaw (flaw : PatternFlaw) (position : Option Nat)
  | fault (fault : Fault)
  deriving DecidableEq

/-- The place of a position in a text of several lines. -/
def lineAndColumn (text : List Char) (position : Nat) : String :=
  let before := text.take position
  let line := before.count '\n' + 1
  let column := (before.reverse.takeWhile (· ≠ '\n')).length + 1
  " (line " ++ toString line ++ ", column " ++ toString column ++ ")"

/-- The report of a flaw in a pattern text. -/
def PatternFlaw.report (flaw : PatternFlaw) (text : List Char) (position : Option Nat) : String :=
  match position with
  | none => flaw.message
  | some n =>
    flaw.message ++ " at position " ++ toString n ++
      (if text.contains '\n' then lineAndColumn text n else "")

end BrickFormula
