/-!
# Terminal codes

A terminal does not show codes: the escape character and an opening bracket, with digits, semicolons and
question marks up to a letter.  They set colours or move the cursor.  In what is written to no terminal,
codes are left out.
-/

namespace BrickFormula.TerminalCode

/-- A character between the bracket and the letter of a code. -/
def isParameter (c : Char) : Bool := c.isDigit || c == ';' || c == '?'

/-- The length of the code that a text starts with; zero if there is none. -/
def lengthAhead : List Char → Nat
  | '\x1b' :: '[' :: rest =>
    match rest.dropWhile isParameter with
    | c :: _ => if c.isAlpha then (rest.takeWhile isParameter).length + 3 else 0
    | [] => 0
  | _ => 0

/-- Leaves out so many characters, and all codes behind them. -/
def stripChars : (skipped : Nat) → List Char → List Char
  | _, [] => []
  | skipped + 1, _ :: rest => stripChars skipped rest
  | 0, c :: rest =>
    match lengthAhead (c :: rest) with
    | 0 => c :: stripChars 0 rest
    | n + 1 => stripChars n rest

/-- A text without its codes. -/
def strip (text : String) : String := String.ofList (stripChars 0 text.toList)

end BrickFormula.TerminalCode
