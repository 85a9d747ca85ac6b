import BrickFormula.Text.Digits
import BrickFormula.Text.Letter

/-!
# Numbers as people write them

Digits of any script with single underscores between them, behind an optional sign, with space
around.
-/

namespace BrickFormula.LooseNumber

/-- The most digits of a number. -/
def maxDigits : Nat := 4300

/-- Drops space from both ends. -/
def trim (text : List Char) : List Char :=
  ((text.dropWhile Letter.isSpace).reverse.dropWhile Letter.isSpace).reverse

/-- The natural number that a text writes; none for a number below zero. -/
def parse? (text : List Char) : Option Nat :=
  let (negative, body) := Digits.splitSign (trim text)
  let digits := body.filter (· ≠ '_')
  if (body.splitOn '_').any List.isEmpty || maxDigits < digits.length then none
  else
    match digits.mapM Letter.digitValue? with
    | none => none
    | some values =>
      let n := values.foldl (fun n d => n * 10 + d) 0
      if negative && n ≠ 0 then none else some n

end BrickFormula.LooseNumber
