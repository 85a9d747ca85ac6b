import BrickFormula.Text.LowerCase

/-!
# Matching without regard to case

Two characters match without regard to case when their lower cases agree, or are two lower-case
letters with the same upper case.
-/

namespace BrickFormula.CaseFold

/-- Lower-case letters that share an upper case. -/
def classes : List (List Nat) :=
  [[0x69, 0x131], [0x73, 0x17F], [0xB5, 0x3BC], [0x345, 0x3B9, 0x1FBE], [0x390, 0x1FD3],
   [0x3B0, 0x1FE3], [0x3B2, 0x3D0], [0x3B5, 0x3F5], [0x3B8, 0x3D1], [0x3BA, 0x3F0],
   [0x3C0, 0x3D6], [0x3C1, 0x3F1], [0x3C2, 0x3C3], [0x3C6, 0x3D5], [0x432, 0x1C80],
   [0x434, 0x1C81], [0x43E, 0x1C82], [0x441, 0x1C83], [0x442, 0x1C84, 0x1C85], [0x44A, 0x1C86],
   [0x463, 0x1C87], [0x1C88, 0xA64B], [0x1E61, 0x1E9B], [0xFB05, 0xFB06]]

/-- The code points that have the given lower case. -/
def capitalsOf (lower : Nat) : List Nat :=
  let moved := LowerCase.runs.filterMap fun run =>
    let n := ((lower : Int) - run.shift).toNat
    if run.holds n ∧ (n : Int) + run.shift = lower then some n else none
  if lower = 0x69 then 0x49 :: 0x130 :: moved else moved

/-- All code points that match the character without regard to case. -/
def equivalents (ascii : Bool) (c : Char) : List Nat :=
  if ascii then
    [c.toLower.toNat, c.toUpper.toNat]
  else
    let lower := (LowerCase.ofChar c).toNat
    let lowers := (classes.find? (·.contains lower)).getD [lower]
    c.toNat :: lowers ++ lowers.flatMap capitalsOf

/-- The character with its case removed. -/
def fold (ascii : Bool) (c : Char) : Char := if ascii then c.toLower else LowerCase.ofChar c

end BrickFormula.CaseFold
