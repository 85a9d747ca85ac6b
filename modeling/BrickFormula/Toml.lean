import BrickFormula.Binary64
import BrickFormula.Json

/-!
# TOML values

A document is a table.  Tables keep their keys in the order in which they first occur.  Dates and
times are kept as they are written; a fraction of a second has six digits.
-/

namespace BrickFormula

/-- A day of the calendar. -/
structure CalendarDate where
  year : Nat
  month : Nat
  day : Nat
  deriving DecidableEq, Repr

/-- A time of the day. -/
structure ClockTime where
  hour : Nat
  minute : Nat
  second : Nat
  /-- Millionths of a second. -/
  micro : Nat
  deriving DecidableEq, Repr

inductive Toml where
  | text (s : String)
  | integer (n : Int)
  | real (x : Binary64)
  | truth (b : Bool)
  | date (d : CalendarDate)
  | time (t : ClockTime)
  /-- A date with a time, and the offset of its zone in minutes if it is given. -/
  | moment (d : CalendarDate) (t : ClockTime) (offset : Option Int)
  | array (items : List Toml)
  | table (entries : List (String × Toml))

namespace CalendarDate

def isLeapYear (year : Nat) : Bool := year % 4 = 0 && (year % 100 ≠ 0 || year % 400 = 0)

/-- The number of days in a month. -/
def daysIn (year month : Nat) : Nat :=
  if month = 2 then (if isLeapYear year then 29 else 28)
  else if month = 4 || month = 6 || month = 9 || month = 11 then 30
  else 31

/-- The date is on the calendar, which starts with year one. -/
def isValid (d : CalendarDate) : Bool :=
  1 ≤ d.year && 1 ≤ d.month && d.month ≤ 12 && 1 ≤ d.day && d.day ≤ daysIn d.year d.month

end CalendarDate

namespace Toml

/-- A table under construction. -/
abbrev Entries := List (String × Toml)

/-- Changes the table at the end of a path, making tables on the way where there are none.  Below an
array the path goes on in its last table if `throughArrays` is set. -/
def updateAt (throughArrays : Bool) (change : Entries → Option Entries) :
    (path : List String) → Entries → Option Entries
  | [], entries => change entries
  | key :: path, entries =>
    match entries.lookup key with
    | none => (updateAt throughArrays change path []).map fun sub => setField entries key (.table sub)
    | some (.table sub) =>
      (updateAt throughArrays change path sub).map fun sub => setField entries key (.table sub)
    | some (.array items) =>
      match throughArrays, items.getLast? with
      | true, some (.table sub) =>
        (updateAt throughArrays change path sub).map fun sub =>
          setField entries key (.array (items.dropLast ++ [.table sub]))
      | _, _ => none
    | some _ => none

/-- Adds an entry with a new key. -/
def addEntry (key : String) (value : Toml) (entries : Entries) : Option Entries :=
  if (entries.lookup key).isSome then none else some (entries ++ [(key, value)])

/-- Adds an empty table to the array of a key. -/
def addTable (key : String) (entries : Entries) : Option Entries :=
  match entries.lookup key with
  | none => some (entries ++ [(key, .array [.table []])])
  | some (.array items) => some (setField entries key (.array (items ++ [.table []])))
  | some _ => none

end Toml

end BrickFormula
