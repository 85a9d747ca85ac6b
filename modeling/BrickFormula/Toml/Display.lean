import BrickFormula.Numeral
import BrickFormula.Text.Quoted
import BrickFormula.Toml

/-!
# Values in messages

How a message shows a value of a document: texts in quotes, lists in brackets, and dates and times
as calls with their parts.  Integers of more than 4300 digits, which a document can have in other
notations than the decimal one, are not shown.
-/

namespace BrickFormula.Toml

/-- Numbers separated by commas. -/
def numbers (ns : List Nat) : String := ", ".intercalate (ns.map toString)

/-- The parts of a time; zeros at the end do not show, except for hour and minute. -/
def ClockTime.shown (t : ClockTime) : List Nat :=
  if t.micro ≠ 0 then [t.hour, t.minute, t.second, t.micro]
  else if t.second ≠ 0 then [t.hour, t.minute, t.second]
  else [t.hour, t.minute]

/-- A span of seconds as whole days and the seconds after them. -/
def spanText (seconds : Int) : String :=
  let days := seconds.fdiv 86400
  let rest := seconds.fmod 86400
  let parts := (if days ≠ 0 then ["days=" ++ toString days] else []) ++
    (if rest ≠ 0 then ["seconds=" ++ toString rest] else [])
  "datetime.timedelta(" ++ ", ".intercalate parts ++ ")"

/-- A zone by its offset in minutes. -/
def zoneText (offset : Int) : String :=
  if offset = 0 then "datetime.timezone.utc"
  else "datetime.timezone(" ++ spanText (offset * 60) ++ ")"

/-- The most digits that an integer is shown with. -/
def maxDigits : Nat := 4300

mutual

/-- A value as a message shows it, unless there is an integer with too many digits in it. -/
def display? : Toml → Option String
  | .text s => some (Quoted.quote s)
  | .integer n => if maxDigits < (toString n.natAbs).length then none else some (toString n)
  | .real x => some (Numeral.compact.write x)
  | .truth b => some (if b then "True" else "False")
  | .date d => some ("datetime.date(" ++ numbers [d.year, d.month, d.day] ++ ")")
  | .time t => some ("datetime.time(" ++ numbers (ClockTime.shown t) ++ ")")
  | .moment d t offset =>
    some ("datetime.datetime(" ++ numbers ([d.year, d.month, d.day] ++ ClockTime.shown t) ++
      (offset.elim "" fun n => ", tzinfo=" ++ zoneText n) ++ ")")
  | .array items => (displayItems? items).map fun texts => "[" ++ ", ".intercalate texts ++ "]"
  | .table entries =>
    (displayEntries? entries).map fun texts => "\x7b" ++ ", ".intercalate texts ++ "\x7d"

def displayItems? : List Toml → Option (List String)
  | [] => some []
  | item :: rest =>
    match item.display?, displayItems? rest with
    | some s, some texts => some (s :: texts)
    | _, _ => none

/-- Keys with their values. -/
def displayEntries? : List (String × Toml) → Option (List String)
  | [] => some []
  | (key, value) :: rest =>
    match value.display?, displayEntries? rest with
    | some s, some texts => some ((Quoted.quote key ++ ": " ++ s) :: texts)
    | _, _ => none

end

end BrickFormula.Toml
