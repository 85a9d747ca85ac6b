/-!
# Markup

Tags in square brackets style a text and do not show.  A tag starts with a small letter, a number
sign, a slash or an at sign; a backslash in front makes it plain text.  A closing tag needs an open
one of its name, or any open one if it has no name.  The controls that ring the bell or move the
cursor other than to the next line or column do not show either.
-/

namespace BrickFormula.Markup

def startsTag (c : Char) : Bool := c.isLower || c == '#' || c == '/' || c == '@'

/-- The inside of a tag after its opening bracket, and the rest. -/
def tag? (text : List Char) : Option (List Char × List Char) :=
  if text.head?.any startsTag then
    let inside := text.takeWhile fun c => c ≠ ']' && c ≠ '['
    match text.dropWhile fun c => c ≠ ']' && c ≠ '[' with
    | ']' :: rest => some (inside, rest)
    | _ => none
  else none

/-- The name of a tag, without parameters. -/
def tagName (inside : List Char) : List Char :=
  (inside.takeWhile (· ≠ '=')).map Char.toLower

def trim (text : List Char) : List Char :=
  ((text.dropWhile (· = ' ')).reverse.dropWhile (· = ' ')).reverse

/-- The open tags after one more tag; none if it closes what is not open. -/
def step (opened : List (List Char)) (inside : List Char) : Option (List (List Char)) :=
  match tagName inside with
  | '/' :: name =>
    if (trim name).isEmpty then (if opened.isEmpty then none else some opened.tail)
    else if opened.contains (trim name) then some (opened.erase (trim name))
    else none
  | name => some (trim name :: opened)

/-- Plain text: a backslash before a bracket does not show. -/
def unescape : List Char → List Char
  | '\\' :: '[' :: rest => '[' :: unescape rest
  | c :: rest => c :: unescape rest
  | [] => []

/-- What shows of a text, after the plain text before it, which is in reverse. -/
def plainFrom : (fuel : Nat) → (opened : List (List Char)) → (before text : List Char) →
    Option (List Char)
  | 0, _, _, _ => none
  | _ + 1, _, before, [] => some (unescape before.reverse)
  | fuel + 1, opened, before, c :: rest =>
    let slashes := ((c :: rest).takeWhile (· = '\\')).length
    match (c :: rest).drop slashes with
    | '[' :: after =>
      match tag? after with
      | some (inside, rest') =>
        let kept := List.replicate (slashes / 2) '\\'
        if slashes % 2 = 1 then
          (plainFrom fuel opened [] rest').map fun shown =>
            unescape before.reverse ++ kept ++ '[' :: inside ++ ']' :: shown
        else
          match step opened inside with
          | none => none
          | some opened =>
            (plainFrom fuel opened [] rest').map fun shown =>
              unescape before.reverse ++ kept ++ shown
      | none => plainFrom fuel opened (c :: before) rest
    | _ => plainFrom fuel opened (c :: before) rest

/-- The bell, the backspace, the vertical tab, the form feed and the carriage return. -/
def isHiddenControl (c : Char) : Bool :=
  c = '\x07' || c = '\x08' || c = '\x0b' || c = '\x0c' || c = '\r'

/-- What shows of a text; none if a tag closes what is not open. -/
def plain? (text : String) : Option String :=
  (plainFrom (text.length + 1) [] [] text.toList).map fun shown =>
    String.ofList (shown.filter (!isHiddenControl ·))

end BrickFormula.Markup
