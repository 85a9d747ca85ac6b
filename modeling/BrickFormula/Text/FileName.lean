/-!
# File names

A file name is shown without what does not matter: doubled slashes, components that are a single
point, and a slash at the end.
-/

namespace BrickFormula.FileName

/-- The slashes that a name starts with; exactly two of them mean something else than one. -/
def root (name : List Char) : List Char :=
  match (name.takeWhile (· = '/')).length with
  | 0 => []
  | 2 => ['/', '/']
  | _ => ['/']

/-- The components between slashes that count. -/
def components (name : List Char) : List (List Char) :=
  (name.splitOn '/').filter fun part => part ≠ [] && part ≠ ['.']

/-- The name on display; an empty one is a single point. -/
def normalize (name : String) : String :=
  let text := root name.toList ++ ['/'].intercalate (components name.toList)
  String.ofList (if text.isEmpty then ['.'] else text)

end BrickFormula.FileName
