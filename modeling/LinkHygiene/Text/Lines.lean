import LinkHygiene.Text.Split

/-!
# Lines

A document as a list of lines. A line feed ends a line, and a carriage return in
front of it belongs to the line end; what follows the last line feed is a line
only if it is not empty.
-/

namespace LinkHygiene

namespace Text

def dropReturn (line : List Char) : List Char :=
  match line.reverse with
  | '\r' :: rest => rest.reverse
  | _ => line

/-- The lines of a split document: only an unended last line keeps its carriage return. -/
def endLines : List (List Char) → List (List Char)
  | [] => []
  | [last] => if last.isEmpty then [] else [last]
  | line :: rest => dropReturn line :: endLines rest

def lines (s : List Char) : List (List Char) :=
  endLines (splitOn '\n' s)

end Text

end LinkHygiene
