import Treewalk.Text.Chars

/-!
# Lines of a text

A text is cut after every line boundary; a carriage return with a line feed behind it is one
boundary. `Treewalk.Text.lineParts` gives each line with the boundary that ended it, so that
nothing is lost, and `Treewalk.Text.splitLines` forgets the boundaries. Which characters are
boundaries is given by a predicate: texts have more of them than byte strings.
-/

namespace Treewalk.Text

/-- The lines of a text, each with the boundary that ends it. `line` holds what has been read of
the current line, last character first. -/
def linePartsFrom (ends : Char → Bool) :
    (line : List Char) → List Char → List (List Char × List Char)
  | [], [] => []
  | c :: line, [] => [((c :: line).reverse, [])]
  | line, '\r' :: '\n' :: rest => (line.reverse, ['\r', '\n']) :: linePartsFrom ends [] rest
  | line, c :: rest =>
    if ends c then (line.reverse, [c]) :: linePartsFrom ends [] rest
    else linePartsFrom ends (c :: line) rest

/-- The lines of a text, each with the boundary that ends it. -/
def lineParts (ends : Char → Bool) (s : List Char) : List (List Char × List Char) :=
  linePartsFrom ends [] s

/-- The lines of a text, with their boundaries or without them. -/
def linesOf (ends : Char → Bool) (keep : Bool) (s : List Char) : List (List Char) :=
  (lineParts ends s).map fun p => if keep then p.1 ++ p.2 else p.1

/-- The lines of a text without their boundaries. -/
def splitLines (s : List Char) : List (List Char) := linesOf isLineBoundary false s

/-- Cuts the first line off a text that only a line feed divides: the line with its feed, and
the rest. -/
def takeLine : List Char → List Char × List Char
  | [] => ([], [])
  | '\n' :: rest => (['\n'], rest)
  | c :: rest => (c :: (takeLine rest).1, (takeLine rest).2)

end Treewalk.Text
