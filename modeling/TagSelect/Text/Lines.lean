/-!
# Lines

A text is cut into lines at its line breaks. A break ends a line, so what follows the last break
is a line only if it is not empty.
-/

namespace TagSelect.Text

/-- Collects lines while it reads: `line` is the line under way, in reverse. -/
def linesFrom : List Char → List Char → List (List Char)
  | [], line => if line.isEmpty then [] else [line.reverse]
  | c :: cs, line => if c = '\n' then line.reverse :: linesFrom cs [] else linesFrom cs (c :: line)

/-- The lines of a text, without their breaks. -/
def lines (cs : List Char) : List (List Char) :=
  linesFrom cs []

end TagSelect.Text
