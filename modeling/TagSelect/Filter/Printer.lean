import TagSelect.Filter

/-!
# The text of a filter

A filter is written with `!` before an operand and `&` and `|` between operands. Conjunctions and
disjunctions share one level of precedence, so each of them stands in parentheses wherever it is
an operand. The filter that everything passes is written as nothing.
-/

namespace TagSelect.Filter

/-- Whether a filter needs parentheses as an operand. -/
def isBinary : Filter → Bool
  | and _ _ => true
  | or _ _ => true
  | _ => false

/-- Puts what `write` writes in parentheses, if it needs them. -/
def enclose (needed : Bool) (write : List Char → List Char) (rest : List Char) : List Char :=
  if needed then '(' :: write (')' :: rest) else write rest

/-- Writes a filter in front of the characters that follow it. -/
def printOnto : Filter → List Char → List Char
  | everything, rest => rest
  | tag name, rest => name.canonical.toList ++ rest
  | not x, rest => '!' :: enclose x.isBinary x.printOnto rest
  | and l r, rest =>
    enclose l.isBinary l.printOnto (" & ".toList ++ enclose r.isBinary r.printOnto rest)
  | or l r, rest =>
    enclose l.isBinary l.printOnto (" | ".toList ++ enclose r.isBinary r.printOnto rest)

/-- The characters of a filter's text. -/
def chars (f : Filter) : List Char :=
  f.printOnto []

/-- The text of a filter. -/
def text (f : Filter) : String :=
  String.ofList f.chars

end TagSelect.Filter
