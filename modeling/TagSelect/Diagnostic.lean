import TagSelect.Text.Offset
import TagSelect.Token

/-!
# Diagnostics

A diagnostic is a message about a stretch of a source text. It is shown with the line that the
stretch begins in and with carets under the marked characters:

    error: Expected identifier, found end of input
      | a &
      |    ^

Spans count bytes and the line is laid out by characters, so a span that begins or ends inside
a character cannot be shown.
-/

namespace TagSelect

open Text

/-- A message about a place of a source text. -/
structure Diagnostic where
  message : String
  span : Span
deriving DecidableEq, Repr

namespace Diagnostic

/-- The characters after the last line break. -/
def lastLine (cs : List Char) : List Char :=
  (cs.reverse.takeWhile (· != '\n')).reverse

/-- The characters before the first line break. -/
def firstLine (cs : List Char) : List Char :=
  cs.takeWhile (· != '\n')

/-- The message, the source line and the carets. -/
def layout (message : String) (line : List Char) (column width : Nat) : String :=
  "error: " ++ message ++ "\n  | " ++ String.ofList line ++ "\n  | " ++
    String.ofList (List.replicate column ' ' ++ List.replicate width '^')

/-- The message with its kind, without its place. -/
def summary (d : Diagnostic) : String :=
  "syntax error: " ++ d.message

/-- Shows a diagnostic with its source. A span past the end of the text marks its end, and a
span that goes on past the end of its line is cut there; at least one caret is shown. There is no
answer if the marked part begins or ends inside a character. -/
def annotate? (d : Diagnostic) (source : String) : Option String := do
  let cs := source.toList
  let start := min d.span.start (byteLength cs)
  let (before, after) ← splitAtByte? cs start
  let lead := lastLine before
  let tail := firstLine after
  let stop := max start (min d.span.stop (start + byteLength tail))
  let (marked, _) ← splitAtByte? tail (stop - start)
  return layout d.message (lead ++ tail) lead.length (max 1 marked.length)

end Diagnostic

end TagSelect
