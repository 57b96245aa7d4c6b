import TagSelect.Diagnostic
import TagSelect.Filter.Parser
import TagSelect.Filter.Printer
import TagSelect.Token.Lexer

/-!
# Filters and their texts

Reading a filter from a text, showing where reading failed, and the question whether the text of
a filter reads back as the same filter.
-/

namespace TagSelect

/-- Reads a text as a filter. -/
def Filter.parse (s : String) : Except SyntaxError Filter :=
  (Parser.ofSource (Lexer.ofString s)).parse.1

/-- Whether the text of a filter reads back as that filter. -/
def Filter.readsBack (f : Filter) : Bool :=
  match Filter.parse f.text with
  | .ok g => g = f
  | .error _ => false

/-- The error as a message about a place. -/
def SyntaxError.diagnostic (e : SyntaxError) : Diagnostic :=
  ⟨e.message, e.span⟩

/-- Shows the error with the text in which it was found. -/
def SyntaxError.annotate? (e : SyntaxError) (source : String) : Option String :=
  e.diagnostic.annotate? source

end TagSelect
