import TagSelect.Text.Alphabetic
import TagSelect.Text.Blank
import TagSelect.Text.Numeric
import TagSelect.Text.Offset
import TagSelect.Token

/-!
# The lexer

The lexer cuts a text into tokens. Blanks separate tokens and belong to none; the six
punctuation marks stand for themselves; a maximal run of name characters is an identifier; any
other character is an illegal token of its own. At the end of the text the lexer stays where it
is and answers with the end of the input for ever.

`Lexer.next` reads one token and `Lexer.tokens` all of them. Reading a token other than the end
of the input shortens the rest of the text (`Lexer.rest_next_lt`), so that `tokens` ends.
-/

namespace TagSelect

open Text

/-- Whether a character may stand in a name. -/
def isNameChar (c : Char) : Bool :=
  isAlphabetic c || isNumeric c || c == '_' || c == '.' || c == '/'

/-- The rest of a text and the byte offset at which it begins. -/
structure Lexer where
  rest : List Char
  offset : Nat
deriving DecidableEq, Repr

namespace Lexer

/-- The lexer at the beginning of a text. -/
def ofString (s : String) : Lexer :=
  ⟨s.toList, 0⟩

/-- The lexer after the blanks that come next. -/
def skipBlanks (l : Lexer) : Lexer :=
  ⟨l.rest.dropWhile isBlank, l.offset + byteLength (l.rest.takeWhile isBlank)⟩

/-- Reads `lexeme` as a token of the given kind and goes on with `rest`. -/
def emit (offset : Nat) (kind : Token.Kind) (lexeme rest : List Char) : Token × Lexer :=
  let stop := offset + byteLength lexeme
  (⟨kind, String.ofList lexeme, ⟨offset, stop⟩⟩, ⟨rest, stop⟩)

/-- Reads the token that begins with `c`, which is not blank. -/
def scan (offset : Nat) (c : Char) (cs : List Char) : Token × Lexer :=
  match Token.Kind.ofPunctuation? c with
  | some kind => emit offset kind [c] cs
  | none =>
    if isNameChar c then
      emit offset .identifier (c :: cs.takeWhile isNameChar) (cs.dropWhile isNameChar)
    else
      emit offset .illegal [c] cs

/-- The next token and the lexer after it. -/
def next (l : Lexer) : Token × Lexer :=
  match l.skipBlanks with
  | ⟨[], offset⟩ => (Token.eof offset, ⟨[], offset⟩)
  | ⟨c :: cs, offset⟩ => scan offset c cs

instance : Token.Source Lexer where
  next := next

theorem rest_scan_le (offset : Nat) (c : Char) (cs : List Char) :
    (scan offset c cs).2.rest.length ≤ cs.length := by
  rw [scan]
  split
  · simp [emit]
  · split
    · simpa [emit] using (List.dropWhile_suffix isNameChar).length_le
    · simp [emit]

/-- A token that is not the end of the input is taken off the rest of the text. -/
theorem rest_next_lt (l : Lexer) (h : l.next.1.kind ≠ .eof) :
    l.next.2.rest.length < l.rest.length := by
  have hskip : l.skipBlanks.rest.length ≤ l.rest.length :=
    (List.dropWhile_suffix isBlank).length_le
  rw [next] at h ⊢
  split
  · next hl => simp [hl, Token.eof] at h
  · next c cs offset hl =>
    have := rest_scan_le offset c cs
    rw [hl, List.length_cons] at hskip
    omega

/-- All tokens before the end of the input. -/
def tokens (l : Lexer) : List Token :=
  if l.next.1.kind = .eof then [] else l.next.1 :: tokens l.next.2
termination_by l.rest.length
decreasing_by exact rest_next_lt l ‹_›

/-- The lexer after a number of tokens. -/
def after : Nat → Lexer → Lexer
  | 0, l => l
  | n + 1, l => after n l.next.2

end Lexer

end TagSelect
