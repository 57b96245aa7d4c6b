/-!
# Tokens

A token is a piece of a filter expression: a name, one of six punctuation marks, a character
that belongs to no token, or the end of the input. It carries its text and the bytes of the
source that it covers.
-/

namespace TagSelect

/-- A stretch of the source, in bytes: from `start` up to, and without, `stop`. -/
structure Span where
  start : Nat
  stop : Nat
deriving DecidableEq, Repr

namespace Token

/-- What a token is. -/
inductive Kind where
  | identifier
  | colon
  | leftParen
  | rightParen
  | and
  | or
  | not
  | illegal
  | eof
deriving DecidableEq, Repr

/-- The name of a kind in messages. -/
def Kind.shown : Kind → String
  | .identifier => "identifier"
  | .colon => "':'"
  | .leftParen => "'('"
  | .rightParen => "')'"
  | .and => "'&'"
  | .or => "'|'"
  | .not => "'!'"
  | .illegal => "illegal character"
  | .eof => "end of input"

/-- The kind of a punctuation mark. -/
def Kind.ofPunctuation? : Char → Option Kind
  | '&' => some .and
  | '|' => some .or
  | '!' => some .not
  | '(' => some .leftParen
  | ')' => some .rightParen
  | ':' => some .colon
  | _ => none

end Token

/-- A token with its text and its place in the source. -/
structure Token where
  kind : Token.Kind
  lexeme : String
  span : Span
deriving DecidableEq, Repr

namespace Token

/-- The end of the input at a byte offset. -/
def eof (offset : Nat) : Token :=
  ⟨.eof, "", ⟨offset, offset⟩⟩

/-- How an error message names a token that it did not expect. -/
def described (t : Token) : String :=
  match t.kind with
  | .identifier | .illegal => t.kind.shown ++ " '" ++ t.lexeme ++ "'"
  | k => k.shown

/-- A supply of tokens. It never runs dry: past its last token it goes on with ends of input. -/
class Source (σ : Type) where
  /-- The next token and the supply after it. -/
  next : σ → Token × σ

end Token

end TagSelect
