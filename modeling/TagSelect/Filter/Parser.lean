import TagSelect.Filter
import TagSelect.Token

/-!
# Reading a filter

The grammar has one level of binary operators, read from the left:

    filter  := end | binary end
    binary  := unary (('&' | '|') unary)*
    unary   := '!' unary | primary
    primary := '(' binary ')' | name (':' name)?

Nesting is bounded. A parser holds a number of levels; each `!` and each `(` takes one while its
operand is read, and each operator of a chain takes one until the chain ends. Where no level is
left, the expression is refused as nested too deeply. The levels left are the argument on which
`unary` and `chain` recurse, so that reading ends whatever the tokens are.

A parser can be called again. It goes on at its current token, and the levels that a failed call
had taken stay taken: `Outcome.failed` says how many are left.
-/

namespace TagSelect

/-! ## Errors -/

/-- What the grammar asks for at some place. -/
inductive Expected where
  | identifier
  | metaValue
  | closingParenthesis
  | endOfInput
deriving DecidableEq, Repr

/-- The words for it in a message. -/
def Expected.shown : Expected → String
  | .identifier => "Expected identifier"
  | .metaValue => "Expected meta tag value"
  | .closingParenthesis => "Expected closing parenthesis"
  | .endOfInput => "Expected end of input"

/-- Why a text is not a filter. -/
inductive SyntaxError where
  /-- Another token stands where the grammar asks for `expected`. -/
  | unexpected (expected : Expected) (found : Token)
  /-- The token would take a level and none is left. -/
  | tooDeep (operator : Token)
deriving DecidableEq, Repr

namespace SyntaxError

/-- The token at which reading failed. -/
def token : SyntaxError → Token
  | unexpected _ found => found
  | tooDeep operator => operator

/-- The place of the error. -/
def span (e : SyntaxError) : Span :=
  e.token.span

/-- The text of the error. -/
def message : SyntaxError → String
  | unexpected expected found => expected.shown ++ ", found " ++ found.described
  | tooDeep _ => "Expression nested too deeply"

end SyntaxError

/-! ## Steps -/

/-- The levels of a new parser. -/
def maxLevels : Nat := 256

/-- The current token and the supply of the tokens after it. -/
structure Cursor (σ : Type) where
  current : Token
  source : σ
deriving DecidableEq, Repr

/-- The end of a step of a parser. -/
inductive Outcome (σ α : Type) where
  /-- The step read `result`, took back the levels that it had taken and stands at `cursor`. -/
  | done (result : α) (cursor : Cursor σ)
  /-- The step failed with `levels` left. -/
  | failed (error : SyntaxError) (cursor : Cursor σ) (levels : Nat)
deriving DecidableEq, Repr

variable {σ α β : Type}

/-- Goes on with the result of a step that did not fail. -/
def Outcome.bind (o : Outcome σ α) (f : α → Cursor σ → Outcome σ β) : Outcome σ β :=
  match o with
  | .done a c => f a c
  | .failed e c levels => .failed e c levels

namespace Filter

/-- A binary operator of the grammar. -/
inductive Operator where
  | and
  | or
deriving DecidableEq, Repr

/-- The operator that a kind of token stands for. -/
def Operator.ofKind? : Token.Kind → Option Operator
  | .and => some .and
  | .or => some .or
  | _ => none

/-- The filter that joins two operands. -/
def Operator.join : Operator → Filter → Filter → Filter
  | .and => Filter.and
  | .or => Filter.or

end Filter

variable [Token.Source σ]

namespace Cursor

/-- The cursor at the first token of a supply. -/
def ofSource (s : σ) : Cursor σ :=
  let (t, s) := Token.Source.next s
  ⟨t, s⟩

/-- The cursor after the current token. -/
def advance (c : Cursor σ) : Cursor σ :=
  ofSource c.source

/-- Takes a token of the given kind. A token of another kind stays where it is. -/
def expect (kind : Token.Kind) (expected : Expected) (levels : Nat) (c : Cursor σ) :
    Outcome σ Token :=
  if c.current.kind = kind then
    .done c.current c.advance
  else
    .failed (.unexpected expected c.current) c levels

/-- Reads a name, and its value if a colon follows. -/
def tagName (levels : Nat) (c : Cursor σ) : Outcome σ Filter :=
  (c.expect .identifier .identifier levels).bind fun key c =>
    if c.current.kind = .colon then
      (c.advance.expect .identifier .metaValue levels).bind fun value c =>
        .done (.tag (.valued key.lexeme value.lexeme)) c
    else
      .done (.tag (.plain key.lexeme)) c

mutual

/-- Reads an operand with `levels` left. -/
def unary (levels : Nat) (c : Cursor σ) : Outcome σ Filter :=
  match c.current.kind, levels with
  | .not, 0 => .failed (.tooDeep c.current) c.advance 0
  | .not, levels + 1 => (unary levels c.advance).bind fun f c => .done f.not c
  | .leftParen, 0 => .failed (.tooDeep c.current) c.advance 0
  | .leftParen, levels + 1 =>
    (unary levels c.advance).bind fun first c =>
      (chain levels first c).bind fun f c =>
        (c.expect .rightParen .closingParenthesis levels).bind fun _ c => .done f c
  | _, levels => c.tagName levels
termination_by structural levels

/-- Reads the operators and operands that follow `left`, with `levels` left. -/
def chain (levels : Nat) (left : Filter) (c : Cursor σ) : Outcome σ Filter :=
  match Filter.Operator.ofKind? c.current.kind, levels with
  | none, _ => .done left c
  | some _, 0 => .failed (.tooDeep c.current) c.advance 0
  | some op, levels + 1 =>
    (unary levels c.advance).bind fun right c => chain levels (op.join left right) c
termination_by structural levels

end

/-- Where no operator comes, a chain has ended. -/
theorem chain_of_none {c : Cursor σ} (h : Filter.Operator.ofKind? c.current.kind = none)
    (levels : Nat) (left : Filter) : c.chain levels left = .done left c := by
  cases levels <;> simp [chain, h]

/-- An operator takes a level and is followed by an operand and the rest of the chain. -/
theorem chain_of_operator {c : Cursor σ} {op : Filter.Operator}
    (h : Filter.Operator.ofKind? c.current.kind = some op) (levels : Nat) (left : Filter) :
    c.chain (levels + 1) left =
      (c.advance.unary levels).bind fun right c => c.chain levels (op.join left right) := by
  simp [chain, h]

/-- Reads operands with operators between them. -/
def binary (levels : Nat) (c : Cursor σ) : Outcome σ Filter :=
  (c.unary levels).bind fun first c => c.chain levels first

/-- Reads a filter up to the end of the input. -/
def filter (levels : Nat) (c : Cursor σ) : Outcome σ Filter :=
  if c.current.kind = .eof then
    .done .everything c
  else
    (c.binary levels).bind fun f c =>
      (c.expect .eof .endOfInput levels).bind fun _ c => .done f c

end Cursor

/-! ## Parsers -/

/-- A parser between two calls: where it stands and how many levels it has left. -/
structure Parser (σ : Type) where
  cursor : Cursor σ
  levels : Nat
deriving DecidableEq, Repr

namespace Parser

/-- A new parser over a supply of tokens. -/
def ofSource (s : σ) : Parser σ :=
  ⟨Cursor.ofSource s, maxLevels⟩

/-- Reads one filter, and gives the parser for the next call. -/
def parse (p : Parser σ) : Except SyntaxError Filter × Parser σ :=
  match p.cursor.filter p.levels with
  | .done f c => (.ok f, ⟨c, p.levels⟩)
  | .failed e c levels => (.error e, ⟨c, levels⟩)

/-- The results of a number of calls, one after the other. -/
def parseTimes : Nat → Parser σ → List (Except SyntaxError Filter)
  | 0, _ => []
  | n + 1, p =>
    match p.parse with
    | (result, p) => result :: parseTimes n p

end Parser

end TagSelect
