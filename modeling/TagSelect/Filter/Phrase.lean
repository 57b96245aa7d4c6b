import TagSelect.Filter.Parser

/-!
# Phrases

The grammar of filters as data. A phrase is an operand and a chain of operators with operands
after it. It has the tokens that spell it, the filter that it stands for, and the number of levels
that it needs: a negation and a pair of parentheses hold one while their operand is read, and the
operators of a chain hold one each until the chain ends.
-/

namespace TagSelect.Filter

mutual

/-- An operand of the grammar. -/
inductive Operand where
  | plain (key : String)
  | valued (key value : String)
  | not (operand : Operand)
  | parens (first : Operand) (rest : Chain)

/-- The operators and operands after an operand. -/
inductive Chain where
  | nil
  | cons (op : Operator) (operand : Operand) (rest : Chain)

end

/-- The kind of token that spells an operator. -/
def Operator.kind : Operator → Token.Kind
  | .and => .and
  | .or => .or

/-- What a token says: its kind, and its text if it is a name. -/
inductive Word where
  | mark (kind : Token.Kind)
  | name (text : String)
deriving DecidableEq, Repr

/-- What a token says. The text of a mark does not matter. -/
def Word.ofToken (t : Token) : Word :=
  if t.kind = .identifier then .name t.lexeme else .mark t.kind

mutual

/-- The words of an operand. -/
def Operand.words : Operand → List Word
  | .plain key => [.name key]
  | .valued key value => [.name key, .mark .colon, .name value]
  | .not x => .mark .not :: x.words
  | .parens x rest => .mark .leftParen :: (x.words ++ rest.words ++ [.mark .rightParen])

/-- The words of a chain. -/
def Chain.words : Chain → List Word
  | .nil => []
  | .cons op x rest => .mark op.kind :: (x.words ++ rest.words)

end

mutual

/-- The filter of an operand. -/
def Operand.filter : Operand → Filter
  | .plain key => .tag (.plain key)
  | .valued key value => .tag (.valued key value)
  | .not x => x.filter.not
  | .parens x rest => rest.filterAfter x.filter

/-- The filter of a chain after the filter to its left. -/
def Chain.filterAfter : Chain → Filter → Filter
  | .nil, left => left
  | .cons op x rest, left => rest.filterAfter (op.join left x.filter)

end

mutual

/-- The levels that an operand needs. -/
def Operand.levels : Operand → Nat
  | .plain _ => 0
  | .valued _ _ => 0
  | .not x => x.levels + 1
  | .parens x rest => max x.levels rest.levels + 1

/-- The levels that a chain needs. -/
def Chain.levels : Chain → Nat
  | .nil => 0
  | .cons _ x rest => max x.levels rest.levels + 1

end

/-- A phrase of the grammar. -/
structure Phrase where
  first : Operand
  rest : Chain

namespace Phrase

/-- The words of a phrase. -/
def words (p : Phrase) : List Word :=
  p.first.words ++ p.rest.words

/-- The filter of a phrase. -/
def filter (p : Phrase) : Filter :=
  p.rest.filterAfter p.first.filter

/-- The levels that a phrase needs. -/
def levels (p : Phrase) : Nat :=
  max p.first.levels p.rest.levels

end Phrase

end TagSelect.Filter
