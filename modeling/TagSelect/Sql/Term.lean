import TagSelect.Sql.Dialect
import TagSelect.Sql.Expr

/-!
# Terms

Whatever can be written in a statement: names, values, operators of every kind, tuples, calls, case
distinctions, sub-queries, and texts that are taken as they are. A term says how something is
written and not what it means. The expressions of `Expr` have a meaning, and each of them is written
as a term (`Expr.term`).

An operand stands in parentheses unless it closes itself, as a name, a value, a call, a tuple, a
case distinction and a sub-query do, or its operator binds more tightly than the one above it
(`OperatorKind.tighter`). On the left side a chain of one operator needs none, and on the right side
some operators have an operand that belongs to them.
-/

namespace TagSelect.Sql

/-! ## Operators -/

/-- The kinds of operators between two operands. -/
inductive OperatorKind where
  | logical
  | comparison
  /-- `IN`, and `NOT IN` if it is negated. -/
  | membership (negated : Bool)
  /-- `LIKE` and `NOT LIKE`. -/
  | pattern
  /-- `IS`, `IS NOT`, and what a dialect has of this strength. -/
  | identity
  /-- `BETWEEN` and `NOT BETWEEN`. -/
  | range
  /-- Sums, products and shifts. -/
  | arithmetic
  /-- `ESCAPE` after a pattern. -/
  | escape
  /-- `AS` before a type. -/
  | conversion
  | other
deriving DecidableEq, Repr

/-- An operator between two operands. -/
structure BinaryOperator where
  word : String
  kind : OperatorKind
  /-- Whether a chain of the operator is written without parentheses. -/
  chains : Bool
deriving DecidableEq, Repr

/-- Whether an operator binds so much more tightly than another that it needs no parentheses as its
operand. -/
def OperatorKind.tighter (inner outer : OperatorKind) : Bool :=
  match inner, outer with
  | arithmetic, logical | arithmetic, comparison | arithmetic, membership _ | arithmetic, pattern
  | arithmetic, range => true
  | comparison, logical | membership _, logical | pattern, logical | identity, logical => true
  | _, _ => false

/-- The operator of a comparison. -/
def Comparison.operator : Comparison → BinaryOperator
  | eq => ⟨"=", .comparison, false⟩
  | gt => ⟨">", .comparison, false⟩

/-- The operator of a connective. -/
def Connective.operator : Connective → BinaryOperator
  | and => ⟨"AND", .logical, true⟩
  | or => ⟨"OR", .logical, true⟩

/-- The name of an aggregate. -/
def Aggregate.name : Aggregate → String
  | count => "COUNT"
  | sum => "SUM"

/-! ## Terms -/

/-- Something that can be written in a statement. -/
inductive Term where
  /-- A text that is written as it is. -/
  | raw (text : String)
  /-- Quoted names with points between them, and a star behind them if `all` says so. -/
  | path (names : List String) (all : Bool)
  /-- A value, which can be bound. -/
  | value (v : Value)
  /-- A value that is always written as a literal. -/
  | constant (v : Value)
  | keyword (word : String)
  | not (operand : Term)
  | binary (op : BinaryOperator) (left right : Term)
  | tuple (members : List Term)
  /-- A call of a function, which has a name in each dialect. -/
  | call (name : Dialect → String) (arguments : List Term)
  /-- A case distinction: conditions and results in turn, and a default if one term is left. -/
  | cases (arms : List Term)
  /-- The terms that a dialect has for it, one behind the other: a text with operands in it, a list
  of values, a conversion to a type. -/
  | custom (parts : Dialect → List Term)
  /-- A statement in parentheses behind a word such as `EXISTS`, as the terms that it is laid out
  as. -/
  | subquery (word : String) (parts : Dialect → List Term)

namespace Term

/-- Whether an operand needs no parentheses under an operator on account of what it is. -/
def isBare (outer : OperatorKind) : Term → Bool
  | path _ _ | value _ | constant _ | keyword _ | tuple _ | call _ _ | cases _ | subquery _ _ =>
    true
  | binary op _ _ => op.kind.tighter outer
  | raw _ | not _ | custom _ => false

/-- Whether a left operand needs no parentheses. A chain of one operator does not. -/
def isBareLeft (op : BinaryOperator) (t : Term) : Bool :=
  t.isBare op.kind ||
    match t with
    | binary op' _ _ => op' = op && op.chains
    | _ => false

/-- Whether a right operand needs no parentheses. The two bounds of a range, a pattern with its
escape character and the type of a conversion do not. -/
def isBareRight (op : BinaryOperator) (t : Term) : Bool :=
  t.isBare op.kind ||
    match t with
    | binary op' _ _ =>
      op.kind = .range && op' = Connective.and.operator || op.kind = .pattern && op'.kind = .escape
    | raw _ => op.kind = .conversion
    | _ => false

end Term

/-- The truth value of an operator that needs no left operand for it: nothing is a member of the
empty tuple. -/
def BinaryOperator.settled? (op : BinaryOperator) : Term → Option Bool
  | .tuple [] =>
    match op.kind with
    | .membership negated => some negated
    | _ => none
  | _ => none

/-! ## Expressions as terms -/

/-- A column as a term. -/
def Column.term (c : Column) : Term :=
  .path (c.table.toList ++ [c.name]) false

/-- An expression as a term. -/
def Expr.term : Expr → Term
  | column c => c.term
  | value v => .value v
  | compare op l r => .binary op.operator l.term r.term
  | logical op l r => .binary op.operator l.term r.term
  | not e => .not e.term
  | aggregate op e => .call (fun _ => op.name) [e.term]
  | choose c y n => .cases [c.term, y.term, n.term]

/-- What is written as a term. -/
class Writable (ε : Type) where
  term : ε → Term

instance : Writable Expr := ⟨Expr.term⟩

instance : Writable Term := ⟨id⟩

end TagSelect.Sql
