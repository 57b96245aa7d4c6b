import TagSelect.Sql.Value

/-!
# Expressions

The expressions that queries are made of and that have a meaning: columns, values, comparisons, the
logical operators, two aggregates, and a case distinction. `Expr.anyRow` says of a group of rows
that a condition holds in one of them. A statement can be written with other terms as well.
-/

namespace TagSelect.Sql

/-- A column, of a named table or of any. -/
structure Column where
  table : Option String
  name : String
deriving DecidableEq, Repr

/-- The comparisons. -/
inductive Comparison where
  | eq
  | gt
deriving DecidableEq, Repr

/-- The logical operators of two operands. -/
inductive Connective where
  | and
  | or
deriving DecidableEq, Repr

/-- The aggregates over the rows of a group. -/
inductive Aggregate where
  | count
  | sum
deriving DecidableEq, Repr

/-- An expression with a meaning. -/
inductive Expr where
  | column (c : Column)
  | value (v : Value)
  | compare (op : Comparison) (left right : Expr)
  | logical (op : Connective) (left right : Expr)
  | not (operand : Expr)
  | aggregate (op : Aggregate) (operand : Expr)
  /-- The value of `yes` where `condition` holds and that of `no` elsewhere. -/
  | choose (condition yes no : Expr)
deriving DecidableEq, Repr

namespace Expr

/-- The conjunction of two conditions. -/
def and (left right : Expr) : Expr :=
  .logical .and left right

/-- The disjunction of two conditions. -/
def or (left right : Expr) : Expr :=
  .logical .or left right

/-- A column has a value. -/
def columnIs (c : Column) (v : Value) : Expr :=
  .compare .eq (.column c) (.value v)

/-- A column is greater than a value. -/
def columnExceeds (c : Column) (v : Value) : Expr :=
  .compare .gt (.column c) (.value v)

/-- Two columns have the same value. -/
def columnsAgree (c d : Column) : Expr :=
  .compare .eq (.column c) (.column d)

/-- The number of rows of the group in which a column has a value. -/
def count (c : Column) : Expr :=
  .aggregate .count (.column c)

/-- The condition that always holds. -/
def truth : Expr :=
  .value (.bool true)

/-- Some row of the group satisfies a condition: the sum of one for each such row and zero for
each other row is positive. -/
def anyRow (condition : Expr) : Expr :=
  .compare .gt (.aggregate .sum (.choose condition (.value (.int 1)) (.value (.int 0))))
    (.value (.int 0))

end Expr

end TagSelect.Sql
