import TagSelect.SortPlan
import TagSelect.Sql.Expr

/-!
# Select statements

A select statement names the columns that it returns, the table and the joined tables that rows
come from, and how rows are filtered, grouped and ordered. The expressions in it are of any type
`ε`, and of type `Expr` where nothing else is said.
-/

namespace TagSelect.Sql

/-- A table with the name by which the statement calls it. -/
structure Table where
  name : String
  label : Option String
deriving DecidableEq, Repr

/-- What becomes of the rows that no row of the other table joins. -/
inductive JoinKind where
  | inner
  | left
  | right
deriving DecidableEq, Repr

/-- A joined table and the condition on which its rows are joined. -/
structure Join (ε : Type := Expr) where
  kind : JoinKind
  table : Table
  condition : ε
deriving DecidableEq, Repr

/-- A part of what a statement returns. -/
inductive Item (ε : Type := Expr) where
  | column (c : Column)
  /-- All columns, of a named table or of all of them. -/
  | all (table : Option String)
  /-- The value of an expression under a name. -/
  | named (e : ε) (label : String)
deriving DecidableEq, Repr

/-- By what rows are ordered. -/
inductive OrderKey where
  | column (c : Column)
  | random
deriving DecidableEq, Repr

/-- A select statement. -/
structure Select (ε : Type := Expr) where
  items : List (Item ε)
  source : Table
  joins : List (Join ε)
  condition : Option ε
  groupBy : Option Column
  having : Option ε
  orderKey : Option OrderKey
  direction : Option Direction
deriving DecidableEq, Repr

end TagSelect.Sql
