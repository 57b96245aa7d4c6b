import TagSelect.Sql.Select
import TagSelect.Sql.Term

/-!
# The text of a statement

A statement is written once, as a list of pieces: stretches of fixed text with values between
them. The two texts of a statement come from the same pieces. `Select.inlined` writes each value
as a literal; `Select.bound` writes a placeholder for it and lists the values in their order.

A statement is laid out as terms one behind the other (`Select.layout`), and a term is written as
pieces (`Term.pieces`). In parentheses the layout of a statement is itself a term, so a statement
can stand in another one, and its values take part in the numbering of the outer statement.
-/

namespace TagSelect.Sql

/-- A piece of a statement's text. -/
inductive Piece where
  | text (s : String)
  | value (v : Value)
deriving DecidableEq, Repr

/-- The text in which each value is a literal. -/
def Piece.inlined (d : Dialect) (ps : List Piece) : String :=
  String.join (ps.map fun
    | .text s => s
    | .value v => d.literal v)

/-- The texts of the pieces, in which each value is a placeholder with a number from `n` on. -/
def Piece.boundFrom (d : Dialect) : Nat → List Piece → List String
  | _, [] => []
  | n, .text s :: ps => s :: boundFrom d n ps
  | n, .value _ :: ps => d.placeholder n :: boundFrom d (n + 1) ps

/-- The text in which each value is a placeholder. -/
def Piece.bound (d : Dialect) (ps : List Piece) : String :=
  String.join (boundFrom d 1 ps)

/-- The values among the pieces. -/
def Piece.values (ps : List Piece) : List Value :=
  ps.filterMap fun
    | .text _ => none
    | .value v => some v

/-! ## Terms -/

/-- The pieces in parentheses, if `bare` does not say that they need none. -/
def parenthesized (bare : Bool) (ps : List Piece) : List Piece :=
  if bare then ps else .text "(" :: (ps ++ [.text ")"])

/-- Pieces of several terms with commas between them. -/
def commaSeparated (pss : List (List Piece)) : List Piece :=
  (pss.intersperse [.text ", "]).flatten

/-- The pieces of a case distinction from those of its conditions and results in turn. -/
def armPieces : List (List Piece) → List Piece
  | [] => []
  | [no] => .text " ELSE " :: no
  | condition :: yes :: rest =>
    .text " WHEN (" :: (condition ++ .text ") THEN " :: (yes ++ armPieces rest))

/-- Quoted names with points between them, and a star behind them if `all` says so. -/
def pathText (d : Dialect) (names : List String) (all : Bool) : String :=
  ".".intercalate (names.map d.quoteName ++ if all then ["*"] else [])

mutual

/-- The pieces of a term. -/
def Term.pieces (d : Dialect) : Term → List Piece
  | .raw text => [.text text]
  | .path names all => [.text (pathText d names all)]
  | .value v => [.value v]
  | .constant v => [.text (d.literal v)]
  | .keyword word => [.text word]
  | .not t => .text "NOT " :: parenthesized (t.isBare .logical) (t.pieces d)
  | .binary op l r =>
    match op.settled? r with
    | some truth => [.value (.int 1), .text " = ", .value (.int (if truth then 1 else 2))]
    | none =>
      parenthesized (l.isBareLeft op) (l.pieces d) ++
        .text (" " ++ op.word ++ " ") :: parenthesized (r.isBareRight op) (r.pieces d)
  | .tuple ts => .text "(" :: (commaSeparated (Term.piecesEach d ts) ++ [.text ")"])
  | .call name ts => .text (name d ++ "(") :: (commaSeparated (Term.piecesEach d ts) ++ [.text ")"])
  | .cases ts => .text "(CASE" :: (armPieces (Term.piecesEach d ts) ++ [.text " END)"])
  | .custom parts => (Term.piecesEach d (parts d)).flatten
  | .subquery word parts =>
    .text (word ++ "(") :: ((Term.piecesEach d (parts d)).flatten ++ [.text ")"])

/-- The pieces of each of the terms. -/
def Term.piecesEach (d : Dialect) : List Term → List (List Piece)
  | [] => []
  | t :: ts => t.pieces d :: Term.piecesEach d ts

end

/-- The pieces of an expression. -/
def Expr.pieces (d : Dialect) (e : Expr) : List Piece :=
  e.term.pieces d

/-! ## Statements -/

/-- A column. -/
def Column.text (d : Dialect) (c : Column) : String :=
  match c.table with
  | none => d.quoteName c.name
  | some t => d.quoteName t ++ "." ++ d.quoteName c.name

/-- A table. -/
def Table.text (d : Dialect) (t : Table) : String :=
  match t.label with
  | none => d.quoteName t.name
  | some label => d.quoteName t.name ++ " AS " ++ d.quoteName label

/-- The words of a join. -/
def JoinKind.words : JoinKind → String
  | inner => " INNER JOIN "
  | left => " LEFT JOIN "
  | right => " RIGHT JOIN "

/-- The text of what rows are ordered by. -/
def OrderKey.text (d : Dialect) : OrderKey → String
  | column c => c.text d
  | random => d.randomCall

variable {ε : Type} [Writable ε]

/-- The layout of a part of what a statement returns. -/
def Item.layout (d : Dialect) : Item ε → List Term
  | column c => [.raw (c.text d)]
  | all none => [.raw "*"]
  | all (some t) => [.raw (d.quoteName t ++ ".*")]
  | named e label => [Writable.term e, .raw (" AS " ++ d.quoteName label)]

/-- The layout of a join. -/
def Join.layout (d : Dialect) (j : Join ε) : List Term :=
  [.raw (j.kind.words ++ j.table.text d ++ " ON "), Writable.term j.condition]

/-- An expression behind a word, if there is one. -/
def clause (word : String) : Option ε → List Term
  | none => []
  | some e => [.raw word, Writable.term e]

namespace Select

/-- The layout of the order. An order without a direction is descending, and a direction alone is
not written. -/
def orderLayout (d : Dialect) (s : Select ε) : List Term :=
  match s.orderKey with
  | none => []
  | some key =>
    let direction := match s.direction with
      | some .ascending => " ASC"
      | _ => " DESC"
    [.raw (" ORDER BY " ++ key.text d ++ direction)]

/-- The terms that a statement is written as, one behind the other. -/
def layout (s : Select ε) (d : Dialect) : List Term :=
  .raw "SELECT " :: ((s.items.map (Item.layout d)).intersperse [.raw ", "]).flatten ++
    .raw (" FROM " ++ s.source.text d) :: (s.joins.flatMap (Join.layout d) ++
      clause " WHERE " s.condition ++
      (s.groupBy.map fun c => Term.raw (" GROUP BY " ++ c.text d)).toList ++
      clause " HAVING " s.having ++ s.orderLayout d)

/-- The pieces of a statement. -/
def pieces (d : Dialect) (s : Select ε) : List Piece :=
  (s.layout d).flatMap (Term.pieces d)

/-- The text of a statement with its values as literals. -/
def inlined (d : Dialect) (s : Select ε) : String :=
  Piece.inlined d (s.pieces d)

/-- The text of a statement with placeholders, and the values for them in order. -/
def bound (d : Dialect) (s : Select ε) : String × List Value :=
  (Piece.bound d (s.pieces d), Piece.values (s.pieces d))

end Select

end TagSelect.Sql
