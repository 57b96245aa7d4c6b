import TagSelect.Sql.Select

/-!
# The meaning of a statement

What a select statement returns on a database. Rows are joined, filtered and grouped, and a group
is returned if its condition holds. An absent datum makes a comparison unknown, a connective is
unknown where its operands leave it open, and only what is true counts as holding.

`Select.selected` gives the groups that a statement returns, each with all of its rows, and
`Select.results` what the statement says of each of them. The order of the rows is not modelled.
-/

namespace TagSelect.Sql

/-! ## Data -/

/-- A datum of a table or the result of an expression. -/
inductive Datum where
  | null
  | number (n : Int)
  | text (s : String)
  | bool (b : Bool)
  | bytes (bs : List UInt8)
deriving DecidableEq, Repr

/-- The datum of a value. Integers of all widths are numbers. -/
def Value.datum : Value → Datum
  | int n => .number n.toInt
  | bigInt n => .number n.toInt
  | bigUnsigned n => .number n.toNat
  | text s => .text s
  | bool b => .bool b
  | bytes bs => .bytes bs
  | null _ => .null

/-- A row of a table: the datum of each column. -/
abbrev Row := String → Datum

/-- The row of a table that nothing joins. -/
def Row.absent : Row := fun _ => .null

/-- The rows of each table. -/
abbrev Database := String → List Row

/-- A joined row: the rows of the tables under the names that the statement gives them, that of
the source first. -/
abbrev Frame := List (String × Row)

/-- The name of a table in a statement. -/
def Table.calledAs (t : Table) : String :=
  t.label.getD t.name

/-- The datum of a column. A column of no named table is one of the source. -/
def Column.datum (c : Column) (frame : Frame) : Datum :=
  match c.table with
  | some t =>
    match frame.lookup t with
    | some row => row c.name
    | none => .null
  | none =>
    match frame with
    | (_, row) :: _ => row c.name
    | [] => .null

/-! ## Expressions -/

/-- The truth value of a datum, if it has one. -/
def Datum.truth? : Datum → Option Bool
  | bool b => some b
  | _ => none

/-- The datum of a truth value, absent if it is unknown. -/
def Datum.ofTruth : Option Bool → Datum
  | some b => bool b
  | none => null

/-- Compares two data. Data are equal if they are the same, so a number does not equal the text that
spells it: a column is compared with values of its own type, and a database that converts one type
to another for a comparison is not described. Only numbers are greater than others. -/
def Comparison.apply (op : Comparison) (a b : Datum) : Datum :=
  match op, a, b with
  | _, .null, _ => .null
  | _, _, .null => .null
  | eq, a, b => .bool (a = b)
  | gt, .number m, .number n => .bool (n < m)
  | gt, _, _ => .bool false

/-- The truth value of a connective: known if one operand decides it or both are known. -/
def Connective.apply (op : Connective) (a b : Option Bool) : Option Bool :=
  match op, a, b with
  | and, some false, _ => some false
  | and, _, some false => some false
  | and, some true, some true => some true
  | or, some true, _ => some true
  | or, _, some true => some true
  | or, some false, some false => some false
  | _, _, _ => none

/-- The number that a datum counts for in a sum. -/
def Datum.summand? : Datum → Option Int
  | number n => some n
  | _ => none

/-- The aggregate of the data of a group. Absent data do not count, and a sum of none is absent. -/
def Aggregate.apply (op : Aggregate) (ds : List Datum) : Datum :=
  match op with
  | count => .number (ds.filter (· ≠ .null)).length
  | sum =>
    match ds.filterMap Datum.summand? with
    | [] => .null
    | n :: ns => .number ((n :: ns).foldr (· + ·) 0)

/-- The datum of an expression at a row of a group. -/
def Expr.eval (group : List Frame) : Expr → Frame → Datum
  | column c, frame => c.datum frame
  | value v, _ => v.datum
  | compare op l r, frame => op.apply (l.eval group frame) (r.eval group frame)
  | logical op l r, frame =>
    .ofTruth (op.apply (l.eval group frame).truth? (r.eval group frame).truth?)
  | not e, frame => .ofTruth ((e.eval group frame).truth?.map (!·))
  | aggregate op e, _ => op.apply (group.map (e.eval group))
  | choose c y n, frame =>
    if c.eval group frame = .bool true then y.eval group frame else n.eval group frame

/-- Whether a condition holds at a row of a group. Without a condition every row passes. -/
def holds (condition : Option Expr) (group : List Frame) (frame : Frame) : Bool :=
  match condition with
  | none => true
  | some e => e.eval group frame = .bool true

/-! ## Statements -/

/-- The joined rows that begin with `frame`. -/
def Join.matching (j : Join) (rows : List Row) (frame : Frame) : List Frame :=
  (rows.map fun row => frame ++ [(j.table.calledAs, row)]).filter fun f =>
    holds (some j.condition) [f] f

/-- Joins a table. `names` are the names of the tables before it. -/
def Join.apply (j : Join) (db : Database) (names : List String) (frames : List Frame) :
    List Frame :=
  let rows := db j.table.name
  let absentAfter (frame : Frame) : List Frame := [frame ++ [(j.table.calledAs, Row.absent)]]
  match j.kind with
  | .inner => frames.flatMap (j.matching rows)
  | .left =>
    frames.flatMap fun frame =>
      if (j.matching rows frame).isEmpty then absentAfter frame else j.matching rows frame
  | .right =>
    rows.flatMap fun row =>
      let joined := frames.flatMap (j.matching [row])
      if joined.isEmpty then
        [names.map (fun name => (name, Row.absent)) ++ [(j.table.calledAs, row)]]
      else joined

/-- Joins tables in order. -/
def joinAll (db : Database) : List Join → List String → List Frame → List Frame
  | [], _, frames => frames
  | j :: js, names, frames =>
    joinAll db js (names ++ [j.table.calledAs]) (j.apply db names frames)

namespace Select

/-- The joined rows that pass the condition on rows. -/
def frames (db : Database) (s : Select) : List Frame :=
  let name := s.source.calledAs
  (joinAll db s.joins [name] ((db s.source.name).map fun row => [(name, row)])).filter fun f =>
    holds s.condition [f] f

/-- The rows by the datum of the column that groups them, or each row alone. -/
def groups (db : Database) (s : Select) : List (List Frame) :=
  match s.groupBy with
  | none => (s.frames db).map ([·])
  | some c =>
    let keys := ((s.frames db).map c.datum).eraseDups
    keys.map fun key => (s.frames db).filter (c.datum · = key)

/-- The groups of which the condition on groups holds. -/
def selected (db : Database) (s : Select) : List (List Frame) :=
  (s.groups db).filter fun group => holds s.having group (group.headD [])

/-- What a statement returns for a group: single data under names, and whole rows. -/
inductive Part where
  | datum (name : String) (d : Datum)
  | row (r : Row)

/-- The parts of an item. -/
def parts (group : List Frame) (frame : Frame) : Item → List Part
  | .column c => [.datum c.name (c.datum frame)]
  | .all none => frame.map fun entry => .row entry.2
  | .all (some t) => ((frame.lookup t).map Part.row).toList
  | .named e label => [.datum label (e.eval group frame)]

/-- What a statement returns. -/
def results (db : Database) (s : Select) : List (List Part) :=
  (s.selected db).map fun group => s.items.flatMap (parts group (group.headD []))

end Select

end TagSelect.Sql
