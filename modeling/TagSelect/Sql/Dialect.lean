import TagSelect.Sql.Value

/-!
# Dialects

Three dialects of SQL differ in how they quote names, write literals, number placeholders and
call the function that gives a random order. All of that is said here, once for each dialect.

A quoted name doubles the quotation mark that it contains. A text literal doubles the quotes it
contains or escapes with backslashes, as the dialect has it.
-/

namespace TagSelect.Sql

/-- A dialect of SQL. -/
inductive Dialect where
  | postgres
  | sqlite
  | mysql
deriving DecidableEq, Repr

namespace Dialect

instance : Inhabited Dialect := ⟨.postgres⟩

/-- The dialect that is used where none is named. -/
def standard : Dialect := .postgres

/-- The name of a dialect. -/
def shown : Dialect → String
  | postgres => "postgres"
  | sqlite => "sqlite"
  | mysql => "mysql"

/-- A letter of the ASCII alphabet in lower case, and any other character as it is. -/
def lowerAscii (s : String) : String :=
  String.ofList (s.toList.map Char.toLower)

/-- Reads the name of a dialect in any case. The error is the name in lower case. -/
def ofName (s : String) : Except String Dialect :=
  let name := lowerAscii s
  if name = "postgres" || name = "postgresql" || name = "pg" then .ok postgres
  else if name = "sqlite" then .ok sqlite
  else if name = "mysql" then .ok mysql
  else .error name

/-- The message about a name that no dialect has. -/
def unknownMessage (name : String) : String :=
  "unknown SQL dialect '" ++ name ++ "'"

/-! ## Names -/

/-- The mark around a name. -/
def nameMark : Dialect → Char
  | postgres => '"'
  | sqlite => '"'
  | mysql => '\x60'

/-- The characters with every `mark` written twice. -/
def double (mark : Char) : List Char → List Char
  | [] => []
  | c :: cs => if c = mark then mark :: mark :: double mark cs else c :: double mark cs

/-- The characters between two marks, with every mark among them written twice. -/
def enclosed (mark : Char) (cs : List Char) : List Char :=
  mark :: (double mark cs ++ [mark])

/-- A quoted name. -/
def quoteName (d : Dialect) (name : String) : String :=
  String.ofList (enclosed d.nameMark name.toList)

/-! ## Literals -/

/-- A character of a literal that escapes with backslashes. -/
def escapeChar (c : Char) : List Char :=
  match c with
  | '\\' => ['\\', '\\']
  | '"' => ['\\', '"']
  | '\'' => ['\\', '\'']
  | '\x00' => ['\\', '0']
  | '\x08' => ['\\', 'b']
  | '\t' => ['\\', 't']
  | '\x1a' => ['\\', 'z']
  | '\n' => ['\\', 'n']
  | '\r' => ['\\', 'r']
  | c => [c]

/-- The characters of a literal that escapes with backslashes. -/
def escape (cs : List Char) : List Char :=
  cs.flatMap escapeChar

/-- A text literal. A literal of Postgres says that it escapes only if it does. -/
def textLiteral (d : Dialect) (s : String) : String :=
  match d with
  | sqlite => String.ofList (enclosed '\'' s.toList)
  | mysql => String.ofList ('\'' :: (escape s.toList ++ ['\'']))
  | postgres =>
    let body := '\'' :: (escape s.toList ++ ['\''])
    String.ofList (if (escape s.toList).contains '\\' then 'E' :: body else body)

/-- A literal of a byte string. -/
def bytesLiteral (d : Dialect) (bs : List UInt8) : String :=
  match d with
  | postgres => "'\\x" ++ hexBytes bs ++ "'"
  | sqlite => "x'" ++ hexBytes bs ++ "'"
  | mysql => "x'" ++ hexBytes bs ++ "'"

/-- The literal of a value. -/
def literal (d : Dialect) : Value → String
  | .int n => toString n.toInt
  | .bigInt n => toString n.toInt
  | .bigUnsigned n => toString n.toNat
  | .text s => d.textLiteral s
  | .bool true => "TRUE"
  | .bool false => "FALSE"
  | .bytes bs => d.bytesLiteral bs
  | .null _ => "NULL"

/-! ## Placeholders and functions -/

/-- The placeholder of the value with the given number, counted from one. -/
def placeholder (d : Dialect) (n : Nat) : String :=
  match d with
  | postgres => "$" ++ toString n
  | sqlite => "?"
  | mysql => "?"

/-- The call that gives a random order. -/
def randomCall : Dialect → String
  | postgres => "RANDOM()"
  | sqlite => "RANDOM()"
  | mysql => "RAND()"

end Dialect

end TagSelect.Sql
