import TagSelect.Filter.Reading
import TagSelect.Settings
import TagSelect.Sql.Select
import TagSelect.TagIndex
import TagSelect.Text.Integer

/-!
# Compiling filters

A compiler holds settings and an index of tags. `Compiler.compile` turns a filter into a statement
that selects the entities that pass it: entities are joined with their associations and grouped,
and the filter becomes a condition on each group, in which a tag asks for some association row
with the tag's id. The order of the result is carried through the filter from leaf to leaf, and the
sort directives change it on the way. Two more statements list the tags of an entity and look up one
association.

Compiling a filter fails for one of three reasons. A filter of more than `maxDepth` operators on
one way is refused first; then the leaves are resolved from left to right, and the first tag that
is unknown, or whose id is no integer where the settings ask for one, is the error.
-/

namespace TagSelect

open Sql

/-! ## Errors -/

/-- The greatest height of a filter that is compiled. -/
def maxDepth : Nat := 256

/-- Why a filter has no statement. -/
inductive CompileError where
  /-- The index has no tag of this canonical name. -/
  | tagNotFound (key : String)
  /-- The id of a tag is not an integer of sixty-four bits. -/
  | invalidTagId (key id : String)
  /-- The filter is higher than the limit. -/
  | tooDeep (depth limit : Nat)
deriving DecidableEq, Repr

/-- The text of the error. -/
def CompileError.message : CompileError → String
  | tagNotFound key => "Tag not found: " ++ key
  | invalidTagId key id => "Tag id '" ++ id ++ "' of '" ++ key ++ "' is not an integer"
  | tooDeep depth limit =>
    "Filter nested too deeply: depth " ++ toString depth ++ " exceeds " ++ toString limit

/-- Why a text has no statement. -/
inductive QueryError where
  | syntactic (e : SyntaxError)
  | semantic (e : CompileError)
deriving DecidableEq, Repr

namespace QueryError

/-- The text of the error. -/
def message : QueryError → String
  | syntactic e => e.diagnostic.summary
  | semantic e => "compile error: " ++ e.message

/-- Shows the error, and its place if it has one. -/
def annotate? (e : QueryError) (source : String) : Option String :=
  match e with
  | syntactic e => e.annotate? source
  | semantic _ => some ("error: " ++ e.message)

end QueryError

/-! ## Statements -/

/-- The settings and the known tags. -/
structure Compiler where
  settings : Settings
  index : TagIndex
deriving DecidableEq, Repr

namespace Compiler

/-- A column of the entities. -/
def entityColumn (name : String) : Column :=
  ⟨some "u", name⟩

/-- A column of the associations. -/
def associationColumn (name : String) : Column :=
  ⟨some "ut", name⟩

/-- A column of the tags. -/
def tagColumn (name : String) : Column :=
  ⟨some "t", name⟩

/-- The table of associations under its name in statements. -/
def associationTable (s : Settings) : Table :=
  ⟨s.association.table, some "ut"⟩

/-- The id of a tag as the index has it. -/
def tagId (c : Compiler) (key : TagKey) : Except CompileError String :=
  match c.index.find? key with
  | some id => .ok id
  | none => .error (.tagNotFound key.canonical)

/-- The value of a tag's id in a statement. -/
def idValue (c : Compiler) (key : TagKey) : Except CompileError Value :=
  match c.tagId key with
  | .error e => .error e
  | .ok id =>
    match c.settings.tags.idType with
    | .text => .ok (.text id)
    | .integer =>
      match Text.int64? id with
      | some n => .ok (.bigInt n)
      | none => .error (.invalidTagId key.canonical id)

/-- The condition on a group of association rows that a tag name stands for. A sort directive
holds of every group. -/
def leafCondition (c : Compiler) (name : TagName) : Except CompileError Expr :=
  match name.sortValue? with
  | some _ => .ok .truth
  | none =>
    match c.idValue (.name name) with
    | .error e => .error e
    | .ok v => .ok (.anyRow (.columnIs (associationColumn c.settings.association.tagColumn) v))

/-- Lowers a filter to the condition on a group of association rows that it stands for. The order
of the result is carried along: each sort directive changes what the leaves before it left. -/
def lower (c : Compiler) : Filter → SortPlan → Except CompileError (Expr × SortPlan)
  | .everything, plan => .ok (.truth, plan)
  | .tag name, plan => return (← c.leafCondition name, plan.afterLeaf name)
  | .not x, plan => do
    let (e, plan) ← c.lower x plan
    return (.not e, plan)
  | .and l r, plan => do
    let (e₁, plan) ← c.lower l plan
    let (e₂, plan) ← c.lower r plan
    return (.and e₁ e₂, plan)
  | .or l r, plan => do
    let (e₁, plan) ← c.lower l plan
    let (e₂, plan) ← c.lower r plan
    return (.or e₁ e₂, plan)

/-- The statement that selects the entities of which a condition holds. -/
def entities (s : Settings) (having : Expr) (plan : SortPlan) : Select where
  items := s.columns.map fun name => .column (entityColumn name)
  source := ⟨s.tableName, some "u"⟩
  joins := [{
    kind := if s.includeUntagged then .left else .inner
    table := associationTable s
    condition := .columnsAgree (entityColumn s.idColumn)
      (associationColumn s.association.entityColumn) }]
  condition := none
  groupBy := some (entityColumn s.idColumn)
  having := some having
  orderKey := some (match plan.key with
    | .timestamp => .column (entityColumn s.timestampColumn)
    | .random => .random)
  direction := some plan.direction

/-- The statement that selects the entities that pass a filter. -/
def compile (c : Compiler) (f : Filter) : Except CompileError Select :=
  if f.depth > maxDepth then
    .error (.tooDeep f.depth maxDepth)
  else
    match c.lower f .initial with
    | .error e => .error e
    | .ok (having, plan) => .ok (entities c.settings having plan)

/-- The statement for the text of a filter. -/
def compileText (c : Compiler) (s : String) : Except QueryError Select :=
  match Filter.parse s with
  | .error e => .error (.syntactic e)
  | .ok f =>
    match c.compile f with
    | .error e => .error (.semantic e)
    | .ok select => .ok select

/-- The statement that lists the tags of an entity, each with the number of its associations. -/
def entityTags (c : Compiler) (entity : Value) : Select where
  items := [.all (some "t"),
    .named (.count (associationColumn c.settings.association.entityColumn)) "usage_count"]
  source := ⟨c.settings.tags.table, some "t"⟩
  joins := [{
    kind := .inner
    table := associationTable c.settings
    condition := .columnsAgree (tagColumn c.settings.tags.idColumn)
      (associationColumn c.settings.association.tagColumn) }]
  condition := none
  groupBy := some (tagColumn c.settings.tags.idColumn)
  having := some (.anyRow
    (.columnIs (associationColumn c.settings.association.entityColumn) entity))
  orderKey := none
  direction := none

/-- The statement that looks up the associations of an entity with a tag. -/
def entityTag (c : Compiler) (entity : Value) (key : TagKey) : Except CompileError Select :=
  match c.idValue key with
  | .error e => .error e
  | .ok id => .ok {
      items := [.all none]
      source := ⟨c.settings.association.table, none⟩
      joins := []
      condition := some (.and
        (.columnIs ⟨none, c.settings.association.entityColumn⟩ entity)
        (.columnIs ⟨none, c.settings.association.tagColumn⟩ id))
      groupBy := none
      having := none
      orderKey := none
      direction := none }

/-! ## Events -/

/-- Whether a tag name at a leaf has a condition. -/
def resolves (c : Compiler) (name : TagName) : Bool :=
  match c.leafCondition name with
  | .ok _ => true
  | .error _ => false

/-- What a sort directive without a meaning reports. -/
def directiveEvent? (name : TagName) : Option Event :=
  match name.sortValue? with
  | some value => if (Directive.ofValue? value).isSome then none else some (.unknownSort value)
  | none => none

/-- What compiling a filter reports: the directives without a meaning, up to the first leaf that
fails, and the filter and its order if none fails. -/
def compileEvents (c : Compiler) (f : Filter) : List Event :=
  if f.depth > maxDepth then []
  else
    (f.names.takeWhile c.resolves).filterMap directiveEvent? ++
      match c.lower f .initial with
      | .ok (_, plan) => [.compiled f plan]
      | .error _ => []

/-- What compiling the text of a filter reports. -/
def compileTextEvents (c : Compiler) (s : String) : List Event :=
  match Filter.parse s with
  | .error _ => []
  | .ok f => c.compileEvents f

end Compiler

end TagSelect
