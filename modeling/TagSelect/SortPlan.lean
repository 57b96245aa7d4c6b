import TagSelect.Filter

/-!
# The order of a result

A filter can say how its result is ordered: the tag names `sort:newest`, `sort:oldest` and
`sort:random` are directives and not tags. Directives are followed in reading order wherever they
stand in the filter, so the last ones decide. Other values of `sort` have no effect.
-/

namespace TagSelect

/-- By what a result is ordered. -/
inductive SortKey where
  | timestamp
  | random
deriving DecidableEq, Repr

/-- The direction of an order. -/
inductive Direction where
  | ascending
  | descending
deriving DecidableEq, Repr

/-- The value of a sort directive, if the tag name is one. -/
def TagName.sortValue? : TagName → Option String
  | .valued key value => if key = "sort" then some value else none
  | .plain _ => none

/-- What a sort directive asks for. -/
inductive Directive where
  | newest
  | oldest
  | random
deriving DecidableEq, Repr

/-- The directive that a value stands for. -/
def Directive.ofValue? (value : String) : Option Directive :=
  if value = "newest" then some .newest
  else if value = "oldest" then some .oldest
  else if value = "random" then some .random
  else none

/-- The order of a result. -/
structure SortPlan where
  key : SortKey
  direction : Direction
deriving DecidableEq, Repr

namespace SortPlan

/-- The order of a result when no directive says otherwise: the oldest first. -/
def initial : SortPlan :=
  ⟨.timestamp, .ascending⟩

/-- Follows a directive. A random order keeps the direction. -/
def follow (p : SortPlan) : Directive → SortPlan
  | .newest => ⟨.timestamp, .descending⟩
  | .oldest => ⟨.timestamp, .ascending⟩
  | .random => { p with key := .random }

/-- Follows the directive that a value stands for, if it stands for one. -/
def apply (p : SortPlan) (value : String) : SortPlan :=
  match Directive.ofValue? value with
  | some directive => p.follow directive
  | none => p

/-- The order after a leaf of a filter, which changes it if it is a sort directive. -/
def afterLeaf (p : SortPlan) (name : TagName) : SortPlan :=
  match name.sortValue? with
  | some value => p.apply value
  | none => p

/-- The text of an order in an event. -/
def shown (p : SortPlan) : String :=
  let key := match p.key with
    | .timestamp => "Timestamp"
    | .random => "Random"
  let direction := match p.direction with
    | .ascending => "Asc"
    | .descending => "Desc"
  "SortSession \x7b sort_by: " ++ key ++ ", sort_direction: " ++ direction ++ " \x7d"

end SortPlan

end TagSelect
