/-!
# Filters

A filter says which entities are wanted by the tags that they carry. Its leaves are tag names
and the filter that everything passes; its operators are negation, conjunction and disjunction.

`Filter.height` is the number of operators on the longest way from the root to a leaf.
`Filter.depth` computes it by a walk (`Filter.Walk`) with a list of the subtrees that wait instead
of recursion, so that a tree of any depth is measured.
-/

namespace TagSelect

/-- The name of a tag: a key alone, or a key with a value. -/
inductive TagName where
  | plain (key : String)
  | valued (key value : String)
deriving DecidableEq, Repr

/-- The name under which a tag is filed: the key, or key and value with a colon between. -/
def TagName.canonical : TagName → String
  | .plain key => key
  | .valued key value => key ++ ":" ++ value

/-- A condition on the tags of an entity. -/
inductive Filter where
  | everything
  | tag (name : TagName)
  | not (operand : Filter)
  | and (left right : Filter)
  | or (left right : Filter)
deriving DecidableEq, Repr

namespace Filter

/-- The number of operators on the longest way from the root to a leaf. -/
def height : Filter → Nat
  | everything => 0
  | tag _ => 0
  | not x => x.height + 1
  | and l r => max l.height r.height + 1
  | or l r => max l.height r.height + 1

/-- The number of nodes. -/
def size : Filter → Nat
  | everything => 1
  | tag _ => 1
  | not x => x.size + 1
  | and l r => l.size + r.size + 1
  | or l r => l.size + r.size + 1

/-- The filters that the operator at the root is applied to. -/
def operands : Filter → List Filter
  | everything => []
  | tag _ => []
  | not x => [x]
  | and l r => [l, r]
  | or l r => [l, r]

/-- A walk over the nodes of a filter: the subtrees that wait to be visited, each with the level of
its root, and the greatest level that was visited. The subtree that waits first was added last. -/
structure Walk where
  pending : List (Filter × Nat)
  deepest : Nat
deriving DecidableEq, Repr

namespace Walk

/-- Nothing is visited yet, and the root of the filter is at level zero. -/
def start (f : Filter) : Walk :=
  ⟨[(f, 0)], 0⟩

/-- Visits the first subtree that waits. Its operands are added from left to right, one level
deeper. -/
def step? (w : Walk) : Option Walk :=
  match w.pending with
  | [] => none
  | (f, level) :: pending =>
    some ⟨(f.operands.map fun x => (x, level + 1)).reverse ++ pending, max w.deepest level⟩

/-- The number of nodes of the subtrees that wait. -/
def size (w : Walk) : Nat :=
  w.pending.foldr (fun p n => p.1.size + n) 0

/-- Visiting a node leaves one node less. -/
theorem size_of_step? {w w' : Walk} (h : w.step? = some w') : w'.size + 1 = w.size := by
  obtain ⟨pending, deepest⟩ := w
  cases pending with
  | nil => cases h
  | cons p pending =>
    obtain ⟨f, level⟩ := p
    obtain rfl := Option.some.inj h
    cases f <;> simp [size, operands, Filter.size] <;> omega

/-- The greatest level when nothing waits any more. -/
def finish (w : Walk) : Nat :=
  match _ : w.step? with
  | none => w.deepest
  | some w' => w'.finish
termination_by w.size
decreasing_by
  have := size_of_step? ‹_›
  omega

end Walk

/-- The height of a filter, computed without recursion on the tree. -/
def depth (f : Filter) : Nat :=
  (Walk.start f).finish

/-- The tag names at the leaves, from left to right. -/
def names : Filter → List TagName
  | everything => []
  | tag name => [name]
  | not x => x.names
  | and l r => l.names ++ r.names
  | or l r => l.names ++ r.names

end Filter

end TagSelect
