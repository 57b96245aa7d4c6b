import TagSelect.Compiler

/-!
# Steps of compiling

What compiling a filter can do, said once for each kind of filter.

Lowering carries the order of the result from leaf to leaf, and the two things that it makes do not
depend on each other. The condition is that of the filter alone (`Compiler.condition`), built from
the conditions of the operands, and the first operand that fails is the error. The order is the one
before the filter changed by the directives of the filter from left to right (`Filter.directives`),
wherever they stand in it. `Compiler.lower_eq` says both, for every order to begin with.

The height of a filter is looked at before its leaves, so a filter is refused as too deep for its
height only (`compile_eq_tooDeep`).
-/

namespace TagSelect

open Sql

/-! ## Filters with two operands -/

namespace Filter

/-- Induction on filters in which the two operators with two operands are one case. -/
@[elab_as_elim]
theorem inductionOnJoin {P : Filter → Prop} (everything : P .everything)
    (tag : ∀ name, P (.tag name)) (not : ∀ x, P x → P (.not x))
    (join : ∀ (op : Operator) (l r : Filter), P l → P r → P (op.join l r)) : ∀ f, P f
  | .everything => everything
  | .tag name => tag name
  | .not x => not x (inductionOnJoin everything tag not join x)
  | .and l r => join .and l r (inductionOnJoin everything tag not join l)
      (inductionOnJoin everything tag not join r)
  | .or l r => join .or l r (inductionOnJoin everything tag not join l)
      (inductionOnJoin everything tag not join r)

/-- The connective that an operator is lowered to. -/
def Operator.connective : Operator → Connective
  | .and => .and
  | .or => .or

theorem names_join (op : Operator) (l r : Filter) : (op.join l r).names = l.names ++ r.names := by
  cases op <;> rfl

/-- The values of the leaves `sort:value`, from left to right. -/
def directives : Filter → List String
  | everything => []
  | tag (.plain _) => []
  | tag (.valued key value) => if key = "sort" then [value] else []
  | not x => x.directives
  | and l r => l.directives ++ r.directives
  | or l r => l.directives ++ r.directives

theorem directives_tag (name : TagName) : (tag name).directives = name.sortValue?.toList := by
  cases name with
  | plain key => rfl
  | valued key value => by_cases h : key = "sort" <;> simp [directives, TagName.sortValue?, h]

theorem directives_join (op : Operator) (l r : Filter) :
    (op.join l r).directives = l.directives ++ r.directives := by
  cases op <;> rfl

end Filter

/-- The order that values of sort directives ask for, one after the other. -/
def SortPlan.ofValues (values : List String) : SortPlan :=
  values.foldl apply initial

namespace Compiler

variable {c : Compiler} {x l r f : Filter} {e : Expr} {err : CompileError}

/-! ## Lowering -/

/-- The condition on a group of association rows that a filter stands for. -/
def condition (c : Compiler) : Filter → Except CompileError Expr
  | .everything => .ok .truth
  | .tag name => c.leafCondition name
  | .not x => return .not (← c.condition x)
  | .and l r => return .and (← c.condition l) (← c.condition r)
  | .or l r => return .or (← c.condition l) (← c.condition r)

theorem condition_join (c : Compiler) (op : Filter.Operator) (l r : Filter) :
    c.condition (op.join l r) = do
      let e₁ ← c.condition l
      let e₂ ← c.condition r
      return .logical op.connective e₁ e₂ := by
  cases op <;> rfl

theorem lower_join (c : Compiler) (op : Filter.Operator) (l r : Filter) (plan : SortPlan) :
    c.lower (op.join l r) plan = do
      let (e₁, plan) ← c.lower l plan
      let (e₂, plan) ← c.lower r plan
      return (.logical op.connective e₁ e₂, plan) := by
  cases op <;> rfl

/-- A leaf changes the order as its directive asks, if it has one. -/
theorem afterLeaf_eq (plan : SortPlan) (name : TagName) :
    plan.afterLeaf name = (Filter.tag name).directives.foldl SortPlan.apply plan := by
  rw [Filter.directives_tag, SortPlan.afterLeaf]
  cases name.sortValue? <;> rfl

/-- Lowering gives the condition of the filter and applies its directives from left to right to the
order that it is given. -/
theorem lower_eq (c : Compiler) (f : Filter) (plan : SortPlan) : c.lower f plan =
    (c.condition f).map fun e => (e, f.directives.foldl SortPlan.apply plan) := by
  induction f using Filter.inductionOnJoin generalizing plan with
  | everything => rfl
  | tag name =>
    rw [lower, condition, afterLeaf_eq]
    cases c.leafCondition name <;> rfl
  | not x ih =>
    rw [lower, condition, ih, Filter.directives]
    cases c.condition x <;> rfl
  | join op l r ihl ihr =>
    -- The right operand begins with the order that the left one leaves.
    rw [lower_join, condition_join, ihl, Filter.directives_join, List.foldl_append]
    cases c.condition l with
    | error err => rfl
    | ok e₁ =>
      have hright := ihr (l.directives.foldl SortPlan.apply plan)
      simp only [Except.map, bind, Except.bind, hright]
      cases c.condition r <;> rfl

/-! ## Conditions -/

theorem condition_not_eq_ok :
    c.condition (.not x) = .ok e ↔ ∃ e', c.condition x = .ok e' ∧ e = .not e' := by
  rw [condition]
  cases c.condition x <;> simp [bind, Except.bind, pure, Except.pure, eq_comm]

theorem condition_join_eq_ok (op : Filter.Operator) : c.condition (op.join l r) = .ok e ↔
    ∃ e₁ e₂, c.condition l = .ok e₁ ∧ c.condition r = .ok e₂ ∧
      e = .logical op.connective e₁ e₂ := by
  rw [condition_join]
  cases c.condition l <;> cases c.condition r <;>
    simp [bind, Except.bind, pure, Except.pure, eq_comm]

/-- Operands with the same conditions have the same condition under an operator. -/
theorem condition_join_congr {c' : Compiler} {l' r' : Filter} (op : Filter.Operator)
    (hl : ∀ e, c.condition l = .ok e ↔ c'.condition l' = .ok e)
    (hr : ∀ e, c.condition r = .ok e ↔ c'.condition r' = .ok e) :
    c.condition (op.join l r) = .ok e ↔ c'.condition (op.join l' r') = .ok e := by
  simp only [condition_join_eq_ok, hl, hr]

theorem condition_not_eq_error :
    c.condition (.not x) = .error err ↔ c.condition x = .error err := by
  rw [condition]
  cases c.condition x <;> simp [bind, Except.bind, pure, Except.pure]

theorem condition_join_eq_error (op : Filter.Operator) : c.condition (op.join l r) = .error err ↔
    c.condition l = .error err ∨ (∃ e₁, c.condition l = .ok e₁) ∧ c.condition r = .error err := by
  rw [condition_join]
  cases c.condition l <;> cases c.condition r <;> simp [bind, Except.bind, pure, Except.pure]

/-! ## Ids -/

/-- The value of an id is made from the id alone; the name shows in errors only. -/
theorem idValue_eq_ok_iff {key : TagKey} {v : Value} :
    c.idValue key = .ok v ↔ ∃ id, c.index.find? key = some id ∧
      match c.settings.tags.idType with
      | .text => v = .text id
      | .integer => ∃ n, Text.int64? id = some n ∧ v = .bigInt n := by
  unfold idValue tagId
  cases c.index.find? key with
  | none => simp
  | some id =>
    cases c.settings.tags.idType with
    | text => simp [eq_comm]
    | integer => cases hn : Text.int64? id <;> simp [hn, eq_comm]

/-- The id of a tag in a statement is the text that the index has, or the integer that this text
denotes. -/
theorem idValue_eq_ok {key : TagKey} {v : Value} (h : c.idValue key = .ok v) :
    (∃ id, v = .text id) ∨ ∃ n, v = .bigInt n := by
  obtain ⟨id, -, hv⟩ := idValue_eq_ok_iff.1 h
  split at hv
  · exact Or.inl ⟨id, hv⟩
  · obtain ⟨n, -, rfl⟩ := hv
    exact Or.inr ⟨n, rfl⟩

/-- A leaf holds of every group if it is a directive, and else asks for a row with the id. -/
theorem leafCondition_eq_ok {name : TagName} : c.leafCondition name = .ok e ↔
    (name.sortValue? ≠ none ∧ e = .truth) ∨
      (name.sortValue? = none ∧ ∃ v, c.idValue (.name name) = .ok v ∧
        e = .anyRow (.columnIs (associationColumn c.settings.association.tagColumn) v)) := by
  unfold leafCondition
  cases name.sortValue? with
  | some value => simp [eq_comm]
  | none => cases c.idValue (.name name) <;> simp [eq_comm]

theorem idValue_ne_tooDeep (key : TagKey) (depth limit : Nat) :
    c.idValue key ≠ .error (.tooDeep depth limit) := by
  unfold idValue tagId
  cases c.index.find? key with
  | none => simp
  | some id =>
    cases c.settings.tags.idType with
    | text => simp
    | integer => cases h : Text.int64? id <;> simp [h]

/-! ## Statements -/

/-- No condition is too deep : only the height of the whole filter is. -/
theorem condition_ne_tooDeep (depth limit : Nat) (f : Filter) :
    c.condition f ≠ .error (.tooDeep depth limit) := by
  induction f using Filter.inductionOnJoin with
  | everything => simp [condition]
  | tag name =>
    have hid := c.idValue_ne_tooDeep (.name name) depth limit
    rw [condition, leafCondition]
    split
    · simp
    · split
      · next err herr => simpa [herr] using hid
      · simp
  | not x ih =>
    rw [ne_eq, condition_not_eq_error]
    exact ih
  | join op l r ihl ihr =>
    rw [ne_eq, condition_join_eq_error]
    rintro (h | ⟨-, h⟩)
    · exact ihl h
    · exact ihr h

/-- A filter that is not too high is compiled to its condition, in the order that its directives
ask for. -/
theorem compile_of_le (h : f.depth ≤ maxDepth) : c.compile f =
    (c.condition f).map fun having => entities c.settings having (.ofValues f.directives) := by
  rw [compile, if_neg (Nat.not_lt.2 h), lower_eq]
  cases c.condition f <;> rfl

theorem compile_of_lt (h : maxDepth < f.depth) :
    c.compile f = .error (.tooDeep f.depth maxDepth) := by
  rw [compile, if_pos h]

theorem compile_eq_ok {s : Select} : c.compile f = .ok s ↔ f.depth ≤ maxDepth ∧
    ∃ having, c.condition f = .ok having ∧
      s = entities c.settings having (.ofValues f.directives) := by
  rcases Nat.lt_or_ge maxDepth f.depth with h | h
  · simp [compile_of_lt h, Nat.not_le.2 h]
  · rw [compile_of_le h]
    cases c.condition f <;> simp [Except.map, h, eq_comm]

/-- A filter that is not too high has a statement if it has a condition, -/
theorem exists_compile_iff (h : f.depth ≤ maxDepth) :
    (∃ s, c.compile f = .ok s) ↔ ∃ having, c.condition f = .ok having := by
  rw [compile_of_le h]
  cases c.condition f <;> simp [Except.map]

/-- and fails if it has none, with the same error. -/
theorem compile_eq_error (h : f.depth ≤ maxDepth) :
    c.compile f = .error err ↔ c.condition f = .error err := by
  rw [compile_of_le h]
  cases c.condition f <;> simp [Except.map]

/-- A filter is refused as too deep for its height. -/
theorem compile_eq_tooDeep {depth limit : Nat} :
    c.compile f = .error (.tooDeep depth limit) ↔
      maxDepth < f.depth ∧ depth = f.depth ∧ limit = maxDepth := by
  rcases Nat.lt_or_ge maxDepth f.depth with h | h
  · simp [compile_of_lt h, h, eq_comm]
  · have hc := c.condition_ne_tooDeep depth limit f
    simp [compile_eq_error h, hc, Nat.not_lt.2 h]

end Compiler

end TagSelect
