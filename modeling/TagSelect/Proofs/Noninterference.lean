import TagSelect.Proofs.Height
import TagSelect.Sql.Writer

/-!
# What a statement shows of tag names

A statement depends on the names of the tags in a filter only through the ids that the index has
for them.

Two filters are compared leaf by leaf (`Filter.Leafwise`) : they have one shape, and a relation
holds of the tag names at the same places. A relation that keeps the conditions of leaves keeps
those of filters (`Leafwise.condition_eq_ok`), one that keeps sort directives keeps the order of
the result (`Leafwise.directives_eq`), and the height is that of the shape; so a relation that keeps
both keeps statements (`Compiler.compile_eq_ok_of_leafwise`).

`compile_eq_of_sameLeaf` takes the relation to be that both names are the same directive, or that
neither is a directive and the two indexes have one id for both. Nothing else of the names is asked
for, and the statements are equal, with all their texts and values.
-/

namespace TagSelect

open Sql

/-! ## Filters of one shape -/

/-- The filters have one shape, and the relation holds of the tag names at the same places. -/
inductive Filter.Leafwise (R : TagName → TagName → Prop) : Filter → Filter → Prop
  | everything : Leafwise R .everything .everything
  | tag {n m : TagName} (h : R n m) : Leafwise R (.tag n) (.tag m)
  | not {x y : Filter} (h : Leafwise R x y) : Leafwise R (.not x) (.not y)
  | and {l r l' r' : Filter} (hl : Leafwise R l l') (hr : Leafwise R r r') :
    Leafwise R (.and l r) (.and l' r')
  | or {l r l' r' : Filter} (hl : Leafwise R l l') (hr : Leafwise R r r') :
    Leafwise R (.or l r) (.or l' r')

namespace Filter.Leafwise

variable {R : TagName → TagName → Prop} {f g : Filter}

theorem refl (hR : ∀ n, R n n) : ∀ f : Filter, Leafwise R f f
  | .everything => .everything
  | .tag n => .tag (hR n)
  | .not x => .not (refl hR x)
  | .and l r => .and (refl hR l) (refl hR r)
  | .or l r => .or (refl hR l) (refl hR r)

theorem height_eq (h : Leafwise R f g) : f.height = g.height := by
  induction h with
  | everything => rfl
  | tag _ => rfl
  | not _ ih => rw [height, height, ih]
  | and _ _ ihl ihr => rw [height, height, ihl, ihr]
  | or _ _ ihl ihr => rw [height, height, ihl, ihr]

/-- Leaves with the same directives give the same directives in reading order. -/
theorem directives_eq (hR : ∀ n m, R n m → n.sortValue? = m.sortValue?) (h : Leafwise R f g) :
    f.directives = g.directives := by
  induction h with
  | everything => rfl
  | tag h => rw [directives_tag, directives_tag, hR _ _ h]
  | not _ ih => exact ih
  | and _ _ ihl ihr => rw [directives, directives, ihl, ihr]
  | or _ _ ihl ihr => rw [directives, directives, ihl, ihr]

/-- Leaves with the same conditions, or with none, give filters with the same condition, or with
none. -/
theorem condition_eq_ok {c c' : Compiler}
    (hR : ∀ n m, R n m → ∀ e, c.leafCondition n = .ok e ↔ c'.leafCondition m = .ok e)
    (h : Leafwise R f g) (e : Expr) : c.condition f = .ok e ↔ c'.condition g = .ok e := by
  induction h generalizing e with
  | everything => exact Iff.rfl
  | tag h => exact hR _ _ h e
  | not _ ih => simp only [Compiler.condition_not_eq_ok, ih]
  | and _ _ ihl ihr => exact Compiler.condition_join_congr .and ihl ihr
  | or _ _ ihl ihr => exact Compiler.condition_join_congr .or ihl ihr

/-- Leaves with the same conditions or errors give filters with the same condition or error. -/
theorem condition_eq {c c' : Compiler}
    (hR : ∀ n m, R n m → c.leafCondition n = c'.leafCondition m) (h : Leafwise R f g) :
    c.condition f = c'.condition g := by
  induction h with
  | everything => rfl
  | tag h => exact hR _ _ h
  | not _ ih => rw [Compiler.condition, Compiler.condition, ih]
  | and _ _ ihl ihr => rw [Compiler.condition, Compiler.condition, ihl, ihr]
  | or _ _ ihl ihr => rw [Compiler.condition, Compiler.condition, ihl, ihr]

end Filter.Leafwise

/-! ## Names with one id -/

/-- Both names are the same sort directive, or neither is a directive and the first index has the
id for the first name that the second index has for the second. -/
def SameLeaf (x y : TagIndex) (n m : TagName) : Prop :=
  (∃ value, n.sortValue? = some value ∧ m.sortValue? = some value) ∨
    (n.sortValue? = none ∧ m.sortValue? = none ∧ x.find? (.name n) = y.find? (.name m))

theorem SameLeaf.sortValue?_eq {x y : TagIndex} {n m : TagName} (h : SameLeaf x y n m) :
    n.sortValue? = m.sortValue? := by
  rcases h with ⟨value, hn, hm⟩ | ⟨hn, hm, -⟩
  · rw [hn, hm]
  · rw [hn, hm]

namespace Compiler

variable {s : Settings} {x y : TagIndex} {n m : TagName} {f g : Filter}

/-- Leaves with the same conditions and directives give filters with the same statement, or with
none. -/
theorem compile_eq_ok_of_leafwise {R : TagName → TagName → Prop}
    (hcondition : ∀ n m, R n m → ∀ e,
      (Compiler.mk s x).leafCondition n = .ok e ↔ (Compiler.mk s y).leafCondition m = .ok e)
    (hsort : ∀ n m, R n m → n.sortValue? = m.sortValue?) (h : Filter.Leafwise R f g) (a : Select) :
    (Compiler.mk s x).compile f = .ok a ↔ (Compiler.mk s y).compile g = .ok a := by
  have hdepth : f.depth = g.depth := by
    rw [Filter.depth_eq_height, Filter.depth_eq_height, h.height_eq]
  simp only [compile_eq_ok, h.condition_eq_ok hcondition, h.directives_eq hsort, hdepth]

theorem leafCondition_eq_ok_of_sameLeaf (h : SameLeaf x y n m) (e : Expr) :
    (Compiler.mk s x).leafCondition n = .ok e ↔ (Compiler.mk s y).leafCondition m = .ok e := by
  rcases h with ⟨value, hn, hm⟩ | ⟨hn, hm, hid⟩
  · simp only [leafCondition_eq_ok, hn, hm, reduceCtorEq, false_and, or_false]
  · have hvalue : ∀ v, (Compiler.mk s x).idValue (.name n) = .ok v ↔
        (Compiler.mk s y).idValue (.name m) = .ok v := by
      intro v
      rw [idValue_eq_ok_iff, idValue_eq_ok_iff, hid]
    simp only [leafCondition_eq_ok, hn, hm, hvalue]

/-- Filters with the same ids and directives at their leaves have the same statement, or none. -/
theorem compile_eq_ok_of_sameLeaf (h : Filter.Leafwise (SameLeaf x y) f g) (a : Select) :
    (Compiler.mk s x).compile f = .ok a ↔ (Compiler.mk s y).compile g = .ok a :=
  compile_eq_ok_of_leafwise (fun _ _ => leafCondition_eq_ok_of_sameLeaf)
    (fun _ _ => SameLeaf.sortValue?_eq) h a

end Compiler

/-- Let two filters of one shape have, at each pair of leaves, the same sort directive, or tags with
the same id in the one index and the other. Then both have a statement or none has, the statements
are equal, and so are their texts and values in every dialect. -/
theorem compile_eq_of_sameLeaf (s : Settings) (x y : TagIndex) (f g : Filter)
    (h : Filter.Leafwise (SameLeaf x y) f g) :
    ((∃ a, (Compiler.mk s x).compile f = .ok a) ↔ ∃ b, (Compiler.mk s y).compile g = .ok b) ∧
      ∀ a b, (Compiler.mk s x).compile f = .ok a → (Compiler.mk s y).compile g = .ok b →
        a = b ∧ ∀ d : Dialect, a.inlined d = b.inlined d ∧ a.bound d = b.bound d := by
  have hsame := Compiler.compile_eq_ok_of_sameLeaf (s := s) h
  refine ⟨exists_congr hsame, fun a b ha hb => ?_⟩
  have hab : Except.ok a = Except.ok b := ((hsame a).1 ha).symm.trans hb
  obtain rfl := Except.ok.inj hab
  exact ⟨rfl, fun d => ⟨rfl, rfl⟩⟩

/-! ## A name that looks like a statement -/

/-- An index with one tag, whose name would end a literal and a statement. -/
def hostileIndex : TagIndex :=
  TagIndex.empty.insert (.name (.plain "o'brien\"; DROP TABLE tags; --")) "7"

/-- The filter of that tag, with its negation and a directive. -/
def hostileFilter : Filter :=
  .and (.not (.tag (.plain "o'brien\"; DROP TABLE tags; --"))) (.tag (.valued "sort" "newest"))

/-- An index in which `k:v` has the same id. -/
def plainIndex : TagIndex :=
  TagIndex.empty.insert (.name (.valued "k" "v")) "7"

/-- The same filter of `k:v`. -/
def plainFilter : Filter :=
  .and (.not (.tag (.valued "k" "v"))) (.tag (.valued "sort" "newest"))

theorem hostile_statement_eq :
    Filter.Leafwise (SameLeaf hostileIndex plainIndex) hostileFilter plainFilter ∧
      ∃ a, (Compiler.mk Settings.standard hostileIndex).compile hostileFilter = .ok a ∧
        (Compiler.mk Settings.standard plainIndex).compile plainFilter = .ok a := by
  have hleaves : Filter.Leafwise (SameLeaf hostileIndex plainIndex) hostileFilter plainFilter := by
    refine .and (.not (.tag (Or.inr ⟨rfl, by decide +kernel, by decide +kernel⟩))) (.tag ?_)
    exact Or.inl ⟨"newest", by decide +kernel, by decide +kernel⟩
  refine ⟨hleaves, ?_⟩
  obtain ⟨hboth, heq⟩ := compile_eq_of_sameLeaf Settings.standard _ _ _ _ hleaves
  have hok :
      ((Compiler.mk Settings.standard hostileIndex).compile hostileFilter).toBool = true := by
    decide +kernel
  cases ha : (Compiler.mk Settings.standard hostileIndex).compile hostileFilter with
  | error e => simp [ha, Except.toBool] at hok
  | ok a =>
    obtain ⟨b, hb⟩ := hboth.1 ⟨a, ha⟩
    exact ⟨a, rfl, (heq a b ha hb).1 ▸ hb⟩

end TagSelect
