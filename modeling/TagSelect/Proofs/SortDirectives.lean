import Mathlib.Data.List.Induction
import TagSelect.Proofs.EntityTags
import TagSelect.Proofs.Noninterference

/-!
# Sort directives

The leaves `sort:value` of a filter order its result and do nothing else.

Lowering carries the order through the whole filter, and the order at its end is that of the
directives in reading order (`Compiler.lower_eq`). So the last directives decide, wherever they
stand. The key and the direction are decided by different ones, since a random order keeps the
direction that was asked for before it : `SortPlan.ofValues_eq` gives both as the last value among
those that matter, from what one more value changes (`SortPlan.ofValues_append_singleton`).
`order_compile` says this of statements.

A directive stands for a condition that always holds. So filters that differ in the values of
directives only have one condition (`Filter.Leafwise.condition_eq`), and a directive that is joined
to a filter leaves out no group of rows (`Compiler.selected_and_truth`). `directives_order_only`
puts this together.
-/

namespace TagSelect

/-! ## The last of the values -/

/-- The last of the values that is one of `known`. -/
def lastAmong (known values : List String) : Option String :=
  (values.filter (· ∈ known)).getLast?

theorem lastAmong_append_singleton (known values : List String) (value : String) :
    lastAmong known (values ++ [value]) =
      if value ∈ known then some value else lastAmong known values := by
  by_cases h : value ∈ known <;> simp [lastAmong, List.filter_append, h]

theorem lastAmong_filter {known known' : List String} (hsub : ∀ v ∈ known, v ∈ known')
    (values : List String) :
    lastAmong known (values.filter (· ∈ known')) = lastAmong known values := by
  rw [lastAmong, List.filter_filter]
  congr 1
  refine List.filter_congr fun v _ => ?_
  by_cases h : v ∈ known
  · simp [h, hsub v h]
  · simp [h]

/-! ## The order -/

namespace SortPlan

/-- One more value : its directive is followed, if it stands for one. -/
theorem ofValues_append_singleton (values : List String) (value : String) :
    ofValues (values ++ [value]) = (ofValues values).apply value := by
  rw [ofValues, List.foldl_append]
  rfl

/-- The key is decided by the last of all directives, and the direction by the last of the two that
have one. -/
theorem ofValues_eq (values : List String) : ofValues values =
    ⟨if lastAmong ["newest", "oldest", "random"] values = some "random" then .random
      else .timestamp,
      if lastAmong ["newest", "oldest"] values = some "newest" then .descending
      else .ascending⟩ := by
  induction values using List.reverseRecOn with
  | nil => rfl
  | append_singleton values value ih =>
    rw [ofValues_append_singleton, lastAmong_append_singleton, lastAmong_append_singleton, ih]
    by_cases hnewest : value = "newest"
    · subst hnewest
      rfl
    by_cases holdest : value = "oldest"
    · subst holdest
      rfl
    by_cases hrandom : value = "random"
    · subst hrandom
      rfl
    simp [apply, Directive.ofValue?, hnewest, holdest, hrandom]

/-- Values that stand for no directive do not matter. -/
theorem ofValues_congr {values values' : List String}
    (h : values.filter (· ∈ ["newest", "oldest", "random"]) =
      values'.filter (· ∈ ["newest", "oldest", "random"])) :
    ofValues values = ofValues values' := by
  have hlast : ∀ known, (∀ v ∈ known, v ∈ ["newest", "oldest", "random"]) →
      lastAmong known values = lastAmong known values' := by
    intro known hsub
    rw [← lastAmong_filter hsub, h, lastAmong_filter hsub]
  rw [ofValues_eq, ofValues_eq, hlast _ (by simp), hlast _ (by simp)]

end SortPlan

open Sql

/-- The result of a filter is in random order if the last of its directives among `newest`, `oldest`
and `random` is `random`, and ordered by the timestamp otherwise. Its direction is descending if the
last of its directives among `newest` and `oldest` is `newest`, and ascending otherwise. Filters
with the same directives of these three have the same order, whatever other values they have. -/
theorem order_compile {c : Compiler} {f : Filter} {s : Select} (h : c.compile f = .ok s) :
    s.orderKey = some
        (if lastAmong ["newest", "oldest", "random"] f.directives = some "random" then .random
          else .column ⟨some "u", c.settings.timestampColumn⟩) ∧
      s.direction = some
        (if lastAmong ["newest", "oldest"] f.directives = some "newest" then .descending
          else .ascending) ∧
      ∀ g t, c.compile g = .ok t →
        g.directives.filter (· ∈ ["newest", "oldest", "random"]) =
          f.directives.filter (· ∈ ["newest", "oldest", "random"]) →
        t.orderKey = s.orderKey ∧ t.direction = s.direction := by
  obtain ⟨-, having, -, rfl⟩ := Compiler.compile_eq_ok.1 h
  refine ⟨?_, by rw [SortPlan.ofValues_eq, Compiler.entities], fun g t ht hsame => ?_⟩
  · rw [SortPlan.ofValues_eq, Compiler.entities]
    by_cases hlast : lastAmong ["newest", "oldest", "random"] f.directives = some "random"
    · simp [hlast]
    · simp [hlast, Compiler.entityColumn]
  · obtain ⟨-, having', -, rfl⟩ := Compiler.compile_eq_ok.1 ht
    rw [SortPlan.ofValues_congr hsame]
    exact ⟨rfl, rfl⟩

/-- In `!sort:newest | sort:random & sort:sideways` the value `random` decides the key, `newest` the
direction, and `sideways` nothing : the order is that of `sort:newest & sort:random`. -/
theorem order_sample : ∃ s t,
    Compiler.sampleCompiler.compile
      (.and (.or (.not (.tag (.valued "sort" "newest"))) (.tag (.valued "sort" "random")))
        (.tag (.valued "sort" "sideways"))) = .ok s ∧
    Compiler.sampleCompiler.compile
      (.and (.tag (.valued "sort" "newest")) (.tag (.valued "sort" "random"))) = .ok t ∧
    s.orderKey = some .random ∧ s.direction = some .descending ∧
    t.orderKey = s.orderKey ∧ t.direction = s.direction := by
  obtain ⟨s, hs⟩ := (Compiler.exists_compile_iff (c := Compiler.sampleCompiler)
    (f := .and (.or (.not (.tag (.valued "sort" "newest"))) (.tag (.valued "sort" "random")))
      (.tag (.valued "sort" "sideways"))) (by decide +kernel)).2 ⟨_, rfl⟩
  obtain ⟨t, ht⟩ := (Compiler.exists_compile_iff (c := Compiler.sampleCompiler)
    (f := .and (.tag (.valued "sort" "newest")) (.tag (.valued "sort" "random")))
      (by decide +kernel)).2 ⟨_, rfl⟩
  obtain ⟨hkey, hdirection, hsame⟩ := order_compile hs
  exact ⟨s, t, hs, ht, hkey, hdirection, hsame _ t ht (by decide +kernel)⟩

/-! ## Directives and conditions -/

/-- The same name, or two directives. -/
def SameUpToDirective (n m : TagName) : Prop :=
  n = m ∨ ∃ v w, n = .valued "sort" v ∧ m = .valued "sort" w

namespace Compiler

variable {c : Compiler} {f g : Filter}

theorem leafCondition_sort (c : Compiler) (value : String) :
    c.leafCondition (.valued "sort" value) = .ok .truth :=
  rfl

theorem leafCondition_eq_of_sameUpToDirective {n m : TagName} (h : SameUpToDirective n m) :
    c.leafCondition n = c.leafCondition m := by
  rcases h with rfl | ⟨v, w, rfl, rfl⟩
  · rfl
  · rw [leafCondition_sort, leafCondition_sort]

/-- A condition that always holds leaves out no group that another condition lets pass. -/
theorem selected_and_truth (s : Settings) (having : Expr) (plan plan' : SortPlan) (db : Database) :
    (entities s (having.and .truth) plan).selected db = (entities s having plan').selected db := by
  refine List.filter_congr fun group _ => ?_
  have htruth : ∀ frame, Expr.truth.eval group frame = .bool true := fun _ => rfl
  simp [entities, holds, eval_and_eq_true, htruth]

/-- A filter with a directive joined to it has the filter's condition and one that always
holds. -/
theorem condition_and_sort_eq_ok {value : String} {e : Expr} :
    c.condition (.and f (.tag (.valued "sort" value))) = .ok e ↔
      ∃ having, c.condition f = .ok having ∧ e = having.and .truth := by
  refine (condition_join_eq_ok .and).trans ?_
  simp [condition, leafCondition_sort, Expr.and, Filter.Operator.connective]

/-- It fails as the filter does. -/
theorem condition_and_sort_eq_error {value : String} {err : CompileError} :
    c.condition (.and f (.tag (.valued "sort" value))) = .error err ↔
      c.condition f = .error err := by
  refine (condition_join_eq_error .and).trans ?_
  simp [condition, leafCondition_sort]

end Compiler

/-- Filters that differ in the values of sort directives only fail with the same error, or have
statements that differ in their order only. A directive that is joined to a filter below the
greatest height changes neither whether nor why the filter fails, and where the filter has a
statement the two statements select the same groups of rows, hence the same entities, from every
database. -/
theorem directives_order_only (c : Compiler) :
    (∀ f g : Filter, f.Leafwise SameUpToDirective g →
      (∃ e, c.compile f = .error e ∧ c.compile g = .error e) ∨
      ∃ s t, c.compile f = .ok s ∧ c.compile g = .ok t ∧ s.items = t.items ∧ s.source = t.source ∧
        s.joins = t.joins ∧ s.condition = t.condition ∧ s.groupBy = t.groupBy ∧
        s.having = t.having) ∧
    ∀ (f : Filter) (value : String), f.height < 256 →
      (∀ e, c.compile (.and f (.tag (.valued "sort" value))) = .error e ↔
        c.compile f = .error e) ∧
      ∀ s t, c.compile f = .ok s → c.compile (.and f (.tag (.valued "sort" value))) = .ok t →
        ∀ db, t.selected db = s.selected db ∧ t.results db = s.results db := by
  constructor
  · intro f g h
    have hdepth : f.depth = g.depth := by rw [f.depth_eq_height, g.depth_eq_height, h.height_eq]
    have hcondition : c.condition f = c.condition g :=
      h.condition_eq fun _ _ => Compiler.leafCondition_eq_of_sameUpToDirective
    rcases Nat.lt_or_ge maxDepth g.depth with hg | hg
    · exact Or.inl ⟨_, hdepth ▸ Compiler.compile_of_lt (hdepth ▸ hg), Compiler.compile_of_lt hg⟩
    · rw [Compiler.compile_of_le hg, Compiler.compile_of_le (hdepth ▸ hg), hcondition]
      cases c.condition g with
      | error e => exact Or.inl ⟨e, rfl, rfl⟩
      | ok having => exact Or.inr ⟨_, _, rfl, rfl, rfl, rfl, rfl, rfl, rfl, rfl⟩
  · intro f value hheight
    have hf : f.depth ≤ maxDepth := by
      rw [f.depth_eq_height]
      exact Nat.le_of_lt hheight
    have hand : (Filter.and f (.tag (.valued "sort" value))).depth ≤ maxDepth := by
      rw [Filter.depth_eq_height, Filter.height, Filter.height, Nat.max_zero]
      exact hheight
    refine ⟨fun e => ?_, fun s t hs ht db => ?_⟩
    · rw [Compiler.compile_eq_error hand, Compiler.compile_eq_error hf,
        Compiler.condition_and_sort_eq_error]
    · obtain ⟨-, having, hhaving, rfl⟩ := Compiler.compile_eq_ok.1 hs
      obtain ⟨-, having', hhaving', rfl⟩ := Compiler.compile_eq_ok.1 ht
      obtain ⟨e, he, rfl⟩ := Compiler.condition_and_sort_eq_ok.1 hhaving'
      obtain rfl := Except.ok.inj (hhaving.symm.trans he)
      have hselected := Compiler.selected_and_truth c.settings having
        (.ofValues (Filter.and f (.tag (.valued "sort" value))).directives)
        (.ofValues f.directives) db
      refine ⟨hselected, ?_⟩
      rw [Select.results, Select.results, hselected]
      rfl

/-- `!a & sort:newest`, `!a & sort:random` and `!a` : the first two have one condition, and the last
two select the same groups. -/
theorem directives_sample : ∃ r s t,
    Compiler.sampleCompiler.compile
      (.and (.not (.tag (.plain "a"))) (.tag (.valued "sort" "newest"))) = .ok r ∧
    Compiler.sampleCompiler.compile
      (.and (.not (.tag (.plain "a"))) (.tag (.valued "sort" "random"))) = .ok s ∧
    Compiler.sampleCompiler.compile (.not (.tag (.plain "a"))) = .ok t ∧
    r.having = s.having ∧
    s.selected Compiler.sampleDatabase = t.selected Compiler.sampleDatabase := by
  obtain ⟨hframe, hselected⟩ := directives_order_only Compiler.sampleCompiler
  have hleaves : Filter.Leafwise SameUpToDirective
      (.and (.not (.tag (.plain "a"))) (.tag (.valued "sort" "newest")))
      (.and (.not (.tag (.plain "a"))) (.tag (.valued "sort" "random"))) :=
    .and (.not (.tag (Or.inl rfl))) (.tag (Or.inr ⟨_, _, rfl, rfl⟩))
  obtain ⟨t, ht⟩ := (Compiler.exists_compile_iff (c := Compiler.sampleCompiler)
    (f := .not (.tag (.plain "a"))) (by decide +kernel)).2 ⟨_, rfl⟩
  have herror := (hselected (.not (.tag (.plain "a"))) "random" (by decide)).1
  rcases hframe _ _ hleaves with ⟨e, -, he⟩ | ⟨r, s, hr, hs, -, -, -, -, -, hhaving⟩
  · rw [(herror e).1 he] at ht
    cases ht
  · exact ⟨r, s, t, hr, hs, ht, hhaving, ((hselected _ "random" (by decide)).2 t s ht hs _).1⟩

end TagSelect
