import Mathlib.Data.List.Basic
import TagSelect.Sql.Eval

/-!
# Groups of joined rows

Facts about statements that join one table to another on equal columns and group the joined rows
by the id of the first table.

An id column that is present and different in all rows (`Keyed`) makes the groups the blocks of
joined rows of single rows of the first table : `groups_flatMap` says so for any blocks, and
`Join.matching_columnsAgree` gives the blocks. On a group, which has at least one row,
`Expr.anyRow` is never unknown and says that some row satisfies its condition
(`Expr.eval_anyRow`).
-/

namespace TagSelect.Sql

/-- The ids in a column of a table are present and pairwise different. -/
def Keyed (rows : List Row) (column : String) : Prop :=
  (rows.map (· column)).Nodup ∧ ∀ row ∈ rows, row column ≠ .null

instance (rows : List Row) (column : String) : Decidable (Keyed rows column) :=
  inferInstanceAs (Decidable (_ ∧ _))

/-! ## Conditions on a group -/

namespace Expr

variable {group : List Frame} {frame : Frame} {l r : Expr} {a b : Bool}

theorem eval_and (hl : l.eval group frame = .bool a) (hr : r.eval group frame = .bool b) :
    (l.and r).eval group frame = .bool (a && b) := by
  rw [Expr.and, eval, hl, hr]
  cases a <;> cases b <;> rfl

theorem eval_or (hl : l.eval group frame = .bool a) (hr : r.eval group frame = .bool b) :
    (l.or r).eval group frame = .bool (a || b) := by
  rw [Expr.or, eval, hl, hr]
  cases a <;> cases b <;> rfl

theorem eval_not (hl : l.eval group frame = .bool a) :
    (Expr.not l).eval group frame = .bool !a := by
  rw [eval, hl]
  rfl

/-- A sum of ones and zeros counts the ones. -/
theorem sum_indicator (p : Frame → Bool) :
    ∀ frames : List Frame,
      (frames.map fun f => if p f then (1 : Int) else 0).foldr (· + ·) (0 : Int) = frames.countP p
  | [] => rfl
  | f :: fs => by
    rw [List.map_cons, List.foldr_cons, sum_indicator p fs, List.countP_cons]
    split <;> simp [Int.add_comm]

/-- On a group the condition is known, and true if some row satisfies the condition on rows. -/
theorem eval_anyRow (condition : Expr) (hne : group ≠ []) :
    (anyRow condition).eval group frame =
      .bool (group.any fun f => condition.eval group f = .bool true) := by
  have hmap : group.map ((choose condition (.value (.int 1)) (.value (.int 0))).eval group) =
      (group.map fun f => if decide (condition.eval group f = .bool true) then (1 : Int)
        else 0).map Datum.number := by
    rw [List.map_map]
    refine List.map_congr_left fun f _ => ?_
    by_cases h : condition.eval group f = .bool true <;> simp [eval, h, Value.datum]
  have hsum : Aggregate.sum.apply
      (group.map ((choose condition (.value (.int 1)) (.value (.int 0))).eval group)) =
        .number (group.countP fun f => condition.eval group f = .bool true) := by
    rw [hmap, Aggregate.apply, List.filterMap_map, ← sum_indicator]
    cases group with
    | nil => exact absurd rfl hne
    | cons f fs => simp [Datum.summand?, Function.comp_def]
  show Comparison.gt.apply (Aggregate.sum.apply (group.map _)) (.number 0) = _
  rw [hsum, Comparison.apply, Datum.bool.injEq]
  rw [Bool.eq_iff_iff, List.any_eq_true, decide_eq_true_iff, ← List.countP_pos_iff]
  exact Int.natCast_pos

/-- Where no row satisfies the condition on rows, the condition is not true. It may be unknown,
which it is if there are no rows. -/
theorem eval_anyRow_ne_true {condition : Expr}
    (h : ∀ f ∈ group, condition.eval group f ≠ .bool true) :
    (anyRow condition).eval group frame ≠ .bool true := by
  rcases eq_or_ne group [] with rfl | hne
  · intro htrue
    cases htrue
  · rw [eval_anyRow condition hne]
    simpa using h

end Expr

/-! ## Joined rows -/

/-- The datum of a column of the first of two joined rows. -/
theorem Column.datum_first (x y column : String) (row row' : Row) :
    Column.datum ⟨some x, column⟩ [(x, row), (y, row')] = row column := by
  simp [Column.datum]

/-- The datum of a column of the second of two joined rows. -/
theorem Column.datum_second {x y : String} (hxy : y ≠ x) (column : String) (row row' : Row) :
    Column.datum ⟨some y, column⟩ [(x, row), (y, row')] = row' column := by
  simp [Column.datum, List.lookup_cons, beq_false_of_ne hxy]

/-- A comparison finds two data equal if they are the same and present. -/
theorem Comparison.eq_apply_eq_true {a b : Datum} :
    Comparison.eq.apply a b = .bool true ↔ a = b ∧ b ≠ .null := by
  cases a <;> cases b <;> simp [Comparison.apply]

section Join

variable {x y id link : String} {j : Join} {db : Database}

/-- The rows of the joined table with a given id in the column that links them. -/
def linked (rows : List Row) (link : String) (d : Datum) : List Row :=
  rows.filter fun row => row link = d

/-- A row with an id is joined with the rows that have this id in the other column. -/
theorem Join.matching_columnsAgree (hxy : y ≠ x) (hy : j.table.calledAs = y)
    (hc : j.condition = .columnsAgree ⟨some x, id⟩ ⟨some y, link⟩) (rows : List Row) {row : Row}
    (hrow : row id ≠ .null) :
    j.matching rows [(x, row)] =
      (linked rows link (row id)).map fun row' => [(x, row), (y, row')] := by
  rw [Join.matching, hy, List.filter_map, linked]
  refine congrArg _ (List.filter_congr fun row' _ => ?_)
  have hagree : (Expr.columnsAgree ⟨some x, id⟩ ⟨some y, link⟩).eval [[(x, row), (y, row')]]
      [(x, row), (y, row')] = Comparison.eq.apply (row id) (row' link) := by
    rw [Expr.columnsAgree, Expr.eval, Expr.eval, Expr.eval, Column.datum_first,
      Column.datum_second hxy]
  have hlink : row id = row' link ∧ row' link ≠ .null ↔ row' link = row id :=
    ⟨fun h => h.1.symm, fun h => ⟨h.symm, h ▸ hrow⟩⟩
  simp [holds, hc, hagree, Comparison.eq_apply_eq_true, hlink]

/-- An inner join on equal columns. -/
theorem Join.apply_inner (hk : j.kind = .inner) (hxy : y ≠ x) (hy : j.table.calledAs = y)
    (hc : j.condition = .columnsAgree ⟨some x, id⟩ ⟨some y, link⟩) (names : List String)
    {rows : List Row} (hrows : ∀ row ∈ rows, row id ≠ .null) :
    j.apply db names (rows.map fun row => [(x, row)]) = rows.flatMap fun row =>
      (linked (db j.table.name) link (row id)).map fun row' => [(x, row), (y, row')] := by
  simp only [Join.apply, hk, List.flatMap_map]
  exact List.flatMap_congr fun row hrow => matching_columnsAgree hxy hy hc _ (hrows row hrow)

/-- A left join on equal columns. A row without partners is joined with an absent one. -/
theorem Join.apply_left (hk : j.kind = .left) (hxy : y ≠ x) (hy : j.table.calledAs = y)
    (hc : j.condition = .columnsAgree ⟨some x, id⟩ ⟨some y, link⟩) (names : List String)
    {rows : List Row} (hrows : ∀ row ∈ rows, row id ≠ .null) :
    j.apply db names (rows.map fun row => [(x, row)]) = rows.flatMap fun row =>
      (if linked (db j.table.name) link (row id) = [] then [Row.absent]
        else linked (db j.table.name) link (row id)).map fun row' => [(x, row), (y, row')] := by
  simp only [Join.apply, hk, List.flatMap_map]
  refine List.flatMap_congr fun row hrow => ?_
  rw [matching_columnsAgree hxy hy hc _ (hrows row hrow), hy]
  by_cases hl : linked (db j.table.name) link (row id) = [] <;> simp [hl]

end Join

/-! ## Groups -/

/-- Rows that come in blocks, each with an id of its own, are grouped into these blocks. -/
theorem groups_flatMap (key : Frame → Datum) (id : Row → Datum) (block : Row → List Frame) :
    ∀ rows : List Row, (rows.map id).Nodup → (∀ row ∈ rows, ∀ f ∈ block row, key f = id row) →
      ((rows.flatMap block).map key).eraseDups.map
          (fun k => (rows.flatMap block).filter (key · = k)) =
        (rows.filter fun row => !(block row).isEmpty).map block
  | [], _, _ => rfl
  | row :: rows, hnd, hkey => by
    rw [List.map_cons, List.nodup_cons] at hnd
    have ih := groups_flatMap key id block rows hnd.2 fun r hr => hkey r (List.mem_cons_of_mem _ hr)
    have hrest : ∀ f ∈ rows.flatMap block, key f ≠ id row := by
      intro f hf h
      obtain ⟨r, hr, hfr⟩ := List.mem_flatMap.1 hf
      rw [hkey r (List.mem_cons_of_mem _ hr) f hfr] at h
      exact hnd.1 (h ▸ List.mem_map_of_mem hr)
    have hhead := hkey row List.mem_cons_self
    rw [List.flatMap_cons]
    cases hb : block row with
    | nil => simpa [hb] using ih
    | cons f fs =>
      -- The ids of this block are all the same and those of the other blocks are different.
      rw [hb] at hhead
      have hkeys : ((f :: fs ++ rows.flatMap block).map key).eraseDups =
          id row :: ((rows.flatMap block).map key).eraseDups := by
        have hfs : (fs.map key).filter (fun k => !k == id row) = [] := by
          simpa [List.filter_eq_nil_iff] using fun g hg => hhead g (List.mem_cons_of_mem _ hg)
        have hothers : ((rows.flatMap block).map key).filter (fun k => !k == id row) =
            (rows.flatMap block).map key := by
          refine List.filter_eq_self.2 fun k hk => ?_
          obtain ⟨g, hg, rfl⟩ := List.mem_map.1 hk
          simpa using hrest g hg
        rw [List.cons_append, List.map_cons, List.eraseDups_cons, List.map_append,
          hhead f List.mem_cons_self, List.filter_append, hfs, hothers, List.nil_append]
      have hown : (f :: fs ++ rows.flatMap block).filter (key · = id row) = f :: fs := by
        rw [List.filter_append, List.filter_eq_self.2, List.filter_eq_nil_iff.2, List.append_nil]
        · simpa using hrest
        · simpa using hhead
      rw [hkeys, List.map_cons, hown, List.filter_cons_of_pos (by simp [hb]), List.map_cons, hb,
        ← ih]
      refine congrArg _ (List.map_congr_left fun k hk => ?_)
      obtain ⟨g, hg, rfl⟩ := List.mem_map.1 (List.mem_eraseDups.1 hk)
      rw [List.filter_append, List.filter_eq_nil_iff.2, List.nil_append]
      intro f' hf'
      simpa [hhead f' hf'] using (hrest g hg).symm

end TagSelect.Sql
