import Mathlib.Order.Nat
import TagSelect.Filter

/-!
# The walk over a filter

The depth of a filter is computed by visiting its nodes one by one. It is the height of the filter.

Every subtree that waits in a walk reaches as many levels below its root as it is high. The greatest
level that is reached in this way, or was visited already (`Walk.reach`), stays the same in every
step (`Walk.reach_of_step?`) : the level of a visited node is kept, and what lies below the node is
what lies below its operands. When nothing waits any more, only the visited levels are left.

A step visits one node (`Walk.size_of_step?`), so that a walk ends after as many steps as there are
nodes in it (`Walk.exists_after_iff`). `depth_walk` says this of the walk over a whole filter.
-/

namespace TagSelect.Filter

/-- A subtree reaches no level beyond `n` if neither its root nor its operands do. -/
theorem add_height_le_iff (f : Filter) (level n : Nat) :
    level + f.height ≤ n ↔ level ≤ n ∧ ∀ x ∈ f.operands, level + 1 + x.height ≤ n := by
  cases f with
  | everything => simp [height, operands]
  | tag name => simp [height, operands]
  | not x =>
    rw [height, operands, List.forall_mem_singleton]
    omega
  | and l r =>
    rw [height, operands, List.forall_mem_cons, List.forall_mem_singleton]
    omega
  | or l r =>
    rw [height, operands, List.forall_mem_cons, List.forall_mem_singleton]
    omega

theorem size_pos (f : Filter) : 0 < f.size := by
  cases f <;> simp [size]

namespace Walk

variable {w w' : Walk} {n : Nat}

/-- The walk after a number of steps, if there are so many. -/
def after : Nat → Walk → Option Walk
  | 0, w => some w
  | n + 1, w => w.step?.bind (after n)

/-- The greatest level that was visited or that a subtree which waits reaches. -/
def reach (w : Walk) : Nat :=
  w.pending.foldr (fun p level => max (p.2 + p.1.height) level) w.deepest

theorem reach_le_iff : w.reach ≤ n ↔ w.deepest ≤ n ∧ ∀ p ∈ w.pending, p.2 + p.1.height ≤ n := by
  obtain ⟨pending, deepest⟩ := w
  induction pending with
  | nil => simp [reach]
  | cons p pending ih =>
    simp only [reach, List.foldr_cons, List.forall_mem_cons] at ih ⊢
    rw [Nat.max_le, ih, and_left_comm]

/-! ## One step -/

theorem step?_eq_none : w.step? = none ↔ w.pending = [] := by
  unfold step?
  cases w.pending <;> simp

/-- A walk can go on as long as nodes are left. -/
theorem exists_step?_iff : (∃ w', w.step? = some w') ↔ 0 < w.size := by
  unfold step? size
  cases w.pending with
  | nil => simp
  | cons p pending =>
    have := p.1.size_pos
    simp only [Option.some.injEq, exists_eq', true_iff, List.foldr_cons]
    omega

/-- A step does not change the greatest level that is reached. -/
theorem reach_of_step? (h : w.step? = some w') : w'.reach = w.reach := by
  obtain ⟨pending, deepest⟩ := w
  cases pending with
  | nil => cases h
  | cons p pending =>
    obtain ⟨f, level⟩ := p
    obtain rfl := Option.some.inj h
    -- The same numbers bound both sides : the level of the node is visited after the step, and the
    -- other levels that it reached are those of its operands.
    refine eq_of_forall_ge_iff fun n => ?_
    have hoperands :
        (∀ p ∈ (f.operands.map fun x => (x, level + 1)).reverse, p.2 + p.1.height ≤ n) ↔
          ∀ x ∈ f.operands, level + 1 + x.height ≤ n := by
      simp
    rw [reach_le_iff, reach_le_iff, List.forall_mem_append, hoperands, List.forall_mem_cons,
      add_height_le_iff, Nat.max_le, and_assoc, and_assoc]

/-! ## A whole walk -/

theorem finish_of_step? (h : w.step? = some w') : w.finish = w'.finish := by
  rw [finish.eq_def]
  split
  · next hnone => cases h.symm.trans hnone
  · next hsome => rw [Option.some.inj (h.symm.trans hsome)]

theorem finish_of_pending_eq_nil (h : w.pending = []) : w.finish = w.deepest := by
  rw [finish.eq_def]
  split
  · rfl
  · next hsome => cases hsome.symm.trans (step?_eq_none.2 h)

/-- What a walk finds is the greatest level that is reached when it begins. -/
theorem finish_eq_reach (w : Walk) : w.finish = w.reach := by
  fun_induction finish w with
  | case1 w hnone => rw [reach, step?_eq_none.1 hnone, List.foldr_nil]
  | case2 w w' hsome ih => rw [ih, reach_of_step? hsome]

/-- A walk has as many steps as nodes are left in it. -/
theorem exists_after_iff (n : Nat) (w : Walk) : (∃ w', w.after n = some w') ↔ n ≤ w.size := by
  induction n generalizing w with
  | zero => simp [after]
  | succ n ih =>
    rw [after]
    cases hstep : w.step? with
    | none =>
      have hsize : ¬0 < w.size := mt exists_step?_iff.2 (by simp [hstep])
      simp only [Option.bind_none, reduceCtorEq, exists_false, false_iff]
      omega
    | some w' =>
      have hsize := size_of_step? hstep
      rw [Option.bind_some, ih]
      omega

/-- Steps take nodes away, and do not change what the walk finds. -/
theorem after_eq_some (h : w.after n = some w') : w'.size + n = w.size ∧ w'.finish = w.finish := by
  induction n generalizing w with
  | zero =>
    obtain rfl := Option.some.inj h
    exact ⟨rfl, rfl⟩
  | succ n ih =>
    obtain ⟨w₁, hstep, hafter⟩ := Option.bind_eq_some_iff.1 h
    obtain ⟨hsize, hfinish⟩ := ih hafter
    have := size_of_step? hstep
    exact ⟨by omega, hfinish.trans (finish_of_step? hstep).symm⟩

theorem size_start (f : Filter) : (start f).size = f.size :=
  Nat.add_zero _

end Walk

theorem depth_eq_height (f : Filter) : f.depth = f.height := by
  rw [depth, Walk.finish_eq_reach]
  simp [Walk.reach, Walk.start]

/-- The walk over a filter visits as many nodes as the filter has. Then nothing waits, and the
greatest level that was visited is the depth. It is the height of the filter : none for a leaf, and
else one more than that of the operand, or than the greater one of the two operands. -/
theorem depth_walk (f : Filter) :
    (∀ n, (∃ w, (Walk.start f).after n = some w) ↔ n ≤ f.size) ∧
      (∃ w, (Walk.start f).after f.size = some w ∧ w.pending = [] ∧ w.deepest = f.depth) ∧
      f.depth = f.height ∧
      f.depth = match f with
        | everything => 0
        | tag _ => 0
        | not x => 1 + x.height
        | and l r => 1 + max l.height r.height
        | or l r => 1 + max l.height r.height := by
  have hsteps : ∀ n, (∃ w, (Walk.start f).after n = some w) ↔ n ≤ f.size := fun n => by
    rw [Walk.exists_after_iff, Walk.size_start]
  refine ⟨hsteps, ?_, f.depth_eq_height, ?_⟩
  · obtain ⟨w, hw⟩ := (hsteps f.size).2 le_rfl
    obtain ⟨hsize, hfinish⟩ := Walk.after_eq_some hw
    have hend : w.pending = [] := by
      rw [Walk.size_start] at hsize
      rw [← Walk.step?_eq_none, Option.eq_none_iff_forall_ne_some]
      intro w' hw'
      have := Walk.exists_step?_iff.1 ⟨w', hw'⟩
      omega
    exact ⟨w, hw, hend, (Walk.finish_of_pending_eq_nil hend).symm.trans hfinish⟩
  · rw [depth_eq_height]
    cases f <;> simp only [height, Nat.add_comm 1]

end TagSelect.Filter
