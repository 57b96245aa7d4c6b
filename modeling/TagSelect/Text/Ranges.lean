/-!
# Ranges of code points

A property of characters is kept as the list of the closed ranges of code points that have
it, in increasing order. `Ranges.contains` walks the list and stops at the first range that
ends at or after the code point, and `Ranges.contains_iff` says that this finds exactly the
members of the ranges.
-/

namespace TagSelect

/-- Closed ranges of code points, each with its first and its last member. -/
abbrev Ranges := List (Nat × Nat)

namespace Ranges

/-- Every range is non-empty and ends before the next one begins. -/
def Increasing (r : Ranges) : Prop :=
  r.Pairwise (fun a b => a.2 < b.1) ∧ ∀ a ∈ r, a.1 ≤ a.2

instance (r : Ranges) : Decidable r.Increasing :=
  inferInstanceAs (Decidable (_ ∧ _))

/-- Whether a code point is in one of the ranges. -/
def contains : Ranges → Nat → Bool
  | [], _ => false
  | (lo, hi) :: rest, n => if n < lo then false else if n ≤ hi then true else contains rest n

/-- In increasing ranges the walk finds exactly the code points of some range. -/
theorem contains_iff {r : Ranges} (h : r.Increasing) (n : Nat) :
    r.contains n = true ↔ ∃ a ∈ r, a.1 ≤ n ∧ n ≤ a.2 := by
  induction r with
  | nil => simp [contains]
  | cons a rest ih =>
    obtain ⟨lo, hi⟩ := a
    obtain ⟨hp, hne⟩ := h
    rw [List.pairwise_cons] at hp
    have ih' := ih ⟨hp.2, fun b hb => hne b (List.mem_cons_of_mem _ hb)⟩
    have hlo : lo ≤ hi := hne (lo, hi) List.mem_cons_self
    rw [contains]
    split
    · next hn =>
      refine ⟨fun hf => absurd hf (by decide), ?_⟩
      rintro ⟨b, hb, h1, h2⟩
      rcases List.mem_cons.1 hb with rfl | hb
      · exact absurd hn (by omega)
      · have := hp.1 b hb
        simp only at this
        omega
    · split
      · next h1 h2 =>
        exact ⟨fun _ => ⟨(lo, hi), List.mem_cons_self, by simp only; omega⟩, fun _ => rfl⟩
      · next h1 h2 =>
        rw [ih']
        constructor
        · rintro ⟨b, hb, hbn⟩
          exact ⟨b, List.mem_cons_of_mem _ hb, hbn⟩
        · rintro ⟨b, hb, hbn⟩
          rcases List.mem_cons.1 hb with rfl | hb
          · simp only at hbn
            omega
          · exact ⟨b, hb, hbn⟩

end Ranges

end TagSelect
