import TagSelect.SortPlan

/-!
# The meaning of a filter

Whether a filter holds of something that carries tags. A sort directive holds of everything.
-/

namespace TagSelect.Filter

/-- Whether a filter holds of what carries the tags that `carries` says. -/
def Holds (carries : TagName → Prop) : Filter → Prop
  | everything => True
  | tag name => name.sortValue?.isSome ∨ carries name
  | not x => ¬x.Holds carries
  | and l r => l.Holds carries ∧ r.Holds carries
  | or l r => l.Holds carries ∨ r.Holds carries

/-- Whether a filter holds can be decided where the tags can. -/
instance Holds.decidable (carries : TagName → Prop) [DecidablePred carries] :
    ∀ f : Filter, Decidable (f.Holds carries)
  | everything => isTrue trivial
  | tag _ => inferInstanceAs (Decidable (_ ∨ _))
  | not x =>
    have := decidable carries x
    inferInstanceAs (Decidable (¬_))
  | and l r =>
    have := decidable carries l
    have := decidable carries r
    inferInstanceAs (Decidable (_ ∧ _))
  | or l r =>
    have := decidable carries l
    have := decidable carries r
    inferInstanceAs (Decidable (_ ∨ _))

end TagSelect.Filter
