import TagSelect.Proofs.Lexing
import TagSelect.Proofs.Lowering
import TagSelect.Proofs.TreeWalk

/-!
# Levels and height

The parser bounds the levels that it holds at one moment, the compiler bounds the height of the
tree, and the two bounds are not the same. An operand after the `k`-th operator of a chain is read
with `k` levels held, but in the tree of the chain it stands under the operators after it : the
first operand of a chain of `n` operators holds no level and stands under all `n`.

`Phrase.height_filter` reads the height of a filter off the phrase : under the `k`-th of `n`
operators an operand stands `n - k + 1` deep, a negation adds one, and parentheses add nothing.
A text is overgrown (`Overgrown`) if its phrase keeps to the levels and the height of the phrase
is above the limit. `overgrown_iff_tooDeep` says that the texts that are read as a filter which is
too high to be compiled are the overgrown ones, and `negations_overgrown` is one of them.
-/

namespace TagSelect

namespace Filter

/-! ## The height of a filter -/

theorem height_join (op : Operator) (l r : Filter) :
    (op.join l r).height = max l.height r.height + 1 := by
  cases op <;> rfl

/-! ## The height of a phrase -/

/-- The number of operators of a chain. -/
def Chain.length : Chain → Nat
  | .nil => 0
  | .cons _ _ rest => rest.length + 1

mutual

/-- The height of an operand. -/
def Operand.height : Operand → Nat
  | .plain _ => 0
  | .valued _ _ => 0
  | .not x => x.height + 1
  | .parens x rest => max (x.height + rest.length) rest.height

/-- The height that the operands of a chain reach, each under its operator and those after it. -/
def Chain.height : Chain → Nat
  | .nil => 0
  | .cons _ x rest => max (x.height + (rest.length + 1)) rest.height

end

/-- The height of a phrase : its first operand stands under all operators. -/
def Phrase.height (p : Phrase) : Nat :=
  max (p.first.height + p.rest.length) p.rest.height

mutual

theorem Operand.height_filter : ∀ x : Operand, x.filter.height = x.height
  | .plain _ => rfl
  | .valued _ _ => rfl
  | .not x => by rw [Operand.filter, Filter.height, Operand.height, x.height_filter]
  | .parens x rest => by
    rw [Operand.filter, Operand.height, rest.height_filterAfter, x.height_filter]

theorem Chain.height_filterAfter : ∀ (rest : Chain) (left : Filter),
    (rest.filterAfter left).height = max (left.height + rest.length) rest.height
  | .nil, left => by simp [Chain.filterAfter, Chain.length, Chain.height]
  | .cons op x rest, left => by
    rw [Chain.filterAfter, rest.height_filterAfter, height_join, x.height_filter, Chain.length,
      Chain.height]
    omega

end

/-- The height of the filter of a phrase. -/
theorem Phrase.height_filter (p : Phrase) : p.filter.height = p.height := by
  rw [Phrase.filter, p.rest.height_filterAfter, p.first.height_filter, Phrase.height]

/-! ## Overgrown texts -/

/-- A text is overgrown if its phrase keeps to the levels of a parser and stands higher than a
compiler takes. -/
def Overgrown (s : String) : Prop :=
  ∃ p : Phrase, p.words = textWords s.toList ∧ p.levels ≤ maxLevels ∧ maxDepth < p.height

/-- A filter that was read from a text is too high if the text is overgrown. -/
theorem maxDepth_lt_depth_iff {s : String} {f : Filter} (h : parse s = .ok f) :
    maxDepth < f.depth ↔ Overgrown s := by
  rw [depth_eq_height]
  have hf := (parse_eq_ok_iff s f).1 h
  constructor
  · intro hdepth
    rcases hf with ⟨-, rfl⟩ | ⟨p, hp, rfl, hle⟩
    · exact absurd hdepth (by decide)
    · exact ⟨p, hp, hle, p.height_filter ▸ hdepth⟩
  · rintro ⟨p, hp, hle, hheight⟩
    have hp' : Derives maxLevels (textWords s.toList) p.filter := Or.inr ⟨p, hp, rfl, hle⟩
    rwa [hf.unique hp', p.height_filter]

end Filter

open TagSelect.Filter

/-- Compiling a text fails for its height if the text is read as a filter that is too high. -/
theorem Compiler.compileText_eq_tooDeep {c : Compiler} {s : String} {depth limit : Nat} :
    c.compileText s = .error (.semantic (.tooDeep depth limit)) ↔
      ∃ f, parse s = .ok f ∧ maxDepth < f.depth ∧ depth = f.depth ∧ limit = maxDepth := by
  unfold compileText
  cases hs : parse s with
  | error e => simp
  | ok f =>
    simp only [Except.ok.injEq, exists_eq_left', ← compile_eq_tooDeep (c := c)]
    cases c.compile f <;> simp

/-- A filter that is read from a text keeps to the limit of a compiler unless the text is
overgrown, and the overgrown texts are the ones that every compiler refuses for their height. -/
theorem overgrown_iff_tooDeep (s : String) :
    (∀ f, parse s = .ok f → (f.depth ≤ maxDepth ↔ ¬Overgrown s)) ∧
      ∀ c : Compiler, (∃ depth limit, c.compileText s = .error (.semantic (.tooDeep depth limit))) ↔
        Overgrown s := by
  constructor
  · intro f hf
    rw [← maxDepth_lt_depth_iff hf, Nat.not_lt]
  · intro c
    constructor
    · rintro ⟨depth, limit, h⟩
      obtain ⟨f, hf, hdepth, -⟩ := Compiler.compileText_eq_tooDeep.1 h
      exact (maxDepth_lt_depth_iff hf).1 hdepth
    · intro h
      obtain ⟨p, hp, hle, -⟩ := id h
      have hf : parse s = .ok p.filter := (parse_eq_ok_iff _ _).2 (Or.inr ⟨p, hp, rfl, hle⟩)
      have hdepth := (maxDepth_lt_depth_iff hf).2 h
      exact ⟨_, _, Compiler.compileText_eq_tooDeep.2 ⟨_, hf, hdepth, rfl, rfl⟩⟩

/-! ## A chain behind negations -/

/-- The text `!…!a & b` of `n` negations. -/
def negationsText (n : Nat) : String :=
  String.ofList (List.replicate n '!' ++ "a & b".toList)

/-- The phrase of `!…!a & b`. -/
def negationsPhrase (n : Nat) : Phrase :=
  ⟨.negations n, .cons .and (.plain "b") .nil⟩

theorem parse_negationsText {n : Nat} (hn : n ≤ maxLevels) :
    parse (negationsText n) = .ok (negationsPhrase n).filter := by
  have hback : textWords "a & b".toList = [.name "a", .mark .and, .name "b"] := by
    decide +kernel
  have hchars : (negationsText n).toList = List.replicate n '!' ++ "a & b".toList :=
    String.toList_ofList
  refine (parse_eq_ok_iff _ _).2 (Or.inr ⟨negationsPhrase n, ?_, rfl, ?_⟩)
  · rw [hchars, textWords_replicate_not, hback]
    simp [negationsPhrase, Phrase.words, Chain.words, Operand.words, Operand.words_negations,
      Operator.kind]
  · have hone : 1 ≤ maxLevels := by decide
    simp only [negationsPhrase, Phrase.levels, Chain.levels, Operand.levels,
      Operand.levels_negations]
    omega

theorem depth_negationsPhrase (n : Nat) : (negationsPhrase n).filter.depth = n + 1 := by
  have hfirst : ∀ n, (Operand.negations n).height = n := by
    intro n
    induction n with
    | zero => rfl
    | succ n ih => rw [Operand.negations, Operand.height, ih]
  rw [depth_eq_height, Phrase.height_filter, negationsPhrase, Phrase.height, hfirst]
  simp only [Chain.length, Chain.height, Operand.height]
  omega

/-- One negation less than there are levels leaves room for the operator. -/
theorem negations_not_overgrown :
    parse (negationsText 255) = .ok (negationsPhrase 255).filter ∧
      (negationsPhrase 255).filter.depth = maxDepth ∧ ¬Overgrown (negationsText 255) ∧
      ¬∃ depth limit, (Compiler.mk Settings.standard TagIndex.empty).compileText
        (negationsText 255) = .error (.semantic (.tooDeep depth limit)) := by
  have hparse := parse_negationsText (n := 255) (by decide)
  have hdepth := depth_negationsPhrase 255
  obtain ⟨hlow, hrefused⟩ := overgrown_iff_tooDeep (negationsText 255)
  have hnot := (hlow _ hparse).1 (Nat.le_of_eq hdepth)
  exact ⟨hparse, hdepth, hnot, fun h => hnot ((hrefused _).1 h)⟩

/-- With as many negations as there are levels before its first tag, a chain of two tags is read,
its filter is one higher than the limit, and no compiler takes it. -/
theorem negations_overgrown :
    parse (negationsText 256) = .ok (negationsPhrase 256).filter ∧
      (negationsPhrase 256).filter.depth = maxDepth + 1 ∧
      ∀ c : Compiler,
        c.compileText (negationsText 256) = .error (.semantic (.tooDeep 257 256)) := by
  have hparse := parse_negationsText (n := 256) (by decide)
  have hdepth := depth_negationsPhrase 256
  refine ⟨hparse, hdepth, fun c => Compiler.compileText_eq_tooDeep.2 ?_⟩
  exact ⟨_, hparse, by rw [hdepth]; decide, hdepth.symm, rfl⟩

end TagSelect
