import TagSelect.Proofs.Height
import TagSelect.Proofs.RoundTrip

/-!
# Where the levels run out

A phrase that needs more levels than a parser has is refused for this reason and no other :
whatever comes before the first token that takes one level too many is read, since it belongs to a
phrase, and at this token the parser stops.

`Cursor.unary_tooDeep` and `Cursor.chain_tooDeep` run the parser along a phrase up to that token,
by recursion on the phrase. Each operand before it is read by the lemmas about phrases that need no
more levels than there are (`Cursor.unary_of_reads`), so the recursion goes down only one way.

With this, the text of a proper filter has one of two fates, and the levels that it needs decide
which (`parse_text_of_proper`). They are at most twice its height (`need_le_height`), so that a
filter of half the height that a compiler takes is always read back.
-/

namespace TagSelect

open TagSelect.Filter

variable {σ α β : Type}

/-- The step failed at a token for which there was no level. -/
def Outcome.TooDeep (o : Outcome σ α) : Prop :=
  ∃ t c levels, o = .failed (.tooDeep t) c levels

theorem Outcome.TooDeep.bind {o : Outcome σ α} (h : o.TooDeep) (k : α → Cursor σ → Outcome σ β) :
    (o.bind k).TooDeep := by
  obtain ⟨t, c, levels, rfl⟩ := h
  exact ⟨t, c, levels, rfl⟩

variable [Token.Source σ]

namespace Cursor

/-! ## Reading a phrase that is too deep -/

mutual

/-- An operand that needs more levels than are left is refused. -/
theorem unary_tooDeep : ∀ (x : Operand) {n : Nat} {c c' : Cursor σ}, n < x.levels →
    c.Reads x.words c' → c'.current.kind ≠ .colon → (c.unary n).TooDeep
  | .plain _, _, _, _, hn, _, _ => absurd hn (Nat.not_lt_zero _)
  | .valued _ _, _, _, _, hn, _, _ => absurd hn (Nat.not_lt_zero _)
  | .not x, n, c, c', hn, h, hc' => by
    obtain ⟨hk, hx⟩ := (reads_mark (by decide)).1 h
    cases n with
    | zero => exact ⟨c.current, c.advance, 0, by simp [unary, hk]⟩
    | succ n =>
      have hdeep := unary_tooDeep x (Nat.lt_of_succ_lt_succ hn) hx hc'
      simpa [unary, hk] using hdeep.bind _
  | .parens x rest, n, c, c', hn, h, _ => by
    obtain ⟨hk, hinner⟩ := (reads_mark (by decide)).1 h
    obtain ⟨c₂, hphrase, hclose⟩ := reads_append.1 hinner
    obtain ⟨c₁, hx, hrest⟩ := reads_append.1 hphrase
    have hc₂ : c₂.current.kind ≠ .colon := by simp [((reads_mark (by decide)).1 hclose).1]
    have hc₁ : c₁.current.kind ≠ .colon := kind_ne_colon_of_reads hrest hc₂
    cases n with
    | zero => exact ⟨c.current, c.advance, 0, by simp [unary, hk]⟩
    | succ n =>
      simp only [unary, hk]
      rcases Nat.lt_or_ge n x.levels with hxn | hxn
      · exact (unary_tooDeep x hxn hx hc₁).bind _
      · have hrn : n < rest.levels := by
          rw [Operand.levels] at hn
          omega
        rw [unary_of_reads x hxn hx hc₁]
        exact (chain_tooDeep rest hrn hrest hc₂).bind _

/-- A chain that needs more levels than are left is refused. -/
theorem chain_tooDeep : ∀ (rest : Chain) {n : Nat} {left : Filter} {c c' : Cursor σ},
    n < rest.levels → c.Reads rest.words c' → c'.current.kind ≠ .colon →
    (c.chain n left).TooDeep
  | .nil, _, _, _, _, hn, _, _ => absurd hn (Nat.not_lt_zero _)
  | .cons op x rest, n, left, c, c', hn, h, hc' => by
    obtain ⟨hk, hrun⟩ := (reads_mark op.kind_ne_identifier).1 h
    obtain ⟨c₁, hx, hrest⟩ := reads_append.1 hrun
    have hop : Operator.ofKind? c.current.kind = some op := Operator.ofKind?_eq_some.2 hk
    have hc₁ : c₁.current.kind ≠ .colon := kind_ne_colon_of_reads hrest hc'
    cases n with
    | zero => exact ⟨c.current, c.advance, 0, by simp [chain, hop]⟩
    | succ n =>
      rw [chain_of_operator hop]
      rcases Nat.lt_or_ge n x.levels with hxn | hxn
      · exact (unary_tooDeep x hxn hx hc₁).bind _
      · have hrn : n < rest.levels := by
          rw [Chain.levels] at hn
          omega
        rw [unary_of_reads x hxn hx hc₁]
        exact chain_tooDeep rest hrn hrest hc'

end

/-- A phrase that needs more levels than are left is refused. -/
theorem binary_tooDeep {c c' : Cursor σ} {n : Nat} (p : Phrase) (hn : n < p.levels)
    (h : c.Reads p.words c') (hc' : c'.current.kind ≠ .colon) : (c.binary n).TooDeep := by
  obtain ⟨c₁, hx, hrest⟩ := reads_append.1 h
  have hc₁ : c₁.current.kind ≠ .colon := kind_ne_colon_of_reads hrest hc'
  unfold binary
  rcases Nat.lt_or_ge n p.first.levels with hxn | hxn
  · exact (unary_tooDeep p.first hxn hx hc₁).bind _
  · have hrn : n < p.rest.levels := by
      rw [Phrase.levels] at hn
      omega
    rw [unary_of_reads p.first hxn hx hc₁]
    exact chain_tooDeep p.rest hrn hrest hc'

end Cursor

namespace Filter

/-- A text whose phrase needs more levels than a parser has is refused for its depth. -/
theorem parse_eq_tooDeep {s : String} {p : Phrase} (hp : p.words = textWords s.toList)
    (hn : maxLevels < p.levels) : ∃ t, parse s = .error (.tooDeep t) := by
  obtain ⟨e, hreads, he⟩ := Lexer.reads_ofSource (Lexer.ofString s)
  have hwords : (Lexer.ofString s).words = p.words := hp.symm
  have hstart : (Cursor.ofSource (Lexer.ofString s)).current.kind ≠ .eof := by
    intro hk
    have hnil : p.words = [] := hwords ▸ Lexer.words_eq_nil hk
    exact p.words_ne_nil hnil
  rw [hwords] at hreads
  obtain ⟨t, c, levels, hfail⟩ := Cursor.binary_tooDeep p hn hreads (by simp [he])
  refine ⟨t, ?_⟩
  simp [parse, Parser.parse, Parser.ofSource, Cursor.filter, hstart, hfail, Outcome.bind]

/-! ## Levels and height of a printed filter -/

/-- An operator adds one to the height and takes at most two levels : its own, and that of the
parentheses around it. -/
theorem need_le_height : ∀ f : Filter, f.need + f.isBinary.toNat ≤ 2 * f.height
  | .everything => Nat.le_refl _
  | .tag _ => Nat.le_refl _
  | .not x => by
    have hx := need_le_height x
    have hbinary : x.not.isBinary.toNat = 0 := rfl
    rw [need, height, hbinary]
    omega
  | .and l r => by
    have hl := need_le_height l
    have hr := need_le_height r
    have hbinary : (l.and r).isBinary.toNat = 1 := rfl
    rw [need, height, hbinary]
    omega
  | .or l r => by
    have hl := need_le_height l
    have hr := need_le_height r
    have hbinary : (l.or r).isBinary.toNat = 1 := rfl
    rw [need, height, hbinary]
    omega

end Filter

/-- The text of a proper filter is read back if it needs no more levels than a parser has, and
refused for its depth otherwise. A filter of height 128 or less is always read back. -/
theorem parse_text_of_proper (f : Filter) (h : f.Proper) :
    (f.need ≤ 256 → parse f.text = .ok f) ∧
      (256 < f.need → ∃ t, parse f.text = .error (.tooDeep t) ∧
        (SyntaxError.tooDeep t).message = "Expression nested too deeply") ∧
      (f.depth ≤ 128 → parse f.text = .ok f) := by
  have hread : f.need ≤ 256 → parse f.text = .ok f := fun hle =>
    (parse_text_iff_of_proper h f).2 ⟨rfl, hle⟩
  refine ⟨hread, fun hlt => ?_, fun hdepth => hread ?_⟩
  · obtain ⟨p, hp⟩ := exists_spells f h
    have hwords : p.words = textWords f.text.toList := by
      rw [text, String.toList_ofList, hp.words_chars]
    obtain ⟨t, ht⟩ := parse_eq_tooDeep hwords (hp.levels_eq ▸ hlt)
    exact ⟨t, ht, rfl⟩
  · have hneed := need_le_height f
    rw [depth_eq_height] at hdepth
    omega

/-- The text of a group in a chain, at the last depth that is read and the first that is not. -/
theorem group_text_read_or_refused :
    ((groupPhrase 252).filter.Proper ∧ (groupPhrase 252).filter.need = 256 ∧
        parse (groupPhrase 252).filter.text = .ok (groupPhrase 252).filter) ∧
      (groupPhrase 253).filter.Proper ∧ (groupPhrase 253).filter.need = 257 ∧
        ∃ t, parse (groupPhrase 253).filter.text = .error (.tooDeep t) := by
  have hproper : ∀ n, n + 3 ≤ maxLevels → (groupPhrase n).filter.Proper := by
    intro n hn
    rcases proper_of_parse (parse_groupText hn) with h | h
    · cases h
    · exact h
  have hlow : (groupPhrase 252).filter.need = 256 := by decide +kernel
  have hhigh : (groupPhrase 253).filter.need = 257 := by decide +kernel
  have h₁ := hproper 252 (by decide)
  have h₂ := hproper 253 (by decide)
  obtain ⟨t, ht, -⟩ := (parse_text_of_proper _ h₂).2.1 (by rw [hhigh]; decide)
  exact ⟨⟨h₁, hlow, (parse_text_of_proper _ h₁).1 (Nat.le_of_eq hlow)⟩, h₂, hhigh, t, ht⟩

end TagSelect
