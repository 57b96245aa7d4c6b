import TagSelect.Filter.Printer
import TagSelect.Proofs.Lexing

/-!
# Reading printed filters

The text of a filter is read back as the filter, or not at all.

A filter that was read from a text is `everything`, or it is proper (`proper_of_parse`) : its
leaves are tags, and the texts of their names are names. The text of a proper filter is spelled by
a phrase (`exists_spells`) that stands for the filter. In this phrase every operand that is a
conjunction or a disjunction is in parentheses, also the first one of a chain, where the text that
was read may have none. So the printed text may need more levels than the one that was read, and
it is read back if the levels that it needs (`need`) are there. `parse_text_iff` says so for
filters that were read, and `group_not_read_back` is a filter whose text needs too many.
-/

namespace TagSelect

open Text TagSelect.Filter

/-! ## Proper filters -/

/-- The texts of a proper tag name are names. -/
def TagName.Proper : TagName → Prop
  | .plain key => IsName key
  | .valued key value => IsName key ∧ IsName value

namespace Filter

/-- The leaves of a proper filter are proper tag names. -/
def Proper : Filter → Prop
  | everything => False
  | tag name => name.Proper
  | not x => x.Proper
  | and l r => l.Proper ∧ r.Proper
  | or l r => l.Proper ∧ r.Proper

theorem proper_join (op : Operator) {l r : Filter} (hl : l.Proper) (hr : r.Proper) :
    (op.join l r).Proper := by
  cases op <;> exact ⟨hl, hr⟩

mutual

theorem Operand.proper_filter : ∀ x : Operand, (∀ w ∈ x.words, w.Proper) → x.filter.Proper
  | .plain key, h => h (.name key) (by simp [Operand.words])
  | .valued key value, h =>
    ⟨h (.name key) (by simp [Operand.words]), h (.name value) (by simp [Operand.words])⟩
  | .not x, h => by
    have hx : ∀ w ∈ x.words, w.Proper := fun w hw => h w (by simp [Operand.words, hw])
    exact x.proper_filter hx
  | .parens x rest, h => by
    have hx : ∀ w ∈ x.words, w.Proper := fun w hw => h w (by simp [Operand.words, hw])
    have hrest : ∀ w ∈ rest.words, w.Proper := fun w hw => h w (by simp [Operand.words, hw])
    exact rest.proper_filterAfter hrest (x.proper_filter hx)

theorem Chain.proper_filterAfter : ∀ (rest : Chain) {left : Filter},
    (∀ w ∈ rest.words, w.Proper) → left.Proper → (rest.filterAfter left).Proper
  | .nil, _, _, hleft => hleft
  | .cons op x rest, _, h, hleft => by
    have hx : ∀ w ∈ x.words, w.Proper := fun w hw => h w (by simp [Chain.words, hw])
    have hrest : ∀ w ∈ rest.words, w.Proper := fun w hw => h w (by simp [Chain.words, hw])
    exact rest.proper_filterAfter hrest (proper_join op hleft (x.proper_filter hx))

end

/-- A filter that was read from a text is proper, unless everything passes it. -/
theorem proper_of_parse {s : String} {f : Filter} (h : parse s = .ok f) :
    f = .everything ∨ f.Proper := by
  rcases (parse_eq_ok_iff s f).1 h with ⟨-, rfl⟩ | ⟨p, hp, rfl, -⟩
  · exact Or.inl rfl
  · have hproper : ∀ w ∈ p.first.words ++ p.rest.words, w.Proper := by
      intro w hw
      have hw' : w ∈ textWords s.toList := by rwa [← hp]
      exact (Lexer.proper_of_mem_words _ w hw').2
    rw [List.forall_mem_append] at hproper
    exact Or.inr (p.rest.proper_filterAfter hproper.2 (p.first.proper_filter hproper.1))

/-! ## The phrase of a printed filter -/

/-- The levels that the text of a filter needs. An operand with an operator of its own is in
parentheses, which hold one. -/
def need : Filter → Nat
  | everything => 0
  | tag _ => 0
  | not x => x.need + x.isBinary.toNat + 1
  | and l r => max (l.need + l.isBinary.toNat) (r.need + r.isBinary.toNat + 1)
  | or l r => max (l.need + l.isBinary.toNat) (r.need + r.isBinary.toNat + 1)

/-- The characters do not lengthen a name before them. -/
def EndsName (cs : List Char) : Prop :=
  ∀ c ∈ cs.head?, isNameChar c = false

theorem endsName_cons {c : Char} (hc : isNameChar c = false) (cs : List Char) :
    EndsName (c :: cs) := by
  intro d hd
  cases hd
  exact hc

/-- The phrase stands for the filter, and its words are those of the filter's text. -/
structure Spells (p : Phrase) (f : Filter) : Prop where
  filter_eq : p.filter = f
  levels_eq : p.levels = f.need
  rest_eq : f.isBinary = false → p.rest = .nil
  words_eq : ∀ cs, EndsName cs → textWords (f.printOnto cs) = p.words ++ textWords cs

/-- The operand stands for the filter, and its words are those of the filter's text as the text of
an operand. -/
structure SpellsOperand (x : Operand) (f : Filter) : Prop where
  filter_eq : x.filter = f
  levels_eq : x.levels = f.need + f.isBinary.toNat
  words_eq : ∀ cs, EndsName cs →
    textWords (enclose f.isBinary f.printOnto cs) = x.words ++ textWords cs

variable {f l r : Filter} {x y : Operand}

theorem Spells.exists_operand {p : Phrase} (h : Spells p f) : ∃ x, SpellsOperand x f := by
  obtain ⟨first, rest⟩ := p
  cases hb : f.isBinary with
  | false =>
    obtain rfl : rest = .nil := h.rest_eq hb
    refine ⟨first, h.filter_eq, ?_, ?_⟩
    · simpa [Phrase.levels, Chain.levels, hb] using h.levels_eq
    · intro cs hcs
      simpa [enclose, hb, Phrase.words, Chain.words] using h.words_eq cs hcs
  | true =>
    refine ⟨.parens first rest, h.filter_eq, ?_, ?_⟩
    · have hlevels : max first.levels rest.levels = f.need := h.levels_eq
      rw [Operand.levels, hlevels, hb]
      rfl
    · intro cs hcs
      have hwords := h.words_eq (')' :: cs) (endsName_cons (by decide) cs)
      rw [hb, enclose, if_pos rfl, textWords_punctuation (k := .leftParen) rfl, hwords,
        textWords_punctuation (k := .rightParen) rfl]
      simp [Operand.words, Phrase.words]

theorem exists_spells_tag {name : TagName} (h : name.Proper) : ∃ p, Spells p (.tag name) := by
  cases name with
  | plain key =>
    exact ⟨⟨.plain key, .nil⟩, rfl, rfl, fun _ => rfl, fun cs hcs => textWords_name h hcs⟩
  | valued key value =>
    refine ⟨⟨.valued key value, .nil⟩, rfl, rfl, fun _ => rfl, fun cs hcs => ?_⟩
    have hchars : (Filter.tag (.valued key value)).printOnto cs =
        key.toList ++ ':' :: (value.toList ++ cs) := by
      simp [printOnto, TagName.canonical]
    rw [hchars, textWords_name h.1 (endsName_cons (by decide) _),
      textWords_punctuation (k := .colon) rfl, textWords_name h.2 hcs]
    rfl

theorem SpellsOperand.not (h : SpellsOperand x f) : Spells ⟨.not x, .nil⟩ f.not where
  filter_eq := by rw [Phrase.filter, Chain.filterAfter, Operand.filter, h.filter_eq]
  levels_eq := by simp [Phrase.levels, Operand.levels, Chain.levels, need, h.levels_eq]
  rest_eq _ := rfl
  words_eq cs hcs := by
    rw [printOnto, textWords_punctuation (k := .not) rfl, h.words_eq cs hcs]
    simp [Phrase.words, Operand.words, Chain.words]

theorem need_join (op : Operator) : (op.join l r).need =
    max (l.need + l.isBinary.toNat) (r.need + r.isBinary.toNat + 1) := by
  cases op <;> rfl

theorem textWords_printOnto_join (op : Operator) (hx : SpellsOperand x l) (cs : List Char) :
    textWords ((op.join l r).printOnto cs) =
      x.words ++ .mark op.kind :: textWords (enclose r.isBinary r.printOnto cs) := by
  have hstep {c : Char} {k : Token.Kind} (hc : Token.Kind.ofPunctuation? c = some k) :
      textWords (enclose l.isBinary l.printOnto
        (' ' :: c :: ' ' :: enclose r.isBinary r.printOnto cs)) =
          x.words ++ .mark k :: textWords (enclose r.isBinary r.printOnto cs) := by
    rw [hx.words_eq _ (endsName_cons (by decide) _), textWords_blank (by decide),
      textWords_punctuation hc, textWords_blank (by decide)]
  cases op with
  | and => exact hstep (c := '&') rfl
  | or => exact hstep (c := '|') rfl

theorem SpellsOperand.join (op : Operator) (hx : SpellsOperand x l) (hy : SpellsOperand y r) :
    Spells ⟨x, .cons op y .nil⟩ (op.join l r) where
  filter_eq := by
    rw [Phrase.filter, Chain.filterAfter, Chain.filterAfter, hx.filter_eq, hy.filter_eq]
  levels_eq := by
    simp [Phrase.levels, Chain.levels, need_join, hx.levels_eq, hy.levels_eq]
  rest_eq h := by cases op <;> cases h
  words_eq cs hcs := by
    rw [textWords_printOnto_join op hx, hy.words_eq cs hcs]
    simp [Phrase.words, Chain.words]

theorem exists_spells_join (op : Operator) (hl : ∃ p, Spells p l) (hr : ∃ p, Spells p r) :
    ∃ p, Spells p (op.join l r) := by
  obtain ⟨p, hp⟩ := hl
  obtain ⟨q, hq⟩ := hr
  obtain ⟨x, hx⟩ := hp.exists_operand
  obtain ⟨y, hy⟩ := hq.exists_operand
  exact ⟨_, hx.join op hy⟩

/-- The text of a proper filter is spelled by a phrase that stands for it. -/
theorem exists_spells : ∀ f : Filter, f.Proper → ∃ p, Spells p f
  | .tag _, h => exists_spells_tag h
  | .not x, h => by
    obtain ⟨p, hp⟩ := exists_spells x h
    obtain ⟨y, hy⟩ := hp.exists_operand
    exact ⟨_, hy.not⟩
  | .and l r, h => exists_spells_join .and (exists_spells l h.1) (exists_spells r h.2)
  | .or l r, h => exists_spells_join .or (exists_spells l h.1) (exists_spells r h.2)

theorem Spells.words_chars {p : Phrase} (h : Spells p f) : p.words = textWords f.chars := by
  have hnil := h.words_eq [] (by simp [EndsName])
  rw [textWords_nil, List.append_nil] at hnil
  exact hnil.symm

/-- The text of a proper filter derives the filter and no other, within the levels that the text
needs. -/
theorem derives_chars_iff (h : f.Proper) (n : Nat) (g : Filter) :
    Derives n (textWords f.chars) g ↔ g = f ∧ f.need ≤ n := by
  obtain ⟨p, hp⟩ := exists_spells f h
  have hwords := hp.words_chars
  constructor
  · rintro (⟨hnil, -⟩ | ⟨q, hq, rfl, hle⟩)
    · exact absurd (hwords.trans hnil) p.words_ne_nil
    · obtain rfl := Phrase.words_injective (hq.trans hwords.symm)
      exact ⟨hp.filter_eq, hp.levels_eq ▸ hle⟩
  · rintro ⟨rfl, hle⟩
    exact Or.inr ⟨p, hwords, hp.filter_eq, hp.levels_eq ▸ hle⟩

/-! ## Reading back -/

theorem parse_text_iff_of_proper (h : f.Proper) (g : Filter) :
    parse f.text = .ok g ↔ g = f ∧ f.need ≤ maxLevels := by
  rw [parse_eq_ok_iff, text, String.toList_ofList, derives_chars_iff h]

theorem parse_text_everything (g : Filter) : parse everything.text = .ok g ↔ g = everything := by
  have hwords : textWords everything.text.toList = [] := textWords_nil
  rw [parse_eq_ok_iff, hwords]
  constructor
  · rintro (⟨-, rfl⟩ | ⟨p, hp, -⟩)
    · rfl
    · exact absurd hp p.words_ne_nil
  · rintro rfl
    exact Or.inl ⟨rfl, rfl⟩

end Filter

/-- If a filter was read from a text, its own text is read as this filter and no other, and it is
read if the levels that it needs are there. -/
theorem parse_text_iff {s : String} {f : Filter} (h : parse s = .ok f) (g : Filter) :
    parse f.text = .ok g ↔ g = f ∧ f.need ≤ maxLevels := by
  rcases proper_of_parse h with rfl | hf
  · have hneed : everything.need ≤ maxLevels := Nat.zero_le _
    rw [parse_text_everything, and_iff_left hneed]
  · exact parse_text_iff_of_proper hf g

/-! ## A group in a chain -/

/-- The text `a & (a & !…!a) & b` of `n` negations. -/
def groupText (n : Nat) : String :=
  String.ofList ("a & (a & ".toList ++ (List.replicate n '!' ++ "a) & b".toList))

/-- The phrase of `a & (a & !…!a) & b`. The text of its filter is `(a & (a & !…!a)) & b`. -/
def groupPhrase (n : Nat) : Phrase :=
  ⟨.plain "a", .cons .and (.parens (.plain "a") (.cons .and (.negations n) .nil))
    (.cons .and (.plain "b") .nil)⟩

theorem isName_a : IsName "a" := by
  have hchars : "a".toList = ['a'] := by decide +kernel
  have hchar : isNameChar 'a' = true := by decide +kernel
  simp [IsName, hchars, hchar]

theorem words_groupPhrase (n : Nat) : (groupPhrase n).words = textWords (groupText n).toList := by
  have hname (cs : List Char) : textWords ('a' :: ' ' :: cs) = .name "a" :: textWords cs := by
    have hchars : "a".toList = ['a'] := by decide +kernel
    have hword := textWords_name isName_a (endsName_cons (c := ' ') (by decide) cs)
    rwa [hchars, List.singleton_append, textWords_blank (c := ' ') (by decide)] at hword
  have hand (cs : List Char) : textWords ('&' :: ' ' :: cs) = .mark .and :: textWords cs := by
    rw [textWords_punctuation (k := .and) rfl, textWords_blank (by decide)]
  have hfront (cs : List Char) : textWords ("a & (a & ".toList ++ cs) =
      .name "a" :: .mark .and :: .mark .leftParen :: .name "a" :: .mark .and :: textWords cs := by
    have hchars : "a & (a & ".toList = ['a', ' ', '&', ' ', '(', 'a', ' ', '&', ' '] := by
      decide +kernel
    simp only [hchars, List.cons_append, List.nil_append]
    rw [hname, hand, textWords_punctuation (k := .leftParen) rfl, hname, hand]
  have hback : textWords "a) & b".toList =
      [.name "a", .mark .rightParen, .mark .and, .name "b"] := by
    decide +kernel
  have hchars : (groupText n).toList =
      "a & (a & ".toList ++ (List.replicate n '!' ++ "a) & b".toList) := String.toList_ofList
  rw [hchars, hfront, textWords_replicate_not, hback]
  simp [groupPhrase, Phrase.words, Chain.words, Operand.words, Operand.words_negations,
    Operator.kind]

theorem parse_groupText {n : Nat} (hn : n + 3 ≤ maxLevels) :
    parse (groupText n) = .ok (groupPhrase n).filter := by
  refine (parse_eq_ok_iff _ _).2 (Or.inr ⟨groupPhrase n, words_groupPhrase n, rfl, ?_⟩)
  simp only [groupPhrase, Phrase.levels, Chain.levels, Operand.levels, Operand.levels_negations]
  omega

/-- One level less than there are leaves room for the parentheses around the first operator. -/
theorem group_read_back :
    parse (groupText 252) = .ok (groupPhrase 252).filter ∧
      parse (groupPhrase 252).filter.text = .ok (groupPhrase 252).filter := by
  have hparse := parse_groupText (n := 252) (by decide)
  exact ⟨hparse, (parse_text_iff hparse _).2 ⟨rfl, by decide +kernel⟩⟩

/-- If the group takes all levels, the chain is read as a filter of the height that a compiler
takes, and the text of the filter is not read, since it has one pair of parentheses more. -/
theorem group_not_read_back :
    parse (groupText 253) = .ok (groupPhrase 253).filter ∧
      (groupPhrase 253).filter.depth = 256 ∧
      ∀ g, parse (groupPhrase 253).filter.text ≠ .ok g := by
  have hparse := parse_groupText (n := 253) (by decide)
  have hneed : (groupPhrase 253).filter.need = maxLevels + 1 := by decide +kernel
  refine ⟨hparse, by decide +kernel, fun g hg => ?_⟩
  rcases proper_of_parse hparse with h | h
  · cases h
  · have hle := ((parse_text_iff_of_proper h g).1 hg).2
    omega

end TagSelect
