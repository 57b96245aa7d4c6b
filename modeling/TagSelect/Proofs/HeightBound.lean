import Mathlib.Tactic.Ring
import TagSelect.Proofs.Height
import TagSelect.Proofs.RoundTrip

/-!
# The greatest height that levels allow

The height of a filter that was read is bounded by the levels of the parser, though not by their
number : the first operand of a chain is read before the operators take their levels, and stands
under all of them. The bound is quadratic.

With `n + 1` levels an operand is a negation or a chain in parentheses, and either has `n` levels
left inside. A chain has at most as many operators as levels. So the greatest height of an operand
grows by `n`, or by the one of a negation where `n` is zero (`operandReach`), and a phrase adds its
operators once more : with `b` levels it is at most `b (b + 1) / 2 + 1` high (`Phrase.height_le`,
`operandReach_add_self`).

The bound is met by the phrases `deepest b`, each of which is the one before it in parentheses and
`b` more operators : `!a & a`, `(!a & a) & a & a` and so on. Every phrase of names has a text
(`textWords_chars`), so these are read from texts.

`height_bound_tight` puts both halves together.
-/

namespace TagSelect

open Text

namespace Filter

/-! ## The bound -/

/-- The greatest height of an operand that needs at most the given levels. -/
def operandReach : Nat → Nat
  | 0 => 0
  | n + 1 => operandReach n + max n 1

theorem two_mul_operandReach_succ (n : Nat) : 2 * operandReach (n + 1) = (n + 1) * n + 2 := by
  induction n with
  | zero => rfl
  | succ n ih =>
    have hmax : max (n + 1) 1 = n + 1 := by omega
    rw [operandReach, Nat.mul_add, ih, hmax]
    ring

theorem operandReach_add_self {b : Nat} (hb : 1 ≤ b) :
    operandReach b + b = b * (b + 1) / 2 + 1 := by
  obtain ⟨n, rfl⟩ := Nat.exists_eq_add_of_le' hb
  have htwice := two_mul_operandReach_succ n
  have hproduct : (n + 1) * (n + 1 + 1) = (n + 1) * n + 2 * (n + 1) := by ring
  omega

/-- A chain has at most as many operators as it needs levels. -/
theorem Chain.length_le_levels (rest : Chain) : rest.length ≤ rest.levels := by
  cases rest with
  | nil => exact Nat.le_refl _
  | cons op x rest =>
    have ih := rest.length_le_levels
    rw [Chain.length, Chain.levels]
    omega

mutual

theorem Operand.height_le : ∀ (x : Operand) {n : Nat}, x.levels ≤ n → x.height ≤ operandReach n
  | .plain _, _, _ => Nat.zero_le _
  | .valued _ _, _, _ => Nat.zero_le _
  | .not x, n + 1, h => by
    have hx : x.height ≤ operandReach n := x.height_le (Nat.le_of_succ_le_succ h)
    rw [Operand.height, operandReach]
    omega
  | .parens x rest, n + 1, h => by
    obtain ⟨hxn, hrn⟩ := Nat.max_le.1 (Nat.le_of_succ_le_succ h)
    have hx : x.height ≤ operandReach n := x.height_le hxn
    have hrest : rest.height ≤ operandReach n + n := rest.height_le hrn
    have hlength := rest.length_le_levels
    rw [Operand.height, operandReach]
    omega

theorem Chain.height_le : ∀ (rest : Chain) {n : Nat}, rest.levels ≤ n →
    rest.height ≤ operandReach n + n
  | .nil, _, _ => Nat.zero_le _
  | .cons op x rest, n + 1, h => by
    obtain ⟨hxn, hrn⟩ := Nat.max_le.1 (Nat.le_of_succ_le_succ h)
    have hx : x.height ≤ operandReach n := x.height_le hxn
    have hrest : rest.height ≤ operandReach n + n := rest.height_le hrn
    have hlength := rest.length_le_levels
    rw [Chain.height, operandReach]
    omega

end

/-- The height of a phrase is bounded by the levels that it needs. -/
theorem Phrase.height_le (p : Phrase) {n : Nat} (h : p.levels ≤ n) :
    p.height ≤ operandReach n + n := by
  obtain ⟨hfirst, hrest⟩ := Nat.max_le.1 h
  have hx := p.first.height_le hfirst
  have hr := p.rest.height_le hrest
  have hlength := p.rest.length_le_levels
  rw [Phrase.height]
  omega

end Filter

open TagSelect.Filter

section

variable {σ : Type} [Token.Source σ]

theorem Cursor.depth_le {c c' : Cursor σ} {b : Nat} {f : Filter} (h : c.binary b = .done f c') :
    f.depth ≤ operandReach b + b := by
  obtain ⟨p, rfl, hlevels, -⟩ := Cursor.exists_phrase h
  rw [depth_eq_height, p.height_filter]
  exact p.height_le hlevels

theorem Parser.depth_le {p : Parser σ} {f : Filter} (h : p.parse.1 = .ok f) :
    f.depth ≤ operandReach p.levels + p.levels := by
  obtain ⟨c', hfilter⟩ := Parser.parse_eq_ok.1 h
  rw [Cursor.filter] at hfilter
  split at hfilter
  · cases hfilter
    rw [depth_eq_height]
    exact Nat.zero_le _
  · obtain ⟨g, c₁, hbinary, hend⟩ := Outcome.bind_eq_done.1 hfilter
    obtain ⟨_, _, -, hdone⟩ := Outcome.bind_eq_done.1 hend
    cases hdone
    exact Cursor.depth_le hbinary

end

namespace Filter

/-! ## The text of a phrase -/

/-- The character of an operator. -/
def Operator.char : Operator → Char
  | .and => '&'
  | .or => '|'

theorem Operator.ofPunctuation?_char (op : Operator) :
    Token.Kind.ofPunctuation? op.char = some op.kind := by
  cases op <;> rfl

mutual

/-- The text of an operand, without white space. -/
def Operand.chars : Operand → List Char
  | .plain key => key.toList
  | .valued key value => key.toList ++ ':' :: value.toList
  | .not x => '!' :: x.chars
  | .parens x rest => '(' :: (x.chars ++ rest.chars ++ [')'])

/-- The text of a chain, without white space. -/
def Chain.chars : Chain → List Char
  | .nil => []
  | .cons op x rest => op.char :: (x.chars ++ rest.chars)

end

/-- The text of a phrase, without white space. -/
def Phrase.chars (p : Phrase) : List Char :=
  p.first.chars ++ p.rest.chars

theorem Operand.proper_parens {x : Operand} {rest : Chain} :
    (∀ w ∈ (Operand.parens x rest).words, w.Proper) ↔
      (∀ w ∈ x.words, w.Proper) ∧ ∀ w ∈ rest.words, w.Proper := by
  simp [Operand.words, Word.Proper, or_imp, forall_and]

theorem Chain.proper_cons {op : Operator} {x : Operand} {rest : Chain} :
    (∀ w ∈ (Chain.cons op x rest).words, w.Proper) ↔
      (∀ w ∈ x.words, w.Proper) ∧ ∀ w ∈ rest.words, w.Proper := by
  simp [Chain.words, Word.Proper, or_imp, forall_and]

/-- An operator ends the name before it. -/
theorem Chain.endsName_chars_append (rest : Chain) {cs : List Char} (hcs : EndsName cs) :
    EndsName (rest.chars ++ cs) := by
  cases rest with
  | nil => exact hcs
  | cons op x rest => exact endsName_cons (not_punctuation op.ofPunctuation?_char).2.1 _

mutual

theorem Operand.textWords_chars_append : ∀ (x : Operand) {cs : List Char},
    (∀ w ∈ x.words, w.Proper) → EndsName cs → textWords (x.chars ++ cs) = x.words ++ textWords cs
  | .plain key, cs, h, hcs => by
    have hkey : IsName key := h (.name key) (by simp [Operand.words])
    exact textWords_name hkey hcs
  | .valued key value, cs, h, hcs => by
    have hkey : IsName key := h (.name key) (by simp [Operand.words])
    have hvalue : IsName value := h (.name value) (by simp [Operand.words])
    rw [Operand.chars, List.append_assoc, List.cons_append,
      textWords_name hkey (endsName_cons (by decide) _), textWords_punctuation (k := .colon) rfl,
      textWords_name hvalue hcs]
    rfl
  | .not x, cs, h, hcs => by
    obtain ⟨-, hx⟩ := List.forall_mem_cons.1 h
    rw [Operand.chars, List.cons_append, textWords_punctuation (k := .not) rfl,
      x.textWords_chars_append hx hcs]
    rfl
  | .parens x rest, cs, h, hcs => by
    obtain ⟨hx, hrest⟩ := Operand.proper_parens.1 h
    have hclose : EndsName (')' :: cs) := endsName_cons (by decide) _
    have hchars : (Operand.parens x rest).chars ++ cs =
        '(' :: (x.chars ++ (rest.chars ++ ')' :: cs)) := by
      simp [Operand.chars]
    rw [hchars, textWords_punctuation (k := .leftParen) rfl,
      x.textWords_chars_append hx (rest.endsName_chars_append hclose),
      rest.textWords_chars_append hrest hclose, textWords_punctuation (k := .rightParen) rfl]
    simp [Operand.words]

theorem Chain.textWords_chars_append : ∀ (rest : Chain) {cs : List Char},
    (∀ w ∈ rest.words, w.Proper) → EndsName cs →
      textWords (rest.chars ++ cs) = rest.words ++ textWords cs
  | .nil, _, _, _ => rfl
  | .cons op x rest, cs, h, hcs => by
    obtain ⟨hx, hrest⟩ := Chain.proper_cons.1 h
    have hchars :
        (Chain.cons op x rest).chars ++ cs = op.char :: (x.chars ++ (rest.chars ++ cs)) := by
      simp [Chain.chars]
    rw [hchars, textWords_punctuation op.ofPunctuation?_char,
      x.textWords_chars_append hx (rest.endsName_chars_append hcs),
      rest.textWords_chars_append hrest hcs]
    simp [Chain.words]

end

/-- A phrase of names is the phrase of a text. -/
theorem Phrase.textWords_chars (p : Phrase) (h : ∀ w ∈ p.words, w.Proper) :
    textWords p.chars = p.words := by
  have hnil : EndsName [] := by simp [EndsName]
  obtain ⟨hfirst, hrest⟩ := List.forall_mem_append.1 h
  have hlast : textWords p.rest.chars = p.rest.words := by
    simpa [textWords_nil] using p.rest.textWords_chars_append hrest hnil
  have hends : EndsName p.rest.chars := by simpa using p.rest.endsName_chars_append hnil
  rw [Phrase.chars, p.first.textWords_chars_append hfirst hends, hlast, Phrase.words]

/-- With the levels that it needs, a phrase of names is read from its text, up to the end. -/
theorem Phrase.exists_binary_chars (p : Phrase) (h : ∀ w ∈ p.words, w.Proper) {b : Nat}
    (hb : p.levels ≤ b) :
    ∃ c', (Cursor.ofSource (Lexer.ofString (String.ofList p.chars))).binary b = .done p.filter c' ∧
      c'.current.kind = .eof := by
  obtain ⟨e, hreads, he⟩ := Lexer.reads_ofSource (Lexer.ofString (String.ofList p.chars))
  have hwords : (Lexer.ofString (String.ofList p.chars)).words = p.words := by
    rw [Lexer.ofString, String.toList_ofList]
    exact p.textWords_chars h
  rw [hwords] at hreads
  exact ⟨e, Cursor.binary_of_reads p hb hreads (by simp [he]) (by simp [he, Operator.ofKind?]), he⟩

theorem Phrase.parse_chars (p : Phrase) (h : ∀ w ∈ p.words, w.Proper) (hp : p.levels ≤ maxLevels) :
    parse (String.ofList p.chars) = .ok p.filter := by
  refine (parse_eq_ok_iff _ _).2 (Or.inr ⟨p, ?_, rfl, hp⟩)
  rw [String.toList_ofList, p.textWords_chars h]

/-! ## Phrases in parentheses -/

/-- The phrase in the given number of parentheses. -/
def Phrase.enclosed (p : Phrase) : Nat → Phrase
  | 0 => p
  | n + 1 => ⟨.parens (p.enclosed n).first (p.enclosed n).rest, .nil⟩

theorem Phrase.filter_enclosed (p : Phrase) : ∀ n, (p.enclosed n).filter = p.filter
  | 0 => rfl
  | n + 1 => p.filter_enclosed n

theorem Phrase.levels_enclosed (p : Phrase) : ∀ n, (p.enclosed n).levels = p.levels + n
  | 0 => rfl
  | n + 1 => by
    have ih : max (p.enclosed n).first.levels (p.enclosed n).rest.levels = p.levels + n :=
      p.levels_enclosed n
    simp only [Phrase.enclosed, Phrase.levels, Operand.levels, Chain.levels, ih]
    omega

theorem Phrase.chars_enclosed (p : Phrase) : ∀ n,
    (p.enclosed n).chars = List.replicate n '(' ++ (p.chars ++ List.replicate n ')')
  | 0 => by simp [Phrase.enclosed]
  | n + 1 => by
    have ih := p.chars_enclosed n
    rw [Phrase.chars] at ih
    rw [Phrase.enclosed, Phrase.chars, Operand.chars, Chain.chars, ih, List.replicate_succ,
      List.replicate_succ' (a := ')')]
    simp

theorem Phrase.proper_enclosed {p : Phrase} (h : ∀ w ∈ p.words, w.Proper) : ∀ n,
    ∀ w ∈ (p.enclosed n).words, w.Proper
  | 0 => h
  | n + 1 => by
    have hparens := Operand.proper_parens.2 (List.forall_mem_append.1 (Phrase.proper_enclosed h n))
    rwa [Phrase.enclosed, Phrase.words, Chain.words, List.append_nil]

/-! ## Phrases that reach the bound -/

/-- The chain `& a … & a` of `n` operators. -/
def Chain.tags : Nat → Chain
  | 0 => .nil
  | n + 1 => .cons .and (.plain "a") (tags n)

/-- The operand that reaches the greatest height with the given levels. -/
def Operand.deepest : Nat → Operand
  | 0 => .plain "a"
  | 1 => .not (.plain "a")
  | n + 2 => .parens (deepest (n + 1)) (.tags (n + 1))

/-- The phrase that reaches the greatest height with the given levels. -/
def Phrase.deepest (b : Nat) : Phrase :=
  ⟨.deepest b, .tags b⟩

theorem Chain.length_tags : ∀ n, (tags n).length = n
  | 0 => rfl
  | n + 1 => by rw [tags, Chain.length, length_tags n]

theorem Chain.levels_tags : ∀ n, (tags n).levels = n
  | 0 => rfl
  | n + 1 => by simp [tags, Chain.levels, Operand.levels, levels_tags n]

theorem Operand.levels_deepest : ∀ n, (deepest n).levels = n
  | 0 => rfl
  | 1 => rfl
  | n + 2 => by simp [deepest, Operand.levels, levels_deepest (n + 1), Chain.levels_tags]

theorem Phrase.levels_deepest (b : Nat) : (deepest b).levels = b := by
  simp [deepest, Phrase.levels, Operand.levels_deepest, Chain.levels_tags]

theorem Operand.le_height_deepest : ∀ n, operandReach n ≤ (deepest n).height
  | 0 => Nat.le_refl _
  | 1 => Nat.le_refl _
  | n + 2 => by
    have ih := le_height_deepest (n + 1)
    rw [deepest, Operand.height, Chain.length_tags, operandReach]
    omega

/-- The bound on the height of phrases is reached. -/
theorem Phrase.height_deepest (b : Nat) : (deepest b).height = operandReach b + b := by
  refine Nat.le_antisymm ((deepest b).height_le (levels_deepest b).le) ?_
  have hfirst := Operand.le_height_deepest b
  have hheight : (Operand.deepest b).height + (Chain.tags b).length ≤ (deepest b).height :=
    Nat.le_max_left _ _
  rw [Chain.length_tags] at hheight
  omega

theorem Chain.proper_tags : ∀ n, ∀ w ∈ (tags n).words, w.Proper
  | 0 => by simp [tags, Chain.words]
  | n + 1 => Chain.proper_cons.2 ⟨List.forall_mem_singleton.2 isName_a, proper_tags n⟩

theorem Operand.proper_deepest : ∀ n, ∀ w ∈ (deepest n).words, w.Proper
  | 0 => List.forall_mem_singleton.2 isName_a
  | 1 => List.forall_mem_cons.2 ⟨trivial, List.forall_mem_singleton.2 isName_a⟩
  | n + 2 => Operand.proper_parens.2 ⟨proper_deepest (n + 1), Chain.proper_tags (n + 1)⟩

theorem Phrase.proper_deepest (b : Nat) : ∀ w ∈ (deepest b).words, w.Proper :=
  List.forall_mem_append.2 ⟨Operand.proper_deepest b, Chain.proper_tags b⟩

end Filter

/-- The text in the given number of parentheses. -/
def enclosedText (n : Nat) (s : String) : String :=
  String.ofList (List.replicate n '(' ++ (s.toList ++ List.replicate n ')'))

/-- A filter that a new parser reads has a depth of at most 32897, whatever the tokens, and there is
a text that is read as a filter of this depth. With `b` levels left, and at least one, the depth of
what is read as a phrase is at most `b (b + 1) / 2 + 1`. There is a text that is read as a phrase of
this depth, up to its end, and in as many parentheses as hold the other levels a new parser reads it
as the same filter. -/
theorem height_bound_tight :
    (∀ (σ : Type) [Token.Source σ] (s : σ) (f : Filter),
        (Parser.ofSource s).parse.1 = .ok f → f.depth ≤ 32897) ∧
      (∃ s f, parse s = .ok f ∧ f.depth = 32897) ∧
      ∀ b, 1 ≤ b →
        (∀ (σ : Type) [Token.Source σ] (c c' : Cursor σ) (f : Filter),
          c.binary b = .done f c' → f.depth ≤ b * (b + 1) / 2 + 1) ∧
        ∃ s f c', (Cursor.ofSource (Lexer.ofString s)).binary b = .done f c' ∧
          c'.current.kind = .eof ∧ f.depth = b * (b + 1) / 2 + 1 ∧
          (b ≤ maxLevels → parse (enclosedText (maxLevels - b) s) = .ok f) := by
  have hdepth (b : Nat) : (Phrase.deepest b).filter.depth = operandReach b + b := by
    rw [depth_eq_height, Phrase.height_filter, Phrase.height_deepest]
  have hmax : operandReach maxLevels + maxLevels = 32897 := operandReach_add_self (by decide)
  refine ⟨fun σ _ s f h => ?_, ?_, fun b hb => ⟨fun σ _ c c' f h => ?_, ?_⟩⟩
  · exact hmax ▸ Parser.depth_le h
  · exact ⟨_, _, (Phrase.deepest maxLevels).parse_chars (Phrase.proper_deepest _)
      (Phrase.levels_deepest _).le, (hdepth _).trans hmax⟩
  · exact operandReach_add_self hb ▸ Cursor.depth_le h
  · obtain ⟨c', hbinary, heof⟩ := (Phrase.deepest b).exists_binary_chars
      (Phrase.proper_deepest b) (Phrase.levels_deepest b).le
    refine ⟨_, _, c', hbinary, heof, (hdepth b).trans (operandReach_add_self hb), fun hle => ?_⟩
    have hlevels : ((Phrase.deepest b).enclosed (maxLevels - b)).levels ≤ maxLevels := by
      rw [Phrase.levels_enclosed, Phrase.levels_deepest]
      omega
    have hparse := Phrase.parse_chars _ (Phrase.proper_enclosed (Phrase.proper_deepest b) _) hlevels
    rw [Phrase.filter_enclosed, Phrase.chars_enclosed] at hparse
    rwa [enclosedText, String.toList_ofList]

/-- A text that reaches the bound of three levels, with both operators and a value. -/
theorem height_bound_three :
    let s := "((!a & b) | c & d) & e:f | g & h"
    let f := Filter.and (.or (.and (.and (.or (.and (.not (.tag (.plain "a"))) (.tag (.plain "b")))
      (.tag (.plain "c"))) (.tag (.plain "d"))) (.tag (.valued "e" "f"))) (.tag (.plain "g")))
      (.tag (.plain "h"))
    parse s = .ok f ∧ f.depth ≤ 32897 ∧
      ∃ c', (Cursor.ofSource (Lexer.ofString s)).binary 3 = .done f c' ∧
        f.depth ≤ 3 * (3 + 1) / 2 + 1 ∧ f.depth = 7 := by
  intro s f
  obtain ⟨hbound, -, hlevels⟩ := height_bound_tight
  have hparse : parse s = .ok f := by decide +kernel
  have hbinary : (Cursor.ofSource (Lexer.ofString s)).binary 3 =
      .done f ⟨Token.eof 32, ⟨[], 32⟩⟩ := by decide +kernel
  refine ⟨hparse, hbound _ _ _ hparse, _, hbinary, ?_, by decide +kernel⟩
  exact (hlevels 3 (by decide)).1 _ _ _ _ hbinary

end TagSelect
