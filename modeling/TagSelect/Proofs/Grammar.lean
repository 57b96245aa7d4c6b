import TagSelect.Filter.Phrase
import TagSelect.Token.Replay

/-!
# The parser and its grammar

A parser with `n` levels accepts the tokens that spell a phrase which needs at most `n` levels, and
answers with the filter of the phrase.

`Cursor.Reads` says which words come next at a cursor. `Cursor.exists_operand` and
`Cursor.exists_chain` find the phrase that a successful run has read, by recursion on the levels
left; `Cursor.unary_of_reads` and `Cursor.chain_of_reads` run the parser along a phrase, by
recursion on the phrase. Both go through one statement of what a step can do
(`Cursor.unary_eq_done`, `Cursor.chain_eq_done`).

The grammar is unambiguous (`Phrase.words_injective`) : an operand is cut off where no colon
follows it, and a chain where neither a colon nor an operator does.
-/

namespace TagSelect

open TagSelect.Filter

/-! ## Words -/

namespace Filter

theorem Word.ofToken_eq_name {t : Token} {s : String} :
    Word.ofToken t = .name s ↔ t.kind = .identifier ∧ t.lexeme = s := by
  unfold Word.ofToken
  split <;> simp_all

theorem Word.ofToken_eq_mark {t : Token} {k : Token.Kind} (hk : k ≠ .identifier) :
    Word.ofToken t = .mark k ↔ t.kind = k := by
  unfold Word.ofToken
  split
  · next h => simp [h, hk.symm]
  · simp

theorem Operator.ofKind?_eq_some {k : Token.Kind} {op : Operator} :
    Operator.ofKind? k = some op ↔ k = op.kind := by
  cases op <;> cases k <;> simp [Operator.ofKind?, Operator.kind]

theorem Operator.kind_ne_identifier (op : Operator) : op.kind ≠ .identifier := by
  cases op <;> decide

end Filter

/-! ## Steps of the parser -/

variable {σ α β : Type}

theorem Outcome.bind_eq_done {o : Outcome σ α} {k : α → Cursor σ → Outcome σ β} {b : β}
    {c' : Cursor σ} :
    o.bind k = .done b c' ↔ ∃ a c, o = .done a c ∧ k a c = .done b c' := by
  cases o <;> simp [Outcome.bind, and_assoc]

variable [Token.Source σ]

namespace Cursor

variable {c c' c'' : Cursor σ} {n : Nat} {f left : Filter} {ws vs : List Word}

/-- The words `ws` come next at the first cursor, and the second one stands after them. -/
def Reads : Cursor σ → List Word → Cursor σ → Prop
  | c, [], c' => c' = c
  | c, w :: ws, c' => Word.ofToken c.current = w ∧ Reads c.advance ws c'

theorem reads_append : ∀ {c : Cursor σ} {ws : List Word},
    c.Reads (ws ++ vs) c'' ↔ ∃ c', c.Reads ws c' ∧ c'.Reads vs c''
  | c, [] => by simp [Reads]
  | c, w :: ws => by
    rw [List.cons_append, Reads, reads_append]
    simp [Reads, and_assoc]

theorem reads_mark {k : Token.Kind} (hk : k ≠ .identifier) :
    c.Reads (.mark k :: ws) c' ↔ c.current.kind = k ∧ c.advance.Reads ws c' := by
  rw [Reads, Word.ofToken_eq_mark hk]

theorem reads_name {s : String} :
    c.Reads (.name s :: ws) c' ↔
      (c.current.kind = .identifier ∧ c.current.lexeme = s) ∧ c.advance.Reads ws c' := by
  rw [Reads, Word.ofToken_eq_name]

/-- Two runs of words that both end at the first end of the input are the same. -/
theorem reads_unique : ∀ {c : Cursor σ} {ws vs : List Word}, c.Reads ws c' → c.Reads vs c'' →
    c'.current.kind = .eof → c''.current.kind = .eof → .mark .eof ∉ ws → .mark .eof ∉ vs → ws = vs
  | c, [], [], _, _, _, _, _, _ => rfl
  | c, [], v :: vs, h, h', he, _, _, hv => by
    obtain rfl := h
    have hveof : v = .mark .eof := h'.1.symm.trans ((Word.ofToken_eq_mark (by decide)).2 he)
    exact absurd (hveof ▸ List.mem_cons_self) hv
  | c, w :: ws, [], h, h', _, he, hw, _ => by
    obtain rfl := h'
    have hweof : w = .mark .eof := h.1.symm.trans ((Word.ofToken_eq_mark (by decide)).2 he)
    exact absurd (hweof ▸ List.mem_cons_self) hw
  | c, w :: ws, v :: vs, h, h', he, he', hw, hv => by
    have ih := reads_unique h.2 h'.2 he he' (fun hm => hw (List.mem_cons_of_mem _ hm))
      (fun hm => hv (List.mem_cons_of_mem _ hm))
    rw [ih, ← h.1, ← h'.1]

theorem expect_eq_done {k : Token.Kind} {e : Expected} {t : Token} :
    c.expect k e n = .done t c' ↔ c.current.kind = k ∧ c.current = t ∧ c.advance = c' := by
  unfold expect
  split <;> simp_all

/-- What a successful reading of a name is : a key, or a key and a value. -/
theorem tagName_eq_done : c.tagName n = .done f c' ↔ c.current.kind = .identifier ∧
    ((c.advance.current.kind ≠ .colon ∧ .tag (.plain c.current.lexeme) = f ∧ c.advance = c') ∨
      (c.advance.current.kind = .colon ∧ c.advance.advance.current.kind = .identifier ∧
        .tag (.valued c.current.lexeme c.advance.advance.current.lexeme) = f ∧
        c.advance.advance.advance = c')) := by
  rw [tagName, Outcome.bind_eq_done]
  simp only [expect_eq_done]
  constructor
  · rintro ⟨_, _, ⟨hkey, rfl, rfl⟩, h⟩
    refine ⟨hkey, ?_⟩
    split at h
    · next hcolon =>
      obtain ⟨_, _, hexpect, h⟩ := Outcome.bind_eq_done.1 h
      obtain ⟨hvalue, rfl, rfl⟩ := expect_eq_done.1 hexpect
      cases h
      exact Or.inr ⟨hcolon, hvalue, rfl, rfl⟩
    · next hcolon =>
      cases h
      exact Or.inl ⟨hcolon, rfl, rfl⟩
  · rintro ⟨hkey, ⟨hcolon, rfl, rfl⟩ | ⟨hcolon, hvalue, rfl, rfl⟩⟩
    · exact ⟨_, _, ⟨hkey, rfl, rfl⟩, by rw [if_neg hcolon]⟩
    · refine ⟨_, _, ⟨hkey, rfl, rfl⟩, ?_⟩
      rw [if_pos hcolon, Outcome.bind_eq_done]
      exact ⟨_, _, expect_eq_done.2 ⟨hvalue, rfl, rfl⟩, rfl⟩

/-- What a successful reading of an operand is : a negation, a group, or a name. -/
theorem unary_eq_done : c.unary n = .done f c' ↔
    (c.current.kind = .not ∧ ∃ m g, n = m + 1 ∧ c.advance.unary m = .done g c' ∧ g.not = f) ∨
    (c.current.kind = .leftParen ∧ ∃ m g c₁ c₂, n = m + 1 ∧ c.advance.unary m = .done g c₁ ∧
      c₁.chain m g = .done f c₂ ∧ c₂.current.kind = .rightParen ∧ c₂.advance = c') ∨
    c.tagName n = .done f c' := by
  have htag : c.tagName n = .done f c' → c.current.kind = .identifier :=
    fun h => (tagName_eq_done.1 h).1
  cases hk : c.current.kind with
  | not => cases n <;> simp_all [unary, Outcome.bind_eq_done]
  | leftParen =>
    cases n with
    | zero => simp_all [unary]
    | succ m =>
      simp only [unary, hk, Outcome.bind_eq_done, expect_eq_done]
      constructor
      · rintro ⟨g, c₁, hg, _, c₂, hf, _, _, ⟨hr, -, rfl⟩, h⟩
        cases h
        exact Or.inr (Or.inl ⟨trivial, m, g, c₁, c₂, rfl, hg, hf, hr, rfl⟩)
      · rintro (⟨h, -⟩ | ⟨-, m', g, c₁, c₂, hm, hg, hf, hr, rfl⟩ | h)
        · cases h
        · cases hm
          exact ⟨g, c₁, hg, f, c₂, hf, _, _, ⟨hr, rfl, rfl⟩, rfl⟩
        · exact absurd (htag h) (by simp [hk])
  | _ => cases n <;> simp [unary, hk]

/-- What a successful reading of a chain is : its end, or an operator and an operand before the
rest of the chain. -/
theorem chain_eq_done : c.chain n left = .done f c' ↔
    (Operator.ofKind? c.current.kind = none ∧ left = f ∧ c = c') ∨
    ∃ (op : Operator) (m : Nat) (right : Filter) (c₁ : Cursor σ),
      Operator.ofKind? c.current.kind = some op ∧ n = m + 1 ∧
      c.advance.unary m = .done right c₁ ∧ c₁.chain m (op.join left right) = .done f c' := by
  cases n <;> cases hop : Operator.ofKind? c.current.kind <;>
    simp [chain, hop, Outcome.bind_eq_done]

/-! ## The phrase that was read -/

/-- A name that was read is an operand that needs no levels. -/
theorem exists_operand_of_tagName (h : c.tagName n = .done f c') :
    ∃ x : Operand, x.filter = f ∧ x.levels ≤ n ∧ c.Reads x.words c' := by
  obtain ⟨hkey, ⟨-, rfl, rfl⟩ | ⟨hcolon, hvalue, rfl, rfl⟩⟩ := tagName_eq_done.1 h
  · exact ⟨.plain c.current.lexeme, rfl, Nat.zero_le _, reads_name.2 ⟨⟨hkey, rfl⟩, rfl⟩⟩
  · exact ⟨.valued c.current.lexeme c.advance.advance.current.lexeme, rfl, Nat.zero_le _,
      reads_name.2 ⟨⟨hkey, rfl⟩, (reads_mark (by decide)).2
        ⟨hcolon, reads_name.2 ⟨⟨hvalue, rfl⟩, rfl⟩⟩⟩⟩

mutual

/-- A filter that was read as an operand is the filter of an operand that spells what was read and
needs no more than the levels that were left. -/
theorem exists_operand {n : Nat} {c c' : Cursor σ} {f : Filter} (h : c.unary n = .done f c') :
    ∃ x : Operand, x.filter = f ∧ x.levels ≤ n ∧ c.Reads x.words c' := by
  rcases unary_eq_done.1 h with ⟨hk, m, g, rfl, hg, rfl⟩ |
    ⟨hk, m, g, c₁, c₂, rfl, hg, hf, hr, rfl⟩ | h
  · obtain ⟨x, rfl, hle, hreads⟩ := exists_operand hg
    exact ⟨.not x, rfl, Nat.succ_le_succ hle, (reads_mark (by decide)).2 ⟨hk, hreads⟩⟩
  · obtain ⟨x, rfl, hx, hxr⟩ := exists_operand hg
    obtain ⟨rest, rfl, hrest, hrr⟩ := exists_chain hf
    refine ⟨.parens x rest, rfl, Nat.succ_le_succ (Nat.max_le.2 ⟨hx, hrest⟩), ?_⟩
    refine (reads_mark (by decide)).2 ⟨hk, reads_append.2 ⟨c₂, reads_append.2 ⟨c₁, hxr, hrr⟩, ?_⟩⟩
    exact (reads_mark (by decide)).2 ⟨hr, rfl⟩
  · exact exists_operand_of_tagName h
termination_by n

/-- The same for the rest of a chain. -/
theorem exists_chain {n : Nat} {left : Filter} {c c' : Cursor σ} {f : Filter}
    (h : c.chain n left = .done f c') :
    ∃ rest : Chain, rest.filterAfter left = f ∧ rest.levels ≤ n ∧ c.Reads rest.words c' := by
  rcases chain_eq_done.1 h with ⟨-, rfl, rfl⟩ | ⟨op, m, right, c₁, hop, rfl, hx, hrest⟩
  · exact ⟨.nil, rfl, Nat.zero_le _, rfl⟩
  · obtain ⟨x, rfl, hxle, hxr⟩ := exists_operand hx
    obtain ⟨rest, rfl, hle, hr⟩ := exists_chain hrest
    refine ⟨.cons op x rest, rfl, Nat.succ_le_succ (Nat.max_le.2 ⟨hxle, hle⟩), ?_⟩
    exact (reads_mark op.kind_ne_identifier).2
      ⟨Operator.ofKind?_eq_some.1 hop, reads_append.2 ⟨c₁, hxr, hr⟩⟩
termination_by n

end

/-! ## Reading a phrase -/

/-- A chain begins with an operator, so that no colon follows the operand before it. -/
theorem kind_ne_colon_of_reads {rest : Chain} (h : c.Reads rest.words c')
    (hc' : c'.current.kind ≠ .colon) : c.current.kind ≠ .colon := by
  cases rest with
  | nil =>
    obtain rfl := h
    exact hc'
  | cons op x rest =>
    rw [((reads_mark op.kind_ne_identifier).1 h).1]
    cases op <;> decide

mutual

/-- With the levels that it needs, an operand is read up to its end. -/
theorem unary_of_reads : ∀ (x : Operand) {n : Nat} {c c' : Cursor σ}, x.levels ≤ n →
    c.Reads x.words c' → c'.current.kind ≠ .colon → c.unary n = .done x.filter c'
  | .plain key, n, c, c', _, h, hc' => by
    obtain ⟨⟨hkey, rfl⟩, rfl⟩ := reads_name.1 h
    exact unary_eq_done.2 (Or.inr (Or.inr (tagName_eq_done.2 ⟨hkey, Or.inl ⟨hc', rfl, rfl⟩⟩)))
  | .valued key value, n, c, c', _, h, _ => by
    obtain ⟨⟨hkey, rfl⟩, h₁⟩ := reads_name.1 h
    obtain ⟨hcolon, h₂⟩ := (reads_mark (by decide)).1 h₁
    obtain ⟨⟨hvalue, rfl⟩, rfl⟩ := reads_name.1 h₂
    exact unary_eq_done.2 (Or.inr (Or.inr
      (tagName_eq_done.2 ⟨hkey, Or.inr ⟨hcolon, hvalue, rfl, rfl⟩⟩)))
  | .not x, n, c, c', hn, h, hc' => by
    obtain ⟨hk, hx⟩ := (reads_mark (by decide)).1 h
    rw [Operand.levels] at hn
    obtain ⟨m, rfl⟩ := Nat.exists_eq_add_of_le' (Nat.le_of_add_left_le hn)
    exact unary_eq_done.2 (Or.inl ⟨hk, m, _, rfl, unary_of_reads x (by omega) hx hc', rfl⟩)
  | .parens x rest, n, c, c', hn, h, hc' => by
    obtain ⟨hk, hinner⟩ := (reads_mark (by decide)).1 h
    obtain ⟨c₂, hphrase, hclose⟩ := reads_append.1 hinner
    obtain ⟨c₁, hx, hrest⟩ := reads_append.1 hphrase
    obtain ⟨hr, rfl⟩ := (reads_mark (by decide)).1 hclose
    rw [Operand.levels] at hn
    obtain ⟨m, rfl⟩ := Nat.exists_eq_add_of_le' (Nat.le_of_add_left_le hn)
    have hc₂ : c₂.current.kind ≠ .colon := by simp [hr]
    refine unary_eq_done.2 (Or.inr (Or.inl ⟨hk, m, x.filter, c₁, c₂, rfl, ?_, ?_, hr, rfl⟩))
    · exact unary_of_reads x (by omega) hx (kind_ne_colon_of_reads hrest hc₂)
    · exact chain_of_reads rest (by omega) hrest hc₂ (by simp [hr, Operator.ofKind?])

/-- With the levels that it needs, a chain is read up to its end. -/
theorem chain_of_reads : ∀ (rest : Chain) {n : Nat} {left : Filter} {c c' : Cursor σ},
    rest.levels ≤ n → c.Reads rest.words c' → c'.current.kind ≠ .colon →
    Operator.ofKind? c'.current.kind = none →
    c.chain n left = .done (rest.filterAfter left) c'
  | .nil, n, left, c, c', _, h, _, hop => by
    obtain rfl := h
    exact chain_eq_done.2 (Or.inl ⟨hop, rfl, rfl⟩)
  | .cons op x rest, n, left, c, c', hn, h, hc', hop => by
    obtain ⟨hk, hrun⟩ := (reads_mark op.kind_ne_identifier).1 h
    obtain ⟨c₁, hx, hrest⟩ := reads_append.1 hrun
    rw [Chain.levels] at hn
    obtain ⟨m, rfl⟩ := Nat.exists_eq_add_of_le' (Nat.le_of_add_left_le hn)
    refine chain_eq_done.2
      (Or.inr ⟨op, m, x.filter, c₁, Operator.ofKind?_eq_some.2 hk, rfl, ?_, ?_⟩)
    · exact unary_of_reads x (by omega) hx (kind_ne_colon_of_reads hrest hc')
    · exact chain_of_reads rest (by omega) hrest hc' hop

end

/-- What was read as operands with operators between them is a phrase. -/
theorem exists_phrase (h : c.binary n = .done f c') :
    ∃ p : Phrase, p.filter = f ∧ p.levels ≤ n ∧ c.Reads p.words c' := by
  obtain ⟨g, c₁, hfirst, hrest⟩ := Outcome.bind_eq_done.1 h
  obtain ⟨x, rfl, hx, hxr⟩ := exists_operand hfirst
  obtain ⟨rest, rfl, hle, hr⟩ := exists_chain hrest
  exact ⟨⟨x, rest⟩, rfl, Nat.max_le.2 ⟨hx, hle⟩, reads_append.2 ⟨c₁, hxr, hr⟩⟩

/-- With the levels that it needs, a phrase is read up to its end. -/
theorem binary_of_reads (p : Phrase) (hn : p.levels ≤ n) (h : c.Reads p.words c')
    (hcolon : c'.current.kind ≠ .colon) (hop : Operator.ofKind? c'.current.kind = none) :
    c.binary n = .done p.filter c' := by
  obtain ⟨c₁, hx, hrest⟩ := reads_append.1 h
  obtain ⟨hxn, hrn⟩ := Nat.max_le.1 hn
  exact Outcome.bind_eq_done.2 ⟨_, c₁,
    unary_of_reads p.first hxn hx (kind_ne_colon_of_reads hrest hcolon),
    chain_of_reads p.rest hrn hrest hcolon hop⟩

end Cursor

/-! ## Unambiguity -/

namespace Filter

/-- Neither a colon nor an operator comes next. -/
def Closed (ws : List Word) : Prop :=
  ws.head? ≠ some (.mark .colon) ∧ ∀ op : Operator, ws.head? ≠ some (.mark op.kind)

theorem closed_rightParen (ws : List Word) : Closed (.mark .rightParen :: ws) := by
  refine ⟨by simp, fun op => ?_⟩
  cases op <;> simp [Operator.kind]

theorem Chain.head?_words_append (rest : Chain) {ws : List Word}
    (h : ws.head? ≠ some (.mark .colon)) : (rest.words ++ ws).head? ≠ some (.mark .colon) := by
  cases rest with
  | nil => exact h
  | cons op x rest => cases op <;> simp [Chain.words, Operator.kind]

mutual

/-- The words of an operand are cut off in one way where no colon follows. -/
theorem Operand.words_append_inj : ∀ (x y : Operand) {ws vs : List Word},
    x.words ++ ws = y.words ++ vs → ws.head? ≠ some (.mark .colon) →
    vs.head? ≠ some (.mark .colon) → x = y ∧ ws = vs
  | .plain _, y, ws, vs, h, hw, hv => by
    cases y <;> simp_all [Operand.words]
  | .valued _ _, y, ws, vs, h, hw, hv => by
    cases y with
    | plain _ =>
      have hvs : .mark .colon :: .name _ :: ws = vs := (List.cons.inj h).2
      exact absurd (hvs ▸ rfl) hv
    | _ => simp_all [Operand.words]
  | .not x, y, ws, vs, h, hw, hv => by
    cases y with
    | not y =>
      obtain ⟨rfl, rfl⟩ := Operand.words_append_inj x y (List.cons.inj h).2 hw hv
      exact ⟨rfl, rfl⟩
    | _ => simp [Operand.words] at h
  | .parens x rest, y, ws, vs, h, hw, hv => by
    cases y with
    | parens y rest' =>
      simp only [Operand.words, List.cons_append, List.append_assoc, List.cons.injEq, true_and,
        List.nil_append] at h
      obtain ⟨rfl, h'⟩ := Operand.words_append_inj x y h
        (rest.head?_words_append (closed_rightParen _).1)
        (rest'.head?_words_append (closed_rightParen _).1)
      obtain ⟨rfl, hrest⟩ := Chain.words_append_inj rest rest' h' (closed_rightParen _)
        (closed_rightParen _)
      exact ⟨rfl, (List.cons.inj hrest).2⟩
    | _ => simp [Operand.words] at h

/-- The words of a chain are cut off in one way where neither a colon nor an operator follows. -/
theorem Chain.words_append_inj : ∀ (rest rest' : Chain) {ws vs : List Word},
    rest.words ++ ws = rest'.words ++ vs → Closed ws → Closed vs → rest = rest' ∧ ws = vs
  | .nil, rest', ws, vs, h, hw, hv => by
    cases rest' with
    | nil => exact ⟨rfl, h⟩
    | cons op y rest' =>
      have hws : ws = (Chain.cons op y rest').words ++ vs := h
      exact absurd (hws ▸ rfl) (hw.2 op)
  | .cons op x rest, rest', ws, vs, h, hw, hv => by
    cases rest' with
    | nil =>
      have hvs : (Chain.cons op x rest).words ++ ws = vs := h
      exact absurd (hvs ▸ rfl) (hv.2 op)
    | cons op' y rest' =>
      simp only [Chain.words, List.cons_append, List.append_assoc, List.cons.injEq,
        Word.mark.injEq] at h
      obtain rfl : op = op' := by cases op <;> cases op' <;> simp [Operator.kind] at h ⊢
      obtain ⟨rfl, h'⟩ := Operand.words_append_inj x y h.2 (rest.head?_words_append hw.1)
        (rest'.head?_words_append hv.1)
      obtain ⟨rfl, rfl⟩ := Chain.words_append_inj rest rest' h' hw hv
      exact ⟨rfl, rfl⟩

end

/-- Different phrases have different words. -/
theorem Phrase.words_injective {p q : Phrase} (h : p.words = q.words) : p = q := by
  have hnil : Closed [] := ⟨by simp, by simp⟩
  have h' : p.first.words ++ (p.rest.words ++ []) = q.first.words ++ (q.rest.words ++ []) := by
    simpa [Phrase.words] using h
  obtain ⟨hfirst, hrest⟩ := Operand.words_append_inj _ _ h' (p.rest.head?_words_append hnil.1)
    (q.rest.head?_words_append hnil.1)
  obtain ⟨hrest, -⟩ := Chain.words_append_inj _ _ hrest hnil hnil
  cases p
  cases q
  simp_all

/-! ## What is accepted -/

mutual

theorem Operand.eof_not_mem_words : ∀ x : Operand, .mark .eof ∉ x.words
  | .plain _ => by simp [Operand.words]
  | .valued _ _ => by simp [Operand.words]
  | .not x => by simp [Operand.words, Operand.eof_not_mem_words x]
  | .parens x rest => by
    simp [Operand.words, Operand.eof_not_mem_words x, Chain.eof_not_mem_words rest]

theorem Chain.eof_not_mem_words : ∀ rest : Chain, .mark .eof ∉ rest.words
  | .nil => by simp [Chain.words]
  | .cons op x rest => by
    cases op <;>
      simp [Chain.words, Operator.kind, Operand.eof_not_mem_words x, Chain.eof_not_mem_words rest]

end

/-- The words derive the filter within `n` levels : there are none and everything passes, or a
phrase that needs at most `n` levels has these words and this filter. -/
def Derives (n : Nat) (ws : List Word) (f : Filter) : Prop :=
  (ws = [] ∧ f = .everything) ∨ ∃ p : Phrase, p.words = ws ∧ p.filter = f ∧ p.levels ≤ n

theorem Phrase.words_ne_nil (p : Phrase) : p.words ≠ [] := by
  obtain ⟨first, rest⟩ := p
  cases first <;> simp [Phrase.words, Operand.words]

/-- Words derive one filter at most, whatever the levels. -/
theorem Derives.unique {n m : Nat} {ws : List Word} {f g : Filter} (hf : Derives n ws f)
    (hg : Derives m ws g) : f = g := by
  rcases hf with ⟨rfl, rfl⟩ | ⟨p, rfl, rfl, -⟩ <;> rcases hg with ⟨hws, rfl⟩ | ⟨q, hws, rfl, -⟩
  · rfl
  · exact absurd hws q.words_ne_nil
  · exact absurd hws p.words_ne_nil
  · rw [Phrase.words_injective hws]

end Filter

namespace Cursor

/-- A reading up to the end of the input succeeds with the filter that the words derive. -/
theorem filter_eq_done_iff {c e : Cursor σ} {ws : List Word} (hr : c.Reads ws e)
    (he : e.current.kind = .eof) (hws : .mark .eof ∉ ws) (n : Nat) (f : Filter) :
    (∃ c', c.filter n = .done f c') ↔ Derives n ws f := by
  unfold Cursor.filter
  cases ws with
  | nil =>
    obtain rfl := hr
    rw [if_pos he]
    constructor
    · rintro ⟨c', h⟩
      cases h
      exact Or.inl ⟨rfl, rfl⟩
    · rintro (⟨-, rfl⟩ | ⟨p, hp, -⟩)
      · exact ⟨_, rfl⟩
      · exact absurd hp p.words_ne_nil
  | cons w ws =>
    have hc : c.current.kind ≠ .eof := fun h =>
      hws (((Word.ofToken_eq_mark (by decide)).2 h).symm.trans hr.1 ▸ List.mem_cons_self)
    rw [if_neg hc]
    constructor
    · rintro ⟨c', h⟩
      obtain ⟨g, c₁, hg, h⟩ := Outcome.bind_eq_done.1 h
      obtain ⟨_, _, hend, h⟩ := Outcome.bind_eq_done.1 h
      cases h
      obtain ⟨p, hp, hle, hreads⟩ := exists_phrase hg
      have hpeof : .mark .eof ∉ p.words := by
        simp [Phrase.words, p.first.eof_not_mem_words, p.rest.eof_not_mem_words]
      exact Or.inr ⟨p, reads_unique hreads hr (expect_eq_done.1 hend).1 he hpeof hws, hp, hle⟩
    · rintro (⟨h, -⟩ | ⟨p, hp, rfl, hle⟩)
      · cases h
      · refine ⟨e.advance, Outcome.bind_eq_done.2 ⟨p.filter, e, ?_, ?_⟩⟩
        · exact binary_of_reads p hle (hp ▸ hr) (by simp [he]) (by simp [he, Operator.ofKind?])
        · exact Outcome.bind_eq_done.2 ⟨_, _, expect_eq_done.2 ⟨he, rfl, rfl⟩, rfl⟩

end Cursor

namespace Parser

theorem parse_eq_ok {p : Parser σ} {f : Filter} :
    p.parse.1 = .ok f ↔ ∃ c', p.cursor.filter p.levels = .done f c' := by
  unfold parse
  cases p.cursor.filter p.levels <;> simp

end Parser

namespace Replay

/-- A replayed list is read token by token. -/
theorem reads_ofSource (stop : Nat) (t : Token) :
    ∀ ts : List Token, (Cursor.ofSource (⟨ts ++ [t], stop⟩ : Replay)).Reads (ts.map Word.ofToken)
      (Cursor.ofSource (⟨[t], stop⟩ : Replay))
  | [] => rfl
  | _ :: ts => ⟨rfl, reads_ofSource stop t ts⟩

end Replay

/-- A new parser over tokens that end with the only end of the input accepts them with the filter
that their words derive within its levels, and there is no other filter that they derive. -/
theorem parse_replay_iff (ts : List Token) (t : Token) (ht : t.kind = .eof)
    (hts : ∀ t' ∈ ts, t'.kind ≠ .eof) (f : Filter) :
    ((Parser.ofSource (Replay.ofList (ts ++ [t]))).parse.1 = .ok f ↔
        Derives maxLevels (ts.map Word.ofToken) f) ∧
      ∀ n m g g', Derives n (ts.map Word.ofToken) g → Derives m (ts.map Word.ofToken) g' →
        g = g' := by
  refine ⟨?_, fun n m g g' => Derives.unique⟩
  rw [Parser.parse_eq_ok]
  refine Cursor.filter_eq_done_iff (Replay.reads_ofSource _ t ts) ht ?_ _ f
  intro h
  obtain ⟨t', ht', heof⟩ := List.mem_map.1 h
  exact hts t' ht' ((Word.ofToken_eq_mark (by decide)).1 heof)

/-- The operand of `n` negations of the tag `a`. -/
def Filter.Operand.negations : Nat → Operand
  | 0 => .plain "a"
  | n + 1 => .not (negations n)

theorem parse_replay_negations :
    let mark (kind : Token.Kind) : Token := ⟨kind, "", ⟨0, 0⟩⟩
    let name (s : String) : Token := ⟨.identifier, s, ⟨0, 0⟩⟩
    let ts := List.replicate 256 (mark .not) ++ [name "a", mark .and, name "b"]
    (mark .eof).kind = .eof ∧ (∀ t ∈ ts, t.kind ≠ .eof) ∧
      (Parser.ofSource (Replay.ofList (ts ++ [mark .eof]))).parse.1 =
        .ok (.and (Operand.negations 256).filter (.tag (.plain "b"))) := by
  intro mark name ts
  have hts : ∀ t ∈ ts, t.kind ≠ .eof := by decide +kernel
  refine ⟨rfl, hts, (parse_replay_iff ts (mark .eof) rfl hts _).1.2 (Or.inr ?_)⟩
  exact ⟨⟨.negations 256, .cons .and (.plain "b") .nil⟩, by decide +kernel, rfl, by decide +kernel⟩

end TagSelect
