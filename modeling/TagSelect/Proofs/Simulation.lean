import Mathlib.Data.List.Forall2
import TagSelect.Proofs.LexicalGrammar

/-!
# Parsers over two supplies of tokens

What a parser does depends on the kinds and the texts of the tokens that it is given, and on nothing
else : not on how the supply is made, and not on where the tokens stand.

Two supplies are in step (`Simulation`) if a relation of their cursors gives tokens of the same kind
and text and is kept when both advance. Then every step of the parser ends alike on both
(`Simulation.unary`, `Simulation.chain`, by recursion on the levels left), a call ends alike and
leaves parsers that are in step (`Simulation.parse`), and so do any number of calls, also after
errors and past the end of the input (`Simulation.parseTimes`).

Two lexers are in step if they give the same kinds and texts (`Lexer.simulation_after`), and a
parser over a lexer fails at tokens that the lexer gives (`Lexer.exists_after_of_error`).

A lexer is in step with the list of its tokens (`Lexer.simulation_replay`). The two differ in the
place of the end of the input only : the end of the text, and the end of the last token.
`parseTimes_lexer_replay` says what this means for the results of calls.
-/

namespace TagSelect

open Text TagSelect.Filter

variable {σ τ α β α' β' : Type}

/-! ## Ending alike -/

/-- Two errors for the same reason, at tokens that are related. -/
inductive SyntaxError.Alike (T : Token → Token → Prop) : SyntaxError → SyntaxError → Prop
  | unexpected {t u : Token} (expected : Expected) (h : T t u) :
      Alike T (.unexpected expected t) (.unexpected expected u)
  | tooDeep {t u : Token} (h : T t u) : Alike T (.tooDeep t) (.tooDeep u)

/-- Two steps that read related results, or failed for the same reason with the same levels left,
and stand at related cursors. -/
inductive Outcome.Alike (T : Token → Token → Prop) (R : Cursor σ → Cursor τ → Prop)
    (A : α → β → Prop) : Outcome σ α → Outcome τ β → Prop
  | done {a : α} {b : β} {c : Cursor σ} {d : Cursor τ} (ha : A a b) (hcd : R c d) :
      Alike T R A (.done a c) (.done b d)
  | failed {e e' : SyntaxError} {c : Cursor σ} {d : Cursor τ} (he : e.Alike T e') (hcd : R c d)
      (levels : Nat) : Alike T R A (.failed e c levels) (.failed e' d levels)

theorem Outcome.Alike.bind {T : Token → Token → Prop} {R : Cursor σ → Cursor τ → Prop}
    {A : α → β → Prop} {B : α' → β' → Prop} {o : Outcome σ α} {o' : Outcome τ β}
    {k : α → Cursor σ → Outcome σ α'} {k' : β → Cursor τ → Outcome τ β'} (h : Alike T R A o o')
    (hk : ∀ {a b c d}, A a b → R c d → Alike T R B (k a c) (k' b d)) :
    Alike T R B (o.bind k) (o'.bind k') := by
  cases h with
  | done ha hcd => exact hk ha hcd
  | failed he hcd levels => exact .failed he hcd levels

/-- Two results of a call : the same filter, or errors for the same reason at related tokens. -/
inductive Parser.Alike (T : Token → Token → Prop) :
    Except SyntaxError Filter → Except SyntaxError Filter → Prop
  | ok (f : Filter) : Alike T (.ok f) (.ok f)
  | error {e e' : SyntaxError} (he : e.Alike T e') : Alike T (.error e) (.error e')

theorem Parser.Alike.eq_ok_iff {T : Token → Token → Prop} {r r' : Except SyntaxError Filter}
    (h : Parser.Alike T r r') (f : Filter) : r' = .ok f ↔ r = .ok f := by
  cases h with
  | ok g => rfl
  | error he => simp

theorem Parser.Alike.exists_error {T : Token → Token → Prop} {r r' : Except SyntaxError Filter}
    (h : Parser.Alike T r r') {e : SyntaxError} (hr : r = .error e) :
    ∃ e', r' = .error e' ∧ e.Alike T e' := by
  cases h with
  | ok g => cases hr
  | error he =>
    cases hr
    exact ⟨_, rfl, he⟩

/-! ## Supplies in step -/

/-- The relation `R` of cursors gives tokens that are related by `T`, which have the same kind and
the same text, and is kept by advancing. -/
structure Simulation [Token.Source σ] [Token.Source τ] (T : Token → Token → Prop)
    (R : Cursor σ → Cursor τ → Prop) : Prop where
  kind_eq : ∀ {t u}, T t u → t.kind = u.kind
  lexeme_eq : ∀ {t u}, T t u → t.lexeme = u.lexeme
  current : ∀ {c d}, R c d → T c.current d.current
  advance : ∀ {c d}, R c d → R c.advance d.advance

namespace Simulation

variable [Token.Source σ] [Token.Source τ]
variable {T : Token → Token → Prop} {R : Cursor σ → Cursor τ → Prop}
  {c : Cursor σ} {d : Cursor τ}

theorem kind_current (h : Simulation T R) (hcd : R c d) : c.current.kind = d.current.kind :=
  h.kind_eq (h.current hcd)

theorem message_eq (h : Simulation T R) {e e' : SyntaxError} (he : e.Alike T e') :
    e.message = e'.message := by
  cases he with
  | unexpected expected ht =>
    simp only [SyntaxError.message, Token.described, h.kind_eq ht, h.lexeme_eq ht]
  | tooDeep ht => rfl

theorem token_alike {e e' : SyntaxError} (he : e.Alike T e') : T e.token e'.token := by
  cases he with
  | unexpected expected ht => exact ht
  | tooDeep ht => exact ht

theorem expect (h : Simulation T R) (hcd : R c d) (kind : Token.Kind) (expected : Expected)
    (n : Nat) : Outcome.Alike T R T (c.expect kind expected n) (d.expect kind expected n) := by
  unfold Cursor.expect
  rw [h.kind_current hcd]
  split
  · exact .done (h.current hcd) (h.advance hcd)
  · exact .failed (.unexpected expected (h.current hcd)) hcd n

theorem tagName (h : Simulation T R) (hcd : R c d) (n : Nat) :
    Outcome.Alike T R Eq (c.tagName n) (d.tagName n) := by
  unfold Cursor.tagName
  refine (h.expect hcd _ _ n).bind fun hkey hcd => ?_
  rw [h.kind_current hcd, h.lexeme_eq hkey]
  split
  · refine (h.expect (h.advance hcd) _ _ n).bind fun hvalue hcd => ?_
    rw [h.lexeme_eq hvalue]
    exact .done rfl hcd
  · exact .done rfl hcd

theorem tooDeep (h : Simulation T R) (hcd : R c d) {A : α → β → Prop} :
    Outcome.Alike T R A (.failed (.tooDeep c.current) c.advance 0)
      (.failed (.tooDeep d.current) d.advance 0) :=
  .failed (.tooDeep (h.current hcd)) (h.advance hcd) 0

mutual

/-- Operands are read alike. -/
theorem unary (h : Simulation T R) : ∀ (n : Nat) {c : Cursor σ} {d : Cursor τ}, R c d →
    Outcome.Alike T R Eq (c.unary n) (d.unary n)
  | n, c, d, hcd => by
    have hkind := h.kind_current hcd
    cases hk : c.current.kind with
    | not =>
      cases n with
      | zero => simpa [Cursor.unary, hk, hkind.symm.trans hk] using h.tooDeep hcd
      | succ n =>
        simp only [Cursor.unary, hk, hkind.symm.trans hk]
        refine (h.unary n (h.advance hcd)).bind fun hf hcd => ?_
        exact .done (congrArg Filter.not hf) hcd
    | leftParen =>
      cases n with
      | zero => simpa [Cursor.unary, hk, hkind.symm.trans hk] using h.tooDeep hcd
      | succ n =>
        simp only [Cursor.unary, hk, hkind.symm.trans hk]
        refine (h.unary n (h.advance hcd)).bind fun hfirst hcd => ?_
        subst hfirst
        refine (h.chain n _ hcd).bind fun hf hcd => ?_
        exact (h.expect hcd _ _ n).bind fun _ hcd => .done hf hcd
    | _ =>
      have htag := h.tagName hcd n
      cases n <;> simpa [Cursor.unary, hk, hkind.symm.trans hk] using htag
termination_by n => n

/-- Chains are read alike. -/
theorem chain (h : Simulation T R) : ∀ (n : Nat) (left : Filter) {c : Cursor σ} {d : Cursor τ},
    R c d → Outcome.Alike T R Eq (c.chain n left) (d.chain n left)
  | n, left, c, d, hcd => by
    have hkind := h.kind_current hcd
    cases hop : Operator.ofKind? c.current.kind with
    | none =>
      rw [Cursor.chain_of_none hop, Cursor.chain_of_none (hkind ▸ hop)]
      exact .done rfl hcd
    | some op =>
      cases n with
      | zero => simpa [Cursor.chain, ← hkind, hop] using h.tooDeep hcd
      | succ n =>
        rw [Cursor.chain_of_operator hop, Cursor.chain_of_operator (hkind ▸ hop)]
        refine (h.unary n (h.advance hcd)).bind fun hright hcd => ?_
        subst hright
        exact h.chain n _ hcd
termination_by n => n

end

theorem binary (h : Simulation T R) (hcd : R c d) (n : Nat) :
    Outcome.Alike T R Eq (c.binary n) (d.binary n) := by
  refine (h.unary n hcd).bind fun hfirst hcd => ?_
  subst hfirst
  exact h.chain n _ hcd

theorem filter (h : Simulation T R) (hcd : R c d) (n : Nat) :
    Outcome.Alike T R Eq (c.filter n) (d.filter n) := by
  unfold Cursor.filter
  rw [h.kind_current hcd]
  split
  · exact .done rfl hcd
  · refine (h.binary hcd n).bind fun hf hcd => ?_
    exact (h.expect hcd _ _ n).bind fun _ hcd => .done hf hcd

/-! ## Calls -/

/-- A call on parsers in step ends alike and leaves parsers in step. -/
theorem parse (h : Simulation T R) {p : Parser σ} {q : Parser τ} (hpq : R p.cursor q.cursor)
    (hlevels : p.levels = q.levels) : Parser.Alike T p.parse.1 q.parse.1 ∧
      R p.parse.2.cursor q.parse.2.cursor ∧ p.parse.2.levels = q.parse.2.levels := by
  have hfilter := h.filter hpq q.levels
  unfold Parser.parse
  rw [hlevels]
  generalize p.cursor.filter q.levels = o at hfilter ⊢
  generalize q.cursor.filter q.levels = o' at hfilter ⊢
  cases hfilter with
  | done hf hcd =>
    subst hf
    exact ⟨.ok _, hcd, rfl⟩
  | failed he hcd levels => exact ⟨.error he, hcd, rfl⟩

/-- So do any number of calls. -/
theorem parseTimes (h : Simulation T R) : ∀ (n : Nat) {p : Parser σ} {q : Parser τ},
    R p.cursor q.cursor → p.levels = q.levels →
    List.Forall₂ (Parser.Alike T) (Parser.parseTimes n p) (Parser.parseTimes n q)
  | 0, _, _, _, _ => .nil
  | n + 1, _, _, hpq, hlevels => by
    obtain ⟨hresult, hpq', hlevels'⟩ := h.parse hpq hlevels
    exact .cons hresult (h.parseTimes n hpq' hlevels')

end Simulation

/-! ## Two lexers -/

namespace Lexer

theorem after_succ : ∀ (n : Nat) (l : Lexer), l.after (n + 1) = (l.after n).next.2
  | 0, _ => rfl
  | n + 1, l => after_succ n l.next.2

/-- Tokens of the same kind and text that two lexers give after the same number of tokens. -/
def SamePlace (l l' : Lexer) (t u : Token) : Prop :=
  t.kind = u.kind ∧ t.lexeme = u.lexeme ∧ ∃ n, t = (l.after n).next.1 ∧ u = (l'.after n).next.1

/-- Lexers that give the same kinds and texts are in step. -/
theorem simulation_after {l l' : Lexer}
    (h : ∀ n, (l.after n).next.1.kind = (l'.after n).next.1.kind ∧
      (l.after n).next.1.lexeme = (l'.after n).next.1.lexeme) :
    Simulation (SamePlace l l')
      fun c d => ∃ n, c = .ofSource (l.after n) ∧ d = .ofSource (l'.after n) where
  kind_eq := fun ht => ht.1
  lexeme_eq := fun ht => ht.2.1
  current := by
    rintro c d ⟨n, rfl, rfl⟩
    exact ⟨(h n).1, (h n).2, n, rfl, rfl⟩
  advance := by
    rintro c d ⟨n, rfl, rfl⟩
    exact ⟨n + 1, by rw [after_succ]; rfl, by rw [after_succ]; rfl⟩

/-- Every error of any number of calls is at a token that the lexer gives. -/
theorem exists_after_of_error {l : Lexer} {n : Nat} {e : SyntaxError}
    (h : .error e ∈ Parser.parseTimes n (Parser.ofSource l)) :
    ∃ k, e.token = (l.after k).next.1 := by
  have hself := (simulation_after (l := l) fun _ => ⟨rfl, rfl⟩).parseTimes n
    (p := .ofSource l) ⟨0, rfl, rfl⟩ rfl
  cases List.forall₂_same.1 hself _ h with
  | error he =>
    obtain ⟨-, -, k, htoken, -⟩ := Simulation.token_alike he
    exact ⟨k, htoken⟩

end Lexer

/-! ## A lexer and its tokens -/

/-- The same token, or the two ends of the input. -/
def Token.SameUpToEnd (stop stop' : Nat) (t u : Token) : Prop :=
  (t.kind ≠ .eof ∧ u = t) ∨ (t = Token.eof stop ∧ u = Token.eof stop')

namespace Lexer

theorem tokens_of_eof {l : Lexer} (h : l.next.1.kind = .eof) : l.tokens = [] := by
  rw [tokens, if_pos h]

theorem tokens_of_ne_eof {l : Lexer} (h : l.next.1.kind ≠ .eof) :
    l.tokens = l.next.1 :: l.next.2.tokens := by
  rw [tokens, if_neg h]

/-- A cursor over a lexer and one over the list of the tokens that it has left. The text ends at
`stop`, and the list at `stop'`. -/
def Replayed (stop stop' : Nat) (c : Cursor Lexer) (d : Cursor Replay) : Prop :=
  ∃ l : Lexer, l.offset + byteLength l.rest = stop ∧ c = .ofSource l ∧
    d = .ofSource ⟨l.tokens, stop'⟩

/-- A lexer is in step with the list of its tokens. -/
theorem simulation_replay (stop stop' : Nat) :
    Simulation (Token.SameUpToEnd stop stop') (Replayed stop stop') where
  kind_eq := by
    rintro t u (⟨-, rfl⟩ | ⟨rfl, rfl⟩)
    · rfl
    · rfl
  lexeme_eq := by
    rintro t u (⟨-, rfl⟩ | ⟨rfl, rfl⟩)
    · rfl
    · rfl
  current := by
    rintro c d ⟨l, rfl, rfl, rfl⟩
    by_cases h : l.next.1.kind = .eof
    · rw [tokens_of_eof h]
      exact Or.inr ⟨congrArg Prod.fst (next_of_kind_eof h).2, rfl⟩
    · rw [tokens_of_ne_eof h]
      exact Or.inl ⟨h, rfl⟩
  advance := by
    rintro c d ⟨l, rfl, rfl, rfl⟩
    refine ⟨l.next.2, stop_next l, rfl, ?_⟩
    by_cases h : l.next.1.kind = .eof
    · rw [tokens_of_eof h, (next_of_kind_eof h).2, tokens_nil]
      rfl
    · rw [tokens_of_ne_eof h]
      rfl

end Lexer

/-- Results of two parsers whose inputs end at `stop` and at `stop'` : the same filter, or errors
with the same message, which are at the same place or each at the end of its own input. -/
inductive Parser.SameUpToEnd (stop stop' : Nat) :
    Except SyntaxError Filter → Except SyntaxError Filter → Prop
  | ok (f : Filter) : SameUpToEnd stop stop' (.ok f) (.ok f)
  | error {e e' : SyntaxError} (hmessage : e.message = e'.message)
      (hkind : e.token.kind ≠ .eof) (hkind' : e'.token.kind ≠ .eof) (hspan : e.span = e'.span) :
      SameUpToEnd stop stop' (.error e) (.error e')
  | atEnd {e e' : SyntaxError} (hmessage : e.message = e'.message)
      (hkind : e.token.kind = .eof) (hkind' : e'.token.kind = .eof)
      (hspan : e.span = ⟨stop, stop⟩) (hspan' : e'.span = ⟨stop', stop'⟩) :
      SameUpToEnd stop stop' (.error e) (.error e')

theorem Parser.Alike.sameUpToEnd {stop stop' : Nat} {r r' : Except SyntaxError Filter}
    (h : Parser.Alike (Token.SameUpToEnd stop stop') r r') :
    Parser.SameUpToEnd stop stop' r r' := by
  cases h with
  | ok f => exact .ok f
  | error he =>
    have hmessage := (Lexer.simulation_replay stop stop').message_eq he
    rcases Simulation.token_alike he with ⟨hkind, htoken⟩ | ⟨htoken, htoken'⟩
    · exact .error hmessage hkind (htoken ▸ hkind) (congrArg Token.span htoken).symm
    · exact .atEnd hmessage (htoken ▸ rfl) (htoken' ▸ rfl) (congrArg Token.span htoken)
        (congrArg Token.span htoken')

/-- Any number of calls on a parser over a text and on one over the list of the text's tokens give
the same results one by one, except for the place of an error at the end of the input : this is the
end of the text for the first, and the end of the last token, or the beginning, for the second. -/
theorem parseTimes_lexer_replay (s : String) (n : Nat) :
    List.Forall₂
      (Parser.SameUpToEnd s.utf8ByteSize
        (((Lexer.ofString s).tokens.getLast?.map fun t => t.span.stop).getD 0))
      (Parser.parseTimes n (Parser.ofSource (Lexer.ofString s)))
      (Parser.parseTimes n (Parser.ofSource (Replay.ofList (Lexer.ofString s).tokens))) := by
  have hstop : (Lexer.ofString s).offset + byteLength (Lexer.ofString s).rest = s.utf8ByteSize :=
    (Nat.zero_add _).trans (byteLength_toList s)
  have hstart : Lexer.Replayed s.utf8ByteSize
      (((Lexer.ofString s).tokens.getLast?.map fun t => t.span.stop).getD 0)
      (.ofSource (Lexer.ofString s)) (.ofSource (Replay.ofList (Lexer.ofString s).tokens)) :=
    ⟨Lexer.ofString s, hstop, rfl, rfl⟩
  exact ((Lexer.simulation_replay _ _).parseTimes n hstart rfl).imp fun _ _ h => h.sameUpToEnd

end TagSelect
