import Mathlib.Computability.Language
import TagSelect.Proofs.Grammar

/-!
# The place of a syntax error

A parser fails at the first token that no filter has there : what comes before this token begins a
list of tokens that is accepted, and what ends with it does not.

A step of the parser goes along a language of words (`Cursor.Tracks`). If it succeeds, it has read
words of the language; if it fails, some words of the language begin with what it has read. Either
way it has looked at no more than these words and the one after them, so it does the same wherever
they come next. Two steps in turn go along the product of their languages (`Cursor.Tracks.bind`),
and the recursion of the parser puts the languages of the grammar together from those of single
words : `Cursor.tracks_unary` and `Cursor.tracks_chain` are by recursion on the levels left.

Words that a filter begins with are completed within the levels, since a name takes none and neither
does what closes a group. `parse_error_earliest` says this of lists of tokens.
-/

namespace TagSelect

open TagSelect.Filter

/-! ## Languages of the grammar -/

namespace Filter

theorem Word.kind_eq_of_ofToken_eq {t u : Token} (h : Word.ofToken t = Word.ofToken u) :
    t.kind = u.kind := by
  by_cases hu : u.kind = .identifier
  · rw [Word.ofToken_eq_name.2 ⟨hu, rfl⟩, Word.ofToken_eq_name] at h
    rw [h.1, hu]
  · rwa [(Word.ofToken_eq_mark hu).2 rfl, Word.ofToken_eq_mark hu] at h

/-- The words of the names of tags. -/
def nameWords : Language Word :=
  {ws | (∃ key, ws = [.name key]) ∨ ∃ key value, ws = [.name key, .mark .colon, .name value]}

/-- The words of the operands that need at most `n` levels. -/
def operandWords (n : Nat) : Language Word :=
  {ws | ∃ x : Operand, x.words = ws ∧ x.levels ≤ n}

/-- The words of the chains that need at most `n` levels. -/
def chainWords (n : Nat) : Language Word :=
  {ws | ∃ rest : Chain, rest.words = ws ∧ rest.levels ≤ n}

/-- The words of the phrases that need at most `n` levels. -/
def phraseWords (n : Nat) : Language Word :=
  {ws | ∃ p : Phrase, p.words = ws ∧ p.levels ≤ n}

theorem mem_operandWords_of_nameWords (n : Nat) : ∀ ws ∈ nameWords, ws ∈ operandWords n := by
  rintro ws (⟨key, rfl⟩ | ⟨key, value, rfl⟩)
  · exact ⟨.plain key, rfl, Nat.zero_le n⟩
  · exact ⟨.valued key value, rfl, Nat.zero_le n⟩

theorem mem_operandWords_of_not (n : Nat) :
    ∀ ws ∈ ({[.mark .not]} * (operandWords n * 1) : Language Word), ws ∈ operandWords (n + 1) := by
  rintro _ ⟨_, rfl, _, ⟨_, ⟨x, rfl, hx⟩, _, rfl, rfl⟩, rfl⟩
  exact ⟨.not x, by simp [Operand.words], Nat.succ_le_succ hx⟩

theorem mem_operandWords_of_group (n : Nat) :
    ∀ ws ∈ ({[.mark .leftParen]} * (operandWords n * (chainWords n * {[.mark .rightParen]})) :
      Language Word), ws ∈ operandWords (n + 1) := by
  rintro _ ⟨_, rfl, _, ⟨_, ⟨x, rfl, hx⟩, _, ⟨_, ⟨rest, rfl, hrest⟩, _, rfl, rfl⟩, rfl⟩, rfl⟩
  exact ⟨.parens x rest, by simp [Operand.words], Nat.succ_le_succ (Nat.max_le.2 ⟨hx, hrest⟩)⟩

theorem mem_chainWords_of_operator (op : Operator) (n : Nat) :
    ∀ ws ∈ ({[.mark op.kind]} * (operandWords n * chainWords n) : Language Word),
      ws ∈ chainWords (n + 1) := by
  rintro _ ⟨_, rfl, _, ⟨_, ⟨x, rfl, hx⟩, _, ⟨rest, rfl, hrest⟩, rfl⟩, rfl⟩
  exact ⟨.cons op x rest, rfl, Nat.succ_le_succ (Nat.max_le.2 ⟨hx, hrest⟩)⟩

theorem mem_phraseWords_of_mul (n : Nat) :
    ∀ ws ∈ operandWords n * chainWords n, ws ∈ phraseWords n := by
  rintro _ ⟨_, ⟨x, rfl, hx⟩, _, ⟨rest, rfl, hrest⟩, rfl⟩
  exact ⟨⟨x, rest⟩, rfl, Nat.max_le.2 ⟨hx, hrest⟩⟩

theorem exists_mem_operandWords (n : Nat) : ∃ ws, ws ∈ operandWords n :=
  ⟨_, .plain "a", rfl, Nat.zero_le n⟩

theorem nil_mem_chainWords (n : Nat) : [] ∈ chainWords n :=
  ⟨.nil, rfl, Nat.zero_le n⟩

end Filter

/-! ## Steps along a language -/

namespace Cursor

variable {σ α β : Type}

/-- The same word comes next at two cursors. -/
def SameWord (c d : Cursor σ) : Prop :=
  Word.ofToken d.current = Word.ofToken c.current

theorem SameWord.kind_eq {c d : Cursor σ} (h : SameWord c d) :
    d.current.kind = c.current.kind :=
  Word.kind_eq_of_ofToken_eq h

variable [Token.Source σ]

/-- The words between cursors and the word after them settle which word comes next. -/
theorem SameWord.of_reads {c c' d d' : Cursor σ} {ws : List Word} (hc : c.Reads ws c')
    (hd : d.Reads ws d') (h : SameWord c' d') : SameWord c d := by
  cases ws with
  | nil =>
    obtain rfl := hc
    obtain rfl := hd
    exact h
  | cons w ws => exact hd.1.trans hc.1.symm

/-- The step goes along the words of `L` from `c`. It does the same wherever the words that it read
come next, with the same word after them. -/
inductive Tracks (L : Language Word) (step : Cursor σ → Outcome σ α) (c : Cursor σ) : Prop
  | done {a : α} {c' : Cursor σ} {ws : List Word} (hstep : step c = .done a c') (hws : ws ∈ L)
      (hreads : c.Reads ws c')
      (hagain : ∀ d d', d.Reads ws d' → SameWord c' d' → step d = .done a d')
  | failed {e : SyntaxError} {c' c₁ : Cursor σ} {n : Nat} {ws vs : List Word}
      (hstep : step c = .failed e c' n) (hws : ws ++ vs ∈ L) (hreads : c.Reads ws c₁)
      (htoken : c₁.current = e.token)
      (hagain : ∀ d d', d.Reads ws d' → SameWord c₁ d' → ∃ e' d'' m, step d = .failed e' d'' m)

namespace Tracks

variable {L M : Language Word} {step step' : Cursor σ → Outcome σ α} {c : Cursor σ}

theorem mono (h : Tracks L step c) (hle : ∀ ws ∈ L, ws ∈ M) : Tracks M step c := by
  cases h with
  | done hstep hws hreads hagain => exact .done hstep (hle _ hws) hreads hagain
  | failed hstep hws hreads htoken hagain => exact .failed hstep (hle _ hws) hreads htoken hagain

/-- The step may be replaced by one that does the same where the same word comes next. -/
theorem congr (h : Tracks L step c) (hsame : ∀ d, SameWord c d → step' d = step d) :
    Tracks L step' c := by
  have hc : step' c = step c := hsame c rfl
  cases h with
  | done hstep hws hreads hagain =>
    refine .done (hc.trans hstep) hws hreads fun d d' hd hd' => ?_
    rw [hsame d (.of_reads hreads hd hd'), hagain d d' hd hd']
  | failed hstep hws hreads htoken hagain =>
    refine .failed (hc.trans hstep) hws hreads htoken fun d d' hd hd' => ?_
    rw [hsame d (.of_reads hreads hd hd')]
    exact hagain d d' hd hd'

theorem pure (a : α) (c : Cursor σ) : Tracks 1 (fun c => .done a c) c := by
  refine .done rfl Language.nil_mem_one rfl fun d d' hd _ => ?_
  obtain rfl := hd
  rfl

/-- A step that refuses the current token has read nothing, which begins every word. -/
theorem refuse (hL : ∃ ws, ws ∈ L)
    (hstep : ∀ d, SameWord c d → ∃ e d' n, step d = .failed e d' n ∧ e.token = d.current) :
    Tracks L step c := by
  obtain ⟨ws, hws⟩ := hL
  obtain ⟨e, c', n, hc, htoken⟩ := hstep c rfl
  have hnil : c.Reads [] c := rfl
  refine .failed hc (List.nil_append ws ▸ hws) hnil htoken.symm fun d d' hd hd' => ?_
  obtain rfl := hd
  obtain ⟨e', d'', m, hd, -⟩ := hstep _ hd'
  exact ⟨e', d'', m, hd⟩

/-- A step may begin by taking a mark. -/
theorem mark {k : Token.Kind} (hk : k ≠ .identifier) (hc : c.current.kind = k)
    (h : Tracks L step c.advance) : Tracks ({[.mark k]} * L) (fun c => step c.advance) c := by
  have hmem {ws : List Word} (hws : ws ∈ L) : .mark k :: ws ∈ ({[.mark k]} * L : Language Word) :=
    ⟨[.mark k], rfl, ws, hws, rfl⟩
  cases h with
  | done hstep hws hreads hagain =>
    refine .done hstep (hmem hws) ((reads_mark hk).2 ⟨hc, hreads⟩) fun d d' hd hd' => ?_
    exact hagain _ d' ((reads_mark hk).1 hd).2 hd'
  | failed hstep hws hreads htoken hagain =>
    refine .failed hstep (hmem hws) ((reads_mark hk).2 ⟨hc, hreads⟩) htoken fun d d' hd hd' => ?_
    exact hagain _ d' ((reads_mark hk).1 hd).2 hd'

/-- Two steps in turn go along the product of their languages. What the first one has begun when it
fails must have some continuation. -/
theorem bind {k : α → Cursor σ → Outcome σ β} (h : Tracks L step c)
    (hk : ∀ a c', Tracks M (k a) c') (hM : ∃ ws, ws ∈ M) :
    Tracks (L * M) (fun c => (step c).bind k) c := by
  cases h with
  | @failed e c' c₁ n ws vs hstep hws hreads htoken hagain =>
    obtain ⟨us, hus⟩ := hM
    have hmem : ws ++ (vs ++ us) ∈ L * M := ⟨ws ++ vs, hws, us, hus, List.append_assoc ..⟩
    refine .failed (by rw [hstep, Outcome.bind]) hmem hreads htoken fun d d' hd hd' => ?_
    obtain ⟨e', d'', m, hfail⟩ := hagain d d' hd hd'
    exact ⟨e', d'', m, by rw [hfail, Outcome.bind]⟩
  | @done a c' ws hstep hws hreads hagain =>
    -- the second step takes over at `c'`, and at each cursor where the first one ends alike
    have hsecond {d d' : Cursor σ} {vs : List Word} {c₁ : Cursor σ} (hc₁ : c'.Reads vs c₁)
        (hd : d.Reads (ws ++ vs) d') (hd' : SameWord c₁ d') :
        ∃ d₁, (step d).bind k = k a d₁ ∧ d₁.Reads vs d' := by
      obtain ⟨d₁, hd₁, hrest⟩ := reads_append.1 hd
      refine ⟨d₁, ?_, hrest⟩
      rw [hagain d d₁ hd₁ (.of_reads hc₁ hrest hd'), Outcome.bind]
    have hfirst : (step c).bind k = k a c' := by rw [hstep, Outcome.bind]
    cases hk a c' with
    | @done b c'' vs hstep' hvs hreads' hagain' =>
      refine .done (hfirst.trans hstep') ⟨ws, hws, vs, hvs, rfl⟩
        (reads_append.2 ⟨c', hreads, hreads'⟩) fun d d' hd hd' => ?_
      obtain ⟨d₁, heq, hd₁⟩ := hsecond hreads' hd hd'
      exact heq.trans (hagain' d₁ d' hd₁ hd')
    | @failed e c'' c₁ n vs us hstep' hvs hreads' htoken hagain' =>
      have hmem : ws ++ vs ++ us ∈ L * M := ⟨ws, hws, vs ++ us, hvs, (List.append_assoc ..).symm⟩
      refine .failed (hfirst.trans hstep') hmem (reads_append.2 ⟨c', hreads, hreads'⟩) htoken
        fun d d' hd hd' => ?_
      obtain ⟨d₁, heq, hd₁⟩ := hsecond hreads' hd hd'
      obtain ⟨e', d'', m, hfail⟩ := hagain' d₁ d' hd₁ hd'
      exact ⟨e', d'', m, heq.trans hfail⟩

end Tracks

/-! ## The steps of the parser -/

/-- Taking a mark and going on with a result goes along this mark. -/
theorem tracks_expect {k : Token.Kind} (hk : k ≠ .identifier) (expected : Expected) (n : Nat)
    (a : α) (c : Cursor σ) :
    Tracks {[.mark k]} (fun c => (c.expect k expected n).bind fun _ c => .done a c) c := by
  by_cases hc : c.current.kind = k
  · refine (((Tracks.pure a c.advance).mark hk hc).mono ?_).congr fun d hd => ?_
    · rw [mul_one]
      exact fun _ hws => hws
    · simp [expect, hd.kind_eq, hc, Outcome.bind]
  · refine .refuse ⟨_, rfl⟩ fun d hd => ?_
    have hd' : d.current.kind ≠ k := fun h => hc (hd.kind_eq ▸ h)
    exact ⟨.unexpected expected d.current, d, n, by simp [expect, hd', Outcome.bind], rfl⟩

/-- Reading a name goes along the words of names. -/
theorem tracks_tagName (n : Nat) (c : Cursor σ) : Tracks nameWords (tagName n) c := by
  have hplain (key : String) : [.name key] ∈ nameWords := Or.inl ⟨key, rfl⟩
  have hvalued (key value : String) : [.name key, .mark .colon, .name value] ∈ nameWords :=
    Or.inr ⟨key, value, rfl⟩
  by_cases hkey : c.current.kind = .identifier
  swap
  · refine .refuse ⟨_, hplain "a"⟩ fun d hd => ?_
    have hd' : d.current.kind ≠ .identifier := fun h => hkey (hd.kind_eq ▸ h)
    exact ⟨.unexpected .identifier d.current, d, n,
      by simp [tagName, expect, hd', Outcome.bind], rfl⟩
  by_cases hcolon : c.advance.current.kind = .colon
  swap
  · refine .done (tagName_eq_done.2 ⟨hkey, Or.inl ⟨hcolon, rfl, rfl⟩⟩) (hplain _)
      (reads_name.2 ⟨⟨hkey, rfl⟩, rfl⟩) fun d d' hd hd' => ?_
    obtain ⟨⟨hdkey, hlexeme⟩, rfl⟩ := reads_name.1 hd
    refine tagName_eq_done.2 ⟨hdkey, Or.inl ⟨?_, by rw [hlexeme], rfl⟩⟩
    rwa [hd'.kind_eq]
  have hcut {d d' : Cursor σ} {key : String} {ws : List Word} :
      d.Reads (.name key :: .mark .colon :: ws) d' ↔
        (d.current.kind = .identifier ∧ d.current.lexeme = key) ∧
          d.advance.current.kind = .colon ∧ d.advance.advance.Reads ws d' := by
    rw [reads_name, reads_mark (by decide)]
  by_cases hvalue : c.advance.advance.current.kind = .identifier
  · refine .done (tagName_eq_done.2 ⟨hkey, Or.inr ⟨hcolon, hvalue, rfl, rfl⟩⟩) (hvalued _ _)
      (hcut.2 ⟨⟨hkey, rfl⟩, hcolon, reads_name.2 ⟨⟨hvalue, rfl⟩, rfl⟩⟩) fun d d' hd _ => ?_
    obtain ⟨⟨hdkey, hlexeme⟩, hdcolon, hd⟩ := hcut.1 hd
    obtain ⟨⟨hdvalue, hvalue'⟩, rfl⟩ := reads_name.1 hd
    exact tagName_eq_done.2
      ⟨hdkey, Or.inr ⟨hdcolon, hdvalue, by rw [hlexeme, hvalue'], rfl⟩⟩
  · have hfail (d : Cursor σ) (hdkey : d.current.kind = .identifier)
        (hdcolon : d.advance.current.kind = .colon)
        (hdvalue : d.advance.advance.current.kind ≠ .identifier) : d.tagName n =
          .failed (.unexpected .metaValue d.advance.advance.current) d.advance.advance n := by
      simp [tagName, expect, hdkey, hdcolon, hdvalue, Outcome.bind]
    have hreads : c.Reads [.name c.current.lexeme, .mark .colon] c.advance.advance :=
      hcut.2 ⟨⟨hkey, rfl⟩, hcolon, rfl⟩
    refine .failed (hfail c hkey hcolon hvalue) (hvalued c.current.lexeme "a") hreads rfl
      fun d d' hd hd' => ?_
    obtain ⟨⟨hdkey, -⟩, hdcolon, rfl⟩ := hcut.1 hd
    exact ⟨_, _, _, hfail d hdkey hdcolon fun h => hvalue (hd'.kind_eq ▸ h)⟩

mutual

/-- Reading an operand goes along the words of operands. -/
theorem tracks_unary : ∀ (n : Nat) (c : Cursor σ), Tracks (operandWords n) (unary n) c
  | n, c => by
    have hdeep (hk : c.current.kind = .not ∨ c.current.kind = .leftParen) (hn : n = 0) :
        Tracks (operandWords n) (unary n) c := by
      subst hn
      refine .refuse (exists_mem_operandWords 0) fun d hd => ?_
      refine ⟨.tooDeep d.current, d.advance, 0, ?_, rfl⟩
      rw [← hd.kind_eq] at hk
      rcases hk with hk | hk <;> simp [unary, hk]
    cases hk : c.current.kind with
    | not =>
      cases n with
      | zero => exact hdeep (Or.inl hk) rfl
      | succ n =>
        have hrest := (tracks_unary n c.advance).bind (fun f c' => .pure f.not c')
          ⟨[], Language.nil_mem_one⟩
        refine ((hrest.mark (by decide) hk).mono (mem_operandWords_of_not n)).congr fun d hd => ?_
        simp [unary, hd.kind_eq, hk]
    | leftParen =>
      cases n with
      | zero => exact hdeep (Or.inr hk) rfl
      | succ n =>
        have hclose (f : Filter) (c' : Cursor σ) := tracks_expect (k := .rightParen) (by decide)
          .closingParenthesis n f c'
        have hchain (first : Filter) (c' : Cursor σ) :=
          (tracks_chain n first c').bind hclose ⟨_, rfl⟩
        have hrest := (tracks_unary n c.advance).bind hchain
          ⟨_, [], nil_mem_chainWords n, _, rfl, rfl⟩
        refine ((hrest.mark (by decide) hk).mono (mem_operandWords_of_group n)).congr fun d hd => ?_
        simp [unary, hd.kind_eq, hk]
    | _ =>
      refine ((tracks_tagName n c).mono (mem_operandWords_of_nameWords n)).congr fun d hd => ?_
      cases n <;> simp [unary, hd.kind_eq, hk]
termination_by n => n

/-- Reading operators and operands goes along the words of chains. -/
theorem tracks_chain : ∀ (n : Nat) (left : Filter) (c : Cursor σ),
    Tracks (chainWords n) (chain n left) c
  | n, left, c => by
    cases hop : Operator.ofKind? c.current.kind with
    | none =>
      refine ((Tracks.pure left c).mono ?_).congr fun d hd => ?_
      · rintro _ rfl
        exact nil_mem_chainWords n
      · cases n <;> simp [chain, hd.kind_eq, hop]
    | some op =>
      cases n with
      | zero =>
        refine .refuse ⟨_, nil_mem_chainWords 0⟩ fun d hd => ?_
        exact ⟨.tooDeep d.current, d.advance, 0, by simp [chain, hd.kind_eq, hop], rfl⟩
      | succ n =>
        have hrest := (tracks_unary n c.advance).bind
          (fun right c' => tracks_chain n (op.join left right) c') ⟨_, nil_mem_chainWords n⟩
        have hmark := hrest.mark op.kind_ne_identifier (Operator.ofKind?_eq_some.1 hop)
        refine (hmark.mono (mem_chainWords_of_operator op n)).congr fun d hd => ?_
        simp [chain, hd.kind_eq, hop]
termination_by n => n

end

/-- Reading operands with operators between them goes along the words of phrases. -/
theorem tracks_binary (n : Nat) (c : Cursor σ) : Tracks (phraseWords n) (binary n) c :=
  ((tracks_unary n c).bind (fun first c' => tracks_chain n first c')
    ⟨_, nil_mem_chainWords n⟩).mono (mem_phraseWords_of_mul n)

/-- If a filter is not read, the words before the token of the error begin a phrase, and no filter
is read wherever these words come next with the word of that token after them. -/
theorem exists_prefix_of_filter_failed {c c' : Cursor σ} {n m : Nat} {e : SyntaxError}
    (h : c.filter n = .failed e c' m) : ∃ ws vs c₁, ws ++ vs ∈ phraseWords n ∧ c.Reads ws c₁ ∧
      c₁.current = e.token ∧
      ∀ d d' : Cursor σ, d.Reads ws d' → SameWord c₁ d' →
        ∃ e' d'' m', d.filter n = .failed e' d'' m' := by
  have hc : c.current.kind ≠ .eof := fun hc => by simp [Cursor.filter, hc] at h
  have hfilter (d : Cursor σ) (hd : SameWord c d) : d.filter n = (d.binary n).bind fun f c =>
      (c.expect .eof .endOfInput n).bind fun _ c => .done f c := by
    simp [Cursor.filter, hd.kind_eq, hc]
  rw [hfilter c rfl] at h
  cases tracks_binary n c with
  | @failed e₁ c₂ c₁ m₁ ws vs hstep hws hreads htoken hagain =>
    rw [hstep] at h
    obtain ⟨rfl, -⟩ := Outcome.failed.inj h
    refine ⟨ws, vs, c₁, hws, hreads, htoken, fun d d' hd hd' => ?_⟩
    obtain ⟨e', d'', m', hfail⟩ := hagain d d' hd hd'
    exact ⟨e', d'', m', by rw [hfilter d (.of_reads hreads hd hd'), hfail, Outcome.bind]⟩
  | @done f c₁ ws hstep hws hreads hagain =>
    -- the phrase was read, and its end is not the end of the input
    rw [hstep, Outcome.bind] at h
    have heof : c₁.current.kind ≠ .eof := fun heof => by
      simp [expect, heof, Outcome.bind] at h
    simp only [expect, if_neg heof, Outcome.bind] at h
    obtain ⟨rfl, -⟩ := Outcome.failed.inj h
    refine ⟨ws, [], c₁, by rwa [List.append_nil], hreads, rfl, fun d d' hd hd' => ?_⟩
    have hd'eof : d'.current.kind ≠ .eof := fun heof' => heof (hd'.kind_eq ▸ heof')
    refine ⟨.unexpected .endOfInput d'.current, d', n, ?_⟩
    rw [hfilter d (.of_reads hreads hd hd'), hagain d d' hd hd']
    simp [expect, hd'eof, Outcome.bind]

end Cursor

/-! ## Lists of tokens -/

namespace Filter

/-- A token that says a word. -/
def Word.token : Word → Token
  | .mark kind => ⟨kind, "", ⟨0, 0⟩⟩
  | .name text => ⟨.identifier, text, ⟨0, 0⟩⟩

theorem Word.ofToken_token {w : Word} (h : w ≠ .mark .identifier) : Word.ofToken w.token = w := by
  cases w with
  | mark kind => exact (Word.ofToken_eq_mark fun hk => h (hk ▸ rfl)).2 rfl
  | name text => exact Word.ofToken_eq_name.2 ⟨rfl, rfl⟩

mutual

theorem Operand.identifier_not_mem_words : ∀ x : Operand, .mark .identifier ∉ x.words
  | .plain _ => by simp [Operand.words]
  | .valued _ _ => by simp [Operand.words]
  | .not x => by simp [Operand.words, x.identifier_not_mem_words]
  | .parens x rest => by
    simp [Operand.words, x.identifier_not_mem_words, rest.identifier_not_mem_words]

theorem Chain.identifier_not_mem_words : ∀ rest : Chain, .mark .identifier ∉ rest.words
  | .nil => by simp [Chain.words]
  | .cons op x rest => by
    simp [Chain.words, op.kind_ne_identifier.symm, x.identifier_not_mem_words,
      rest.identifier_not_mem_words]

end

/-- The words of a phrase are said by tokens other than the end of the input. -/
theorem Phrase.of_mem_words {p : Phrase} {w : Word} (h : w ∈ p.words) :
    Word.ofToken w.token = w ∧ w ≠ .mark .eof := by
  constructor
  · refine Word.ofToken_token fun hw => ?_
    rw [Phrase.words, hw] at h
    exact (List.mem_append.1 h).elim p.first.identifier_not_mem_words
      p.rest.identifier_not_mem_words
  · rintro rfl
    exact (List.mem_append.1 h).elim p.first.eof_not_mem_words p.rest.eof_not_mem_words

end Filter

namespace Replay

/-- Tokens of a list are read one by one, whatever comes after them. -/
theorem reads_append (stop : Nat) (rest : List Token) : ∀ ts : List Token,
    (Cursor.ofSource (⟨ts ++ rest, stop⟩ : Replay)).Reads (ts.map Word.ofToken)
      (Cursor.ofSource (⟨rest, stop⟩ : Replay))
  | [] => rfl
  | _ :: ts => ⟨rfl, reads_append stop rest ts⟩

/-- Words without the end of the input that are read from a list of tokens are said by its first
tokens, and the token after them is the current one. -/
theorem exists_split_of_reads {stop : Nat} {t : Token} (ht : t.kind = .eof) :
    ∀ {ts : List Token} {ws : List Word} {c : Cursor Replay},
      (Cursor.ofSource (⟨ts ++ [t], stop⟩ : Replay)).Reads ws c → .mark .eof ∉ ws →
        ∃ before after, ts ++ [t] = before ++ c.current :: after ∧ before.map Word.ofToken = ws
  | [], [], c, h, _ => by
    obtain rfl := h
    exact ⟨[], [], rfl, rfl⟩
  | u :: ts, [], c, h, _ => by
    obtain rfl := h
    exact ⟨[], ts ++ [t], rfl, rfl⟩
  | [], w :: ws, c, h, hws => by
    have hw : w = .mark .eof := h.1.symm.trans ((Word.ofToken_eq_mark (by decide)).2 ht)
    exact absurd (hw ▸ List.mem_cons_self) hws
  | u :: ts, w :: ws, c, h, hws => by
    obtain ⟨before, after, hsplit, hmap⟩ :=
      exists_split_of_reads ht h.2 (mt (List.mem_cons_of_mem w) hws)
    refine ⟨u :: before, after, by rw [List.cons_append, hsplit, List.cons_append], ?_⟩
    rw [List.map_cons, hmap, ← h.1]
    rfl

end Replay

/-- A new parser reads a filter from a list of tokens. -/
def Parser.Accepts (ts : List Token) : Prop :=
  ∃ f, (Parser.ofSource (Replay.ofList ts)).parse.1 = .ok f

/-- Tokens that say words of a phrase, up to an end of the input, are accepted if the phrase needs
no more levels than a parser has. -/
theorem Parser.accepts_of_phraseWords {ts : List Token} {t : Token} (ht : t.kind = .eof)
    (h : ts.map Word.ofToken ∈ phraseWords maxLevels) : Parser.Accepts (ts ++ [t]) := by
  obtain ⟨p, hp, hle⟩ := h
  refine ⟨p.filter, Parser.parse_eq_ok.2 ?_⟩
  refine (Cursor.filter_eq_done_iff (Replay.reads_ofSource _ t ts) ht ?_ _ _).2
    (Or.inr ⟨p, hp, rfl, hle⟩)
  exact fun heof => (Phrase.of_mem_words (hp ▸ heof)).2 rfl

theorem Parser.parse_eq_error {σ : Type} [Token.Source σ] {p : Parser σ} {e : SyntaxError} :
    p.parse.1 = .error e ↔ ∃ c n, p.cursor.filter p.levels = .failed e c n := by
  unfold Parser.parse
  cases p.cursor.filter p.levels <;> simp

/-- If a new parser refuses tokens that end with an end of the input, its error has the place of a
token such that the tokens before this one begin some tokens that are accepted, which have their
only end of the input at their end, while no tokens are accepted that begin with the tokens up to
and with this one. -/
theorem parse_error_earliest (ts : List Token) (t : Token) (ht : t.kind = .eof) (e : SyntaxError)
    (h : (Parser.ofSource (Replay.ofList (ts ++ [t]))).parse.1 = .error e) :
    ∃ before found after, ts ++ [t] = before ++ found :: after ∧ e.span = found.span ∧
      (∃ us u, u.kind = .eof ∧ (∀ t' ∈ before ++ us, t'.kind ≠ .eof) ∧
        Parser.Accepts (before ++ us ++ [u])) ∧
      ∀ us, ¬Parser.Accepts (before ++ found :: us) := by
  obtain ⟨c, n, hfail⟩ := Parser.parse_eq_error.1 h
  obtain ⟨ws, vs, c₁, ⟨p, hp, hle⟩, hreads, htoken, hagain⟩ :=
    Cursor.exists_prefix_of_filter_failed hfail
  have hwords {w : Word} (hw : w ∈ ws ++ vs) : Word.ofToken w.token = w ∧ w ≠ .mark .eof :=
    Phrase.of_mem_words (hp ▸ hw)
  obtain ⟨before, after, hsplit, hmap⟩ := Replay.exists_split_of_reads ht hreads
    fun heof => (hwords (List.mem_append_left vs heof)).2 rfl
  have hvs : (vs.map Word.token).map Word.ofToken = vs := by
    rw [List.map_map]
    exact (List.map_congr_left fun w hw => (hwords (List.mem_append_right ws hw)).1).trans
      (List.map_id vs)
  have hall : (before ++ vs.map Word.token).map Word.ofToken = ws ++ vs := by
    rw [List.map_append, hmap, hvs]
  refine ⟨before, c₁.current, after, hsplit, ?_, ⟨vs.map Word.token, t, ht, ?_, ?_⟩, ?_⟩
  · rw [SyntaxError.span, htoken]
  · intro t' ht' heof
    have hmem : Word.ofToken t' ∈ ws ++ vs := hall ▸ List.mem_map_of_mem ht'
    exact (hwords hmem).2 ((Word.ofToken_eq_mark (by decide)).2 heof)
  · exact Parser.accepts_of_phraseWords ht ⟨p, hp.trans hall.symm, hle⟩
  · rintro us ⟨f, hf⟩
    obtain ⟨c', hdone⟩ := Parser.parse_eq_ok.1 hf
    have hreads' := Replay.reads_append (Replay.ofList (before ++ c₁.current :: us)).stop
      (c₁.current :: us) before
    rw [hmap] at hreads'
    obtain ⟨e', d, m, hfailed⟩ := hagain _ _ hreads' rfl
    cases hdone.symm.trans hfailed

/-- A group that is opened once too often, and a colon without a value. -/
theorem group_and_colon_errors :
    let group := (List.range 257).map fun i => (⟨.leftParen, "(", ⟨i, i + 1⟩⟩ : Token)
    let colon : List Token :=
      [⟨.not, "!", ⟨0, 1⟩⟩, ⟨.identifier, "a", ⟨1, 2⟩⟩, ⟨.colon, ":", ⟨2, 3⟩⟩,
        ⟨.and, "&", ⟨4, 5⟩⟩, ⟨.identifier, "b", ⟨6, 7⟩⟩]
    let errors (ts : List Token) (e : SyntaxError) : Prop :=
      (Parser.ofSource (Replay.ofList ts)).parse.1 = .error e ∧
        ∃ before found after, ts = before ++ found :: after ∧ e.span = found.span ∧
          (∃ us u, u.kind = .eof ∧ (∀ t ∈ before ++ us, t.kind ≠ .eof) ∧
            Parser.Accepts (before ++ us ++ [u])) ∧
          ∀ us, ¬Parser.Accepts (before ++ found :: us)
    (Token.eof 257).kind = .eof ∧
      errors (group ++ [Token.eof 257]) (.tooDeep ⟨.leftParen, "(", ⟨256, 257⟩⟩) ∧
      (Token.eof 7).kind = .eof ∧
      errors (colon ++ [Token.eof 7]) (.unexpected .metaValue ⟨.and, "&", ⟨4, 5⟩⟩) := by
  intro group colon errors
  have hdeep : (Parser.ofSource (Replay.ofList (group ++ [Token.eof 257]))).parse.1 =
      .error (.tooDeep ⟨.leftParen, "(", ⟨256, 257⟩⟩) := by decide +kernel
  have hvalue : (Parser.ofSource (Replay.ofList (colon ++ [Token.eof 7]))).parse.1 =
      .error (.unexpected .metaValue ⟨.and, "&", ⟨4, 5⟩⟩) := by decide +kernel
  exact ⟨rfl, ⟨hdeep, parse_error_earliest group (Token.eof 257) rfl _ hdeep⟩,
    rfl, hvalue, parse_error_earliest colon (Token.eof 7) rfl _ hvalue⟩

end TagSelect
