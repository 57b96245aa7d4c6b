import Mathlib.Data.List.TakeWhile
import TagSelect.Proofs.Blanks
import TagSelect.Proofs.Simulation

/-!
# White space between tokens

Which white space stands between the tokens of a text has no influence on what is read, as long as
there is some between two names.

`Spaced` says that a text is made of the texts of given tokens, each with white space after it. A
token that fits somewhere fits there too (`Token.Fits.relocate`) : marks and stray characters fit
anywhere, and a name is followed by white space, by nothing, or by a token of another kind, which
does not begin with a name character. Reading a spaced text therefore gives tokens of the same kinds
with the same texts (`Spaced.map_tokens`), and the lexers of the two texts are in step.

`parse_spaced` says what this means for parsing : the same filter, or an error with the same message
at the token with the same number.
-/

namespace TagSelect

open Text TagSelect.Filter

/-- The text is made of the texts of the tokens in order. Each is followed by white space, and there
is some between two names. -/
inductive Spaced : List Token → List Char → Prop
  | nil : Spaced [] []
  | cons {t : Token} {ts : List Token} {gap cs : List Char} (hgap : ∀ c ∈ gap, isBlank c = true)
      (hnames : t.kind = .identifier → ∀ u ∈ ts.head?, u.kind = .identifier → gap ≠ [])
      (h : Spaced ts cs) : Spaced (t :: ts) (t.lexeme.toList ++ (gap ++ cs))

/-! ## Tokens in another place -/

namespace Token

/-- The token fits somewhere. -/
def FitsSomewhere (t : Token) : Prop :=
  ∃ before after, Fits before after t.kind t.lexeme.toList

/-- Only names depend on what comes after them. -/
theorem Fits.relocate {before after after' cs : List Char} {k : Kind} (h : Fits before after k cs)
    (hafter : k = .identifier → ∀ c ∈ after'.head?, isNameChar c = false) :
    Fits [] after' k cs := by
  cases h with
  | mark hc => exact .mark hc
  | name hne hcs _ _ => exact .name hne hcs (by simp) (hafter rfl)
  | stray hblank hmark hname => exact .stray hblank hmark hname

/-- What is no name has no name characters. -/
theorem Fits.isNameChar_eq_false {before after cs : List Char} {k : Kind}
    (h : Fits before after k cs) (hk : k ≠ .identifier) : ∀ c ∈ cs, isNameChar c = false := by
  cases h with
  | mark hc =>
    exact List.forall_mem_singleton.2 (not_punctuation (ofPunctuation?_eq_some_iff.2 hc)).2.1
  | name _ _ _ _ => exact absurd rfl hk
  | stray hblank hmark hname => exact List.forall_mem_singleton.2 hname

end Token

/-- After white space the lexer reads a token that fits in front of what is left. -/
theorem Lexer.next_of_fits {gap after cs : List Char} {k : Token.Kind}
    (hgap : ∀ c ∈ gap, isBlank c = true) (h : Token.Fits [] after k cs) (offset : Nat) :
    next ⟨gap ++ (cs ++ after), offset⟩ = emit (offset + byteLength gap) k cs after := by
  obtain ⟨c, rest, hcs, hblank, hscan⟩ := h.scan_eq
  have hdrop : (gap ++ (c :: rest)).dropWhile isBlank = c :: rest := by
    rw [List.dropWhile_append_of_pos hgap, List.dropWhile_cons_of_neg (by simp [hblank])]
  have htake : (gap ++ (c :: rest)).takeWhile isBlank = gap := by
    rw [List.takeWhile_append_of_pos hgap, List.takeWhile_cons_of_neg (by simp [hblank]),
      List.append_nil]
  rw [hcs, next_of_dropWhile_eq_cons hdrop]
  dsimp only
  rw [htake, hscan]

namespace Spaced

variable {t : Token} {ts : List Token} {gap cs : List Char}

/-- A name is not followed by a name character. -/
theorem isNameChar_head? (hts : ∀ u ∈ ts, u.FitsSomewhere) (hgap : ∀ c ∈ gap, isBlank c = true)
    (hnames : ∀ u ∈ ts.head?, u.kind = .identifier → gap ≠ []) (h : Spaced ts cs) :
    ∀ c ∈ (gap ++ cs).head?, isNameChar c = false := by
  intro c hc
  cases gap with
  | cons b gap =>
    obtain rfl : b = c := by simpa using hc
    exact isNameChar_eq_false_of_isBlank (hgap b List.mem_cons_self)
  | nil =>
    cases h with
    | nil => simp at hc
    | @cons u ts gap cs _ _ _ =>
      obtain ⟨before, after, hfits⟩ := hts u List.mem_cons_self
      have hkind : u.kind ≠ .identifier := fun hu => hnames u rfl hu rfl
      obtain ⟨d, ds, hlexeme⟩ := List.exists_cons_of_ne_nil hfits.ne_nil
      obtain rfl : d = c := by simpa [hlexeme] using hc
      exact hfits.isNameChar_eq_false hkind d (by simp [hlexeme])

/-- The tokens of a spaced text have the kinds and texts of the tokens that it is made of. -/
theorem map_tokens (h : Spaced ts cs) :
    (∀ t ∈ ts, t.FitsSomewhere) → ∀ {lead : List Char}, (∀ c ∈ lead, isBlank c = true) → ∀ offset,
      (Lexer.tokens ⟨lead ++ cs, offset⟩).map (fun t => (t.kind, t.lexeme)) =
        ts.map fun t => (t.kind, t.lexeme) := by
  induction h with
  | nil =>
    intro _ lead hlead offset
    have hdrop : (lead ++ []).dropWhile isBlank = [] := by
      rw [List.append_nil, List.dropWhile_eq_nil_iff]
      exact hlead
    rw [Lexer.tokens_of_eof (Lexer.next_of_dropWhile_eq_nil hdrop), List.map_nil]
  | @cons t ts gap cs hgap hnames h ih =>
    intro hts lead hlead offset
    obtain ⟨⟨before, after, hfits⟩, hts⟩ := List.forall_mem_cons.1 hts
    have hnext := Lexer.next_of_fits hlead
      (hfits.relocate fun hk => h.isNameChar_head? hts hgap (hnames hk)) offset
    have hkind : (Lexer.next ⟨lead ++ (t.lexeme.toList ++ (gap ++ cs)), offset⟩).1.kind ≠ .eof := by
      rw [hnext]
      exact hfits.kind_ne_eof
    rw [Lexer.tokens_of_ne_eof hkind, hnext, Lexer.emit, List.map_cons, List.map_cons, ih hts hgap,
      String.ofList_toList]

end Spaced

/-! ## Numbered tokens -/

namespace Lexer

/-- The tokens of a text with the end of the input after them. -/
def stream (s : String) : List Token :=
  (ofString s).tokens ++ [Token.eof s.utf8ByteSize]

/-- What is read after a number of tokens is the token with this number, or the end of the input. -/
theorem getElem?_stream (s : String) (n : Nat) :
    (stream s)[min n (ofString s).tokens.length]? = some ((ofString s).after n).next.1 := by
  rw [next_after_ofString, stream]
  rcases Nat.lt_or_ge n (ofString s).tokens.length with hlt | hge
  · rw [Nat.min_eq_left (Nat.le_of_lt hlt), List.getElem?_append_left hlt,
      List.getElem?_eq_getElem hlt, Option.getD_some]
  · rw [Nat.min_eq_right hge, List.getElem?_concat_length, List.getElem?_eq_none hge,
      Option.getD_none]

/-- Lexers whose tokens have the same kinds and texts give the same kinds and texts for ever. -/
theorem same_after {s s' : String}
    (h : (ofString s').tokens.map (fun t => (t.kind, t.lexeme)) =
      (ofString s).tokens.map fun t => (t.kind, t.lexeme)) (n : Nat) :
    ((ofString s).after n).next.1.kind = ((ofString s').after n).next.1.kind ∧
      ((ofString s).after n).next.1.lexeme = ((ofString s').after n).next.1.lexeme := by
  have hsaid (s : String) :
      (((ofString s).after n).next.1.kind, ((ofString s).after n).next.1.lexeme) =
        ((ofString s).tokens.map fun t => (t.kind, t.lexeme))[n]?.getD (.eof, "") := by
    rw [next_after_ofString, List.getElem?_map]
    cases (ofString s).tokens[n]? with
    | none => rfl
    | some t => rfl
  exact Prod.mk.inj ((hsaid s).trans (h ▸ (hsaid s').symm))

end Lexer

/-- The texts of the tokens of `s` make up `s'`, with any white space before, between and after
them, and with some between two names. Then the tokens of `s'` have the same kinds and texts. The
same filter is read from both texts, or an error with the same message is found at tokens with the
same number, where the end of the text comes after all others. -/
theorem parse_spaced (s s' : String) (lead cs : List Char) (hs' : s'.toList = lead ++ cs)
    (hlead : ∀ c ∈ lead, isBlank c = true) (hcs : Spaced (Lexer.ofString s).tokens cs) :
    (Lexer.ofString s').tokens.map (fun t => (t.kind, t.lexeme)) =
        (Lexer.ofString s).tokens.map (fun t => (t.kind, t.lexeme)) ∧
      (∀ f, parse s' = .ok f ↔ parse s = .ok f) ∧
      ∀ e, parse s = .error e → ∃ (e' : SyntaxError) (i : Nat),
        parse s' = .error e' ∧ e'.message = e.message ∧
        (Lexer.stream s)[i]? = some e.token ∧ (Lexer.stream s')[i]? = some e'.token := by
  have htokens : (Lexer.ofString s').tokens.map (fun t => (t.kind, t.lexeme)) =
      (Lexer.ofString s).tokens.map fun t => (t.kind, t.lexeme) := by
    have hfits : ∀ t ∈ (Lexer.ofString s).tokens, t.FitsSomewhere := fun t ht => by
      obtain ⟨before, after, -, hstands⟩ := Lexer.exists_stands_of_mem_tokens ht
      exact ⟨before, after, hstands.fits⟩
    rw [Lexer.ofString, hs']
    exact hcs.map_tokens hfits hlead 0
  have hlength : (Lexer.ofString s').tokens.length = (Lexer.ofString s).tokens.length := by
    simpa using congrArg List.length htokens
  have hsim := Lexer.simulation_after (Lexer.same_after htokens)
  obtain ⟨halike, -⟩ := hsim.parse (p := .ofSource (Lexer.ofString s))
    (q := .ofSource (Lexer.ofString s')) ⟨0, rfl, rfl⟩ rfl
  refine ⟨htokens, fun f => halike.eq_ok_iff f, fun e he => ?_⟩
  obtain ⟨e', hparse, he'⟩ := halike.exists_error he
  obtain ⟨-, -, n, htoken, htoken'⟩ := Simulation.token_alike he'
  refine ⟨e', min n (Lexer.ofString s).tokens.length, hparse, (hsim.message_eq he').symm, ?_, ?_⟩
  · rw [Lexer.getElem?_stream, htoken]
  · rw [← hlength, Lexer.getElem?_stream, htoken']

/-- Two names after a mark. The second one is too much, wherever it stands. -/
theorem parse_spaced_names :
    let s := "!a b"
    let s' := "\u3000! a\n\u2003b "
    let lead := ['\u3000']
    let cs := ['!', ' ', 'a', '\n', '\u2003', 'b', ' ']
    let e : SyntaxError := .unexpected .endOfInput ⟨.identifier, "b", ⟨3, 4⟩⟩
    (s'.toList = lead ++ cs ∧ (∀ c ∈ lead, isBlank c = true) ∧
      Spaced (Lexer.ofString s).tokens cs ∧ parse s = .error e) ∧
    ∃ (e' : SyntaxError) (i : Nat), parse s' = .error e' ∧ e'.message = e.message ∧
      (Lexer.stream s)[i]? = some e.token ∧ (Lexer.stream s')[i]? = some e'.token := by
  intro s s' lead cs e
  have htokens : (Lexer.ofString s).tokens = [⟨.not, "!", ⟨0, 1⟩⟩, ⟨.identifier, "a", ⟨1, 2⟩⟩,
      ⟨.identifier, "b", ⟨3, 4⟩⟩] := by
    rw [Lexer.tokens_of_ne_eof (by decide +kernel), Lexer.tokens_of_ne_eof (by decide +kernel),
      Lexer.tokens_of_ne_eof (by decide +kernel), Lexer.tokens_of_eof (by decide +kernel)]
    decide +kernel
  have hs' : s'.toList = lead ++ cs := by decide +kernel
  have hlead : ∀ c ∈ lead, isBlank c = true := List.forall_mem_singleton.2 (by decide +kernel)
  have hcs : Spaced (Lexer.ofString s).tokens cs := by
    have hsplit : cs = "!".toList ++ ([' '] ++ ("a".toList ++ (['\n', '\u2003'] ++
        ("b".toList ++ ([' '] ++ []))))) := by decide +kernel
    rw [htokens, hsplit]
    refine .cons ?_ (fun h => nomatch h) (.cons ?_ (fun _ _ _ _ => List.cons_ne_nil _ _)
      (.cons ?_ (fun _ _ h => nomatch h) .nil))
    all_goals exact List.all_eq_true.1 (by decide +kernel)
  have hparse : parse s = .error e := by decide +kernel
  exact ⟨⟨hs', hlead, hcs, hparse⟩, (parse_spaced s s' lead cs hs' hlead hcs).2.2 e hparse⟩

end TagSelect
