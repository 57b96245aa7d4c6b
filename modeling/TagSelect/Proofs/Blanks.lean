import TagSelect.Compiler
import TagSelect.Proofs.LexicalGrammar
import TagSelect.Text.Words

/-!
# White space at the ends of a text

Trimming takes white space off the ends of a text and nothing else (`Text.exists_trimChars`), and
neither the words of a text nor its tokens depend on what is taken off.

The words of a text are its maximal runs of other characters : the first one ends where the first
white space stands, and the others are the words of what comes after it (`Text.words_eq_cons`).
White space after the last token belongs to no token either (`Cut.append_blanks`), so that the same
filter is read from a text and from the trimmed text, or none from both (`Filter.parse_trim`), and
both have the same statement (`Compiler.compileText_trim`).
-/

namespace TagSelect

open Text TagSelect.Filter

namespace Text

/-! ## Trimming -/

/-- What trimming takes off is white space at both ends. -/
theorem exists_trimChars (cs : List Char) : ∃ lead trail, cs = lead ++ (trimChars cs ++ trail) ∧
    (∀ c ∈ lead, isBlank c = true) ∧ ∀ c ∈ trail, isBlank c = true := by
  refine ⟨cs.takeWhile isBlank, ((cs.dropWhile isBlank).reverse.takeWhile isBlank).reverse, ?_,
    List.all_eq_true.1 List.all_takeWhile, fun c hc => ?_⟩
  · rw [trimChars, ← List.reverse_append, List.takeWhile_append_dropWhile, List.reverse_reverse,
      List.takeWhile_append_dropWhile]
  · exact List.all_eq_true.1 List.all_takeWhile c (List.mem_reverse.1 hc)

/-- A trimmed text does not begin with white space. -/
theorem isBlank_head?_trimChars {cs : List Char} {c : Char} (h : (trimChars cs).head? = some c) :
    isBlank c = false := by
  obtain ⟨ds, hds⟩ : ∃ ds, cs.dropWhile isBlank = trimChars cs ++ ds :=
    ⟨((cs.dropWhile isBlank).reverse.takeWhile isBlank).reverse, by
      rw [trimChars, ← List.reverse_append, List.takeWhile_append_dropWhile, List.reverse_reverse]⟩
  have hhead := List.head?_dropWhile_not isBlank cs
  rw [hds, List.head?_append, h] at hhead
  simpa using hhead

/-! ## Words -/

theorem wordsFrom_blanks {lead : List Char} (h : ∀ c ∈ lead, isBlank c = true) (cs : List Char) :
    wordsFrom (lead ++ cs) [] = wordsFrom cs [] := by
  induction lead with
  | nil => rfl
  | cons b lead ih =>
    obtain ⟨hb, hlead⟩ := List.forall_mem_cons.1 h
    simpa [wordsFrom, hb] using ih hlead

theorem wordsFrom_append_blanks {trail : List Char} (h : ∀ c ∈ trail, isBlank c = true)
    (cs word : List Char) : wordsFrom (cs ++ trail) word = wordsFrom cs word := by
  have hnil : wordsFrom trail [] = [] := by simpa [wordsFrom] using wordsFrom_blanks h []
  induction cs generalizing word with
  | nil =>
    cases trail with
    | nil => rfl
    | cons b trail =>
      obtain ⟨hb, -⟩ := List.forall_mem_cons.1 h
      have htrail : wordsFrom trail [] = [] := by simpa [wordsFrom, hb] using hnil
      simp [wordsFrom, hb, htrail]
  | cons c cs ih => simp only [List.cons_append, wordsFrom, ih]

/-- Trimming keeps the words. -/
theorem words_trim (s : String) : words (trim s) = words s := by
  obtain ⟨lead, trail, hs, hlead, htrail⟩ := exists_trimChars s.toList
  rw [words, words, trim, String.toList_ofList]
  conv_rhs => rw [hs]
  rw [wordsFrom_blanks hlead, wordsFrom_append_blanks htrail]

theorem wordsFrom_append_run {run : List Char} (h : ∀ c ∈ run, isBlank c = false)
    (cs word : List Char) : wordsFrom (run ++ cs) word = wordsFrom cs (run.reverse ++ word) := by
  induction run generalizing word with
  | nil => rfl
  | cons c run ih =>
    obtain ⟨hc, hrun⟩ := List.forall_mem_cons.1 h
    simp [wordsFrom, hc, ih hrun]

/-- A word ends where white space or the end of the text comes. -/
theorem wordsFrom_of_blank {cs word : List Char} (hword : word ≠ [])
    (h : ∀ c ∈ cs.head?, isBlank c = true) :
    wordsFrom cs word = String.ofList word.reverse :: wordsFrom (cs.drop 1) [] := by
  cases cs with
  | nil => simp [wordsFrom, hword]
  | cons c cs => simp [wordsFrom, h c rfl, hword]

/-- If a text does not begin with white space, its first word is what stands before the first white
space. -/
theorem words_eq_cons {s : String} {c : Char} (hs : s.toList.head? = some c)
    (hc : isBlank c = false) : words s = (cutAtBlank s).1 :: words (cutAtBlank s).2 := by
  have hrun : ∀ d ∈ s.toList.takeWhile (!isBlank ·), isBlank d = false := fun d hd => by
    simpa using List.all_eq_true.1 List.all_takeWhile d hd
  have hne : s.toList.takeWhile (!isBlank ·) ≠ [] := by
    obtain ⟨cs, hcs⟩ := List.head?_eq_some_iff.1 hs
    simp [hcs, hc]
  have hblank : ∀ d ∈ (s.toList.dropWhile (!isBlank ·)).head?, isBlank d = true := fun d hd => by
    have := List.head?_dropWhile_not (!isBlank ·) s.toList
    rw [Option.mem_def.1 hd] at this
    simpa using this
  have hsplit : wordsFrom s.toList [] = wordsFrom
      (s.toList.takeWhile (!isBlank ·) ++ s.toList.dropWhile (!isBlank ·)) [] := by
    rw [List.takeWhile_append_dropWhile]
  rw [words, hsplit, wordsFrom_append_run hrun, List.append_nil,
    wordsFrom_of_blank (by simpa using hne) hblank, List.reverse_reverse, words, cutAtBlank,
    String.toList_ofList]

/-- A text has no words if nothing is left of it. -/
theorem words_eq_nil_iff (s : String) : words s = [] ↔ trimChars s.toList = [] := by
  rw [← words_trim]
  cases h : trimChars s.toList with
  | nil => simp [trim, h, words, wordsFrom]
  | cons c cs =>
    have hhead : (trim s).toList.head? = some c := by simp [trim, h]
    rw [words_eq_cons hhead (isBlank_head?_trimChars (by rw [h]; rfl))]
    simp

end Text

/-! ## Tokens -/

theorem isNameChar_eq_false_of_isBlank {c : Char} (h : isBlank c = true) :
    isNameChar c = false := by
  by_contra hname
  have hblank := isBlank_eq_false_of_isNameChar (eq_true_of_ne_false hname)
  rw [h] at hblank
  cases hblank

/-- White space may be added after a token. -/
theorem Token.Fits.append_blanks {before after gap cs : List Char} {k : Token.Kind}
    (h : Token.Fits before after k cs) (hgap : ∀ c ∈ gap, isBlank c = true) :
    Token.Fits before (after ++ gap) k cs := by
  cases h with
  | mark hc => exact .mark hc
  | stray hblank hmark hname => exact .stray hblank hmark hname
  | name hne hcs hbefore hafter =>
    refine .name hne hcs hbefore fun c hc => ?_
    cases after with
    | nil => exact isNameChar_eq_false_of_isBlank (hgap c (List.mem_of_mem_head? hc))
    | cons a after => exact hafter c hc

/-- White space may be added at the end of a text that was taken apart. -/
theorem Cut.append_blanks {before rest gap : List Char} {ts : List Token} (h : Cut before rest ts)
    (hgap : ∀ c ∈ gap, isBlank c = true) : Cut before (rest ++ gap) ts := by
  induction h with
  | blanks hrest => exact .blanks fun c hc => (List.mem_append.1 hc).elim (hrest c) (hgap c)
  | token hrest ht hts ih =>
    rw [List.append_assoc, List.append_assoc]
    exact .token hrest ⟨ht.span_eq, ht.fits.append_blanks hgap⟩ ih

theorem Lexer.tokens_append_blanks {gap : List Char} (hgap : ∀ c ∈ gap, isBlank c = true)
    (cs : List Char) : tokens ⟨cs ++ gap, 0⟩ = tokens ⟨cs, 0⟩ := by
  have hcut (ds : List Char) := cut ⟨ds, 0⟩ [] rfl (apart_nil ds)
  exact (hcut (cs ++ gap)).tokenizes.unique ((hcut cs).append_blanks hgap).tokenizes

namespace Filter

theorem textWords_blanks {lead : List Char} (h : ∀ c ∈ lead, isBlank c = true) (cs : List Char) :
    textWords (lead ++ cs) = textWords cs := by
  induction lead with
  | nil => rfl
  | cons b lead ih =>
    obtain ⟨hb, hlead⟩ := List.forall_mem_cons.1 h
    rw [List.cons_append, textWords_blank hb, ih hlead]

/-- A parser sees nothing of what trimming takes off. -/
theorem textWords_trimChars (cs : List Char) : textWords (trimChars cs) = textWords cs := by
  obtain ⟨lead, trail, hcs, hlead, htrail⟩ := exists_trimChars cs
  conv_rhs => rw [hcs]
  rw [textWords_blanks hlead, textWords, textWords, Lexer.words, Lexer.words,
    Lexer.tokens_append_blanks htrail]

/-- The same filter is read from a text and from the trimmed text. -/
theorem parse_trim (s : String) (f : Filter) : parse (trim s) = .ok f ↔ parse s = .ok f := by
  rw [parse_eq_ok_iff, parse_eq_ok_iff, trim, String.toList_ofList, textWords_trimChars]

end Filter

theorem Compiler.compileText_eq_ok {c : Compiler} {s : String} {select : Sql.Select} :
    c.compileText s = .ok select ↔ ∃ f, parse s = .ok f ∧ c.compile f = .ok select := by
  unfold compileText
  cases parse s with
  | error e => simp
  | ok f => cases h : c.compile f <;> simp [h]

/-- A text and the trimmed text have the same statement. -/
theorem Compiler.compileText_trim (c : Compiler) (s : String) (select : Sql.Select) :
    c.compileText (trim s) = .ok select ↔ c.compileText s = .ok select := by
  simp only [compileText_eq_ok, parse_trim]

end TagSelect
