import TagSelect.Filter.Reading
import TagSelect.Proofs.Grammar

/-!
# The words of a text

What a parser sees of a text : the words of its tokens.

`textWords` gives the words of a list of characters. They do not depend on where in the source
the characters stand (`Lexer.words_offset`), and they can be read off the characters from the
left : a blank says nothing (`textWords_blank`), a punctuation mark is a word
(`textWords_punctuation`), and so is a maximal run of name characters (`textWords_name`). Every
name among them is proper, which is to say not empty and made of name characters
(`Lexer.proper_of_mem_words`).

`parse_eq_ok_iff` joins lexer and parser : a text is read as the filter that its words derive.
-/

namespace TagSelect

open Text TagSelect.Filter

/-! ## Classes of characters -/

/-- Whether a code point is that of a character which may stand in a name. -/
def isNameCode (n : Nat) : Bool :=
  alphabeticRanges.contains n || numericRanges.contains n || n == 0x5F || n == 0x2E || n == 0x2F

theorem isNameCode_of_isNameChar {c : Char} (h : isNameChar c = true) :
    isNameCode c.toNat = true := by
  simp only [isNameChar, Bool.or_eq_true, beq_iff_eq] at h
  rcases h with (((h | h) | rfl) | rfl) | rfl
  · simp [isNameCode, show alphabeticRanges.contains c.toNat = true from h]
  · simp [isNameCode, show numericRanges.contains c.toNat = true from h]
  all_goals decide

/-- No white space stands in a name. -/
theorem isBlank_eq_false_of_isNameChar {c : Char} (h : isNameChar c = true) :
    isBlank c = false := by
  have hcodes : ∀ a ∈ blankRanges, ∀ k < a.2 - a.1 + 1, isNameCode (a.1 + k) = false := by
    decide +kernel
  rw [Bool.eq_false_iff]
  intro hb
  obtain ⟨a, ha, hlo, hhi⟩ := (Ranges.contains_iff blankRanges_increasing c.toNat).1 hb
  have hcode := hcodes a ha (c.toNat - a.1) (by omega)
  rw [Nat.add_sub_cancel' hlo, isNameCode_of_isNameChar h] at hcode
  cases hcode

/-- No punctuation mark is white space or stands in a name. -/
theorem not_punctuation {c : Char} {k : Token.Kind} (h : Token.Kind.ofPunctuation? c = some k) :
    isBlank c = false ∧ isNameChar c = false ∧ k ≠ .identifier ∧ k ≠ .eof := by
  unfold Token.Kind.ofPunctuation? at h
  split at h <;> cases h
  all_goals decide

/-! ## The words of the lexer -/

namespace Filter

/-- A text is a name if it is not empty and made of name characters. -/
def IsName (s : String) : Prop :=
  s.toList ≠ [] ∧ ∀ c ∈ s.toList, isNameChar c = true

/-- A word is proper if it is a mark or has the text of a name. -/
def Word.Proper : Word → Prop
  | .mark _ => True
  | .name s => IsName s

end Filter

namespace Lexer

/-- The words of the tokens before the end of the input. -/
def words (l : Lexer) : List Word :=
  l.tokens.map Word.ofToken

theorem words_eq_nil {l : Lexer} (h : l.next.1.kind = .eof) : l.words = [] := by
  rw [words, tokens, if_pos h, List.map_nil]

theorem words_eq_cons {l : Lexer} (h : l.next.1.kind ≠ .eof) :
    l.words = Word.ofToken l.next.1 :: l.next.2.words := by
  rw [words, tokens, if_neg h, List.map_cons, words]

/-- The words depend on the next token and what comes after it only. -/
theorem words_congr {l l' : Lexer} (h : l.next = l'.next) : l.words = l'.words := by
  by_cases heof : l'.next.1.kind = .eof
  · rw [words_eq_nil (h ▸ heof), words_eq_nil heof]
  · rw [words_eq_cons (h ▸ heof), words_eq_cons heof, h]

theorem next_of_dropWhile_eq_nil {l : Lexer} (h : l.rest.dropWhile isBlank = []) :
    l.next.1.kind = .eof := by
  simp [next, skipBlanks, h, Token.eof]

theorem next_of_dropWhile_eq_cons {l : Lexer} {c : Char} {cs : List Char}
    (h : l.rest.dropWhile isBlank = c :: cs) :
    l.next = scan (l.offset + byteLength (l.rest.takeWhile isBlank)) c cs := by
  simp [next, skipBlanks, h]

/-- The word that begins with a character, and what comes after it, are the same wherever the
character stands. -/
theorem scan_word (c : Char) (cs : List Char) :
    ∃ w rest, w ≠ .mark .eof ∧ w.Proper ∧
      ∀ offset, Word.ofToken (scan offset c cs).1 = w ∧ (scan offset c cs).2.rest = rest := by
  unfold scan
  split
  · next kind hk =>
    obtain ⟨-, -, hid, heof⟩ := not_punctuation hk
    exact ⟨.mark kind, cs, by simpa using heof, trivial,
      fun offset => ⟨(Word.ofToken_eq_mark hid).2 rfl, rfl⟩⟩
  · split
    · next hname =>
      refine ⟨.name (String.ofList (c :: cs.takeWhile isNameChar)), cs.dropWhile isNameChar,
        by simp, ⟨by simp, ?_⟩, fun offset => ⟨Word.ofToken_eq_name.2 ⟨rfl, rfl⟩, rfl⟩⟩
      intro d hd
      rw [String.toList_ofList] at hd
      rcases List.mem_cons.1 hd with rfl | hd
      · exact hname
      · exact List.all_eq_true.1 List.all_takeWhile d hd
    · exact ⟨.mark .illegal, cs, by simp, trivial,
        fun offset => ⟨(Word.ofToken_eq_mark (by decide)).2 rfl, rfl⟩⟩

/-- The next word and what comes after it are the same wherever the characters stand. -/
theorem next_word (cs : List Char) :
    (∀ offset, (next ⟨cs, offset⟩).1.kind = .eof) ∨
      ∃ w rest, w ≠ .mark .eof ∧ w.Proper ∧
        ∀ offset, Word.ofToken (next ⟨cs, offset⟩).1 = w ∧ (next ⟨cs, offset⟩).2.rest = rest := by
  cases h : cs.dropWhile isBlank with
  | nil => exact Or.inl fun offset => next_of_dropWhile_eq_nil h
  | cons c cs' =>
    obtain ⟨w, rest, heof, hproper, hscan⟩ := scan_word c cs'
    refine Or.inr ⟨w, rest, heof, hproper, fun offset => ?_⟩
    rw [next_of_dropWhile_eq_cons h]
    exact hscan _

/-- The words do not depend on where the characters stand. -/
theorem words_offset (l : Lexer) (offset : Nat) : l.words = words ⟨l.rest, offset⟩ := by
  induction l using tokens.induct generalizing offset with
  | case1 l h =>
    rcases next_word l.rest with hend | ⟨w, rest, heof, -, hnext⟩
    · rw [words_eq_nil h, words_eq_nil (hend offset)]
    · exact absurd ((hnext l.offset).1 ▸ (Word.ofToken_eq_mark (by decide)).2 h) heof
  | case2 l h ih =>
    rcases next_word l.rest with hend | ⟨w, rest, heof, -, hnext⟩
    · exact absurd (hend l.offset) h
    · have hkind : (next ⟨l.rest, offset⟩).1.kind ≠ .eof := fun hk =>
        heof ((hnext offset).1 ▸ (Word.ofToken_eq_mark (by decide)).2 hk)
      rw [words_eq_cons h, words_eq_cons hkind, ih (next ⟨l.rest, offset⟩).2.offset]
      have hword : Word.ofToken l.next.1 = w := (hnext l.offset).1
      have hrest : l.next.2.rest = rest := (hnext l.offset).2
      rw [hword, hrest, (hnext offset).1, ← (hnext offset).2]

/-- The words of a lexer come next at its first token, up to the end of the input. -/
theorem reads_ofSource (l : Lexer) :
    ∃ e, (Cursor.ofSource l).Reads l.words e ∧ e.current.kind = .eof := by
  induction l using tokens.induct with
  | case1 l h =>
    rw [words_eq_nil h]
    exact ⟨_, rfl, h⟩
  | case2 l h ih =>
    obtain ⟨e, hreads, he⟩ := ih
    rw [words_eq_cons h]
    exact ⟨e, ⟨rfl, hreads⟩, he⟩

/-- A word of a lexer is not the end of the input, and proper. -/
theorem proper_of_mem_words (l : Lexer) : ∀ w ∈ l.words, w ≠ .mark .eof ∧ w.Proper := by
  induction l using tokens.induct with
  | case1 l h => simp [words_eq_nil h]
  | case2 l h ih =>
    rcases next_word l.rest with hend | ⟨w, rest, heof, hproper, hnext⟩
    · exact absurd (hend l.offset) h
    · have hword : Word.ofToken l.next.1 = w := (hnext l.offset).1
      rw [words_eq_cons h, hword, List.forall_mem_cons]
      exact ⟨⟨heof, hproper⟩, ih⟩

end Lexer

namespace Filter

/-- The words of a text. -/
def textWords (cs : List Char) : List Word :=
  Lexer.words ⟨cs, 0⟩

/-- A text is read as the filter that its words derive. -/
theorem parse_eq_ok_iff (s : String) (f : Filter) :
    parse s = .ok f ↔ Derives maxLevels (textWords s.toList) f := by
  obtain ⟨e, hreads, he⟩ := Lexer.reads_ofSource (Lexer.ofString s)
  have heof : .mark .eof ∉ textWords s.toList := fun h => (Lexer.proper_of_mem_words _ _ h).1 rfl
  rw [parse, Parser.parse_eq_ok]
  exact Cursor.filter_eq_done_iff hreads he heof _ f

/-! ## Words from the left -/

theorem textWords_nil : textWords [] = [] :=
  Lexer.words_eq_nil rfl

/-- White space says nothing. -/
theorem textWords_blank {c : Char} (hc : isBlank c = true) (cs : List Char) :
    textWords (c :: cs) = textWords cs := by
  have hnext : Lexer.next ⟨c :: cs, 0⟩ = Lexer.next ⟨cs, c.utf8Size⟩ := by
    simp [Lexer.next, Lexer.skipBlanks, hc]
  rw [textWords, Lexer.words_congr hnext, Lexer.words_offset _ 0, textWords]

/-- A token that begins with a character is a word. -/
theorem textWords_scan {c : Char} (hblank : isBlank c = false) {cs lexeme rest : List Char}
    {k : Token.Kind} (hscan : Lexer.scan 0 c cs = Lexer.emit 0 k lexeme rest) (hk : k ≠ .eof) :
    textWords (c :: cs) = Word.ofToken (Lexer.emit 0 k lexeme rest).1 :: textWords rest := by
  have hdrop : (c :: cs).dropWhile isBlank = c :: cs := by simp [hblank]
  have hnext : Lexer.next ⟨c :: cs, 0⟩ = Lexer.emit 0 k lexeme rest := by
    rw [Lexer.next_of_dropWhile_eq_cons hdrop, ← hscan]
    simp [hblank]
  rw [textWords, Lexer.words_eq_cons (by rw [hnext]; exact hk), hnext, Lexer.words_offset _ 0]
  rfl

/-- A punctuation mark is a word. -/
theorem textWords_punctuation {c : Char} {k : Token.Kind}
    (hc : Token.Kind.ofPunctuation? c = some k) (cs : List Char) :
    textWords (c :: cs) = .mark k :: textWords cs := by
  obtain ⟨hblank, -, hid, heof⟩ := not_punctuation hc
  have hscan : Lexer.scan 0 c cs = Lexer.emit 0 k [c] cs := by
    rw [Lexer.scan, hc]
  rw [textWords_scan hblank hscan heof, (Word.ofToken_eq_mark hid).2 rfl]

/-- A run of name characters is a word, if no name character follows it. -/
theorem textWords_name {s : String} (hs : IsName s) {cs : List Char}
    (hcs : ∀ c ∈ cs.head?, isNameChar c = false) :
    textWords (s.toList ++ cs) = .name s :: textWords cs := by
  obtain ⟨hne, hall⟩ := hs
  cases hl : s.toList with
  | nil => exact absurd hl hne
  | cons d ds =>
    rw [hl, List.forall_mem_cons] at hall
    obtain ⟨hd, hds⟩ := hall
    have hstop : cs.takeWhile isNameChar = [] ∧ cs.dropWhile isNameChar = cs := by
      cases cs with
      | nil => exact ⟨rfl, rfl⟩
      | cons c cs => simp [hcs c rfl]
    have hpunct : Token.Kind.ofPunctuation? d = none := by
      cases hk : Token.Kind.ofPunctuation? d with
      | none => rfl
      | some k => simp [(not_punctuation hk).2.1] at hd
    have hscan : Lexer.scan 0 d (ds ++ cs) = Lexer.emit 0 .identifier (d :: ds) cs := by
      rw [Lexer.scan, hpunct]
      simp [hd, List.takeWhile_append_of_pos hds, List.dropWhile_append_of_pos hds, hstop]
    rw [List.cons_append, textWords_scan (isBlank_eq_false_of_isNameChar hd) hscan (by decide),
      Word.ofToken_eq_name.2 ⟨rfl, rfl⟩]
    simp [Lexer.emit, ← hl]

/-! ## Negations -/

theorem textWords_replicate_not (cs : List Char) :
    ∀ n, textWords (List.replicate n '!' ++ cs) = List.replicate n (.mark .not) ++ textWords cs
  | 0 => rfl
  | n + 1 => by
    rw [List.replicate_succ, List.cons_append, textWords_punctuation (k := .not) rfl,
      textWords_replicate_not cs n]
    rfl

theorem Operand.words_negations :
    ∀ n, (negations n).words = List.replicate n (.mark .not) ++ [.name "a"]
  | 0 => rfl
  | n + 1 => by
    rw [negations, Operand.words, words_negations n]
    rfl

theorem Operand.levels_negations : ∀ n, (negations n).levels = n
  | 0 => rfl
  | n + 1 => by rw [negations, Operand.levels, levels_negations n]

end Filter

end TagSelect
