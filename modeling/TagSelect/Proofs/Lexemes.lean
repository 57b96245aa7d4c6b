import TagSelect.Proofs.Quoting

/-!
# Cutting texts into lexemes

The text of a statement is cut into lexemes by the rules of its dialect : words, quoted names, text
literals and signs (`Dialect.lexemes`). A quoted name and a literal are taken whole, whatever
characters they contain.

The lexemes of a text are found from those of its parts. A part spells its lexemes (`Spells`) if
they are cut off in front of whatever ends a lexeme, and opens (`Opens`) if they are cut off in
front of anything. Fixed texts that end with a blank or a sign open (`opens_of_isFixed`), and names,
literals and words spell.
-/

namespace TagSelect.Sql

/-! ## Cutting a text -/

/-- A lexeme of SQL. -/
inductive Lexeme where
  /-- A keyword or a number. -/
  | word (s : String)
  /-- A quoted name. -/
  | name (s : String)
  /-- A text literal. -/
  | text (s : String)
  | sign (c : Char)
deriving DecidableEq, Repr

/-- Whether a character may stand in a word. -/
def isWordChar (c : Char) : Bool :=
  c.isAlphanum || c == '-'

theorem exists_of_map_cons {o : Option (List Char × List Char)} {c : Char}
    {content rest : List Char} (h : o.map (Prod.map (c :: ·) id) = some (content, rest)) :
    ∃ content', o = some (content', rest) := by
  obtain ⟨⟨content', rest'⟩, ho, heq⟩ := Option.map_eq_some_iff.1 h
  obtain ⟨-, rfl⟩ := Prod.mk.inj heq
  exact ⟨content', ho⟩

theorem length_scanDoubled {mark : Char} {cs content rest : List Char}
    (h : scanDoubled mark cs = some (content, rest)) : rest.length < cs.length := by
  fun_induction scanDoubled mark cs generalizing content rest with
  | case1 => cases h
  | case2 => cases h; simp
  | case3 cs ih =>
    obtain ⟨content', hscan⟩ := exists_of_map_cons h
    have hlt := ih hscan
    simp only [List.length_cons]
    omega
  | case4 => cases h; simp
  | case5 c cs _ ih =>
    obtain ⟨content', hscan⟩ := exists_of_map_cons h
    have hlt := ih hscan
    simp only [List.length_cons]
    omega

theorem length_scanEscaped {cs content rest : List Char}
    (h : scanEscaped cs = some (content, rest)) : rest.length < cs.length := by
  fun_induction scanEscaped cs generalizing content rest with
  | case1 => cases h
  | case2 => cases h; simp
  | case3 => cases h
  | case4 c cs _ ih =>
    obtain ⟨content', hscan⟩ := exists_of_map_cons h
    have hlt := ih hscan
    simp only [List.length_cons]
    omega
  | case5 c cs _ _ ih =>
    obtain ⟨content', hscan⟩ := exists_of_map_cons h
    have hlt := ih hscan
    simp only [List.length_cons]
    omega

namespace Dialect

/-- The lexeme that begins with a character, and the characters after it. A mark or quote that
nothing closes is a sign. -/
def lexeme (d : Dialect) (c : Char) (cs : List Char) : Lexeme × List Char :=
  match d.scanName (c :: cs), d.scanText (c :: cs) with
  | some (s, rest), _ => (.name s, rest)
  | none, some (s, rest) => (.text s, rest)
  | none, none =>
    if isWordChar c then
      (.word (String.ofList (c :: cs.takeWhile isWordChar)), cs.dropWhile isWordChar)
    else (.sign c, cs)

variable {d : Dialect} {c : Char} {cs rest : List Char} {s : String}

theorem length_scanName (h : d.scanName (c :: cs) = some (s, rest)) : rest.length ≤ cs.length := by
  rw [scanName] at h
  split at h
  · obtain ⟨⟨content, rest'⟩, hscan, heq⟩ := Option.map_eq_some_iff.1 h
    obtain ⟨-, rfl⟩ := Prod.mk.inj heq
    exact Nat.le_of_lt (length_scanDoubled hscan)
  · cases h

theorem length_scanText (h : d.scanText (c :: cs) = some (s, rest)) : rest.length ≤ cs.length := by
  rw [scanText] at h
  split at h
  · obtain ⟨⟨content, rest'⟩, hscan, heq⟩ := Option.map_eq_some_iff.1 h
    obtain ⟨-, rfl⟩ := Prod.mk.inj heq
    split at hscan
    · exact Nat.le_of_lt (length_scanEscaped hscan)
    · exact Nat.le_of_lt (length_scanDoubled hscan)
  · split at h
    · obtain ⟨⟨content, rest'⟩, hscan, heq⟩ := Option.map_eq_some_iff.1 h
      obtain ⟨-, rfl⟩ := Prod.mk.inj heq
      have hlt := length_scanEscaped hscan
      rw [List.length_tail] at hlt
      simp only [id]
      omega
    · cases h

theorem length_lexeme (d : Dialect) (c : Char) (cs : List Char) :
    (d.lexeme c cs).2.length ≤ cs.length := by
  unfold lexeme
  cases hname : d.scanName (c :: cs) with
  | some p => exact length_scanName hname
  | none =>
    cases htext : d.scanText (c :: cs) with
    | some p => exact length_scanText htext
    | none =>
      dsimp only
      split
      · exact (List.dropWhile_suffix isWordChar).length_le
      · exact Nat.le_refl _

/-- The lexemes of a text. Blanks stand between lexemes and belong to none. -/
def lexemes (d : Dialect) : List Char → List Lexeme
  | [] => []
  | c :: cs =>
    if c = ' ' then lexemes d cs else (d.lexeme c cs).1 :: lexemes d (d.lexeme c cs).2
termination_by cs => cs.length
decreasing_by
  · simp
  · have hle := length_lexeme d c cs
    simp only [List.length_cons]
    omega

/-! ## Lexemes from the left -/

theorem lexemes_nil : d.lexemes [] = [] := by
  rw [lexemes]

theorem lexemes_blank (cs : List Char) : d.lexemes (' ' :: cs) = d.lexemes cs := by
  rw [lexemes, if_pos rfl]

theorem nameMark_cases (d : Dialect) : d.nameMark = '"' ∨ d.nameMark = '\x60' := by
  cases d
  · exact Or.inl rfl
  · exact Or.inl rfl
  · exact Or.inr rfl

theorem scanName_eq_none (h : c ≠ d.nameMark) : d.scanName (c :: cs) = none := by
  rw [scanName, if_neg h]

/-- A quoted name is a lexeme. -/
theorem lexemes_of_scanName (h : d.scanName cs = some (s, rest)) :
    d.lexemes cs = .name s :: d.lexemes rest := by
  cases cs with
  | nil => cases h
  | cons c cs =>
    have hc : c = d.nameMark := by
      by_contra hc
      rw [scanName_eq_none hc] at h
      cases h
    have hblank : c ≠ ' ' := by
      rcases nameMark_cases d with hm | hm <;> simp [hc, hm]
    rw [lexemes, if_neg hblank]
    simp [lexeme, h]

/-- A text literal is a lexeme. -/
theorem lexemes_of_scanText (h : d.scanText cs = some (s, rest)) :
    d.lexemes cs = .text s :: d.lexemes rest := by
  cases cs with
  | nil => cases h
  | cons c cs =>
    have hc : c = '\'' ∨ c = 'E' := by
      rw [scanText] at h
      split at h
      · next hc => exact Or.inl hc
      · split at h
        · next hc => exact Or.inr hc.1
        · cases h
    have hblank : c ≠ ' ' := by
      rcases hc with rfl | rfl <;> decide
    have hname : d.scanName (c :: cs) = none := by
      refine scanName_eq_none ?_
      rcases hc with rfl | rfl <;> rcases nameMark_cases d with hm | hm <;> simp [hm]
    rw [lexemes, if_neg hblank]
    simp [lexeme, hname, h]

theorem isWordChar_ne (h : isWordChar c = true) : c ≠ ' ' ∧ c ≠ '\'' ∧ c ≠ d.nameMark := by
  refine ⟨?_, ?_, ?_⟩
  · rintro rfl
    cases h
  · rintro rfl
    cases h
  · rintro rfl
    cases d <;> cases h

/-- A run of word characters is a lexeme, if no word character follows it. A quote after it begins
a literal of its own, unless the run is an `E`. -/
theorem lexemes_word {w : List Char} (hne : w ≠ []) (hw : ∀ c ∈ w, isWordChar c = true)
    (hrest : ∀ c ∈ rest.head?, isWordChar c = false)
    (hquote : w = ['E'] → rest.head? ≠ some '\'') :
    d.lexemes (w ++ rest) = .word (String.ofList w) :: d.lexemes rest := by
  cases w with
  | nil => exact absurd rfl hne
  | cons c w =>
    obtain ⟨hc, htail⟩ := List.forall_mem_cons.1 hw
    obtain ⟨hblank, hcquote, hmark⟩ := isWordChar_ne (d := d) hc
    have htext : d.scanText (c :: (w ++ rest)) = none := by
      rw [scanText, if_neg hcquote, if_neg]
      rintro ⟨rfl, -, hhead⟩
      cases w with
      | nil => exact hquote rfl hhead
      | cons e w =>
        obtain rfl : e = '\'' := by simpa using hhead
        cases htail '\'' List.mem_cons_self
    have hstop : rest.takeWhile isWordChar = [] ∧ rest.dropWhile isWordChar = rest := by
      cases rest with
      | nil => exact ⟨rfl, rfl⟩
      | cons e rest => simp [hrest e rfl]
    rw [List.cons_append, lexemes, if_neg hblank]
    simp [lexeme, scanName_eq_none hmark, htext, hc, List.takeWhile_append_of_pos htail,
      List.dropWhile_append_of_pos htail, hstop]

end Dialect

/-- Whether a character is a lexeme by itself. -/
def isSign (c : Char) : Bool :=
  c == '(' || c == ')' || c == '.' || c == ',' || c == '=' || c == '>' || c == '*'

theorem isSign_cases {c : Char} (h : isSign c = true) :
    c = '(' ∨ c = ')' ∨ c = '.' ∨ c = ',' ∨ c = '=' ∨ c = '>' ∨ c = '*' := by
  simpa [isSign, or_assoc] using h

theorem Dialect.lexemes_sign {d : Dialect} {c : Char} (h : isSign c = true) (cs : List Char) :
    d.lexemes (c :: cs) = .sign c :: d.lexemes cs := by
  have hplain : c ≠ ' ' ∧ c ≠ '\'' ∧ c ≠ 'E' ∧ isWordChar c = false ∧ c ≠ d.nameMark := by
    rcases isSign_cases h with rfl | rfl | rfl | rfl | rfl | rfl | rfl <;> cases d <;> decide
  obtain ⟨hblank, hquote, he, hword, hmark⟩ := hplain
  rw [Dialect.lexemes, if_neg hblank]
  simp [Dialect.lexeme, Dialect.scanName_eq_none hmark, Dialect.scanText, hquote, he, hword]

/-! ## Putting texts together -/

/-- What comes next ends the lexeme before it. -/
def Breaks (rest : List Char) : Prop :=
  ∀ c ∈ rest.head?, c = ' ' ∨ c = ')' ∨ c = '.' ∨ c = ','

/-- The lexemes are cut off the characters in front of whatever ends a lexeme. -/
def Spells (d : Dialect) (cs : List Char) (ls : List Lexeme) : Prop :=
  ∀ rest, Breaks rest → d.lexemes (cs ++ rest) = ls ++ d.lexemes rest

/-- The lexemes are cut off the characters in front of anything. -/
def Opens (d : Dialect) (cs : List Char) (ls : List Lexeme) : Prop :=
  ∀ rest, d.lexemes (cs ++ rest) = ls ++ d.lexemes rest

variable {d : Dialect} {a b cs rest : List Char} {la lb ls : List Lexeme}

theorem breaks_nil : Breaks [] := by
  simp [Breaks]

theorem Breaks.append (ha : Breaks a) (hrest : Breaks rest) : Breaks (a ++ rest) := by
  cases a with
  | nil => exact hrest
  | cons c a => exact ha

theorem Breaks.append_of_ne_nil (ha : Breaks a) (hne : a ≠ []) : Breaks (a ++ rest) := by
  cases a with
  | nil => exact absurd rfl hne
  | cons c a => exact ha

theorem Spells.lexemes_eq (h : Spells d cs ls) : d.lexemes cs = ls := by
  have hnil := h [] breaks_nil
  rwa [List.append_nil, Dialect.lexemes_nil, List.append_nil] at hnil

theorem Opens.spells (h : Opens d cs ls) : Spells d cs ls :=
  fun rest _ => h rest

theorem spells_nil : Spells d [] [] :=
  fun _ _ => rfl

theorem Spells.append (ha : Spells d a la) (hb : Spells d b lb) (hbreaks : Breaks b) :
    Spells d (a ++ b) (la ++ lb) := by
  intro rest hrest
  rw [List.append_assoc, ha _ (hbreaks.append hrest), hb rest hrest, List.append_assoc]

theorem Opens.append (ha : Opens d a la) (hb : Spells d b lb) : Spells d (a ++ b) (la ++ lb) := by
  intro rest hrest
  rw [List.append_assoc, ha, hb rest hrest, List.append_assoc]

/-! ## Fixed texts -/

/-- Whether a text is made of words, blanks and signs and does not end with a word. -/
def isFixed : List Char → Bool
  | [] => true
  | c :: cs => (c == ' ' || isSign c || (isWordChar c && !cs.isEmpty)) && isFixed cs

/-- The words and signs of a fixed text, after the characters `w` of a word. -/
def fixedLexemes (w : List Char) : List Char → List Lexeme
  | [] => []
  | c :: cs =>
    if isWordChar c then fixedLexemes (w ++ [c]) cs
    else
      (if w = [] then [] else [.word (String.ofList w)]) ++
        ((if c = ' ' then [] else [.sign c]) ++ fixedLexemes [] cs)

/-- The lexemes of a fixed text are its words and signs, in front of anything. -/
theorem lexemes_fixed (rest : List Char) : ∀ (t w : List Char), isFixed t = true →
    (∀ c ∈ w, isWordChar c = true) → (w ≠ [] → t ≠ []) →
    d.lexemes (w ++ (t ++ rest)) = fixedLexemes w t ++ d.lexemes rest
  | [], w, _, _, hne => by
    have hw : w = [] := by
      by_contra hw
      exact hne hw rfl
    rw [hw]
    rfl
  | c :: cs, w, ht, hw, _ => by
    simp only [isFixed, Bool.and_eq_true, Bool.or_eq_true, beq_iff_eq, Bool.not_eq_true',
      List.isEmpty_eq_false_iff] at ht
    obtain ⟨hc, hcs⟩ := ht
    by_cases hword : isWordChar c = true
    · have hne : cs ≠ [] := by
        rcases hc with (rfl | hsign) | ⟨-, hne⟩
        · cases hword
        · rcases isSign_cases hsign with rfl | rfl | rfl | rfl | rfl | rfl | rfl <;> cases hword
        · exact hne
      have hw' : ∀ e ∈ w ++ [c], isWordChar e = true :=
        List.forall_mem_append.2 ⟨hw, by simpa using hword⟩
      have ih := lexemes_fixed rest cs (w ++ [c]) hcs hw' (fun _ => hne)
      rw [fixedLexemes, if_pos hword, ← ih]
      simp
    · have ih : d.lexemes (cs ++ rest) = fixedLexemes [] cs ++ d.lexemes rest :=
        lexemes_fixed rest cs [] hcs (by simp) (by simp)
      have hc' : c = ' ' ∨ isSign c = true := by simpa [hword] using hc
      have htail : d.lexemes (c :: (cs ++ rest)) =
          ((if c = ' ' then [] else [.sign c]) ++ fixedLexemes [] cs) ++ d.lexemes rest := by
        rcases hc' with rfl | hsign
        · rw [Dialect.lexemes_blank, ih, if_pos rfl, List.nil_append]
        · have hne : c ≠ ' ' := by
            rintro rfl
            cases hsign
          rw [Dialect.lexemes_sign hsign, ih, if_neg hne]
          rfl
      rw [fixedLexemes, if_neg hword, List.cons_append, List.append_assoc, ← htail]
      by_cases hnil : w = []
      · rw [hnil, if_pos rfl]
        rfl
      · have hquote : c ≠ '\'' := by
          rintro rfl
          rcases hc' with h | h <;> cases h
        rw [if_neg hnil]
        exact Dialect.lexemes_word hnil hw (by simpa using hword) (fun _ => by simpa using hquote)

theorem opens_of_isFixed {t : String} (ht : isFixed t.toList = true) :
    Opens d t.toList (fixedLexemes [] t.toList) :=
  fun rest => lexemes_fixed rest t.toList [] ht (by simp) (by simp)

/-! ## Words, names and literals -/

theorem Breaks.head?_cases (h : Breaks rest) : rest.head? = none ∨ rest.head? = some ' ' ∨
    rest.head? = some ')' ∨ rest.head? = some '.' ∨ rest.head? = some ',' := by
  cases hhead : rest.head? with
  | none => exact Or.inl rfl
  | some c =>
    have hc := h c (by simp [hhead])
    simpa using hc

theorem Breaks.head?_ne_quote (h : Breaks rest) : rest.head? ≠ some '\'' := by
  rcases h.head?_cases with h | h | h | h | h <;> simp [h]

theorem spells_word {s : String} (hne : s.toList ≠ [])
    (hs : ∀ c ∈ s.toList, isWordChar c = true) : Spells d s.toList [.word s] := by
  intro rest hrest
  have hword : ∀ c ∈ rest.head?, isWordChar c = false := by
    rcases hrest.head?_cases with h | h | h | h | h <;> simp [h] <;> decide
  rw [Dialect.lexemes_word hne hs hword (fun _ => hrest.head?_ne_quote), String.ofList_toList,
    List.singleton_append]

theorem spells_name (name : String) : Spells d (d.quoteName name).toList [.name name] := by
  intro rest hrest
  have hmark : rest.head? ≠ some d.nameMark := by
    rcases hrest.head?_cases with h | h | h | h | h <;> cases d <;> simp [h, Dialect.nameMark]
  exact Dialect.lexemes_of_scanName (Dialect.scanName_quoteName name hmark)

theorem spells_text (s : String) : Spells d (d.textLiteral s).toList [.text s] := by
  intro rest hrest
  exact Dialect.lexemes_of_scanText (Dialect.scanText_textLiteral s hrest.head?_ne_quote)

end TagSelect.Sql
