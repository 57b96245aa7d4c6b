import Mathlib.Data.List.Basic
import Mathlib.Data.List.Pairwise
import TagSelect.Proofs.Lexing

/-!
# The lexical grammar

Which tokens a text is made of, said without a lexer.

`Token.Fits` says what a token is between the characters before and after it : a punctuation mark
with its kind, a name that cannot be made longer, or one stray character that is none of these and
not white space. A list of tokens `Tokenizes` a text if its tokens stand in it in order, do not
overlap, fit where they stand and leave out nothing but white space.

Two fitting tokens of one text that overlap are the same (`Token.Stands.eq_of_covers`), so that at
most one list tokenizes a text (`Tokenizes.unique`). The lexer gives one : it takes a text apart
into white space and fitting tokens (`Lexer.cut`), and what is so taken apart is tokenized
(`Cut.tokenizes`). `tokenizes_iff` joins the two, and says what is read token by token
(`Lexer.next_after`).
-/

namespace TagSelect

open Text

/-! ## Places in a text -/

namespace Text

theorem byteLength_toList (s : String) : byteLength s.toList = s.utf8ByteSize := by
  have hlist : ∀ cs : List Char, byteLength cs = (String.ofList cs).utf8ByteSize := by
    intro cs
    induction cs with
    | nil => rfl
    | cons c cs ih =>
      have hcons : String.ofList (c :: cs) = String.singleton c ++ String.ofList cs := by
        rw [← String.toList_inj]
        simp
      rw [byteLength_cons, ih, hcons, String.utf8ByteSize_append, String.utf8ByteSize_singleton]
  rw [hlist, String.ofList_toList]

theorem byteLength_pos {cs : List Char} (h : cs ≠ []) : 0 < byteLength cs := by
  obtain ⟨c, cs, rfl⟩ := List.exists_cons_of_ne_nil h
  have := c.utf8Size_pos
  rw [byteLength_cons]
  omega

/-- Of two places in a text the one at the smaller offset comes first. -/
theorem exists_append_of_byteLength_le {as bs xs ys : List Char} (h : as ++ xs = bs ++ ys)
    (hle : byteLength as ≤ byteLength bs) : ∃ ms, bs = as ++ ms ∧ xs = ms ++ ys := by
  rcases List.append_eq_append_iff.1 h with hms | ⟨ms, rfl, rfl⟩
  · exact hms
  · have hms : ms = [] := by
      by_contra hne
      have := byteLength_pos hne
      rw [byteLength_append] at hle
      omega
    exact ⟨[], by simp [hms], by simp [hms]⟩

/-- A character that begins inside the first part of a text belongs to it. -/
theorem exists_append_cons_of_byteLength_lt {as bs xs ys : List Char} {c : Char}
    (h : as ++ xs = bs ++ c :: ys) (hlt : byteLength bs < byteLength as) :
    ∃ ms, as = bs ++ c :: ms ∧ ys = ms ++ xs := by
  obtain ⟨ms, has, hms⟩ := exists_append_of_byteLength_le h.symm (Nat.le_of_lt hlt)
  cases ms with
  | nil =>
    rw [has, List.append_nil] at hlt
    exact absurd hlt (Nat.lt_irrefl _)
  | cons d ms =>
    obtain ⟨rfl, hys⟩ := List.cons.inj hms
    exact ⟨ms, has, hys⟩

end Text

/-- The byte at an offset belongs to a span. -/
def Span.Covers (a : Span) (offset : Nat) : Prop :=
  a.start ≤ offset ∧ offset < a.stop

/-! ## Fitting tokens -/

namespace Token

/-- The punctuation marks and their kinds. -/
def marks : List (Char × Kind) :=
  [('&', .and), ('|', .or), ('!', .not), ('(', .leftParen), (')', .rightParen), (':', .colon)]

/-- `Fits before after k cs` says that `cs` is a token of kind `k` between `before` and `after`. -/
inductive Fits (before after : List Char) : Kind → List Char → Prop
  | mark {c : Char} {k : Kind} (hc : (c, k) ∈ marks) : Fits before after k [c]
  | name {cs : List Char} (hne : cs ≠ []) (hcs : ∀ c ∈ cs, isNameChar c = true)
      (hbefore : ∀ c ∈ before.getLast?, isNameChar c = false)
      (hafter : ∀ c ∈ after.head?, isNameChar c = false) : Fits before after .identifier cs
  | stray {c : Char} (hblank : isBlank c = false) (hmark : ∀ k, (c, k) ∉ marks)
      (hname : isNameChar c = false) : Fits before after .illegal [c]

/-- A token stands between `before` and `after` if its span begins where `before` ends and has the
length of its text, and it fits there. -/
structure Stands (t : Token) (before after : List Char) : Prop where
  span_eq : t.span = ⟨byteLength before, byteLength (before ++ t.lexeme.toList)⟩
  fits : Fits before after t.kind t.lexeme.toList

theorem ofPunctuation?_eq_some_iff {c : Char} {k : Kind} :
    Kind.ofPunctuation? c = some k ↔ (c, k) ∈ marks := by
  constructor
  · intro h
    unfold Kind.ofPunctuation? at h
    split at h <;> cases h
    all_goals decide
  · intro h
    simp only [marks, List.mem_cons, Prod.mk.injEq, List.not_mem_nil, or_false] at h
    rcases h with ⟨rfl, rfl⟩ | ⟨rfl, rfl⟩ | ⟨rfl, rfl⟩ | ⟨rfl, rfl⟩ | ⟨rfl, rfl⟩ | ⟨rfl, rfl⟩
    all_goals rfl

theorem ofPunctuation?_eq_none_iff {c : Char} :
    Kind.ofPunctuation? c = none ↔ ∀ k, (c, k) ∉ marks := by
  simp only [← ofPunctuation?_eq_some_iff, Option.eq_none_iff_forall_ne_some, ne_eq]

theorem notMem_marks_of_isNameChar {c : Char} (h : isNameChar c = true) (k : Kind) :
    (c, k) ∉ marks := by
  intro hc
  have hname := (not_punctuation (ofPunctuation?_eq_some_iff.2 hc)).2.1
  rw [h] at hname
  cases hname

/-- The text of a fitting token is what the lexer reads at its first character, which is not white
space. -/
theorem Fits.scan_eq {before after cs : List Char} {k : Kind} (h : Fits before after k cs) :
    ∃ c rest, cs ++ after = c :: rest ∧ isBlank c = false ∧
      ∀ offset, Lexer.scan offset c rest = Lexer.emit offset k cs after := by
  cases h with
  | @mark c _ hc =>
    have hk := ofPunctuation?_eq_some_iff.2 hc
    refine ⟨c, after, rfl, (not_punctuation hk).1, fun offset => ?_⟩
    rw [Lexer.scan, hk]
  | name hne hcs hbefore hafter =>
    obtain ⟨c, cs, rfl⟩ := List.exists_cons_of_ne_nil hne
    obtain ⟨hc, hcs⟩ := List.forall_mem_cons.1 hcs
    refine ⟨c, cs ++ after, rfl, isBlank_eq_false_of_isNameChar hc, fun offset => ?_⟩
    have hstop : after.takeWhile isNameChar = [] ∧ after.dropWhile isNameChar = after := by
      cases after with
      | nil => exact ⟨rfl, rfl⟩
      | cons a after => simp [hafter a rfl]
    rw [Lexer.scan, ofPunctuation?_eq_none_iff.2 (notMem_marks_of_isNameChar hc)]
    simp [hc, List.takeWhile_append_of_pos hcs, List.dropWhile_append_of_pos hcs, hstop]
  | @stray c hblank hmark hname =>
    refine ⟨c, after, rfl, hblank, fun offset => ?_⟩
    rw [Lexer.scan, ofPunctuation?_eq_none_iff.2 hmark]
    simp [hname]

theorem Fits.ne_nil {before after cs : List Char} {k : Kind} (h : Fits before after k cs) :
    cs ≠ [] := by
  cases h with
  | mark => simp
  | name hne => exact hne
  | stray => simp

theorem Fits.kind_ne_eof {before after cs : List Char} {k : Kind} (h : Fits before after k cs) :
    k ≠ .eof := by
  cases h with
  | mark hc => exact (not_punctuation (ofPunctuation?_eq_some_iff.2 hc)).2.2.2
  | name => decide
  | stray => decide

/-- No token fits inside a name : neither the rest of the name nor anything else. -/
theorem Fits.getLast?_before {before after cs : List Char} {k : Kind} {c d : Char}
    (h : Fits before after k (c :: cs)) (hc : isNameChar c = true) (hd : d ∈ before.getLast?) :
    isNameChar d = false := by
  cases h with
  | mark hmark => exact absurd hmark (notMem_marks_of_isNameChar hc k)
  | name hne hcs hbefore hafter => exact hbefore d hd
  | stray hblank hmark hname =>
    rw [hc] at hname
    cases hname

/-- A token of more than one character is a name. -/
theorem Fits.isNameChar_of_append {before after cs ds : List Char} {k : Kind}
    (h : Fits before after k (cs ++ ds)) (hcs : cs ≠ []) (hds : ds ≠ []) :
    ∀ c ∈ cs ++ ds, isNameChar c = true := by
  have hlength : 1 < (cs ++ ds).length := by
    have := List.length_pos_iff.2 hcs
    have := List.length_pos_iff.2 hds
    rw [List.length_append]
    omega
  generalize cs ++ ds = xs at h hlength
  cases h with
  | mark => exact absurd hlength (Nat.lt_irrefl 1)
  | name hne hcs hbefore hafter => exact hcs
  | stray => exact absurd hlength (Nat.lt_irrefl 1)

namespace Stands

variable {t u : Token} {before after before' after' : List Char}

theorem start_lt_stop (h : t.Stands before after) : t.span.start < t.span.stop := by
  have := byteLength_pos h.fits.ne_nil
  rw [h.span_eq, byteLength_append]
  dsimp only
  omega

/-- There is one token that begins at a place. -/
theorem eq_of_append_eq (ht : t.Stands before after) (hu : u.Stands before after')
    (h : t.lexeme.toList ++ after = u.lexeme.toList ++ after') : t = u := by
  obtain ⟨c, rest, hc, -, hscan⟩ := ht.fits.scan_eq
  obtain ⟨c', rest', hc', -, hscan'⟩ := hu.fits.scan_eq
  obtain ⟨rfl, rfl⟩ := List.cons.inj (hc.symm.trans (h.trans hc'))
  have hemit := congrArg Prod.fst ((hscan 0).symm.trans (hscan' 0))
  simp only [Lexer.emit, String.ofList_toList, Token.mk.injEq] at hemit
  obtain ⟨hkind, hlexeme, -⟩ := hemit
  have hspan : t.span = u.span := by rw [ht.span_eq, hu.span_eq, hlexeme]
  cases t
  cases u
  simp_all

/-- Tokens that stand in one text and overlap are the same. -/
theorem eq_of_covers (ht : t.Stands before after) (hu : u.Stands before' after')
    (h : before ++ (t.lexeme.toList ++ after) = before' ++ (u.lexeme.toList ++ after'))
    (hcovers : t.span.Covers u.span.start) : t = u := by
  obtain ⟨hstart, hstop⟩ := hcovers
  rw [ht.span_eq, hu.span_eq] at hstart hstop
  dsimp only at hstart hstop
  obtain ⟨ms, rfl, hms⟩ := exists_append_of_byteLength_le h hstart
  rcases List.eq_nil_or_concat ms with rfl | ⟨ms, d, rfl⟩
  · rw [List.append_nil] at hu
    exact ht.eq_of_append_eq hu hms
  · -- `u` would begin inside of `t` : then `t` is a name, and `u` begins with a character of it
    -- right after another one, `d`
    exfalso
    obtain ⟨c, ls, hls⟩ := List.exists_cons_of_ne_nil hu.fits.ne_nil
    rw [byteLength_append, byteLength_append, Nat.add_lt_add_iff_left] at hstop
    rw [hls, List.cons_append] at hms
    obtain ⟨ns, hns, -⟩ := exists_append_cons_of_byteLength_lt hms hstop
    have hfits := ht.fits
    rw [hns] at hfits
    have hnames := hfits.isNameChar_of_append (by simp) (List.cons_ne_nil c ns)
    have hlast := hu.fits
    rw [hls] at hlast
    have hd := hlast.getLast?_before (d := d) (hnames c (by simp)) (by simp)
    rw [hnames d (by simp)] at hd
    cases hd

end Stands

end Token

/-! ## Tokenized texts -/

/-- The tokens of a text : each stands somewhere in the text, each begins where the ones before it
have stopped, and a character that belongs to none of them is white space. -/
structure Tokenizes (cs : List Char) (ts : List Token) : Prop where
  stands : ∀ t ∈ ts, ∃ before after,
    cs = before ++ (t.lexeme.toList ++ after) ∧ t.Stands before after
  nonempty : ∀ t ∈ ts, t.span.start < t.span.stop
  increasing : ts.Pairwise fun t u => t.span.stop ≤ u.span.start
  blank : ∀ before c after, cs = before ++ c :: after →
    (∀ t ∈ ts, ¬t.span.Covers (byteLength before)) → isBlank c = true

namespace Tokenizes

variable {cs : List Char} {ts us : List Token}

/-- The first character of a token is not white space, so that every other list has a token there :
the same one. -/
theorem mem_of_mem (hts : Tokenizes cs ts) (hus : Tokenizes cs us) {t : Token} (ht : t ∈ ts) :
    t ∈ us := by
  obtain ⟨before, after, hcs, hstands⟩ := hts.stands t ht
  obtain ⟨c, rest, hc, hblank, -⟩ := hstands.fits.scan_eq
  by_contra hmem
  have hcovered : ∀ u ∈ us, ¬u.span.Covers (byteLength before) := by
    intro u hu hcovers
    obtain ⟨before', after', hcs', hstands'⟩ := hus.stands u hu
    have hstart : t.span.start = byteLength before := by rw [hstands.span_eq]
    rw [← hstart] at hcovers
    rw [← hstands'.eq_of_covers hstands (hcs'.symm.trans hcs) hcovers] at hmem
    exact hmem hu
  rw [hus.blank before c rest (hc ▸ hcs) hcovered] at hblank
  cases hblank

theorem nodup (hts : Tokenizes cs ts) : ts.Nodup := by
  refine hts.increasing.imp_of_mem ?_
  rintro t u ht - hle rfl
  have := hts.nonempty t ht
  omega

/-- A text has one list of tokens at most. -/
theorem unique (hts : Tokenizes cs ts) (hus : Tokenizes cs us) : ts = us := by
  have hperm : ts.Perm us := (List.perm_ext_iff_of_nodup hts.nodup hus.nodup).2
    fun t => ⟨hts.mem_of_mem hus, hus.mem_of_mem hts⟩
  refine hperm.eq_of_pairwise ?_ hts.increasing hus.increasing
  intro t u ht hu htu hut
  have := hts.nonempty t ht
  have := hus.nonempty u hu
  omega

end Tokenizes

/-! ## Texts taken apart -/

/-- `Cut before rest ts` says that `rest`, which comes after `before`, is white space and the tokens
`ts` in turn. -/
inductive Cut : List Char → List Char → List Token → Prop
  | blanks {before gap : List Char} (hgap : ∀ c ∈ gap, isBlank c = true) : Cut before gap []
  | token {before gap after : List Char} {t : Token} {ts : List Token}
      (hgap : ∀ c ∈ gap, isBlank c = true) (ht : t.Stands (before ++ gap) after)
      (hts : Cut (before ++ gap ++ t.lexeme.toList) after ts) :
      Cut before (gap ++ (t.lexeme.toList ++ after)) (t :: ts)

namespace Cut

variable {before rest : List Char} {ts : List Token}

theorem stands (h : Cut before rest ts) : ∀ t ∈ ts, ∃ before' after,
    before ++ rest = before' ++ (t.lexeme.toList ++ after) ∧ t.Stands before' after := by
  induction h with
  | blanks hgap => simp
  | @token before gap after t ts hgap ht hts ih =>
    rw [List.forall_mem_cons]
    refine ⟨⟨before ++ gap, after, by simp, ht⟩, fun u hu => ?_⟩
    obtain ⟨before', after', hcs, hstands⟩ := ih u hu
    exact ⟨before', after', by rw [← hcs]; simp, hstands⟩

theorem le_start (h : Cut before rest ts) : ∀ t ∈ ts, byteLength before ≤ t.span.start := by
  induction h with
  | blanks hgap => simp
  | @token before gap after t ts hgap ht hts ih =>
    rw [List.forall_mem_cons]
    refine ⟨by simp [ht.span_eq], fun u hu => ?_⟩
    have := ih u hu
    simp only [byteLength_append] at this
    omega

theorem increasing (h : Cut before rest ts) :
    ts.Pairwise fun t u => t.span.stop ≤ u.span.start := by
  induction h with
  | blanks hgap => exact List.Pairwise.nil
  | token hgap ht hts ih =>
    refine List.Pairwise.cons (fun u hu => ?_) ih
    rw [ht.span_eq]
    exact hts.le_start u hu

/-- A character of the rest that belongs to no token is white space. -/
theorem blank (h : Cut before rest ts) : ∀ before' c after, before ++ rest = before' ++ c :: after →
    byteLength before ≤ byteLength before' →
    (∀ t ∈ ts, ¬t.span.Covers (byteLength before')) → isBlank c = true := by
  induction h with
  | blanks hgap =>
    intro before' c after hcs hle _
    obtain ⟨ms, -, rfl⟩ := exists_append_of_byteLength_le hcs hle
    exact hgap c (by simp)
  | @token before gap rest t ts hgap ht hts ih =>
    intro before' c after hcs hle hcovered
    obtain ⟨ht', hts'⟩ := List.forall_mem_cons.1 hcovered
    rw [← List.append_assoc before] at hcs
    -- the character is one of the gap, or one of `t`, or one of what comes after `t`
    rcases Nat.lt_or_ge (byteLength before') (byteLength (before ++ gap)) with hlt | hge
    · obtain ⟨ms, rfl, -⟩ := exists_append_of_byteLength_le
        ((List.append_assoc _ _ _).symm.trans hcs) hle
      obtain ⟨ns, hns, -⟩ := exists_append_cons_of_byteLength_lt hcs hlt
      rw [List.append_assoc, List.append_cancel_left_eq] at hns
      exact hgap c (by simp [hns])
    · refine ih before' c after (by rw [← hcs]; simp) ?_ hts'
      by_contra hlt
      rw [ht.span_eq] at ht'
      exact ht' ⟨hge, Nat.lt_of_not_le hlt⟩

theorem tokenizes {cs : List Char} (h : Cut [] cs ts) : Tokenizes cs ts where
  stands := h.stands
  nonempty := fun t ht => by
    obtain ⟨before, after, -, hstands⟩ := h.stands t ht
    exact hstands.start_lt_stop
  increasing := h.increasing
  blank := fun before c after hcs => h.blank before c after hcs (Nat.zero_le _)

end Cut

/-! ## The lexer -/

/-- No name goes on from `before` to `after`. -/
def Apart (before after : List Char) : Prop :=
  ∀ d ∈ before.getLast?, ∀ c ∈ after.head?, isNameChar c = true → isNameChar d = false

theorem apart_nil (after : List Char) : Apart [] after := by
  simp [Apart]

/-- White space keeps names apart. -/
theorem Apart.append_blanks {before gap after : List Char} (h : Apart before (gap ++ after))
    (hgap : ∀ c ∈ gap, isBlank c = true) : Apart (before ++ gap) after := by
  rcases List.eq_nil_or_concat gap with rfl | ⟨gap, b, rfl⟩
  · rwa [List.append_nil]
  · intro d hd c _ _
    obtain rfl : b = d := by simpa using hd
    by_contra hname
    have hblank := isBlank_eq_false_of_isNameChar (eq_true_of_ne_false hname)
    rw [hgap b (by simp)] at hblank
    cases hblank

namespace Lexer

/-- What is read at a character that is not white space is a fitting token, and no name goes on
after it. -/
theorem scan_fits {before : List Char} {c : Char} {cs : List Char} (hblank : isBlank c = false)
    (h : Apart before (c :: cs)) (offset : Nat) :
    ∃ k lexeme after, c :: cs = lexeme ++ after ∧ scan offset c cs = emit offset k lexeme after ∧
      Token.Fits before after k lexeme ∧ Apart (before ++ lexeme) after := by
  rw [scan]
  split
  · next k hk =>
    refine ⟨k, [c], cs, rfl, rfl, .mark (Token.ofPunctuation?_eq_some_iff.1 hk), ?_⟩
    intro d hd _ _ _
    obtain rfl : c = d := by simpa using hd
    exact (not_punctuation hk).2.1
  · next hk =>
    split
    · next hname =>
      have hafter : ∀ a ∈ (cs.dropWhile isNameChar).head?, isNameChar a = false := by
        intro a ha
        have := List.head?_dropWhile_not isNameChar cs
        rw [Option.mem_def.1 ha] at this
        simpa using this
      refine ⟨.identifier, c :: cs.takeWhile isNameChar, cs.dropWhile isNameChar, by simp, rfl,
        .name (List.cons_ne_nil _ _) ?_ (fun d hd => h d hd c rfl hname) hafter, ?_⟩
      · rw [List.forall_mem_cons]
        exact ⟨hname, List.all_eq_true.1 List.all_takeWhile⟩
      · intro _ _ a ha hname'
        rw [hafter a ha] at hname'
        cases hname'
    · next hname =>
      have hname : isNameChar c = false := eq_false_of_ne_true hname
      refine ⟨.illegal, [c], cs, rfl, rfl,
        .stray hblank (Token.ofPunctuation?_eq_none_iff.1 hk) hname, ?_⟩
      intro d hd _ _ _
      obtain rfl : c = d := by simpa using hd
      exact hname

/-- Reading a token : there is only white space left, or white space and a character that is
not. -/
theorem next_cases (l : Lexer) :
    ((∀ c ∈ l.rest, isBlank c = true) ∧ l.next =
        (Token.eof (l.offset + byteLength l.rest), ⟨[], l.offset + byteLength l.rest⟩)) ∨
      ∃ gap c cs, l.rest = gap ++ c :: cs ∧ (∀ b ∈ gap, isBlank b = true) ∧ isBlank c = false ∧
        l.next = scan (l.offset + byteLength gap) c cs := by
  have hrest : l.rest = l.rest.takeWhile isBlank ++ l.rest.dropWhile isBlank :=
    List.takeWhile_append_dropWhile.symm
  have hgap : ∀ b ∈ l.rest.takeWhile isBlank, isBlank b = true :=
    List.all_eq_true.1 List.all_takeWhile
  cases h : l.rest.dropWhile isBlank with
  | nil =>
    rw [h, List.append_nil] at hrest
    refine Or.inl ⟨hrest ▸ hgap, ?_⟩
    rw [next, skipBlanks, h, ← hrest]
  | cons c cs =>
    have hblank : isBlank c = false := by
      have := List.head?_dropWhile_not isBlank l.rest
      rw [h] at this
      simpa using this
    exact Or.inr ⟨_, c, cs, h ▸ hrest, hgap, hblank, next_of_dropWhile_eq_cons h⟩

/-- The end of the input is read if there is only white space left. -/
theorem next_of_kind_eof {l : Lexer} (h : l.next.1.kind = .eof) :
    (∀ c ∈ l.rest, isBlank c = true) ∧ l.next =
      (Token.eof (l.offset + byteLength l.rest), ⟨[], l.offset + byteLength l.rest⟩) := by
  rcases l.next_cases with hend | ⟨gap, c, cs, -, -, hblank, hnext⟩
  · exact hend
  · obtain ⟨k, lexeme, after, -, hscan, hfits, -⟩ :=
      scan_fits hblank (apart_nil (c :: cs)) (l.offset + byteLength gap)
    rw [hnext, hscan] at h
    exact absurd h hfits.kind_ne_eof

/-- A token is read after white space, fits where it stands, and what comes after it is left. -/
theorem next_stands {l : Lexer} {before : List Char} (hoffset : l.offset = byteLength before)
    (hapart : Apart before l.rest) (h : l.next.1.kind ≠ .eof) :
    ∃ gap, l.rest = gap ++ (l.next.1.lexeme.toList ++ l.next.2.rest) ∧
      (∀ c ∈ gap, isBlank c = true) ∧ l.next.1.Stands (before ++ gap) l.next.2.rest ∧
      l.next.2.offset = byteLength (before ++ gap ++ l.next.1.lexeme.toList) ∧
      Apart (before ++ gap ++ l.next.1.lexeme.toList) l.next.2.rest := by
  rcases l.next_cases with ⟨-, hnext⟩ | ⟨gap, c, cs, hrest, hgap, hblank, hnext⟩
  · rw [hnext] at h
    exact absurd rfl h
  · rw [hrest] at hapart
    obtain ⟨k, lexeme, after, hcs, hscan, hfits, hapart'⟩ :=
      scan_fits hblank (hapart.append_blanks hgap) (l.offset + byteLength gap)
    rw [hnext, hscan, hrest, hcs, hoffset, ← byteLength_append]
    simp only [emit, String.toList_ofList, ← byteLength_append]
    exact ⟨gap, rfl, hgap, ⟨by simp, by simpa using hfits⟩, rfl, hapart'⟩

/-- The lexer takes what it has left apart. -/
theorem cut (l : Lexer) (before : List Char) (hoffset : l.offset = byteLength before)
    (hapart : Apart before l.rest) : Cut before l.rest l.tokens := by
  induction l using tokens.induct generalizing before with
  | case1 l h =>
    rw [tokens, if_pos h]
    exact Cut.blanks (next_of_kind_eof h).1
  | case2 l h ih =>
    obtain ⟨gap, hrest, hgap, hstands, hoffset', hapart'⟩ := next_stands hoffset hapart h
    rw [tokens, if_neg h, hrest]
    exact Cut.token hgap hstands (ih _ hoffset' hapart')

/-- The end of the text stays where it is. -/
theorem stop_next (l : Lexer) :
    l.next.2.offset + byteLength l.next.2.rest = l.offset + byteLength l.rest := by
  rcases l.next_cases with ⟨-, hnext⟩ | ⟨gap, c, cs, hrest, -, hblank, hnext⟩
  · rw [hnext, byteLength_nil, Nat.add_zero]
  · obtain ⟨k, lexeme, after, hcs, hscan, -⟩ :=
      scan_fits hblank (apart_nil (c :: cs)) (l.offset + byteLength gap)
    rw [hnext, hscan, hrest, hcs, byteLength_append, byteLength_append]
    dsimp only [emit]
    omega

theorem tokens_nil (offset : Nat) : tokens ⟨[], offset⟩ = [] := by
  rw [tokens]
  exact if_pos rfl

/-- Reading token by token gives the tokens in order and then the end of the text for ever. -/
theorem next_after : ∀ (n : Nat) (l : Lexer),
    (l.after n).next.1 = l.tokens[n]?.getD (Token.eof (l.offset + byteLength l.rest))
  | 0, l => by
    rw [after, tokens]
    split
    · next h =>
      rw [(next_of_kind_eof h).2]
      rfl
    · rfl
  | n + 1, l => by
    rw [after, next_after n l.next.2, stop_next l, tokens.eq_def l]
    split
    · next h =>
      rw [(next_of_kind_eof h).2, tokens_nil]
      rfl
    · rfl

theorem next_after_ofString (s : String) (n : Nat) : ((ofString s).after n).next.1 =
    (ofString s).tokens[n]?.getD (Token.eof s.utf8ByteSize) := by
  have hstop : (ofString s).offset + byteLength (ofString s).rest = s.utf8ByteSize :=
    (Nat.zero_add _).trans (byteLength_toList s)
  rw [next_after, hstop]

/-- Every token of a text stands somewhere in it. -/
theorem exists_stands_of_mem_tokens {s : String} {t : Token} (h : t ∈ (ofString s).tokens) :
    ∃ before after, s.toList = before ++ (t.lexeme.toList ++ after) ∧ t.Stands before after :=
  ((ofString s).cut [] rfl (apart_nil _)).tokenizes.stands t h

end Lexer

/-! ## The tokens of a text -/

/-- The tokens that the lexer reads are the only ones that tokenize a text. They are read one by one
in order, and every further reading gives the end of the input, empty and at the end of the text. -/
theorem tokenizes_iff (s : String) :
    (∀ ts, Tokenizes s.toList ts ↔ ts = (Lexer.ofString s).tokens) ∧
      ∀ n, ((Lexer.ofString s).after n).next.1 =
        (Lexer.ofString s).tokens[n]?.getD ⟨.eof, "", ⟨s.utf8ByteSize, s.utf8ByteSize⟩⟩ := by
  have hcut : Tokenizes s.toList (Lexer.ofString s).tokens :=
    ((Lexer.ofString s).cut [] rfl (apart_nil _)).tokenizes
  refine ⟨fun ts => ⟨fun hts => hts.unique hcut, fun hts => hts ▸ hcut⟩, fun n => ?_⟩
  have hstop : (Lexer.ofString s).offset + byteLength (Lexer.ofString s).rest = s.utf8ByteSize :=
    (Nat.zero_add _).trans (byteLength_toList s)
  rw [Lexer.next_after, hstop]
  rfl

end TagSelect
