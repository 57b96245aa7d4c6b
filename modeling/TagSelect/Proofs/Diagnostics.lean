import TagSelect.Filter.Reading
import TagSelect.Proofs.Simulation

/-!
# Errors shown in their lines

What is shown of a syntax error : its message, the line of the text with the token at which reading
failed, and carets under this token.

`Text.InLine` says where a part of a text stands in its line : what comes before and after it in the
line, and the lines above and below. Such a part can always be found (`Text.exists_inLine`), and a
diagnostic whose span covers it is shown with this line and with carets under it
(`Diagnostic.annotate?_of_inLine`), since the span then begins and ends between characters. All that
matters is where the span begins in the line and where it is cut (`Diagnostic.annotate?_of_start`).

The tokens of a text have no line break in them (`Token.Fits.isBlank_eq_false`), nor has a message
(`SyntaxError.break_not_mem_message`), so that the only breaks are those of the layout
(`Diagnostic.count_layout`). `annotate_parse_error` says this of every error of every call of a
parser over a text.
-/

namespace TagSelect

open Text TagSelect.Filter

/-! ## Parts of lines -/

namespace Text

/-- In the text `cs` the part `mark` stands in a line, after `lead` and before `trail`. The lines
above it end with a break, and the lines below it begin with one. -/
structure InLine (cs above lead mark trail below : List Char) : Prop where
  text_eq : cs = above ++ lead ++ (mark ++ (trail ++ below))
  above_ends : ∀ c ∈ above.getLast?, c = '\n'
  below_begins : ∀ c ∈ below.head?, c = '\n'
  unbroken : '\n' ∉ lead ++ (mark ++ trail)

/-- To mark a part of a line is to cut what comes after the place where it begins. -/
theorem inLine_nil_iff {cs above lead mark trail below : List Char} :
    InLine cs above lead [] (mark ++ trail) below ↔ InLine cs above lead mark trail below := by
  constructor
  · rintro ⟨htext, hends, hbegins, hbreak⟩
    exact ⟨by simpa using htext, hends, hbegins, hbreak⟩
  · rintro ⟨htext, hends, hbegins, hbreak⟩
    exact ⟨by simpa using htext, hends, hbegins, hbreak⟩

end Text

namespace Diagnostic

theorem break_not_mem_lastLine (cs : List Char) : '\n' ∉ lastLine cs := by
  intro h
  have := List.all_eq_true.1 List.all_takeWhile _ (List.mem_reverse.1 h)
  simp at this

theorem break_not_mem_firstLine (cs : List Char) : '\n' ∉ firstLine cs := by
  intro h
  have := List.all_eq_true.1 List.all_takeWhile _ h
  simp at this

/-- The last line comes after a break, or after nothing. -/
theorem exists_append_lastLine (cs : List Char) :
    ∃ above, cs = above ++ lastLine cs ∧ ∀ c ∈ above.getLast?, c = '\n' := by
  refine ⟨(cs.reverse.dropWhile (· != '\n')).reverse, ?_, fun c hc => ?_⟩
  · rw [lastLine, ← List.reverse_append, List.takeWhile_append_dropWhile, List.reverse_reverse]
  · have := List.head?_dropWhile_not (· != '\n') cs.reverse
    rw [List.getLast?_reverse] at hc
    rw [Option.mem_def.1 hc] at this
    simpa using this

/-- The first line comes before a break, or before nothing. -/
theorem exists_firstLine_append (cs : List Char) :
    ∃ below, cs = firstLine cs ++ below ∧ ∀ c ∈ below.head?, c = '\n' := by
  refine ⟨cs.dropWhile (· != '\n'), List.takeWhile_append_dropWhile.symm, fun c hc => ?_⟩
  have := List.head?_dropWhile_not (· != '\n') cs
  rw [Option.mem_def.1 hc] at this
  simpa using this

theorem firstLine_append {cs below : List Char} (hcs : '\n' ∉ cs)
    (hbelow : ∀ c ∈ below.head?, c = '\n') : firstLine (cs ++ below) = cs := by
  have hall : ∀ c ∈ cs, (c != '\n') = true := fun c hc => by
    simpa using fun h : c = '\n' => hcs (h ▸ hc)
  rw [firstLine, List.takeWhile_append_of_pos hall]
  cases below with
  | nil => simp
  | cons c below => simp [hbelow c rfl]

theorem lastLine_append {above cs : List Char} (hcs : '\n' ∉ cs)
    (habove : ∀ c ∈ above.getLast?, c = '\n') : lastLine (above ++ cs) = cs := by
  have hline : firstLine (cs.reverse ++ above.reverse) = cs.reverse :=
    firstLine_append (by simpa using hcs) (by simpa using habove)
  rw [lastLine, List.reverse_append, ← firstLine, hline, List.reverse_reverse]

end Diagnostic

/-- A part of a text without breaks stands in a line. -/
theorem Text.exists_inLine (before : List Char) {mark : List Char} (h : '\n' ∉ mark)
    (after : List Char) :
    ∃ above lead trail below, before = above ++ lead ∧ after = trail ++ below ∧
      InLine (before ++ (mark ++ after)) above lead mark trail below := by
  obtain ⟨above, habove, hends⟩ := Diagnostic.exists_append_lastLine before
  obtain ⟨below, hbelow, hbegins⟩ := Diagnostic.exists_firstLine_append after
  refine ⟨above, Diagnostic.lastLine before, Diagnostic.firstLine after, below, habove, hbelow, ?_⟩
  refine ⟨by rw [← habove, ← hbelow], hends, hbegins, ?_⟩
  simp only [List.mem_append, not_or]
  exact ⟨Diagnostic.break_not_mem_lastLine _, h, Diagnostic.break_not_mem_firstLine _⟩

/-! ## Diagnostics -/

namespace Diagnostic

/-- A diagnostic that begins in a line, after `lead` and before `tail`, is shown with this line if
the place where it ends, or the end of the line, is between two characters. -/
theorem annotate?_of_start {d : Diagnostic} {source : String} {above lead tail below : List Char}
    (h : InLine source.toList above lead [] tail below)
    (hstart : min d.span.start (byteLength source.toList) = byteLength (above ++ lead)) :
    d.annotate? source =
      (splitAtByte? tail (max (byteLength (above ++ lead))
          (min d.span.stop (byteLength (above ++ lead) + byteLength tail)) -
        byteLength (above ++ lead))).map fun cut =>
          layout d.message (lead ++ tail) lead.length (max 1 cut.1.length) := by
  obtain ⟨htext, hends, hbegins, hbreak⟩ := h
  simp only [List.nil_append, List.mem_append, not_or] at htext hbreak
  have hsplit : splitAtByte? source.toList (byteLength (above ++ lead)) =
      some (above ++ lead, tail ++ below) :=
    splitAtByte?_eq_some_iff.2 ⟨htext, rfl⟩
  have hlead : lastLine (above ++ lead) = lead := lastLine_append hbreak.1 hends
  have htail : firstLine (tail ++ below) = tail := firstLine_append hbreak.2 hbegins
  simp only [annotate?, hstart, hsplit, hlead, htail, Option.bind_eq_bind, Option.bind_some,
    Option.pure_def, Option.map_eq_bind]
  rfl

/-- A diagnostic about a part of a line is shown with this line and with carets under the part, or
with one caret if it is empty. -/
theorem annotate?_of_inLine {d : Diagnostic} {source : String}
    {above lead mark trail below : List Char}
    (h : InLine source.toList above lead mark trail below)
    (hspan : d.span = ⟨byteLength (above ++ lead), byteLength (above ++ lead ++ mark)⟩) :
    d.annotate? source =
      some (layout d.message (lead ++ (mark ++ trail)) lead.length (max 1 mark.length)) := by
  have hstart : min d.span.start (byteLength source.toList) = byteLength (above ++ lead) := by
    rw [hspan, h.text_eq]
    simp only [byteLength_append]
    omega
  have hstop : max (byteLength (above ++ lead)) (min d.span.stop
      (byteLength (above ++ lead) + byteLength (mark ++ trail))) -
        byteLength (above ++ lead) = byteLength mark := by
    rw [hspan]
    simp only [byteLength_append]
    omega
  have hmark : splitAtByte? (mark ++ trail) (byteLength mark) = some (mark, trail) :=
    splitAtByte?_eq_some_iff.2 ⟨rfl, rfl⟩
  rw [annotate?_of_start (inLine_nil_iff.2 h) hstart, hstop, hmark, Option.map_some]

/-- The layout adds two breaks to those of its message and its line. -/
theorem count_layout (message : String) (line : List Char) (column width : Nat) :
    (layout message line column width).toList.count '\n' =
      message.toList.count '\n' + line.count '\n' + 2 := by
  have hkind : "error: ".toList.count '\n' = 0 := by decide
  have hbar : "\n  | ".toList.count '\n' = 1 := by decide
  have hmarks : (List.replicate column ' ' ++ List.replicate width '^').count '\n' = 0 :=
    List.count_eq_zero.2 (by simp)
  simp only [layout, String.toList_append, List.count_append, hkind, hbar]
  rw [String.toList_ofList, String.toList_ofList, hmarks]
  omega

end Diagnostic

/-! ## Messages and tokens -/

theorem Token.break_not_mem_described {t : Token} (h : '\n' ∉ t.lexeme.toList) :
    '\n' ∉ t.described.toList := by
  have hquote : '\n' ∉ " '".toList ∧ '\n' ∉ "'".toList := by decide
  have hshown : ∀ k : Token.Kind, '\n' ∉ k.shown.toList := by
    rintro (_ | _ | _ | _ | _ | _ | _ | _ | _) <;> decide
  have hquoted : '\n' ∉ (t.kind.shown ++ " '" ++ t.lexeme ++ "'").toList := by
    simp only [String.toList_append, List.mem_append, not_or]
    exact ⟨⟨⟨hshown _, hquote.1⟩, h⟩, hquote.2⟩
  unfold described
  split
  · exact hquoted
  · exact hquoted
  · exact hshown _

/-- A message has no break if the token has none. -/
theorem SyntaxError.break_not_mem_message {e : SyntaxError} (h : '\n' ∉ e.token.lexeme.toList) :
    '\n' ∉ e.message.toList := by
  cases e with
  | tooDeep operator =>
    have hdeep : '\n' ∉ "Expression nested too deeply".toList := by decide
    exact hdeep
  | unexpected expected found =>
    have hexpected : '\n' ∉ expected.shown.toList := by cases expected <;> decide
    have hfound : '\n' ∉ ", found ".toList := by decide
    simp only [message, String.toList_append, List.mem_append, not_or]
    exact ⟨⟨hexpected, hfound⟩, Token.break_not_mem_described h⟩

/-- No character of a token is white space. -/
theorem Token.Fits.isBlank_eq_false {before after cs : List Char} {k : Token.Kind}
    (h : Token.Fits before after k cs) : ∀ c ∈ cs, isBlank c = false := by
  cases h with
  | mark hc =>
    exact List.forall_mem_singleton.2
      (not_punctuation (Token.ofPunctuation?_eq_some_iff.2 hc)).1
  | name hne hcs hbefore hafter => exact fun c hc => isBlank_eq_false_of_isNameChar (hcs c hc)
  | stray hblank hmark hname => exact List.forall_mem_singleton.2 hblank

theorem Token.Fits.break_not_mem {before after cs : List Char} {k : Token.Kind}
    (h : Token.Fits before after k cs) : '\n' ∉ cs := by
  intro hmem
  have hblank := h.isBlank_eq_false _ hmem
  rw [show isBlank '\n' = true by decide] at hblank
  cases hblank

/-- The token of an error is a token of the text, or the end of the text. -/
theorem SyntaxError.token_of_parseTimes {s : String} {n : Nat} {e : SyntaxError}
    (h : .error e ∈ Parser.parseTimes n (Parser.ofSource (Lexer.ofString s))) :
    e.token ∈ (Lexer.ofString s).tokens ∨ e.token = Token.eof s.utf8ByteSize := by
  obtain ⟨k, hk⟩ := Lexer.exists_after_of_error h
  rw [Lexer.next_after_ofString] at hk
  cases htoken : (Lexer.ofString s).tokens[k]? with
  | none => exact Or.inr (by rw [hk, htoken]; rfl)
  | some t =>
    refine Or.inl ?_
    rw [hk, htoken]
    exact List.mem_of_getElem? htoken

/-- The token of an error stands in a line of the text. The end of the text stands in the last line,
with nothing after it. -/
theorem SyntaxError.exists_inLine {s : String} {e : SyntaxError}
    (h : e.token ∈ (Lexer.ofString s).tokens ∨ e.token = Token.eof s.utf8ByteSize) :
    ∃ above lead trail below,
      InLine s.toList above lead e.token.lexeme.toList trail below ∧
      e.span = ⟨byteLength (above ++ lead),
        byteLength (above ++ lead ++ e.token.lexeme.toList)⟩ ∧
      (e.token.kind = .eof → trail = [] ∧ below = []) := by
  rcases h with hmem | heof
  · obtain ⟨before, after, hs, hstands⟩ := Lexer.exists_stands_of_mem_tokens hmem
    obtain ⟨above, lead, trail, below, rfl, rfl, hline⟩ :=
      Text.exists_inLine before hstands.fits.break_not_mem after
    rw [← hs] at hline
    exact ⟨above, lead, trail, below, hline, hstands.span_eq,
      fun hkind => absurd hkind hstands.fits.kind_ne_eof⟩
  · obtain ⟨above, lead, trail, below, habove, hbelow, hline⟩ :=
      Text.exists_inLine s.toList List.not_mem_nil []
    obtain ⟨rfl, rfl⟩ := List.append_eq_nil_iff.1 hbelow.symm
    rw [List.append_nil, List.append_nil] at hline
    refine ⟨above, lead, [], [], ?_, ?_, fun _ => ⟨rfl, rfl⟩⟩
    · rw [heof]
      exact hline
    · rw [span, heof, ← habove]
      simp [Token.eof, byteLength_toList]

/-- The end of the text has no characters and gets one caret. Every other token has some. -/
theorem SyntaxError.max_one_length {s : String} {e : SyntaxError}
    (h : e.token ∈ (Lexer.ofString s).tokens ∨ e.token = Token.eof s.utf8ByteSize) :
    max 1 e.token.lexeme.toList.length =
      if e.token.kind = .eof then 1 else e.token.lexeme.toList.length := by
  rcases h with hmem | heof
  · obtain ⟨before, after, -, hstands⟩ := Lexer.exists_stands_of_mem_tokens hmem
    rw [if_neg hstands.fits.kind_ne_eof,
      Nat.max_eq_right (List.length_pos_iff.2 hstands.fits.ne_nil)]
  · rw [heof]
    rfl

/-- Every error of any call of a parser over a text can be shown. Its token stands in a line of the
text, after `lead` and before `trail` ; the end of the text stands in the last line. Shown are the
message, this line, and under it as many spaces as `lead` has characters and as many carets as the
token has, or one for the end of the text. There are no line breaks but the two that this takes. -/
theorem annotate_parse_error (s : String) (n : Nat) (e : SyntaxError)
    (h : .error e ∈ Parser.parseTimes n (Parser.ofSource (Lexer.ofString s))) :
    ∃ above lead trail below,
      (e.token ∈ (Lexer.ofString s).tokens ∨ e.token = Token.eof s.utf8ByteSize) ∧
      InLine s.toList above lead e.token.lexeme.toList trail below ∧
      e.span.start = byteLength (above ++ lead) ∧
      (e.token.kind = .eof → trail = [] ∧ below = []) ∧
      let line := lead ++ (e.token.lexeme.toList ++ trail)
      let width := if e.token.kind = .eof then 1 else e.token.lexeme.toList.length
      let shown := "error: " ++ e.message ++ "\n  | " ++ String.ofList line ++ "\n  | " ++
        String.ofList (List.replicate lead.length ' ' ++ List.replicate width '^')
      e.annotate? s = some shown ∧ shown.toList.count '\n' = 2 := by
  have htoken := SyntaxError.token_of_parseTimes h
  obtain ⟨above, lead, trail, below, hline, hspan, hend⟩ := SyntaxError.exists_inLine htoken
  have hannotate := Diagnostic.annotate?_of_inLine (d := e.diagnostic) hline hspan
  have hbreak : '\n' ∉ e.message.toList :=
    SyntaxError.break_not_mem_message fun hmem => hline.unbroken (by simp [hmem])
  rw [SyntaxError.max_one_length htoken] at hannotate
  refine ⟨above, lead, trail, below, htoken, hline, by rw [hspan], hend, hannotate, ?_⟩
  refine (Diagnostic.count_layout _ _ _ _).trans ?_
  rw [List.count_eq_zero.2 hbreak, List.count_eq_zero.2 hline.unbroken]

/-- A stray character in the second line of a text, with characters of two bytes before it. -/
theorem annotate_parse_error_second_line :
    let s := "é &\n(ß | *)\n"
    let e : SyntaxError := .unexpected .identifier ⟨.illegal, "*", ⟨11, 12⟩⟩
    let shown :=
      "error: Expected identifier, found illegal character '*'\n  | (ß | *)\n  |      ^"
    .error e ∈ Parser.parseTimes 1 (Parser.ofSource (Lexer.ofString s)) ∧
      e.annotate? s = some shown ∧
      ∃ above lead trail below, InLine s.toList above lead ['*'] trail below ∧
        11 = byteLength (above ++ lead) ∧
        shown.toList.count '\n' = 2 ∧
        shown = "error: " ++ e.message ++ "\n  | " ++ String.ofList (lead ++ (['*'] ++ trail)) ++
          "\n  | " ++ String.ofList (List.replicate lead.length ' ' ++ ['^']) := by
  intro s e shown
  have hmem : .error e ∈ Parser.parseTimes 1 (Parser.ofSource (Lexer.ofString s)) := by
    decide +kernel
  have hshown : e.annotate? s = some shown := by decide +kernel
  obtain ⟨above, lead, trail, below, -, hline, hstart, -, hannotate, hcount⟩ :=
    annotate_parse_error s 1 e hmem
  have hlexeme : e.token.lexeme.toList = ['*'] := by decide
  have hlayout := Option.some.inj (hshown.symm.trans hannotate)
  rw [← hlayout] at hcount
  rw [hlexeme] at hline hlayout
  exact ⟨hmem, hshown, above, lead, trail, below, hline, hstart, hcount, hlayout⟩

end TagSelect
