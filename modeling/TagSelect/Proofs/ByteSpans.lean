import Mathlib.Order.Bounds.Basic
import Mathlib.Order.Nat
import Mathlib.Order.WellFounded
import TagSelect.Proofs.Diagnostics

/-!
# Spans that can be shown

A diagnostic may have any span : one that goes past the end of the text or of its line, one whose
end comes before its start, and one that begins or ends inside a character. It is shown unless this
last thing is the case after the span was cut to the line in which it begins.

An offset is inside a character (`Text.InsideChar`) or the text can be read from there on
(`Text.ReadsFrom`), and not both (`Text.insideChar_iff`). What can be read from an offset on does
not depend on what stands before it (`Text.readsFrom_append_right`). The end of a line
(`Text.IsLineEnd`) is the first offset from a given one on at which there is a break, or the end of
the text.

`annotate_span` says which spans can be shown, and that the carets stay under the line that is
shown, but for the one caret after a line at whose end nothing is marked.
-/

namespace TagSelect

open Text

namespace Text

variable {as bs cs rest : List Char} {n : Nat}

/-! ## Offsets -/

/-- From the byte offset `n` on the text reads `rest`. -/
def ReadsFrom (cs : List Char) (n : Nat) (rest : List Char) : Prop :=
  ∃ before, cs = before ++ rest ∧ byteLength before = n

/-- The byte offset `n` is behind the first byte of a character and before its end. -/
def InsideChar (cs : List Char) (n : Nat) : Prop :=
  ∃ m c rest, ReadsFrom cs m (c :: rest) ∧ m < n ∧ n < m + c.utf8Size

theorem byteLength_eq_zero : byteLength cs = 0 ↔ cs = [] := by
  cases cs with
  | nil => simp
  | cons c cs =>
    have := c.utf8Size_pos
    simp only [byteLength_cons, reduceCtorEq, iff_false]
    omega

/-- What is read behind a part of the text is read from what comes after the part. -/
theorem readsFrom_append_right :
    ReadsFrom (as ++ bs) (byteLength as + n) rest ↔ ReadsFrom bs n rest := by
  constructor
  · rintro ⟨before, htext, hbytes⟩
    rcases List.append_eq_append_iff.1 htext with ⟨k, rfl, hbs⟩ | ⟨k, rfl, rfl⟩
    · rw [byteLength_append] at hbytes
      exact ⟨k, hbs, by omega⟩
    · rw [byteLength_append] at hbytes
      obtain rfl := byteLength_eq_zero.1 (by omega : byteLength k = 0)
      exact ⟨[], rfl, by simp only [byteLength_nil] at hbytes ⊢; omega⟩
  · rintro ⟨before, rfl, rfl⟩
    exact ⟨as ++ before, by simp, by simp⟩

theorem InsideChar.append_left (h : InsideChar bs n) :
    InsideChar (as ++ bs) (byteLength as + n) := by
  obtain ⟨m, c, rest, hreads, hlt, hgt⟩ := h
  exact ⟨byteLength as + m, c, rest, readsFrom_append_right.2 hreads, by omega, by omega⟩

/-- Inside a character nothing can be read. -/
theorem InsideChar.not_readsFrom (h : InsideChar cs n) : ¬ReadsFrom cs n rest := by
  obtain ⟨m, c, tail, ⟨before, rfl, rfl⟩, hlt, hgt⟩ := h
  obtain ⟨k, rfl⟩ := Nat.exists_eq_add_of_le (Nat.le_of_lt hlt)
  rw [readsFrom_append_right]
  rintro ⟨part, htext, hbytes⟩
  cases part with
  | nil =>
    rw [byteLength_nil] at hbytes
    omega
  | cons c' part =>
    obtain ⟨rfl, -⟩ := List.cons.inj htext
    rw [byteLength_cons] at hbytes
    omega

/-- Where nothing can be read, there is the inside of a character. -/
theorem exists_readsFrom_or_insideChar (h : n ≤ byteLength cs) :
    (∃ rest, ReadsFrom cs n rest) ∨ InsideChar cs n := by
  induction cs generalizing n with
  | nil => exact .inl ⟨[], [], rfl, (Nat.le_zero.1 h).symm⟩
  | cons c cs ih =>
    rcases Nat.eq_zero_or_pos n with rfl | hpos
    · exact .inl ⟨c :: cs, [], rfl, rfl⟩
    · rcases Nat.lt_or_ge n c.utf8Size with hlt | hge
      · exact .inr ⟨0, c, cs, ⟨[], rfl, rfl⟩, hpos, by omega⟩
      · obtain ⟨k, rfl⟩ := Nat.exists_eq_add_of_le hge
        have hcons : c :: cs = [c] ++ cs := rfl
        have hsize : c.utf8Size = byteLength [c] := rfl
        rw [byteLength_cons] at h
        rw [hcons, hsize]
        rcases ih (n := k) (by omega) with ⟨rest, hreads⟩ | hinside
        · exact .inl ⟨rest, readsFrom_append_right.2 hreads⟩
        · exact .inr hinside.append_left

/-- An offset in a text is inside a character, or the text can be read from there on. -/
theorem insideChar_iff (h : n ≤ byteLength cs) :
    InsideChar cs n ↔ ∀ rest, ¬ReadsFrom cs n rest := by
  refine ⟨fun hinside rest => hinside.not_readsFrom, fun hno => ?_⟩
  exact (exists_readsFrom_or_insideChar h).resolve_left fun ⟨rest, hreads⟩ => hno rest hreads

/-- A text is cut at the offsets from which it can be read. -/
theorem splitAtByte?_eq_none : splitAtByte? cs n = none ↔ ∀ rest, ¬ReadsFrom cs n rest := by
  rw [Option.eq_none_iff_forall_ne_some, Prod.forall, forall_comm]
  simp only [ne_eq, splitAtByte?_eq_some_iff, ReadsFrom, not_exists]

/-- Up to the end of a part of the text it does not matter what comes after the part. -/
theorem exists_readsFrom_append_left (h : n ≤ byteLength as) :
    (∃ rest, ReadsFrom (as ++ bs) n rest) ↔ ∃ rest, ReadsFrom as n rest := by
  constructor
  · rintro ⟨rest, before, htext, rfl⟩
    rcases List.append_eq_append_iff.1 htext with ⟨k, rfl, -⟩ | ⟨k, rfl, -⟩
    · rw [byteLength_append] at h
      obtain rfl := byteLength_eq_zero.1 (by omega : byteLength k = 0)
      exact ⟨[], as, by simp, by simp⟩
    · exact ⟨k, before, rfl, rfl⟩
  · rintro ⟨rest, before, rfl, rfl⟩
    exact ⟨rest ++ bs, before, by simp, rfl⟩

/-- What is read before the end of a part of the text begins in this part. -/
theorem ReadsFrom.mem_of_lt {c : Char} (h : ReadsFrom (as ++ bs) n (c :: rest))
    (hlt : n < byteLength as) : c ∈ as := by
  obtain ⟨before, htext, rfl⟩ := h
  rcases List.append_eq_append_iff.1 htext with ⟨k, rfl, -⟩ | ⟨k, rfl, hrest⟩
  · rw [byteLength_append] at hlt
    omega
  · cases k with
    | nil =>
      rw [List.append_nil] at hlt
      omega
    | cons d k =>
      obtain ⟨rfl, -⟩ := List.cons.inj hrest
      simp

/-! ## The end of a line -/

/-- The first offset from `p` on at which there is a break or the end of the text. -/
def IsLineEnd (cs : List Char) (p e : Nat) : Prop :=
  IsLeast {m | p ≤ m ∧ (m = byteLength cs ∨ ∃ rest, ReadsFrom cs m ('\n' :: rest))} e

theorem exists_isLineEnd {p : Nat} (h : p ≤ byteLength cs) : ∃ e, IsLineEnd cs p e := by
  obtain ⟨e, he, hmin⟩ := Nat.lt_wfRel.wf.has_min
    {m | p ≤ m ∧ (m = byteLength cs ∨ ∃ rest, ReadsFrom cs m ('\n' :: rest))}
    ⟨byteLength cs, h, .inl rfl⟩
  exact ⟨e, he, fun m hm => Nat.le_of_not_lt (hmin m hm)⟩

/-- The line in which a part of the text stands ends with what comes after the part. -/
theorem InLine.isLineEnd {above lead tail below : List Char}
    (h : InLine cs above lead [] tail below) :
    IsLineEnd cs (byteLength (above ++ lead)) (byteLength (above ++ lead) + byteLength tail) := by
  obtain ⟨rfl, -, hbegins, hbreak⟩ := h
  rw [List.nil_append]
  constructor
  · refine ⟨Nat.le_add_right _ _, ?_⟩
    cases below with
    | nil => exact .inl (by simp [Nat.add_assoc])
    | cons c below =>
      obtain rfl := hbegins c rfl
      exact .inr ⟨below, readsFrom_append_right.2 ⟨tail, rfl, rfl⟩⟩
  · rintro m ⟨hle, hm⟩
    obtain ⟨k, rfl⟩ := Nat.exists_eq_add_of_le hle
    refine Nat.add_le_add_left (Nat.le_of_not_lt fun hlt => ?_) _
    rcases hm with hm | ⟨rest, hreads⟩
    · simp only [byteLength_append] at hm
      omega
    · have hmem : '\n' ∈ tail := (readsFrom_append_right.1 hreads).mem_of_lt hlt
      exact hbreak (by simp [hmem])

/-- In the rest of a line the inside of a character is where it cannot be cut. -/
theorem InLine.insideChar_iff {above lead tail below : List Char}
    (h : InLine cs above lead [] tail below) (hn : n ≤ byteLength tail) :
    InsideChar cs (byteLength (above ++ lead) + n) ↔ splitAtByte? tail n = none := by
  obtain ⟨rfl, -, -, -⟩ := h
  rw [List.nil_append, Text.insideChar_iff (by simp only [byteLength_append]; omega),
    splitAtByte?_eq_none]
  simp only [readsFrom_append_right]
  rw [← not_exists, ← not_exists, exists_readsFrom_append_left hn]

end Text

/-! ## Showing a span -/

namespace Diagnostic

variable {d : Diagnostic} {source : String}

/-- A diagnostic that begins inside a character is not shown. -/
theorem annotate?_of_insideChar
    (h : InsideChar source.toList (min d.span.start (byteLength source.toList))) :
    d.annotate? source = none := by
  have hsplit : splitAtByte? source.toList (min d.span.start (byteLength source.toList)) = none :=
    splitAtByte?_eq_none.2 fun rest => h.not_readsFrom
  simp only [annotate?, hsplit, Option.bind_eq_bind, Option.bind_none]

/-- If something comes after the spaces in a line, the carets do not go beyond the line. -/
theorem length_carets_le {lead mark trail : List Char} (h : mark ++ trail ≠ []) :
    lead.length + max 1 mark.length ≤ (lead ++ (mark ++ trail)).length := by
  have hpos : 0 < (mark ++ trail).length := List.length_pos_iff.2 h
  rw [List.length_append] at hpos
  rw [List.length_append, List.length_append]
  omega

end Diagnostic

/-- Let `p` be the start of the span, or the length of the text if this is less. Let `e` be the end
of the line of `p`, and `q` the end of the span after it was brought between `p` and `e`. The
diagnostic is shown unless `p` or `q` is inside a character. Then what is shown is the line of `p`,
without a break in it, as many spaces as there are characters before `p` and as many carets as there
are between `p` and `q`, at least one. They do not go beyond the line, but for the single caret at
its end if `p` is `e`. -/
theorem annotate_span (d : Diagnostic) (source : String) :
    let cs := source.toList
    let p := min d.span.start source.utf8ByteSize
    ∃ e, IsLineEnd cs p e ∧
      let q := max p (min d.span.stop e)
      (d.annotate? source = none ↔ InsideChar cs p ∨ InsideChar cs q) ∧
      (¬InsideChar cs p → ¬InsideChar cs q →
        ∃ above lead mark trail below, InLine cs above lead mark trail below ∧
          byteLength (above ++ lead) = p ∧ byteLength (above ++ lead ++ mark) = q ∧
          let line := lead ++ (mark ++ trail)
          let width := max 1 mark.length
          d.annotate? source = some ("error: " ++ d.message ++ "\n  | " ++ String.ofList line ++
            "\n  | " ++
              String.ofList (List.replicate lead.length ' ' ++ List.replicate width '^')) ∧
          '\n' ∉ line ∧
          (p ≠ e → lead.length + width ≤ line.length) ∧
          (p = e → mark = [] ∧ lead.length + width = line.length + 1)) := by
  intro cs p
  have hp : p ≤ byteLength cs := by
    rw [byteLength_toList]
    exact Nat.min_le_right _ _
  have hstart : min d.span.start (byteLength cs) = p := by rw [byteLength_toList]
  rcases exists_readsFrom_or_insideChar hp with ⟨after, before, htext, hbefore⟩ | hinside
  · have hnil : '\n' ∉ ([] : List Char) := List.not_mem_nil
    obtain ⟨above, lead, tail, below, rfl, rfl, hline⟩ := Text.exists_inLine before hnil after
    rw [List.nil_append, ← htext] at hline
    have hshown := Diagnostic.annotate?_of_start hline (hstart.trans hbefore.symm)
    rw [hbefore] at hshown
    refine ⟨p + byteLength tail, hbefore ▸ hline.isLineEnd, ?_⟩
    intro q
    -- Both ends are in the rest of the line, so that the second is inside a character of the text
    -- if the rest of the line cannot be cut there.
    have hle : q - p ≤ byteLength tail := by omega
    have hq : p + (q - p) = q := by omega
    have hinside : InsideChar cs q ↔ splitAtByte? tail (q - p) = none := by
      rw [← hline.insideChar_iff hle, hbefore, hq]
    have houtside : ¬InsideChar cs p := fun hno => hno.not_readsFrom ⟨_, htext, hbefore⟩
    refine ⟨?_, fun _ hno => ?_⟩
    · rw [hshown, Option.map_eq_none_iff, hinside, or_iff_right houtside]
    · obtain ⟨⟨mark, trail⟩, hsplit⟩ := Option.ne_none_iff_exists'.1 (mt hinside.2 hno)
      obtain ⟨rfl, hmark⟩ := splitAtByte?_eq_some_iff.1 hsplit
      have hend : p = p + byteLength (mark ++ trail) ↔ mark ++ trail = [] := by
        rw [← byteLength_eq_zero]
        omega
      refine ⟨above, lead, mark, trail, below, inLine_nil_iff.1 hline, hbefore, ?_, ?_,
        hline.unbroken, fun hne => Diagnostic.length_carets_le (mt hend.2 hne), fun heq => ?_⟩
      · rw [byteLength_append, hbefore, hmark, hq]
      · rw [hshown, hsplit]
        rfl
      · obtain ⟨rfl, rfl⟩ := List.append_eq_nil_iff.1 (hend.1 heq)
        simp
  · obtain ⟨e, he⟩ := exists_isLineEnd hp
    have hnone : d.annotate? source = none :=
      Diagnostic.annotate?_of_insideChar (hstart.symm ▸ hinside)
    exact ⟨e, he, iff_of_true hnone (.inl hinside), fun hno => absurd hinside hno⟩

/-- A text with characters of two and three bytes. The first span ends inside one of them. The
second goes on past the end of its line and marks the last character. The third is at the end of the
line, and its end comes before its start. -/
theorem annotate_span_wide_characters :
    let source := "é &\n日本\n"
    let cs := source.toList
    let shown := fun start stop => Diagnostic.annotate? ⟨"m", ⟨start, stop⟩⟩ source
    (InsideChar cs 7 ∧ shown 5 7 = none) ∧
      (¬InsideChar cs 8 ∧ ¬InsideChar cs 11 ∧ shown 8 99 = some "error: m\n  | 日本\n  |  ^" ∧
        ∃ above lead mark trail below, InLine cs above lead mark trail below ∧
          byteLength (above ++ lead) = 8 ∧ byteLength (above ++ lead ++ mark) = 11 ∧
          lead.length + max 1 mark.length ≤ (lead ++ (mark ++ trail)).length) ∧
      shown 11 3 = some "error: m\n  | 日本\n  |   ^" ∧
      ∃ above lead mark trail below, InLine cs above lead mark trail below ∧
        mark = [] ∧ lead.length + max 1 mark.length = (lead ++ (mark ++ trail)).length + 1 := by
  intro source cs shown
  have htext : cs = ['é', ' ', '&', '\n', '日', '本', '\n'] := by decide +kernel
  have hsize : source.utf8ByteSize = 12 := by decide +kernel
  have hends : ∀ c ∈ ['é', ' ', '&', '\n'].getLast?, c = '\n' :=
    fun c hc => (Option.some.inj hc).symm
  have hbegins : ∀ c ∈ ['\n'].head?, c = '\n' := fun c hc => (Option.some.inj hc).symm
  have hfirst : InLine cs ['é', ' ', '&', '\n'] [] [] ['日', '本'] ['\n'] :=
    ⟨htext, hends, hbegins, by decide⟩
  have hsecond : InLine cs ['é', ' ', '&', '\n'] ['日'] [] ['本'] ['\n'] :=
    ⟨htext, hends, hbegins, by decide⟩
  have hthird : InLine cs ['é', ' ', '&', '\n'] ['日', '本'] [] [] ['\n'] :=
    ⟨htext, hends, hbegins, by decide⟩
  have hinside : InsideChar cs 7 :=
    ⟨5, '日', ['本', '\n'], ⟨['é', ' ', '&', '\n'], htext, rfl⟩, by decide, by decide⟩
  have hstart : ¬InsideChar cs 8 := fun h =>
    h.not_readsFrom ⟨['é', ' ', '&', '\n', '日'], htext, rfl⟩
  have hstop : ¬InsideChar cs 11 := fun h =>
    h.not_readsFrom ⟨['é', ' ', '&', '\n', '日', '本'], htext, rfl⟩
  refine ⟨⟨hinside, ?_⟩, ⟨hstart, hstop, by decide +kernel, ?_⟩, by decide +kernel, ?_⟩
  · obtain ⟨e, he, hnone, -⟩ := annotate_span ⟨"m", ⟨5, 7⟩⟩ source
    rw [hsize] at he hnone
    obtain rfl : e = 11 := he.unique hfirst.isLineEnd
    exact hnone.2 (.inr hinside)
  · obtain ⟨e, he, -, hshown⟩ := annotate_span ⟨"m", ⟨8, 99⟩⟩ source
    rw [hsize] at he hshown
    obtain rfl : e = 11 := he.unique hsecond.isLineEnd
    obtain ⟨above, lead, mark, trail, below, hline, hp, hq, -, -, hle, -⟩ := hshown hstart hstop
    exact ⟨above, lead, mark, trail, below, hline, hp, hq, hle (by decide)⟩
  · obtain ⟨e, he, -, hshown⟩ := annotate_span ⟨"m", ⟨11, 3⟩⟩ source
    rw [hsize] at he hshown
    obtain rfl : e = 11 := he.unique hthird.isLineEnd
    obtain ⟨above, lead, mark, trail, below, hline, -, -, -, -, -, hend⟩ := hshown hstop hstop
    exact ⟨above, lead, mark, trail, below, hline, hend rfl⟩

end TagSelect
