import Mathlib.Data.List.Basic
import TagSelect.Sql.Dialect

/-!
# Quoted names and texts

Where a quoted name or a text literal ends, by the rules of the dialect that reads it.

`scanDoubled` reads characters up to the mark that closes them, where a mark that is doubled is
content. `scanEscaped` reads characters up to a quote, where a backslash makes the next character
content whatever it is. Names are read in the first way in all dialects (`Dialect.scanName`), and
so are the literals of SQLite and those of Postgres without an `E`; the literals of MySQL and those
of Postgres with an `E` are read in the second way (`Dialect.scanText`).

The quoted form of a name or a text, in front of anything that does not begin with its mark, is
read up to its last character (`Dialect.scanName_quoteName`, `Dialect.scanText_textLiteral`). Since
what is read is the name or the text itself, different ones have different forms.
-/

namespace TagSelect.Sql

/-! ## Scanners -/

/-- The characters before the mark that closes them, and those after it. A doubled mark does not
close and is content. -/
def scanDoubled (mark : Char) : List Char → Option (List Char × List Char)
  | [] => none
  | c :: cs =>
    if c = mark then
      match cs with
      | [] => some ([], [])
      | d :: ds =>
        if d = mark then (scanDoubled mark ds).map (Prod.map (mark :: ·) id)
        else some ([], d :: ds)
    else (scanDoubled mark cs).map (Prod.map (c :: ·) id)

/-- The character that a backslash before another one stands for. -/
def unescapeChar (c : Char) : Char :=
  match c with
  | '0' => '\x00'
  | 'b' => '\x08'
  | 't' => '\t'
  | 'z' => '\x1a'
  | 'n' => '\n'
  | 'r' => '\r'
  | c => c

/-- The characters before the quote that closes them, and those after it. A backslash takes the
next character as content. -/
def scanEscaped : List Char → Option (List Char × List Char)
  | [] => none
  | c :: cs =>
    if c = '\'' then some ([], cs)
    else if c = '\\' then
      match cs with
      | [] => none
      | d :: ds => (scanEscaped ds).map (Prod.map (unescapeChar d :: ·) id)
    else (scanEscaped cs).map (Prod.map (c :: ·) id)

namespace Dialect

/-- The name whose quoted form begins here, and the characters after it. -/
def scanName (d : Dialect) : List Char → Option (String × List Char)
  | [] => none
  | c :: cs =>
    if c = d.nameMark then (scanDoubled d.nameMark cs).map (Prod.map String.ofList id) else none

/-- The text whose literal begins here, and the characters after it. -/
def scanText (d : Dialect) : List Char → Option (String × List Char)
  | [] => none
  | c :: cs =>
    if c = '\'' then
      (if d = .mysql then scanEscaped cs else scanDoubled '\'' cs).map (Prod.map String.ofList id)
    else if c = 'E' ∧ d = .postgres ∧ cs.head? = some '\'' then
      (scanEscaped cs.tail).map (Prod.map String.ofList id)
    else none

end Dialect

/-! ## Content between marks -/

theorem scanDoubled_of_ne {mark c : Char} (h : c ≠ mark) (cs : List Char) :
    scanDoubled mark (c :: cs) = (scanDoubled mark cs).map (Prod.map (c :: ·) id) := by
  rw [scanDoubled.eq_def]
  simp [h]

theorem scanEscaped_quote (cs : List Char) : scanEscaped ('\'' :: cs) = some ([], cs) := by
  rw [scanEscaped.eq_def]
  simp

theorem scanEscaped_of_ne {c : Char} (hquote : c ≠ '\'') (hslash : c ≠ '\\') (cs : List Char) :
    scanEscaped (c :: cs) = (scanEscaped cs).map (Prod.map (c :: ·) id) := by
  rw [scanEscaped.eq_def]
  simp [hquote, hslash]

/-- Doubled marks are read back, up to a mark that no other one follows. -/
theorem scanDoubled_double (mark : Char) {rest : List Char} (hrest : rest.head? ≠ some mark) :
    ∀ cs, scanDoubled mark (Dialect.double mark cs ++ mark :: rest) = some (cs, rest)
  | [] => by
    cases rest with
    | nil => simp [Dialect.double, scanDoubled]
    | cons c rest =>
      have hc : c ≠ mark := by simpa using hrest
      simp [Dialect.double, scanDoubled, hc]
  | c :: cs => by
    have ih := scanDoubled_double mark hrest cs
    by_cases hc : c = mark
    · simp [Dialect.double, scanDoubled, hc, ih]
    · simp [Dialect.double, scanDoubled_of_ne, hc, ih]

/-- What is written for a character inside a literal is the character, or a backslash and a
character that stands for it. -/
theorem escapeChar_cases (c : Char) :
    (Dialect.escapeChar c = [c] ∧ c ≠ '\'' ∧ c ≠ '\\') ∨
      ∃ e, Dialect.escapeChar c = ['\\', e] ∧ unescapeChar e = c := by
  unfold Dialect.escapeChar
  split
  case h_10 hslash _ hquote _ _ _ _ _ _ => exact Or.inl ⟨rfl, hquote, hslash⟩
  all_goals exact Or.inr ⟨_, rfl, rfl⟩

/-- Escapes are read back, up to the quote that no backslash precedes. -/
theorem scanEscaped_escape (rest : List Char) :
    ∀ cs, scanEscaped (Dialect.escape cs ++ '\'' :: rest) = some (cs, rest)
  | [] => scanEscaped_quote rest
  | c :: cs => by
    have ih := scanEscaped_escape rest cs
    rw [Dialect.escape, List.flatMap_cons, ← Dialect.escape, List.append_assoc]
    rcases escapeChar_cases c with ⟨h, hquote, hslash⟩ | ⟨e, h, he⟩
    · simp [h, scanEscaped_of_ne hquote hslash, ih]
    · simp [h, scanEscaped, he, ih]

/-- No quote stands in an escaped text without a backslash before it. -/
theorem quote_not_mem_escape {cs : List Char} (h : '\\' ∉ Dialect.escape cs) :
    '\'' ∉ Dialect.escape cs := by
  intro hquote
  obtain ⟨c, hc, hmem⟩ := List.mem_flatMap.1 hquote
  rcases escapeChar_cases c with ⟨hplain, hne, -⟩ | ⟨e, hescape, -⟩
  · rw [hplain, List.mem_singleton] at hmem
    exact hne hmem.symm
  · exact h (List.mem_flatMap.2 ⟨c, hc, by simp [hescape]⟩)

/-- A text whose escaped form has no backslash is written as it is. -/
theorem escape_eq_self {cs : List Char} (h : '\\' ∉ Dialect.escape cs) :
    Dialect.escape cs = cs := by
  have hplain : ∀ c ∈ cs, Dialect.escapeChar c = [c] := by
    intro c hc
    rcases escapeChar_cases c with ⟨hplain, -⟩ | ⟨e, hescape, -⟩
    · exact hplain
    · exact absurd (List.mem_flatMap.2 ⟨c, hc, by simp [hescape]⟩) h
  rw [Dialect.escape, List.flatMap_congr hplain, List.flatMap_singleton']

theorem double_eq_self {mark : Char} : ∀ {cs : List Char}, mark ∉ cs → Dialect.double mark cs = cs
  | [], _ => rfl
  | c :: cs, h => by
    have hc : c ≠ mark := fun hc => h (hc ▸ List.mem_cons_self)
    have hcs : mark ∉ cs := fun hcs => h (List.mem_cons_of_mem c hcs)
    rw [Dialect.double, if_neg hc, double_eq_self hcs]

/-! ## Quoted forms -/

namespace Dialect

variable {d : Dialect} {rest : List Char}

/-- A quoted name is read as the name, up to its last character. -/
theorem scanName_quoteName (name : String) (hrest : rest.head? ≠ some d.nameMark) :
    d.scanName ((d.quoteName name).toList ++ rest) = some (name, rest) := by
  have hchars : (d.quoteName name).toList ++ rest =
      d.nameMark :: (double d.nameMark name.toList ++ d.nameMark :: rest) := by
    simp [quoteName, enclosed, String.toList_ofList]
  rw [hchars, scanName, if_pos rfl, scanDoubled_double _ hrest]
  simp

/-- A literal that escapes is read as its text. -/
theorem map_scanEscaped_escape (s : String) :
    (scanEscaped (escape s.toList ++ '\'' :: rest)).map (Prod.map String.ofList id) =
      some (s, rest) := by
  rw [scanEscaped_escape]
  simp

/-- The characters of a literal of Postgres : with an `E` if there is something to escape, and
otherwise the text itself between quotes. -/
theorem toList_textLiteral_postgres (s : String) :
    ('\\' ∈ escape s.toList ∧
        (textLiteral .postgres s).toList = 'E' :: '\'' :: (escape s.toList ++ ['\''])) ∨
      ('\\' ∉ s.toList ∧ '\'' ∉ s.toList ∧
        (textLiteral .postgres s).toList = '\'' :: (s.toList ++ ['\''])) := by
  by_cases h : '\\' ∈ escape s.toList
  · exact Or.inl ⟨h, by simp [textLiteral, h]⟩
  · have hself := escape_eq_self h
    refine Or.inr ⟨hself ▸ h, hself ▸ quote_not_mem_escape h, ?_⟩
    rw [hself] at h
    simp [textLiteral, hself, h]

/-- A literal that doubles its quotes is read as its text. -/
theorem scanText_double (hd : d ≠ .mysql) (s : String) (hrest : rest.head? ≠ some '\'') :
    d.scanText ('\'' :: (double '\'' s.toList ++ '\'' :: rest)) = some (s, rest) := by
  rw [scanText, if_pos rfl, if_neg hd, scanDoubled_double _ hrest]
  simp

/-- A text literal is read as the text, up to its last character. -/
theorem scanText_textLiteral (s : String) (hrest : rest.head? ≠ some '\'') :
    d.scanText ((d.textLiteral s).toList ++ rest) = some (s, rest) := by
  cases d with
  | sqlite =>
    have hchars : (textLiteral .sqlite s).toList ++ rest =
        '\'' :: (double '\'' s.toList ++ '\'' :: rest) := by
      simp [textLiteral, enclosed]
    rw [hchars, scanText_double (by decide) s hrest]
  | mysql =>
    have hchars : (textLiteral .mysql s).toList ++ rest =
        '\'' :: (escape s.toList ++ '\'' :: rest) := by
      simp [textLiteral]
    rw [hchars, scanText, if_pos rfl, if_pos rfl, map_scanEscaped_escape]
  | postgres =>
    rcases toList_textLiteral_postgres s with ⟨-, h⟩ | ⟨-, hquote, h⟩
    · have hchars : (textLiteral .postgres s).toList ++ rest =
          'E' :: '\'' :: (escape s.toList ++ '\'' :: rest) := by
        simp [h]
      rw [hchars, scanText, if_neg (by decide), if_pos ⟨rfl, rfl, rfl⟩, List.tail_cons,
        map_scanEscaped_escape]
    · have hchars : (textLiteral .postgres s).toList ++ rest =
          '\'' :: (double '\'' s.toList ++ '\'' :: rest) := by
        simp [h, double_eq_self hquote]
      rw [hchars, scanText_double (by decide) s hrest]

/-- Different names have different quoted forms. -/
theorem quoteName_injective {n m : String} (h : d.quoteName n = d.quoteName m) : n = m := by
  have hn : d.scanName ((d.quoteName n).toList ++ []) = some (n, []) :=
    scanName_quoteName n (by simp)
  have hm : d.scanName ((d.quoteName m).toList ++ []) = some (m, []) :=
    scanName_quoteName m (by simp)
  rw [h, hm] at hn
  simpa using hn.symm

/-- Different texts have different literals. -/
theorem textLiteral_injective {s t : String} (h : d.textLiteral s = d.textLiteral t) : s = t := by
  have hs : d.scanText ((d.textLiteral s).toList ++ []) = some (s, []) :=
    scanText_textLiteral s (by simp)
  have ht : d.scanText ((d.textLiteral t).toList ++ []) = some (t, []) :=
    scanText_textLiteral t (by simp)
  rw [h, ht] at hs
  simpa using hs.symm

end Dialect

end TagSelect.Sql
