import Mathlib.Data.List.Forall2
import TagSelect.Proofs.LevelCounter
import TagSelect.Proofs.ViablePrefix

/-!
# Calling a parser again

A parser may be called any number of times, also after it has failed in the middle of its tokens
with levels lost. Every call gets on or stays where it is for good.

A step of the parser passes tokens other than the end of the input (`Cursor.Passes`). What reads an
operand passes at least one, or fails with nothing changed (`Cursor.Moves`), since each step looks
at the current token first and takes a level only after it has taken this token. What comes after
may pass any number of tokens (`Cursor.Advances`), so that `bind` keeps the first of the two
(`Cursor.Moves.bind`), and `Cursor.moves_unary` and `Cursor.advances_chain` are by recursion on the
levels left.

Over a list of tokens without ends of the input a call therefore shortens the list or leaves the
parser as it is (`Parser.parse_ofTokens`), and a list runs out (`Parser.parse_after_ofTokens`). If
ends of the input stand between parts of a list, each call reads one part and the end after it
(`Parser.parse_segment`). `parse_again` puts both together.
-/

namespace TagSelect

open TagSelect.Filter

variable {σ α β : Type}

/-- Where a step stands when it has ended. -/
def Outcome.cursor : Outcome σ α → Cursor σ
  | .done _ c => c
  | .failed _ c _ => c

/-! ## Steps -/

namespace Cursor

variable [Token.Source σ]

/-- The tokens, of which none is the end of the input, come next at the first cursor, and the second
one stands after them. -/
inductive Passes : Cursor σ → List Token → Cursor σ → Prop
  | nil (c : Cursor σ) : Passes c [] c
  | cons {c c' : Cursor σ} {ts : List Token} (hc : c.current.kind ≠ .eof)
      (h : Passes c.advance ts c') : Passes c (c.current :: ts) c'

theorem Passes.append {c c' c'' : Cursor σ} {ts us : List Token} (h : c.Passes ts c')
    (h' : c'.Passes us c'') : c.Passes (ts ++ us) c'' := by
  induction h with
  | nil c => exact h'
  | cons hc _ ih => exact .cons hc (ih h')

/-- The step passes some tokens, or none. -/
def Advances (c : Cursor σ) (o : Outcome σ α) : Prop :=
  ∃ ts, c.Passes ts o.cursor

/-- The step passes a token, or fails and leaves everything as it is. -/
def Moves (n : Nat) (c : Cursor σ) (o : Outcome σ α) : Prop :=
  (∃ e, o = .failed e c n) ∨ ∃ t ts, c.Passes (t :: ts) o.cursor

variable {c : Cursor σ} {n : Nat} {o : Outcome σ α} {k : α → Cursor σ → Outcome σ β}

theorem advances_done (a : α) (c : Cursor σ) : Advances c (.done a c) :=
  ⟨[], .nil c⟩

theorem Moves.advances (h : Moves n c o) : Advances c o := by
  rcases h with ⟨e, rfl⟩ | ⟨t, ts, hpasses⟩
  · exact ⟨[], .nil c⟩
  · exact ⟨t :: ts, hpasses⟩

theorem Advances.bind (h : Advances c o) (hk : ∀ a c', Advances c' (k a c')) :
    Advances c (o.bind k) := by
  obtain ⟨ts, hts⟩ := h
  cases o with
  | failed e c' m => exact ⟨ts, hts⟩
  | done a c' =>
    obtain ⟨us, hus⟩ := hk a c'
    exact ⟨ts ++ us, hts.append hus⟩

/-- What is done after a token was passed changes nothing of that. -/
theorem Moves.bind (h : Moves n c o) (hk : ∀ a c', Advances c' (k a c')) :
    Moves n c (o.bind k) := by
  rcases h with ⟨e, rfl⟩ | ⟨t, ts, hts⟩
  · exact Or.inl ⟨e, rfl⟩
  · cases o with
    | failed e c' m => exact Or.inr ⟨t, ts, hts⟩
    | done a c' =>
      obtain ⟨us, hus⟩ := hk a c'
      exact Or.inr ⟨t, ts ++ us, hts.append hus⟩

/-- A step that begins by taking a token passes it. -/
theorem Advances.moves (h : Advances c.advance o) (hc : c.current.kind ≠ .eof) : Moves n c o := by
  obtain ⟨ts, hts⟩ := h
  exact Or.inr ⟨c.current, ts, .cons hc hts⟩

theorem moves_expect {kind : Token.Kind} (hkind : kind ≠ .eof) (expected : Expected) (n : Nat)
    (c : Cursor σ) : Moves n c (c.expect kind expected n) := by
  unfold expect
  split
  · next hc => exact (advances_done c.current c.advance).moves (hc ▸ hkind)
  · exact Or.inl ⟨_, rfl⟩

theorem moves_tagName (n : Nat) (c : Cursor σ) : Moves n c (c.tagName n) := by
  refine (moves_expect (by decide) _ n c).bind fun key c => ?_
  split
  · next hcolon =>
    refine Moves.advances (n := n) (Advances.moves ?_ (by simp [hcolon]))
    exact (moves_expect (by decide) _ n c.advance).advances.bind fun _ _ => advances_done _ _
  · exact advances_done _ _

/-- Where no level is left, the token that would take one is passed. -/
theorem moves_tooDeep (hc : c.current.kind ≠ .eof) :
    Moves n c (.failed (.tooDeep c.current) c.advance 0 : Outcome σ α) :=
  Advances.moves ⟨[], .nil _⟩ hc

mutual

/-- What reads an operand passes a token, or leaves everything as it is. -/
theorem moves_unary : ∀ (n : Nat) (c : Cursor σ), Moves n c (c.unary n)
  | n, c => by
    by_cases hnot : c.current.kind = .not
    · have hc : c.current.kind ≠ .eof := by simp [hnot]
      -- the mark is taken before it is known whether a level is left for it
      cases n with
      | zero => simpa [unary, hnot] using moves_tooDeep hc
      | succ n =>
        simp only [unary, hnot]
        exact ((moves_unary n c.advance).advances.bind fun _ _ => advances_done _ _).moves hc
    by_cases hgroup : c.current.kind = .leftParen
    · have hc : c.current.kind ≠ .eof := by simp [hgroup]
      cases n with
      | zero => simpa [unary, hgroup] using moves_tooDeep hc
      | succ n =>
        simp only [unary, hgroup]
        refine Advances.moves ((moves_unary n c.advance).advances.bind fun first c => ?_) hc
        refine (advances_chain n first c).bind fun f c => ?_
        exact (moves_expect (by decide) _ n c).advances.bind fun _ _ => advances_done _ _
    rw [unary_eq_tagName n hnot hgroup]
    exact moves_tagName n c
termination_by n => n

/-- What reads a chain passes some tokens, or none. -/
theorem advances_chain : ∀ (n : Nat) (left : Filter) (c : Cursor σ), Advances c (c.chain n left)
  | n, left, c => by
    cases hop : Operator.ofKind? c.current.kind with
    | none =>
      rw [chain_of_none hop]
      exact advances_done left c
    | some op =>
      have hc : c.current.kind ≠ .eof := by
        rw [Operator.ofKind?_eq_some.1 hop]
        cases op <;> decide
      cases n with
      | zero => simpa [chain, hop] using (moves_tooDeep (n := 0) hc).advances
      | succ n =>
        rw [chain_of_operator hop]
        refine Moves.advances (n := n) (Advances.moves ?_ hc)
        exact (moves_unary n c.advance).advances.bind fun right c => advances_chain n _ c
termination_by n => n

end

theorem moves_binary (n : Nat) (c : Cursor σ) : Moves n c (c.binary n) :=
  (moves_unary n c).bind fun first c => advances_chain n first c

end Cursor

/-! ## Lists of tokens -/

namespace Replay

/-- The tokens that a cursor over a list has still to read, without ends of the input. -/
def pending (c : Cursor Replay) : List Token :=
  (c.current :: c.source.rest).filter (·.kind ≠ .eof)

theorem pending_ofSource {ts : List Token} (hts : ∀ t ∈ ts, t.kind ≠ .eof) (stop : Nat) :
    pending (.ofSource ⟨ts, stop⟩) = ts := by
  cases ts with
  | nil => rfl
  | cons t ts => exact List.filter_eq_self.2 fun u hu => by simpa using hts u hu

/-- Tokens that are passed are the first ones of the list. -/
theorem exists_append_of_passes {stop : Nat} : ∀ {ts taken : List Token} {c : Cursor Replay},
    (Cursor.ofSource (⟨ts, stop⟩ : Replay)).Passes taken c →
      ∃ rest, ts = taken ++ rest ∧ c = .ofSource ⟨rest, stop⟩
  | ts, _, _, .nil _ => ⟨ts, rfl, rfl⟩
  | [], _, _, .cons hne _ => absurd rfl hne
  | t :: ts, _, _, .cons _ h => by
    obtain ⟨rest, hts, hrest⟩ := @exists_append_of_passes stop ts _ _ h
    exact ⟨rest, congrArg (t :: ·) hts, hrest⟩

theorem eq_nil_of_kind_eof {ts : List Token} {stop : Nat} (hts : ∀ t ∈ ts, t.kind ≠ .eof)
    (h : (Cursor.ofSource (⟨ts, stop⟩ : Replay)).current.kind = .eof) : ts = [] := by
  cases ts with
  | nil => rfl
  | cons t ts => exact absurd h (hts t List.mem_cons_self)

end Replay

namespace Parser

theorem parse_of_done [Token.Source σ] {p : Parser σ} {f : Filter} {c : Cursor σ}
    (h : p.cursor.filter p.levels = .done f c) : p.parse = (.ok f, ⟨c, p.levels⟩) := by
  rw [parse, h]

theorem parse_of_failed [Token.Source σ] {p : Parser σ} {e : SyntaxError} {c : Cursor σ} {n : Nat}
    (h : p.cursor.filter p.levels = .failed e c n) : p.parse = (.error e, ⟨c, n⟩) := by
  rw [parse, h]

/-- A parser over the tokens of a list that are left. -/
def ofTokens (ts : List Token) (stop levels : Nat) : Parser Replay :=
  ⟨.ofSource ⟨ts, stop⟩, levels⟩

/-- At the end of the input everything passes and the parser stays as it is. -/
theorem parse_ofTokens_nil (stop levels : Nat) :
    (ofTokens [] stop levels).parse = (.ok .everything, ofTokens [] stop levels) :=
  rfl

/-- A call over tokens without ends of the input takes a token off the list, or leaves the parser as
it is. -/
theorem parse_ofTokens {ts : List Token} (hts : ∀ t ∈ ts, t.kind ≠ .eof) (stop levels : Nat) :
    (ofTokens ts stop levels).parse.2 = ofTokens ts stop levels ∨
      ∃ t taken rest levels', ts = t :: taken ++ rest ∧
        (ofTokens ts stop levels).parse.2 = ofTokens rest stop levels' := by
  by_cases heof : (Cursor.ofSource (⟨ts, stop⟩ : Replay)).current.kind = .eof
  · obtain rfl := Replay.eq_nil_of_kind_eof hts heof
    exact Or.inl rfl
  have hfilter : (ofTokens ts stop levels).cursor.filter levels =
      ((Cursor.ofSource ⟨ts, stop⟩).binary levels).bind fun f c =>
        (c.expect .eof .endOfInput levels).bind fun _ c => .done f c := if_neg heof
  rcases Cursor.moves_binary levels (.ofSource (⟨ts, stop⟩ : Replay)) with
    ⟨e, hfail⟩ | ⟨t, taken, hpasses⟩
  · rw [hfail] at hfilter
    exact Or.inl (by rw [parse_of_failed hfilter]; rfl)
  obtain ⟨rest, hrest, hcursor⟩ := Replay.exists_append_of_passes hpasses
  refine Or.inr ⟨t, taken, rest, ?_⟩
  cases hbinary : (Cursor.ofSource (⟨ts, stop⟩ : Replay)).binary levels with
  | failed e c m =>
    rw [hbinary] at hfilter hcursor
    exact ⟨m, hrest, by rw [parse_of_failed hfilter, ofTokens, ← hcursor]; rfl⟩
  | done f c =>
    rw [hbinary, Outcome.bind] at hfilter
    rw [hbinary, Outcome.cursor] at hcursor
    subst hcursor
    refine ⟨levels, hrest, ?_⟩
    by_cases hend : (Cursor.ofSource (⟨rest, stop⟩ : Replay)).current.kind = .eof
    · -- the end of the input is taken, and there is nothing behind it
      obtain rfl := Replay.eq_nil_of_kind_eof
        (fun u hu => hts u (hrest ▸ List.mem_append_right _ hu)) hend
      rw [parse_of_done hfilter]
      rfl
    · rw [Cursor.expect, if_neg hend] at hfilter
      rw [parse_of_failed hfilter]
      rfl

/-! ## Calls in turn -/

theorem after_add [Token.Source σ] : ∀ (n k : Nat) (p : Parser σ),
    p.after (n + k) = (p.after n).after k
  | 0, k, p => by rw [Nat.zero_add, after]
  | n + 1, k, p => by rw [Nat.succ_add, after, after, after_add n k]

/-- A call that changes nothing changes nothing the next time. -/
theorem after_of_fixed [Token.Source σ] {p : Parser σ} (h : p.parse.2 = p) :
    ∀ n, p.after n = p
  | 0 => rfl
  | n + 1 => by rw [after, h, after_of_fixed h n]

/-- Whatever was called, the parser stands at some of the last tokens of its list. -/
theorem exists_after_ofTokens (stop : Nat) : ∀ (k : Nat) {ts : List Token} (levels : Nat),
    (∀ t ∈ ts, t.kind ≠ .eof) → ∃ rest levels', (∀ t ∈ rest, t.kind ≠ .eof) ∧
      (ofTokens ts stop levels).after k = ofTokens rest stop levels'
  | 0, ts, levels, hts => ⟨ts, levels, hts, rfl⟩
  | k + 1, ts, levels, hts => by
    rw [after]
    rcases parse_ofTokens hts stop levels with hfixed | ⟨t, taken, rest, levels', rfl, hparse⟩
    · rw [hfixed]
      exact exists_after_ofTokens stop k levels hts
    · rw [hparse]
      exact exists_after_ofTokens stop k levels' fun u hu => hts u (List.mem_append_right _ hu)

/-- After as many calls as there are tokens, a call changes nothing any more. -/
theorem parse_after_ofTokens (stop : Nat) : ∀ (n : Nat) {ts : List Token} (levels : Nat),
    (∀ t ∈ ts, t.kind ≠ .eof) → ts.length ≤ n →
      ((ofTokens ts stop levels).after n).parse.2 = (ofTokens ts stop levels).after n
  | 0, ts, levels, hts, hn => by
    obtain rfl := List.eq_nil_of_length_eq_zero (Nat.le_zero.1 hn)
    rfl
  | n + 1, ts, levels, hts, hn => by
    rw [after]
    rcases parse_ofTokens hts stop levels with hfixed | ⟨t, taken, rest, levels', rfl, hparse⟩
    · rw [hfixed, after_of_fixed hfixed, hfixed]
    · rw [hparse]
      refine parse_after_ofTokens stop n levels' (fun u hu => hts u (List.mem_append_right _ hu)) ?_
      simp only [List.length_append, List.length_cons] at hn
      omega

end Parser

/-! ## Ends of the input between tokens -/

/-- A list of tokens is made of segments with an end of the input between any two of them. -/
inductive Separated : List (List Token) → List Token → Prop
  | nil : Separated [] []
  | last (segment : List Token) : Separated [segment] segment
  | cons (segment : List Token) {segments : List (List Token)} {t : Token} {ts : List Token}
      (hne : segments ≠ []) (ht : t.kind = .eof) (h : Separated segments ts) :
      Separated (segment :: segments) (segment ++ t :: ts)

/-- The tokens are not empty, have no end of the input among them, and a new parser reads the filter
from them. -/
structure Segment (ts : List Token) (f : Filter) : Prop where
  ne_nil : ts ≠ []
  endless : ∀ t ∈ ts, t.kind ≠ .eof
  parse_eq : (Parser.ofSource (Replay.ofList ts)).parse.1 = .ok f

/-- A segment has the words of a phrase that needs no more levels than a new parser has. -/
theorem Segment.exists_phrase {ts : List Token} {f : Filter} (h : Segment ts f) :
    ∃ p : Phrase, p.words = ts.map Word.ofToken ∧ p.filter = f ∧ p.levels ≤ maxLevels := by
  have hreads := Replay.reads_append (Replay.ofList ts).stop [] ts
  rw [List.append_nil] at hreads
  have heof : Word.mark .eof ∉ ts.map Word.ofToken := by
    intro hmem
    obtain ⟨t, ht, hword⟩ := List.mem_map.1 hmem
    exact h.endless t ht ((Word.ofToken_eq_mark (by decide)).1 hword)
  rcases (Cursor.filter_eq_done_iff hreads rfl heof _ f).1 (Parser.parse_eq_ok.1 h.parse_eq) with
    ⟨hnil, -⟩ | hphrase
  · exact absurd (List.map_eq_nil_iff.1 hnil) h.ne_nil
  · exact hphrase

namespace Parser

/-- In front of an end of the input a segment is read with its filter, the end is taken, and all
levels are given back. -/
theorem parse_segment {ts : List Token} {f : Filter} (h : Segment ts f) (rest : List Token)
    (stop : Nat) (hrest : (Cursor.ofSource (⟨rest, stop⟩ : Replay)).current.kind = .eof) :
    (ofTokens (ts ++ rest) stop maxLevels).parse =
      (.ok f, ⟨(Cursor.ofSource ⟨rest, stop⟩).advance, maxLevels⟩) := by
  obtain ⟨p, hwords, rfl, hlevels⟩ := h.exists_phrase
  have hreads := Replay.reads_append stop rest ts
  rw [← hwords] at hreads
  have hbinary := Cursor.binary_of_reads p hlevels hreads (by simp [hrest])
    (by simp [hrest, Operator.ofKind?])
  have hne : (Cursor.ofSource (⟨ts ++ rest, stop⟩ : Replay)).current.kind ≠ .eof := by
    obtain ⟨t, ts, rfl⟩ := List.exists_cons_of_ne_nil h.ne_nil
    exact h.endless t List.mem_cons_self
  refine parse_of_done (p := ofTokens (ts ++ rest) stop maxLevels) ?_
  rw [ofTokens, Cursor.filter, if_neg hne, hbinary, Outcome.bind, Cursor.expect, if_pos hrest]
  rfl

theorem parseTimes_ofTokens_nil (stop levels : Nat) : ∀ n,
    parseTimes n (ofTokens [] stop levels) = List.replicate n (.ok .everything)
  | 0 => rfl
  | n + 1 => by
    rw [parseTimes, parse_ofTokens_nil]
    exact congrArg (_ :: ·) (parseTimes_ofTokens_nil stop levels n)

/-- Calls read the segments one by one, and everything passes after the last. -/
theorem parseTimes_separated (stop n : Nat) {segments : List (List Token)} {ts : List Token}
    (hts : Separated segments ts) : ∀ {fs : List Filter}, List.Forall₂ Segment segments fs →
      parseTimes (fs.length + n) (ofTokens ts stop maxLevels) =
        fs.map .ok ++ List.replicate n (.ok .everything) := by
  induction hts with
  | nil =>
    rintro _ ⟨⟩
    rw [List.length_nil, Nat.zero_add, parseTimes_ofTokens_nil]
    rfl
  | last segment =>
    rintro _ (_ | ⟨hsegment, ⟨⟩⟩)
    have hparse := parse_segment hsegment [] stop rfl
    rw [List.append_nil] at hparse
    rw [List.length_singleton, Nat.add_comm, parseTimes, hparse]
    exact congrArg (_ :: ·) (parseTimes_ofTokens_nil stop maxLevels n)
  | @cons segment segments t ts hne ht hrest ih =>
    rintro _ (_ | ⟨hsegment, hsegments⟩)
    have hparse := parse_segment hsegment (t :: ts) stop ht
    rw [List.length_cons, Nat.succ_add, parseTimes, hparse]
    exact congrArg (_ :: ·) (ih hsegments)

end Parser

/-- Over a list of tokens without ends of the input, each of any number of calls takes a token off
those that are left, or leaves the parser as it is, and after as many calls as there are tokens all
further ones are alike. Over segments with an end of the input between any two of them, each call
reads the next segment, and everything passes after the last. -/
theorem parse_again :
    (∀ ts : List Token, (∀ t ∈ ts, t.kind ≠ .eof) →
      let start := Parser.ofSource (Replay.ofList ts)
      Replay.pending start.cursor = ts ∧
      (∀ k,
        let p := start.after k
        (∃ t taken, Replay.pending p.cursor = t :: taken ++ Replay.pending p.parse.2.cursor) ∨
          p.parse.2 = p) ∧
      ∀ k, ts.length ≤ k → (start.after k).parse = (start.after ts.length).parse) ∧
    ∀ segments ts fs, Separated segments ts → List.Forall₂ Segment segments fs → ∀ n,
      Parser.parseTimes (fs.length + n) (Parser.ofSource (Replay.ofList ts)) =
        fs.map .ok ++ List.replicate n (.ok .everything) := by
  refine ⟨fun ts hts => ⟨Replay.pending_ofSource hts _, fun k => ?_, fun k hk => ?_⟩,
    fun segments ts fs hsegments hfs n => ?_⟩
  · obtain ⟨rest, levels, hrest, hafter⟩ :=
      Parser.exists_after_ofTokens (Replay.ofList ts).stop k maxLevels hts
    have hp : (Parser.ofSource (Replay.ofList ts)).after k =
        Parser.ofTokens rest (Replay.ofList ts).stop levels := hafter
    dsimp only
    rw [hp]
    rcases Parser.parse_ofTokens hrest (Replay.ofList ts).stop levels with
      hfixed | ⟨t, taken, rest', levels', rfl, hparse⟩
    · exact Or.inr hfixed
    · have hrest' : ∀ t ∈ rest', t.kind ≠ .eof := fun u hu =>
        hrest u (List.mem_append_right _ hu)
      refine Or.inl ⟨t, taken, ?_⟩
      rw [hparse, Parser.ofTokens, Parser.ofTokens, Replay.pending_ofSource hrest,
        Replay.pending_ofSource hrest']
  · have hfixed : ((Parser.ofSource (Replay.ofList ts)).after ts.length).parse.2 =
        (Parser.ofSource (Replay.ofList ts)).after ts.length :=
      Parser.parse_after_ofTokens (Replay.ofList ts).stop ts.length maxLevels hts (Nat.le_refl _)
    obtain ⟨j, rfl⟩ := Nat.exists_eq_add_of_le hk
    rw [Parser.after_add, Parser.after_of_fixed hfixed]
  · exact Parser.parseTimes_separated (Replay.ofList ts).stop n hsegments hfs

/-- A parenthesis that closes nothing stops a parser for good after its second call. Of two segments
the second is read by the second call. -/
theorem parse_again_sample :
    let mark (kind : Token.Kind) : Token := ⟨kind, "", ⟨0, 0⟩⟩
    let name (s : String) : Token := ⟨.identifier, s, ⟨0, 0⟩⟩
    let closed := [mark .not, name "a", mark .rightParen, name "b"]
    let start := Parser.ofSource (Replay.ofList closed)
    let segments := [[name "a"], [mark .not, name "b"]]
    let ts := [name "a", mark .eof, mark .not, name "b"]
    let fs : List Filter := [.tag (.plain "a"), .not (.tag (.plain "b"))]
    ((∀ t ∈ closed, t.kind ≠ .eof) ∧
      Replay.pending (start.after 1).cursor = [mark .rightParen, name "b"] ∧
      (start.after 1).parse.2 = start.after 1 ∧
      ∀ k, 4 ≤ k → (start.after k).parse = (start.after 4).parse) ∧
    Separated segments ts ∧ List.Forall₂ Segment segments fs ∧
      ∀ n, Parser.parseTimes (2 + n) (Parser.ofSource (Replay.ofList ts)) =
        [.ok (.tag (.plain "a")), .ok (.not (.tag (.plain "b")))] ++
          List.replicate n (.ok .everything) := by
  intro mark name closed start segments ts fs
  have hclosed : ∀ t ∈ closed, t.kind ≠ .eof := by decide
  have hpending : Replay.pending (start.after 1).cursor = [mark .rightParen, name "b"] := by
    decide +kernel
  have hfixed : (start.after 1).parse.2 = start.after 1 := by decide +kernel
  have hsegments : Separated segments ts :=
    .cons [name "a"] (List.cons_ne_nil _ _) rfl (.last _)
  have hfs : List.Forall₂ Segment segments fs :=
    .cons ⟨List.cons_ne_nil _ _, by decide, by decide +kernel⟩
      (.cons ⟨List.cons_ne_nil _ _, by decide, by decide +kernel⟩ .nil)
  exact ⟨⟨hclosed, hpending, hfixed, (parse_again.1 closed hclosed).2.2⟩, hsegments, hfs,
    parse_again.2 segments ts fs hsegments hfs⟩

end TagSelect
