import TagSelect.Proofs.Blanks
import TagSelect.Proofs.Filing
import TagSelect.Shell

/-!
# Whole sessions

What the reply to a line depends on, in a session of any length.

A line files a tag if its words are `.add`, a name and an id (`added?`), and a session knows no more
of its past than the tags that were filed in it (`Session.filed`). One line replies and leaves the
session with its tag filed, or ends it (`Session.run_cons`, `Session.run_cons_of_ends`). So a run is
put together from the runs of its parts (`Session.run_append`), and each reply is that of a session
in which the tags of the earlier lines were filed in their order (`Session.getElem?_run`).

A line that is no command is answered as the same text is from the command line, although the line
is trimmed and the text is not (`Session.reply_filter`). All this is said of lines in which
backspaces take something away; a line without backspaces is its own text (`erase?_eq_self`), and it
ends the session only if it leaves (`ends_iff_leaves`). `Session.run_lines` has all of this.
-/

namespace TagSelect.Shell

open Text

/-! ## Lines and commands -/

/-- The words of a line after its backspaces. A line that cannot be read has none. -/
def lineWords? (line : List Char) : Option (List String) :=
  (erase? line).map fun cs => words (String.ofList cs)

/-- The first word of a line is `.exit` or `.quit`. -/
def Leaves (line : List Char) : Prop :=
  ∃ ws, lineWords? line = some ws ∧ (ws.head? = some ".exit" ∨ ws.head? = some ".quit")

/-- A line ends the session : it cannot be read, or it leaves. -/
def Ends (line : List Char) : Prop :=
  erase? line = none ∨ Leaves line

/-- Every line without backspaces can be read, so it ends the session only if it leaves. -/
theorem ends_iff_leaves {line : List Char} (h : '\x08' ∉ line) : Ends line ↔ Leaves line := by
  simp [Ends, erase?_eq_self h]

instance (line : List Char) : Decidable (Leaves line) :=
  match h : lineWords? line with
  | none => .isFalse (by simp [Leaves, h])
  | some ws =>
    decidable_of_iff (ws.head? = some ".exit" ∨ ws.head? = some ".quit") (by simp [Leaves, h])

instance (line : List Char) : Decidable (Ends line) :=
  inferInstanceAs (Decidable (_ ∨ _))

/-- The tag and the id of a line `.add tag id`. -/
def added? (line : List Char) : Option (String × String) :=
  match lineWords? line with
  | some [command, tag, id] => if command = ".add" then some (tag, id) else none
  | _ => none

/-- The tag and the id that a command files. -/
def Command.added : Command → List (String × String)
  | .add [tag, id] => [(tag, id)]
  | _ => []

namespace Command

variable {line cs : List Char}

theorem ofLine_of_none (h : erase? line = none) : ofLine line = .unreadable := by
  rw [ofLine, h]

theorem ofLine_of_some (h : erase? line = some cs) :
    ofLine line = ofText (trim (String.ofList cs)) := by
  rw [ofLine, h, trim, String.toList_ofList]

theorem ofText_of_empty {s : String} (h : words s = []) : ofText (trim s) = .nothing := by
  have hempty : (trim s).isEmpty = true := by
    rw [trim, (words_eq_nil_iff s).1 h]
    rfl
  simp [ofText, hempty]

/-- The first word of a line is its command, and the other words are those of what follows. -/
theorem ofText_of_words {s name : String} {ws : List String} (h : words s = name :: ws) :
    ∃ rest, words rest = ws ∧ name.toList.head? = (trimChars s.toList).head? ∧
      ofText (trim s) =
        if name = ".exit" || name = ".quit" then .leave
        else if name = ".help" then .help
        else if name = ".ast" then .outline rest
        else if name = ".add" then .add ws
        else if name = ".tags" then .tags rest
        else if name.toList.head? = some '.' then .unknown name
        else .filter (trim s) := by
  have hchars : (trim s).toList = trimChars s.toList := String.toList_ofList
  cases htrim : trimChars s.toList with
  | nil =>
    rw [(words_eq_nil_iff s).2 htrim] at h
    cases h
  | cons c cs =>
    have hc : isBlank c = false := isBlank_head?_trimChars (by rw [htrim]; rfl)
    have hhead : (trim s).toList.head? = some c := by rw [hchars, htrim]; rfl
    have hempty : (trim s).isEmpty = false := by
      rw [Bool.eq_false_iff, ne_eq, String.isEmpty_iff, ← String.toList_eq_nil_iff, hchars, htrim]
      simp
    rw [← words_trim, words_eq_cons hhead hc] at h
    obtain ⟨hname, hws⟩ := List.cons.inj h
    refine ⟨trim (cutAtBlank (trim s)).2, by rw [words_trim, hws], ?_, ?_⟩
    · rw [← hname, cutAtBlank, String.toList_ofList, hchars, htrim]
      simp [hc]
    · rw [ofText, hname, words_trim, hws, hempty]
      simp

theorem ofLine_eq_leave : ofLine line = .leave ↔ Leaves line := by
  unfold Leaves lineWords?
  cases herase : erase? line with
  | none => simp [ofLine_of_none herase]
  | some cs =>
    rw [ofLine_of_some herase]
    cases hw : words (String.ofList cs) with
    | nil => simp [ofText_of_empty hw, hw]
    | cons name ws =>
      obtain ⟨rest, -, -, hcommand⟩ := ofText_of_words hw
      rw [hcommand]
      simp only [Option.map_some, Option.some.injEq, exists_eq_left', hw, List.head?_cons]
      by_cases hname : name = ".exit" ∨ name = ".quit"
      · simp [hname]
      · rw [iff_false_right hname]
        simp only [Bool.or_eq_true, decide_eq_true_eq, if_neg hname]
        split_ifs <;> simp

theorem ofLine_eq_unreadable : ofLine line = .unreadable ↔ erase? line = none := by
  refine ⟨fun h => ?_, ofLine_of_none⟩
  by_contra hsome
  obtain ⟨cs, hcs⟩ := Option.ne_none_iff_exists'.1 hsome
  rw [ofLine_of_some hcs, ofText] at h
  split_ifs at h

theorem added_ofLine (line : List Char) : (ofLine line).added = (added? line).toList := by
  unfold added? lineWords?
  cases herase : erase? line with
  | none => rw [ofLine_of_none herase]; rfl
  | some cs =>
    rw [ofLine_of_some herase, Option.map_some]
    cases hw : words (String.ofList cs) with
    | nil => rw [ofText_of_empty hw]; rfl
    | cons name ws =>
      obtain ⟨rest, -, -, hcommand⟩ := ofText_of_words hw
      rw [hcommand]
      by_cases hname : name = ".add"
      · subst hname
        match ws with
        | [] => rfl
        | [tag] => rfl
        | [tag, id] => rfl
        | tag :: id :: other :: ws => rfl
      · have hnone : (ofText (trim (String.ofList cs))).added = [] := by
          rw [hcommand]
          split_ifs <;> rfl
        rw [← hcommand, hnone]
        match ws with
        | [] => rfl
        | [tag] => rfl
        | [tag, id] => simp [hname]
        | tag :: id :: other :: ws => rfl

/-- A line that does not begin with a dot is a filter. -/
theorem ofLine_eq_filter (herase : erase? line = some cs) (hne : trimChars cs ≠ [])
    (hdot : (trimChars cs).head? ≠ some '.') :
    ofLine line = .filter (trim (String.ofList cs)) := by
  have hchars : (String.ofList cs).toList = cs := String.toList_ofList
  rw [ofLine_of_some herase]
  cases hw : words (String.ofList cs) with
  | nil =>
    rw [words_eq_nil_iff, hchars] at hw
    exact absurd hw hne
  | cons name ws =>
    obtain ⟨rest, -, hhead, hcommand⟩ := ofText_of_words hw
    rw [hchars] at hhead
    have hname {s : String} (hs : s.toList.head? = some '.') : name ≠ s := by
      rintro rfl
      exact hdot (hhead ▸ hs)
    rw [hcommand]
    simp only [hname (s := ".exit") rfl, hname (s := ".quit") rfl, hname (s := ".help") rfl,
      hname (s := ".ast") rfl, hname (s := ".add") rfl, hname (s := ".tags") rfl, hhead, hdot]
    rfl

end Command

namespace Session

/-! ## One line -/

/-- The session after tags have been filed in their order. -/
def filed (s : Session) (pairs : List (String × String)) : Session :=
  { s with compiler := { s.compiler with
      index := s.compiler.index.insertAll (pairs.map fun p => (.text p.1, p.2)) } }

theorem filed_append (s : Session) (ps qs : List (String × String)) :
    (s.filed ps).filed qs = s.filed (ps ++ qs) := by
  simp [filed, TagIndex.insertAll_append]

/-- A command ends the session or files its tag. -/
theorem follow_fst (s : Session) {command : Command} (hleave : command ≠ .leave)
    (hread : command ≠ .unreadable) : (s.follow command).1 = some (s.filed command.added) := by
  unfold follow
  split
  · rfl
  · exact absurd rfl hleave
  · rfl
  · rfl
  · rfl
  · next words hwords =>
    have hadded : (Command.add words).added = [] := by
      unfold Command.added
      split
      · next h => exact absurd (Command.add.inj h) (hwords _ _)
      · rfl
    rw [hadded]
    rfl
  · split <;> rfl
  · rfl
  · split <;> rfl
  · exact absurd rfl hread

variable (s : Session) {line : List Char}

theorem answer_fst (h : ¬Ends line) : (s.answer line).1 = some (s.filed (added? line).toList) := by
  obtain ⟨hread, hleave⟩ := not_or.1 h
  rw [answer, s.follow_fst (mt Command.ofLine_eq_leave.1 hleave)
    (mt Command.ofLine_eq_unreadable.1 hread), Command.added_ofLine]

theorem answer_fst_of_ends (h : Ends line) : (s.answer line).1 = none := by
  rcases h with hread | hleave
  · rw [answer, Command.ofLine_eq_unreadable.2 hread, follow]
  · rw [answer, Command.ofLine_eq_leave.2 hleave, follow]

/-- The reply to a line. -/
def reply (s : Session) (line : List Char) : Reply :=
  (s.answer line).2

/-- A line that does not end the session is replied to, and the other lines are answered with its
tag filed. -/
theorem run_cons (h : ¬Ends line) (lines : List (List Char)) :
    s.run (line :: lines) = s.reply line :: (s.filed (added? line).toList).run lines := by
  have hanswer : s.answer line = (some (s.filed (added? line).toList), s.reply line) :=
    Prod.ext (s.answer_fst h) rfl
  rw [run, hanswer]

/-- Nothing is answered after a line that ends the session. -/
theorem run_cons_of_ends (h : Ends line) (lines : List (List Char)) :
    s.run (line :: lines) = [s.reply line] := by
  have hanswer : s.answer line = (none, s.reply line) := Prod.ext (s.answer_fst_of_ends h) rfl
  rw [run, hanswer]

/-! ## Any number of lines -/

/-- Lines that do not end the session are replied to one by one, and what comes after them is
answered with their tags filed. -/
theorem run_append : ∀ (before after : List (List Char)) (s : Session),
    (∀ line ∈ before, ¬Ends line) →
      s.run (before ++ after) = s.run before ++ (s.filed (before.filterMap added?)).run after ∧
        (s.run before).length = before.length
  | [], _, _, _ => ⟨rfl, rfl⟩
  | line :: before, after, s, h => by
    obtain ⟨hline, hbefore⟩ := List.forall_mem_cons.1 h
    obtain ⟨hrun, hlength⟩ := run_append before after (s.filed (added? line).toList) hbefore
    have hfiled : (line :: before).filterMap added? =
        (added? line).toList ++ before.filterMap added? := by
      rw [List.filterMap_cons]
      cases added? line <;> rfl
    rw [List.cons_append, s.run_cons hline, s.run_cons hline, hrun, filed_append, hfiled,
      List.cons_append, List.length_cons, List.length_cons, hlength]
    exact ⟨rfl, rfl⟩

/-- Nothing is answered after lines one of which ends the session. -/
theorem run_append_of_ends : ∀ (before after : List (List Char)) (s : Session),
    (∃ line ∈ before, Ends line) →
      s.run (before ++ after) = s.run before ∧ (s.run before).length ≤ before.length
  | [], _, _, h => by simp at h
  | line :: before, after, s, h => by
    by_cases hline : Ends line
    · rw [List.cons_append, s.run_cons_of_ends hline, s.run_cons_of_ends hline]
      exact ⟨rfl, by simp⟩
    · obtain ⟨l, hl, hends⟩ := h
      have hbefore : ∃ l ∈ before, Ends l := by
        rcases List.mem_cons.1 hl with rfl | hl
        · exact absurd hends hline
        · exact ⟨l, hl, hends⟩
      obtain ⟨hrun, hlength⟩ := run_append_of_ends before after _ hbefore
      rw [List.cons_append, s.run_cons hline, s.run_cons hline, hrun]
      exact ⟨rfl, Nat.succ_le_succ hlength⟩

/-- The reply to a line is that of a session in which the tags of the lines before it were filed. -/
theorem getElem?_run {before : List (List Char)} (h : ∀ l ∈ before, ¬Ends l) (line : List Char)
    (after : List (List Char)) : (s.run (before ++ line :: after))[before.length]? =
      some ((s.filed (before.filterMap added?)).reply line) := by
  obtain ⟨hrun, hlength⟩ := run_append before (line :: after) s h
  rw [hrun, List.getElem?_append_right (Nat.le_of_eq hlength), hlength, Nat.sub_self]
  by_cases hline : Ends line
  · rw [run_cons_of_ends _ hline]
    rfl
  · rw [run_cons _ hline]
    rfl

/-- A line that ends the session hides what comes after it, whatever comes before it. -/
theorem run_append_cons_of_ends (h : Ends line) (before after : List (List Char)) :
    s.run (before ++ line :: after) = s.run (before ++ [line]) := by
  have hends : ∃ l ∈ before ++ [line], Ends l := ⟨line, by simp, h⟩
  rw [List.append_cons, (run_append_of_ends _ after s hends).1]

/-- Without a line that neither ends the session nor files a tag, its reply is missing and no
other. -/
theorem run_eraseIdx (hline : ¬Ends line) (hadded : added? line = none)
    (before after : List (List Char)) :
    s.run (before ++ after) = (s.run (before ++ line :: after)).eraseIdx before.length := by
  by_cases hends : ∃ l ∈ before, Ends l
  · obtain ⟨hrun, hlength⟩ := run_append_of_ends before (line :: after) s hends
    rw [(run_append_of_ends before after s hends).1, hrun, List.eraseIdx_of_length_le hlength]
  · have hbefore : ∀ l ∈ before, ¬Ends l := fun l hl hl' => hends ⟨l, hl, hl'⟩
    obtain ⟨hrun, hlength⟩ := run_append before (line :: after) s hbefore
    rw [(run_append before after s hbefore).1, hrun, run_cons _ hline, hadded,
      List.eraseIdx_append_of_length_le (Nat.le_of_eq hlength), hlength, Nat.sub_self]
    rfl

/-! ## Filters -/

theorem query_eq_ok {filter sql : String} : s.query filter = .ok sql ↔
    ∃ select, s.compiler.compileText filter = .ok select ∧ select.inlined s.dialect = sql := by
  unfold query
  cases s.compiler.compileText filter <;> simp

/-- A filter that is given without white space at its ends has the same statement. -/
theorem query_trim (filter sql : String) : s.query (trim filter) = .ok sql ↔
    s.query filter = .ok sql := by
  simp only [query_eq_ok, Compiler.compileText_trim]

/-- The reply to a line that is no command is the statement that its text has from the command line,
or it is an error where there is none. -/
theorem reply_filter {cs : List Char} (herase : erase? line = some cs) (hne : trimChars cs ≠ [])
    (hdot : (trimChars cs).head? ≠ some '.') :
    (∃ sql, s.reply line = .output sql ∧ s.once (String.ofList cs) = ⟨0, sql ++ "\n", ""⟩) ∨
      ∃ e e', s.reply line = .error e ∧ s.once (String.ofList cs) = ⟨1, "", e' ++ "\n"⟩ := by
  rw [reply, answer, Command.ofLine_eq_filter herase hne hdot, follow, once]
  cases hquery : s.query (String.ofList cs) with
  | ok sql =>
    rw [(s.query_trim _ sql).2 hquery]
    exact Or.inl ⟨sql, rfl, rfl⟩
  | error e' =>
    cases htrim : s.query (trim (String.ofList cs)) with
    | ok sql =>
      rw [(s.query_trim _ sql).1 htrim] at hquery
      cases hquery
    | error e => exact Or.inr ⟨e, e', rfl, rfl⟩

/-- A session with any compiler, dialect and lines. Nothing after a line that leaves has an effect.
The reply to a line that is reached is that of a session in which the tags of the earlier `.add`
lines were filed in their order. Without a line that neither ends the session nor files a tag, its
reply is missing and no other. And if a line that is reached is not blank and does not begin with a
dot, its reply puts on the output what the program does for its text, with nothing trimmed, when the
text is given on the command line to such a session, and is an error if this fails. A line without
backspaces is its own text and ends the session only if it leaves. -/
theorem run_lines (s : Session) :
    (∀ before line after, Leaves line →
        s.run (before ++ line :: after) = s.run (before ++ [line])) ∧
      (∀ before line after, (∀ l ∈ before, ¬Ends l) →
        (s.run (before ++ line :: after))[before.length]? =
          some ((s.filed (before.filterMap added?)).reply line)) ∧
      (∀ before line after, ¬Ends line → added? line = none →
        s.run (before ++ after) = (s.run (before ++ line :: after)).eraseIdx before.length) ∧
      (∀ before line after cs, (∀ l ∈ before, ¬Ends l) → erase? line = some cs →
        trimChars cs ≠ [] → (trimChars cs).head? ≠ some '.' →
        ∃ reply, (s.run (before ++ line :: after))[before.length]? = some reply ∧
          outputOf [reply] =
            ((s.filed (before.filterMap added?)).once (String.ofList cs)).output ∧
          ((∃ e, reply = .error e) ↔
            ((s.filed (before.filterMap added?)).once (String.ofList cs)).exit ≠ 0) ∧
          ∀ args o file input, Invocation.ofArguments args = .run o →
            o.command = some (String.ofList cs) →
            o.session file = .ok (s.filed (before.filterMap added?)) →
            program args file input =
              (s.filed (before.filterMap added?)).once (String.ofList cs)) ∧
      ∀ line, '\x08' ∉ line → erase? line = some line ∧ (Ends line ↔ Leaves line) := by
  refine ⟨fun before line after h => s.run_append_cons_of_ends (Or.inr h) before after,
    fun before line after h => s.getElem?_run h line after,
    fun before line after hline hadded => s.run_eraseIdx hline hadded before after,
    fun before line after cs hbefore herase hne hdot => ?_,
    fun line h => ⟨erase?_eq_self h, ends_iff_leaves h⟩⟩
  have hprogram (args : List String) (o : Options) (file : String → FileContent) (input : String)
      (hargs : Invocation.ofArguments args = .run o)
      (hcommand : o.command = some (String.ofList cs))
      (hsession : o.session file = .ok (s.filed (before.filterMap added?))) :
      program args file input = (s.filed (before.filterMap added?)).once (String.ofList cs) := by
    simp only [program, hargs, hsession, hcommand]
  refine ⟨_, s.getElem?_run hbefore line after, ?_⟩
  rcases (s.filed (before.filterMap added?)).reply_filter herase hne hdot with
    ⟨sql, hreply, honce⟩ | ⟨e, e', hreply, honce⟩
  · rw [hreply]
    refine ⟨?_, ?_, hprogram⟩
    · simp [honce, outputOf, String.join]
    · simp [honce]
  · rw [hreply]
    refine ⟨?_, ?_, hprogram⟩
    · simp [honce, outputOf, String.join]
    · simp [honce]

/-- A session that files a tag, refuses a filter and answers another one, and leaves. The last
filter, with its white space, is also given on the command line, with the tag in a file. -/
theorem run_sample :
    let s : Session := ⟨⟨.standard, .empty⟩, .sqlite⟩
    let add := " .add a 1".toList
    let broken := "a &".toList
    let filter := "\ta | sort:newest  ".toList
    let leave := ".quit now".toList
    let file (_ : String) : FileContent := .bytes "\x7b\"a\": \"1\"\x7d".toUTF8
    (Leaves leave ∧ s.run ([add, broken] ++ leave :: [filter]) = s.run ([add, broken] ++ [leave])) ∧
      ((∀ l ∈ [add, broken], ¬Ends l) ∧ (s.run ([add, broken] ++ filter :: [leave]))[2]? =
        some ((s.filed [("a", "1")]).reply filter)) ∧
      (¬Ends broken ∧ added? broken = none ∧
        s.run ([add] ++ [filter, leave]) =
          (s.run ([add] ++ broken :: [filter, leave])).eraseIdx 1) ∧
      '\x08' ∉ filter ∧ erase? filter = some filter ∧ trimChars filter ≠ [] ∧
        (trimChars filter).head? ≠ some '.' ∧
        program ["--dialect=sqlite", "--tags=t.json", "-c", String.ofList filter] file "" =
          (s.filed [("a", "1")]).once (String.ofList filter) ∧
        ((s.filed [("a", "1")]).once (String.ofList filter)).exit = 0 := by
  intro s add broken filter leave file
  have hleave : Leaves leave := by decide +kernel
  have hbefore : ∀ l ∈ [add, broken], ¬Ends l := by decide +kernel
  have hadded : [add, broken].filterMap added? = [("a", "1")] := by decide +kernel
  have hbroken : added? broken = none := by decide +kernel
  have hplain : '\x08' ∉ filter := by decide +kernel
  have hne : trimChars filter ≠ [] := by decide +kernel
  have hdot : (trimChars filter).head? ≠ some '.' := by decide +kernel
  obtain ⟨h₁, h₂, h₃, h₄, h₅⟩ := run_lines s
  have herase := (h₅ filter hplain).1
  obtain ⟨reply, -, -, -, hprogram⟩ := h₄ _ filter [leave] filter hbefore herase hne hdot
  refine ⟨⟨hleave, h₁ _ _ _ hleave⟩, ⟨hbefore, hadded ▸ h₂ _ _ _ hbefore⟩,
    ⟨hbefore broken (by simp), hbroken, h₃ [add] _ _ (hbefore broken (by simp)) hbroken⟩, hplain,
    herase, hne, hdot, ?_, by decide +kernel⟩
  rw [← hadded]
  exact hprogram _ ⟨none, some "t.json", .sqlite, some (String.ofList filter)⟩ file ""
    (by decide +kernel) rfl (by decide +kernel)

end Session

end TagSelect.Shell
