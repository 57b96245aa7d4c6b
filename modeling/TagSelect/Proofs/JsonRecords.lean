import Mathlib.Tactic.Tauto
import TagSelect.Proofs.JsonValues

/-!
# Reading a record in any order

The members of a record may stand in any order, some may be left out, and others may stand between
them. The reader goes through them once, and `holds name r` says that the record `r` read so far has
what it should have under a name.

The invariant of this run is that the record is right under all names seen so far and under all
names that may be left out (`exists_follows`). A member of the record makes it right under its own
name and keeps the others (`RecordField.Fits`), and a member of another name changes nothing. After
the last member every entry has been seen or may be left out, so that the record is right under all
names (`IsRecord.takes`).
-/

namespace TagSelect.Json

variable {ρ : Type} {holds : String → ρ → Prop} {start : ρ} {fields : List (RecordField ρ)}
  {entries : List Entry}

/-- The field reads what the entry has under its name, and nothing is missing without an entry that
may be left out. -/
structure RecordField.Fits (holds : String → ρ → Prop) (start : ρ) (f : RecordField ρ)
    (e : Entry) : Prop where
  name_eq : f.name = e.name
  read : ∀ v, e.texts v → ∀ r, ∃ r', Takes (f.read r) v r' ∧ holds e.name r' ∧
    ∀ n, holds n r → holds n r'
  omitted : e.omissible → f.required = false ∧ holds e.name start

/-! ## Looking up a field -/

theorem map_name_eq (h : List.Forall₂ (RecordField.Fits holds start) fields entries) :
    fields.map RecordField.name = entries.map Entry.name := by
  induction h with
  | nil => rfl
  | cons hf _ ih => rw [List.map_cons, List.map_cons, hf.name_eq, ih]

theorem find?_eq_none (h : List.Forall₂ (RecordField.Fits holds start) fields entries)
    {name : String} (hname : name ∉ entries.map Entry.name) :
    fields.find? (·.name = name) = none := by
  rw [← map_name_eq h] at hname
  simpa [List.find?_eq_none] using hname

theorem exists_find?_eq_some (h : List.Forall₂ (RecordField.Fits holds start) fields entries)
    (hnodup : (entries.map Entry.name).Nodup) {e : Entry} (he : e ∈ entries) :
    ∃ f, fields.find? (·.name = e.name) = some f ∧ f.Fits holds start e := by
  induction h with
  | nil => cases he
  | @cons f e' fields entries hf _ ih =>
    rw [List.map_cons, List.nodup_cons] at hnodup
    obtain rfl | he := List.mem_cons.1 he
    · exact ⟨f, by simp [hf.name_eq], hf⟩
    · obtain ⟨g, hg, hfits⟩ := ih hnodup.2 he
      have hne : f.name ≠ e.name := by
        intro heq
        exact hnodup.1 (List.mem_map.2 ⟨e, he, by rw [← heq, hf.name_eq]⟩)
      exact ⟨g, by simpa [hne] using hg, hfits⟩

/-! ## One member -/

theorem recordMember_other (h : List.Forall₂ (RecordField.Fits holds start) fields entries)
    {name : String} {value before after rest : List Char}
    (hname : name ∉ entries.map Entry.name) (hvalue : WellFormed value) (state : ρ × List String)
    (hbefore : IsSpace before) (hafter : IsSpace after) (hrest : NumberEnds rest) :
    recordMember fields state name (before ++ ':' :: (after ++ (value ++ rest))) =
      .ok (state, rest) := by
  simp [recordMember, find?_eq_none h hname, colon_append hbefore,
    skipValue_wellFormed hafter hvalue hrest, bind, Except.bind, pure, Except.pure]

theorem recordMember_entry {f : RecordField ρ} {name : String} {r r' : ρ} {seen : List String}
    {value before after rest : List Char} (hf : fields.find? (·.name = name) = some f)
    (hseen : name ∉ seen) (hbefore : IsSpace before)
    (hread : f.read r (after ++ (value ++ rest)) = .ok (r', rest)) :
    recordMember fields (r, seen) name (before ++ ':' :: (after ++ (value ++ rest))) =
      .ok ((r', name :: seen), rest) := by
  simp [recordMember, hf, hseen, colon_append hbefore, hread, bind, Except.bind, pure, Except.pure]

/-! ## All members -/

/-- A member has an entry of the record, or its name is not that of an entry. -/
def Belongs (entries : List Entry) (m : String × List Char) : Prop :=
  (∃ e ∈ entries, e.name = m.1 ∧ e.texts m.2) ∨ m.1 ∉ entries.map Entry.name ∧ WellFormed m.2

/-- Two members have the same name only if it is not that of an entry. -/
def Distinct (entries : List Entry) (m m' : String × List Char) : Prop :=
  m.1 = m'.1 → m.1 ∉ entries.map Entry.name

theorem exists_follows (h : List.Forall₂ (RecordField.Fits holds start) fields entries)
    (hnodup : (entries.map Entry.name).Nodup) {ms : List (String × List Char)} {r : ρ}
    {seen : List String} (hms : ∀ m ∈ ms, Belongs entries m)
    (hdistinct : ms.Pairwise (Distinct entries))
    (hseen : ∀ m ∈ ms, m.1 ∈ entries.map Entry.name → m.1 ∉ seen)
    (hholds : ∀ e ∈ entries, e.name ∈ seen ∨ e.omissible → holds e.name r) :
    ∃ r' seen', Follows (recordMember fields) (r, seen) ms (r', seen') ∧
      (∀ e ∈ entries, e.name ∈ seen' ∨ e.omissible → holds e.name r') ∧
      ∀ e ∈ entries, e.name ∈ seen ∨ e.name ∈ ms.map Prod.fst → e.name ∈ seen' := by
  induction ms generalizing r seen with
  | nil => exact ⟨r, seen, .nil _, hholds, fun e _ he => by simpa using he⟩
  | cons m ms ih =>
    obtain ⟨name, value⟩ := m
    rw [List.forall_mem_cons] at hms hseen
    obtain ⟨hfirst, hlater⟩ := List.pairwise_cons.1 hdistinct
    obtain ⟨e, he, rfl, hvalue⟩ | ⟨hname, hvalue⟩ := hms.1
    · obtain ⟨f, hf, hfits⟩ := exists_find?_eq_some h hnodup he
      obtain ⟨r₁, htakes, hr₁, hothers⟩ := hfits.read value hvalue r
      have hnew : e.name ∉ seen := hseen.1 (List.mem_map.2 ⟨e, he, rfl⟩)
      have hseen₁ : ∀ m ∈ ms, m.1 ∈ entries.map Entry.name → m.1 ∉ e.name :: seen := by
        intro m hm hmem hin
        obtain heq | hin := List.mem_cons.1 hin
        · exact hfirst m hm heq.symm (heq ▸ hmem)
        · exact hseen.2 m hm hmem hin
      have hholds₁ : ∀ e' ∈ entries, e'.name ∈ e.name :: seen ∨ e'.omissible →
          holds e'.name r₁ := by
        intro e' he' hmem
        by_cases heq : e'.name = e.name
        · exact heq ▸ hr₁
        · refine hothers _ (hholds e' he' (hmem.imp_left fun hin => ?_))
          exact (List.mem_cons.1 hin).resolve_left heq
      obtain ⟨r', seen', hfollows, hr', hseen'⟩ := ih hms.2 hlater hseen₁ hholds₁
      refine ⟨r', seen', .cons (fun before after rest hbefore hafter _ =>
        recordMember_entry hf hnew hbefore (htakes.read_eq after rest hafter)) hfollows, hr', ?_⟩
      intro e' he' hmem
      refine hseen' e' he' ?_
      simp only [List.map_cons, List.mem_cons] at hmem ⊢
      tauto
    · obtain ⟨r', seen', hfollows, hr', hseen'⟩ := ih hms.2 hlater hseen.2 hholds
      refine ⟨r', seen', .cons (fun before after rest hbefore hafter hrest =>
        recordMember_other h hname hvalue _ hbefore hafter hrest) hfollows, hr', ?_⟩
      intro e he hmem
      refine hseen' e he (hmem.imp_right fun hmem => ?_)
      obtain heq | hmem := List.mem_cons.1 hmem
      · exact absurd (List.mem_map.2 ⟨e, he, heq⟩) hname
      · exact hmem

/-! ## Records -/

theorem Written.belongs {written : List (String × List Char)} (h : Written entries written) :
    ∀ m ∈ written, ∃ e ∈ entries, e.name = m.1 ∧ e.texts m.2 := by
  induction h with
  | nil => simp
  | @keep e es ms v hv _ ih =>
    intro m hm
    obtain rfl | hm := List.mem_cons.1 hm
    · exact ⟨e, List.mem_cons_self .., rfl, hv⟩
    · obtain ⟨e', he', hm⟩ := ih m hm
      exact ⟨e', List.mem_cons_of_mem _ he', hm⟩
  | leave _ _ ih =>
    intro m hm
    obtain ⟨e', he', hm⟩ := ih m hm
    exact ⟨e', List.mem_cons_of_mem _ he', hm⟩

theorem Written.mem_or_omissible {written : List (String × List Char)}
    (h : Written entries written) :
    ∀ e ∈ entries, e.name ∈ written.map Prod.fst ∨ e.omissible := by
  induction h with
  | nil => simp
  | keep _ _ ih =>
    intro e he
    obtain rfl | he := List.mem_cons.1 he
    · exact .inl (List.mem_cons_self ..)
    · exact (ih e he).imp_left (List.mem_cons_of_mem _)
  | leave hleave _ ih =>
    intro e he
    obtain rfl | he := List.mem_cons.1 he
    · exact .inr hleave
    · exact ih e he

theorem Written.sublist {written : List (String × List Char)} (h : Written entries written) :
    (written.map Prod.fst).Sublist (entries.map Entry.name) := by
  induction h with
  | nil => exact .slnil
  | keep _ _ ih => exact ih.cons_cons _
  | leave _ _ ih => exact ih.cons _

/-- The names of entries are written once, in whatever order the members stand. -/
theorem pairwise_distinct {written others members : List (String × List Char)}
    (hnodup : (entries.map Entry.name).Nodup) (hwritten : Written entries written)
    (hothers : ∀ m ∈ others, m.1 ∉ entries.map Entry.name)
    (horder : members.Perm (written ++ others)) : members.Pairwise (Distinct entries) := by
  have hsymm : ∀ m m', Distinct entries m m' → Distinct entries m' m :=
    fun m m' h heq => heq ▸ h heq.symm
  refine (horder.pairwise_iff (hsymm _ _)).2 (List.pairwise_append.2 ⟨?_, ?_, ?_⟩)
  · have hnames : (written.map Prod.fst).Nodup := hnodup.sublist hwritten.sublist
    exact (List.pairwise_map.1 hnames).imp fun hne heq => absurd heq hne
  · exact List.pairwise_of_forall_mem_list fun m hm _ _ _ => hothers m hm
  · exact fun _ _ m' hm' heq => heq ▸ hothers m' hm'

theorem recordObject_eq (h : List.Forall₂ (RecordField.Fits holds start) fields entries)
    {seen : List String} {r : ρ} {cs rest : List Char}
    (hbody : objectBody (recordMember fields) (start, []) cs = .ok ((r, seen), rest))
    (hseen : ∀ e ∈ entries, e.name ∈ seen ∨ e.omissible) :
    recordObject fields start cs = .ok (r, rest) := by
  have hmissing : fields.find? (fun f => f.required && !seen.contains f.name) = none := by
    rw [List.find?_eq_none]
    intro f hf hmissing
    obtain ⟨e, he, hfits⟩ := exists_of_forall₂ h.flip f hf
    obtain hin | homit := hseen e he
    · simp [hfits.name_eq, hin] at hmissing
    · simp [(hfits.omitted homit).1] at hmissing
  simp only [recordObject, hbody, bind, Except.bind]
  rw [hmissing]
  rfl

/-- A record is read whatever the order of its members, with entries left out that may be and with
members of other names. -/
theorem IsRecord.takes (title : String) {v : List Char}
    (hfits : List.Forall₂ (RecordField.Fits holds start) fields entries)
    (hnodup : (entries.map Entry.name).Nodup) (h : IsRecord entries v) :
    ∃ r, Takes (record title fields start) v r ∧ ∀ e ∈ entries, holds e.name r := by
  obtain @⟨written, others, members, spelled, _, hwritten, hothers, horder, hspelled, h⟩ := h
  obtain @⟨parts, cs, hparts, h⟩ := h
  have hbelongs : ∀ m ∈ members, Belongs entries m := by
    intro m hm
    obtain hm | hm := List.mem_append.1 (horder.mem_iff.1 hm)
    · exact .inl (hwritten.belongs m hm)
    · exact .inr (hothers m hm)
  have hdistinct := pairwise_distinct hnodup hwritten (fun m hm => (hothers m hm).1) horder
  have hstart : ∀ e ∈ entries, e.name ∈ ([] : List String) ∨ e.omissible →
      holds e.name start := by
    intro e he hmem
    obtain ⟨f, -, hf⟩ := exists_of_forall₂ hfits e he
    exact (hf.omitted (hmem.resolve_left List.not_mem_nil)).2
  obtain ⟨r, seen, hfollows, hr, hseen⟩ :=
    exists_follows hfits hnodup hbelongs hdistinct (fun _ _ _ => List.not_mem_nil) hstart
  have hall : ∀ e ∈ entries, e.name ∈ seen ∨ e.omissible := by
    intro e he
    refine (hwritten.mem_or_omissible e he).imp_left fun hmem => hseen e he (.inr ?_)
    rw [(horder.map Prod.fst).mem_iff, List.map_append]
    exact List.mem_append_left _ hmem
  refine ⟨r, ⟨⟨_, _, rfl, rfl, by decide⟩, fun gap rest hgap => ?_⟩,
    fun e he => hr e he (hall e he)⟩
  have hbody := objectBody_listed h hparts hspelled hfollows rest
  simpa [record, hgap, isGap] using recordObject_eq hfits hbody hall

end TagSelect.Json
