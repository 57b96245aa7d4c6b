import TagSelect.Proofs.Height

/-!
# Which filters have a statement

Compiling a filter succeeds, or fails for one reason that the error names.

A tag name that is no sort directive offends (`Compiler.Offends`) if the index does not know its
canonical name, or if the settings ask for integers and the id that the index has is none. A leaf
fails with what offends in its name (`Compiler.leafCondition_eq_error`). Conditions are built from
left to right, so that a filter fails with the first offence in reading order
(`Compiler.condition_eq_error`), and has a condition if none of its names offends
(`Compiler.exists_condition_iff`).

`compile_outcome` says this of statements. The height of the filter comes before all names.
-/

namespace TagSelect

/-- The tag name is no sort directive. -/
theorem TagName.sortValue?_eq_none {name : TagName} :
    name.sortValue? = none ↔ ∀ value, name ≠ .valued "sort" value := by
  cases name with
  | plain key => simp [sortValue?]
  | valued key value => by_cases hkey : key = "sort" <;> simp [sortValue?, hkey]

namespace Compiler

open Sql

variable {c : Compiler} {name : TagName} {e : CompileError}

/-! ## Names that offend -/

/-- The index has an id under the canonical name, and an integer if the settings ask for one. -/
def Usable (c : Compiler) (name : TagName) : Prop :=
  ∃ id, c.index.find? (.text name.canonical) = some id ∧
    (c.settings.tags.idType = .integer → ∃ n, Text.int64? id = some n)

/-- Why a tag name cannot be used. Nothing is wrong with a sort directive. -/
inductive Offends (c : Compiler) (name : TagName) : CompileError → Prop
  | unknown (hsort : ∀ value, name ≠ .valued "sort" value)
      (hid : c.index.find? (.text name.canonical) = none) :
      Offends c name (.tagNotFound name.canonical)
  | malformed {id : String} (hsort : ∀ value, name ≠ .valued "sort" value)
      (hid : c.index.find? (.text name.canonical) = some id)
      (htype : c.settings.tags.idType = .integer) (hn : Text.int64? id = none) :
      Offends c name (.invalidTagId name.canonical id)

/-- The names fail with `e` : the first of them that offends does so with this error. -/
def FirstOffence (c : Compiler) (names : List TagName) (e : CompileError) : Prop :=
  ∃ before name after, names = before ++ name :: after ∧
    (∀ m ∈ before, ∀ e', ¬c.Offends m e') ∧ c.Offends name e

theorem idValue_eq_error : c.idValue (.name name) = .error e ↔
    (c.index.find? (.text name.canonical) = none ∧ e = .tagNotFound name.canonical) ∨
      ∃ id, c.index.find? (.text name.canonical) = some id ∧
        c.settings.tags.idType = .integer ∧ Text.int64? id = none ∧
        e = .invalidTagId name.canonical id := by
  have hkey : c.index.find? (.name name) = c.index.find? (.text name.canonical) := rfl
  unfold idValue tagId
  rw [hkey]
  cases c.index.find? (.text name.canonical) with
  | none => simp [TagKey.canonical, eq_comm]
  | some id =>
    cases c.settings.tags.idType with
    | text => simp
    | integer => cases hn : Text.int64? id <;> simp [hn, TagKey.canonical, eq_comm]

/-- A leaf fails with what offends in its name. -/
theorem leafCondition_eq_error : c.leafCondition name = .error e ↔ c.Offends name e := by
  cases hsort : name.sortValue? with
  | some value =>
    have hdirective : ¬∀ value, name ≠ .valued "sort" value := by
      rw [← TagName.sortValue?_eq_none, hsort]
      simp
    have hno : ¬c.Offends name e := by
      rintro (⟨h, -⟩ | ⟨h, -⟩)
      · exact hdirective h
      · exact hdirective h
    simp [leafCondition, hsort, hno]
  | none =>
    have hname := TagName.sortValue?_eq_none.1 hsort
    have hvalue : c.leafCondition name = .error e ↔ c.idValue (.name name) = .error e := by
      simp only [leafCondition, hsort]
      cases c.idValue (.name name) <;> simp
    rw [hvalue, idValue_eq_error]
    constructor
    · rintro (⟨hid, rfl⟩ | ⟨id, hid, htype, hn, rfl⟩)
      · exact .unknown hname hid
      · exact .malformed hname hid htype hn
    · rintro (⟨-, hid⟩ | ⟨-, hid, htype, hn⟩)
      · exact Or.inl ⟨hid, rfl⟩
      · exact Or.inr ⟨_, hid, htype, hn, rfl⟩

/-- A name offends in no way if it is a directive or can be used. -/
theorem not_offends_iff : (∀ e, ¬c.Offends name e) ↔
    ((∀ value, name ≠ .valued "sort" value) → c.Usable name) := by
  constructor
  · intro hno hsort
    cases hid : c.index.find? (.text name.canonical) with
    | none => exact absurd (.unknown hsort hid) (hno _)
    | some id =>
      refine ⟨id, hid, fun htype => Option.ne_none_iff_exists'.1 fun hn => ?_⟩
      exact hno _ (.malformed hsort hid htype hn)
  · rintro husable e (⟨hsort, hid⟩ | ⟨hsort, hid, htype, hn⟩)
    · obtain ⟨id, hid', -⟩ := husable hsort
      simp [hid] at hid'
    · obtain ⟨id', hid', hinteger⟩ := husable hsort
      obtain rfl := Option.some.inj (hid.symm.trans hid')
      obtain ⟨n, hn'⟩ := hinteger htype
      simp [hn] at hn'

/-! ## The first offence -/

theorem not_firstOffence_nil (c : Compiler) (e : CompileError) : ¬c.FirstOffence [] e := by
  rintro ⟨before, name, after, h, -⟩
  simp at h

theorem firstOffence_cons {names : List TagName} : c.FirstOffence (name :: names) e ↔
    c.Offends name e ∨ (∀ e', ¬c.Offends name e') ∧ c.FirstOffence names e := by
  constructor
  · rintro ⟨before, m, after, h, hbefore, hm⟩
    cases before with
    | nil =>
      obtain ⟨rfl, rfl⟩ := List.cons.inj h
      exact Or.inl hm
    | cons m' before =>
      obtain ⟨rfl, rfl⟩ := List.cons.inj h
      obtain ⟨hfirst, hrest⟩ := List.forall_mem_cons.1 hbefore
      exact Or.inr ⟨hfirst, before, m, after, rfl, hrest, hm⟩
  · rintro (h | ⟨hfirst, before, m, after, rfl, hbefore, hm⟩)
    · exact ⟨[], name, names, rfl, by simp, h⟩
    · exact ⟨name :: before, m, after, rfl, List.forall_mem_cons.2 ⟨hfirst, hbefore⟩, hm⟩

/-- The first offence of two lists is that of the first list, or that of the second if there is none
in the first. -/
theorem firstOffence_append {names' : List TagName} : ∀ {names : List TagName},
    c.FirstOffence (names ++ names') e ↔ c.FirstOffence names e ∨
      (∀ m ∈ names, ∀ e', ¬c.Offends m e') ∧ c.FirstOffence names' e
  | [] => by simp [not_firstOffence_nil]
  | name :: names => by
    rw [List.cons_append, firstOffence_cons, firstOffence_cons, firstOffence_append,
      List.forall_mem_cons, and_or_left, ← or_assoc, ← and_assoc]

/-- There is a first offence unless no name offends. -/
theorem forall_not_firstOffence : ∀ {names : List TagName},
    (∀ e, ¬c.FirstOffence names e) ↔ ∀ m ∈ names, ∀ e, ¬c.Offends m e
  | [] => by simp [not_firstOffence_nil]
  | name :: names => by
    rw [List.forall_mem_cons, ← forall_not_firstOffence]
    simp only [firstOffence_cons, not_or, not_and]
    constructor
    · intro h
      exact ⟨fun e => (h e).1, fun e => (h e).2 fun e' => (h e').1⟩
    · rintro ⟨hfirst, hrest⟩ e
      exact ⟨hfirst e, fun _ => hrest e⟩

/-! ## Filters -/

/-- A filter that can fail only with a first offence has a condition if none of its names
offends. -/
theorem exists_condition_of_error {f : Filter}
    (h : ∀ e, c.condition f = .error e ↔ c.FirstOffence f.names e) :
    (∃ x, c.condition f = .ok x) ↔ ∀ m ∈ f.names, ∀ e, ¬c.Offends m e := by
  simp only [← forall_not_firstOffence, ← h]
  cases c.condition f <;> simp

/-- A filter without a condition fails with the first offence in reading order. -/
theorem condition_eq_error (f : Filter) {e : CompileError} :
    c.condition f = .error e ↔ c.FirstOffence f.names e := by
  induction f using Filter.inductionOnJoin generalizing e with
  | everything => simp [condition, Filter.names, not_firstOffence_nil]
  | tag name =>
    rw [condition, leafCondition_eq_error, Filter.names, firstOffence_cons]
    simp [not_firstOffence_nil]
  | not x ih => rw [condition_not_eq_error, Filter.names, ih]
  | join op l r ihl ihr =>
    rw [condition_join_eq_error, Filter.names_join, firstOffence_append, ihl, ihr,
      exists_condition_of_error fun _ => ihl]

/-- A filter has a condition if none of its names offends. -/
theorem exists_condition_iff (f : Filter) :
    (∃ x, c.condition f = .ok x) ↔ ∀ m ∈ f.names, ∀ e, ¬c.Offends m e :=
  exists_condition_of_error fun _ => condition_eq_error f

end Compiler

/-- A filter of more than 256 operators on one way is refused for its height, which the error gives,
whatever its names are. Any other filter has a statement if the index has an id for each of its
names that is no sort directive, and an integer where the settings ask for one; and if it has none,
the error is that of the first name from the left for which this fails. A sort directive never
fails. -/
theorem compile_outcome (c : Compiler) (f : Filter) :
    (256 < f.height → c.compile f = .error (.tooDeep f.height 256)) ∧
      (f.height ≤ 256 →
        ((∃ s, c.compile f = .ok s) ↔ ∀ name ∈ f.names,
          (∀ value, name ≠ .valued "sort" value) → c.Usable name) ∧
        ∀ e, c.compile f = .error e ↔ c.FirstOffence f.names e) ∧
      ∀ value, ∃ s, c.compile (.tag (.valued "sort" value)) = .ok s := by
  refine ⟨fun h => ?_, fun h => ⟨?_, fun e => ?_⟩, fun value => ?_⟩
  · exact Compiler.compile_eq_tooDeep.2 ⟨by rwa [f.depth_eq_height], f.depth_eq_height.symm, rfl⟩
  · rw [Compiler.exists_compile_iff (by rwa [f.depth_eq_height]), Compiler.exists_condition_iff]
    exact forall₂_congr fun name _ => Compiler.not_offends_iff
  · rw [Compiler.compile_eq_error (by rwa [f.depth_eq_height]), Compiler.condition_eq_error]
  · have hdepth : (Filter.tag (.valued "sort" value)).depth ≤ maxDepth := by
      rw [Filter.depth_eq_height]
      exact Nat.zero_le _
    exact ⟨_, Compiler.compile_eq_ok.2 ⟨hdepth, .truth, rfl, rfl⟩⟩

/-- A compiler for integer ids. The id of `broken` is none, and neither is that of `sort:newest`. -/
def strictCompiler : Compiler :=
  ⟨{ Settings.standard with tags := { TagTable.standard with idType := .integer } },
    TagIndex.empty.insertAll
      [(.text "a", "-7"), (.text "broken", "x3"), (.text "sort:newest", "x")]⟩

/-- With 257 negations an unknown tag is refused for the height. In
`sort:newest & !broken | missing` the tag `broken` comes first of the two that fail, and
`a & sort:newest` has a statement. -/
theorem strictCompiler_outcomes :
    strictCompiler.compile (Nat.repeat Filter.not 257 (.tag (.plain "missing"))) =
        .error (.tooDeep 257 256) ∧
      strictCompiler.compile (.or (.and (.tag (.valued "sort" "newest"))
        (.not (.tag (.plain "broken")))) (.tag (.plain "missing"))) =
        .error (.invalidTagId "broken" "x3") ∧
      ∃ s, strictCompiler.compile (.and (.tag (.plain "a")) (.tag (.valued "sort" "newest"))) =
        .ok s := by
  have hheight : (Nat.repeat Filter.not 257 (.tag (.plain "missing"))).height = 257 := by
    decide +kernel
  refine ⟨?_, ?_, ?_⟩
  · rw [(compile_outcome _ _).1 (by rw [hheight]; decide), hheight]
  · refine (((compile_outcome _ _).2.1 (by decide)).2 _).2
      ⟨[.valued "sort" "newest"], .plain "broken", [.plain "missing"], rfl, ?_, ?_⟩
    · exact List.forall_mem_singleton.2
        (Compiler.not_offends_iff.2 fun h => absurd rfl (h "newest"))
    · exact .malformed (by simp) (by decide +kernel) rfl (by decide +kernel)
  · refine ((compile_outcome _ _).2.1 (by decide)).1.2 ?_
    refine List.forall_mem_cons.2 ⟨fun _ => ⟨"-7", by decide +kernel, fun _ => ⟨-7, ?_⟩⟩, ?_⟩
    · decide +kernel
    · exact List.forall_mem_singleton.2 fun h => absurd rfl (h "newest")

end TagSelect
