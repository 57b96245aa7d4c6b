import TagSelect.Filter.Meaning
import TagSelect.Proofs.Grouping
import TagSelect.Proofs.Lowering

/-!
# What a compiled filter selects

A compiled filter selects the entities that it is meant to select, on every database whose
entities have ids.

An entity has its association rows (`associations`) and carries the tags whose ids they hold
(`Carries`). It is wanted by a filter (`Wanted`) if it has an association row, or untagged
entities are considered too, and the filter holds of the tags that it carries. Nothing is asked
of the association rows : they may repeat, lack data, or name no entity.

The joined rows of the statement come in one block for each entity (`frames_entities`), the groups
are the blocks with a row (`groups_entities`), and on a block the condition that a filter is
lowered to is known and has the truth value of the filter (`eval_condition`).
`selected_compile` puts this together.
-/

namespace TagSelect.Compiler

open Sql

/-! ## Entities and their tags -/

/-- The association rows of an entity. -/
def associations (s : Settings) (db : Database) (entity : Row) : List Row :=
  linked (db s.association.table) s.association.entityColumn (entity s.idColumn)

/-- An entity carries a tag if one of its association rows holds the tag's id. -/
def Carries (c : Compiler) (db : Database) (entity : Row) (name : TagName) : Prop :=
  ∃ id, c.idValue (.name name) = .ok id ∧
    ∃ row ∈ associations c.settings db entity, row c.settings.association.tagColumn = id.datum

instance (c : Compiler) (db : Database) (entity : Row) : DecidablePred (c.Carries db entity) :=
  fun name =>
    match h : c.idValue (.name name) with
    | .ok id =>
      decidable_of_iff (∃ row ∈ associations c.settings db entity,
          row c.settings.association.tagColumn = id.datum)
        ⟨fun hrow => ⟨id, h, hrow⟩, fun ⟨_, hid, hrow⟩ => by
          rw [h] at hid
          cases hid
          exact hrow⟩
    | .error _ => isFalse fun ⟨_, hid, _⟩ => by
        rw [h] at hid
        cases hid

/-- An entity is wanted if it is tagged or need not be, and the filter holds of its tags. -/
def Wanted (c : Compiler) (db : Database) (f : Filter) (entity : Row) : Prop :=
  (c.settings.includeUntagged = true ∨ associations c.settings db entity ≠ []) ∧
    f.Holds (c.Carries db entity)

instance (c : Compiler) (db : Database) (f : Filter) : DecidablePred (c.Wanted db f) :=
  fun _ => inferInstanceAs (Decidable (_ ∧ _))

/-- The wanted entities. -/
def wanted (c : Compiler) (db : Database) (f : Filter) : List Row :=
  (db c.settings.tableName).filter fun entity => c.Wanted db f entity

/-- What a statement returns of an entity. -/
def entry (s : Settings) (entity : Row) : List Select.Part :=
  s.columns.map fun name => .datum name (entity name)

/-- The id of the entity of a group. -/
def groupId (s : Settings) (group : List Frame) : Datum :=
  (entityColumn s.idColumn).datum (group.headD [])

/-! ## Joined rows -/

/-- The rows that an entity is joined with : its association rows, or an absent one if it has none
and untagged entities are considered. -/
def partners (s : Settings) (db : Database) (entity : Row) : List Row :=
  if s.includeUntagged ∧ associations s db entity = [] then [Row.absent]
  else associations s db entity

/-- An entity and a row that it is joined with. -/
def pair (entity row : Row) : Frame :=
  [("u", entity), ("ut", row)]

/-- The joined rows of an entity. -/
def block (s : Settings) (db : Database) (entity : Row) : List Frame :=
  (partners s db entity).map (pair entity)

theorem datum_entityColumn (name : String) (entity row : Row) :
    (entityColumn name).datum (pair entity row) = entity name :=
  Column.datum_first "u" "ut" name entity row

theorem datum_associationColumn (name : String) (entity row : Row) :
    (associationColumn name).datum (pair entity row) = row name :=
  Column.datum_second (by decide) name entity row

theorem partners_eq_nil (s : Settings) (db : Database) (entity : Row) :
    partners s db entity = [] ↔ ¬(s.includeUntagged = true ∨ associations s db entity ≠ []) := by
  unfold partners
  by_cases h : s.includeUntagged = true <;> by_cases ha : associations s db entity = [] <;>
    simp [h, ha]

/-- The joined rows of the statement are the blocks of the entities. -/
theorem frames_entities (s : Settings) (having : Expr) (plan : SortPlan) {db : Database}
    (hdb : Keyed (db s.tableName) s.idColumn) :
    (entities s having plan).frames db = (db s.tableName).flatMap (block s db) := by
  have hframes : (entities s having plan).frames db =
      joinAll db (entities s having plan).joins ["u"]
        ((db s.tableName).map fun row => [("u", row)]) :=
    List.filter_eq_self.2 fun _ _ => rfl
  rw [hframes]
  cases hu : s.includeUntagged with
  | false =>
    refine (Join.apply_inner (y := "ut") (by simp [hu]) (by decide) rfl rfl ["u"] hdb.2).trans ?_
    refine List.flatMap_congr fun row _ => ?_
    simp only [block, partners, hu, Bool.false_eq_true, false_and, if_false]
    rfl
  | true =>
    refine (Join.apply_left (y := "ut") (by simp [hu]) (by decide) rfl rfl ["u"] hdb.2).trans ?_
    refine List.flatMap_congr fun row _ => ?_
    simp only [block, partners, hu, true_and]
    rfl

/-- The groups are the blocks of the entities that are tagged or need not be. -/
theorem groups_entities (s : Settings) (having : Expr) (plan : SortPlan) {db : Database}
    (hdb : Keyed (db s.tableName) s.idColumn) :
    (entities s having plan).groups db =
      ((db s.tableName).filter fun entity =>
        s.includeUntagged = true ∨ associations s db entity ≠ []).map (block s db) := by
  have hgroups := groups_flatMap (entityColumn s.idColumn).datum (· s.idColumn) (block s db)
    (db s.tableName) hdb.1 fun entity _ f hf => by
      obtain ⟨row, -, rfl⟩ := List.mem_map.1 hf
      exact datum_entityColumn _ _ _
  have hempty : ∀ entity, (!(block s db entity).isEmpty) =
      decide (s.includeUntagged = true ∨ associations s db entity ≠ []) := by
    intro entity
    rw [Bool.eq_iff_iff, decide_eq_true_iff, Bool.not_eq_true', Bool.eq_false_iff, ne_eq,
      List.isEmpty_iff, block, List.map_eq_nil_iff, partners_eq_nil, not_not]
  simp only [hempty] at hgroups
  rw [← hgroups, ← frames_entities s having plan hdb]
  rfl

/-! ## Conditions on a block -/

variable {c : Compiler} {db : Database} {entity : Row}

/-- The id of a tag is present. -/
theorem datum_ne_null_of_idValue {key : TagKey} {id : Value} (h : c.idValue key = .ok id) :
    id.datum ≠ .null := by
  rcases idValue_eq_ok h with ⟨id, rfl⟩ | ⟨n, rfl⟩ <;> simp [Value.datum]

/-- An absent row holds no datum. -/
theorem exists_mem_partners (s : Settings) {column : String} {d : Datum} (hd : d ≠ .null) :
    (∃ row ∈ partners s db entity, row column = d) ↔
      ∃ row ∈ associations s db entity, row column = d := by
  unfold partners
  split
  · next h =>
    simp [h.2, Row.absent, hd.symm]
  · rfl

/-- The condition of a tag says whether the entity carries it. -/
theorem eval_anyRow_block (hne : block c.settings db entity ≠ []) (frame : Frame) {name : TagName}
    {id : Value} (h : c.idValue (.name name) = .ok id) :
    (Expr.anyRow (.columnIs (associationColumn c.settings.association.tagColumn) id)).eval
        (block c.settings db entity) frame = .bool (decide (c.Carries db entity name)) := by
  have hid := datum_ne_null_of_idValue h
  have hrow : ∀ row group, (Expr.columnIs (associationColumn c.settings.association.tagColumn)
      id).eval group (pair entity row) = .bool true ↔
        row c.settings.association.tagColumn = id.datum := by
    intro row group
    rw [Expr.columnIs, Expr.eval, Expr.eval, Expr.eval, datum_associationColumn,
      Comparison.eq_apply_eq_true, and_iff_left hid]
  have hcarries : c.Carries db entity name ↔ ∃ row ∈ associations c.settings db entity,
      row c.settings.association.tagColumn = id.datum := by
    refine ⟨?_, fun hrow => ⟨id, h, hrow⟩⟩
    rintro ⟨id', hid', hrow⟩
    rw [h] at hid'
    cases hid'
    exact hrow
  rw [Expr.eval_anyRow _ hne, Datum.bool.injEq, Bool.eq_iff_iff, List.any_eq_true,
    decide_eq_true_iff, hcarries, ← exists_mem_partners _ hid]
  simp [block, hrow]

/-- On a block the condition of a filter is known, and true if the filter holds. -/
theorem eval_condition (hne : block c.settings db entity ≠ []) (frame : Frame) :
    ∀ (f : Filter) {having : Expr}, c.condition f = .ok having →
      having.eval (block c.settings db entity) frame =
        .bool (decide (f.Holds (c.Carries db entity)))
  | .everything, _, h => by
    cases h
    rfl
  | .tag name, _, h => by
    rw [condition, leafCondition] at h
    split at h
    · next value hs =>
      cases h
      simp [Expr.truth, Expr.eval, Value.datum, Filter.Holds, hs]
    · next hs =>
      split at h
      · cases h
      · next id hid =>
        cases h
        rw [eval_anyRow_block hne frame hid]
        simp [Filter.Holds, hs]
  | .not x, _, h => by
    obtain ⟨e, hx, rfl⟩ := condition_not_eq_ok.1 h
    rw [Expr.eval_not (eval_condition hne frame x hx), Datum.bool.injEq, Bool.eq_iff_iff]
    simp only [Bool.not_eq_true', decide_eq_false_iff_not, decide_eq_true_eq]
    rfl
  | .and l r, _, h => by
    obtain ⟨e₁, e₂, hl, hr, rfl⟩ := (condition_join_eq_ok .and).1 h
    refine (Expr.eval_and (eval_condition hne frame l hl) (eval_condition hne frame r hr)).trans ?_
    rw [Datum.bool.injEq, Bool.eq_iff_iff]
    simp only [Bool.and_eq_true, decide_eq_true_eq]
    rfl
  | .or l r, _, h => by
    obtain ⟨e₁, e₂, hl, hr, rfl⟩ := (condition_join_eq_ok .or).1 h
    refine (Expr.eval_or (eval_condition hne frame l hl) (eval_condition hne frame r hr)).trans ?_
    rw [Datum.bool.injEq, Bool.eq_iff_iff]
    simp only [Bool.or_eq_true, decide_eq_true_eq]
    rfl

/-! ## The selection -/

theorem block_ne_nil_iff (s : Settings) :
    block s db entity ≠ [] ↔ s.includeUntagged = true ∨ associations s db entity ≠ [] := by
  rw [block, ne_eq, List.map_eq_nil_iff, partners_eq_nil, not_not]

/-- The groups that a compiled filter selects are the blocks of the wanted entities. -/
theorem selected_entities {f : Filter} {having : Expr} (h : c.condition f = .ok having)
    (plan : SortPlan) (hdb : Keyed (db c.settings.tableName) c.settings.idColumn) :
    (entities c.settings having plan).selected db =
      (c.wanted db f).map (block c.settings db) := by
  have hholds : ∀ entity, block c.settings db entity ≠ [] →
      holds (some having) (block c.settings db entity) ((block c.settings db entity).headD []) =
        decide (f.Holds (c.Carries db entity)) := by
    intro entity hne
    simp [holds, eval_condition hne _ f h]
  rw [Select.selected, groups_entities _ _ _ hdb, List.filter_map, List.filter_filter, wanted]
  refine congrArg _ (List.filter_congr fun entity _ => ?_)
  rw [Bool.eq_iff_iff, Bool.and_eq_true, decide_eq_true_iff, decide_eq_true_iff, Wanted,
    Function.comp_apply, and_comm]
  refine and_congr_right fun hne => ?_
  rw [entities, hholds entity ((block_ne_nil_iff _).2 hne), decide_eq_true_iff]

/-- The first row of the block of a wanted entity shows the entity. -/
theorem exists_headD_block {f : Filter} (hw : c.Wanted db f entity) :
    ∃ row, (block c.settings db entity).headD [] = pair entity row := by
  have hne := (block_ne_nil_iff c.settings).2 hw.1
  rw [block] at hne ⊢
  cases hp : partners c.settings db entity with
  | nil => simp [hp] at hne
  | cons row rows => exact ⟨row, rfl⟩

/-- The statement of a filter returns the wanted entities, each of them once, and its condition on
groups is known for every group. -/
theorem selected_compile {f : Filter} {s : Select} (h : c.compile f = .ok s) (db : Database)
    (hdb : Keyed (db c.settings.tableName) c.settings.idColumn) :
    (s.selected db).map (groupId c.settings) =
        (c.wanted db f).map (· c.settings.idColumn) ∧
      ((s.selected db).map (groupId c.settings)).Nodup ∧
      s.results db = (c.wanted db f).map (entry c.settings) ∧
      ∃ having, s.having = some having ∧
        ∀ group ∈ s.groups db, ∀ frame, having.eval group frame ≠ .null := by
  obtain ⟨-, having, hc, rfl⟩ := compile_eq_ok.1 h
  have hwanted : ∀ entity ∈ c.wanted db f, c.Wanted db f entity := by
    intro entity he
    simpa using (List.mem_filter.1 he).2
  have hids : ((entities c.settings having (.ofValues f.directives)).selected db).map
      (groupId c.settings) = (c.wanted db f).map (· c.settings.idColumn) := by
    rw [selected_entities hc _ hdb, List.map_map]
    refine List.map_congr_left fun entity he => ?_
    obtain ⟨row, hrow⟩ := exists_headD_block (hwanted entity he)
    rw [Function.comp_apply, groupId, hrow, datum_entityColumn]
  refine ⟨hids, ?_, ?_, having, rfl, ?_⟩
  · rw [hids]
    exact hdb.1.sublist (List.filter_sublist.map _)
  · rw [Select.results, selected_entities hc _ hdb, List.map_map]
    refine List.map_congr_left fun entity he => ?_
    obtain ⟨row, hrow⟩ := exists_headD_block (hwanted entity he)
    rw [Function.comp_apply, hrow, entities, List.flatMap_map, entry, List.map_eq_flatMap]
    refine List.flatMap_congr fun name _ => ?_
    rw [Select.parts, datum_entityColumn]
    rfl
  · intro group hg frame
    rw [groups_entities _ _ _ hdb] at hg
    obtain ⟨entity, he, rfl⟩ := List.mem_map.1 hg
    have hne := (block_ne_nil_iff c.settings).2 (by simpa using (List.mem_filter.1 he).2)
    rw [eval_condition hne frame f hc]
    exact Datum.noConfusion

/-! ## A database with odd association rows -/

/-- The compiler for three tags, for which untagged entities count. -/
def sampleCompiler : Compiler :=
  ⟨{ Settings.standard with includeUntagged := true },
    TagIndex.empty.insertAll [(.text "a", "1"), (.text "k:v", "2"), (.text "b", "3")]⟩

/-- The filter `!a | k:v & sort:newest`. -/
def sampleFilter : Filter :=
  .and (.or (.not (.tag (.plain "a"))) (.tag (.valued "k" "v"))) (.tag (.valued "sort" "newest"))

/-- An association of an entity with a tag id. -/
def sampleAssociation (entity tag : Datum) : Row
  | "userdata_id" => entity
  | "tag_id" => tag
  | _ => .null

/-- Four entities. The first has the tag `a` twice, the second no tag id, the third no
association and the fourth `a` and `k:v`; one association lacks its entity, and one names none. -/
def sampleDatabase : Database
  | "userdata" => [1, 2, 3, 4].map fun n column => if column = "id" then .number n else .null
  | "userdata_tags" => [
      sampleAssociation (.number 1) (.text "1"), sampleAssociation (.number 1) (.text "1"),
      sampleAssociation (.number 2) .null, sampleAssociation .null (.text "1"),
      sampleAssociation (.number 9) (.text "2"), sampleAssociation (.number 4) (.text "1"),
      sampleAssociation (.number 4) (.text "2")]
  | _ => []

theorem selected_sample : ∃ s, sampleCompiler.compile sampleFilter = .ok s ∧
    Keyed (sampleDatabase "userdata") "id" ∧
    (s.selected sampleDatabase).map (groupId sampleCompiler.settings) =
      [.number 2, .number 3, .number 4] := by
  obtain ⟨s, hs⟩ : ∃ s, sampleCompiler.compile sampleFilter = .ok s := by
    have hok : (sampleCompiler.compile sampleFilter).toBool = true := by decide +kernel
    cases h : sampleCompiler.compile sampleFilter with
    | ok s => exact ⟨s, rfl⟩
    | error e => simp [h, Except.toBool] at hok
  have hdb : Keyed (sampleDatabase "userdata") "id" := by decide
  refine ⟨s, hs, hdb, ?_⟩
  rw [(selected_compile hs sampleDatabase hdb).1]
  decide +kernel

end TagSelect.Compiler
