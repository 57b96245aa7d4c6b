import TagSelect.Proofs.Selection
import TagSelect.Proofs.TreeWalk

/-!
# The statements about one entity

What the statements return that list the tags of an entity and look up one association, and that
they agree with the selection of entities about who carries a tag.

An entity id and a tag id are associated (`Associated`) if some association row holds both. The
look-up returns the rows that do (`results_entityTag`). The list of tags joins each tag with its
association rows (`tagAssociations`) and returns the tags that are associated with the entity, each
once and with the number of its association rows (`results_entityTags`). For an absent entity value
it returns none (`results_entityTags_null`). `entityTags_with_usage` says this of the rows of the
tables.

A filter of a single tag selects the entities that are associated with its id (`mem_selected_tag`).
`lookups_agree` puts the three statements side by side.
-/

namespace TagSelect.Compiler

open Sql

/-! ## Associations -/

/-- Some association row holds the two ids. -/
def Associated (s : Settings) (db : Database) (entity tag : Datum) : Prop :=
  ∃ row ∈ db s.association.table,
    row s.association.entityColumn = entity ∧ row s.association.tagColumn = tag

instance (s : Settings) (db : Database) (entity tag : Datum) :
    Decidable (Associated s db entity tag) :=
  inferInstanceAs (Decidable (∃ row ∈ db s.association.table, _))

/-- The association rows of a tag. -/
def tagAssociations (s : Settings) (db : Database) (tag : Row) : List Row :=
  linked (db s.association.table) s.association.tagColumn (tag s.tags.idColumn)

/-- The number of association rows of a tag that name an entity. -/
def usage (s : Settings) (db : Database) (tag : Row) : Nat :=
  ((tagAssociations s db tag).filter fun row => row s.association.entityColumn ≠ .null).length

/-- A tag and one of its association rows. -/
def tagPair (tag row : Row) : Frame :=
  [("t", tag), ("ut", row)]

theorem datum_tagColumn (name : String) (tag row : Row) :
    (tagColumn name).datum (tagPair tag row) = tag name :=
  Column.datum_first "t" "ut" name tag row

theorem datum_associationColumn_tagPair (name : String) (tag row : Row) :
    (associationColumn name).datum (tagPair tag row) = row name :=
  Column.datum_second (by decide) name tag row

/-! ## One association -/

theorem and_apply_eq_true {a b : Option Bool} :
    Connective.and.apply a b = some true ↔ a = some true ∧ b = some true := by
  rcases a with _ | _ | _ <;> rcases b with _ | _ | _ <;> decide

theorem truth?_eq_true {d : Datum} : d.truth? = some true ↔ d = .bool true := by
  cases d <;> simp [Datum.truth?]

theorem ofTruth_eq_true {o : Option Bool} : Datum.ofTruth o = .bool true ↔ o = some true := by
  cases o <;> simp [Datum.ofTruth]

/-- A conjunction is true if both of its operands are. -/
theorem eval_and_eq_true {l r : Expr} {group : List Frame} {frame : Frame} :
    (l.and r).eval group frame = .bool true ↔
      l.eval group frame = .bool true ∧ r.eval group frame = .bool true := by
  rw [Expr.and, Expr.eval, ofTruth_eq_true, and_apply_eq_true, truth?_eq_true, truth?_eq_true]

theorem eval_columnIs_eq_true_iff {column : Column} {v : Value} {group : List Frame}
    {frame : Frame} : (Expr.columnIs column v).eval group frame = .bool true ↔
      column.datum frame = v.datum ∧ v.datum ≠ .null := by
  rw [Expr.columnIs, Expr.eval, Expr.eval, Expr.eval, Comparison.eq_apply_eq_true]

theorem eval_columnIs_eq_true {column : Column} {v : Value} {group : List Frame} {frame : Frame}
    (hv : v.datum ≠ .null) : (Expr.columnIs column v).eval group frame = .bool true ↔
      column.datum frame = v.datum := by
  rw [eval_columnIs_eq_true_iff, and_iff_left hv]

/-- A statement without groups returns each of its rows by itself. -/
theorem results_ungrouped {s : Select} (hgroup : s.groupBy = none) (hhaving : s.having = none)
    (db : Database) : s.results db =
      (s.frames db).map fun frame => s.items.flatMap (Select.parts [frame] frame) := by
  have hselected : s.selected db = (s.frames db).map ([·]) := by
    rw [Select.selected, Select.groups, hgroup, hhaving]
    exact List.filter_eq_self.2 fun _ _ => rfl
  rw [Select.results, hselected, List.map_map]
  rfl

variable {c : Compiler} {db : Database} {e : Value}

/-- The look-up returns the association rows that hold the two ids. -/
theorem results_entityTag (db : Database) {key : TagKey} {id : Value}
    (hid : c.idValue key = .ok id) (he : e.datum ≠ .null) :
    ∃ lookup, c.entityTag e key = .ok lookup ∧
      lookup.results db = ((db c.settings.association.table).filter fun row =>
        row c.settings.association.entityColumn = e.datum ∧
          row c.settings.association.tagColumn = id.datum).map fun row => [.row row] := by
  have hnull := datum_ne_null_of_idValue hid
  refine ⟨_, by rw [entityTag, hid], ?_⟩
  rw [results_ungrouped rfl rfl, Select.frames, joinAll, List.filter_map, List.map_map]
  refine congrArg _ (List.filter_congr fun row _ => ?_)
  simp only [Function.comp_apply, holds, eval_and_eq_true, eval_columnIs_eq_true he,
    eval_columnIs_eq_true hnull]
  rfl

/-! ## The tags of an entity -/

/-- The joined rows of a tag. -/
def tagBlock (s : Settings) (db : Database) (tag : Row) : List Frame :=
  (tagAssociations s db tag).map (tagPair tag)

/-- The joined rows of the statement are the blocks of the tags. -/
theorem frames_entityTags (hdb : Keyed (db c.settings.tags.table) c.settings.tags.idColumn) :
    (c.entityTags e).frames db =
      (db c.settings.tags.table).flatMap (tagBlock c.settings db) := by
  let j : Join := ⟨.inner, associationTable c.settings, .columnsAgree
    (tagColumn c.settings.tags.idColumn) (associationColumn c.settings.association.tagColumn)⟩
  have hframes : (c.entityTags e).frames db =
      j.apply db ["t"] ((db c.settings.tags.table).map fun row => [("t", row)]) :=
    List.filter_eq_self.2 fun _ _ => rfl
  rw [hframes]
  exact Join.apply_inner (y := "ut") rfl (by decide) rfl rfl ["t"] hdb.2

/-- The groups are the blocks of the tags with association rows. -/
theorem groups_entityTags (hdb : Keyed (db c.settings.tags.table) c.settings.tags.idColumn) :
    (c.entityTags e).groups db = ((db c.settings.tags.table).filter fun tag =>
      !(tagBlock c.settings db tag).isEmpty).map (tagBlock c.settings db) := by
  have hgroups := groups_flatMap (tagColumn c.settings.tags.idColumn).datum
    (· c.settings.tags.idColumn) (tagBlock c.settings db) (db c.settings.tags.table) hdb.1
    fun tag _ f hf => by
      obtain ⟨row, -, rfl⟩ := List.mem_map.1 hf
      exact datum_tagColumn _ _ _
  rw [← hgroups, ← frames_entityTags (e := e) hdb]
  rfl

theorem associated_iff_tagAssociations (s : Settings) {tag : Row} {entity : Datum} :
    Associated s db entity (tag s.tags.idColumn) ↔
      ∃ row ∈ tagAssociations s db tag, row s.association.entityColumn = entity := by
  simp only [Associated, tagAssociations, linked, List.mem_filter, decide_eq_true_eq]
  constructor
  · rintro ⟨row, hrow, hentity, htag⟩
    exact ⟨row, ⟨hrow, htag⟩, hentity⟩
  · rintro ⟨row, ⟨hrow, htag⟩, hentity⟩
    exact ⟨row, hrow, hentity, htag⟩

/-- On the block of a tag the condition on groups says whether the entity is associated with it. -/
theorem holds_tagBlock (he : e.datum ≠ .null) {tag : Row}
    (hne : tagBlock c.settings db tag ≠ []) (frame : Frame) :
    holds (c.entityTags e).having (tagBlock c.settings db tag) frame =
      decide (Associated c.settings db e.datum (tag c.settings.tags.idColumn)) := by
  rw [entityTags, holds, Expr.eval_anyRow _ hne, Bool.eq_iff_iff, decide_eq_true_iff,
    decide_eq_true_iff, associated_iff_tagAssociations]
  simp [tagBlock, eval_columnIs_eq_true he, datum_associationColumn_tagPair]

/-- What the statement returns for the block of a tag. -/
theorem flatMap_parts_tagBlock {tag : Row} (hne : tagBlock c.settings db tag ≠ []) :
    (c.entityTags e).items.flatMap
        (Select.parts (tagBlock c.settings db tag) ((tagBlock c.settings db tag).headD [])) =
      [.row tag, .datum "usage_count" (.number (usage c.settings db tag))] := by
  obtain ⟨row, hhead⟩ : ∃ row, (tagBlock c.settings db tag).headD [] = tagPair tag row := by
    rw [tagBlock] at hne ⊢
    cases h : tagAssociations c.settings db tag with
    | nil => simp [h] at hne
    | cons row rows => exact ⟨row, rfl⟩
  have hcount : (Expr.count (associationColumn c.settings.association.entityColumn)).eval
      (tagBlock c.settings db tag) (tagPair tag row) = .number (usage c.settings db tag) := by
    rw [Expr.count, Expr.eval, Aggregate.apply, tagBlock, List.map_map, List.filter_map,
      List.length_map, usage]
    simp [Function.comp_def, Expr.eval, datum_associationColumn_tagPair]
  have hlookup : (tagPair tag row).lookup "t" = some tag := by
    simp [tagPair]
  rw [hhead]
  simp [entityTags, Select.parts, hcount, hlookup]

/-- The statement returns the tags that are associated with the entity, each of them once and with
the number of its association rows. -/
theorem results_entityTags (he : e.datum ≠ .null)
    (hdb : Keyed (db c.settings.tags.table) c.settings.tags.idColumn) :
    (c.entityTags e).results db = ((db c.settings.tags.table).filter fun tag =>
        Associated c.settings db e.datum (tag c.settings.tags.idColumn)).map fun tag =>
      [.row tag, .datum "usage_count" (.number (usage c.settings db tag))] := by
  have hblock : ∀ tag, Associated c.settings db e.datum (tag c.settings.tags.idColumn) →
      tagBlock c.settings db tag ≠ [] := by
    intro tag h
    obtain ⟨row, hrow, -⟩ := (associated_iff_tagAssociations _).1 h
    exact List.ne_nil_of_mem (List.mem_map_of_mem hrow)
  have hselected : (c.entityTags e).selected db = ((db c.settings.tags.table).filter fun tag =>
      Associated c.settings db e.datum (tag c.settings.tags.idColumn)).map
        (tagBlock c.settings db) := by
    rw [Select.selected, groups_entityTags hdb, List.filter_map, List.filter_filter]
    refine congrArg _ (List.filter_congr fun tag _ => ?_)
    by_cases hne : tagBlock c.settings db tag = []
    · have hnot := mt (hblock tag) (not_not.2 hne)
      simp [hne, hnot]
    · simp [hne, holds_tagBlock he hne]
  rw [Select.results, hselected, List.map_map]
  refine List.map_congr_left fun tag htag => ?_
  exact flatMap_parts_tagBlock (hblock tag (by simpa using (List.mem_filter.1 htag).2))

/-- An absent entity value is in no association row. -/
theorem results_entityTags_null (he : e.datum = .null) (db : Database) :
    (c.entityTags e).results db = [] := by
  have hselected : (c.entityTags e).selected db = [] := by
    refine List.filter_eq_nil_iff.2 fun group _ hholds => ?_
    have hrow : ∀ f ∈ group, (Expr.columnIs
        (associationColumn c.settings.association.entityColumn) e).eval group f ≠ .bool true :=
      fun f _ h => (eval_columnIs_eq_true_iff.1 h).2 he
    exact Expr.eval_anyRow_ne_true hrow (by simpa [holds, entityTags] using hholds)
  rw [Select.results, hselected, List.map_nil]

/-- For an entity value that is present, the statement returns each tag of the tag table that has an
association row with the entity, once, and no other tag. The count that it gives for a tag is that
of all association rows of the tag that name an entity, whichever it is. For an absent entity value
it returns nothing. -/
theorem entityTags_with_usage (c : Compiler) (e : Value) (db : Database) :
    (e.datum ≠ .null → Keyed (db c.settings.tags.table) c.settings.tags.idColumn →
      (c.entityTags e).results db = ((db c.settings.tags.table).filter fun tag =>
          ∃ row ∈ db c.settings.association.table,
            row c.settings.association.entityColumn = e.datum ∧
              row c.settings.association.tagColumn = tag c.settings.tags.idColumn).map fun tag =>
        [.row tag, .datum "usage_count" (.number
          ((db c.settings.association.table).filter fun row =>
            row c.settings.association.entityColumn ≠ .null ∧
              row c.settings.association.tagColumn = tag c.settings.tags.idColumn).length)]) ∧
      (e.datum = .null → (c.entityTags e).results db = []) := by
  refine ⟨fun he hdb => ?_, fun he => results_entityTags_null he db⟩
  have husage (tag : Row) : usage c.settings db tag =
      ((db c.settings.association.table).filter fun row =>
        row c.settings.association.entityColumn ≠ .null ∧
          row c.settings.association.tagColumn = tag c.settings.tags.idColumn).length := by
    rw [usage, tagAssociations, linked, List.filter_filter]
    simp only [Bool.decide_and]
  simp only [← husage]
  exact results_entityTags he hdb

/-- The row of a tag with an id. -/
def sampleTag (id : String) : Row := fun column =>
  if column = "id" then .text id else .null

/-- The entities and associations of `sampleDatabase`, and the rows of two tags. One of these is not
used, and one that is used has no row. -/
def strayTagDatabase : Database
  | "tags" => [sampleTag "1", sampleTag "3"]
  | table => sampleDatabase table

/-- Two association rows of another entity, which are the same, count for the tag, and one without
an entity does not. -/
theorem entityTags_with_usage_sample :
    Keyed (strayTagDatabase "tags") "id" ∧
      (sampleCompiler.entityTags (.int 4)).results strayTagDatabase =
        [[.row (sampleTag "1"), .datum "usage_count" (.number 3)]] ∧
      (sampleCompiler.entityTags (.null .int)).results strayTagDatabase = [] := by
  have hkeyed : Keyed (strayTagDatabase "tags") "id" := by decide
  obtain ⟨hlisted, -⟩ := entityTags_with_usage sampleCompiler (.int 4) strayTagDatabase
  obtain ⟨-, hnull⟩ := entityTags_with_usage sampleCompiler (.null .int) strayTagDatabase
  refine ⟨hkeyed, ?_, hnull rfl⟩
  rw [hlisted (by decide) hkeyed]
  rfl

/-! ## The entities with a tag -/

theorem associated_iff_associations (s : Settings) {entity : Row} {tag : Datum} :
    Associated s db (entity s.idColumn) tag ↔
      ∃ row ∈ associations s db entity, row s.association.tagColumn = tag := by
  simp only [Associated, associations, linked, List.mem_filter, decide_eq_true_eq, and_assoc]

/-- An entity is wanted by a tag if it is associated with the tag's id. Such an entity is tagged, so
that it does not matter whether untagged ones are considered. -/
theorem wanted_tag_iff {name : TagName} {id : Value} {entity : Row}
    (hsort : name.sortValue? = none) (hid : c.idValue (.name name) = .ok id) :
    c.Wanted db (.tag name) entity ↔
      Associated c.settings db (entity c.settings.idColumn) id.datum := by
  rw [associated_iff_associations]
  constructor
  · rintro ⟨-, hholds⟩
    rcases hholds with hsome | ⟨id', hid', hrow⟩
    · simp [hsort] at hsome
    · rw [hid] at hid'
      cases hid'
      exact hrow
  · rintro ⟨row, hrow, htag⟩
    exact ⟨Or.inr (List.ne_nil_of_mem hrow), Or.inr ⟨id, hid, row, hrow, htag⟩⟩

theorem condition_tag {name : TagName} {id : Value} (hsort : name.sortValue? = none)
    (hid : c.idValue (.name name) = .ok id) : c.condition (.tag name) =
      .ok (.anyRow (.columnIs (associationColumn c.settings.association.tagColumn) id)) := by
  rw [condition, leafCondition]
  simp [hsort, hid]

/-- The ids of the selected groups are those of the wanted entities. -/
theorem map_groupId_selected {f : Filter} {having : Expr} (h : c.condition f = .ok having)
    (plan : SortPlan) (hdb : Keyed (db c.settings.tableName) c.settings.idColumn) :
    ((entities c.settings having plan).selected db).map (groupId c.settings) =
      (c.wanted db f).map (· c.settings.idColumn) := by
  rw [selected_entities h plan hdb, List.map_map]
  refine List.map_congr_left fun entity he => ?_
  obtain ⟨row, hrow⟩ := exists_headD_block (by simpa using (List.mem_filter.1 he).2)
  rw [Function.comp_apply, groupId, hrow, datum_entityColumn]

/-- The filter of a single tag selects the entities that are associated with the tag's id. -/
theorem mem_selected_tag {name : TagName} {id : Value} (hsort : name.sortValue? = none)
    (hid : c.idValue (.name name) = .ok id)
    (hdb : Keyed (db c.settings.tableName) c.settings.idColumn) :
    ∃ selection, c.compile (.tag name) = .ok selection ∧
      ∀ d : Datum, d ∈ (selection.selected db).map (groupId c.settings) ↔
        d ∈ (db c.settings.tableName).map (· c.settings.idColumn) ∧
          Associated c.settings db d id.datum := by
  have hdepth : (Filter.tag name).depth ≤ maxDepth := by
    rw [Filter.depth_eq_height]
    exact Nat.zero_le _
  have hc := condition_tag hsort hid
  refine ⟨_, compile_eq_ok.2 ⟨hdepth, _, hc, rfl⟩, fun d => ?_⟩
  rw [map_groupId_selected hc _ hdb, wanted]
  simp only [List.mem_map, List.mem_filter, decide_eq_true_eq, wanted_tag_iff hsort hid]
  constructor
  · rintro ⟨entity, ⟨hentity, hassociated⟩, rfl⟩
    exact ⟨⟨entity, hentity, rfl⟩, hassociated⟩
  · rintro ⟨⟨entity, hentity, rfl⟩, hassociated⟩
    exact ⟨entity, ⟨hentity, hassociated⟩, rfl⟩

/-! ## Agreement -/

/-- For a tag with an id, and an entity id that is present, three statements say the same : the
look-up of the association returns a row, the filter of the tag selects the entity, and, if the tag
table has a row with the tag's id, this row is among the tags that are listed for the entity. -/
theorem lookups_agree {name : TagName} {id : Value} (hsort : name.sortValue? = none)
    (hid : c.idValue (.name name) = .ok id) (db : Database)
    (hentities : Keyed (db c.settings.tableName) c.settings.idColumn)
    (htags : Keyed (db c.settings.tags.table) c.settings.tags.idColumn)
    (he : e.datum ∈ (db c.settings.tableName).map (· c.settings.idColumn)) :
    ∃ lookup selection, c.entityTag e (.name name) = .ok lookup ∧
      c.compile (.tag name) = .ok selection ∧
      (lookup.results db ≠ [] ↔ e.datum ∈ (selection.selected db).map (groupId c.settings)) ∧
      ∀ tag ∈ db c.settings.tags.table, tag c.settings.tags.idColumn = id.datum →
        (lookup.results db ≠ [] ↔
          ∃ count, [.row tag, .datum "usage_count" count] ∈ (c.entityTags e).results db) := by
  have hnull : e.datum ≠ .null := by
    obtain ⟨entity, hentity, hdatum⟩ := List.mem_map.1 he
    rw [← hdatum]
    exact hentities.2 entity hentity
  obtain ⟨lookup, hlookup, hrows⟩ := results_entityTag db hid hnull
  obtain ⟨selection, hselection, hmem⟩ := mem_selected_tag hsort hid hentities
  have hassociated : lookup.results db ≠ [] ↔ Associated c.settings db e.datum id.datum := by
    simp [hrows, Associated]
  refine ⟨lookup, selection, hlookup, hselection, ?_, fun tag htag hdatum => ?_⟩
  · rw [hassociated, hmem, and_iff_right he]
  · rw [hassociated, results_entityTags hnull htags]
    constructor
    · intro h
      refine ⟨_, List.mem_map.2 ⟨tag, List.mem_filter.2 ⟨htag, ?_⟩, rfl⟩⟩
      simpa [hdatum] using h
    · rintro ⟨count, h⟩
      obtain ⟨tag', htag', heq⟩ := List.mem_map.1 h
      obtain rfl : tag' = tag := by simpa using (List.cons.inj heq).1
      simpa [hdatum] using (List.mem_filter.1 htag').2

/-- The entities and associations of `sampleDatabase`, and the rows of two tags. -/
def taggedDatabase : Database
  | "tags" => [sampleTag "1", sampleTag "2"]
  | table => sampleDatabase table

theorem sample_lookups_agree : ∃ lookup selection,
    sampleCompiler.entityTag (.int 4) (.name (.valued "k" "v")) = .ok lookup ∧
      sampleCompiler.compile (.tag (.valued "k" "v")) = .ok selection ∧
      lookup.results taggedDatabase ≠ [] ∧
      .number 4 ∈ (selection.selected taggedDatabase).map (groupId sampleCompiler.settings) ∧
      ∃ count, [.row (sampleTag "2"), .datum "usage_count" count] ∈
        (sampleCompiler.entityTags (.int 4)).results taggedDatabase := by
  have hid : sampleCompiler.idValue (.name (.valued "k" "v")) = .ok (.text "2") := by
    decide +kernel
  have hentities : Keyed (taggedDatabase "userdata") "id" := by decide
  have htags : Keyed (taggedDatabase "tags") "id" := by decide
  obtain ⟨lookup, selection, hlookup, hselection, hselected, hlisted⟩ :=
    lookups_agree (e := .int 4) rfl hid taggedDatabase hentities htags (by decide)
  have hrows : lookup.results taggedDatabase ≠ [] := by
    rw [entityTag, hid] at hlookup
    cases hlookup
    exact List.ne_nil_of_length_pos (by decide +kernel)
  have htag : sampleTag "2" ∈ taggedDatabase "tags" := List.mem_cons_of_mem _ List.mem_cons_self
  exact ⟨lookup, selection, hlookup, hselection, hrows, hselected.1 hrows,
    (hlisted (sampleTag "2") htag rfl).1 hrows⟩

end TagSelect.Compiler
