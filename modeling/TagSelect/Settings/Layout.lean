import TagSelect.Json.Writer
import TagSelect.Settings

/-!
# Layouts of settings and tags

Settings are an object with an entry for each of their fields, and so are the association table and
the table of tags in them. `Settings.IsDocument` has all texts of settings : the entries stand in
any order, those that have their standard value may be left out, there may be other members, and
white space and escapes are free. `Settings.written` is the text with all entries in order.

Tags are an object with a member for each canonical name and id. `IsTagDocument` has all texts of a
list of tags, in its order and with names that may repeat, and `writtenTags` is one of them.
-/

namespace TagSelect

open Json

/-- The name of a way to write ids. -/
def IdType.name : IdType → String
  | text => "text"
  | integer => "integer"

/-- The entries of an association table. -/
def Association.entries (a : Association) : List Entry :=
  [⟨"table", a.table = "userdata_tags", IsString a.table⟩,
    ⟨"entity_column", a.entityColumn = "userdata_id", IsString a.entityColumn⟩,
    ⟨"tag_column", a.tagColumn = "tag_id", IsString a.tagColumn⟩]

/-- The entries of a table of tags. -/
def TagTable.entries (t : TagTable) : List Entry :=
  [⟨"table", t.table = "tags", IsString t.table⟩,
    ⟨"id_column", t.idColumn = "id", IsString t.idColumn⟩,
    ⟨"id_type", t.idType = .text, IsString t.idType.name⟩]

/-- The entries of settings. Those of the table, its id and its columns are never left out. -/
def Settings.entries (c : Settings) : List Entry :=
  [⟨"table_name", False, IsString c.tableName⟩,
    ⟨"id_column", False, IsString c.idColumn⟩,
    ⟨"columns", False, fun v => ∃ vs, IsArray vs v ∧ List.Forall₂ IsString c.columns vs⟩,
    ⟨"timestamp_column", c.timestampColumn = "timestamp", IsString c.timestampColumn⟩,
    ⟨"association", c.association = ⟨"userdata_tags", "userdata_id", "tag_id"⟩,
      IsRecord c.association.entries⟩,
    ⟨"tags", c.tags = ⟨"tags", "id", .text⟩, IsRecord c.tags.entries⟩,
    ⟨"include_untagged", c.includeUntagged = false,
      fun v => v = (if c.includeUntagged then "true" else "false").toList⟩]

/-- The texts of settings. -/
inductive Settings.IsDocument (c : Settings) : List Char → Prop
  | mk {before v after : List Char} (hbefore : IsSpace before) (hafter : IsSpace after)
      (h : IsRecord c.entries v) : IsDocument c (before ++ (v ++ after))

/-- The members of an association table, in order. -/
def Association.members (a : Association) : List (String × List Char) :=
  [("table", writtenText a.table), ("entity_column", writtenText a.entityColumn),
    ("tag_column", writtenText a.tagColumn)]

/-- The members of a table of tags, in order. -/
def TagTable.members (t : TagTable) : List (String × List Char) :=
  [("table", writtenText t.table), ("id_column", writtenText t.idColumn),
    ("id_type", writtenText t.idType.name)]

/-- The members of settings, in order. -/
def Settings.members (c : Settings) : List (String × List Char) :=
  [("table_name", writtenText c.tableName), ("id_column", writtenText c.idColumn),
    ("columns", writtenArray (c.columns.map writtenText)),
    ("timestamp_column", writtenText c.timestampColumn),
    ("association", writtenObject c.association.members), ("tags", writtenObject c.tags.members),
    ("include_untagged", (if c.includeUntagged then "true" else "false").toList)]

/-- The text of settings with all entries in order. -/
def Settings.written (c : Settings) : String :=
  String.ofList (writtenObject c.members)

/-- The texts of tags : an object with the canonical names and ids in order. -/
inductive IsTagDocument (tags : List (String × String)) : List Char → Prop
  | mk {before v after : List Char} {spelled : List (List Char × List Char)}
      (hbefore : IsSpace before) (hafter : IsSpace after)
      (hspelled : List.Forall₂ (fun t m => Spells m.1 t.1.toList ∧ IsString t.2 m.2) tags spelled)
      (h : IsObject spelled v) : IsTagDocument tags (before ++ (v ++ after))

/-- The text of tags without white space. -/
def writtenTags (tags : List (String × String)) : String :=
  String.ofList (writtenObject (tags.map fun t => (t.1, writtenText t.2)))

end TagSelect
