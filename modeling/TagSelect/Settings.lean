/-!
# Settings

The settings describe the tables that a query is about: the table of entities, the table that
associates entities with tags, and the table of tags.
-/

namespace TagSelect

/-- How the ids of tags are written. -/
inductive IdType where
  | text
  | integer
deriving DecidableEq, Repr

/-- The table that associates entities with tags. -/
structure Association where
  table : String
  entityColumn : String
  tagColumn : String
deriving DecidableEq, Repr

/-- The table of tags. -/
structure TagTable where
  table : String
  idColumn : String
  idType : IdType
deriving DecidableEq, Repr

/-- The tables of a query. -/
structure Settings where
  /-- The table of entities. -/
  tableName : String
  /-- The column with the id of an entity. -/
  idColumn : String
  /-- The columns that a query returns. -/
  columns : List String
  /-- The column that orders entities in time. -/
  timestampColumn : String
  association : Association
  tags : TagTable
  /-- Whether entities without any tag are considered. -/
  includeUntagged : Bool
deriving DecidableEq, Repr

/-- The association table where nothing else is said. -/
def Association.standard : Association :=
  ⟨"userdata_tags", "userdata_id", "tag_id"⟩

/-- The table of tags where nothing else is said. -/
def TagTable.standard : TagTable :=
  ⟨"tags", "id", .text⟩

/-- The settings for a table of entities, with the standard choices for all else. -/
def Settings.ofTable (tableName idColumn : String) (columns : List String) : Settings :=
  ⟨tableName, idColumn, columns, "timestamp", .standard, .standard, false⟩

/-- The settings where nothing else is said. -/
def Settings.standard : Settings :=
  .ofTable "userdata" "id" ["id", "email", "name"]

end TagSelect
