import TagSelect.Json.Shape
import TagSelect.Settings
import TagSelect.Trie

/-!
# Settings and tags as documents

Settings are a JSON record, in which the table, its id and its columns are required and all else
has a standard value. Tags are a JSON map from canonical names to ids.
-/

namespace TagSelect

open Json

/-- Reads how ids are written. -/
def IdType.reader : Reader IdType :=
  choice ("text", .text) ("integer", .integer)

/-- A field that holds a text and may be left out. -/
def textField {ρ : Type} (name : String) (set : ρ → String → ρ) : RecordField ρ where
  name := name
  required := false
  read r cs := (text cs).map fun (s, cs) => (set r s, cs)

/-- The fields of an association table. -/
def Association.fields : List (RecordField Association) :=
  [textField "table" fun r s => { r with table := s },
    textField "entity_column" fun r s => { r with entityColumn := s },
    textField "tag_column" fun r s => { r with tagColumn := s }]

/-- Reads an association table. -/
def Association.reader : Reader Association :=
  record "AssociationConfig" fields standard

/-- The fields of a table of tags. -/
def TagTable.fields : List (RecordField TagTable) :=
  [textField "table" fun r s => { r with table := s },
    textField "id_column" fun r s => { r with idColumn := s },
    { name := "id_type"
      required := false
      read r cs := (IdType.reader cs).map fun (t, cs) => ({ r with idType := t }, cs) }]

/-- Reads a table of tags. -/
def TagTable.reader : Reader TagTable :=
  record "TagTableConfig" fields standard

/-- The fields of settings. -/
def Settings.fields : List (RecordField Settings) :=
  [{ textField "table_name" fun r s => { r with tableName := s } with required := true },
    { textField "id_column" fun r s => { r with idColumn := s } with required := true },
    { name := "columns"
      required := true
      read r cs := (list text cs).map fun (ss, cs) => ({ r with columns := ss }, cs) },
    textField "timestamp_column" fun r s => { r with timestampColumn := s },
    { name := "association"
      required := false
      read r cs := (Association.reader cs).map fun (a, cs) => ({ r with association := a }, cs) },
    { name := "tags"
      required := false
      read r cs := (TagTable.reader cs).map fun (t, cs) => ({ r with tags := t }, cs) },
    { name := "include_untagged"
      required := false
      read r cs := (boolean cs).map fun (b, cs) => ({ r with includeUntagged := b }, cs) }]

/-- Reads settings. -/
def Settings.reader : Reader Settings :=
  record "BuilderConfig" fields (.ofTable "" "" [])

/-- Reads settings from a document. -/
def Settings.ofDocument (s : String) : Except Fault Settings :=
  document reader s

/-- The canonical names and ids of a document of tags, in the order of the names. The last id of a
name counts. -/
def tagsOfDocument (s : String) : Except Fault (List (String × String)) :=
  (document (map text) s).map fun members => (Trie.ofList members).toList

end TagSelect
