import TagSelect.Event
import TagSelect.Filter
import TagSelect.Trie

/-!
# The tag index

The index knows the id of every tag, filed under the tag's canonical name. Filing a tag again
replaces its id, and a tag without a name is not filed. A tag can be given by its name or
directly by the text of its canonical name.
-/

namespace TagSelect

/-- What a tag is looked up by. -/
inductive TagKey where
  | text (canonical : String)
  | name (name : TagName)
deriving DecidableEq, Repr

/-- The canonical name that a key stands for. -/
def TagKey.canonical : TagKey → String
  | text canonical => canonical
  | name n => n.canonical

/-- The ids of the known tags by their canonical names. -/
structure TagIndex where
  ids : Trie String
deriving DecidableEq, Repr

namespace TagIndex

/-- The index without tags. -/
def empty : TagIndex :=
  ⟨Trie.empty⟩

/-- The id of a tag. -/
def find? (x : TagIndex) (key : TagKey) : Option String :=
  x.ids.find? key.canonical

/-- Whether a tag is known. -/
def contains (x : TagIndex) (key : TagKey) : Bool :=
  (x.find? key).isSome

/-- The number of known tags. -/
def size (x : TagIndex) : Nat :=
  x.ids.size

/-- Whether no tag is known. -/
def isEmpty (x : TagIndex) : Bool :=
  x.ids.isEmpty

/-- Files a tag. -/
def insert (x : TagIndex) (key : TagKey) (id : String) : TagIndex :=
  if key.canonical.isEmpty then x else ⟨x.ids.insert key.canonical id⟩

/-- What filing a tag reports. -/
def insertEvent (key : TagKey) (id : String) : Event :=
  if key.canonical.isEmpty then .namelessTagIgnored else .tagFiled key.canonical id

/-- Files tags in order. -/
def insertAll (x : TagIndex) (pairs : List (TagKey × String)) : TagIndex :=
  pairs.foldl (fun x p => x.insert p.1 p.2) x

/-- What filing tags in order reports. -/
def insertAllEvents (x : TagIndex) (pairs : List (TagKey × String)) : List Event :=
  pairs.map (fun p => insertEvent p.1 p.2) ++ [.indexFilled (x.insertAll pairs).size]

end TagIndex

end TagSelect
