/-!
# Tries

A trie is a finite map from texts to values, kept as a tree of characters: the node that a key
leads to holds the key's value. The children of a node form a forest, which is a list of nodes
with increasing characters; a node of a forest holds its character, its value if it has one,
the forest below it and the nodes after it. A trie counts its keys.

The only way to change a trie is to set the value of a key, which replaces the value that the key
has or adds the nodes that the key lacks. `replace` does this and gives the value that was there,
and `insert` is `replace` without that value. `toList` lists keys and values with the keys in the
order of their characters.
-/

namespace TagSelect

namespace Trie

/-- The children of a node, or the remaining ones of them. -/
inductive Forest (α : Type) where
  | nil
  | cons (label : Char) (value : Option α) (below next : Forest α)
deriving DecidableEq, Repr

namespace Forest

variable {α : Type}

/-- The path of the key `c :: cs`, which ends in `v`, in front of the nodes `next`. -/
def path (c : Char) (cs : List Char) (v : α) (next : Forest α) : Forest α :=
  match cs with
  | [] => cons c (some v) nil next
  | d :: ds => cons c none (path d ds v nil) next

/-- The value of the key `c :: cs`. -/
def find? (c : Char) (cs : List Char) : Forest α → Option α
  | nil => none
  | cons label value below next =>
    if c < label then none
    else if c = label then
      match cs with
      | [] => value
      | d :: ds => below.find? d ds
    else next.find? c cs

/-- Sets the value of the key `c :: cs`, and gives the value that it had. -/
def replace (c : Char) (cs : List Char) (v : α) : Forest α → Option α × Forest α
  | nil => (none, path c cs v nil)
  | cons label value below next =>
    if c < label then (none, path c cs v (cons label value below next))
    else if c = label then
      match cs with
      | [] => (value, cons label (some v) below next)
      | d :: ds =>
        let (old, below) := below.replace d ds v
        (old, cons label value below next)
    else
      let (old, next) := next.replace c cs v
      (old, cons label value below next)

/-- Sets the value of the key `c :: cs`. -/
def insert (c : Char) (cs : List Char) (v : α) (f : Forest α) : Forest α :=
  (f.replace c cs v).2

/-- The keys and values of a forest, each key after the characters that lead to the forest. -/
def entries (lead : List Char) : Forest α → List (List Char × α)
  | nil => []
  | cons label value below next =>
    (value.map (lead ++ [label], ·)).toList ++
      (below.entries (lead ++ [label]) ++ next.entries lead)

end Forest

end Trie

/-- A map from texts to values: the value of the empty key, the nodes of the other keys, and the
number of keys. -/
structure Trie (α : Type) where
  value : Option α
  children : Trie.Forest α
  size : Nat
deriving DecidableEq, Repr

namespace Trie

variable {α : Type}

/-- The map without keys. -/
def empty : Trie α :=
  ⟨none, .nil, 0⟩

/-- The value of a key. -/
def find? (t : Trie α) (key : String) : Option α :=
  match key.toList with
  | [] => t.value
  | c :: cs => t.children.find? c cs

/-- Whether a key has a value. -/
def contains (t : Trie α) (key : String) : Bool :=
  (t.find? key).isSome

/-- Whether no key has a value. -/
def isEmpty (t : Trie α) : Bool :=
  t.size = 0

/-- Sets the value of a key, and gives the value that it had. A key that had none is counted. -/
def replace (t : Trie α) (key : String) (v : α) : Option α × Trie α :=
  let (old, value, children) :=
    match key.toList with
    | [] => (t.value, some v, t.children)
    | c :: cs =>
      let (old, children) := t.children.replace c cs v
      (old, t.value, children)
  (old, ⟨value, children, if old.isNone then t.size + 1 else t.size⟩)

/-- Sets the value of a key. -/
def insert (t : Trie α) (key : String) (v : α) : Trie α :=
  (t.replace key v).2

/-- Sets the values of keys in order, and gives the values that they had at their turns. -/
def replaceAll : List (String × α) → Trie α → List (Option α) × Trie α
  | [], t => ([], t)
  | (key, v) :: entries, t =>
    let (old, t) := t.replace key v
    let (olds, t) := replaceAll entries t
    (old :: olds, t)

/-- The map of a list of keys and values, in which the last value of a key counts. -/
def ofList (entries : List (String × α)) : Trie α :=
  entries.foldl (fun t e => t.insert e.1 e.2) empty

/-- The keys with their values, in the order of the keys' characters. -/
def toList (t : Trie α) : List (String × α) :=
  ((t.value.map (([] : List Char), ·)).toList ++ t.children.entries []).map
    fun e => (String.ofList e.1, e.2)

end Trie

end TagSelect
