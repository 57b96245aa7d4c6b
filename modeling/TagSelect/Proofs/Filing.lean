import Mathlib.Data.Finset.Card
import TagSelect.Compiler
import TagSelect.Proofs.TrieMap

/-!
# Sessions of filing tags

What an index knows after tags were filed, in lists and one by one, under keys of any kind.

A session is a list of calls (`Filing`), each of which files a list of tags or a single one. It
comes down to its pairs of keys and ids in their order (`TagIndex.ofFilings_eq`), so that it does
not matter how they are cut into calls. Of a pair the index sees the canonical name and the id
(`Filing.entries`), and it files the entries that have a name in its trie, one after the other
(`TagIndex.ids_insertAll`). So the last id of a name is found (`TagIndex.find?_insertAll`) and each
name counts once (`TagIndex.size_insertAll`). A tag without a name is never filed and never found.

`tagId_ofFilings` says all of this of a session.
-/

namespace TagSelect

/-- A call that files tags. -/
inductive Filing where
  | list (pairs : List (TagKey × String))
  | single (key : TagKey) (id : String)

namespace Filing

/-- The keys and ids of a call in order. -/
def pairs : Filing → List (TagKey × String)
  | list pairs => pairs
  | single key id => [(key, id)]

/-- The canonical name of a key and an id. -/
def entry (p : TagKey × String) : String × String :=
  (p.1.canonical, p.2)

/-- The canonical names and ids of all calls in order. -/
def entries (calls : List Filing) : List (String × String) :=
  (calls.flatMap pairs).map entry

/-- The names that occur in entries, without the empty one. -/
def names (entries : List (String × String)) : Finset String :=
  ((entries.map Prod.fst).filter (· ≠ "")).toFinset

end Filing

namespace TagIndex

/-- The index after a call. -/
def file (x : TagIndex) : Filing → TagIndex
  | .list pairs => x.insertAll pairs
  | .single key id => x.insert key id

/-- The index after calls on the index without tags. -/
def ofFilings (calls : List Filing) : TagIndex :=
  calls.foldl file empty

/-! ## Filing one tag -/

/-- A tag with a name is found under the id that it was filed with, and so is every tag with the
same canonical name. -/
theorem find?_insert (x : TagIndex) {key : TagKey} (hkey : key.canonical ≠ "")
    (id : String) (q : TagKey) :
    (x.insert key id).find? q = if q.canonical = key.canonical then some id else x.find? q := by
  have hempty : key.canonical.isEmpty = false := by simpa using hkey
  rw [insert, hempty, if_neg Bool.false_ne_true, find?, Trie.find?_insert, find?]

/-! ## Calls as pairs -/

theorem insertAll_append (x : TagIndex) (ps qs : List (TagKey × String)) :
    x.insertAll (ps ++ qs) = (x.insertAll ps).insertAll qs :=
  List.foldl_append

theorem file_eq (x : TagIndex) (call : Filing) : x.file call = x.insertAll call.pairs := by
  cases call <;> rfl

theorem foldl_file : ∀ (calls : List Filing) (x : TagIndex),
    calls.foldl file x = x.insertAll (calls.flatMap Filing.pairs)
  | [], _ => rfl
  | call :: calls, x => by
    rw [List.foldl_cons, foldl_file calls, file_eq, List.flatMap_cons, insertAll_append]

/-- A session files its pairs in their order. -/
theorem ofFilings_eq (calls : List Filing) :
    ofFilings calls = empty.insertAll (calls.flatMap Filing.pairs) :=
  foldl_file calls empty

/-- Sessions of the same pairs give the same index. -/
theorem ofFilings_congr {calls calls' : List Filing}
    (h : calls.flatMap Filing.pairs = calls'.flatMap Filing.pairs) :
    ofFilings calls = ofFilings calls' := by
  rw [ofFilings_eq, ofFilings_eq, h]

/-! ## A session -/

theorem insertAll_append_singleton (x : TagIndex) (ps : List (TagKey × String))
    (key : TagKey) (id : String) :
    x.insertAll (ps ++ [(key, id)]) = (x.insertAll ps).insert key id :=
  insertAll_append x ps [(key, id)]

/-- The trie of an index is that of the entries with a name. -/
theorem ids_insertAll (pairs : List (TagKey × String)) : (empty.insertAll pairs).ids =
    Trie.ofList ((pairs.map Filing.entry).filter fun e => e.1 ≠ "") := by
  induction pairs using List.reverseRecOn with
  | nil => rfl
  | append_singleton pairs p ih =>
    obtain ⟨key, id⟩ := p
    rw [insertAll_append_singleton, insert, List.map_append, List.map_singleton, Filing.entry,
      List.filter_append]
    by_cases hkey : key.canonical = ""
    · simp [hkey, ih]
    · simp [hkey, ih, Trie.ofList_append_singleton]

/-- A key finds the last id that was filed under its name. -/
theorem find?_insertAll (pairs : List (TagKey × String)) (q : TagKey) (id : String) :
    (empty.insertAll pairs).find? q = some id ↔
      q.canonical ≠ "" ∧ LastOf (pairs.map Filing.entry) q.canonical id := by
  rw [find?, ids_insertAll, Trie.find?_ofList, lastOf_filter (· ≠ ""), decide_eq_true_eq]

/-- A key finds nothing if it has no name or its name was not filed. -/
theorem find?_insertAll_eq_none (pairs : List (TagKey × String)) (q : TagKey) :
    (empty.insertAll pairs).find? q = none ↔
      q.canonical = "" ∨ q.canonical ∉ (pairs.map Filing.entry).map Prod.fst := by
  rw [← exists_lastOf, Option.eq_none_iff_forall_ne_some]
  simp only [ne_eq, find?_insertAll]
  by_cases hq : q.canonical = "" <;> simp [hq]

/-- Every name that was filed counts once. -/
theorem size_insertAll (pairs : List (TagKey × String)) :
    (empty.insertAll pairs).size = (Filing.names (pairs.map Filing.entry)).card := by
  have hnames (entries : List (String × String)) : (entries.filter fun e => e.1 ≠ "").map Prod.fst =
      (entries.map Prod.fst).filter (· ≠ "") := by
    rw [List.filter_map]
    rfl
  rw [size, ids_insertAll, Trie.size_ofList, hnames, Filing.names]

end TagIndex

namespace Compiler

variable (s : Settings) (x : TagIndex)

theorem tagId_eq_ok {q : TagKey} {id : String} :
    (Compiler.mk s x).tagId q = .ok id ↔ x.find? q = some id := by
  rw [tagId]
  cases x.find? q <;> simp

theorem tagId_eq_error {q : TagKey} {e : CompileError} :
    (Compiler.mk s x).tagId q = .error e ↔ e = .tagNotFound q.canonical ∧ x.find? q = none := by
  rw [tagId]
  cases x.find? q <;> simp [eq_comm]

end Compiler

/-- After any session a key has the last id that was filed under its canonical name. If this name
is empty or was not filed, the error names it. A key is known if it has an id, the size counts the
filed names that are not empty, and the index is empty if it counts none. A list of tags may be cut
in two or into single tags at any place of a session. -/
theorem tagId_ofFilings (s : Settings) (calls : List Filing) :
    (∀ q id, (Compiler.mk s (TagIndex.ofFilings calls)).tagId q = .ok id ↔
        q.canonical ≠ "" ∧ LastOf (Filing.entries calls) q.canonical id) ∧
      (∀ q e, (Compiler.mk s (TagIndex.ofFilings calls)).tagId q = .error e ↔
        e = .tagNotFound q.canonical ∧
          (q.canonical = "" ∨ q.canonical ∉ (Filing.entries calls).map Prod.fst)) ∧
      (∀ q, (TagIndex.ofFilings calls).contains q = true ↔
        ∃ id, (Compiler.mk s (TagIndex.ofFilings calls)).tagId q = .ok id) ∧
      (TagIndex.ofFilings calls).size = (Filing.names (Filing.entries calls)).card ∧
      ((TagIndex.ofFilings calls).isEmpty = true ↔ (TagIndex.ofFilings calls).size = 0) ∧
      (∀ before after ps qs, TagIndex.ofFilings (before ++ .list (ps ++ qs) :: after) =
        TagIndex.ofFilings (before ++ .list ps :: .list qs :: after)) ∧
      ∀ before after ps, TagIndex.ofFilings (before ++ .list ps :: after) =
        TagIndex.ofFilings (before ++ (ps.map fun p => .single p.1 p.2) ++ after) := by
  have hfind := TagIndex.find?_insertAll (calls.flatMap Filing.pairs)
  have hnone := TagIndex.find?_insertAll_eq_none (calls.flatMap Filing.pairs)
  have hsize := TagIndex.size_insertAll (calls.flatMap Filing.pairs)
  rw [← TagIndex.ofFilings_eq] at hfind hnone hsize
  refine ⟨fun q id => ?_, fun q e => ?_, fun q => ?_, hsize, ?_, fun before after ps qs => ?_,
    fun before after ps => ?_⟩
  · rw [Compiler.tagId_eq_ok, hfind]
    rfl
  · rw [Compiler.tagId_eq_error, hnone]
    rfl
  · simp only [Compiler.tagId_eq_ok, TagIndex.contains, Option.isSome_iff_exists]
  · simp [TagIndex.isEmpty, Trie.isEmpty, TagIndex.size]
  · refine TagIndex.ofFilings_congr ?_
    simp [Filing.pairs]
  · refine TagIndex.ofFilings_congr ?_
    simp [Filing.pairs, List.flatMap_map]

end TagSelect
