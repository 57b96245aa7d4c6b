import Mathlib.Data.Char
import Mathlib.Data.Finset.Card
import Mathlib.Data.List.Induction
import TagSelect.Trie

/-!
# Tries as finite maps

What a key finds in a trie after a value was set, and how the number of keys changes.

A key finds the value that was set if it is the key it was set under, and otherwise what it found
before (`Trie.find?_insert`) : keys that begin with one another, or share their first characters, do
not disturb each other. A key counts once, when it gets its first value (`Trie.size_insert`).

`LastOf` says which value of a list of keys and values counts for a key. It is read off the end of
the list (`lastOf_append_singleton`), which is where a run of insertions grows.

The walk that sets a value gives the one that a look-up would have found (`Trie.replace_eq`). With
this a history of settings is a map that keeps the last value of each key (`Trie.find?_ofList`) and
counts the keys (`Trie.size_ofList`), and each setting gives what the history before it says
(`Trie.replaceAll_append`). `Trie.replaceAll_history` is all of this.
-/

namespace TagSelect

namespace Trie

variable {α : Type}

namespace Forest

variable {c d label : Char} {cs ds : List Char} {value : Option α} {below next : Forest α} {v : α}

theorem find?_of_lt (h : c < label) : (cons label value below next).find? c cs = none := by
  rw [find?.eq_def]
  simp [h]

theorem find?_self_nil : (cons c value below next).find? c [] = value := by
  rw [find?.eq_def]
  simp

theorem find?_self_cons : (cons c value below next).find? c (d :: ds) = below.find? d ds := by
  rw [find?.eq_def]
  simp

theorem find?_of_gt (h : label < c) :
    (cons label value below next).find? c cs = next.find? c cs := by
  rw [find?.eq_def]
  simp [lt_asymm h, (ne_of_lt h).symm]

theorem insert_nil : nil.insert c cs v = path c cs v nil :=
  rfl

theorem insert_of_lt (h : c < label) : (cons label value below next).insert c cs v =
    path c cs v (cons label value below next) := by
  rw [insert, replace.eq_def]
  simp [h]

theorem insert_self_nil :
    (cons c value below next).insert c [] v = cons c (some v) below next := by
  rw [insert, replace.eq_def]
  simp

theorem insert_self_cons : (cons c value below next).insert c (d :: ds) v =
    cons c value (below.insert d ds v) next := by
  rw [insert, replace.eq_def]
  simp [insert]

theorem insert_of_gt (h : label < c) : (cons label value below next).insert c cs v =
    cons label value below (next.insert c cs v) := by
  rw [insert, replace.eq_def]
  simp [insert, lt_asymm h, (ne_of_lt h).symm]

/-- On a new path only the key of the path finds something new, if the nodes after it have greater
characters. -/
theorem find?_path (v : α) : ∀ (cs : List Char) (c : Char) (next : Forest α) (d : Char)
    (ds : List Char), (d ≤ c → next.find? d ds = none) →
      (path c cs v next).find? d ds = if d = c ∧ ds = cs then some v else next.find? d ds
  | [], c, next, d, ds, hnext => by
    rw [path]
    rcases lt_trichotomy d c with hlt | rfl | hgt
    · rw [find?_of_lt hlt, if_neg fun h => ne_of_lt hlt h.1, hnext (le_of_lt hlt)]
    · cases ds with
      | nil => rw [find?_self_nil, if_pos ⟨rfl, rfl⟩]
      | cons e es => rw [find?_self_cons, if_neg (by simp), hnext le_rfl, find?]
    · rw [find?_of_gt hgt, if_neg fun h => ne_of_lt hgt h.1.symm]
  | e :: es, c, next, d, ds, hnext => by
    rw [path]
    rcases lt_trichotomy d c with hlt | rfl | hgt
    · rw [find?_of_lt hlt, if_neg fun h => ne_of_lt hlt h.1, hnext (le_of_lt hlt)]
    · rw [hnext le_rfl]
      cases ds with
      | nil => rw [find?_self_nil, if_neg (by simp)]
      | cons e' es' =>
        rw [find?_self_cons, find?_path v es e nil e' es' fun _ => rfl]
        simp [find?]
    · rw [find?_of_gt hgt, if_neg fun h => ne_of_lt hgt h.1.symm]

/-- Setting a value changes what its key finds and nothing else. -/
theorem find?_insert (v : α) : ∀ (f : Forest α) (c : Char) (cs : List Char) (d : Char)
    (ds : List Char),
      (f.insert c cs v).find? d ds = if d = c ∧ ds = cs then some v else f.find? d ds
  | nil, c, cs, d, ds => find?_path v cs c nil d ds fun _ => rfl
  | cons label value below next, c, cs, d, ds => by
    rcases lt_trichotomy c label with hlt | rfl | hgt
    · rw [insert_of_lt hlt]
      exact find?_path v cs c _ d ds fun hd => find?_of_lt (lt_of_le_of_lt hd hlt)
    · rcases lt_trichotomy d c with hlt | rfl | hgt
      · rw [find?_of_lt hlt, if_neg fun h => ne_of_lt hlt h.1]
        cases cs with
        | nil => rw [insert_self_nil, find?_of_lt hlt]
        | cons e es => rw [insert_self_cons, find?_of_lt hlt]
      · -- The keys agree in this character : the rest of them is looked up in the value or below.
        cases cs with
        | nil =>
          rw [insert_self_nil]
          cases ds with
          | nil => rw [find?_self_nil, if_pos ⟨rfl, rfl⟩]
          | cons e es => rw [find?_self_cons, find?_self_cons, if_neg (by simp)]
        | cons e es =>
          rw [insert_self_cons]
          cases ds with
          | nil => rw [find?_self_nil, find?_self_nil, if_neg (by simp)]
          | cons e' es' =>
            rw [find?_self_cons, find?_self_cons, find?_insert v below e es e' es']
            simp
      · rw [find?_of_gt hgt, if_neg fun h => ne_of_lt hgt h.1.symm]
        cases cs with
        | nil => rw [insert_self_nil, find?_of_gt hgt]
        | cons e es => rw [insert_self_cons, find?_of_gt hgt]
    · rw [insert_of_gt hgt]
      rcases lt_trichotomy d label with hlt | rfl | hgt'
      · rw [find?_of_lt hlt, find?_of_lt hlt, if_neg fun h => ne_of_lt (lt_trans hlt hgt) h.1]
      · rw [if_neg fun h => ne_of_lt hgt h.1]
        cases ds with
        | nil => rw [find?_self_nil, find?_self_nil]
        | cons e es => rw [find?_self_cons, find?_self_cons]
      · rw [find?_of_gt hgt', find?_of_gt hgt', find?_insert v next c cs d ds]

/-- The walk that sets a value passes the one that was there. -/
theorem replace_fst (v : α) : ∀ (f : Forest α) (c : Char) (cs : List Char),
    (f.replace c cs v).1 = f.find? c cs
  | nil, c, cs => rfl
  | cons label value below next, c, cs => by
    rw [replace.eq_def, find?.eq_def]
    dsimp only
    split
    · rfl
    · split
      · cases cs with
        | nil => rfl
        | cons d ds => exact replace_fst v below d ds
      · exact replace_fst v next c cs

end Forest

theorem find?_empty (key : String) : (empty : Trie α).find? key = none := by
  unfold find?
  split <;> rfl

/-- Setting a value gives the one that was found before. -/
theorem replace_eq (t : Trie α) (key : String) (v : α) :
    t.replace key v = (t.find? key, t.insert key v) := by
  refine Prod.ext ?_ rfl
  unfold replace find?
  cases key.toList with
  | nil => rfl
  | cons c cs => exact Forest.replace_fst v t.children c cs

/-- A value is set at the root or below it, and a key that had none is counted. -/
theorem insert_eq (t : Trie α) (key : String) (v : α) : t.insert key v =
    ⟨if key.toList = [] then some v else t.value,
      match key.toList with
      | [] => t.children
      | c :: cs => t.children.insert c cs v,
      if (t.find? key).isSome then t.size else t.size + 1⟩ := by
  have hsize (old : Option α) : (if old.isNone then t.size + 1 else t.size) =
      if old.isSome then t.size else t.size + 1 := by cases old <;> rfl
  unfold insert replace find?
  cases key.toList with
  | nil => simp only [hsize, if_pos]
  | cons c cs => simp only [hsize, Forest.replace_fst, Forest.insert, reduceCtorEq, if_false]

/-- Setting a value changes what its key finds and nothing else. -/
theorem find?_insert (t : Trie α) (key : String) (v : α) (key' : String) :
    (t.insert key v).find? key' = if key' = key then some v else t.find? key' := by
  have hkey : key' = key ↔ key'.toList = key.toList := String.toList_inj.symm
  unfold find?
  rw [insert_eq]
  cases hk : key.toList with
  | nil => cases hk' : key'.toList <;> simp [hkey, hk, hk']
  | cons c cs =>
    cases hk' : key'.toList with
    | nil => simp [hkey, hk, hk']
    | cons d ds => simp [hkey, hk, hk', Forest.find?_insert]

/-- A key counts when it gets its first value. -/
theorem size_insert (t : Trie α) (key : String) (v : α) :
    (t.insert key v).size = if (t.find? key).isSome then t.size else t.size + 1 := by
  rw [insert_eq]

end Trie

/-! ## The last value of a key -/

/-- The last of the entries with the given key has the given value. -/
def LastOf {α : Type} (entries : List (String × α)) (key : String) (v : α) : Prop :=
  ∃ earlier later, entries = earlier ++ (key, v) :: later ∧ ∀ e ∈ later, e.1 ≠ key

variable {α : Type} {entries : List (String × α)} {key key' : String} {v v' : α}

theorem not_lastOf_nil : ¬LastOf [] key v := by
  rintro ⟨earlier, later, h, -⟩
  simp at h

/-- A new entry is the last of its key and leaves the other keys alone. -/
theorem lastOf_append_singleton : LastOf (entries ++ [(key', v')]) key v ↔
    (key' = key ∧ v' = v) ∨ (key' ≠ key ∧ LastOf entries key v) := by
  constructor
  · rintro ⟨earlier, later, h, hlater⟩
    rcases List.eq_nil_or_concat later with rfl | ⟨later, e, rfl⟩
    · obtain ⟨-, he⟩ := List.append_inj' h rfl
      obtain ⟨rfl, rfl⟩ := Prod.mk.inj (List.singleton_inj.1 he)
      exact Or.inl ⟨rfl, rfl⟩
    · have h' : entries ++ [(key', v')] = (earlier ++ (key, v) :: later) ++ [e] := by simpa using h
      obtain ⟨rfl, he⟩ := List.append_inj' h' rfl
      obtain rfl := List.singleton_inj.1 he
      exact Or.inr ⟨hlater (key', v') (by simp), earlier, later, rfl,
        fun e he => hlater e (by simp [he])⟩
  · rintro (⟨rfl, rfl⟩ | ⟨hne, earlier, later, rfl, hlater⟩)
    · exact ⟨entries, [], rfl, by simp⟩
    · refine ⟨earlier, later ++ [(key', v')], by simp, fun e he => ?_⟩
      rcases List.mem_append.1 he with he | he
      · exact hlater e he
      · rw [List.mem_singleton.1 he]
        exact hne

/-- Entries of other keys may be left out. -/
theorem lastOf_filter (p : String → Bool) : LastOf (entries.filter fun e => p e.1) key v ↔
    p key = true ∧ LastOf entries key v := by
  induction entries using List.reverseRecOn with
  | nil => simp [not_lastOf_nil]
  | append_singleton entries e ih =>
    obtain ⟨key', v'⟩ := e
    rw [List.filter_append, lastOf_append_singleton]
    by_cases hp : p key' = true
    · have hlast : [(key', v')].filter (fun e => p e.1) = [(key', v')] := by simp [hp]
      rw [hlast, lastOf_append_singleton, ih]
      by_cases h : key' = key
      · simp [← h, hp]
      · simp [h]
    · have hlast : [(key', v')].filter (fun e => p e.1) = [] := by simp [hp]
      rw [hlast, List.append_nil, ih]
      by_cases h : key' = key
      · simp [← h, hp]
      · simp [h]

/-- A key has a last value if it occurs. -/
theorem exists_lastOf : (∃ v, LastOf entries key v) ↔ key ∈ entries.map Prod.fst := by
  induction entries using List.reverseRecOn with
  | nil => simp [not_lastOf_nil]
  | append_singleton entries e ih =>
    obtain ⟨key', v'⟩ := e
    simp only [lastOf_append_singleton, List.map_append, List.map_singleton, List.mem_append,
      List.mem_singleton, ← ih]
    by_cases h : key' = key
    · simp [h]
    · simp [h, Ne.symm h]

/-! ## Histories -/

namespace Trie

theorem ofList_append_singleton (entries : List (String × α)) (key : String) (v : α) :
    ofList (entries ++ [(key, v)]) = (ofList entries).insert key v := by
  rw [ofList, List.foldl_append]
  rfl

/-- A key finds the last value that was set under it. -/
theorem find?_ofList (entries : List (String × α)) (key : String) (v : α) :
    (ofList entries).find? key = some v ↔ LastOf entries key v := by
  induction entries using List.reverseRecOn with
  | nil => simp [ofList, find?_empty, not_lastOf_nil]
  | append_singleton entries e ih =>
    obtain ⟨key', v'⟩ := e
    rw [ofList_append_singleton, find?_insert, lastOf_append_singleton, ← ih]
    by_cases h : key = key'
    · simp [h]
    · simp [h, Ne.symm h]

/-- A key finds nothing if it was not set. -/
theorem find?_ofList_eq_none (entries : List (String × α)) (key : String) :
    (ofList entries).find? key = none ↔ key ∉ entries.map Prod.fst := by
  rw [← exists_lastOf, Option.eq_none_iff_forall_ne_some]
  simp only [ne_eq, find?_ofList, not_exists]

/-- Every key that was set counts once. -/
theorem size_ofList (entries : List (String × α)) :
    (ofList entries).size = (entries.map Prod.fst).toFinset.card := by
  induction entries using List.reverseRecOn with
  | nil => rfl
  | append_singleton entries e ih =>
    obtain ⟨key, v⟩ := e
    have hkeys : ((entries ++ [(key, v)]).map Prod.fst).toFinset =
        Insert.insert key (entries.map Prod.fst).toFinset := by
      ext key'
      simp
    rw [ofList_append_singleton, size_insert, ih, hkeys]
    by_cases hkey : key ∈ entries.map Prod.fst
    · have hfound := mt (find?_ofList_eq_none entries key).1 (not_not.2 hkey)
      rw [if_pos (Option.isSome_iff_ne_none.2 hfound),
        Finset.insert_eq_of_mem (List.mem_toFinset.2 hkey)]
    · have hnone := (find?_ofList_eq_none entries key).2 hkey
      rw [hnone, Finset.card_insert_of_notMem (mt List.mem_toFinset.1 hkey)]
      rfl

/-- A history goes on where the one before it has ended. -/
theorem replaceAll_append : ∀ (es fs : List (String × α)) (t : Trie α),
    replaceAll (es ++ fs) t =
      ((replaceAll es t).1 ++ (replaceAll fs (replaceAll es t).2).1,
        (replaceAll fs (replaceAll es t).2).2)
  | [], _, _ => rfl
  | (key, v) :: es, fs, t => by
    simp only [List.cons_append, replaceAll, replaceAll_append es fs]

theorem length_replaceAll : ∀ (entries : List (String × α)) (t : Trie α),
    (replaceAll entries t).1.length = entries.length
  | [], _ => rfl
  | (key, v) :: entries, t => by
    simp only [replaceAll, List.length_cons, length_replaceAll entries]

/-- In the end a history has set its values. -/
theorem replaceAll_snd : ∀ (entries : List (String × α)) (t : Trie α),
    (replaceAll entries t).2 = entries.foldl (fun t e => t.insert e.1 e.2) t
  | [], _ => rfl
  | (key, v) :: entries, t => by
    simp only [replaceAll, replaceAll_snd entries, replace_eq, List.foldl_cons]

/-- Each setting of a history gives what its key has found after the settings before it. -/
theorem replaceAll_fst (before after : List (String × α)) (key : String) (v : α) :
    (replaceAll (before ++ (key, v) :: after) empty).1[before.length]? =
      some ((ofList before).find? key) := by
  have hlength := length_replaceAll before empty
  have hsnd : (replaceAll before empty).2 = ofList before := replaceAll_snd before empty
  simp only [replaceAll_append, replaceAll, hsnd, replace_eq]
  rw [List.getElem?_append_right (Nat.le_of_eq hlength), hlength, Nat.sub_self]
  rfl

/-- A new map on which values are set in any order and under any keys. Each setting gives the last
value that was set under its key before, if there is one. In the end each key finds the last value
that was set under it, if there is one, and is contained if it finds one. The size counts the keys
that were set, and the map is empty if none was. -/
theorem replaceAll_history :
    (∀ (before after : List (String × α)) (key : String) (v : α),
      ∃ old, (replaceAll (before ++ (key, v) :: after) empty).1[before.length]? = some old ∧
        (∀ w, old = some w ↔ LastOf before key w) ∧
        (old = none ↔ key ∉ before.map Prod.fst)) ∧
    ∀ entries : List (String × α),
      let run := replaceAll entries empty
      run.1.length = entries.length ∧
      (∀ key,
        (∀ w, run.2.find? key = some w ↔ LastOf entries key w) ∧
        (run.2.find? key = none ↔ key ∉ entries.map Prod.fst) ∧
        run.2.contains key = (run.2.find? key).isSome) ∧
      run.2.size = (entries.map Prod.fst).toFinset.card ∧
      (run.2.isEmpty = true ↔ entries = []) := by
  refine ⟨fun before after key v => ?_, fun entries => ?_⟩
  · exact ⟨_, replaceAll_fst before after key v, find?_ofList before key,
      find?_ofList_eq_none before key⟩
  · have hrun : (replaceAll entries empty).2 = ofList entries := replaceAll_snd entries empty
    dsimp only
    rw [hrun]
    refine ⟨length_replaceAll entries empty, fun key => ⟨find?_ofList entries key,
      find?_ofList_eq_none entries key, rfl⟩, size_ofList entries, ?_⟩
    rw [isEmpty, decide_eq_true_eq, size_ofList, Finset.card_eq_zero, List.toFinset_eq_empty_iff,
      List.map_eq_nil_iff]

end Trie

end TagSelect
