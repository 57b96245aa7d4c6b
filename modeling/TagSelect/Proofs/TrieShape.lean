import Mathlib.Data.List.Infix
import TagSelect.Proofs.TrieListing

/-!
# The shape of a trie

A trie has no other nodes than its keys need, so that its shape says no more than which keys it has
and what their values are.

`Trie.nodes` lists the nodes of a trie, each with the characters that lead to it and its value.
After values were set the nodes are the root and the prefixes of the keys (`Trie.mem_paths_ofList`).

Three things are kept when a value is set (`Trie.Canonical.insert`). The labels of siblings
increase. No branch is without a value (`Forest.Populated`), since a new path ends in the value for
which it was made. And the size is the number of nodes with a value, for setting a value adds one
and takes away the one that was there (`Forest.valued_insert`). Nothing else can be said of the
shape : two tries for which these hold are equal if every key finds the same in both
(`Trie.Canonical.eq_of_find?_eq`).

So a history of settings leaves no trace but its last values. `Trie.shape_of_history` collects this.
-/

namespace TagSelect

namespace Trie

variable {α : Type}

/-! ## Nodes -/

namespace Forest

/-- The nodes of a forest, each with the characters that lead to it and its value. -/
def nodes : Forest α → List (List Char × Option α)
  | nil => []
  | cons label value below next =>
    ([label], value) :: (below.nodes.map fun n => (label :: n.1, n.2)) ++ next.nodes

/-- The characters that lead to the nodes of a forest. -/
def paths (f : Forest α) : List (List Char) :=
  f.nodes.map Prod.fst

variable {c label : Char} {cs p : List Char} {value o : Option α} {below next f : Forest α} {v : α}

theorem mem_nodes_cons : (p, o) ∈ (cons label value below next).nodes ↔
    (p = [label] ∧ o = value) ∨ (∃ q, p = label :: q ∧ (q, o) ∈ below.nodes) ∨
      (p, o) ∈ next.nodes := by
  simp only [nodes, List.cons_append, List.mem_cons, List.mem_append, List.mem_map, Prod.mk.injEq,
    Prod.exists]
  constructor
  · rintro (h | ⟨q, o, hq, rfl, rfl⟩ | h)
    · exact .inl h
    · exact .inr (.inl ⟨q, rfl, hq⟩)
    · exact .inr (.inr h)
  · rintro (h | ⟨q, rfl, hq⟩ | h)
    · exact .inl h
    · exact .inr (.inl ⟨q, o, hq, rfl, rfl⟩)
    · exact .inr (.inr h)

theorem paths_cons : (cons label value below next).paths =
    [label] :: (below.paths.map (label :: ·) ++ next.paths) := by
  simp [paths, nodes]

theorem mem_paths_cons : p ∈ (cons label value below next).paths ↔
    p = [label] ∨ (∃ q ∈ below.paths, p = label :: q) ∨ p ∈ next.paths := by
  simp only [paths_cons, List.mem_cons, List.mem_append, List.mem_map, eq_comm (a := p)]

/-- A path begins with a label. -/
theorem exists_cons_of_mem_paths : ∀ {f : Forest α}, p ∈ f.paths → ∃ c ∈ f.labels, ∃ q, p = c :: q
  | cons label value below next, h => by
    rcases mem_paths_cons.1 h with rfl | ⟨q, -, rfl⟩ | h
    · exact ⟨label, List.mem_cons_self, [], rfl⟩
    · exact ⟨label, List.mem_cons_self, q, rfl⟩
    · obtain ⟨c, hc, q, rfl⟩ := exists_cons_of_mem_paths h
      exact ⟨c, List.mem_cons_of_mem _ hc, q, rfl⟩

/-- In a forest with increasing labels no two nodes have the same path. -/
theorem Increasing.nodup_paths : ∀ {f : Forest α}, f.Increasing → f.paths.Nodup
  | nil, _ => List.nodup_nil
  | cons label value below next, ⟨hlt, hbelow, hnext⟩ => by
    have hne : ∀ q, label :: q ∉ next.paths := by
      intro q hq
      obtain ⟨c, hc, q', heq⟩ := exists_cons_of_mem_paths hq
      exact ne_of_lt (hlt c hc) (List.cons.inj heq).1
    rw [paths_cons, List.nodup_cons, List.nodup_append]
    refine ⟨?_, hbelow.nodup_paths.map fun _ _ h => (List.cons.inj h).2, hnext.nodup_paths, ?_⟩
    · rw [List.mem_append, List.mem_map]
      rintro (⟨q, hq, heq⟩ | h)
      · obtain ⟨c, -, q', rfl⟩ := exists_cons_of_mem_paths hq
        cases heq
      · exact hne [] h
    · intro p hp p' hp' heq
      obtain ⟨q, -, rfl⟩ := List.mem_map.1 hp
      exact hne q (heq ▸ hp')

/-! ## The nodes that a key needs -/

/-- The prefixes of a key go through its first character. -/
theorem prefix_cons_iff_of_ne_nil : (p ≠ [] ∧ p <+: c :: cs) ↔
    p = [c] ∨ ∃ q, (q ≠ [] ∧ q <+: cs) ∧ p = c :: q := by
  cases p with
  | nil => simp
  | cons d q =>
    rw [List.cons_prefix_cons]
    by_cases hq : q = []
    · simp [hq]
    · simp [hq, and_comm]

/-- A new path has the prefixes of its key as nodes. -/
theorem mem_paths_path (v : α) : ∀ (cs : List Char) (c : Char) (next : Forest α) (p : List Char),
    p ∈ (path c cs v next).paths ↔ (p ≠ [] ∧ p <+: c :: cs) ∨ p ∈ next.paths
  | [], c, next, p => by
    rw [path, mem_paths_cons, prefix_cons_iff_of_ne_nil]
    simp [paths, nodes]
  | d :: ds, c, next, p => by
    rw [path, mem_paths_cons, prefix_cons_iff_of_ne_nil]
    simp only [mem_paths_path v ds d nil]
    simp [paths, nodes, or_assoc]

/-- Setting a value adds the prefixes of its key. -/
theorem mem_paths_insert (v : α) : ∀ (f : Forest α) (c : Char) (cs p : List Char),
    p ∈ (f.insert c cs v).paths ↔ (p ≠ [] ∧ p <+: c :: cs) ∨ p ∈ f.paths
  | nil, c, cs, p => mem_paths_path v cs c nil p
  | cons label value below next, c, cs, p => by
    rcases lt_trichotomy c label with hlt | rfl | hgt
    · rw [insert_of_lt hlt, mem_paths_path]
    · rw [prefix_cons_iff_of_ne_nil]
      cases cs with
      | nil => simp [insert_self_nil, mem_paths_cons]
      | cons d ds =>
        simp only [insert_self_cons, mem_paths_cons, mem_paths_insert v below d ds, or_and_right,
          exists_or]
        grind
    · rw [insert_of_gt hgt, mem_paths_cons, mem_paths_cons, mem_paths_insert v next c cs p]
      grind

/-! ## Branches with values -/

/-- Every node has a value or nodes below it. -/
def Populated : Forest α → Prop
  | nil => True
  | cons _ value below next => (value ≠ none ∨ below ≠ nil) ∧ below.Populated ∧ next.Populated

theorem path_ne_nil : path c cs v next ≠ nil := by
  cases cs <;> simp [path]

theorem insert_ne_nil : f.insert c cs v ≠ nil := by
  intro h
  have hmem := (mem_paths_insert v f c cs [c]).2 (.inl ⟨by simp, by simp⟩)
  rw [h] at hmem
  cases hmem

theorem populated_path (v : α) : ∀ (cs : List Char) (c : Char) {next : Forest α},
    next.Populated → (path c cs v next).Populated
  | [], _, _, hnext => ⟨.inl (by simp), trivial, hnext⟩
  | d :: ds, _, _, hnext => ⟨.inr path_ne_nil, populated_path v ds d trivial, hnext⟩

theorem Populated.insert (v : α) : ∀ {f : Forest α}, f.Populated → ∀ (c : Char) (cs : List Char),
    (f.insert c cs v).Populated
  | nil, _, c, cs => populated_path v cs c trivial
  | cons label value below next, ⟨hnode, hbelow, hnext⟩, c, cs => by
    rcases lt_trichotomy c label with hlt | rfl | hgt
    · rw [insert_of_lt hlt]
      exact populated_path v cs c ⟨hnode, hbelow, hnext⟩
    · cases cs with
      | nil => exact insert_self_nil ▸ ⟨.inl (by simp), hbelow, hnext⟩
      | cons d ds => exact insert_self_cons ▸ ⟨.inr insert_ne_nil, hbelow.insert v d ds, hnext⟩
    · rw [insert_of_gt hgt]
      exact ⟨hnode, hbelow, hnext.insert v c cs⟩

/-- At or below every node of a populated forest there is a node with a value. -/
theorem Populated.exists_mem_nodes : ∀ {f : Forest α}, f.Populated → ∀ p ∈ f.paths,
    ∃ q w, (q, some w) ∈ f.nodes ∧ p <+: q
  | cons label value below next, ⟨hnode, hbelow, hnext⟩, p, hp => by
    have hlift : ∀ q ∈ below.paths, ∃ q' w, (q', some w) ∈ (cons label value below next).nodes ∧
        label :: q <+: q' := by
      intro q hq
      obtain ⟨q', w, hmem, hprefix⟩ := hbelow.exists_mem_nodes q hq
      exact ⟨label :: q', w, mem_nodes_cons.2 (.inr (.inl ⟨q', rfl, hmem⟩)),
        List.cons_prefix_cons.2 ⟨rfl, hprefix⟩⟩
    rcases mem_paths_cons.1 hp with rfl | ⟨q, hq, rfl⟩ | hp
    · cases value with
      | some w => exact ⟨[label], w, mem_nodes_cons.2 (.inl ⟨rfl, rfl⟩), List.prefix_rfl⟩
      | none =>
        -- Without a value there are nodes below, and the first of them is at or above a value.
        cases below with
        | nil => simp at hnode
        | cons d value' below' next' =>
          obtain ⟨q', w, hmem, hprefix⟩ := hlift [d] (mem_paths_cons.2 (.inl rfl))
          exact ⟨q', w, hmem, (List.prefix_append [label] [d]).trans hprefix⟩
    · exact hlift q hq
    · obtain ⟨q, w, hmem, hprefix⟩ := hnext.exists_mem_nodes p hp
      exact ⟨q, w, mem_nodes_cons.2 (.inr (.inr hmem)), hprefix⟩

/-- The first label of a populated forest begins a key that finds a value. -/
theorem Populated.exists_find? : ∀ {f : Forest α}, f.Populated → ∀ c ∈ f.labels.head?,
    ∃ cs v, f.find? c cs = some v
  | cons label value below next, ⟨hnode, hbelow, _⟩, c, hc => by
    obtain rfl : label = c := Option.some.inj hc
    cases value with
    | some v => exact ⟨[], v, find?_self_nil⟩
    | none =>
      cases below with
      | nil => simp at hnode
      | cons d value' below' next' =>
        obtain ⟨ds, v, hfind⟩ := hbelow.exists_find? d rfl
        exact ⟨d :: ds, v, find?_self_cons.trans hfind⟩

/-- What stands after a node finds nothing for keys that do not come after its label. -/
theorem Increasing.find?_next_eq_none (h : (cons label value below next).Increasing)
    (hc : ¬label < c) : next.find? c cs = none := by
  refine Option.eq_none_iff_forall_ne_some.2 fun v hv => hc (h.1 c ?_)
  exact mem_labels_of_find? hv

/-- Populated forests with increasing labels are equal if every key finds the same in both. -/
theorem Populated.eq_of_find?_eq : ∀ {f g : Forest α}, f.Populated → g.Populated → f.Increasing →
    g.Increasing → (∀ c cs, f.find? c cs = g.find? c cs) → f = g
  | nil, nil, _, _, _, _, _ => rfl
  | nil, cons label value below next, _, hg, _, _, h => by
    obtain ⟨cs, v, hfind⟩ := hg.exists_find? label rfl
    cases (h label cs).trans hfind
  | cons label value below next, nil, hf, _, _, _, h => by
    obtain ⟨cs, v, hfind⟩ := hf.exists_find? label rfl
    cases (h label cs).symm.trans hfind
  | cons label value below next, cons label' value' below' next', hf, hg, hf', hg', h => by
    -- A first label that is less than the other one begins a key that is not found there.
    have hlabel : label = label' := by
      rcases lt_trichotomy label label' with hlt | heq | hgt
      · obtain ⟨cs, v, hfind⟩ := hf.exists_find? label rfl
        cases (find?_of_lt hlt).symm.trans ((h label cs).symm.trans hfind)
      · exact heq
      · obtain ⟨cs, v, hfind⟩ := hg.exists_find? label' rfl
        cases (find?_of_lt hgt).symm.trans ((h label' cs).trans hfind)
    subst hlabel
    have hvalue : value = value' := by
      simpa only [find?_self_nil] using h label []
    have hbelow : below = below' :=
      hf.2.1.eq_of_find?_eq hg.2.1 hf'.2.1 hg'.2.1 fun d ds => by
        simpa only [find?_self_cons] using h label (d :: ds)
    have hnext : next = next' := by
      refine hf.2.2.eq_of_find?_eq hg.2.2 hf'.2.2 hg'.2.2 fun c cs => ?_
      by_cases hc : label < c
      · simpa only [find?_of_gt hc] using h c cs
      · rw [hf'.find?_next_eq_none hc, hg'.find?_next_eq_none hc]
    rw [hvalue, hbelow, hnext]

/-! ## Counting values -/

/-- The number of nodes with a value. -/
def valued (f : Forest α) : Nat :=
  f.nodes.countP fun n => n.2.isSome

theorem valued_cons : (cons label value below next).valued =
    value.toList.length + below.valued + next.valued := by
  have hbelow : (below.nodes.map fun n => (label :: n.1, n.2)).countP (fun n => n.2.isSome) =
      below.valued := List.countP_map
  rw [valued, nodes, List.cons_append, List.countP_cons, List.countP_append, hbelow, ← valued]
  cases value with
  | none => simp
  | some w =>
    simp only [Option.isSome_some, if_true, Option.toList_some, List.length_singleton]
    omega

theorem valued_path (v : α) : ∀ (cs : List Char) (c : Char) (next : Forest α),
    (path c cs v next).valued = next.valued + 1
  | [], c, next => by
    rw [path, valued_cons]
    exact Nat.add_comm 1 _
  | d :: ds, c, next => by
    rw [path, valued_cons, valued_path v ds d nil]
    exact Nat.add_comm 1 _

/-- Setting a value adds one, and takes away the one that the key had. -/
theorem valued_insert (v : α) : ∀ (f : Forest α) (c : Char) (cs : List Char),
    (f.insert c cs v).valued + (f.find? c cs).toList.length = f.valued + 1
  | nil, c, cs => valued_path v cs c nil
  | cons label value below next, c, cs => by
    rcases lt_trichotomy c label with hlt | rfl | hgt
    · rw [insert_of_lt hlt, find?_of_lt hlt, valued_path]
      rfl
    · cases cs with
      | nil =>
        rw [insert_self_nil, find?_self_nil, valued_cons, valued_cons, Option.toList_some,
          List.length_singleton]
        omega
      | cons d ds =>
        have := valued_insert v below d ds
        rw [insert_self_cons, find?_self_cons, valued_cons, valued_cons]
        omega
    · have := valued_insert v next c cs
      rw [insert_of_gt hgt, find?_of_gt hgt, valued_cons, valued_cons]
      omega

end Forest

/-! ## Tries -/

/-- The nodes of a trie, each with the characters that lead to it and its value. No characters lead
to the root, which is always there. -/
def nodes (t : Trie α) : List (List Char × Option α) :=
  ([], t.value) :: t.children.nodes

/-- The characters that lead to the nodes of a trie. -/
def paths (t : Trie α) : List (List Char) :=
  t.nodes.map Prod.fst

/-- What is kept when values are set : at every node the labels increase, every branch has a value,
and the size is the number of nodes with a value. -/
structure Canonical (t : Trie α) : Prop where
  increasing : t.children.Increasing
  populated : t.children.Populated
  size_eq : t.size = t.nodes.countP fun n => n.2.isSome

theorem countP_nodes (t : Trie α) :
    t.nodes.countP (fun n => n.2.isSome) = t.value.toList.length + t.children.valued := by
  rw [nodes, List.countP_cons, ← Forest.valued]
  cases t.value with
  | none => simp
  | some w => exact Nat.add_comm _ 1

theorem countP_nodes_insert (t : Trie α) (key : String) (v : α) :
    (t.insert key v).nodes.countP (fun n => n.2.isSome) + (t.find? key).toList.length =
      t.nodes.countP (fun n => n.2.isSome) + 1 := by
  rw [countP_nodes, countP_nodes, insert_eq]
  unfold find?
  cases key.toList with
  | nil =>
    simp only [if_pos, Option.toList_some, List.length_singleton]
    omega
  | cons c cs =>
    have := t.children.valued_insert v c cs
    simp only [reduceCtorEq, if_false]
    omega

theorem canonical_empty : (empty : Trie α).Canonical :=
  ⟨trivial, trivial, rfl⟩

/-- Setting a value keeps the shape. -/
theorem Canonical.insert {t : Trie α} (h : t.Canonical) (key : String) (v : α) :
    (t.insert key v).Canonical := by
  refine ⟨increasing_children_insert h.increasing key v, ?_, ?_⟩
  · rw [insert_eq]
    cases key.toList with
    | nil => exact h.populated
    | cons c cs => exact h.populated.insert v c cs
  · have hcount := t.countP_nodes_insert key v
    rw [size_insert, h.size_eq]
    cases hfind : t.find? key <;> simp [hfind] at hcount ⊢ <;> omega

theorem canonical_ofList (entries : List (String × α)) : (ofList entries).Canonical := by
  induction entries using List.reverseRecOn with
  | nil => exact canonical_empty
  | append_singleton entries e ih =>
    rw [ofList_append_singleton]
    exact ih.insert e.1 e.2

/-- Tries of this shape are equal if every key finds the same in both. -/
theorem Canonical.eq_of_find?_eq {t u : Trie α} (ht : t.Canonical) (hu : u.Canonical)
    (h : ∀ key, t.find? key = u.find? key) : t = u := by
  have hvalue : t.value = u.value := h ""
  have hchildren : t.children = u.children := by
    refine ht.populated.eq_of_find?_eq hu.populated ht.increasing hu.increasing fun c cs => ?_
    have hkey := h (String.ofList (c :: cs))
    rwa [find?, find?, String.toList_ofList] at hkey
  have hsize : t.size = u.size := by
    rw [ht.size_eq, hu.size_eq, nodes, nodes, hvalue, hchildren]
  obtain ⟨_, _, _⟩ := t
  rw [mk.injEq]
  exact ⟨hvalue, hchildren, hsize⟩

theorem paths_eq (t : Trie α) : t.paths = [] :: t.children.paths := rfl

theorem Canonical.nodup_paths {t : Trie α} (h : t.Canonical) : t.paths.Nodup := by
  refine List.nodup_cons.2 ⟨fun hmem => ?_, h.increasing.nodup_paths⟩
  obtain ⟨c, -, q, hq⟩ := Forest.exists_cons_of_mem_paths hmem
  cases hq

/-- At or below every node but the root there is a node with a value. -/
theorem Canonical.exists_mem_nodes {t : Trie α} (h : t.Canonical) {p : List Char} (hp : p ∈ t.paths)
    (hne : p ≠ []) : ∃ q w, (q, some w) ∈ t.nodes ∧ p <+: q := by
  rw [paths_eq, List.mem_cons, or_iff_right hne] at hp
  obtain ⟨q, w, hmem, hprefix⟩ := h.populated.exists_mem_nodes p hp
  exact ⟨q, w, List.mem_cons_of_mem _ hmem, hprefix⟩

/-- Setting a value adds the nodes that its key needs. -/
theorem mem_paths_insert (t : Trie α) (key : String) (v : α) (p : List Char) :
    p ∈ (t.insert key v).paths ↔ p <+: key.toList ∨ p ∈ t.paths := by
  rw [paths_eq, paths_eq, List.mem_cons, List.mem_cons, insert_eq]
  cases key.toList with
  | nil =>
    rw [List.prefix_nil]
    simp
  | cons c cs =>
    simp only [Forest.mem_paths_insert]
    by_cases hp : p = []
    · simp [hp]
    · simp [hp]

/-- The nodes of a history are the root and the prefixes of the keys. -/
theorem mem_paths_ofList (entries : List (String × α)) (p : List Char) :
    p ∈ (ofList entries).paths ↔ p = [] ∨ ∃ e ∈ entries, p <+: e.1.toList := by
  induction entries using List.reverseRecOn with
  | nil => simp [ofList, empty, paths_eq, Forest.paths, Forest.nodes]
  | append_singleton entries e ih =>
    rw [ofList_append_singleton, mem_paths_insert, ih]
    simp only [List.mem_append, List.mem_singleton, or_and_right, exists_or, exists_eq_left]
    grind

/-- Let values be set in any order and under any keys on a new map. The size is then the number of
nodes that have a value. Every node but the root has a value itself or is above a node with one. The
nodes are the root and the prefixes of the keys, each of them once. Another history gives the same
map, node by node, if and only if it has the same last values of all keys. -/
theorem shape_of_history (entries : List (String × α)) :
    let t := (replaceAll entries empty).2
    t = ofList entries ∧
      t.size = t.nodes.countP (fun n => n.2.isSome) ∧
      (∀ p o, (p, o) ∈ t.nodes → p ≠ [] → ∃ q w, (q, some w) ∈ t.nodes ∧ p <+: q) ∧
      (∀ p, (∃ o, (p, o) ∈ t.nodes) ↔ p = [] ∨ ∃ e ∈ entries, p <+: e.1.toList) ∧
      (t.nodes.map Prod.fst).Nodup ∧
      ∀ entries' : List (String × α), (replaceAll entries' empty).2 = t ↔
        ∀ key v, LastOf entries' key v ↔ LastOf entries key v := by
  have hrun : ∀ es : List (String × α), (replaceAll es empty).2 = ofList es :=
    fun es => replaceAll_snd es empty
  have hshape := canonical_ofList entries
  dsimp only
  simp only [hrun]
  refine ⟨trivial, hshape.size_eq, fun p o hp hne => ?_, fun p => ?_, hshape.nodup_paths,
    fun entries' => ⟨fun h key v => ?_, fun h => ?_⟩⟩
  · exact hshape.exists_mem_nodes (List.mem_map_of_mem hp) hne
  · rw [← mem_paths_ofList, paths, List.mem_map]
    simp
  · rw [← find?_ofList, ← find?_ofList, h]
  · refine (canonical_ofList entries').eq_of_find?_eq hshape fun key => Option.ext fun v => ?_
    rw [find?_ofList, find?_ofList, h]

/-- Two keys that begin with the same characters, and one of them set twice. The node of `tag` has
no value and is above one. Without the value that was replaced the map is the same. -/
theorem shape_of_history_overlapping :
    let entries := [("tag1", 1), ("ta", 7), ("tag1", 2)]
    let t := (replaceAll entries empty).2
    (['t', 'a', 'g'], none) ∈ t.nodes ∧
      (∃ q w, (q, some w) ∈ t.nodes ∧ ['t', 'a', 'g'] <+: q) ∧
      (replaceAll [("ta", 7), ("tag1", 2)] empty).2 = t := by
  intro entries t
  obtain ⟨-, -, hbelow, -, -, hsame⟩ := shape_of_history entries
  have hmem : (['t', 'a', 'g'], none) ∈ t.nodes := by decide +kernel
  refine ⟨hmem, hbelow _ _ hmem (by simp), (hsame _).2 fun key v => ?_⟩
  have hlong : entries = (([] ++ [("tag1", 1)]) ++ [("ta", 7)]) ++ [("tag1", 2)] := rfl
  have hshort : [("ta", 7), ("tag1", 2)] = ([] ++ [("ta", 7)]) ++ [("tag1", 2)] := rfl
  rw [hlong, hshort]
  simp only [lastOf_append_singleton]
  by_cases hkey : "tag1" = key
  · simp [hkey]
  · simp [hkey]

end Trie

end TagSelect
