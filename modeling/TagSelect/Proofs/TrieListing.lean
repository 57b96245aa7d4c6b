import Mathlib.Data.List.Lex
import TagSelect.Proofs.TrieMap

/-!
# Listing a trie

A trie lists each key that finds a value, with this value, and the keys increase.

Both rest on the order of siblings. In a forest of which the labels increase at every node
(`Forest.Increasing`), a key that begins with a label is found below this label or not at all, and
all that stands after a node begins with a greater label. Setting a value keeps the order
(`Forest.Increasing.insert`) : a new path goes in front of the first greater label. So the list of a
history of settings has the last value of each key (`Trie.mem_toList_ofList`) in the order of the
keys (`Trie.pairwise_toList_ofList`), and none of them twice : it says as much as the history itself
(`Trie.lastOf_toList_ofList`).
-/

namespace TagSelect

namespace Trie

variable {α : Type}

namespace Forest

/-- The labels of siblings. -/
def labels : Forest α → List Char
  | nil => []
  | cons label _ _ next => label :: next.labels

/-- At every node the labels of siblings increase. -/
def Increasing : Forest α → Prop
  | nil => True
  | cons label _ below next => (∀ c ∈ next.labels, label < c) ∧ below.Increasing ∧ next.Increasing

variable {c label : Char} {cs : List Char} {value : Option α} {below next f : Forest α} {v : α}

/-! ## Setting a value keeps the order -/

theorem labels_path : (path c cs v next).labels = c :: next.labels := by
  cases cs <;> rfl

theorem increasing_path (v : α) : ∀ (cs : List Char) (c : Char) {next : Forest α},
    (∀ d ∈ next.labels, c < d) → next.Increasing → (path c cs v next).Increasing
  | [], _, _, hlt, hnext => ⟨hlt, trivial, hnext⟩
  | d :: ds, _, _, hlt, hnext => ⟨hlt, increasing_path v ds d (by simp [labels]) trivial, hnext⟩

/-- The labels are those from before and the first character of the key. -/
theorem mem_labels_insert (v : α) : ∀ (f : Forest α) (c : Char) (cs : List Char) (d : Char),
    d ∈ (f.insert c cs v).labels ↔ d = c ∨ d ∈ f.labels
  | nil, c, cs, d => by simp [insert_nil, labels_path, labels]
  | cons label value below next, c, cs, d => by
    rcases lt_trichotomy c label with hlt | rfl | hgt
    · simp [insert_of_lt hlt, labels_path]
    · cases cs with
      | nil => simp [insert_self_nil, labels]
      | cons e es => simp [insert_self_cons, labels]
    · simp only [insert_of_gt hgt, labels, List.mem_cons, mem_labels_insert v next]
      exact or_left_comm

theorem Increasing.insert (v : α) : ∀ {f : Forest α}, f.Increasing → ∀ (c : Char) (cs : List Char),
    (f.insert c cs v).Increasing
  | nil, _, c, cs => increasing_path v cs c (by simp [labels]) trivial
  | cons label value below next, ⟨hlt, hbelow, hnext⟩, c, cs => by
    rcases lt_trichotomy c label with hc | rfl | hc
    · rw [insert_of_lt hc]
      refine increasing_path v cs c (fun d hd => ?_) ⟨hlt, hbelow, hnext⟩
      rcases List.mem_cons.1 hd with rfl | hd
      · exact hc
      · exact lt_trans hc (hlt d hd)
    · cases cs with
      | nil => exact insert_self_nil ▸ ⟨hlt, hbelow, hnext⟩
      | cons d ds => exact insert_self_cons ▸ ⟨hlt, hbelow.insert v d ds, hnext⟩
    · rw [insert_of_gt hc]
      refine ⟨fun d hd => ?_, hbelow, hnext.insert v c cs⟩
      rcases (mem_labels_insert v next c cs d).1 hd with rfl | hd
      · exact hc
      · exact hlt d hd

/-! ## Entries are what is found -/

/-- The first character of a key that finds a value is a label. -/
theorem mem_labels_of_find? : ∀ {f : Forest α}, f.find? c cs = some v → c ∈ f.labels
  | cons label value below next, h => by
    rcases lt_trichotomy c label with hlt | rfl | hgt
    · simp [find?_of_lt hlt] at h
    · exact List.mem_cons_self
    · exact List.mem_cons_of_mem _ (mem_labels_of_find? (find?_of_gt hgt ▸ h))

/-- The entries of a forest are the keys that find a value, each after the characters that lead to
the forest. -/
theorem mem_entries : ∀ {f : Forest α}, f.Increasing → ∀ (lead key : List Char) (v : α),
    (key, v) ∈ f.entries lead ↔ ∃ c cs, key = lead ++ c :: cs ∧ f.find? c cs = some v
  | nil, _, lead, key, v => by simp [entries, find?]
  | cons label value below next, ⟨hlt, hbelow, hnext⟩, lead, key, v => by
    have hvalue : (key, v) ∈ (value.map (lead ++ [label], ·)).toList ↔
        key = lead ++ [label] ∧ value = some v := by
      cases value <;> simp [eq_comm]
    rw [entries, List.mem_append, List.mem_append, hvalue, mem_entries hbelow, mem_entries hnext]
    constructor
    · rintro (⟨rfl, rfl⟩ | ⟨d, ds, rfl, h⟩ | ⟨c, cs, rfl, h⟩)
      · exact ⟨label, [], rfl, find?_self_nil⟩
      · exact ⟨label, d :: ds, by simp, find?_self_cons.trans h⟩
      · exact ⟨c, cs, rfl, (find?_of_gt (hlt c (mem_labels_of_find? h))).trans h⟩
    · rintro ⟨c, cs, rfl, h⟩
      rcases lt_trichotomy c label with hc | rfl | hc
      · simp [find?_of_lt hc] at h
      · cases cs with
        | nil => exact Or.inl ⟨rfl, find?_self_nil.symm.trans h⟩
        | cons d ds => exact Or.inr (Or.inl ⟨d, ds, by simp, find?_self_cons.symm.trans h⟩)
      · exact Or.inr (Or.inr ⟨c, cs, rfl, (find?_of_gt hc).symm.trans h⟩)

/-- The keys of the entries increase. -/
theorem pairwise_entries : ∀ {f : Forest α}, f.Increasing → ∀ lead : List Char,
    (f.entries lead).Pairwise fun a b => a.1 < b.1
  | nil, _, _ => .nil
  | cons label value below next, ⟨hlt, hbelow, hnext⟩, lead => by
    have hvalue : (value.map (lead ++ [label], ·)).toList.Pairwise fun a b => a.1 < b.1 := by
      cases value <;> simp
    -- What begins with the label comes before what begins with a label after it.
    have hafter : ∀ (cs : List Char) (b : List Char × α), b ∈ next.entries lead →
        lead ++ label :: cs < b.1 := by
      intro cs b hb
      obtain ⟨c, ds, hkey, hfind⟩ := (mem_entries hnext lead b.1 b.2).1 hb
      rw [hkey]
      exact List.append_left_lt (List.cons_lt_cons_iff.2 (.inl (hlt c (mem_labels_of_find? hfind))))
    rw [entries, List.pairwise_append, List.pairwise_append]
    refine ⟨hvalue, ⟨pairwise_entries hbelow _, pairwise_entries hnext _, ?_⟩, ?_⟩
    · intro a ha b hb
      obtain ⟨d, ds, hkey, -⟩ := (mem_entries hbelow _ a.1 a.2).1 ha
      rw [hkey, List.append_assoc]
      exact hafter _ b hb
    · intro a ha b hb
      obtain ⟨w, -, rfl⟩ : ∃ w, value = some w ∧ (lead ++ [label], w) = a := by
        simpa using ha
      rcases List.mem_append.1 hb with hb | hb
      · obtain ⟨d, ds, hkey, -⟩ := (mem_entries hbelow _ b.1 b.2).1 hb
        have hlonger : lead ++ [label] ++ [] < lead ++ [label] ++ d :: ds :=
          List.append_left_lt (List.nil_lt_cons d ds)
        rwa [List.append_nil, ← hkey] at hlonger
      · exact hafter [] b hb

end Forest

/-! ## The list of a trie -/

theorem increasing_children_insert {t : Trie α} (h : t.children.Increasing) (key : String) (v : α) :
    (t.insert key v).children.Increasing := by
  rw [insert_eq]
  cases key.toList with
  | nil => exact h
  | cons c cs => exact h.insert v c cs

theorem increasing_children_ofList (entries : List (String × α)) :
    (ofList entries).children.Increasing := by
  induction entries using List.reverseRecOn with
  | nil => trivial
  | append_singleton entries e ih =>
    rw [ofList_append_singleton]
    exact increasing_children_insert ih e.1 e.2

/-- The list has the keys that find a value. -/
theorem mem_toList {t : Trie α} (h : t.children.Increasing) (key : String) (v : α) :
    (key, v) ∈ t.toList ↔ t.find? key = some v := by
  have hroot : (key.toList, v) ∈ (t.value.map (([] : List Char), ·)).toList ↔
      key.toList = [] ∧ t.value = some v := by
    cases t.value with
    | none => simp
    | some w => simp [eq_comm (a := v)]
  have hkey : (key, v) ∈ t.toList ↔ (key.toList, v) ∈
      (t.value.map (([] : List Char), ·)).toList ++ t.children.entries [] := by
    rw [toList, List.mem_map]
    constructor
    · rintro ⟨e, he, heq⟩
      obtain ⟨rfl, rfl⟩ := Prod.mk.inj heq
      rwa [String.toList_ofList]
    · exact fun he => ⟨_, he, by rw [String.ofList_toList]⟩
  rw [hkey, List.mem_append, hroot, Forest.mem_entries h, find?]
  cases key.toList with
  | nil => simp
  | cons c cs => simp

/-- The keys of the list increase. -/
theorem pairwise_toList {t : Trie α} (h : t.children.Increasing) :
    (t.toList.map Prod.fst).Pairwise fun a b => a.toList < b.toList := by
  have hroot : (t.value.map (([] : List Char), ·)).toList.Pairwise fun a b => a.1 < b.1 := by
    cases t.value <;> simp
  have hall : ((t.value.map (([] : List Char), ·)).toList ++ t.children.entries []).Pairwise
      fun a b => a.1 < b.1 := by
    refine List.pairwise_append.2 ⟨hroot, Forest.pairwise_entries h [], fun a ha b hb => ?_⟩
    obtain ⟨w, -, rfl⟩ : ∃ w, t.value = some w ∧ (([] : List Char), w) = a := by simpa using ha
    obtain ⟨c, cs, hkey, -⟩ := (Forest.mem_entries h [] b.1 b.2).1 hb
    rw [hkey]
    exact List.nil_lt_cons c cs
  rw [toList, List.map_map, List.pairwise_map]
  refine hall.imp fun {a b} hab => ?_
  simpa only [Function.comp_apply, String.toList_ofList] using hab

/-- The list of a history has the last value of each key that was set. -/
theorem mem_toList_ofList (entries : List (String × α)) (key : String) (v : α) :
    (key, v) ∈ (ofList entries).toList ↔ LastOf entries key v := by
  rw [mem_toList (increasing_children_ofList entries), find?_ofList]

theorem pairwise_toList_ofList (entries : List (String × α)) :
    ((ofList entries).toList.map Prod.fst).Pairwise fun a b => a.toList < b.toList :=
  pairwise_toList (increasing_children_ofList entries)

/-- Among entries with different keys each is the last of its key. -/
theorem lastOf_iff_mem {entries : List (String × α)} (h : (entries.map Prod.fst).Nodup)
    (key : String) (v : α) : LastOf entries key v ↔ (key, v) ∈ entries := by
  constructor
  · rintro ⟨earlier, later, rfl, -⟩
    simp
  · intro hmem
    obtain ⟨earlier, later, rfl⟩ := List.append_of_mem hmem
    refine ⟨earlier, later, rfl, fun e he hkey => ?_⟩
    rw [List.map_append, List.map_cons, List.nodup_append, List.nodup_cons] at h
    exact h.2.1.1 (List.mem_map.2 ⟨e, he, hkey⟩)

/-- In the list of a history each key has the value that is its last one in the history. -/
theorem lastOf_toList_ofList (entries : List (String × α)) (key : String) (v : α) :
    LastOf (ofList entries).toList key v ↔ LastOf entries key v := by
  have hnodup : ((ofList entries).toList.map Prod.fst).Nodup := by
    refine (pairwise_toList_ofList entries).imp fun {a b} hlt => ?_
    rintro rfl
    exact lt_irrefl _ hlt
  rw [lastOf_iff_mem hnodup, mem_toList_ofList]

end Trie

end TagSelect
