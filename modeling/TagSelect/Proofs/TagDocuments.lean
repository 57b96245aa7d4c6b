import TagSelect.Proofs.Filing
import TagSelect.Proofs.SettingsDocuments
import TagSelect.Proofs.TrieListing
import TagSelect.Shell

/-!
# Tags are loaded as they stand in their file

A file of tags is an object, the members of which are the canonical names and ids of tags. It is
loaded as a map, from which an index is filled in the order of the names. The file has an order of
its own, and names may repeat in it.

Every text of a list of tags is read as this list (`IsTagDocument.tagsOfDocument_eq`), and the map
has the last id of each name (`Trie.lastOf_toList_ofList`). Filling an index sees nothing else of a
list of tags : lists in which each name has the same last id give indexes that answer alike
(`TagIndex.find?_ofTags_congr`, `TagIndex.size_ofTags_congr`). `loadTags_isTagDocument` joins the
two.
-/

namespace TagSelect

open Json

/-! ## Reading tags -/

/-- A text of tags is read as the map that keeps the last id of each name. -/
theorem IsTagDocument.tagsOfDocument_eq {tags : List (String × String)} {cs : List Char}
    (h : IsTagDocument tags cs) :
    tagsOfDocument (String.ofList cs) = .ok (Trie.ofList tags).toList := by
  obtain ⟨hbefore, hafter, hspelled, h⟩ := h
  have htakes : Takes (map text) _ tags :=
    h.takes_map (hspelled.imp fun _ _ hm => ⟨hm.1, hm.2.takes⟩)
  rw [tagsOfDocument, htakes.document hbefore hafter]
  rfl

theorem isTagDocument_writtenTags (tags : List (String × String)) :
    IsTagDocument tags (writtenTags tags).toList := by
  have hspelled : List.Forall₂ (fun t m => Spells m.1 t.1.toList ∧ IsString t.2 m.2) tags
      ((tags.map fun t => (t.1, writtenText t.2)).map fun m =>
        (m.1.toList.flatMap writtenChar, m.2)) := by
    rw [List.map_map, List.forall₂_map_right_iff, List.forall₂_same]
    exact fun t _ => ⟨spells_flatMap_writtenChar t.1.toList, isString_writtenText t.2⟩
  have hdocument : IsTagDocument tags ([] ++ (_ ++ [])) :=
    .mk .nil .nil hspelled (isObject_writtenObject _)
  simpa [writtenTags] using hdocument

/-! ## Filling an index -/

namespace TagIndex

/-- The index of a list of canonical names and ids. -/
def ofTags (tags : List (String × String)) : TagIndex :=
  empty.insertAll (tags.map fun (name, id) => (.text name, id))

theorem map_entry_text (tags : List (String × String)) :
    (tags.map fun (name, id) => (TagKey.text name, id)).map Filing.entry = tags := by
  rw [List.map_map]
  exact List.map_id _

theorem find?_ofTags (tags : List (String × String)) (q : TagKey) (id : String) :
    (ofTags tags).find? q = some id ↔ q.canonical ≠ "" ∧ LastOf tags q.canonical id := by
  rw [ofTags, find?_insertAll, map_entry_text]

/-- The size counts the names, without the empty one. -/
theorem size_ofTags (tags : List (String × String)) :
    (ofTags tags).size = ((tags.map Prod.fst).toFinset.erase "").card := by
  rw [ofTags, size_insertAll, map_entry_text, Filing.names]
  congr 1
  ext name
  simp [and_comm]

variable {tags tags' : List (String × String)}

theorem find?_ofTags_congr (h : ∀ name id, LastOf tags name id ↔ LastOf tags' name id)
    (q : TagKey) : (ofTags tags).find? q = (ofTags tags').find? q := by
  refine Option.ext fun id => ?_
  rw [find?_ofTags, find?_ofTags, h]

theorem size_ofTags_congr (h : ∀ name id, LastOf tags name id ↔ LastOf tags' name id) :
    (ofTags tags).size = (ofTags tags').size := by
  have hnames : (tags.map Prod.fst).toFinset = (tags'.map Prod.fst).toFinset := by
    ext name
    simp only [List.mem_toFinset, ← exists_lastOf, h]
  rw [size_ofTags, size_ofTags, hnames]

end TagIndex

/-- Any list of tags has a text, and a file with any text of the list is loaded as the map that has
the last id of each name, in the order of the names. The program fills its index from this map. The
index looks up every tag as an index that is filled from the list in its order : the same id or the
same error. It contains the same tags, and its size is the number of names, less one if the empty
name is among them. -/
theorem loadTags_isTagDocument (tags : List (String × String)) :
    IsTagDocument tags (writtenTags tags).toList ∧
      ∀ (path : String) (cs : List Char), IsTagDocument tags cs →
        ∃ loaded, loadTags path (.bytes (String.ofList cs).toUTF8) = .ok loaded ∧
          ((loaded.map Prod.fst).Pairwise fun a b => a.toList < b.toList) ∧
          (∀ name id, (name, id) ∈ loaded ↔ LastOf tags name id) ∧
          (∀ (o : Shell.Options) (file : String → FileContent), o.tags = some path →
            file path = .bytes (String.ofList cs).toUTF8 →
              o.index file = .ok (TagIndex.ofTags loaded)) ∧
          (∀ (s : Settings) (q : TagKey), (Compiler.mk s (TagIndex.ofTags loaded)).tagId q =
            (Compiler.mk s (TagIndex.ofTags tags)).tagId q) ∧
          (∀ q, (TagIndex.ofTags loaded).contains q = (TagIndex.ofTags tags).contains q) ∧
          (TagIndex.ofTags loaded).size = (TagIndex.ofTags tags).size ∧
          (TagIndex.ofTags loaded).size = (tags.map Prod.fst).toFinset.card -
            if "" ∈ tags.map Prod.fst then 1 else 0 := by
  refine ⟨isTagDocument_writtenTags tags, fun path cs h => ?_⟩
  have hload :
      loadTags path (.bytes (String.ofList cs).toUTF8) = .ok (Trie.ofList tags).toList := by
    simp only [loadTags, FileContent.load, fromUTF8?_toUTF8, h.tagsOfDocument_eq]
  refine ⟨_, hload, Trie.pairwise_toList_ofList tags, Trie.mem_toList_ofList tags,
    fun o file htags hfile => ?_, fun s q => ?_, fun q => ?_, ?_, ?_⟩
  · simp only [Shell.Options.index, htags, hfile, hload]
    rfl
  · simp only [Compiler.tagId, TagIndex.find?_ofTags_congr (Trie.lastOf_toList_ofList tags)]
  · simp only [TagIndex.contains, TagIndex.find?_ofTags_congr (Trie.lastOf_toList_ofList tags)]
  · exact TagIndex.size_ofTags_congr (Trie.lastOf_toList_ofList tags)
  · rw [TagIndex.size_ofTags_congr (Trie.lastOf_toList_ofList tags), TagIndex.size_ofTags,
      Finset.card_erase_eq_ite]
    simp only [List.mem_toFinset]
    split <;> rfl

/-- A file with a name that repeats, the empty name, and an id that is written as an escape. -/
theorem loadTags_repeated :
    let tags := [("b", "1"), ("", "9"), ("é:x", "2"), ("b", "3")]
    let s := "\x7b \"b\":\"1\",\"\" : \"9\", \"é:x\":\"2\",\"b\":\"\\u0033\"\x7d\n"
    IsTagDocument tags s.toList ∧
      ∃ loaded, loadTags "t.json" (.bytes s.toUTF8) = .ok loaded ∧
        (TagIndex.ofTags loaded).size = 2 ∧
        (Compiler.mk Settings.standard (TagIndex.ofTags loaded)).tagId (.text "b") = .ok "3" ∧
        (Compiler.mk Settings.standard (TagIndex.ofTags loaded)).tagId (.name (.valued "é" "x")) =
          .ok "2" ∧
        (TagIndex.ofTags loaded).contains (.text "") = false := by
  intro tags s
  have hspace : IsSpace [' '] := by simp [IsSpace]
  have hline : IsSpace ['\n'] := by simp [IsSpace]
  have hplain : ∀ d : Char, ' ' ≤ d ∧ d ≠ '"' ∧ d ≠ '\\' → SpellsChar [d] d :=
    fun d h => .plain h.1 h.2.1 h.2.2
  have hb : Spells ['b'] "b".toList := .cons (hplain 'b' (by decide)) .nil
  have hvalued : Spells ['é', ':', 'x'] "é:x".toList :=
    .cons (hplain 'é' (by decide)) (.cons (hplain ':' (by decide))
      (.cons (hplain 'x' (by decide)) .nil))
  have hunit : IsUnit ['0', '0', '3', '3'] '3'.toNat :=
    .mk (w := 0) (x := 0) (y := 3) (z := 3) (by decide) (by decide) (by decide) (by decide)
  have hescape : Spells (['\\', 'u', '0', '0', '3', '3'] ++ []) "3".toList :=
    .cons (.unit hunit) .nil
  let spelled := [(['b'], writtenText "1"), ([], writtenText "9"),
    (['é', ':', 'x'], writtenText "2"), (['b'], "\"\\u0033\"".toList)]
  have hspelled : List.Forall₂ (fun t m => Spells m.1 t.1.toList ∧ IsString t.2 m.2) tags spelled :=
    .cons ⟨hb, isString_writtenText "1"⟩ (.cons ⟨.nil, isString_writtenText "9"⟩
      (.cons ⟨hvalued, isString_writtenText "2"⟩ (.cons ⟨hb, IsString.mk hescape⟩ .nil)))
  let parts := ["\"b\":\"1\"".toList, "\"\" : \"9\"".toList, "\"é:x\":\"2\"".toList,
    "\"b\":\"\\u0033\"".toList]
  have hparts : List.Forall₂ (fun m part => IsMember m.1 m.2 part) spelled parts :=
    .cons (.mk .nil .nil) (.cons (.mk hspace hspace) (.cons (.mk .nil .nil)
      (.cons (.mk .nil .nil) .nil)))
  have hlisted : Listed parts
      " \"b\":\"1\",\"\" : \"9\", \"é:x\":\"2\",\"b\":\"\\u0033\"".toList :=
    .more hspace .nil (.more .nil .nil (.more hspace .nil (.last .nil .nil)))
  have hdocument : IsTagDocument tags s.toList := by
    refine Eq.subst (motive := IsTagDocument tags) ?_
      (.mk .nil hline hspelled (.mk hparts hlisted))
    simp only [s]
    decide +kernel
  obtain ⟨loaded, hload, -, -, -, hid, hcontains, -, hsize⟩ :=
    (loadTags_isTagDocument tags).2 "t.json" s.toList hdocument
  rw [String.ofList_toList] at hload
  refine ⟨hdocument, loaded, hload, ?_, ?_, ?_, ?_⟩
  · rw [hsize]
    decide +kernel
  · rw [hid, Compiler.tagId_eq_ok]
    decide +kernel
  · rw [hid, Compiler.tagId_eq_ok]
    decide +kernel
  · rw [hcontains]
    decide +kernel

end TagSelect
