import TagSelect.Proofs.Filing
import TagSelect.Proofs.RoundTrip

/-!
# Canonical names of tags that were read

Two tags can have one canonical name : the key `a:b` alone, and the key `a` with the value `b`. An
index would file them in one place. Tags that were read from texts are told apart by it.

The reason is that a canonical name is a text itself. If the texts of a tag name are names, which
have no colon, then its canonical name is read as the filter of this tag and nothing else
(`TagName.Proper.parse_canonical`). So the tag can be recovered from it
(`TagName.Proper.eq_of_canonical_eq`), and it is not the empty text, which is read as `everything`.
The tags of a filter that was read are of this kind (`Filter.Proper.of_mem_names`), and `everything`
does not occur below an operator (`Filter.Proper.everything_not_mem_subtrees`).

`names_of_parse` collects this and says what it means for an index.
-/

namespace TagSelect

open TagSelect.Filter

/-! ## Tag names -/

namespace TagName.Proper

variable {a b : TagName}

/-- The canonical name of a tag is read as this tag. -/
theorem parse_canonical (h : a.Proper) : parse a.canonical = .ok (.tag a) := by
  have htext : (Filter.tag a).text = a.canonical := by
    simp [Filter.text, Filter.chars, Filter.printOnto]
  rw [← htext, parse_text_iff_of_proper (f := .tag a) h]
  exact ⟨rfl, Nat.zero_le _⟩

theorem canonical_ne_empty (h : a.Proper) : a.canonical ≠ "" := by
  intro hempty
  have hparse := h.parse_canonical
  rw [hempty] at hparse
  cases (parse_text_everything _).1 hparse

theorem eq_of_canonical_eq (ha : a.Proper) (hb : b.Proper) (h : a.canonical = b.canonical) :
    a = b := by
  have hparse := ha.parse_canonical
  rw [h, hb.parse_canonical] at hparse
  cases hparse
  rfl

-- The condition is needed : a colon in a key is not told from one in front of a value.
example : (TagName.plain "a:b").canonical = (TagName.valued "a" "b").canonical := by decide +kernel

end TagName.Proper

/-! ## Filters -/

namespace Filter

/-- The filter and all filters below its operators. -/
def subtrees : Filter → List Filter
  | everything => [everything]
  | tag name => [tag name]
  | not x => x.not :: x.subtrees
  | and l r => l.and r :: (l.subtrees ++ r.subtrees)
  | or l r => l.or r :: (l.subtrees ++ r.subtrees)

theorem Proper.everything_not_mem_subtrees {f : Filter} (h : f.Proper) :
    everything ∉ f.subtrees := by
  induction f with
  | everything => exact h.elim
  | tag name => simp [subtrees]
  | not x ih => simpa [subtrees] using ih h
  | and l r ihl ihr => simpa [subtrees] using ⟨ihl h.1, ihr h.2⟩
  | or l r ihl ihr => simpa [subtrees] using ⟨ihl h.1, ihr h.2⟩

theorem Proper.of_mem_names {f : Filter} (h : f.Proper) : ∀ a ∈ f.names, a.Proper := by
  induction f with
  | everything => exact h.elim
  | tag name => exact List.forall_mem_singleton.2 h
  | not x ih => exact ih h
  | and l r ihl ihr => exact List.forall_mem_append.2 ⟨ihl h.1, ihr h.2⟩
  | or l r ihl ihr => exact List.forall_mem_append.2 ⟨ihl h.1, ihr h.2⟩

/-- The texts of the tags of a filter that was read are names. -/
theorem proper_of_mem_names {s : String} {f : Filter} (h : parse s = .ok f) :
    ∀ a ∈ f.names, a.Proper := by
  rcases proper_of_parse h with rfl | hf
  · simp [names]
  · exact hf.of_mem_names

end Filter

/-! ## Tags of filters that were read -/

/-- In a filter that was read from a text, `everything` stands alone or nowhere. The key and the
value of every tag in it are names, and the canonical name of a tag is not empty. Tags of two
filters that were read have the same canonical name only if they are the same tag, so that filing
one of them in an index changes what is found for this tag and for no other. -/
theorem names_of_parse {s t : String} {f g : Filter} (hf : parse s = .ok f) (hg : parse t = .ok g) :
    (f = .everything ∨ .everything ∉ f.subtrees) ∧
      (∀ a ∈ f.names, a.Proper ∧ a.canonical ≠ "") ∧
      ∀ a ∈ f.names, ∀ b ∈ g.names, (a.canonical = b.canonical → a = b) ∧
        ∀ (x : TagIndex) (id : String), (x.insert (.name a) id).find? (.name b) =
          if b = a then some id else x.find? (.name b) := by
  refine ⟨(proper_of_parse hf).imp_right Proper.everything_not_mem_subtrees,
    fun a ha => ?_, fun a ha b hb => ?_⟩
  · have hproper := proper_of_mem_names hf a ha
    exact ⟨hproper, hproper.canonical_ne_empty⟩
  · have hproper := proper_of_mem_names hf a ha
    have heq : a.canonical = b.canonical → a = b :=
      hproper.eq_of_canonical_eq (proper_of_mem_names hg b hb)
    refine ⟨heq, fun x id => ?_⟩
    have hiff : b.canonical = a.canonical ↔ b = a :=
      ⟨fun h => (heq h.symm).symm, fun h => h ▸ rfl⟩
    have hname : (TagKey.name a).canonical ≠ "" := hproper.canonical_ne_empty
    rw [x.find?_insert hname]
    simp only [TagKey.canonical, hiff]

/-- A tag that occurs in both texts, next to a tag whose name is its key and one whose name is its
value. -/
theorem names_of_parse_sample :
    let f :=
      Filter.or (.not (.and (.tag (.valued "a" "b")) (.tag (.plain "a")))) (.tag (.plain "é_1"))
    let g := Filter.or (.tag (.plain "b")) (.tag (.valued "a" "b"))
    parse "!(a : b & a) | é_1" = .ok f ∧ parse "b|a:b" = .ok g ∧ everything ∉ f.subtrees ∧
      (TagName.valued "a" "b").Proper ∧ (TagName.valued "a" "b").canonical ≠ "" ∧
      ∀ (x : TagIndex) (id : String),
        (x.insert (.name (.valued "a" "b")) id).find? (.name (.valued "a" "b")) = some id ∧
        (x.insert (.name (.valued "a" "b")) id).find? (.name (.plain "b")) =
          x.find? (.name (.plain "b")) := by
  intro f g
  have hf : parse "!(a : b & a) | é_1" = .ok f := by decide +kernel
  have hg : parse "b|a:b" = .ok g := by decide +kernel
  have hmem : TagName.valued "a" "b" ∈ f.names := by decide
  obtain ⟨heverything, hproper, hapart⟩ := names_of_parse hf hg
  refine ⟨hf, hg, heverything.resolve_left (by decide), (hproper _ hmem).1, (hproper _ hmem).2,
    fun x id => ⟨?_, ?_⟩⟩
  · exact (hapart _ hmem (.valued "a" "b") (by decide)).2 x id
  · exact (hapart _ hmem (.plain "b") (by decide)).2 x id

end TagSelect
