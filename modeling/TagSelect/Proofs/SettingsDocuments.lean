import TagSelect.Proofs.JsonRecords
import TagSelect.Settings.File
import TagSelect.Settings.Layout

/-!
# Settings are read back from any layout

Every text of settings is read as these settings (`Settings.IsDocument.ofDocument_eq`). The three
records in it are read in any order by `IsRecord.takes`, for which the fields of each record have to
fit its entries (`Association.fits`, `TagTable.fits`, `Settings.fits`) : a field sets the value that
its entry has, and so keeps whatever else is already right.

`Settings.written` is such a text for any settings (`Settings.isDocument_written`), so that there is
a file for every settings.
-/

namespace TagSelect

namespace Json

/-! ## The writer keeps to the grammar -/

theorem hexDigit_mem : ∀ n < 16, (hexDigit n, n) ∈ hexDigits := by
  decide

theorem spellsChar_writtenChar (c : Char) : SpellsChar (writtenChar c) c := by
  unfold writtenChar
  split
  · next e d h =>
    have hd : d = c ∧ e ≠ '/' := by simpa using List.find?_some h
    obtain ⟨rfl, -⟩ := hd
    exact .short (List.mem_of_find?_eq_some h)
  · next h =>
    rw [List.find?_eq_none] at h
    split
    · next hcontrol =>
      refine .plain hcontrol ?_ ?_
      · rintro rfl
        exact h ('"', '"') (by decide) (by decide)
      · rintro rfl
        exact h ('\\', '\\') (by decide) (by decide)
    · next hcontrol =>
      have hlt : c.toNat < 32 := Char.not_le.1 hcontrol
      have hunit := IsUnit.mk (hexDigit_mem 0 (by decide)) (hexDigit_mem 0 (by decide))
        (hexDigit_mem (c.toNat / 16) (by omega)) (hexDigit_mem (c.toNat % 16) (by omega))
      have hvalue : 4096 * 0 + 256 * 0 + 16 * (c.toNat / 16) + c.toNat % 16 = c.toNat := by omega
      rw [hvalue] at hunit
      exact .unit hunit

theorem spells_flatMap_writtenChar (cs : List Char) : Spells (cs.flatMap writtenChar) cs := by
  induction cs with
  | nil => exact .nil
  | cons c cs ih => exact .cons (spellsChar_writtenChar c) ih

theorem isString_writtenText (s : String) : IsString s (writtenText s) :=
  .mk (spells_flatMap_writtenChar s.toList)

theorem listed_writtenParts : ∀ parts, Listed parts (writtenParts parts)
  | [] => .none .nil
  | [part] => by
    have hlast : Listed [part] ([] ++ (part ++ [])) := .last .nil .nil
    simpa [writtenParts] using hlast
  | part :: next :: parts => Listed.more .nil .nil (listed_writtenParts (next :: parts))

theorem isArray_writtenArray (elements : List (List Char)) :
    IsArray elements (writtenArray elements) :=
  .mk (listed_writtenParts elements)

theorem isMember_writtenMember (m : String × List Char) :
    IsMember (m.1.toList.flatMap writtenChar) m.2 (writtenMember m) := by
  have hmember : IsMember (m.1.toList.flatMap writtenChar) m.2 _ := .mk .nil .nil
  simpa [writtenMember, writtenText] using hmember

theorem isObject_writtenObject (members : List (String × List Char)) :
    IsObject (members.map fun m => (m.1.toList.flatMap writtenChar, m.2))
      (writtenObject members) := by
  refine .mk ?_ (listed_writtenParts (members.map writtenMember))
  rw [List.forall₂_map_left_iff, List.forall₂_map_right_iff, List.forall₂_same]
  exact fun m _ => isMember_writtenMember m

/-- The object of written entries and other members is a record, in any order. -/
theorem Written.isRecord {entries : List Entry} {written others members : List (String × List Char)}
    (h : Written entries written)
    (hothers : ∀ m ∈ others, m.1 ∉ entries.map Entry.name ∧ WellFormed m.2)
    (horder : members.Perm (written ++ others)) : IsRecord entries (writtenObject members) := by
  refine .mk h hothers horder ?_ (isObject_writtenObject members)
  rw [List.forall₂_map_right_iff, List.forall₂_same]
  exact fun m _ => ⟨spells_flatMap_writtenChar m.1.toList, rfl⟩

theorem Written.isRecord_self {entries : List Entry} {members : List (String × List Char)}
    (h : Written entries members) : IsRecord entries (writtenObject members) :=
  h.isRecord (fun m hm => absurd hm List.not_mem_nil) (by rw [List.append_nil])

/-! ## Documents and fields -/

variable {α β ρ : Type}

theorem Takes.document {read : Reader α} {v before after : List Char} {a : α}
    (h : Takes read v a) (hbefore : IsSpace before) (hafter : IsSpace after) :
    document read (String.ofList (before ++ (v ++ after))) = .ok a := by
  have hend : skipGap after = [] := by
    simpa [skipGap] using skipGap_append hafter []
  simp [Json.document, h.read_eq before after hbefore, hend]

/-- A field fits an entry if it reads the texts of the entry, and sets the value `a` that they have.
The entry may be left out if this is the value `b` at the start. -/
theorem fits_of_takes {holds : String → ρ → Prop} {start : ρ} {f : RecordField ρ} {e : Entry}
    {read : Reader α} (set : ρ → α → ρ) (a b : α) (hname : f.name = e.name)
    (hfield : ∀ r cs, f.read r cs = (read cs).map fun (a, cs) => (set r a, cs))
    (hstart : set start b = start) (homit : e.omissible → f.required = false ∧ a = b)
    (hread : ∀ v, e.texts v → Takes read v a) (hset : ∀ r, holds e.name (set r a))
    (hkeep : ∀ r n, holds n r → holds n (set r a)) : f.Fits holds start e := by
  refine ⟨hname, fun v hv r => ⟨set r a, ⟨(hread v hv).head, fun gap rest hgap => ?_⟩, hset r,
    hkeep r⟩, fun h => ⟨(homit h).1, ?_⟩⟩
  · simp [hfield, (hread v hv).read_eq gap rest hgap, Except.map]
  · rw [← hstart, ← (homit h).2]
    exact hset start

end Json

open Json

/-! ## The association table -/

namespace Association

/-- The two tables agree under a name. -/
def Agrees (a : Association) (name : String) (r : Association) : Prop :=
  (name = "table" → r.table = a.table) ∧
    (name = "entity_column" → r.entityColumn = a.entityColumn) ∧
    (name = "tag_column" → r.tagColumn = a.tagColumn)

theorem fits (a : Association) :
    List.Forall₂ (RecordField.Fits a.Agrees standard) fields a.entries := by
  refine .cons ?_ (.cons ?_ (.cons ?_ .nil))
  · exact fits_of_takes (fun r s => { r with table := s }) a.table "userdata_tags" rfl
      (fun _ _ => rfl) rfl (fun h => ⟨rfl, h⟩) (fun _ hv => IsString.takes hv)
      (by simp [Agrees]) (fun _ _ h => ⟨fun _ => rfl, h.2⟩)
  · exact fits_of_takes (fun r s => { r with entityColumn := s }) a.entityColumn "userdata_id" rfl
      (fun _ _ => rfl) rfl (fun h => ⟨rfl, h⟩) (fun _ hv => IsString.takes hv)
      (by simp [Agrees]) (fun _ _ h => ⟨h.1, fun _ => rfl, h.2.2⟩)
  · exact fits_of_takes (fun r s => { r with tagColumn := s }) a.tagColumn "tag_id" rfl
      (fun _ _ => rfl) rfl (fun h => ⟨rfl, h⟩) (fun _ hv => IsString.takes hv)
      (by simp [Agrees]) (fun _ _ h => ⟨h.1, h.2.1, fun _ => rfl⟩)

theorem takes_reader {a : Association} {v : List Char} (h : IsRecord a.entries v) :
    Takes reader v a := by
  obtain ⟨r, htakes, hr⟩ := h.takes "AssociationConfig" a.fits (by simp [entries])
  obtain ⟨htable, hentity, htag⟩ : r.table = a.table ∧ r.entityColumn = a.entityColumn ∧
      r.tagColumn = a.tagColumn := by
    simpa [entries, Agrees] using hr
  have heq : r = a := by
    cases r
    simp_all
  exact heq ▸ htakes

theorem written_members (a : Association) : Written a.entries a.members :=
  .keep (isString_writtenText _) (.keep (isString_writtenText _)
    (.keep (isString_writtenText _) .nil))

end Association

/-! ## The table of tags -/

theorem IdType.takes_reader {t : IdType} {v : List Char} (h : IsString t.name v) :
    Takes reader v t := by
  refine h.takes_choice ?_
  cases t <;> rfl

namespace TagTable

/-- The two tables agree under a name. -/
def Agrees (t : TagTable) (name : String) (r : TagTable) : Prop :=
  (name = "table" → r.table = t.table) ∧ (name = "id_column" → r.idColumn = t.idColumn) ∧
    (name = "id_type" → r.idType = t.idType)

theorem fits (t : TagTable) :
    List.Forall₂ (RecordField.Fits t.Agrees standard) fields t.entries := by
  refine .cons ?_ (.cons ?_ (.cons ?_ .nil))
  · exact fits_of_takes (fun r s => { r with table := s }) t.table "tags" rfl
      (fun _ _ => rfl) rfl (fun h => ⟨rfl, h⟩) (fun _ hv => IsString.takes hv)
      (by simp [Agrees]) (fun _ _ h => ⟨fun _ => rfl, h.2⟩)
  · exact fits_of_takes (fun r s => { r with idColumn := s }) t.idColumn "id" rfl
      (fun _ _ => rfl) rfl (fun h => ⟨rfl, h⟩) (fun _ hv => IsString.takes hv)
      (by simp [Agrees]) (fun _ _ h => ⟨h.1, fun _ => rfl, h.2.2⟩)
  · exact fits_of_takes (fun r i => { r with idType := i }) t.idType .text rfl
      (fun _ _ => rfl) rfl (fun h => ⟨rfl, h⟩) (fun _ hv => IdType.takes_reader hv)
      (by simp [Agrees]) (fun _ _ h => ⟨h.1, h.2.1, fun _ => rfl⟩)

theorem takes_reader {t : TagTable} {v : List Char} (h : IsRecord t.entries v) :
    Takes reader v t := by
  obtain ⟨r, htakes, hr⟩ := h.takes "TagTableConfig" t.fits (by simp [entries])
  obtain ⟨htable, hcolumn, htype⟩ : r.table = t.table ∧ r.idColumn = t.idColumn ∧
      r.idType = t.idType := by
    simpa [entries, Agrees] using hr
  have heq : r = t := by
    cases r
    simp_all
  exact heq ▸ htakes

theorem written_members (t : TagTable) : Written t.entries t.members :=
  .keep (isString_writtenText _) (.keep (isString_writtenText _)
    (.keep (isString_writtenText _) .nil))

end TagTable

/-! ## Settings -/

namespace Settings

/-- The two settings agree under a name. -/
def Agrees (c : Settings) (name : String) (r : Settings) : Prop :=
  (name = "table_name" → r.tableName = c.tableName) ∧
    (name = "id_column" → r.idColumn = c.idColumn) ∧
    (name = "columns" → r.columns = c.columns) ∧
    (name = "timestamp_column" → r.timestampColumn = c.timestampColumn) ∧
    (name = "association" → r.association = c.association) ∧
    (name = "tags" → r.tags = c.tags) ∧
    (name = "include_untagged" → r.includeUntagged = c.includeUntagged)

theorem takes_columns {ss : List String} {v : List Char}
    (h : ∃ vs, IsArray vs v ∧ List.Forall₂ IsString ss vs) : Takes (list text) v ss := by
  obtain ⟨vs, harray, hvs⟩ := h
  exact harray.takes (hvs.flip.imp fun _ _ => IsString.takes)

theorem fits (c : Settings) :
    List.Forall₂ (RecordField.Fits c.Agrees (.ofTable "" "" [])) fields c.entries := by
  refine .cons ?_ (.cons ?_ (.cons ?_ (.cons ?_ (.cons ?_ (.cons ?_ (.cons ?_ .nil))))))
  · exact fits_of_takes (fun r s => { r with tableName := s }) c.tableName "" rfl
      (fun _ _ => rfl) rfl False.elim (fun _ hv => IsString.takes hv)
      (by simp [Agrees]) (fun _ _ h => ⟨fun _ => rfl, h.2⟩)
  · exact fits_of_takes (fun r s => { r with idColumn := s }) c.idColumn "" rfl
      (fun _ _ => rfl) rfl False.elim (fun _ hv => IsString.takes hv)
      (by simp [Agrees]) (fun _ _ ⟨h₁, _, h⟩ => ⟨h₁, fun _ => rfl, h⟩)
  · exact fits_of_takes (fun r ss => { r with columns := ss }) c.columns [] rfl
      (fun _ _ => rfl) rfl False.elim (fun _ hv => takes_columns hv)
      (by simp [Agrees]) (fun _ _ ⟨h₁, h₂, _, h⟩ => ⟨h₁, h₂, fun _ => rfl, h⟩)
  · exact fits_of_takes (fun r s => { r with timestampColumn := s }) c.timestampColumn "timestamp"
      rfl (fun _ _ => rfl) rfl (fun h => ⟨rfl, h⟩) (fun _ hv => IsString.takes hv)
      (by simp [Agrees])
      (fun _ _ ⟨h₁, h₂, h₃, _, h⟩ => ⟨h₁, h₂, h₃, fun _ => rfl, h⟩)
  · exact fits_of_takes (fun r a => { r with association := a }) c.association .standard rfl
      (fun _ _ => rfl) rfl (fun h => ⟨rfl, h⟩) (fun _ hv => Association.takes_reader hv)
      (by simp [Agrees])
      (fun _ _ ⟨h₁, h₂, h₃, h₄, _, h⟩ => ⟨h₁, h₂, h₃, h₄, fun _ => rfl, h⟩)
  · exact fits_of_takes (fun r t => { r with tags := t }) c.tags .standard rfl
      (fun _ _ => rfl) rfl (fun h => ⟨rfl, h⟩) (fun _ hv => TagTable.takes_reader hv)
      (by simp [Agrees])
      (fun _ _ ⟨h₁, h₂, h₃, h₄, h₅, _, h⟩ => ⟨h₁, h₂, h₃, h₄, h₅, fun _ => rfl, h⟩)
  · exact fits_of_takes (fun r b => { r with includeUntagged := b }) c.includeUntagged false rfl
      (fun _ _ => rfl) rfl (fun h => ⟨rfl, h⟩) (fun _ hv => hv ▸ takes_boolean c.includeUntagged)
      (by simp [Agrees])
      (fun _ _ ⟨h₁, h₂, h₃, h₄, h₅, h₆, _⟩ => ⟨h₁, h₂, h₃, h₄, h₅, h₆, fun _ => rfl⟩)

theorem takes_reader {c : Settings} {v : List Char} (h : IsRecord c.entries v) :
    Takes reader v c := by
  obtain ⟨r, htakes, hr⟩ := h.takes "BuilderConfig" c.fits (by simp [entries])
  obtain ⟨htable, hid, hcolumns, htime, hassociation, htags, huntagged⟩ :
      r.tableName = c.tableName ∧ r.idColumn = c.idColumn ∧ r.columns = c.columns ∧
        r.timestampColumn = c.timestampColumn ∧ r.association = c.association ∧
        r.tags = c.tags ∧ r.includeUntagged = c.includeUntagged := by
    simpa [entries, Agrees] using hr
  have heq : r = c := by
    cases r
    simp_all
  exact heq ▸ htakes

/-- A text of settings is read as these settings. -/
theorem IsDocument.ofDocument_eq {c : Settings} {cs : List Char} (h : c.IsDocument cs) :
    ofDocument (String.ofList cs) = .ok c := by
  obtain ⟨hbefore, hafter, h⟩ := h
  exact (takes_reader h).document hbefore hafter

theorem written_members (c : Settings) : Written c.entries c.members := by
  have hcolumns : List.Forall₂ IsString c.columns (c.columns.map writtenText) := by
    rw [List.forall₂_map_right_iff, List.forall₂_same]
    exact fun s _ => isString_writtenText s
  exact .keep (isString_writtenText _) (.keep (isString_writtenText _)
    (.keep ⟨_, isArray_writtenArray _, hcolumns⟩ (.keep (isString_writtenText _)
      (.keep c.association.written_members.isRecord_self (.keep c.tags.written_members.isRecord_self
        (.keep rfl .nil))))))

theorem isDocument_written (c : Settings) : c.IsDocument c.written.toList := by
  have hdocument : c.IsDocument ([] ++ (writtenObject c.members ++ [])) :=
    .mk .nil .nil c.written_members.isRecord_self
  simpa [written] using hdocument

end Settings

/-! ## Files -/

theorem fromUTF8?_toUTF8 (s : String) : String.fromUTF8? s.toUTF8 = some s := by
  rw [String.fromUTF8?, String.toUTF8_eq_toByteArray, dif_pos s.isValidUTF8]
  rfl

/-- The text with all entries of settings is a text of these settings, and a file with any text of
settings is loaded as these settings. -/
theorem load_isDocument (c : Settings) :
    c.IsDocument c.written.toList ∧
      ∀ (path : String) (cs : List Char), c.IsDocument cs →
        Settings.load path (.bytes (String.ofList cs).toUTF8) = .ok c := by
  refine ⟨c.isDocument_written, fun path cs h => ?_⟩
  simp only [Settings.load, FileContent.load, fromUTF8?_toUTF8, h.ofDocument_eq]

/-- A file with its entries out of order, some of them left out, a letter of a column as an escape,
a table of tags of which only the type of ids is given, and a member of another name that holds
half of a character. -/
theorem load_reordered :
    let c : Settings := ⟨"users", "id", ["id", "name"], "timestamp",
      ⟨"userdata_tags", "userdata_id", "tag_id"⟩, ⟨"tags", "id", .integer⟩, true⟩
    let s := " \x7b\"columns\":[ \"id\", \"na\\u006de\" ],\"note\":[-2.5e+3,\"\\uD800\"]," ++
      "\"include_untagged\":true,\"tags\":\x7b\"id_type\":\"integer\"\x7d," ++
      "\"table_name\":\"users\",\"id_column\":\"id\"\x7d\n"
    c.IsDocument s.toList ∧ Settings.load "c.json" (.bytes s.toUTF8) = .ok c := by
  intro c s
  have hspace : IsSpace [' '] := by simp [IsSpace]
  have hline : IsSpace ['\n'] := by simp [IsSpace]
  have hplain : ∀ d : Char, ' ' ≤ d ∧ d ≠ '"' ∧ d ≠ '\\' → SpellsChar [d] d :=
    fun d h => .plain h.1 h.2.1 h.2.2
  have hunit : IsUnit ['0', '0', '6', 'd'] 'm'.toNat :=
    .mk (w := 0) (x := 0) (y := 6) (z := 13) (by decide) (by decide) (by decide) (by decide)
  have hspells : Spells (['n'] ++ (['a'] ++ (['\\', 'u', '0', '0', '6', 'd'] ++ (['e'] ++ []))))
      "name".toList :=
    .cons (hplain 'n' (by decide)) (.cons (hplain 'a' (by decide)) (.cons (.unit hunit)
      (.cons (hplain 'e' (by decide)) .nil)))
  have hname : IsString "name" "\"na\\u006de\"".toList := IsString.mk hspells
  have hcolumns : IsArray [writtenText "id", "\"na\\u006de\"".toList]
      "[ \"id\", \"na\\u006de\" ]".toList :=
    .mk (.more hspace .nil (.last hspace hspace))
  have hdigit : ∀ d : Char, d.isDigit = true → IsDigits [d] := by simp [IsDigits]
  have hnumber : IsNumber "-2.5e+3".toList :=
    .mk (.inr rfl) (hdigit '2' rfl) (by decide) (.some (hdigit '5' rfl))
      (.some (.inl rfl) (.inr (.inl rfl)) (hdigit '3' rfl))
  have hhalf : IsText "\\uD800".toList :=
    .unit (.mk (w := 13) (x := 8) (y := 0) (z := 0) (by decide) (by decide) (by decide)
      (by decide)) .nil
  have hnote : WellFormed (writtenArray ["-2.5e+3".toList, "\"\\uD800\"".toList]) := by
    refine .array (isArray_writtenArray _) ?_
    simpa using And.intro (WellFormed.number hnumber) (WellFormed.text hhalf)
  have htags : Written c.tags.entries [("id_type", writtenText "integer")] :=
    .leave rfl (.leave rfl (.keep (isString_writtenText "integer") .nil))
  have hwritten : Written c.entries [("table_name", writtenText "users"),
      ("id_column", writtenText "id"), ("columns", "[ \"id\", \"na\\u006de\" ]".toList),
      ("tags", writtenObject [("id_type", writtenText "integer")]),
      ("include_untagged", "true".toList)] :=
    .keep (isString_writtenText "users") (.keep (isString_writtenText "id")
      (.keep ⟨_, hcolumns, .cons (isString_writtenText "id") (.cons hname .nil)⟩
        (.leave rfl (.leave rfl (.keep htags.isRecord_self (.keep rfl .nil))))))
  have hothers : ∀ m ∈ [("note", writtenArray ["-2.5e+3".toList, "\"\\uD800\"".toList])],
      m.1 ∉ c.entries.map Entry.name ∧ WellFormed m.2 := by
    simpa [Settings.entries] using hnote
  have hrecord : IsRecord c.entries (writtenObject
      [("columns", "[ \"id\", \"na\\u006de\" ]".toList),
        ("note", writtenArray ["-2.5e+3".toList, "\"\\uD800\"".toList]),
        ("include_untagged", "true".toList),
        ("tags", writtenObject [("id_type", writtenText "integer")]),
        ("table_name", writtenText "users"), ("id_column", writtenText "id")]) :=
    hwritten.isRecord hothers (by decide +kernel)
  have hdocument : c.IsDocument s.toList := by
    refine Eq.subst (motive := c.IsDocument) ?_ (.mk hspace hline hrecord)
    simp only [s]
    decide +kernel
  exact ⟨hdocument, by simpa using (load_isDocument c).2 "c.json" s.toList hdocument⟩

end TagSelect
