import Mathlib.Data.List.Induction
import Mathlib.Data.Nat.Digits.Defs
import TagSelect.Proofs.Decimal
import TagSelect.Proofs.Filing
import TagSelect.Proofs.Noninterference

/-!
# Ids that are integers

Where the settings ask for integers, a statement has the integer that the text of an id denotes.

A numeral (`Text.IsNumeral`) is a text of one or more decimal digits, and its value is that of the
digits in base ten. With one sign in front of it, or none, it denotes an integer (`Text.Denotes`),
and it is of sixty-four bits if this integer is between `-2 ^ 63` and `2 ^ 63 - 1` (`Text.IsInt64`).
Reading finds what a text denotes (`Text.integer?_eq_some`, `Text.int64?_eq_some`), and nothing if
it denotes no integer or one that is out of range.

The text of an id is not seen otherwise : if two indexes know the same tags and the ids of each tag
denote the same integers (`TagIndex.SameIntegers`), a filter has the same statement with both
(`Compiler.compile_eq_ok_of_sameIntegers`). `integer_ids` collects this, with what a statement shows
of an integer.
-/

namespace TagSelect

open Sql

/-! ## Numerals -/

namespace Text

/-- The text consists of decimal digits, of which there is at least one, and they have the value `n`
in base ten. The first digit counts most. -/
def IsNumeral (cs : List Char) (n : Nat) : Prop :=
  ∃ ds : List Nat, ds ≠ [] ∧ (∀ d ∈ ds, d < 10) ∧ cs = ds.map Nat.digitChar ∧
    n = Nat.ofDigits 10 ds.reverse

/-- The text is a numeral after at most one sign, and this is the integer that it stands for. -/
inductive Denotes : List Char → Int → Prop
  | unsigned {cs : List Char} {n : Nat} (h : IsNumeral cs n) : Denotes cs n
  | plus {cs : List Char} {n : Nat} (h : IsNumeral cs n) : Denotes ('+' :: cs) n
  | minus {cs : List Char} {n : Nat} (h : IsNumeral cs n) : Denotes ('-' :: cs) (-n)

/-- The text denotes this integer, which is in the range of sixty-four bits. -/
def IsInt64 (s : String) (n : Int) : Prop :=
  Denotes s.toList n ∧ -2 ^ 63 ≤ n ∧ n ≤ 2 ^ 63 - 1

theorem digitChar_digitValue {c : Char} (h : c.isDigit = true) :
    digitValue c < 10 ∧ Nat.digitChar (digitValue c) = c := by
  have hrange : 48 ≤ c.toNat ∧ c.toNat ≤ 57 := by
    simpa [Char.isDigit, UInt32.le_iff_toNat_le] using h
  have hlt : digitValue c < 10 := by
    simp only [digitValue, Char.reduceToNat]
    omega
  refine ⟨hlt, Char.toNat_inj.1 ?_⟩
  rw [Nat.toNat_digitChar_of_lt_ten hlt]
  simp only [digitValue, Char.reduceToNat]
  omega

theorem digitValue_digitChar {d : Nat} (h : d < 10) : digitValue (Nat.digitChar d) = d := by
  rw [digitValue, Nat.toNat_digitChar_of_lt_ten h]
  simp

/-- Taking digits one by one from the left gives their value in base ten. -/
theorem digitsFrom_map_digitChar (ds : List Nat) (h : ∀ d ∈ ds, d < 10) :
    digitsFrom 0 (ds.map Nat.digitChar) = Nat.ofDigits 10 ds.reverse := by
  induction ds using List.reverseRecOn with
  | nil => rfl
  | append_singleton ds d ih =>
    have hds := ih fun e he => h e (List.mem_append_left _ he)
    have hd : d < 10 := h d (by simp)
    rw [digitsFrom] at hds ⊢
    rw [List.map_append, List.foldl_append, hds, List.reverse_append]
    simp only [List.map_cons, List.map_nil, List.foldl_cons, List.foldl_nil,
      digitValue_digitChar hd, List.reverse_singleton, List.singleton_append, Nat.ofDigits_cons]
    exact Nat.add_comm _ _

/-- The characters of a numeral are digits. In particular none of them is a sign. -/
theorem IsNumeral.isDigit {cs : List Char} {n : Nat} (h : IsNumeral cs n) :
    ∀ c ∈ cs, c.isDigit = true := by
  obtain ⟨ds, -, hlt, rfl, -⟩ := h
  exact List.forall_mem_map.2 fun d hd => Nat.isDigit_digitChar.trans (decide_eq_true (hlt d hd))

/-- Reading digits finds the value of a numeral. -/
theorem natural?_eq_some {cs : List Char} {n : Nat} : natural? cs = some n ↔ IsNumeral cs n := by
  have hread : natural? cs = some n ↔
      cs ≠ [] ∧ (∀ c ∈ cs, c.isDigit = true) ∧ digitsFrom 0 cs = n := by
    simp [natural?, and_assoc]
  rw [hread]
  constructor
  · rintro ⟨hne, hdigits, rfl⟩
    have hcs : cs = (cs.map digitValue).map Nat.digitChar := by
      rw [List.map_map]
      refine (List.map_id cs).symm.trans (List.map_congr_left fun c hc => ?_)
      exact (digitChar_digitValue (hdigits c hc)).2.symm
    have hlt : ∀ d ∈ cs.map digitValue, d < 10 :=
      List.forall_mem_map.2 fun c hc => (digitChar_digitValue (hdigits c hc)).1
    refine ⟨cs.map digitValue, by simpa using hne, hlt, hcs, ?_⟩
    rw [← digitsFrom_map_digitChar _ hlt, ← hcs]
  · intro h
    have hdigits := h.isDigit
    obtain ⟨ds, hne, hlt, rfl, rfl⟩ := h
    exact ⟨by simpa using hne, hdigits, digitsFrom_map_digitChar ds hlt⟩

/-- Reading an integer finds what the text denotes. -/
theorem integer?_eq_some {cs : List Char} {n : Int} : integer? cs = some n ↔ Denotes cs n := by
  constructor
  · unfold integer?
    split
    · intro h
      obtain ⟨m, hm, rfl⟩ := Option.map_eq_some_iff.1 h
      exact .plus (natural?_eq_some.1 hm)
    · intro h
      obtain ⟨m, hm, rfl⟩ := Option.map_eq_some_iff.1 h
      exact .minus (natural?_eq_some.1 hm)
    · intro h
      obtain ⟨m, hm, rfl⟩ := Option.map_eq_some_iff.1 h
      exact .unsigned (natural?_eq_some.1 hm)
  · rintro (h | h | h)
    · -- The first two cases of the reader ask for a sign, and a numeral does not begin with one.
      rw [integer?_of_isDigit h.isDigit, natural?_eq_some.2 h]
      rfl
    · rw [integer?, natural?_eq_some.2 h]
      rfl
    · rw [integer?, natural?_eq_some.2 h]
      rfl

/-- Reading an integer of sixty-four bits finds what the text denotes, if it is in the range. -/
theorem int64?_eq_some {s : String} {m : Int64} : int64? s = some m ↔ IsInt64 s m.toInt := by
  have hmin : Int64.minValue.toInt = -2 ^ 63 := by decide
  have hmax : Int64.maxValue.toInt = 2 ^ 63 - 1 := by decide
  have hread : int64? s = some m ↔ ∃ n, integer? s.toList = some n ∧
      (-2 ^ 63 ≤ n ∧ n ≤ 2 ^ 63 - 1) ∧ Int64.ofInt n = m := by
    unfold int64?
    rw [hmin, hmax]
    cases integer? s.toList <;> simp
  rw [hread, IsInt64]
  constructor
  · rintro ⟨n, hn, hrange, rfl⟩
    rw [Int64.toInt_ofInt_of_le hrange.1 (by omega)]
    exact ⟨integer?_eq_some.1 hn, hrange⟩
  · rintro ⟨hn, hrange⟩
    exact ⟨m.toInt, integer?_eq_some.2 hn, hrange, Int64.ofInt_toInt m⟩

/-- An integer of sixty-four bits that a text denotes is found. -/
theorem IsInt64.exists_int64? {s : String} {n : Int} (h : IsInt64 s n) :
    ∃ m : Int64, int64? s = some m ∧ m.toInt = n := by
  have hm : (Int64.ofInt n).toInt = n := by
    obtain ⟨-, hmin, hmax⟩ := h
    exact Int64.toInt_ofInt_of_le hmin (by omega)
  exact ⟨Int64.ofInt n, int64?_eq_some.2 (hm.symm ▸ h), hm⟩

/-- Texts are read as the same if they denote the same integers of sixty-four bits. -/
theorem int64?_eq_iff {s t : String} : int64? s = int64? t ↔ ∀ n, IsInt64 s n ↔ IsInt64 t n := by
  have hfound : ∀ (s : String) (n : Int),
      IsInt64 s n ↔ ∃ m : Int64, int64? s = some m ∧ m.toInt = n :=
    fun s n => ⟨IsInt64.exists_int64?, fun ⟨m, hm, hn⟩ => hn ▸ int64?_eq_some.1 hm⟩
  constructor
  · intro h n
    rw [hfound, hfound, h]
  · intro h
    ext m
    rw [int64?_eq_some, int64?_eq_some, h]

end Text

/-! ## Values of ids -/

namespace Compiler

variable {c : Compiler} {key : TagKey} {id : String}

/-- The value of an id is the integer that the id denotes. -/
theorem idValue_eq_bigInt (htype : c.settings.tags.idType = .integer)
    (hid : c.index.find? key = some id) (n : Int) :
    (∃ m : Int64, c.idValue key = .ok (.bigInt m) ∧ m.toInt = n) ↔ Text.IsInt64 id n := by
  simp only [idValue_eq_ok_iff, hid, htype, Option.some.injEq, exists_eq_left', Value.bigInt.injEq]
  constructor
  · rintro ⟨m, ⟨_, hm, rfl⟩, rfl⟩
    exact Text.int64?_eq_some.1 hm
  · intro h
    obtain ⟨m, hm, hn⟩ := h.exists_int64?
    exact ⟨m, ⟨m, hm, rfl⟩, hn⟩

/-- An id that denotes no integer of sixty-four bits is an error. -/
theorem idValue_eq_invalidTagId (htype : c.settings.tags.idType = .integer)
    (hid : c.index.find? key = some id) (h : ∀ n, ¬Text.IsInt64 id n) :
    c.idValue key = .error (.invalidTagId key.canonical id) := by
  have hnone : Text.int64? id = none :=
    Option.eq_none_iff_forall_ne_some.2 fun m hm => h _ (Text.int64?_eq_some.1 hm)
  simp only [idValue, tagId, hid, htype, hnone]

end Compiler

/-! ## Indexes with the same integers -/

/-- The indexes know the same tags, and the ids of each tag denote the same integers. -/
structure TagIndex.SameIntegers (x y : TagIndex) : Prop where
  contains_eq : ∀ key, x.contains key = y.contains key
  isInt64_iff : ∀ key a b, x.find? key = some a → y.find? key = some b →
    ∀ n, Text.IsInt64 a n ↔ Text.IsInt64 b n

namespace TagIndex.SameIntegers

variable {x y : TagIndex}

theorem refl (x : TagIndex) : x.SameIntegers x := by
  refine ⟨fun _ => rfl, fun key a b ha hb n => ?_⟩
  rw [Option.some.inj (ha.symm.trans hb)]

/-- Filing a tag in both indexes, with ids that are read as the same integer, keeps this. -/
theorem insert (h : x.SameIntegers y) {key : TagKey} (hkey : key.canonical ≠ "") {a b : String}
    (hab : Text.int64? a = Text.int64? b) : (x.insert key a).SameIntegers (y.insert key b) := by
  constructor
  · intro q
    have hq := h.contains_eq q
    rw [contains, contains] at hq ⊢
    rw [x.find?_insert hkey, y.find?_insert hkey]
    split
    · rfl
    · exact hq
  · intro q a' b' hx hy
    rw [x.find?_insert hkey] at hx
    rw [y.find?_insert hkey] at hy
    split at hx
    · next hname =>
      rw [if_pos hname] at hy
      rw [← Option.some.inj hx, ← Option.some.inj hy]
      exact Text.int64?_eq_iff.1 hab
    · next hname =>
      rw [if_neg hname] at hy
      exact h.isInt64_iff q a' b' hx hy

end TagIndex.SameIntegers

namespace Compiler

variable {s : Settings} {x y : TagIndex}

theorem idValue_eq_ok_of_sameIntegers (htype : s.tags.idType = .integer) (h : x.SameIntegers y)
    (key : TagKey) (v : Value) :
    (Compiler.mk s x).idValue key = .ok v ↔ (Compiler.mk s y).idValue key = .ok v := by
  have hcontains := h.contains_eq key
  rw [TagIndex.contains, TagIndex.contains] at hcontains
  rw [idValue_eq_ok_iff, idValue_eq_ok_iff]
  cases hx : x.find? key with
  | none =>
    have hy : y.find? key = none := by simpa [hx] using hcontains
    simp [hy]
  | some a =>
    obtain ⟨b, hy⟩ := Option.isSome_iff_exists.1 (hcontains.symm.trans (by rw [hx]; rfl))
    simp [hy, htype, Text.int64?_eq_iff.2 (h.isInt64_iff key a b hx hy)]

/-- A filter has the same statement with both indexes, or with none of them. -/
theorem compile_eq_ok_of_sameIntegers (htype : s.tags.idType = .integer) (h : x.SameIntegers y)
    (f : Filter) (a : Select) :
    (Compiler.mk s x).compile f = .ok a ↔ (Compiler.mk s y).compile f = .ok a := by
  refine compile_eq_ok_of_leafwise (R := fun n m => n = m) ?_ (fun _ _ hnm => by rw [hnm])
    (.refl (fun _ => rfl) f) a
  rintro name _ rfl e
  simp only [leafCondition_eq_ok, idValue_eq_ok_of_sameIntegers htype h]

end Compiler

/-! ## Integers in statements -/

/-- The text of an integer is read as this integer, in every dialect. -/
theorem Sql.Dialect.int64?_literal (d : Dialect) (n : Int64) :
    Text.int64? (d.literal (.bigInt n)) = some n := by
  rw [literal, Text.int64?_toString n.minValue_le_toInt n.toInt_le, Int64.ofInt_toInt]

theorem Sql.Piece.inlined_append (d : Dialect) (ps qs : List Piece) :
    Piece.inlined d (ps ++ qs) = Piece.inlined d ps ++ Piece.inlined d qs := by
  simp only [Piece.inlined, List.map_append, String.join_append]

theorem Sql.Piece.inlined_value (d : Dialect) (v : Value) (ps : List Piece) :
    Piece.inlined d (.value v :: ps) = d.literal v ++ Piece.inlined d ps :=
  String.join_cons

/-- Let the settings ask for integers. The value of an id that the index has is `n` if the id is one
sign or none and then one or more decimal digits, with the value `n` between `-2 ^ 63` and
`2 ^ 63 - 1`; any other id is an error, which names the tag and the id. Wherever a statement has an
integer, its text has a part that is read as this integer. If two indexes know the same tags and the
ids of each tag denote the same integers, every filter has the same statement with both, or with
none of them. -/
theorem integer_ids :
    (∀ (c : Compiler) (key : TagKey) (id : String),
      c.settings.tags.idType = .integer → c.index.find? key = some id →
        (∀ n : Int, (∃ m : Int64, c.idValue key = .ok (.bigInt m) ∧ m.toInt = n) ↔
          Text.Denotes id.toList n ∧ -2 ^ 63 ≤ n ∧ n ≤ 2 ^ 63 - 1) ∧
        ((∀ n : Int, ¬(Text.Denotes id.toList n ∧ -2 ^ 63 ≤ n ∧ n ≤ 2 ^ 63 - 1)) →
          c.idValue key = .error (.invalidTagId key.canonical id))) ∧
    (∀ (s : Select) (d : Dialect) (before after : List Piece) (n : Int64),
      s.pieces d = before ++ .value (.bigInt n) :: after →
        ∃ t, s.inlined d = Piece.inlined d before ++ (t ++ Piece.inlined d after) ∧
          Text.int64? t = some n) ∧
    ∀ (s : Settings) (x y : TagIndex), s.tags.idType = .integer → x.SameIntegers y →
      ∀ (f : Filter) (a : Select),
        (Compiler.mk s x).compile f = .ok a ↔ (Compiler.mk s y).compile f = .ok a := by
  refine ⟨fun c key id htype hid => ⟨?_, ?_⟩, fun s d before after n h => ?_,
    fun s x y htype h => ?_⟩
  · exact Compiler.idValue_eq_bigInt htype hid
  · exact Compiler.idValue_eq_invalidTagId htype hid
  · refine ⟨d.literal (.bigInt n), ?_, d.int64?_literal n⟩
    rw [Select.inlined, h, Piece.inlined_append, Piece.inlined_value]
  · exact Compiler.compile_eq_ok_of_sameIntegers htype h

/-- Settings that ask for integers. -/
def integerSettings : Settings :=
  { Settings.standard with tags := { TagTable.standard with idType := .integer } }

/-- An index with ids in several spellings. That of `large` is out of range. -/
def spelledIndex : TagIndex :=
  ((TagIndex.empty.insert (.text "least") "-0009223372036854775808").insert
    (.text "k:v") "+07").insert (.text "large") "9223372036854775808"

/-- An index of the same tags with ids that denote the same integers. That of `large` is no
integer. -/
def plainlySpelledIndex : TagIndex :=
  ((TagIndex.empty.insert (.text "least") "-9223372036854775808").insert (.text "k:v") "7").insert
    (.text "large") "1e18"

/-- The least integer with zeros in front of it is an id, and the one above the greatest is none. A
filter of the other tags has one statement with both indexes, in which the least integer can be
read. -/
theorem integer_ids_spelled :
    let c := Compiler.mk integerSettings spelledIndex
    let f := Filter.or (.not (.tag (.plain "least"))) (.tag (.valued "k" "v"))
    let having := fun n => Expr.anyRow (.columnIs (Compiler.associationColumn "tag_id") (.bigInt n))
    let a := Compiler.entities integerSettings
      (.or (.not (having (-9223372036854775808))) (having 7)) ⟨.timestamp, .ascending⟩
    (∃ m : Int64, c.idValue (.text "least") = .ok (.bigInt m) ∧ m.toInt = -2 ^ 63) ∧
      c.idValue (.text "large") = .error (.invalidTagId "large" "9223372036854775808") ∧
      c.compile f = .ok a ∧ (Compiler.mk integerSettings plainlySpelledIndex).compile f = .ok a ∧
      ∃ before after t,
        a.pieces .mysql = before ++ .value (.bigInt (-9223372036854775808)) :: after ∧
        a.inlined .mysql = Piece.inlined .mysql before ++ (t ++ Piece.inlined .mysql after) ∧
        Text.int64? t = some (-9223372036854775808) := by
  intro c f having a
  obtain ⟨hvalue, hwritten, hsame⟩ := integer_ids
  have hleast : Text.IsInt64 "-0009223372036854775808" (-2 ^ 63) :=
    Text.int64?_eq_some (m := -9223372036854775808).1 (by decide +kernel)
  have hlarge : ∀ n, ¬Text.IsInt64 "9223372036854775808" n := by
    intro n hn
    obtain ⟨m, hm, -⟩ := hn.exists_int64?
    have hnone : Text.int64? "9223372036854775808" = none := by decide +kernel
    exact Option.some_ne_none m (hm.symm.trans hnone)
  have hindexes : spelledIndex.SameIntegers plainlySpelledIndex :=
    (((TagIndex.SameIntegers.refl _).insert (by decide) (by decide +kernel)).insert (by decide)
      (by decide +kernel)).insert (by decide) (by decide +kernel)
  have hcompile : c.compile f = .ok a := by
    have hok : (c.compile f).toOption = some a := by decide +kernel
    cases hf : c.compile f with
    | error e => simp [hf, Except.toOption] at hok
    | ok b =>
      rw [hf] at hok
      exact congrArg Except.ok (Option.some.inj hok)
  have hmem : .value (.bigInt (-9223372036854775808)) ∈ a.pieces .mysql := by decide +kernel
  obtain ⟨before, after, hpieces⟩ := List.append_of_mem hmem
  obtain ⟨t, ht, hread⟩ := hwritten a .mysql _ _ _ hpieces
  exact ⟨((hvalue c (.text "least") _ rfl (by decide +kernel)).1 _).2 hleast,
    (hvalue c (.text "large") _ rfl (by decide +kernel)).2 hlarge, hcompile,
    (hsame _ _ _ rfl hindexes f a).1 hcompile, _, _, t, hpieces, ht, hread⟩

end TagSelect
