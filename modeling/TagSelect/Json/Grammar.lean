import Mathlib.Data.List.Forall2

/-!
# The grammar of documents

Which texts are JSON, and which of them are objects with given members, said without a reader.

A text between quotation marks spells a string (`Spells`), in which any character may be written
as an escape; a text that no reader keeps need not spell one (`IsText`), since it may hold half of a
character. Arrays and objects are parts with commas between them and white space around
(`Listed`), and `WellFormed` is any value.

A record is an object that is described by entries (`Entry`) : each has a name and the texts of its
value, and some may be left out. `IsRecord` has the texts of a record : entries that may be left out
are left out or not, members of other names are put in, and all stand in any order.
-/

namespace TagSelect.Json

/-- White space between the parts of a document. -/
def IsSpace (cs : List Char) : Prop :=
  ∀ c ∈ cs, c = ' ' ∨ c = '\n' ∨ c = '\t' ∨ c = '\r'

/-! ## Texts -/

/-- The digits of base sixteen and their values. -/
def hexDigits : List (Char × Nat) :=
  [('0', 0), ('1', 1), ('2', 2), ('3', 3), ('4', 4), ('5', 5), ('6', 6), ('7', 7), ('8', 8),
    ('9', 9), ('a', 10), ('b', 11), ('c', 12), ('d', 13), ('e', 14), ('f', 15),
    ('A', 10), ('B', 11), ('C', 12), ('D', 13), ('E', 14), ('F', 15)]

/-- Four digits of base sixteen with the value of the number. -/
inductive IsUnit : List Char → Nat → Prop
  | mk {a b c d : Char} {w x y z : Nat} (ha : (a, w) ∈ hexDigits) (hb : (b, x) ∈ hexDigits)
      (hc : (c, y) ∈ hexDigits) (hd : (d, z) ∈ hexDigits) :
      IsUnit [a, b, c, d] (4096 * w + 256 * x + 16 * y + z)

/-- The letters of short escapes and their characters. -/
def shortEscapes : List (Char × Char) :=
  [('"', '"'), ('\\', '\\'), ('/', '/'), ('b', '\x08'), ('f', '\x0c'), ('n', '\n'), ('r', '\r'),
    ('t', '\t')]

/-- The characters stand for one character of a string. -/
inductive SpellsChar : List Char → Char → Prop
  /-- The character itself, if it is neither a control character nor a mark. -/
  | plain {c : Char} (hcontrol : ' ' ≤ c) (hquote : c ≠ '"') (hslash : c ≠ '\\') : SpellsChar [c] c
  | short {e c : Char} (h : (e, c) ∈ shortEscapes) : SpellsChar ['\\', e] c
  | unit {cs : List Char} {c : Char} (h : IsUnit cs c.toNat) : SpellsChar ('\\' :: 'u' :: cs) c
  /-- A character beyond the units, as a pair of them. -/
  | pair {cs ds : List Char} {high low : Nat} {c : Char} (hcs : IsUnit cs high)
      (hds : IsUnit ds low) (hhigh : 0xD800 ≤ high ∧ high ≤ 0xDBFF)
      (hlow : 0xDC00 ≤ low ∧ low ≤ 0xDFFF)
      (hc : c.toNat = 0x10000 + 0x400 * (high - 0xD800) + (low - 0xDC00)) :
      SpellsChar ('\\' :: 'u' :: (cs ++ '\\' :: 'u' :: ds)) c

/-- The characters between quotation marks stand for a string. -/
inductive Spells : List Char → List Char → Prop
  | nil : Spells [] []
  | cons {cs ds s : List Char} {c : Char} (hc : SpellsChar cs c) (hs : Spells ds s) :
      Spells (cs ++ ds) (c :: s)

/-- The characters may stand between quotation marks. They need not stand for a string. -/
inductive IsText : List Char → Prop
  | nil : IsText []
  | plain {c : Char} {cs : List Char} (hcontrol : ' ' ≤ c) (hquote : c ≠ '"') (hslash : c ≠ '\\')
      (hcs : IsText cs) : IsText (c :: cs)
  | short {e c : Char} {cs : List Char} (h : (e, c) ∈ shortEscapes) (hcs : IsText cs) :
      IsText ('\\' :: e :: cs)
  | unit {ds cs : List Char} {n : Nat} (h : IsUnit ds n) (hcs : IsText cs) :
      IsText ('\\' :: 'u' :: (ds ++ cs))

/-! ## Numbers -/

/-- At least one decimal digit, and nothing else. -/
def IsDigits (cs : List Char) : Prop :=
  cs ≠ [] ∧ ∀ c ∈ cs, c.isDigit = true

/-- A point and digits, or nothing. -/
inductive IsFraction : List Char → Prop
  | none : IsFraction []
  | some {ds : List Char} (h : IsDigits ds) : IsFraction ('.' :: ds)

/-- An exponent with or without a sign, or nothing. -/
inductive IsExponent : List Char → Prop
  | none : IsExponent []
  | some {e : Char} {sign ds : List Char} (he : e = 'e' ∨ e = 'E')
      (hsign : sign = [] ∨ sign = ['+'] ∨ sign = ['-']) (h : IsDigits ds) :
      IsExponent (e :: (sign ++ ds))

/-- A number. A zero in front stands alone. -/
inductive IsNumber : List Char → Prop
  | mk {sign whole fraction exponent : List Char} (hsign : sign = [] ∨ sign = ['-'])
      (hwhole : IsDigits whole) (hzero : whole.head? = some '0' → whole = ['0'])
      (hfraction : IsFraction fraction) (hexponent : IsExponent exponent) :
      IsNumber (sign ++ (whole ++ (fraction ++ exponent)))

/-! ## Values -/

/-- Parts with commas between them and white space around each. -/
inductive Listed : List (List Char) → List Char → Prop
  | none {gap : List Char} (h : IsSpace gap) : Listed [] gap
  | last {before part after : List Char} (hbefore : IsSpace before) (hafter : IsSpace after) :
      Listed [part] (before ++ (part ++ after))
  | more {before part after next cs : List Char} {parts : List (List Char)}
      (hbefore : IsSpace before) (hafter : IsSpace after) (h : Listed (next :: parts) cs) :
      Listed (part :: next :: parts) (before ++ (part ++ (after ++ ',' :: cs)))

/-- An array with the texts of its elements. -/
inductive IsArray (elements : List (List Char)) : List Char → Prop
  | mk {cs : List Char} (h : Listed elements cs) : IsArray elements ('[' :: (cs ++ [']']))

/-- A member of an object : what is between the quotation marks of its name, and the text of its
value. -/
inductive IsMember (name value : List Char) : List Char → Prop
  | mk {before after : List Char} (hbefore : IsSpace before) (hafter : IsSpace after) :
      IsMember name value ('"' :: (name ++ '"' :: (before ++ ':' :: (after ++ value))))

/-- An object with the names and the values of its members. -/
inductive IsObject (members : List (List Char × List Char)) : List Char → Prop
  | mk {parts : List (List Char)} {cs : List Char}
      (hparts : List.Forall₂ (fun m part => IsMember m.1 m.2 part) members parts)
      (h : Listed parts cs) : IsObject members ('{' :: (cs ++ ['}']))

/-- Any value. -/
inductive WellFormed : List Char → Prop
  | null : WellFormed ['n', 'u', 'l', 'l']
  | true : WellFormed ['t', 'r', 'u', 'e']
  | false : WellFormed ['f', 'a', 'l', 's', 'e']
  | number {cs : List Char} (h : IsNumber cs) : WellFormed cs
  | text {cs : List Char} (h : IsText cs) : WellFormed ('"' :: (cs ++ ['"']))
  | array {elements : List (List Char)} {cs : List Char} (h : IsArray elements cs)
      (helements : ∀ v ∈ elements, WellFormed v) : WellFormed cs
  | object {members : List (List Char × List Char)} {cs : List Char} (h : IsObject members cs)
      (hnames : ∀ m ∈ members, IsText m.1) (hvalues : ∀ m ∈ members, WellFormed m.2) :
      WellFormed cs

/-! ## Records -/

/-- The text of a string. -/
inductive IsString (s : String) : List Char → Prop
  | mk {cs : List Char} (h : Spells cs s.toList) : IsString s ('"' :: (cs ++ ['"']))

/-- What a record says under a name. -/
structure Entry where
  name : String
  /-- The entry may be left out. -/
  omissible : Prop
  /-- The texts of the value. -/
  texts : List Char → Prop

/-- The entries with texts of their values, less some that may be left out. -/
inductive Written : List Entry → List (String × List Char) → Prop
  | nil : Written [] []
  | keep {e : Entry} {es : List Entry} {ms : List (String × List Char)} {v : List Char}
      (hv : e.texts v) (h : Written es ms) : Written (e :: es) ((e.name, v) :: ms)
  | leave {e : Entry} {es : List Entry} {ms : List (String × List Char)} (he : e.omissible)
      (h : Written es ms) : Written (e :: es) ms

/-- An object with the entries of a record and others, in any order. -/
inductive IsRecord (entries : List Entry) : List Char → Prop
  | mk {written others members : List (String × List Char)}
      {spelled : List (List Char × List Char)} {cs : List Char}
      (hwritten : Written entries written)
      (hothers : ∀ m ∈ others, m.1 ∉ entries.map Entry.name ∧ WellFormed m.2)
      (horder : members.Perm (written ++ others))
      (hspelled : List.Forall₂ (fun m m' => Spells m'.1 m.1.toList ∧ m'.2 = m.2) members spelled)
      (h : IsObject spelled cs) : IsRecord entries cs

end TagSelect.Json
