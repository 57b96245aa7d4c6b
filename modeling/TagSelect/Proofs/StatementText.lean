import TagSelect.Proofs.Decimal
import TagSelect.Proofs.Lexemes
import TagSelect.Sql.Writer

/-!
# The lexemes of a statement

The lexemes that the text of a statement has, whatever its names and values are.

`Select.lexemes` says of a statement which lexemes its text should have : fixed words and signs,
and each name and each value in its place as a lexeme of its own. `lexemes_inlined` says that the
text has these lexemes and no others, for every statement. It follows the writer : each part of a
statement spells its lexemes, and between two parts stands a separator (`Separates`), a fixed text
that ends the lexeme before it. The rules of the writer about parentheses are made for all terms;
for expressions they come down to two short ones (`Expr.isBare`, `Expr.hasConnective`).

`quoted_forms_close` joins this with what is known of a single quoted form.
-/

namespace TagSelect.Sql

/-! ## What a statement consists of -/

/-- The lexemes of a column. -/
def Column.lexemes (c : Column) : List Lexeme :=
  match c.table with
  | none => [.name c.name]
  | some t => [.name t, .sign '.', .name c.name]

/-- The lexemes of a value. -/
def Value.lexemes (d : Dialect) : Value → List Lexeme
  | int n => [.word (toString n.toInt)]
  | bigInt n => [.word (toString n.toInt)]
  | bigUnsigned n => [.word (toString n.toNat)]
  | text s => [.text s]
  | bool true => [.word "TRUE"]
  | bool false => [.word "FALSE"]
  | bytes bs =>
    match d with
    | .postgres => [.text ("\\x" ++ hexBytes bs)]
    | .sqlite | .mysql => [.word "x", .text (hexBytes bs)]
  | null _ => [.word "NULL"]

/-- The sign of a comparison. -/
def Comparison.lexeme : Comparison → Lexeme
  | eq => .sign '='
  | gt => .sign '>'

/-- The word of a connective. -/
def Connective.lexeme : Connective → Lexeme
  | and => .word "AND"
  | or => .word "OR"

/-- What an operand stands under. -/
inductive Operator where
  | comparison
  | logical
deriving DecidableEq, Repr

namespace Expr

/-- Whether an operand needs no parentheses on account of what it is. -/
def isBare : Operator → Expr → Bool
  | _, column _ => true
  | _, value _ => true
  | _, aggregate _ _ => true
  | _, choose _ _ _ => true
  | .logical, compare _ _ _ => true
  | _, _ => false

/-- Whether an expression is one of a connective. -/
def hasConnective (op : Connective) : Expr → Bool
  | logical op' _ _ => op' = op
  | _ => false

end Expr

/-- The lexemes in parentheses, if `bare` does not say that they need none. -/
def grouped (bare : Bool) (ls : List Lexeme) : List Lexeme :=
  if bare then ls else .sign '(' :: (ls ++ [.sign ')'])

/-- The lexemes of an expression. -/
def Expr.lexemes (d : Dialect) : Expr → List Lexeme
  | column c => c.lexemes
  | value v => v.lexemes d
  | compare op l r =>
    grouped (isBare .comparison l) (l.lexemes d) ++
      ([op.lexeme] ++ grouped (isBare .comparison r) (r.lexemes d))
  | logical op l r =>
    grouped (isBare .logical l || hasConnective op l) (l.lexemes d) ++
      ([op.lexeme] ++ grouped (isBare .logical r) (r.lexemes d))
  | not e => [.word "NOT"] ++ grouped (isBare .logical e) (e.lexemes d)
  | aggregate op e => [.word op.name, .sign '('] ++ (e.lexemes d ++ [.sign ')'])
  | choose c y n =>
    [.sign '(', .word "CASE", .word "WHEN", .sign '('] ++ (c.lexemes d ++
      ([.sign ')', .word "THEN"] ++ (y.lexemes d ++
        ([.word "ELSE"] ++ (n.lexemes d ++ [.word "END", .sign ')'])))))

/-- The lexemes of a table. -/
def Table.lexemes (t : Table) : List Lexeme :=
  match t.label with
  | none => [.name t.name]
  | some label => [.name t.name, .word "AS", .name label]

/-- The lexemes of a part of what a statement returns. -/
def Item.lexemes (d : Dialect) : Item → List Lexeme
  | column c => c.lexemes
  | all none => [.sign '*']
  | all (some t) => [.name t, .sign '.', .sign '*']
  | named e label => e.lexemes d ++ [.word "AS", .name label]

/-- The word for a kind of join. -/
def JoinKind.lexeme : JoinKind → Lexeme
  | inner => .word "INNER"
  | left => .word "LEFT"
  | right => .word "RIGHT"

/-- The lexemes of a join. -/
def Join.lexemes (d : Dialect) (j : Join) : List Lexeme :=
  [j.kind.lexeme, .word "JOIN"] ++ (j.table.lexemes ++ ([.word "ON"] ++ j.condition.lexemes d))

/-- The lexemes of an expression after a word, if there is one. -/
def clauseLexemes (d : Dialect) (word : String) : Option Expr → List Lexeme
  | none => []
  | some e => [.word word] ++ e.lexemes d

/-- The lexemes of what rows are ordered by. -/
def OrderKey.lexemes (d : Dialect) : OrderKey → List Lexeme
  | column c => c.lexemes
  | random => [.word (if d = .mysql then "RAND" else "RANDOM"), .sign '(', .sign ')']

namespace Select

/-- The lexemes of the order. -/
def orderLexemes (d : Dialect) (s : Select) : List Lexeme :=
  match s.orderKey with
  | none => []
  | some key =>
    let direction := match s.direction with
      | some .ascending => "ASC"
      | _ => "DESC"
    [.word "ORDER", .word "BY"] ++ (key.lexemes d ++ [.word direction])

/-- The lexemes of what a statement returns. -/
def itemLexemes (d : Dialect) (items : List Item) : List Lexeme :=
  ((items.map (Item.lexemes d)).intersperse [.sign ',']).flatten

/-- The lexemes of a statement. -/
def lexemes (d : Dialect) (s : Select) : List Lexeme :=
  [.word "SELECT"] ++ (itemLexemes d s.items ++ ([.word "FROM"] ++ (s.source.lexemes ++
    (s.joins.flatMap (Join.lexemes d) ++ (clauseLexemes d "WHERE" s.condition ++
      ((s.groupBy.map fun c => [.word "GROUP", .word "BY"] ++ c.lexemes).getD [] ++
        (clauseLexemes d "HAVING" s.having ++ s.orderLexemes d)))))))

end Select

/-! ## Separators -/

variable {d : Dialect} {a b t : List Char} {la lb lt : List Lexeme}

/-- A fixed text that ends the lexeme before it. -/
structure Separates (d : Dialect) (t : List Char) (ls : List Lexeme) : Prop where
  opens : Opens d t ls
  breaks : Breaks t
  ne_nil : t ≠ []

/-- Whether a fixed text ends the lexeme before it. -/
def isSeparator (t : List Char) : Bool :=
  isFixed t && (t.head? == some ' ' || t.head? == some ')' || t.head? == some '.' ||
    t.head? == some ',')

theorem separates {t : String} {ls : List Lexeme} (ht : isSeparator t.toList = true)
    (hls : fixedLexemes [] t.toList = ls) : Separates d t.toList ls := by
  simp only [isSeparator, Bool.and_eq_true, Bool.or_eq_true, beq_iff_eq] at ht
  obtain ⟨hfixed, hhead⟩ := ht
  refine ⟨hls ▸ opens_of_isFixed hfixed, fun c hc => ?_, fun hnil => ?_⟩
  · obtain hc : t.toList.head? = some c := hc
    rw [hc] at hhead
    simpa [or_assoc] using hhead
  · simp [hnil] at hhead

/-- A part of a statement that is empty or ends the lexeme before it. -/
structure Segment (d : Dialect) (cs : List Char) (ls : List Lexeme) : Prop where
  spells : Spells d cs ls
  breaks : Breaks cs

theorem segment_nil : Segment d [] [] :=
  ⟨spells_nil, breaks_nil⟩

theorem Segment.append (ha : Segment d a la) (hb : Segment d b lb) :
    Segment d (a ++ b) (la ++ lb) :=
  ⟨ha.spells.append hb.spells hb.breaks, ha.breaks.append hb.breaks⟩

theorem Separates.segment (ht : Separates d t lt) (hb : Spells d b lb) :
    Segment d (t ++ b) (lt ++ lb) :=
  ⟨ht.opens.append hb, ht.breaks.append_of_ne_nil ht.ne_nil⟩

theorem Spells.append_segment (ha : Spells d a la) (hb : Segment d b lb) :
    Spells d (a ++ b) (la ++ lb) :=
  ha.append hb.spells hb.breaks

/-- Two parts with a separator between them. -/
theorem Spells.separated (ha : Spells d a la) (ht : Separates d t lt) (hb : Spells d b lb) :
    Spells d (a ++ (t ++ b)) (la ++ (lt ++ lb)) :=
  ha.append_segment (ht.segment hb)

/-! ## Values and columns -/

theorem isWordChar_of_isDigit {c : Char} (h : c.isDigit = true) : isWordChar c = true := by
  simp [isWordChar, Char.isAlphanum, h]

theorem isWordChar_of_mem_toDigits {n : Nat} {c : Char} (h : c ∈ Nat.toDigits 10 n) :
    isWordChar c = true :=
  isWordChar_of_isDigit (Text.isDigit_of_mem_toDigits h)

theorem spells_nat (n : Nat) : Spells d (toString n).toList [.word (toString n)] := by
  have hchars : (toString n).toList = Nat.toDigits 10 n := Nat.toList_repr
  refine spells_word ?_ ?_
  · rw [hchars]
    exact Nat.toDigits_ne_nil
  · intro c hc
    rw [hchars] at hc
    exact isWordChar_of_mem_toDigits hc

theorem spells_int (n : Int) : Spells d (toString n).toList [.word (toString n)] := by
  cases n with
  | ofNat n => exact spells_nat n
  | negSucc n =>
    have hchars := Text.toList_toString_negSucc n
    refine spells_word ?_ ?_
    · rw [hchars]
      exact List.cons_ne_nil _ _
    · intro c hc
      rw [hchars] at hc
      rcases List.mem_cons.1 hc with rfl | hc
      · rfl
      · exact isWordChar_of_mem_toDigits hc

theorem isAlphanum_of_mem_hexBytes {bs : List UInt8} {c : Char} (h : c ∈ (hexBytes bs).toList) :
    c.isAlphanum = true := by
  have hdigit : ∀ n < 16, (hexByte.hexDigit n).isAlphanum = true := by decide
  rw [hexBytes, String.toList_ofList] at h
  obtain ⟨b, -, hc⟩ := List.mem_flatMap.1 h
  have hb : b.toNat < 256 := b.toNat_lt
  simp only [hexByte, List.mem_cons, List.not_mem_nil, or_false] at hc
  rcases hc with rfl | rfl
  · exact hdigit _ (by omega)
  · exact hdigit _ (by omega)

theorem not_mem_hexBytes {bs : List UInt8} {c : Char} (hc : c.isAlphanum = false) :
    c ∉ (hexBytes bs).toList := by
  intro h
  rw [isAlphanum_of_mem_hexBytes h] at hc
  cases hc

/-- The digits of a byte string are the same in a literal and outside. -/
theorem toList_textLiteral_hexBytes (hd : d ≠ .postgres) (bs : List UInt8) :
    (d.textLiteral (hexBytes bs)).toList = '\'' :: ((hexBytes bs).toList ++ ['\'']) := by
  have hescape : ∀ c ∈ (hexBytes bs).toList, Dialect.escapeChar c = [c] := by
    intro c hc
    have hplain := isAlphanum_of_mem_hexBytes hc
    unfold Dialect.escapeChar
    split
    case h_10 => rfl
    all_goals cases hplain
  cases d with
  | postgres => exact absurd rfl hd
  | sqlite =>
    rw [Dialect.textLiteral, String.toList_ofList, Dialect.enclosed,
      double_eq_self (not_mem_hexBytes (by decide))]
  | mysql =>
    rw [Dialect.textLiteral, String.toList_ofList, Dialect.escape, List.flatMap_congr hescape,
      List.flatMap_singleton']

theorem spells_bytes_of_ne (hd : d ≠ .postgres) (bs : List UInt8) :
    Spells d ('x' :: (d.textLiteral (hexBytes bs)).toList) [.word "x", .text (hexBytes bs)] := by
  intro rest hrest
  have hhead : ∀ c ∈ ((d.textLiteral (hexBytes bs)).toList ++ rest).head?,
      isWordChar c = false := by
    rw [toList_textLiteral_hexBytes hd]
    simp only [List.cons_append, List.head?_cons, Option.mem_some_iff, forall_eq']
    decide
  have hx : ∀ c ∈ ['x'], isWordChar c = true := List.forall_mem_singleton.2 (by decide)
  have hword := Dialect.lexemes_word (d := d) (by simp) hx hhead (by simp)
  rw [spells_text _ rest hrest] at hword
  exact hword

theorem spells_bytes (bs : List UInt8) :
    Spells d (d.bytesLiteral bs).toList ((Value.bytes bs).lexemes d) := by
  cases d with
  | postgres =>
    intro rest hrest
    have hquote : '\'' ∉ ("\\x" ++ hexBytes bs).toList := by
      have hx : '\'' ∉ "\\x".toList := by decide
      rw [String.toList_append, List.mem_append, not_or]
      exact ⟨hx, not_mem_hexBytes (by decide)⟩
    have hscan := Dialect.scanText_double (d := .postgres) (by decide) ("\\x" ++ hexBytes bs)
      hrest.head?_ne_quote
    rw [double_eq_self hquote] at hscan
    have hchars : (Dialect.bytesLiteral .postgres bs).toList ++ rest =
        '\'' :: (("\\x" ++ hexBytes bs).toList ++ '\'' :: rest) := by
      simp [Dialect.bytesLiteral]
    rw [hchars, Dialect.lexemes_of_scanText hscan]
    rfl
  | sqlite =>
    have hchars : (Dialect.bytesLiteral .sqlite bs).toList =
        'x' :: (Dialect.textLiteral .sqlite (hexBytes bs)).toList := by
      rw [toList_textLiteral_hexBytes (by decide)]
      simp [Dialect.bytesLiteral]
    rw [hchars]
    exact spells_bytes_of_ne (by decide) bs
  | mysql =>
    have hchars : (Dialect.bytesLiteral .mysql bs).toList =
        'x' :: (Dialect.textLiteral .mysql (hexBytes bs)).toList := by
      rw [toList_textLiteral_hexBytes (by decide)]
      simp [Dialect.bytesLiteral]
    rw [hchars]
    exact spells_bytes_of_ne (by decide) bs

/-- A value spells its lexemes. -/
theorem Value.spells (v : Value) : Spells d (d.literal v).toList (v.lexemes d) := by
  have hword {s : String} (hs : s.toList ≠ [] ∧ s.toList.all isWordChar = true) :
      Spells d s.toList [.word s] := spells_word hs.1 (List.all_eq_true.1 hs.2)
  cases v with
  | int n => exact spells_int _
  | bigInt n => exact spells_int _
  | bigUnsigned n => exact spells_nat _
  | text s => exact spells_text s
  | bool b =>
    cases b with
    | false => exact hword (s := "FALSE") (by decide)
    | true => exact hword (s := "TRUE") (by decide)
  | bytes bs => exact spells_bytes bs
  | null type => exact hword (s := "NULL") (by decide)

/-- A column spells its lexemes. -/
theorem Column.spells (c : Column) : Spells d (c.text d).toList c.lexemes := by
  have hdot : Separates d ".".toList [.sign '.'] :=
    separates (by decide) (by decide)
  obtain ⟨table, name⟩ := c
  cases table with
  | none => exact spells_name name
  | some t =>
    have htable := spells_name (d := d) t
    have h := htable.separated hdot (spells_name name)
    simpa [Column.text, Column.lexemes] using h

/-! ## Expressions -/

namespace Piece

/-- The characters of pieces in which each value is a literal. -/
def chars (d : Dialect) (ps : List Piece) : List Char :=
  ps.flatMap fun
    | .text s => s.toList
    | .value v => (d.literal v).toList

theorem toList_inlined (ps : List Piece) : (Piece.inlined d ps).toList = chars d ps := by
  rw [inlined, String.toList_join, List.flatMap_map, chars]
  refine List.flatMap_congr fun p _ => ?_
  cases p <;> rfl

@[simp]
theorem chars_nil : chars d [] = [] :=
  rfl

@[simp]
theorem chars_text (s : String) (ps : List Piece) :
    chars d (.text s :: ps) = s.toList ++ chars d ps :=
  rfl

@[simp]
theorem chars_value (v : Value) (ps : List Piece) :
    chars d (.value v :: ps) = (d.literal v).toList ++ chars d ps :=
  rfl

@[simp]
theorem chars_append (ps qs : List Piece) : chars d (ps ++ qs) = chars d ps ++ chars d qs :=
  List.flatMap_append

end Piece

/-! ### The pieces of an expression -/

/-- The kind of the operators that an operand stands under. -/
def Operator.kind : Operator → OperatorKind
  | comparison => .comparison
  | logical => .logical

theorem Comparison.kind_operator (op : Comparison) :
    op.operator.kind = Operator.comparison.kind := by
  cases op <;> rfl

theorem Connective.kind_operator (op : Connective) : op.operator.kind = Operator.logical.kind := by
  cases op <;> rfl

namespace Expr

variable (op : Connective) (l r e : Expr)

/-- The two ways to look at what an operand is say the same of an expression. -/
theorem isBare_term (outer : Operator) : l.term.isBare outer.kind = isBare outer l := by
  cases l with
  | compare op l r => cases outer <;> cases op <;> rfl
  | logical op l r => cases outer <;> cases op <;> rfl
  | _ => cases outer <;> rfl

theorem settled?_term (op : BinaryOperator) : op.settled? e.term = none := by
  cases e <;> rfl

theorem isBareLeft_term_compare (op : Comparison) :
    l.term.isBareLeft op.operator = isBare .comparison l := by
  rw [← isBare_term]
  cases op <;> cases l <;>
    simp [Term.isBareLeft, Comparison.operator, Operator.kind, term, Column.term]

theorem isBareLeft_term_logical :
    l.term.isBareLeft op.operator = (isBare .logical l || hasConnective op l) := by
  rw [← isBare_term]
  cases l with
  | compare op' l r => cases op <;> cases op' <;> rfl
  | logical op' l r => cases op <;> cases op' <;> rfl
  | _ => cases op <;> rfl

/-- Only ranges, patterns and conversions make exceptions for their right operand. -/
theorem isBareRight_term {outer : Operator} {op : BinaryOperator} (h : op.kind = outer.kind) :
    r.term.isBareRight op = isBare outer r := by
  rw [← isBare_term, ← h]
  cases outer <;> cases r.term <;> simp [Term.isBareRight, h, Operator.kind]

theorem pieces_column (c : Column) : (column c).pieces d = [.text (c.text d)] := by
  obtain ⟨table, name⟩ := c
  cases table <;> rfl

theorem pieces_value (v : Value) : (value v).pieces d = [.value v] := by
  simp [pieces, term, Term.pieces]

theorem pieces_compare (op : Comparison) : (compare op l r).pieces d =
    parenthesized (isBare .comparison l) (l.pieces d) ++
      .text (" " ++ op.operator.word ++ " ") ::
        parenthesized (isBare .comparison r) (r.pieces d) := by
  rw [pieces, term, Term.pieces, settled?_term, isBareLeft_term_compare,
    isBareRight_term r op.kind_operator]
  rfl

theorem pieces_logical : (logical op l r).pieces d =
    parenthesized (isBare .logical l || hasConnective op l) (l.pieces d) ++
      .text (" " ++ op.operator.word ++ " ") ::
        parenthesized (isBare .logical r) (r.pieces d) := by
  rw [pieces, term, Term.pieces, settled?_term, isBareLeft_term_logical,
    isBareRight_term r op.kind_operator]
  rfl

theorem pieces_not : (not e).pieces d =
    .text "NOT " :: parenthesized (isBare .logical e) (e.pieces d) := by
  rw [pieces, term, Term.pieces, ← isBare_term]
  rfl

theorem pieces_aggregate (op : Aggregate) : (aggregate op e).pieces d =
    .text (op.name ++ "(") :: (e.pieces d ++ [.text ")"]) := by
  simp [pieces, term, Term.pieces, Term.piecesEach, commaSeparated]

theorem pieces_choose : (choose e l r).pieces d =
    .text "(CASE" :: .text " WHEN (" :: (e.pieces d ++
      .text ") THEN " :: (l.pieces d ++ .text " ELSE " :: (r.pieces d ++ [.text " END)"]))) := by
  simp [pieces, term, Term.pieces, Term.piecesEach, armPieces]

end Expr

@[simp]
theorem pieces_term (e : Expr) : Term.pieces d (Writable.term e) = e.pieces d :=
  rfl

@[simp]
theorem pieces_raw (s : String) : Term.pieces d (.raw s) = [.text s] := by
  rw [Term.pieces]

theorem spells_parenthesized {ps : List Piece} {ls : List Lexeme} (bare : Bool)
    (h : Spells d (Piece.chars d ps) ls) :
    Spells d (Piece.chars d (parenthesized bare ps)) (grouped bare ls) := by
  cases bare with
  | true => exact h
  | false =>
    have hleft : Opens d "(".toList [.sign '('] := opens_of_isFixed (by decide)
    have hright : Separates d ")".toList [.sign ')'] := separates (by decide) (by decide)
    have hparens := hleft.append (h.append_segment (hright.segment spells_nil))
    simpa [parenthesized, grouped] using hparens

/-- An expression spells its lexemes. -/
theorem Expr.spells : ∀ e : Expr, Spells d (Piece.chars d (e.pieces d)) (e.lexemes d)
  | .column c => by simpa [Expr.pieces_column, Expr.lexemes] using c.spells
  | .value v => by simpa [Expr.pieces_value, Expr.lexemes] using v.spells
  | .compare op l r => by
    have hsign : Separates d (" " ++ op.operator.word ++ " ").toList [op.lexeme] := by
      cases op <;> exact separates (by decide) (by decide)
    have hl := spells_parenthesized (isBare .comparison l) (Expr.spells l)
    have hr := spells_parenthesized (isBare .comparison r) (Expr.spells r)
    simpa [Expr.pieces_compare, Expr.lexemes] using hl.separated hsign hr
  | .logical op l r => by
    have hword : Separates d (" " ++ op.operator.word ++ " ").toList [op.lexeme] := by
      cases op <;> exact separates (by decide) (by decide)
    have hl := spells_parenthesized (isBare .logical l || hasConnective op l) (Expr.spells l)
    have hr := spells_parenthesized (isBare .logical r) (Expr.spells r)
    simpa [Expr.pieces_logical, Expr.lexemes] using hl.separated hword hr
  | .not e => by
    have hnot : Opens d "NOT ".toList [.word "NOT"] := opens_of_isFixed (by decide)
    have he := spells_parenthesized (isBare .logical e) (Expr.spells e)
    simpa [Expr.pieces_not, Expr.lexemes] using hnot.append he
  | .aggregate op e => by
    have hopen : Opens d (op.name ++ "(").toList [.word op.name, .sign '('] := by
      cases op <;> exact opens_of_isFixed (by decide)
    have hclose : Separates d ")".toList [.sign ')'] := separates (by decide) (by decide)
    have h := hopen.append ((Expr.spells e).append_segment (hclose.segment spells_nil))
    simpa [Expr.pieces_aggregate, Expr.lexemes] using h
  | .choose c y n => by
    have hcase : Opens d "(CASE WHEN (".toList
        [.sign '(', .word "CASE", .word "WHEN", .sign '('] := opens_of_isFixed (by decide)
    have hthen : Separates d ") THEN ".toList [.sign ')', .word "THEN"] :=
      separates (by decide) (by decide)
    have helse : Separates d " ELSE ".toList [.word "ELSE"] := separates (by decide) (by decide)
    have hend : Separates d " END)".toList [.word "END", .sign ')'] :=
      separates (by decide) (by decide)
    have hn := (Expr.spells n).append_segment (hend.segment spells_nil)
    have h := hcase.append ((Expr.spells c).separated hthen ((Expr.spells y).separated helse hn))
    simpa [Expr.pieces_choose, Expr.lexemes] using h

/-! ## Statements -/

theorem separates_as : Separates d " AS ".toList [.word "AS"] :=
  separates (by decide) (by decide)

/-- A table spells its lexemes. -/
theorem Table.spells (t : Table) : Spells d (t.text d).toList t.lexemes := by
  obtain ⟨name, label⟩ := t
  cases label with
  | none => exact spells_name name
  | some label =>
    have h := (spells_name (d := d) name).separated separates_as (spells_name label)
    simpa [Table.text, Table.lexemes] using h

/-- A part of what a statement returns spells its lexemes. -/
theorem Item.spells (i : Item) :
    Spells d (Piece.chars d ((i.layout d).flatMap (Term.pieces d))) (i.lexemes d) := by
  cases i with
  | column c => simpa [Item.layout, Item.lexemes] using c.spells
  | all table =>
    cases table with
    | none =>
      have hstar : Opens d "*".toList [.sign '*'] := opens_of_isFixed (by decide)
      simpa [Item.layout, Item.lexemes] using hstar.spells
    | some t =>
      have hstar : Separates d ".*".toList [.sign '.', .sign '*'] :=
        separates (by decide) (by decide)
      have h := (spells_name (d := d) t).append_segment (hstar.segment spells_nil)
      simpa [Item.layout, Item.lexemes] using h
  | named e label =>
    have h := (e.spells (d := d)).separated separates_as (spells_name label)
    simpa [Item.layout, Item.lexemes] using h

theorem spells_items : ∀ items : List Item,
    Spells d (Piece.chars d
        (((items.map (Item.layout d)).intersperse [.raw ", "]).flatten.flatMap (Term.pieces d)))
      (Select.itemLexemes d items)
  | [] => spells_nil
  | [i] => by simpa [Select.itemLexemes] using i.spells
  | i :: j :: items => by
    have hcomma : Separates d ", ".toList [.sign ','] := separates (by decide) (by decide)
    have h := (i.spells (d := d)).separated hcomma (spells_items (j :: items))
    simpa [Select.itemLexemes] using h

/-- A join ends the lexeme before it and spells its lexemes. -/
theorem Join.segment (j : Join) :
    Segment d (Piece.chars d ((j.layout d).flatMap (Term.pieces d))) (j.lexemes d) := by
  have hkind : Separates d j.kind.words.toList [j.kind.lexeme, .word "JOIN"] := by
    cases j.kind <;> exact separates (by decide) (by decide)
  have hon : Separates d " ON ".toList [.word "ON"] := separates (by decide) (by decide)
  have h := hkind.segment (j.table.spells.separated hon j.condition.spells)
  simpa [Join.layout, Join.lexemes] using h

theorem segment_joins : ∀ joins : List Join,
    Segment d (Piece.chars d ((joins.flatMap (Join.layout d)).flatMap (Term.pieces d)))
      (joins.flatMap (Join.lexemes d))
  | [] => segment_nil
  | j :: joins => by simpa using j.segment.append (segment_joins joins)

theorem segment_clause {word : String} {lexeme : String}
    (hword : Separates d word.toList [.word lexeme]) (e : Option Expr) :
    Segment d (Piece.chars d ((clause word e).flatMap (Term.pieces d)))
      (clauseLexemes d lexeme e) := by
  cases e with
  | none => exact segment_nil
  | some e => simpa [clause, clauseLexemes] using hword.segment e.spells

theorem segment_groupBy (c : Option Column) :
    Segment d (Piece.chars d
        ((c.map fun c => Term.raw (" GROUP BY " ++ c.text d)).toList.flatMap (Term.pieces d)))
      ((c.map fun c => [.word "GROUP", .word "BY"] ++ c.lexemes).getD []) := by
  cases c with
  | none => exact segment_nil
  | some c =>
    have hword : Separates d " GROUP BY ".toList [.word "GROUP", .word "BY"] :=
      separates (by decide) (by decide)
    simpa using hword.segment c.spells

theorem OrderKey.spells (key : OrderKey) : Spells d (key.text d).toList (key.lexemes d) := by
  cases key with
  | column c => exact c.spells
  | random =>
    cases d with
    | postgres => exact (opens_of_isFixed (t := "RANDOM()") (by decide)).spells
    | sqlite => exact (opens_of_isFixed (t := "RANDOM()") (by decide)).spells
    | mysql => exact (opens_of_isFixed (t := "RAND()") (by decide)).spells

theorem Select.segment_order (s : Select) :
    Segment d (Piece.chars d ((s.orderLayout d).flatMap (Term.pieces d))) (s.orderLexemes d) := by
  have horder : Separates d " ORDER BY ".toList [.word "ORDER", .word "BY"] :=
    separates (by decide) (by decide)
  have hblank : Separates d " ".toList [] := separates (by decide) (by decide)
  have hdirection {w : String} (hw : w.toList ≠ [] ∧ w.toList.all isWordChar = true)
      (key : OrderKey) : Segment d (" ORDER BY ".toList ++ ((key.text d).toList ++
        (" ".toList ++ w.toList))) ([.word "ORDER", .word "BY"] ++ (key.lexemes d ++ [.word w])) :=
    horder.segment (key.spells.separated hblank (spells_word hw.1 (List.all_eq_true.1 hw.2)))
  unfold orderLayout orderLexemes
  cases s.orderKey with
  | none => exact segment_nil
  | some key =>
    have hdesc := hdirection (w := "DESC") (by decide) key
    cases s.direction with
    | none => simpa using hdesc
    | some direction =>
      cases direction with
      | ascending => simpa using hdirection (w := "ASC") (by decide) key
      | descending => simpa using hdesc

/-- A statement spells its lexemes. -/
theorem Select.spells (s : Select) : Spells d (Piece.chars d (s.pieces d)) (s.lexemes d) := by
  have hselect : Opens d "SELECT ".toList [.word "SELECT"] := opens_of_isFixed (by decide)
  have hfrom : Separates d " FROM ".toList [.word "FROM"] := separates (by decide) (by decide)
  have hwhere : Separates d " WHERE ".toList [.word "WHERE"] := separates (by decide) (by decide)
  have hhaving : Separates d " HAVING ".toList [.word "HAVING"] :=
    separates (by decide) (by decide)
  have hend := (segment_clause hhaving s.having).append s.segment_order
  have hgroup := (segment_groupBy (d := d) s.groupBy).append hend
  have hrows := (segment_joins s.joins).append ((segment_clause hwhere s.condition).append hgroup)
  have hbody := s.source.spells.append_segment hrows
  have h := hselect.append ((spells_items s.items).separated hfrom hbody)
  simpa [Select.pieces, Select.layout, Select.lexemes] using h

/-- The text of a statement has the lexemes of the statement. -/
theorem lexemes_inlined (s : Select) : d.lexemes (s.inlined d).toList = s.lexemes d := by
  rw [Select.inlined, Piece.toList_inlined]
  exact s.spells.lexemes_eq

/-- By the rules of its dialect, the literal of a text and the quoted form of a name are read up to
their last character, if their mark does not follow, and as the text or the name itself, so that
different ones have different forms. A literal of Postgres without an `E` holds neither a quote nor
a backslash. In the text of a statement no mark follows : each name and each value is a lexeme of
its own there, and the lexemes around it do not depend on it. -/
theorem quoted_forms_close (d : Dialect) :
    (∀ (v : String) (rest : List Char), rest.head? ≠ some '\'' →
        d.scanText ((d.textLiteral v).toList ++ rest) = some (v, rest)) ∧
      (∀ (n : String) (rest : List Char), rest.head? ≠ some d.nameMark →
        d.scanName ((d.quoteName n).toList ++ rest) = some (n, rest)) ∧
      (∀ v w, d.textLiteral v = d.textLiteral w → v = w) ∧
      (∀ n m, d.quoteName n = d.quoteName m → n = m) ∧
      (∀ v, (Dialect.textLiteral .postgres v).toList.head? = some '\'' →
        (Dialect.textLiteral .postgres v).toList = '\'' :: (v.toList ++ ['\'']) ∧
          '\'' ∉ v.toList ∧ '\\' ∉ v.toList) ∧
      ∀ s : Select, d.lexemes (s.inlined d).toList = s.lexemes d := by
  refine ⟨fun v _ => Dialect.scanText_textLiteral v, fun n _ => Dialect.scanName_quoteName n,
    fun _ _ => Dialect.textLiteral_injective, fun _ _ => Dialect.quoteName_injective, ?_,
    lexemes_inlined⟩
  intro v hhead
  rcases Dialect.toList_textLiteral_postgres v with ⟨-, hchars⟩ | ⟨hslash, hquote, hchars⟩
  · rw [hchars] at hhead
    cases hhead
  · exact ⟨hchars, hquote, hslash⟩

/-- A text that would end a literal by doubling or by escaping. -/
theorem hostile_text_closed :
    Dialect.textLiteral .sqlite "\\'; --" = "'\\''; --'" ∧
      Dialect.scanText .sqlite ("'\\''; --'".toList ++ [')']) = some ("\\'; --", [')']) ∧
      Dialect.textLiteral .postgres "\\'; --" = "E'\\\\\\'; --'" ∧
      Dialect.scanText .postgres ("E'\\\\\\'; --'".toList ++ [')']) = some ("\\'; --", [')']) := by
  have hsqlite : Dialect.textLiteral .sqlite "\\'; --" = "'\\''; --'" := by decide +kernel
  have hpostgres : Dialect.textLiteral .postgres "\\'; --" = "E'\\\\\\'; --'" := by decide +kernel
  refine ⟨hsqlite, ?_, hpostgres, ?_⟩
  · rw [← hsqlite]
    exact (quoted_forms_close .sqlite).1 _ _ (by decide)
  · rw [← hpostgres]
    exact (quoted_forms_close .postgres).1 _ _ (by decide)

end TagSelect.Sql
