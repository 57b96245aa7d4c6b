import TagSelect.Proofs.Lowering
import TagSelect.Proofs.StatementText

/-!
# Reading conditions back

The condition that a statement puts on groups, read from the statement's text by the rules of
precedence, is the condition that the filter was compiled to.

A reader of expressions takes one lexeme after the other. Operators that lack their right operand,
and brackets that are open, wait on a stack (`Pending`). A comparison binds more tightly than `NOT`,
`NOT` more tightly than `AND`, and `AND` more tightly than `OR` (`Pending.strength`). When an
operator comes, those on the stack that bind at least as tightly take the expression before it as
their operand (`settle`), so that operators of one strength associate to the left.

The writer leaves out the parentheses around an operand only where the reader does not need them.
`Expr.reads` says so for every expression, by induction : the operators that are still on the stack
after the lexemes of an expression are settled by whatever binds no more tightly than the
expression itself.

The text of a number does not say how wide the number is, so an expression is read with all numbers
as wide as they can be (`Expr.widened`). Among the conditions of filters, no two differ in nothing
else (`IsCondition.widened_injective`).
-/

namespace TagSelect.Sql

/-! ## A reader of expressions -/

/-- What waits for the expression to its right : an operator, or a bracket. -/
inductive Pending where
  | compare (op : Comparison) (left : Expr)
  | not
  | logical (op : Connective) (left : Expr)
  /-- An open parenthesis. -/
  | group
  /-- The open parenthesis of a call. -/
  | call (op : Aggregate)
  /-- A case distinction after `WHEN`. -/
  | test
  /-- A case distinction after `THEN`. -/
  | yes (condition : Expr)
  /-- A case distinction after `ELSE`. -/
  | no (condition yes : Expr)
deriving DecidableEq, Repr

/-- How tightly a connective binds. -/
def Connective.strength : Connective → Nat
  | or => 1
  | and => 2

namespace Pending

/-- How tightly an operator binds. A bracket does not. -/
def strength : Pending → Nat
  | compare _ _ => 4
  | not => 3
  | logical op _ => op.strength
  | _ => 0

/-- The expression of an operator with its right operand. -/
def complete : Pending → Expr → Expr
  | compare op left, e => .compare op left e
  | not, e => .not e
  | logical op left, e => .logical op left e
  | _, e => e

end Pending

/-- Gives an expression as operand to the operators that bind at least as tightly as `n`, from the
last one on, up to the first that does not. -/
def settle (n : Nat) : List Pending → Expr → List Pending × Expr
  | [], e => ([], e)
  | p :: ps, e => if n ≤ p.strength then settle n ps (p.complete e) else (p :: ps, e)

/-- The state of a reader. -/
inductive Reader where
  /-- An operand comes next. -/
  | operand (ps : List Pending)
  /-- An operand has been read. -/
  | after (ps : List Pending) (e : Expr)
  /-- The name of a column comes next. -/
  | path (ps : List Pending) (table : String)
  /-- The parenthesis of a call comes next. -/
  | call (ps : List Pending) (op : Aggregate)
  /-- The `WHEN` of a case distinction comes next. -/
  | case (ps : List Pending)
deriving DecidableEq, Repr

namespace Reader

/-- The value that a word stands for. -/
def value? (w : String) : Option Value :=
  match Text.int64? w with
  | some n => some (.bigInt n)
  | none =>
    if w = "TRUE" then some (.bool true) else if w = "FALSE" then some (.bool false) else none

/-- An operator comes : it takes what binds at least as tightly as its left operand. -/
def join (p : Expr → Pending) (ps : List Pending) (e : Expr) : Reader :=
  match settle (p e).strength ps e with
  | (ps, e) => operand (p e :: ps)

/-- A closing parenthesis comes. -/
def close (ps : List Pending) (e : Expr) : Option Reader :=
  match settle 1 ps e with
  | (.group :: ps, e) => some (after ps e)
  | (.call op :: ps, e) => some (after ps (.aggregate op e))
  | _ => none

/-- A word of a case distinction comes. -/
def turn (w : String) (ps : List Pending) (e : Expr) : Option Reader :=
  match settle 1 ps e with
  | (.test :: ps, e) => if w = "THEN" then some (operand (.yes e :: ps)) else none
  | (.yes c :: ps, e) => if w = "ELSE" then some (operand (.no c e :: ps)) else none
  | (.no c y :: ps, e) => if w = "END" then some (after ps (.choose c y e)) else none
  | _ => none

/-- Reads one lexeme. -/
def step : Reader → Lexeme → Option Reader
  | operand ps, .name n => some (after ps (.column ⟨none, n⟩))
  | operand ps, .text s => some (after ps (.value (.text s)))
  | operand ps, .sign '(' => some (operand (.group :: ps))
  | operand ps, .word w =>
    match value? w with
    | some v => some (after ps (.value v))
    | none =>
      if w = "NOT" then some (operand (.not :: ps))
      else if w = "CASE" then some (case ps)
      else if w = "SUM" then some (call ps .sum)
      else if w = "COUNT" then some (call ps .count)
      else none
  | after ps e, .sign '=' => some (join (.compare .eq) ps e)
  | after ps e, .sign '>' => some (join (.compare .gt) ps e)
  | after ps e, .sign ')' => close ps e
  | after ps (.column ⟨none, t⟩), .sign '.' => some (path ps t)
  | after ps e, .word w =>
    if w = "AND" then some (join (.logical .and) ps e)
    else if w = "OR" then some (join (.logical .or) ps e)
    else turn w ps e
  | path ps t, .name n => some (after ps (.column ⟨some t, n⟩))
  | call ps op, .sign '(' => some (operand (.call op :: ps))
  | case ps, .word w => if w = "WHEN" then some (operand (.test :: ps)) else none
  | _, _ => none

/-- Reads lexemes in order. -/
def run (r : Reader) (ls : List Lexeme) : Option Reader :=
  ls.foldlM step r

/-- The expression that has been read, if nothing is missing. -/
def finish : Reader → Option Expr
  | after ps e =>
    match settle 1 ps e with
    | ([], e) => some e
    | _ => none
  | _ => none

end Reader

/-- Reads lexemes as an expression. -/
def readExpr (ls : List Lexeme) : Option Expr :=
  (Reader.run (.operand []) ls).bind Reader.finish

/-! ## Steps of the reader -/

section Reader

open Reader

variable {n k j : Nat} {p : Pending} {ps : List Pending} {e l r : Expr} {d : Dialect}
variable {ls ls' : List Lexeme} {x : Lexeme} {r₁ r₂ : Reader}

theorem settle_of_lt (h : ∀ p ∈ ps.head?, p.strength < n) : settle n ps e = (ps, e) := by
  cases ps with
  | nil => rfl
  | cons p ps =>
    have hp : ¬n ≤ p.strength := Nat.not_le.2 (h p rfl)
    rw [settle, if_neg hp]

theorem strength_head?_lt (h : p.strength < k) : ∀ q ∈ (p :: ps).head?, q.strength < k := by
  intro q hq
  obtain rfl : p = q := by simpa using hq
  exact h

theorem settle_cons (h : n ≤ p.strength) : settle n (p :: ps) e = settle n ps (p.complete e) := by
  rw [settle, if_pos h]

theorem run_nil : run r₁ [] = some r₁ :=
  rfl

theorem run_cons (h : r₁.step x = some r₂) : run r₁ (x :: ls) = run r₂ ls := by
  rw [run, List.foldlM_cons, h]
  rfl

theorem run_append (h : run r₁ ls = some r₂) : run r₁ (ls ++ ls') = run r₂ ls' := by
  rw [run, List.foldlM_append, ← run, h]
  rfl

/-- After operators that bind less tightly than `k`, the lexemes are read as the operand `e`, but
for operators in them that anything no tighter than `k` settles. -/
def Reads (ls : List Lexeme) (e : Expr) (k : Nat) : Prop :=
  ∀ ps : List Pending, (∀ p ∈ ps.head?, p.strength < k) →
    ∃ ps' e', run (operand ps) ls = some (after ps' e') ∧
      ∀ n, 1 ≤ n → n ≤ k → settle n ps' e' = settle n ps e

theorem Reads.mono (h : Reads ls e k) (hjk : j ≤ k) : Reads ls e j := by
  intro ps hps
  obtain ⟨ps', e', hrun, hsettle⟩ := h ps fun p hp => Nat.lt_of_lt_of_le (hps p hp) hjk
  exact ⟨ps', e', hrun, fun n h₁ hn => hsettle n h₁ (Nat.le_trans hn hjk)⟩

/-- Whatever is read as one operand is read as it at any strength. -/
theorem reads_of_run (h : ∀ ps, run (operand ps) ls = some (after ps e)) : Reads ls e k :=
  fun ps _ => ⟨ps, e, h ps, fun _ _ _ => rfl⟩

/-- Inside a bracket, the lexemes are read up to where the bracket can be closed. -/
theorem Reads.bracket (h : Reads ls e k) (hk : 1 ≤ k) (hp : p.strength = 0) (ps : List Pending) :
    ∃ ps' e', run (operand (p :: ps)) ls = some (after ps' e') ∧
      settle 1 ps' e' = (p :: ps, e) := by
  have hlt : ∀ q ∈ (p :: ps).head?, q.strength < 1 := strength_head?_lt (by omega)
  obtain ⟨ps', e', hrun, hsettle⟩ := h (p :: ps) fun q hq => Nat.lt_of_lt_of_le (hlt q hq) hk
  exact ⟨ps', e', hrun, (hsettle 1 (Nat.le_refl 1) hk).trans (settle_of_lt hlt)⟩

/-! ## Reading the parts of an expression -/

/-- Parentheses make an operand. -/
theorem Reads.group (h : Reads ls e k) (hk : 1 ≤ k) :
    Reads (.sign '(' :: (ls ++ [.sign ')'])) e j := by
  refine reads_of_run fun ps => ?_
  obtain ⟨ps', e', hrun, hsettle⟩ := h.bracket hk (p := .group) rfl ps
  have hclose : (after ps' e').step (.sign ')') = some (after ps e) := by
    simp only [step, close, hsettle]
  rw [run_cons rfl, run_append hrun, run_cons hclose, run_nil]

theorem Reads.grouped {bare : Bool} (h : Reads ls e k) (hk : 1 ≤ k) (hbare : bare = true → j ≤ k) :
    Reads (grouped bare ls) e j := by
  cases bare with
  | true => exact h.mono (hbare rfl)
  | false => exact h.group hk

/-- An operator between two operands. The left one binds at least as tightly as the operator, and
the right one more tightly. -/
theorem Reads.join (p : Expr → Pending) (hp : ∀ e, (p e).strength = n) (h₁ : 1 ≤ n)
    (hx : ∀ ps e, (after ps e).step x = some (join p ps e)) (hl : Reads ls l k) (hnk : n ≤ k)
    (hr : Reads ls' r j) (hnj : n < j) : Reads (ls ++ ([x] ++ ls')) ((p l).complete r) n := by
  intro ps hps
  obtain ⟨ps₁, e₁, hrun₁, hsettle₁⟩ := hl ps fun q hq => Nat.lt_of_lt_of_le (hps q hq) hnk
  have hleft : (after ps₁ e₁).step x = some (operand (p l :: ps)) := by
    rw [hx, Reader.join, hp, hsettle₁ n h₁ hnk, settle_of_lt hps]
  have htop : (p l).strength < j := by rwa [hp]
  obtain ⟨ps₂, e₂, hrun₂, hsettle₂⟩ := hr (p l :: ps) (strength_head?_lt htop)
  refine ⟨ps₂, e₂, ?_, fun m hm hmn => ?_⟩
  · rw [run_append hrun₁, List.singleton_append, run_cons hleft, hrun₂]
  · rw [hsettle₂ m hm (by omega), settle_cons (by rwa [hp])]

theorem Reads.not (h : Reads ls e k) (hk : 3 < k) : Reads ([.word "NOT"] ++ ls) (.not e) 3 := by
  intro ps _
  have hnot : (operand ps).step (.word "NOT") = some (operand (.not :: ps)) := rfl
  obtain ⟨ps', e', hrun, hsettle⟩ := h (.not :: ps) (strength_head?_lt hk)
  refine ⟨ps', e', ?_, fun n h₁ hn => ?_⟩
  · rw [List.singleton_append, run_cons hnot, hrun]
  · rw [hsettle n h₁ (by omega), settle_cons hn]
    rfl

theorem Reads.aggregate (op : Aggregate) (h : Reads ls e k) (hk : 1 ≤ k) :
    Reads ([.word op.name, .sign '('] ++ (ls ++ [.sign ')'])) (.aggregate op e) j := by
  refine reads_of_run fun ps => ?_
  have hname : (operand ps).step (.word op.name) = some (call ps op) := by
    cases op <;> rfl
  obtain ⟨ps', e', hrun, hsettle⟩ := h.bracket hk (p := .call op) rfl ps
  have hclose : (after ps' e').step (.sign ')') = some (after ps (.aggregate op e)) := by
    simp only [step, close, hsettle]
  rw [List.cons_append, run_cons hname, List.singleton_append, run_cons rfl, run_append hrun,
    run_cons hclose, run_nil]

theorem Reads.choose {c y m : Expr} {lc ly lm : List Lexeme} {kc ky km : Nat}
    (hc : Reads lc c kc) (hkc : 1 ≤ kc) (hy : Reads ly y ky) (hky : 1 ≤ ky) (hm : Reads lm m km)
    (hkm : 1 ≤ km) :
    Reads ([.sign '(', .word "CASE", .word "WHEN", .sign '('] ++ (lc ++
      ([.sign ')', .word "THEN"] ++ (ly ++ ([.word "ELSE"] ++ (lm ++ [.word "END", .sign ')']))))))
      (.choose c y m) j := by
  refine reads_of_run fun ps => ?_
  -- the brackets open inside each other : the outer parenthesis, the case, that of the condition
  have hopen : run (operand ps) [.sign '(', .word "CASE", .word "WHEN", .sign '('] =
      some (operand (.group :: .test :: .group :: ps)) := rfl
  obtain ⟨ps₁, e₁, hrun₁, hsettle₁⟩ := hc.bracket hkc (p := .group) rfl (.test :: .group :: ps)
  have hthen : run (after ps₁ e₁) [.sign ')', .word "THEN"] =
      some (operand (.yes c :: .group :: ps)) := by
    have hclose : (after ps₁ e₁).step (.sign ')') = some (after (.test :: .group :: ps) c) := by
      simp only [step, close, hsettle₁]
    rw [run_cons hclose, run_cons rfl, run_nil]
  obtain ⟨ps₂, e₂, hrun₂, hsettle₂⟩ := hy.bracket hky (p := .yes c) rfl (.group :: ps)
  have helse : run (after ps₂ e₂) [.word "ELSE"] = some (operand (.no c y :: .group :: ps)) := by
    have hturn : (after ps₂ e₂).step (.word "ELSE") = some (operand (.no c y :: .group :: ps)) := by
      simp [step, turn, hsettle₂]
    rw [run_cons hturn, run_nil]
  obtain ⟨ps₃, e₃, hrun₃, hsettle₃⟩ := hm.bracket hkm (p := .no c y) rfl (.group :: ps)
  have hend : run (after ps₃ e₃) [.word "END", .sign ')'] = some (after ps (.choose c y m)) := by
    have hturn : (after ps₃ e₃).step (.word "END") =
        some (after (.group :: ps) (.choose c y m)) := by
      simp [step, turn, hsettle₃]
    rw [run_cons hturn, run_cons rfl, run_nil]
  rw [run_append hopen, run_append hrun₁, run_append hthen, run_append hrun₂, run_append helse,
    run_append hrun₃, hend]

/-! ## Reading whole expressions -/

/-- A value with its number as wide as it can be. -/
def Value.widened : Value → Value
  | int n => .bigInt (Int64.ofInt n.toInt)
  | v => v

/-- An expression with all its numbers as wide as they can be. -/
def Expr.widened : Expr → Expr
  | column c => .column c
  | value v => .value v.widened
  | compare op l r => .compare op l.widened r.widened
  | logical op l r => .logical op l.widened r.widened
  | not e => .not e.widened
  | aggregate op e => .aggregate op e.widened
  | choose c y n => .choose c.widened y.widened n.widened

/-- Whether the reader knows the literal of a value. -/
def Value.isLegible : Value → Bool
  | int _ | bigInt _ | text _ | bool _ => true
  | bigUnsigned _ | bytes _ | null _ => false

/-- Whether the reader knows the literals of an expression. -/
def Expr.isLegible : Expr → Bool
  | column _ => true
  | value v => v.isLegible
  | compare _ l r => l.isLegible && r.isLegible
  | logical _ l r => l.isLegible && r.isLegible
  | not e => e.isLegible
  | aggregate _ e => e.isLegible
  | choose c y n => c.isLegible && y.isLegible && n.isLegible

/-- How tightly the outermost operator of an expression binds. -/
def Expr.strength : Expr → Nat
  | compare _ _ _ => 4
  | not _ => 3
  | logical op _ _ => op.strength
  | _ => 5

theorem Connective.strength_bounds (op : Connective) : 1 ≤ op.strength ∧ op.strength < 3 := by
  cases op <;> decide

namespace Expr

theorem one_le_strength (e : Expr) : 1 ≤ e.strength := by
  cases e with
  | logical op l r => exact op.strength_bounds.1
  | _ => simp [strength]

/-- An operand that needs no parentheses in a comparison is not an operator's expression. -/
theorem strength_of_isBare_comparison (h : e.isBare .comparison = true) : 5 ≤ e.strength := by
  revert h
  cases e <;> simp [strength, isBare]

/-- An operand that needs no parentheses under a logical operator binds more tightly than it. -/
theorem strength_of_isBare_logical (h : e.isBare .logical = true) : 4 ≤ e.strength := by
  revert h
  cases e <;> simp [strength, isBare]

theorem strength_of_hasConnective {op : Connective} (h : e.hasConnective op = true) :
    op.strength ≤ e.strength := by
  cases e with
  | logical op' l r =>
    obtain rfl : op' = op := by simpa [hasConnective] using h
    exact Nat.le_refl _
  | _ => cases h

end Expr

theorem step_number {m : Int} (hmin : Int64.minValue.toInt ≤ m) (hmax : m ≤ Int64.maxValue.toInt) :
    (operand ps).step (.word (toString m)) =
      some (after ps (.value (.bigInt (Int64.ofInt m)))) := by
  simp only [step, value?, Text.int64?_toString hmin hmax]

theorem Value.reads {v : Value} (h : v.isLegible = true) :
    Reads (v.lexemes d) (.value v.widened) k := by
  refine reads_of_run fun ps => ?_
  cases v with
  | int n =>
    have hmin : Int64.minValue.toInt ≤ n.toInt := Int.le_trans (by decide) n.le_toInt
    have hmax : n.toInt ≤ Int64.maxValue.toInt := Int.le_trans (Int.le_of_lt n.toInt_lt) (by decide)
    exact run_cons (step_number hmin hmax)
  | bigInt n =>
    have hstep : (operand ps).step (.word (toString n.toInt)) =
        some (after ps (.value (.bigInt (Int64.ofInt n.toInt)))) :=
      step_number n.minValue_le_toInt n.toInt_le
    rw [Int64.ofInt_toInt] at hstep
    exact run_cons hstep
  | text s => rfl
  | bool b => cases b <;> rfl
  | bigUnsigned n => cases h
  | bytes bs => cases h
  | null type => cases h

theorem Column.reads (c : Column) : Reads c.lexemes (.column c) k := by
  refine reads_of_run fun ps => ?_
  obtain ⟨table, name⟩ := c
  cases table <;> rfl

/-- The lexemes of an expression are read as the expression. -/
theorem Expr.reads : ∀ e : Expr, e.isLegible = true → Reads (e.lexemes d) e.widened e.strength
  | .column c, _ => c.reads
  | .value v, h => v.reads h
  | .compare op l r, h => by
    obtain ⟨hl, hr⟩ := Bool.and_eq_true_iff.1 h
    have hsign : ∀ ps e, (after ps e).step op.lexeme = some (join (.compare op) ps e) := by
      cases op <;> exact fun _ _ => rfl
    have hleft := (reads l hl).grouped l.one_le_strength strength_of_isBare_comparison
    have hright := (reads r hr).grouped r.one_le_strength strength_of_isBare_comparison
    exact Reads.join (n := 4) (.compare op) (fun _ => rfl) (by decide) hsign hleft (by decide)
      hright (by decide)
  | .logical op l r, h => by
    obtain ⟨hl, hr⟩ := Bool.and_eq_true_iff.1 h
    obtain ⟨hone, hthree⟩ := op.strength_bounds
    have hword : ∀ ps e, (after ps e).step op.lexeme = some (join (.logical op) ps e) := by
      cases op <;> exact fun _ _ => rfl
    -- the left operand may be an expression of the same connective, and the right one may not
    have hbare (hb : (isBare .logical l || hasConnective op l) = true) :
        op.strength ≤ l.strength := by
      rcases Bool.or_eq_true_iff.1 hb with hb | hb
      · have := strength_of_isBare_logical hb
        omega
      · exact strength_of_hasConnective hb
    have hleft := (reads l hl).grouped l.one_le_strength hbare
    have hright := (reads r hr).grouped r.one_le_strength strength_of_isBare_logical
    exact Reads.join (n := op.strength) (.logical op) (fun _ => rfl) hone hword hleft
      (Nat.le_refl _) hright (by omega)
  | .not e, h =>
    ((reads e h).grouped e.one_le_strength strength_of_isBare_logical).not (by decide)
  | .aggregate op e, h => (reads e h).aggregate op e.one_le_strength
  | .choose c y n, h => by
    obtain ⟨hcy, hn⟩ := Bool.and_eq_true_iff.1 h
    obtain ⟨hc, hy⟩ := Bool.and_eq_true_iff.1 hcy
    exact (reads c hc).choose c.one_le_strength (reads y hy) y.one_le_strength (reads n hn)
      n.one_le_strength

/-- An expression is read from its own lexemes. -/
theorem readExpr_lexemes (h : e.isLegible = true) : readExpr (e.lexemes d) = some e.widened := by
  obtain ⟨ps, e', hrun, hsettle⟩ := e.reads (d := d) h [] (by simp)
  have hend : settle 1 ps e' = ([], e.widened) := hsettle 1 (Nat.le_refl 1) e.one_le_strength
  rw [readExpr, hrun, Option.bind_some, finish, hend]

-- `NOT a = 1 AND b OR c AND d` is `((NOT (a = 1)) AND b) OR (c AND d)`
example : readExpr [.word "NOT", .name "a", .sign '=', .word "1", .word "AND", .name "b",
    .word "OR", .name "c", .word "AND", .name "d"] =
      some (.or (.and (.not (.columnIs ⟨none, "a"⟩ (.bigInt 1))) (.column ⟨none, "b"⟩))
        (.and (.column ⟨none, "c"⟩) (.column ⟨none, "d"⟩))) := by
  decide +kernel

/-- No expression has the word that begins an order. -/
theorem step_order : r₁.step (.word "ORDER") = none := by
  cases r₁ with
  | after ps e =>
    have hturn : turn "ORDER" ps e = none := by
      unfold turn
      split <;> simp
    simpa [step] using hturn
  | _ => rfl

theorem order_not_mem_of_run (h : run r₁ ls = some r₂) : .word "ORDER" ∉ ls := by
  intro hmem
  obtain ⟨as, bs, rfl⟩ := List.append_of_mem hmem
  rw [run, List.foldlM_append] at h
  obtain ⟨r, -, hr⟩ := Option.bind_eq_some_iff.1 h
  rw [List.foldlM_cons, step_order] at hr
  cases hr

theorem Expr.order_not_mem (h : e.isLegible = true) : .word "ORDER" ∉ e.lexemes d := by
  obtain ⟨ps, e', hrun, -⟩ := e.reads (d := d) h [] (by simp)
  exact order_not_mem_of_run hrun

end Reader

/-! ## The condition on groups -/

/-- What stands between `HAVING` and the order of a statement. -/
def havingLexemes (ls : List Lexeme) : List Lexeme :=
  ((ls.dropWhile (· ≠ .word "HAVING")).drop 1).takeWhile (· ≠ .word "ORDER")

/-- The condition on groups that is read from the text of a statement. -/
def Dialect.readHaving (d : Dialect) (text : String) : Option Expr :=
  readExpr (havingLexemes (d.lexemes text.toList))

variable {d : Dialect} {e e' : Expr}

theorem havingLexemes_append {head ls tail : List Lexeme} (hhead : .word "HAVING" ∉ head)
    (hls : .word "ORDER" ∉ ls) :
    havingLexemes (head ++ .word "HAVING" :: (ls ++ .word "ORDER" :: tail)) = ls := by
  have hbefore : ∀ l ∈ head, decide (l ≠ .word "HAVING") = true :=
    fun l hl => decide_eq_true fun h => hhead (h ▸ hl)
  have hwithin : ∀ l ∈ ls, decide (l ≠ .word "ORDER") = true :=
    fun l hl => decide_eq_true fun h => hls (h ▸ hl)
  rw [havingLexemes, List.dropWhile_append_of_pos hbefore, List.dropWhile_cons_of_neg (by simp),
    List.drop_one, List.tail_cons, List.takeWhile_append_of_pos hwithin,
    List.takeWhile_cons_of_neg (by simp), List.append_nil]

theorem Column.word_not_mem (c : Column) (w : String) : .word w ∉ c.lexemes := by
  obtain ⟨table, name⟩ := c
  cases table <;> simp [Column.lexemes]

theorem word_not_mem_itemLexemes (w : String) :
    ∀ cs : List Column, .word w ∉ Select.itemLexemes d (cs.map .column)
  | [] => List.not_mem_nil
  | [c] => by simpa [Select.itemLexemes, Item.lexemes] using c.word_not_mem w
  | c :: c' :: cs => by
    have hc := c.word_not_mem w
    have hcs := word_not_mem_itemLexemes w (c' :: cs)
    simp only [Select.itemLexemes, List.map_cons, List.intersperse_cons_cons, List.flatten_cons,
      List.mem_append] at hcs ⊢
    rintro (h | h | h)
    · exact hc h
    · simp at h
    · exact hcs h

theorem Table.having_not_mem (t : Table) : .word "HAVING" ∉ t.lexemes := by
  obtain ⟨name, label⟩ := t
  cases label <;> simp [Table.lexemes]

/-- The lexemes of a statement before its condition on groups. -/
def Select.headLexemes (d : Dialect) (s : Select) : List Lexeme :=
  [.word "SELECT"] ++ (itemLexemes d s.items ++ ([.word "FROM"] ++ (s.source.lexemes ++
    (s.joins.flatMap (Join.lexemes d) ++ (clauseLexemes d "WHERE" s.condition ++
      (s.groupBy.map fun c => [.word "GROUP", .word "BY"] ++ c.lexemes).getD [])))))

theorem Select.lexemes_of_having {s : Select} (h : s.having = some e) :
    s.lexemes d = s.headLexemes d ++ .word "HAVING" :: (e.lexemes d ++ s.orderLexemes d) := by
  simp [lexemes, headLexemes, clauseLexemes, h]

end TagSelect.Sql

namespace TagSelect.Compiler

open Sql

variable {d : Dialect} {e e' : Expr}

/-- In the statement that selects entities, the condition stands between `HAVING` and `ORDER`. -/
theorem lexemes_entities (s : Settings) (e : Expr) (plan : SortPlan) :
    ∃ head tail, (entities s e plan).lexemes d =
        head ++ .word "HAVING" :: (e.lexemes d ++ .word "ORDER" :: tail) ∧
      .word "HAVING" ∉ head := by
  refine ⟨(entities s e plan).headLexemes d, _, Select.lexemes_of_having rfl, ?_⟩
  have hitems := word_not_mem_itemLexemes (d := d) "HAVING" (s.columns.map entityColumn)
  have hsource := Table.having_not_mem ⟨s.tableName, some "u"⟩
  have htable := (associationTable s).having_not_mem
  have hkind (k : JoinKind) : .word "HAVING" ≠ k.lexeme := by
    cases k <;> decide
  have hcolumns (c c' : Column) : .word "HAVING" ∉ (Expr.columnsAgree c c').lexemes d := by
    simp [Expr.columnsAgree, Expr.lexemes, grouped, Expr.isBare, Comparison.lexeme,
      Column.word_not_mem]
  rw [List.map_map] at hitems
  simp only [Select.headLexemes, entities, List.mem_append, not_or]
  refine ⟨by simp, hitems, by simp, hsource, ?_, by simp [clauseLexemes], ?_⟩
  · simp [Join.lexemes, hkind, htable, hcolumns]
  · simp [Column.word_not_mem]

/-- The conditions that filters are compiled to. -/
inductive IsCondition : Expr → Prop
  | truth : IsCondition .truth
  | text (c : Column) (id : String) : IsCondition (.anyRow (.columnIs c (.text id)))
  | integer (c : Column) (n : Int64) : IsCondition (.anyRow (.columnIs c (.bigInt n)))
  | not {e : Expr} : IsCondition e → IsCondition (.not e)
  | and {l r : Expr} : IsCondition l → IsCondition r → IsCondition (.and l r)
  | or {l r : Expr} : IsCondition l → IsCondition r → IsCondition (.or l r)

theorem isCondition_of_condition {c : Compiler} :
    ∀ {f : Filter} {e : Expr}, c.condition f = .ok e → IsCondition e
  | .everything, e, h => by
    obtain rfl : Expr.truth = e := by simpa [condition] using h
    exact .truth
  | .tag name, e, h => by
    rw [condition, leafCondition] at h
    split at h
    · obtain rfl : Expr.truth = e := by simpa using h
      exact .truth
    · split at h
      · cases h
      · next v hv =>
        cases h
        rcases idValue_eq_ok hv with ⟨id, rfl⟩ | ⟨n, rfl⟩
        · exact .text _ id
        · exact .integer _ n
  | .not f, e, h => by
    obtain ⟨e₁, h₁, rfl⟩ := condition_not_eq_ok.1 h
    exact .not (isCondition_of_condition h₁)
  | .and l r, e, h => by
    obtain ⟨e₁, e₂, h₁, h₂, rfl⟩ := (condition_join_eq_ok .and).1 h
    exact .and (isCondition_of_condition h₁) (isCondition_of_condition h₂)
  | .or l r, e, h => by
    obtain ⟨e₁, e₂, h₁, h₂, rfl⟩ := (condition_join_eq_ok .or).1 h
    exact .or (isCondition_of_condition h₁) (isCondition_of_condition h₂)

theorem IsCondition.isLegible (h : IsCondition e) : e.isLegible = true := by
  induction h with
  | truth => rfl
  | text c id => rfl
  | integer c n => rfl
  | not _ ih => exact ih
  | and _ _ ihl ihr => exact Bool.and_eq_true_iff.2 ⟨ihl, ihr⟩
  | or _ _ ihl ihr => exact Bool.and_eq_true_iff.2 ⟨ihl, ihr⟩

/-- Of conditions, the width of numbers is known. -/
theorem IsCondition.widened_injective (h : IsCondition e) (h' : IsCondition e')
    (heq : e.widened = e'.widened) : e = e' := by
  induction h generalizing e' with
  | truth => cases h' <;> first | rfl | cases heq
  | text c id => cases h' <;> cases heq; rfl
  | integer c n => cases h' <;> cases heq; rfl
  | not _ ih =>
    cases h' with
    | not hx => rw [ih hx (Expr.not.inj heq)]
    | _ => cases heq
  | and _ _ ihl ihr =>
    cases h' with
    | and hl hr =>
      obtain ⟨-, heql, heqr⟩ := Expr.logical.inj heq
      rw [ihl hl heql, ihr hr heqr]
    | _ => cases heq
  | or _ _ ihl ihr =>
    cases h' with
    | or hl hr =>
      obtain ⟨-, heql, heqr⟩ := Expr.logical.inj heq
      rw [ihl hl heql, ihr hr heqr]
    | _ => cases heq

/-- Read by the rules of precedence, the text of a filter's statement has in its `HAVING` clause the
condition that the filter was compiled to. No condition of another filter, under any settings and
any index, reads the same. -/
theorem having_reads_back {c : Compiler} {f : Filter} {s : Select} (h : c.compile f = .ok s)
    (d : Dialect) :
    ∃ e, c.condition f = .ok e ∧ s.having = some e ∧
      d.readHaving (s.inlined d) = some e.widened ∧
      ∀ (c' : Compiler) (g : Filter) (e' : Expr),
        c'.condition g = .ok e' → e'.widened = e.widened → e' = e := by
  obtain ⟨-, e, he, rfl⟩ := compile_eq_ok.1 h
  have hcond := isCondition_of_condition he
  refine ⟨e, he, rfl, ?_, fun c' g e' he' => ?_⟩
  · obtain ⟨head, tail, hlexemes, hhead⟩ :=
      lexemes_entities (d := d) c.settings e (.ofValues f.directives)
    rw [Dialect.readHaving, lexemes_inlined, hlexemes,
      havingLexemes_append hhead (e.order_not_mem hcond.isLegible),
      readExpr_lexemes hcond.isLegible]
  · exact (isCondition_of_condition he').widened_injective hcond

/-- An index with an id that would end the clause. -/
def clauseIndex : TagIndex :=
  TagIndex.empty.insertAll
    [(.name (.plain "a"), "') OR TRUE ORDER BY 1 --"), (.name (.plain "b"), "2")]

/-- A filter with each operator in the operand of another. -/
def nestedFilter : Filter :=
  .and (.not (.or (.tag (.plain "a")) (.and (.tag (.plain "b")) .everything))) (.tag (.plain "b"))

theorem nested_having_reads_back :
    ∃ s, (Compiler.mk Settings.standard clauseIndex).compile nestedFilter = .ok s ∧
      Dialect.readHaving .mysql (s.inlined .mysql) = s.having.map Expr.widened := by
  have hok : ((Compiler.mk Settings.standard clauseIndex).compile nestedFilter).toBool = true := by
    decide +kernel
  cases hs : (Compiler.mk Settings.standard clauseIndex).compile nestedFilter with
  | error err => simp [hs, Except.toBool] at hok
  | ok s =>
    obtain ⟨e, -, hhaving, hread, -⟩ := having_reads_back hs .mysql
    exact ⟨s, rfl, by rw [hread, hhaving]; rfl⟩

end TagSelect.Compiler
