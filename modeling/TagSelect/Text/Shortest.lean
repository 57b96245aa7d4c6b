/-!
# Shortest decimals

The shortest decimal that a binary floating-point number is the nearest one to. A positive finite
number is `m * 2 ^ q`, and the reals that round to it form an interval, which holds its ends if `m`
is even. Among the decimals of one digit, then of two digits and so on, the first that has a
member in the interval wins, and of two members the nearer one; seventeen digits always suffice.

All arithmetic is exact: a number is a fraction of natural numbers.
-/

namespace TagSelect.Text

/-- The number `m * 2 ^ q` of a positive finite float. -/
structure Binary where
  m : Nat
  q : Int
deriving DecidableEq, Repr

/-- A decimal `digits * 10 ^ exponent`. -/
structure Decimal where
  digits : Nat
  exponent : Int
deriving DecidableEq, Repr

namespace Binary

/-- The parts of the bits of a positive finite float. -/
def ofBits (bits : UInt64) : Binary :=
  let fraction : Nat := bits.toNat % Nat.pow 2 52
  let exponent : Nat := bits.toNat / Nat.pow 2 52 % Nat.pow 2 11
  if exponent = 0 then ⟨fraction, -1074⟩ else ⟨fraction + Nat.pow 2 52, (exponent : Int) - 1075⟩

/-- A quarter of the step at `m`, as a fraction. -/
def quarter (b : Binary) : Nat × Nat :=
  if 0 ≤ b.q then (Nat.pow 2 b.q.toNat, 4) else (1, 4 * Nat.pow 2 (-b.q).toNat)

/-- The bounds of the interval in quarters of a step. Below a power of two the steps are half as
long. -/
def bounds (b : Binary) : Nat × Nat :=
  let below := if b.m = Nat.pow 2 52 && b.q > -1074 then 4 * b.m - 1 else 4 * b.m - 2
  (below, 4 * b.m + 2)

/-- Whether a decimal `d * 10 ^ e` is in the interval. -/
def covers (b : Binary) (d : Nat) (e : Int) : Bool :=
  let (num, den) := b.quarter
  let (low, high) := b.bounds
  -- The decimal and the bounds over one denominator.
  let value := if 0 ≤ e then d * Nat.pow 10 e.toNat * den else d * den
  let scale := if 0 ≤ e then num else num * Nat.pow 10 (-e).toNat
  if b.m % 2 = 0 then low * scale ≤ value && value ≤ high * scale
  else low * scale < value && value < high * scale

/-- The number in units of `10 ^ e`, as a fraction. -/
def inUnits (b : Binary) (e : Int) : Nat × Nat :=
  let (num, den) := b.quarter
  if 0 ≤ e then (4 * b.m * num, den * Nat.pow 10 e.toNat)
  else (4 * b.m * num * Nat.pow 10 (-e).toNat, den)

/-- The exponent of the leading digit, found by going down from an upper bound. -/
def leading (b : Binary) : Nat → Int
  | 0 => -324
  | n + 1 =>
    let e : Int := n - 324
    let (num, den) := b.inUnits e
    if den ≤ num then e else leading b n

/-- The nearest decimal in units of `10 ^ e` that is in the interval. -/
def onGrid? (b : Binary) (e : Int) : Option Decimal :=
  let (num, den) := b.inUnits e
  let low := num / den
  let rest := num % den
  let lowFirst := 2 * rest < den || (2 * rest = den && low % 2 = 0)
  let first := if lowFirst then low else low + 1
  let second := if lowFirst then low + 1 else low
  if b.covers first e then some ⟨first, e⟩
  else if b.covers second e then some ⟨second, e⟩
  else none

/-- Tries finer and finer units, beginning with `10 ^ e`. -/
def refine (b : Binary) : Nat → Int → Decimal
  | 0, e => (b.onGrid? e).getD ⟨0, 0⟩
  | n + 1, e =>
    match b.onGrid? e with
    | some d => d
    | none => refine b n (e - 1)

/-- The shortest decimal in the interval. -/
def shortest (b : Binary) : Decimal :=
  b.refine 17 (b.leading 634)

end Binary

/-- The same decimal without zeros at the end of its digits. -/
def Decimal.normalize (d : Decimal) : Nat → Decimal
  | 0 => d
  | n + 1 =>
    if d.digits ≠ 0 ∧ d.digits % 10 = 0 then normalize ⟨d.digits / 10, d.exponent + 1⟩ n else d

end TagSelect.Text
