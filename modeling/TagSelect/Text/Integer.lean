/-!
# Integers in decimal

Reading an integer of sixty-four bits from a text: at most one sign, then at least one ASCII
digit, and nothing else. Any number of leading zeros is allowed, and a value outside the range is
refused.
-/

namespace TagSelect.Text

/-- The value of a digit. -/
def digitValue (c : Char) : Nat :=
  c.toNat - '0'.toNat

/-- The value of digits, the first of which counts most, after the digits of `n`. -/
def digitsFrom (n : Nat) (cs : List Char) : Nat :=
  cs.foldl (fun n c => 10 * n + digitValue c) n

/-- The value of a non-empty list of digits. -/
def natural? (cs : List Char) : Option Nat :=
  if !cs.isEmpty && cs.all Char.isDigit then some (digitsFrom 0 cs) else none

/-- The value of digits after at most one sign. -/
def integer? : List Char → Option Int
  | '+' :: cs => (natural? cs).map Int.ofNat
  | '-' :: cs => (natural? cs).map fun n => -Int.ofNat n
  | cs => (natural? cs).map Int.ofNat

/-- Reads an integer of sixty-four bits. -/
def int64? (s : String) : Option Int64 :=
  match integer? s.toList with
  | none => none
  | some n =>
    if Int64.minValue.toInt ≤ n ∧ n ≤ Int64.maxValue.toInt then some (Int64.ofInt n) else none

end TagSelect.Text
