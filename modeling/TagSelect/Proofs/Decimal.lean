import Mathlib.Data.List.Basic
import TagSelect.Text.Integer

/-!
# Numbers in decimal

The decimal text of an integer is read as this integer (`integer?_toString`), and as an integer of
sixty-four bits if it is in the range (`int64?_toString`).
-/

namespace TagSelect.Text

theorem toList_toString_ofNat (n : Nat) : (toString (Int.ofNat n)).toList = Nat.toDigits 10 n :=
  Nat.toList_repr

theorem toList_toString_negSucc (n : Nat) :
    (toString (Int.negSucc n)).toList = '-' :: Nat.toDigits 10 (n + 1) := by
  have htext : toString (Int.negSucc n) = "-" ++ Nat.repr (n + 1) := rfl
  rw [htext, String.toList_append, Nat.toList_repr]
  rfl

theorem isDigit_of_mem_toDigits {n : Nat} {c : Char} (h : c ∈ Nat.toDigits 10 n) :
    c.isDigit = true :=
  Nat.isDigit_of_mem_toDigits (by decide) (by decide) h

/-- The digits of a number have the number as their value. -/
theorem natural?_toDigits (n : Nat) : natural? (Nat.toDigits 10 n) = some n := by
  have hne : (Nat.toDigits 10 n).isEmpty = false := by
    rw [List.isEmpty_eq_false_iff]
    exact Nat.toDigits_ne_nil
  have hdigits : (Nat.toDigits 10 n).all Char.isDigit = true :=
    List.all_eq_true.2 fun c hc => isDigit_of_mem_toDigits hc
  have hvalue : digitsFrom 0 (Nat.toDigits 10 n) = n :=
    Nat.ofDigitChars_toDigits (by decide) (by decide)
  simp [natural?, hne, hdigits, hvalue]

/-- Digits without a sign are read as they are. -/
theorem integer?_of_isDigit {cs : List Char} (h : ∀ c ∈ cs, c.isDigit = true) :
    integer? cs = (natural? cs).map Int.ofNat := by
  unfold integer?
  split
  · cases h '+' List.mem_cons_self
  · cases h '-' List.mem_cons_self
  · rfl

/-- The decimal text of an integer is read as the integer. -/
theorem integer?_toString (n : Int) : integer? (toString n).toList = some n := by
  cases n with
  | ofNat n =>
    rw [toList_toString_ofNat, integer?_of_isDigit fun c hc => isDigit_of_mem_toDigits hc,
      natural?_toDigits]
    rfl
  | negSucc n =>
    rw [toList_toString_negSucc, integer?, natural?_toDigits]
    rfl

/-- The decimal text of an integer of sixty-four bits is read as the integer. -/
theorem int64?_toString {n : Int} (hmin : Int64.minValue.toInt ≤ n)
    (hmax : n ≤ Int64.maxValue.toInt) : int64? (toString n) = some (Int64.ofInt n) := by
  simp only [int64?, integer?_toString]
  rw [if_pos ⟨hmin, hmax⟩]

end TagSelect.Text
