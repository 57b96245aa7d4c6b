/-!
# Byte offsets

Positions in a source text are counted in bytes of its UTF-8 form, while the text itself is
handled as its list of characters. `byteLength` measures a list of characters in bytes, and
`splitAtByte?` cuts it at an offset, which is possible only between two characters:
`splitAtByte?_eq_some_iff` says that it succeeds exactly at the offsets where a character
begins or the text ends.
-/

namespace TagSelect.Text

/-- The number of bytes of the UTF-8 form. -/
def byteLength : List Char → Nat
  | [] => 0
  | c :: cs => c.utf8Size + byteLength cs

@[simp]
theorem byteLength_nil : byteLength [] = 0 := rfl

@[simp]
theorem byteLength_cons (c : Char) (cs : List Char) :
    byteLength (c :: cs) = c.utf8Size + byteLength cs := rfl

@[simp]
theorem byteLength_append (as bs : List Char) :
    byteLength (as ++ bs) = byteLength as + byteLength bs := by
  induction as with
  | nil => simp
  | cons a as ih => simp [ih, Nat.add_assoc]

/-- The characters before and after a byte offset. There is no answer for an offset inside a
character or past the end. -/
def splitAtByte? : List Char → Nat → Option (List Char × List Char)
  | cs, 0 => some ([], cs)
  | [], _ + 1 => none
  | c :: cs, n + 1 =>
    if c.utf8Size ≤ n + 1 then
      (splitAtByte? cs (n + 1 - c.utf8Size)).map fun (before, after) => (c :: before, after)
    else
      none

theorem splitAtByte?_eq_some_iff {cs : List Char} {n : Nat} {before after : List Char} :
    splitAtByte? cs n = some (before, after) ↔ cs = before ++ after ∧ byteLength before = n := by
  induction cs generalizing n before with
  | nil =>
    cases n with
    | zero =>
      cases before <;> simp [splitAtByte?, eq_comm]
    | succ n =>
      cases before with
      | nil => simp [splitAtByte?]
      | cons b bs => simp [splitAtByte?]
  | cons c cs ih =>
    cases n with
    | zero =>
      cases before with
      | nil => simp [splitAtByte?, eq_comm]
      | cons b bs =>
        have := b.utf8Size_pos
        simp [splitAtByte?]
        omega
    | succ n =>
      rw [splitAtByte?]
      split
      · next h =>
        cases before with
        | nil => simp
        | cons b bs =>
          simp only [Option.map_eq_some_iff, Prod.mk.injEq, List.cons.injEq, Prod.exists,
            List.cons_append, byteLength_cons]
          constructor
          · rintro ⟨as, bs', hs, ⟨rfl, rfl⟩, rfl⟩
            obtain ⟨h1, h2⟩ := ih.1 hs
            exact ⟨⟨rfl, h1⟩, by omega⟩
          · rintro ⟨⟨rfl, rfl⟩, h2⟩
            exact ⟨bs, after, ih.2 ⟨rfl, by omega⟩, ⟨rfl, rfl⟩, rfl⟩
      · next h =>
        cases before with
        | nil => simp
        | cons b bs =>
          simp only [List.cons_append, List.cons.injEq, byteLength_cons, false_iff,
            reduceCtorEq]
          rintro ⟨⟨rfl, -⟩, h2⟩
          omega

end TagSelect.Text
