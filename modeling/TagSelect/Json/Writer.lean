import TagSelect.Json.Grammar

/-!
# Writing documents

The shortest layout of a document : no white space, and an escape only for a character that needs
one.
-/

namespace TagSelect.Json

/-- The digit of base sixteen with a given value. -/
def hexDigit (n : Nat) : Char :=
  (hexDigits[n]?.map Prod.fst).getD '0'

/-- A character of a text. A control character without a short escape has one of four digits. -/
def writtenChar (c : Char) : List Char :=
  match shortEscapes.find? fun p => p.2 = c ∧ p.1 ≠ '/' with
  | some (e, _) => ['\\', e]
  | none =>
    if ' ' ≤ c then [c]
    else ['\\', 'u', '0', '0', hexDigit (c.toNat / 16), hexDigit (c.toNat % 16)]

/-- A text between its marks. -/
def writtenText (s : String) : List Char :=
  '"' :: (s.toList.flatMap writtenChar ++ ['"'])

/-- Parts with a comma between each two. -/
def writtenParts : List (List Char) → List Char
  | [] => []
  | [part] => part
  | part :: next :: parts => part ++ ',' :: writtenParts (next :: parts)

/-- An array. -/
def writtenArray (elements : List (List Char)) : List Char :=
  '[' :: (writtenParts elements ++ [']'])

/-- A member of an object. -/
def writtenMember (m : String × List Char) : List Char :=
  writtenText m.1 ++ ':' :: m.2

/-- An object. -/
def writtenObject (members : List (String × List Char)) : List Char :=
  '{' :: (writtenParts (members.map writtenMember) ++ ['}'])

end TagSelect.Json
