import TagSelect.Json.Fault
import TagSelect.Text.Integer
import TagSelect.Text.Offset
import TagSelect.Text.Shortest

/-!
# Words, texts and numbers

The scalars of JSON, read from the front of a list of characters. A reader gives what it read and
the characters after it.

A number is an integer if it has neither fraction nor exponent and fits sixty-four bits; minus
zero and all other numbers are floats. The significand of a float takes digits as long as it fits
sixty-four bits, and is then scaled by powers of ten in floating-point arithmetic; a number that
is too great for a float is no JSON.
-/

namespace TagSelect.Json

open Text

/-- A reader takes a value off the front of the characters. -/
abbrev Reader (α : Type) := List Char → Except Fault (α × List Char)

/-- Whether a character may stand between the parts of a document. -/
def isGap (c : Char) : Bool :=
  c = ' ' || c = '\n' || c = '\t' || c = '\r'

/-- The characters without the gap in front. -/
def skipGap (cs : List Char) : List Char :=
  cs.dropWhile isGap

/-! ## Words -/

/-- Takes the letters of a word. -/
def word : List Char → List Char → Except Fault (List Char)
  | [], cs => .ok cs
  | _ :: _, [] => .error .truncated
  | l :: ls, c :: cs => if c = l then word ls cs else .error .malformed

/-! ## Texts -/

/-- The value of a hexadecimal digit. -/
def hexValue? (c : Char) : Option Nat :=
  if c.isDigit then some (c.toNat - '0'.toNat)
  else if 'a' ≤ c && c ≤ 'f' then some (c.toNat - 'a'.toNat + 10)
  else if 'A' ≤ c && c ≤ 'F' then some (c.toNat - 'A'.toNat + 10)
  else none

/-- The value of the four hexadecimal digits in front. Fewer than four bytes are too few, whatever
they are. -/
def fourHex (cs : List Char) : Except Fault Nat :=
  if byteLength (cs.take 4) < 4 then .error .truncated
  else
    match cs with
    | a :: b :: c :: d :: _ =>
      match hexValue? a, hexValue? b, hexValue? c, hexValue? d with
      | some a, some b, some c, some d => .ok (((a * 16 + b) * 16 + c) * 16 + d)
      | _, _, _, _ => .error .malformed
    | _ => .error .malformed

/-- The character of an escape of one letter. -/
def letterEscape? : Char → Option Char
  | '"' => some '"'
  | '\\' => some '\\'
  | '/' => some '/'
  | 'b' => some '\x08'
  | 'f' => some '\x0c'
  | 'n' => some '\n'
  | 'r' => some '\r'
  | 't' => some '\t'
  | _ => none

/-- The second half of a character that is written as a pair of units. -/
def lowUnit (high : Nat) (cs : List Char) : Except Fault Char :=
  match cs with
  | [] => .error .truncated
  | '\\' :: [] => .error .truncated
  | '\\' :: 'u' :: cs =>
    match fourHex cs with
    | .error f => .error f
    | .ok low =>
      if 0xDC00 ≤ low ∧ low ≤ 0xDFFF then
        .ok (Char.ofNat ((high - 0xD800) * 0x400 + (low - 0xDC00) + 0x10000))
      else .error .malformed
  | _ => .error .malformed

/-- The character of the escape in front, after its backslash, and the number of characters that
the escape takes. -/
def escape : List Char → Except Fault (Char × Nat)
  | [] => .error .truncated
  | 'u' :: cs =>
    match fourHex cs with
    | .error f => .error f
    | .ok n =>
      if 0xDC00 ≤ n ∧ n ≤ 0xDFFF then .error .malformed
      else if 0xD800 ≤ n ∧ n ≤ 0xDBFF then
        match lowUnit n (cs.drop 4) with
        | .error f => .error f
        | .ok c => .ok (c, 11)
      else .ok (Char.ofNat n, 5)
  | c :: _ =>
    match letterEscape? c with
    | some e => .ok (e, 1)
    | none => .error .malformed

/-- The characters of a text up to its closing mark. The first `skip` characters belong to an
escape that has been read. -/
def textChars : Nat → Reader (List Char)
  | _, [] => .error .truncated
  | skip + 1, _ :: cs => textChars skip cs
  | 0, c :: cs =>
    if c = '"' then .ok ([], cs)
    else if c = '\\' then
      match escape cs with
      | .error f => .error f
      | .ok (e, n) =>
        match textChars n cs with
        | .error f => .error f
        | .ok (es, rest) => .ok (e :: es, rest)
    else if c < ' ' then .error .malformed
    else
      match textChars 0 cs with
      | .error f => .error f
      | .ok (es, rest) => .ok (c :: es, rest)

/-- Reads a text after its opening mark. -/
def textBody : Reader String := fun cs =>
  match textChars 0 cs with
  | .error f => .error f
  | .ok (es, rest) => .ok (String.ofList es, rest)

/-! ## Numbers -/

/-- A number of a document. -/
inductive Number where
  | integer (n : Int)
  | float (x : Float)

/-- The greatest significand. -/
def maxSignificand : Nat := UInt64.size - 1

/-- Appends digits to a significand as long as it fits, and counts them. -/
def significand (s : Nat) : List Char → Nat × Nat
  | [] => (s, 0)
  | c :: cs =>
    let s' := 10 * s + digitValue c
    if s' ≤ maxSignificand then
      let (t, n) := significand s' cs
      (t, n + 1)
    else (s, 0)

/-- A power of ten. -/
def powerOfTen (n : Nat) : Float :=
  Float.ofScientific 1 false n

/-- Divides by a power of ten, in steps of the greatest one. -/
def scaleDown (x : Float) (n : Nat) : Float :=
  if n ≤ 308 then x / powerOfTen n
  else if x == 0 then x
  else scaleDown (x / powerOfTen 308) (n - 308)
termination_by n

/-- The float `s * 10 ^ e`. There is none if it is too great. -/
def scaled? (s : Nat) (e : Int) : Option Float :=
  let x := s.toUInt64.toFloat
  if e < 0 then some (scaleDown x (-e).toNat)
  else if e ≤ 308 then
    let y := x * powerOfTen e.toNat
    if y.isInf then none else some y
  else if x == 0 then some x
  else none

/-- The float with the given sign. -/
def signedFloat (negative : Bool) (s : Nat) (e : Int) (cs : List Char) :
    Except Fault (Number × List Char) :=
  match scaled? s e with
  | some x => .ok (.float (if negative then -x else x), cs)
  | none => .error .malformed

/-- The digits in front and the characters after them. -/
def digits (cs : List Char) : List Char × List Char :=
  (cs.takeWhile Char.isDigit, cs.dropWhile Char.isDigit)

/-- Reads the exponent after its letter. -/
def exponent (negative : Bool) (s : Nat) (e : Int) (cs : List Char) :
    Except Fault (Number × List Char) :=
  let (down, cs) := match cs with
    | '+' :: cs => (false, cs)
    | '-' :: cs => (true, cs)
    | cs => (false, cs)
  match digits cs with
  | ([], []) => .error .truncated
  | ([], _ :: _) => .error .malformed
  | (ds, cs) =>
    let n := digitsFrom 0 ds
    signedFloat negative s (if down then e - n else e + n) cs

/-- Reads the exponent, if there is one. -/
def afterFraction (negative : Bool) (s : Nat) (e : Int) (cs : List Char) :
    Except Fault (Number × List Char) :=
  match cs with
  | 'e' :: cs => exponent negative s e cs
  | 'E' :: cs => exponent negative s e cs
  | cs => signedFloat negative s e cs

/-- Reads the fraction after its point. -/
def fraction (negative : Bool) (s : Nat) (e : Int) (cs : List Char) :
    Except Fault (Number × List Char) :=
  match digits cs with
  | ([], []) => .error .truncated
  | ([], _ :: _) => .error .malformed
  | (ds, cs) =>
    let (s, n) := significand s ds
    afterFraction negative s (e - n) cs

/-- The integer with the given sign, or the float if it does not fit or is minus zero. -/
def wholeNumber (negative : Bool) (s : Nat) : Number :=
  if negative then
    if s = 0 ∨ s > Nat.pow 2 63 then .float (-s.toUInt64.toFloat) else .integer (-s)
  else .integer s

/-- Reads what follows the digits in front of the point, of which `dropped` did not fit. -/
def afterDigits (negative : Bool) (s dropped : Nat) (cs : List Char) :
    Except Fault (Number × List Char) :=
  match cs with
  | '.' :: cs => fraction negative s dropped cs
  | 'e' :: cs => exponent negative s dropped cs
  | 'E' :: cs => exponent negative s dropped cs
  | cs =>
    if dropped = 0 then .ok (wholeNumber negative s, cs)
    else signedFloat negative s dropped cs

/-- Reads a number after its sign. A zero in front stands alone. -/
def number (negative : Bool) : Reader Number := fun cs =>
  match digits cs with
  | ([], []) => .error .truncated
  | ([], _ :: _) => .error .malformed
  | ('0' :: _ :: _, _) => .error .malformed
  | (ds, cs) =>
    let (s, n) := significand 0 ds
    afterDigits negative s (ds.length - n) cs

/-! ## The text of a float -/

/-- The text of a decimal. It is positional from a hundred-thousandth up to sixteen digits before
the point, and has an exponent with its sign elsewhere. -/
def decimalText (d : Decimal) : String :=
  let ds := Nat.toDigits 10 d.digits
  let count := ds.length
  let point : Int := count + d.exponent
  if 0 ≤ d.exponent ∧ point ≤ 16 then
    String.ofList (ds ++ List.replicate d.exponent.toNat '0') ++ ".0"
  else if 0 < point ∧ point ≤ 16 then
    String.ofList (ds.take point.toNat) ++ "." ++ String.ofList (ds.drop point.toNat)
  else if -5 < point ∧ point ≤ 0 then
    "0." ++ String.ofList (List.replicate (-point).toNat '0' ++ ds)
  else
    let mantissa := match ds with
      | [c] => [c]
      | c :: cs => c :: '.' :: cs
      | [] => []
    let sign := if point < 1 then "-" else "+"
    String.ofList mantissa ++ "e" ++ sign ++ toString (point - 1).natAbs

/-- The shortest text of a finite float. -/
def floatText (x : Float) : String :=
  let bits := x.toBits
  let sign := if bits.toNat / Nat.pow 2 63 = 1 then "-" else ""
  let positive := bits.toNat % Nat.pow 2 63
  if positive = 0 then sign ++ "0.0"
  else sign ++ decimalText ((Binary.ofBits positive.toUInt64).shortest.normalize 17)

/-- A number as what was found in place of something else. -/
def Number.found : Number → Found
  | integer n => .integer n
  | float x => .float (floatText x)

end TagSelect.Json
