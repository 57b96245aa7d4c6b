/-!
# Values

The values that a statement compares columns with: integers of three widths, texts, truth
values, byte strings, and an absent value of each type.
-/

namespace TagSelect.Sql

/-- The type of a value. -/
inductive ValueType where
  | int
  | bigInt
  | bigUnsigned
  | text
  | bool
  | bytes
deriving DecidableEq, Repr

/-- A value of a statement. -/
inductive Value where
  | int (n : Int32)
  | bigInt (n : Int64)
  | bigUnsigned (n : UInt64)
  | text (s : String)
  | bool (b : Bool)
  | bytes (bs : List UInt8)
  | null (type : ValueType)
deriving DecidableEq, Repr

/-- The type of a value. -/
def Value.type : Value → ValueType
  | int _ => .int
  | bigInt _ => .bigInt
  | bigUnsigned _ => .bigUnsigned
  | text _ => .text
  | bool _ => .bool
  | bytes _ => .bytes
  | null type => type

/-- The two digits of a byte, in upper case. -/
def hexByte (b : UInt8) : List Char :=
  [hexDigit (b.toNat / 16), hexDigit (b.toNat % 16)]
where
  /-- The digit of a number below sixteen. -/
  hexDigit (n : Nat) : Char :=
    if n < 10 then Char.ofNat (48 + n) else Char.ofNat (55 + n)

/-- The digits of a byte string, in upper case. -/
def hexBytes (bs : List UInt8) : String :=
  String.ofList (bs.flatMap hexByte)

end TagSelect.Sql
