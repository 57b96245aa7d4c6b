import TagSelect.Text.Printable

/-!
# Quoted texts

A text in double quotation marks, as messages show it. The quotation mark and the backslash are
escaped, so are the characters that cannot be seen: those with a short escape by that, all others
by their code point in hexadecimal.
-/

namespace TagSelect.Text

/-- The digits of a number in hexadecimal, in lower case. -/
def hexDigits (n : Nat) : List Char :=
  Nat.toDigits 16 n

/-- The escape of a character by its code point. -/
def codePointEscape (c : Char) : List Char :=
  "\\u\x7b".toList ++ hexDigits c.toNat ++ ['\x7d']

/-- A character of a quoted text. -/
def quotedChar (c : Char) : List Char :=
  match c with
  | '\x00' => ['\\', '0']
  | '\t' => ['\\', 't']
  | '\r' => ['\\', 'r']
  | '\n' => ['\\', 'n']
  | '\\' => ['\\', '\\']
  | '"' => ['\\', '"']
  | c => if isVisible c then [c] else codePointEscape c

/-- A text in quotation marks. -/
def quoted (s : String) : String :=
  String.ofList ('"' :: (s.toList.flatMap quotedChar ++ ['"']))

end TagSelect.Text
