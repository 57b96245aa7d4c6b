import TagSelect.Text.Blank

/-!
# Words and trimming

Operations on a text that treat every blank character alike: dropping the blanks at both ends,
cutting off the first word, and listing all words.
-/

namespace TagSelect.Text

/-- The characters without the blanks at both ends. -/
def trimChars (cs : List Char) : List Char :=
  ((cs.dropWhile isBlank).reverse.dropWhile isBlank).reverse

/-- A text without the blanks at both ends. -/
def trim (s : String) : String :=
  String.ofList (trimChars s.toList)

/-- The text before the first blank and the text after that blank. -/
def cutAtBlank (s : String) : String × String :=
  (String.ofList (s.toList.takeWhile (!isBlank ·)),
    String.ofList ((s.toList.dropWhile (!isBlank ·)).drop 1))

/-- Collects words while it reads: `word` is the word under way, in reverse. -/
def wordsFrom : List Char → List Char → List String
  | [], word => if word.isEmpty then [] else [String.ofList word.reverse]
  | c :: cs, word =>
    if isBlank c then
      if word.isEmpty then wordsFrom cs [] else String.ofList word.reverse :: wordsFrom cs []
    else
      wordsFrom cs (c :: word)

/-- The maximal runs of characters that are not blank, in order. -/
def words (s : String) : List String :=
  wordsFrom s.toList []

end TagSelect.Text
