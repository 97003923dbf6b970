import SchemaPlan.Text.CodeRanges

/-!
# Blank characters

The characters with the White_Space property of Unicode. They are what
`Text.trim` removes from both ends of a text and what separates the words
of `Text.words`; nothing else counts as blank, in particular not the
zero-width space.
-/

namespace SchemaPlan.Text

/-- The code ranges of the White_Space property. -/
def blankRanges : CodeRanges :=
  [(0x9, 0xD), (0x20, 0x20), (0x85, 0x85), (0xA0, 0xA0), (0x1680, 0x1680), (0x2000, 0x200A),
   (0x2028, 0x2029), (0x202F, 0x202F), (0x205F, 0x205F), (0x3000, 0x3000)]

/-- Whether the character is white space. -/
def isBlank (c : Char) : Bool :=
  blankRanges.contains c

/-- A list of characters without the blanks at its two ends. Blanks between
other characters stay. -/
def trimChars (cs : List Char) : List Char :=
  ((cs.dropWhile isBlank).reverse.dropWhile isBlank).reverse

/-- A text without the blanks at its two ends. -/
def trim (s : String) : String :=
  String.ofList (trimChars s.toList)

/-- The maximal runs of characters that are not blank, in order. However many
blanks there are between two of them makes no difference. -/
def wordChars (cs : List Char) : List (List Char) :=
  (cs.splitOnP isBlank).filter (fun w => !w.isEmpty)

/-- The words of a text: its maximal blank-free pieces, in order. -/
def words (s : String) : List String :=
  (wordChars s.toList).map String.ofList

end SchemaPlan.Text
