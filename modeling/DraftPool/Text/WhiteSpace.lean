import DraftPool.Text.Ranges

/-
The Unicode property White_Space and trimming by it. Trimming drops the longest run of white
space at each end and keeps everything between.
-/

namespace DraftPool.Text

/-- The 25 code points with the property White_Space. -/
def whiteSpaceRanges : List CodeRange := [
  (0x9, 0xD), (0x20, 0x20), (0x85, 0x85), (0xA0, 0xA0), (0x1680, 0x1680),
  (0x2000, 0x200A), (0x2028, 0x2029), (0x202F, 0x202F), (0x205F, 0x205F), (0x3000, 0x3000)
]

/-- Whether a character has the property White_Space. -/
def isWhiteSpace (c : Char) : Bool := inRanges whiteSpaceRanges c

/-- The characters left after dropping white space from the front. -/
def dropLeadingWhiteSpace (cs : List Char) : List Char := cs.dropWhile isWhiteSpace

/-- A text without the white space at its two ends. -/
def trim (s : String) : String :=
  String.ofList (dropLeadingWhiteSpace (dropLeadingWhiteSpace s.toList).reverse).reverse

/-- A text without the white space at its start. -/
def trimStart (s : String) : String := String.ofList (dropLeadingWhiteSpace s.toList)

/-- A text without the white space at its end. -/
def trimEnd (s : String) : String :=
  String.ofList (dropLeadingWhiteSpace s.toList.reverse).reverse

end DraftPool.Text
