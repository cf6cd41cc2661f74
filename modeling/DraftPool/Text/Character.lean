import DraftPool.Text.BidiTable
import DraftPool.Text.JoiningTable
import DraftPool.Text.MarkTable
import DraftPool.Text.UnassignedTable

/-
Properties of characters that domain names are checked against, from the Unicode 17.0 tables.
-/

namespace DraftPool.Text

/-- Whether the tables leave a code point unassigned. -/
def isUnassigned (c : Char) : Bool := inRanges unassignedRanges c

/-- The assigned code point nearest to `n`, the lower one of two at the same distance; `n` itself
when it is assigned. -/
def nearestAssigned (n : Nat) : Nat :=
  match unassignedRanges.find? fun range => range.1 ≤ n && n ≤ range.2 with
  | some (first, last) => if n + 1 - first ≤ last + 1 - n then first - 1 else last + 1
  | none => n

/-- Whether a character is a mark, of general category Mn, Mc or Me; an unassigned code point is
one when the nearest assigned code point is. -/
def isMark (c : Char) : Bool := inRanges markRanges (Char.ofNat (nearestAssigned c.toNat))

/-- The bidirectional class of a character. -/
def bidiClass (c : Char) : BidiClass :=
  if isUnassigned c then
    if isMark c then .nonspacingMark else (rangeValue? bidiDefaults c.toNat).getD .leftToRight
  else (rangeValue? bidiRanges c.toNat).getD .leftToRight

/-- The joining type of a character. -/
def joiningType (c : Char) : JoiningType := (rangeValue? joiningRanges c.toNat).getD .nonJoining

end DraftPool.Text
