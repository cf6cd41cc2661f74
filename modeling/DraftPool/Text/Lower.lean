import DraftPool.Text.CaseTable

/-
Full Unicode lowercasing of text.
-/

namespace DraftPool.Text

/-- Whether a character has the property Cased. -/
def isCased (c : Char) : Bool := inRanges casedRanges c

/-- Whether a character has the property Case_Ignorable. -/
def isCaseIgnorable (c : Char) : Bool := inRanges caseIgnorableRanges c

/-- The lowercase form of one character, one or two characters long. -/
def lowerChar (c : Char) : List Char :=
  if c = 'İ' then ['i', '̇']
  else
    match shiftBy? lowerRuns c.toNat with
    | some n => [Char.ofNat n]
    | none => [c]

/-- Whether, after skipping case-ignorable characters, the next character is cased. -/
def casedAfterIgnorable (cs : List Char) : Bool :=
  match cs.dropWhile isCaseIgnorable with
  | c :: _ => isCased c
  | [] => false

/-- The lowercase capital sigma between the reversed text before it and the text after it. -/
def lowerSigma (before after : List Char) : Char :=
  if casedAfterIgnorable before && !casedAfterIgnorable after then 'ς' else 'σ'

/-- Lowercases `cs`, where `before` is the text already passed, nearest character first. -/
def lowerAfter (before : List Char) : List Char → List Char
  | [] => []
  | c :: rest =>
    (if c = 'Σ' then [lowerSigma before rest] else lowerChar c) ++ lowerAfter (c :: before) rest

/-- The full Unicode lowercase form of a text. -/
def lower (s : String) : String := String.ofList (lowerAfter [] s.toList)

@[simp] theorem lowerAfter_nil (before : List Char) : lowerAfter before [] = [] := rfl

end DraftPool.Text
