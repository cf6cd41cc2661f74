/-
Character classes given as lists of inclusive code point ranges.
-/

namespace DraftPool.Text

/-- An inclusive range of code points. -/
abbrev CodeRange := Nat × Nat

/-- Whether a character lies in one of the ranges. -/
def inRanges (ranges : List CodeRange) (c : Char) : Bool :=
  ranges.any fun range => range.1 ≤ c.toNat && c.toNat ≤ range.2

@[simp] theorem inRanges_nil (c : Char) : inRanges [] c = false := rfl

theorem inRanges_cons (range : CodeRange) (rest : List CodeRange) (c : Char) :
    inRanges (range :: rest) c =
      ((range.1 ≤ c.toNat && c.toNat ≤ range.2) || inRanges rest c) := rfl

/-- The value that the first range holding the code point `n` gives it. -/
def rangeValue? {α : Type} (ranges : List (Nat × Nat × α)) (n : Nat) : Option α :=
  (ranges.find? fun range => range.1 ≤ n && n ≤ range.2.1).map (·.2.2)

/-- A run of code points `first`, `first + step`, ..., up to `last`, each taken to the code point
`offset` away from it. -/
structure ShiftRun where
  first : Nat
  last : Nat
  offset : Int
  step : Nat

/-- Whether a run covers the code point `n`. -/
def ShiftRun.covers (run : ShiftRun) (n : Nat) : Bool :=
  run.first ≤ n && n ≤ run.last && (n - run.first) % run.step == 0

/-- The code point a run takes `n` to. -/
def ShiftRun.shift (run : ShiftRun) (n : Nat) : Nat := Int.toNat (n + run.offset)

/-- The code point the first run covering `n` takes it to. -/
def shiftBy? (runs : List ShiftRun) (n : Nat) : Option Nat :=
  (runs.find? (·.covers n)).map (·.shift n)

end DraftPool.Text
