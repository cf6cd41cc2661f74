import DraftPool.Number.Binary64
/-
The Jaro similarity of two texts, used to suggest a known name for a mistyped one.
-/

namespace DraftPool.Text

/-- Marks, for each character of `a`, the position in `b` it matches, if any; `taken` are the
positions of `b` already matched. -/
def jaroMatches (range : Nat) (b : List Char) : Nat → List Char → List Nat →
    List (Option Nat) × List Nat
  | _, [], taken => ([], taken)
  | i, c :: rest, taken =>
    let lo := i - range
    let hi := i + range + 1
    let found := ((List.range b.length).zip b).find? fun (j, d) =>
      lo ≤ j && j < hi && d = c && !taken.contains j
    match found with
    | some (j, _) =>
      let (marks, taken) := jaroMatches range b (i + 1) rest (j :: taken)
      (some j :: marks, taken)
    | none =>
      let (marks, taken) := jaroMatches range b (i + 1) rest taken
      (none :: marks, taken)

/-- The binary64 nearest to `p / q`, for counts `p` and `q > 0`. -/
def ratio (p q : Nat) : UInt64 := (Number.ofRatio false p q).getD 0

/-- The Jaro similarity of two texts, as a binary64 pattern. -/
def jaro (a b : String) : UInt64 :=
  let as := a.toList
  let bs := b.toList
  if as.isEmpty && bs.isEmpty then ratio 1 1
  else if as.isEmpty || bs.isEmpty then ratio 0 1
  else
    let range := max as.length bs.length / 2 - 1
    let (marks, taken) := jaroMatches range bs 0 as []
    let m := taken.length
    if m = 0 then ratio 0 1
    else
      -- matched characters of `a` in order, against matched characters of `b` in order
      let fromA := (as.zip marks).filterMap fun (c, mark) => mark.map fun _ => c
      let fromB := ((List.range bs.length).zip bs).filterMap fun (j, d) =>
        if taken.contains j then some d else none
      let t := ((fromA.zip fromB).filter fun (x, y) => x ≠ y).length / 2
      let sum := (Number.add (ratio m as.length) (ratio m bs.length)).bind fun s =>
        Number.add s (ratio (m - t) m)
      (sum.bind fun s => Number.div s (ratio 3 1)).getD 0

/-- The bound a similarity must pass: the binary64 nearest to 0.7. -/
def similarityBound : UInt64 := ratio 7 10

/-- Whether two texts are more than 0.7 similar. Positive binary64 numbers compare as their
patterns do. -/
def similar (a b : String) : Bool := jaro a b > similarityBound

/-- The known names similar to a text, least similar first, ties in the given order. -/
def similarNames (text : String) (names : List String) : List String :=
  let scored := (names.filter (similar text)).map fun n => (n, jaro text n)
  (scored.mergeSort fun x y => x.2 ≤ y.2).map (·.1)

end DraftPool.Text
