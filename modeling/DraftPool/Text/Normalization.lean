import DraftPool.Text.CombiningClassTable
import DraftPool.Text.DecompositionTable

/-
Canonical normalization of Unicode text to form C (UAX 15).
-/

namespace DraftPool.Text

/-- The canonical combining class of a character. -/
def combiningClass (c : Char) : Nat := (rangeValue? combiningClassRanges c.toNat).getD 0

/-- The first Hangul syllable. -/
def syllableBase : Nat := 0xAC00

/-- The first leading consonant jamo. -/
def leadBase : Nat := 0x1100

/-- The first vowel jamo. -/
def vowelBase : Nat := 0x1161

/-- The code point before the first trailing consonant jamo. -/
def trailBase : Nat := 0x11A7

/-- The number of leading consonants. -/
def leadCount : Nat := 19

/-- The number of vowels. -/
def vowelCount : Nat := 21

/-- The number of trailing places: the trailing consonants and their absence. -/
def trailCount : Nat := 28

/-- The number of Hangul syllables. -/
def syllableCount : Nat := leadCount * vowelCount * trailCount

/-- The canonical decomposition of a code point one level deep: a Hangul syllable with a trailing
consonant into its syllable without one and that consonant, one without into its two jamo. -/
def decomposeOnce (n : Nat) : Option (List Nat) :=
  if syllableBase ≤ n && n < syllableBase + syllableCount then
    let s := n - syllableBase
    if s % trailCount = 0 then
      some [leadBase + s / (vowelCount * trailCount), vowelBase + s % (vowelCount * trailCount) / trailCount]
    else some [n - s % trailCount, trailBase + s % trailCount]
  else
    match canonicalPairs.find? (·.1 = n) with
    | some (_, first, second) => some [first, second]
    | none => (canonicalSingletons.find? (·.1 = n)).map fun (_, single) => [single]

/-- The canonical decomposition of a code point, `depth` levels deep at most. -/
def decomposeDeep : Nat → Nat → List Nat
  | 0, n => [n]
  | depth + 1, n =>
    match decomposeOnce n with
    | some parts => parts.flatMap (decomposeDeep depth)
    | none => [n]

/-- The depth of the deepest canonical decomposition. -/
def decompositionDepth : Nat := 3

/-- The full canonical decomposition of text, before ordering. -/
def decompose (cs : List Char) : List Char :=
  cs.flatMap fun c => (decomposeDeep decompositionDepth c.toNat).map Char.ofNat

/-- Sorts characters by combining class, keeping the order of equal classes. -/
def sortByClass (cs : List Char) : List Char :=
  cs.mergeSort fun a b => combiningClass a ≤ combiningClass b

/-- Puts text in canonical order, `marks` holding the run of nonzero classes read so far,
reversed. -/
def canonicalOrderFrom (marks : List Char) : List Char → List Char
  | [] => sortByClass marks.reverse
  | c :: rest =>
    if combiningClass c = 0 then sortByClass marks.reverse ++ c :: canonicalOrderFrom [] rest
    else canonicalOrderFrom (c :: marks) rest

/-- Text in canonical order. -/
def canonicalOrder (cs : List Char) : List Char := canonicalOrderFrom [] cs

/-- The primary composite of two characters, if they have one. -/
def composePair (a b : Char) : Option Char :=
  let x := a.toNat
  let y := b.toNat
  if leadBase ≤ x && x < leadBase + leadCount && vowelBase ≤ y && y < vowelBase + vowelCount then
    some (Char.ofNat (syllableBase + ((x - leadBase) * vowelCount + (y - vowelBase)) * trailCount))
  else if syllableBase ≤ x && x < syllableBase + syllableCount &&
      (x - syllableBase) % trailCount = 0 && trailBase < y && y < trailBase + trailCount then
    some (Char.ofNat (x + (y - trailBase)))
  else
    (canonicalPairs.find? fun (n, first, second) =>
        first = x && second = y && !compositionExclusions.contains n).map
      fun (n, _, _) => Char.ofNat n

/-- Composes text in canonical order; `done` and `after` are reversed. -/
def composeFrom (done : List Char) (starter : Option Char) (after : List Char) (lastClass : Nat) :
    List Char → List Char
  | [] => done.reverse ++ starter.toList ++ after.reverse
  | c :: rest =>
    let cc := combiningClass c
    match starter with
    | none =>
      if cc = 0 then composeFrom done (some c) [] 0 rest
      else composeFrom (c :: done) none [] cc rest
    | some s =>
      let unblocked := after.isEmpty || lastClass < cc
      match (if unblocked then composePair s c else none) with
      | some k => composeFrom done (some k) after lastClass rest
      | none =>
        if cc = 0 then composeFrom (after ++ s :: done) (some c) [] 0 rest
        else composeFrom done (some s) (c :: after) cc rest

/-- The canonical composition of text in canonical order. -/
def compose (cs : List Char) : List Char := composeFrom [] none [] 0 cs

/-- Normalization form C. -/
def nfc (cs : List Char) : List Char := compose (canonicalOrder (decompose cs))

/-- Whether text is in normalization form C. -/
def isNfc (cs : List Char) : Bool := nfc cs == cs

end DraftPool.Text
