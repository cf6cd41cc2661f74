/-
IEEE 754 binary64 numbers as their 64-bit patterns, computed exactly in natural numbers.
-/

namespace DraftPool.Number

/-- The sign bit of a binary64 pattern. -/
def signBit : UInt64 := 0x8000000000000000

/-- `a / b` rounded to the nearest natural number, a tie going to the even one. -/
def divRoundEven (a b : Nat) : Nat :=
  let q := a / b
  let r := a % b
  if 2 * r < b then q
  else if b < 2 * r then q + 1
  else if q % 2 = 0 then q else q + 1

/-- The number of decimal digits of `n`, one for zero. -/
def decimalLength (n : Nat) : Nat := (Nat.toDigits 10 n).length

/-- The pattern of the binary64 nearest to `num / den`, for `den > 0`; `none` past the largest
finite binary64. -/
def ofRatio (negative : Bool) (num den : Nat) : Option UInt64 :=
  let sign : UInt64 := if negative then signBit else 0
  if num = 0 then some sign
  else
    -- `e2` is chosen so that `num / (den * 2^e2)` lies in `[2^52, 2^53)`, or is the subnormal scale.
    let guess : Int := (Nat.log2 num : Int) - (Nat.log2 den : Int) - 52
    let scaled (e : Int) : Nat × Nat :=
      if 0 ≤ e then (num, den * Nat.pow 2 e.toNat) else (num * Nat.pow 2 (-e).toNat, den)
    let fits (e : Int) : Bool :=
      let (a, b) := scaled e
      Nat.pow 2 52 * b ≤ a
    let e2 := if fits guess then guess else guess - 1
    let e2 := if e2 < -1074 then -1074 else e2
    let (a, b) := scaled e2
    let q := divRoundEven a b
    let (q, e2) := if q = Nat.pow 2 53 then (Nat.pow 2 52, e2 + 1) else (q, e2)
    if Nat.pow 2 52 ≤ q then
      let biased := e2 + 1075
      if 2047 ≤ biased then none
      else some (sign ||| (UInt64.ofNat biased.toNat <<< 52) ||| UInt64.ofNat (q - Nat.pow 2 52))
    else some (sign ||| UInt64.ofNat q)

/-- The binary64 nearest to `digits × 10^exp10`; `none` when it overflows. Values far below the
least subnormal round to zero without computing their powers. -/
def ofDecimal (negative : Bool) (digits : Nat) (exp10 : Int) : Option UInt64 :=
  let size : Int := decimalLength digits
  if digits = 0 then ofRatio negative 0 1
  else if 310 < exp10 + size then none
  else if exp10 + size < -330 then ofRatio negative 0 1
  else if 0 ≤ exp10 then ofRatio negative (digits * Nat.pow 10 exp10.toNat) 1
  else ofRatio negative digits (Nat.pow 10 (-exp10).toNat)

/-- A positive binary64 as `m × 2^e`, with `m` below `2^53`. -/
def decode (bits : UInt64) : Nat × Int :=
  let biased := ((bits >>> 52) &&& 0x7FF).toNat
  let fraction := (bits &&& 0xFFFFFFFFFFFFF).toNat
  if biased = 0 then (fraction, -1074) else (fraction + Nat.pow 2 52, (biased : Int) - 1075)

/-- The binary64 nearest to `num / den × 2^e`, for `den > 0`; `none` when it overflows. -/
def ofScaled (num den : Nat) (e : Int) : Option UInt64 :=
  if 0 ≤ e then ofRatio false (num * Nat.pow 2 e.toNat) den
  else ofRatio false num (den * Nat.pow 2 (-e).toNat)

/-- The rounded sum of two positive finite binary64 numbers; `none` when it overflows. -/
def add (a b : UInt64) : Option UInt64 :=
  let (m, e) := decode a
  let (n, f) := decode b
  let low := min e f
  ofScaled (m * Nat.pow 2 (e - low).toNat + n * Nat.pow 2 (f - low).toNat) 1 low

/-- The rounded product of two positive finite binary64 numbers; `none` when it overflows. -/
def mul (a b : UInt64) : Option UInt64 :=
  let (m, e) := decode a
  let (n, f) := decode b
  ofScaled (m * n) 1 (e + f)

/-- The rounded quotient of two positive finite binary64 numbers, the divisor not zero; `none`
when it overflows. -/
def div (a b : UInt64) : Option UInt64 :=
  let (m, e) := decode a
  let (n, f) := decode b
  ofScaled m n (e - f)

/-- Whether a pattern is zero of either sign. -/
def isZero (bits : UInt64) : Bool := bits &&& ~~~signBit = 0

/-- The pattern with the sign flipped. -/
def negate (bits : UInt64) : UInt64 := bits ^^^ signBit

/-- The candidates `k` with `k × 10^j` inside the rounding interval of `m × 2^e`, and the one
nearest to the value. The interval reaches halfway to each neighbour, closed when `m` is even. -/
def gridChoice (m : Nat) (e : Int) (j : Int) : Option Nat :=
  -- In units of 2^(e - 2), the value is 4m and its neighbours' midpoints are 4m ± 2, or 4m - 1
  -- below the least mantissa of a binade.
  let lowGap := if m = Nat.pow 2 52 ∧ -1074 < e then 1 else 2
  let closed := m % 2 = 0
  let unit : Nat × Nat := if 2 ≤ e then (Nat.pow 2 (e - 2).toNat, 1) else (1, Nat.pow 2 (2 - e).toNat)
  let grid : Nat × Nat := if 0 ≤ j then (1, Nat.pow 10 j.toNat) else (Nat.pow 10 (-j).toNat, 1)
  -- A point `x` of the unit scale is `x * a / b` grid steps.
  let a := unit.1 * grid.1
  let b := unit.2 * grid.2
  let low := (4 * m - lowGap) * a
  let high := (4 * m + 2) * a
  let kLow : Int := if low % b = 0 then (if closed then low / b else low / b + 1) else low / b + 1
  let kHigh : Int := if high % b = 0 ∧ ¬closed then (high / b : Int) - 1 else high / b
  let nearest : Int := divRoundEven (4 * m * a) b
  if kLow ≤ kHigh then some (max kLow (min kHigh nearest)).toNat else none

/-- The first grid from `j` downwards that has a candidate, tried `fuel` times. -/
def searchGrid (m : Nat) (e : Int) : Nat → Int → Option (Nat × Int)
  | 0, _ => none
  | fuel + 1, j =>
    match gridChoice m e j with
    | some k => some (k, j)
    | none => searchGrid m e fuel (j - 1)

/-- The shortest decimal `k × 10^j` of a positive binary64 `m × 2^e`. -/
def shortestDigits (m : Nat) (e : Int) : Nat × Int :=
  -- Start at the grid of the leading digit of the upper end of the interval.
  let high : Nat × Nat :=
    if 1 ≤ e then ((2 * m + 1) * Nat.pow 2 (e - 1).toNat, 1) else (2 * m + 1, Nat.pow 2 (1 - e).toNat)
  let top : Int := (decimalLength (high.1 * Nat.pow 10 400 / high.2) : Int) - 1 - 400
  (searchGrid m e 40 top).getD (m, 0)

/-- `n` zeros. -/
def zeros (n : Nat) : String := String.ofList (List.replicate n '0')

/-- The exponent after `e`: always signed, without padding. -/
def exponentText (k : Int) : String :=
  if k < 0 then "-" ++ toString (-k).toNat else "+" ++ toString k.toNat

/-- Writes `digits × 10^j` with the placement rules of the module header. -/
def placeDigits (digits : String) (j : Int) : String :=
  let n : Int := digits.length
  let point := n + j
  if 0 ≤ j ∧ point ≤ 16 then digits ++ zeros j.toNat ++ ".0"
  else if 0 < point ∧ point ≤ 16 then
    String.ofList (digits.toList.take point.toNat) ++ "." ++
      String.ofList (digits.toList.drop point.toNat)
  else if -5 < point ∧ point ≤ 0 then "0." ++ zeros (-point).toNat ++ digits
  else if n = 1 then digits ++ "e" ++ exponentText (point - 1)
  else
    String.ofList (digits.toList.take 1) ++ "." ++ String.ofList (digits.toList.drop 1) ++ "e" ++
      exponentText (point - 1)

/-- The shortest text of a finite binary64. -/
def shortestText (bits : UInt64) : String :=
  let sign := if bits &&& signBit = 0 then "" else "-"
  let (m, e) := decode bits
  if m = 0 then sign ++ "0.0"
  else
    let (k, j) := shortestDigits m e
    sign ++ placeDigits (toString k) j

end DraftPool.Number
