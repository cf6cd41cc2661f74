/-
Punycode, the encoding of Unicode labels of domain names into ASCII (RFC 3492).
-/

namespace DraftPool.Web

/-- The Punycode digit of a value below 36. -/
def punyDigit (d : Nat) : Char :=
  if d < 26 then Char.ofNat ('a'.toNat + d) else Char.ofNat ('0'.toNat + d - 26)

/-- The bias adaptation of RFC 3492, section 6.1. -/
def punyAdapt (delta numPoints : Nat) (firstTime : Bool) : Nat :=
  let delta := if firstTime then delta / 700 else delta / 2
  let delta := delta + delta / numPoints
  let rec scale : Nat → Nat → Nat → Nat
    | 0, d, k => k + 36 * d / (d + 38)
    | fuel + 1, d, k => if 455 < d then scale fuel (d / 35) (k + 36) else k + 36 * d / (d + 38)
  scale 64 delta 0

/-- The threshold of a digit position. -/
def punyThreshold (k bias : Nat) : Nat :=
  if k ≤ bias then 1 else if bias + 26 ≤ k then 26 else k - bias

/-- The digits of the variable-length integer `q`. -/
def punyInteger (bias : Nat) : Nat → Nat → Nat → List Char
  | 0, q, _ => [punyDigit q]
  | fuel + 1, q, k =>
    let t := punyThreshold k bias
    if q < t then [punyDigit q]
    else punyDigit (t + (q - t) % (36 - t)) :: punyInteger bias fuel ((q - t) / (36 - t)) (k + 36)

/-- One pass over the label for the code point `n`, from the state `(delta, bias, handled)`. -/
def punyPass (points : List Nat) (n basic : Nat) (state : Nat × Nat × Nat) :
    Nat × Nat × Nat × List Char :=
  points.foldl (fun (delta, bias, handled, out) c =>
    if c < n then (delta + 1, bias, handled, out)
    else if c = n then
      let out := out ++ punyInteger bias 64 delta 36
      (0, punyAdapt delta (handled + 1) (handled == basic), handled + 1, out)
    else (delta, bias, handled, out)) (state.1, state.2.1, state.2.2, [])

/-- Encodes the code points from `n` upwards, `fuel` passes at most. -/
def punyExtend (points : List Nat) (basic : Nat) :
    Nat → Nat → Nat → Nat → Nat → List Char
  | 0, _, _, _, _ => []
  | fuel + 1, n, delta, bias, handled =>
    if points.length ≤ handled then []
    else
      let m := (points.filter (n ≤ ·)).foldl min (points.foldl max 0)
      let delta := delta + (m - n) * (handled + 1)
      let (delta, bias, handled, out) := punyPass points m basic (delta, bias, handled)
      out ++ punyExtend points basic fuel (m + 1) (delta + 1) bias handled

/-- The Punycode of a label. -/
def punycode (label : String) : String :=
  let points := label.toList.map Char.toNat
  let basic := points.filter (· < 0x80)
  let basicPart := basic.map Char.ofNat ++ (if basic.isEmpty then [] else ['-'])
  String.ofList (basicPart ++ punyExtend points basic.length (points.length + 1) 128 0 72 basic.length)

/-- The most code points a label written as Punycode may have. -/
def punyMaxLabelLength : Nat := 1000

/-- The most characters of Punycode that are read. -/
def punyMaxCodeLength : Nat := 2000

/-- The value of a Punycode digit: the letters of either case from 0, the digits from 26. -/
def punyValue (c : Char) : Option Nat :=
  if 'a' ≤ c && c ≤ 'z' then some (c.toNat - 'a'.toNat)
  else if 'A' ≤ c && c ≤ 'Z' then some (c.toNat - 'A'.toNat)
  else if '0' ≤ c && c ≤ '9' then some (c.toNat - '0'.toNat + 26)
  else none

/-- The bound that every number of a decoding stays below. -/
def punyLimit : Nat := Nat.pow 2 32

/-- Reads one variable-length integer, adding its digits to `i` with the weight `weight` of
digit position `k`: the sum and the rest of the input. -/
def punyReadInteger (bias : Nat) : List Char → Nat → Nat → Nat → Option (Nat × List Char)
  | [], _, _, _ => none
  | c :: rest, k, weight, i => do
    let d ← punyValue c
    let i := i + d * weight
    if punyLimit ≤ i then none
    let t := punyThreshold k bias
    if d < t then some (i, rest)
    else
      let weight := weight * (36 - t)
      if punyLimit ≤ weight then none
      punyReadInteger bias rest (k + 36) weight i

/-- Reading an integer consumes input. -/
theorem punyReadInteger_length (bias : Nat) :
    ∀ (cs : List Char) (k weight i : Nat) (r : Nat × List Char),
      punyReadInteger bias cs k weight i = some r → r.2.length < cs.length
  | [], _, _, _, _, h => by simp [punyReadInteger] at h
  | c :: rest, k, weight, i, r, h => by
    simp only [punyReadInteger] at h
    cases hd : punyValue c with
    | none => simp [hd] at h
    | some d =>
      simp only [hd, Option.bind_eq_bind, Option.bind_some] at h
      split at h
      · simp at h
      · split at h
        · simp only [Option.some.injEq] at h
          subst h
          simp
        · split at h
          · simp at h
          · have := punyReadInteger_length bias rest _ _ _ r h
            simp only [List.length_cons]
            omega

/-- Inserts the code points that the integers of `input` give into `out`, starting from code
point `n` and position `i`. -/
def punyInsert (bias n i : Nat) (out : List Char) (input : List Char) : Option (List Char) :=
  match input with
  | [] => some out
  | c :: more =>
    match h : punyReadInteger bias (c :: more) 36 1 i with
    | none => none
    | some (j, rest) =>
      let size := out.length + 1
      let n := n + j / size
      let pos := j % size
      if punyLimit ≤ n || !n.isValidChar then none
      else
        punyInsert (punyAdapt (j - i) size (i == 0)) n (pos + 1) (out.insertIdx pos (Char.ofNat n))
          rest
termination_by input.length
decreasing_by exact punyReadInteger_length bias (c :: more) 36 1 i (j, rest) h

/-- The basic code points of a Punycode text and the integers after them: the text is split at
its last `-`, unless that is its first character. -/
def punySplit (code : List Char) : List Char × List Char :=
  match code.reverse.span (· ≠ '-') with
  | (_, []) => ([], code)
  | (after, _ :: before) => if before.isEmpty then ([], code) else (before.reverse, after.reverse)

/-- Decodes Punycode. -/
def punyDecode (code : List Char) : Option (List Char) :=
  let (basic, deltas) := punySplit code
  if basic.any (0x80 ≤ ·.toNat) then none else punyInsert 72 128 0 basic deltas

end DraftPool.Web
