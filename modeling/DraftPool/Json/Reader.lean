import DraftPool.Json.Value

/-
Reading a document from text.
-/

namespace DraftPool.Json

/-- The nesting budget of a document: containers may nest while it stays positive. -/
def depthBudget : Nat := 128

/-- Whether a character is a blank between tokens. -/
def isBlank (c : Char) : Bool := c = ' ' || c = '\n' || c = '\t' || c = '\r'

/-- The text after any blanks. -/
def skipBlank (cs : List Char) : List Char := cs.dropWhile isBlank

/-- Matches the rest of a literal word such as `ull` after `n`. -/
def readWord : List Char → List Char → Except ReadError (List Char)
  | [], cs => .ok cs
  | _ :: _, [] => .error .unexpectedEnd
  | w :: ws, c :: cs => if w = c then readWord ws cs else .error .expectedIdent

/-- The value of a list of decimal digits. -/
def digitsValue (ds : List Char) : Nat :=
  ds.foldl (fun acc d => acc * 10 + (d.toNat - '0'.toNat)) 0

/-- Reads one or more digits, the first already known to be there or not. -/
def readDigitRun (cs : List Char) : Except ReadError (List Char × List Char) :=
  match cs with
  | [] => .error .unexpectedEnd
  | c :: _ =>
    if c.isDigit then .ok (cs.takeWhile Char.isDigit, cs.dropWhile Char.isDigit)
    else .error .invalidNumber

/-- The integer part of a number: a single zero, or digits without a leading zero. -/
def readIntegerPart (cs : List Char) : Except ReadError (List Char × List Char) :=
  match cs with
  | '0' :: rest =>
    match rest with
    | d :: _ => if d.isDigit then .error .invalidNumber else .ok (['0'], rest)
    | [] => .ok (['0'], rest)
  | _ => readDigitRun cs

/-- The optional fraction digits after a point. -/
def readFraction (cs : List Char) : Except ReadError (List Char × List Char) :=
  match cs with
  | '.' :: rest => readDigitRun rest
  | _ => .ok ([], cs)

/-- The optional exponent, as a signed integer, and whether one was written. -/
def readExponent (cs : List Char) : Except ReadError (Option Int × List Char) :=
  let signed (negative : Bool) (rest : List Char) : Except ReadError (Option Int × List Char) :=
    match readDigitRun rest with
    | .ok (ds, after) =>
      let n : Int := digitsValue ds
      .ok (some (if negative then -n else n), after)
    | .error e => .error e
  match cs with
  | 'e' :: '-' :: rest => signed true rest
  | 'e' :: '+' :: rest => signed false rest
  | 'e' :: rest => signed false rest
  | 'E' :: '-' :: rest => signed true rest
  | 'E' :: '+' :: rest => signed false rest
  | 'E' :: rest => signed false rest
  | _ => .ok (none, cs)

/-- The number an integer of magnitude `m` and the given sign is held as. -/
def integerNumber (negative : Bool) (m : Nat) : Except ReadError JsonNumber :=
  if !negative && m < Nat.pow 2 64 then .ok (.int m)
  else if negative && m ≠ 0 && m ≤ Nat.pow 2 63 then .ok (.int (-(m : Int)))
  else
    match Number.ofDecimal negative m 0 with
    | some bits => .ok (.float bits)
    | none => .error .numberOutOfRange

/-- Appends digits to a significand while it stays below `2^64`, with the number of digits taken. -/
def takeDigits (sig : Nat) : List Char → Nat × Nat
  | [] => (sig, 0)
  | d :: ds =>
    let next := sig * 10 + (d.toNat - '0'.toNat)
    if next < Nat.pow 2 64 then
      let (s, n) := takeDigits next ds
      (s, n + 1)
    else (sig, 0)

/-- The power of ten `10^k` as the nearest binary64, for `k` up to 308. -/
def powerOfTen (k : Nat) : UInt64 := (Number.ofRatio false (Nat.pow 10 k) 1).getD 0

/-- `f × 10^k` computed in binary64: one rounded product by the power when it is in the table,
and otherwise zero stays zero and anything else is out of range. -/
def scaleUp (f : UInt64) (k : Nat) : Option UInt64 :=
  if k ≤ 308 then Number.mul f (powerOfTen k)
  else if Number.isZero f then some f
  else none

/-- `f / 10^k` computed in binary64: one rounded quotient by the power when it is in the table,
and otherwise a division by `10^308` first, until zero or a power in the table is reached. -/
def scaleDown (f : UInt64) (k : Nat) : UInt64 :=
  if k ≤ 308 then (Number.div f (powerOfTen k)).getD 0
  else if Number.isZero f then f
  else scaleDown ((Number.div f (powerOfTen 308)).getD 0) (k - 308)
termination_by k
decreasing_by omega

/-- The binary64 a reader makes of `sig × 10^exp`: the significand rounded, then scaled. -/
def fromParts (negative : Bool) (sig : Nat) (exp : Int) : Option UInt64 := do
  let f := (Number.ofRatio false sig 1).getD 0
  let r ← if 0 ≤ exp then scaleUp f exp.toNat else some (scaleDown f (-exp).toNat)
  return if negative then Number.negate r else r

/-- The least and greatest 32-bit signed integers: exponents are held in that range. -/
def exponentRange : Int × Int := (-2147483648, 2147483647)

/-- Reads a number; digits past a 64-bit significand only move the exponent. -/
def readNumber (cs : List Char) : Except ReadError (JsonNumber × List Char) := do
  let (negative, cs) := match cs with
    | '-' :: rest => (true, rest)
    | rest => (false, rest)
  let (whole, cs) ← readIntegerPart cs
  let (fraction, cs) ← readFraction cs
  let (exponent, cs) ← readExponent cs
  let (sig, taken) := takeDigits 0 whole
  let skipped := whole.length - taken
  let float (bits : Option UInt64) : Except ReadError (JsonNumber × List Char) :=
    match bits with
    | some bits => .ok (.float bits, cs)
    | none => .error .numberOutOfRange
  if fraction.isEmpty && exponent.isNone then
    if skipped = 0 then
      let n ← integerNumber negative sig
      return (n, cs)
    else float (fromParts negative sig skipped)
  else
    let (sig, takenAfter) := takeDigits sig fraction
    let start : Int := (skipped : Int) - takenAfter
    match exponent with
    | none => float (fromParts negative sig start)
    | some e =>
      if exponentRange.2 < e.natAbs then
        if sig ≠ 0 && 0 < e then throw .numberOutOfRange
        else return (.float (if negative then Number.signBit else 0), cs)
      else
        float (fromParts negative sig (max exponentRange.1 (min exponentRange.2 (start + e))))

/-- The value of a hexadecimal digit. -/
def hexValue (c : Char) : Option Nat :=
  if c.isDigit then some (c.toNat - '0'.toNat)
  else if 'a' ≤ c && c ≤ 'f' then some (c.toNat - 'a'.toNat + 10)
  else if 'A' ≤ c && c ≤ 'F' then some (c.toNat - 'A'.toNat + 10)
  else none

/-- Reads the four hexadecimal digits of a `\u` escape. -/
def readHex4 (cs : List Char) : Except ReadError (Nat × List Char) :=
  match cs with
  | a :: b :: c :: d :: rest =>
    match hexValue a, hexValue b, hexValue c, hexValue d with
    | some a, some b, some c, some d => .ok (((a * 16 + b) * 16 + c) * 16 + d, rest)
    | _, _, _, _ => .error .invalidEscape
  | _ => .error .unexpectedEnd

/-- Reads a `\u` escape, joining a surrogate pair into one character. -/
def readUnicodeEscape (cs : List Char) : Except ReadError (Char × List Char) := do
  let (unit, rest) ← readHex4 cs
  if 0xD800 ≤ unit && unit < 0xDC00 then
    match rest with
    | '\\' :: 'u' :: more =>
      let (low, after) ← readHex4 more
      if 0xDC00 ≤ low && low < 0xE000 then
        return (Char.ofNat (0x10000 + (unit - 0xD800) * 0x400 + (low - 0xDC00)), after)
      else throw .loneSurrogate
    | [] => throw .unexpectedEnd
    | _ => throw .loneSurrogate
  else if 0xDC00 ≤ unit && unit < 0xE000 then throw .loneSurrogate
  else return (Char.ofNat unit, rest)

/-- The character that a one-letter escape stands for. -/
def simpleEscape (c : Char) : Option Char :=
  if c = '"' then some '"'
  else if c = '\\' then some '\\'
  else if c = '/' then some '/'
  else if c = 'b' then some '\x08'
  else if c = 'f' then some '\x0c'
  else if c = 'n' then some '\n'
  else if c = 'r' then some '\r'
  else if c = 't' then some '\t'
  else none

/-- Reads the body of a string up to its closing quote; `acc` holds the characters read, last
first. -/
def readStringBody (acc : List Char) : Nat → List Char → Except ReadError (String × List Char)
  | 0, _ => .error .unexpectedEnd
  | _ + 1, [] => .error .unexpectedEnd
  | fuel + 1, c :: rest =>
    if c = '"' then .ok (String.ofList acc.reverse, rest)
    else if c = '\\' then
      match rest with
      | [] => .error .unexpectedEnd
      | 'u' :: more =>
        match readUnicodeEscape more with
        | .ok (ch, after) => readStringBody (ch :: acc) fuel after
        | .error e => .error e
      | e :: more =>
        match simpleEscape e with
        | some ch => readStringBody (ch :: acc) fuel more
        | none => .error .invalidEscape
    else if c.toNat < 0x20 then .error .controlCharacter
    else readStringBody (c :: acc) fuel rest

/-- Reads a string after its opening quote. -/
def readString (cs : List Char) : Except ReadError (String × List Char) :=
  readStringBody [] (cs.length + 1) cs

/-- Skips a number, checking only its syntax. -/
def skipNumber (cs : List Char) : Except ReadError (List Char) := do
  let cs := match cs with
    | '-' :: rest => rest
    | rest => rest
  let (_, cs) ← readIntegerPart cs
  let (_, cs) ← readFraction cs
  let (_, cs) ← readExponent cs
  return cs

/-- Skips the body of a string after its opening quote, checking escapes only for their form. -/
def skipStringBody : Nat → List Char → Except ReadError (List Char)
  | 0, _ => .error .unexpectedEnd
  | _ + 1, [] => .error .unexpectedEnd
  | fuel + 1, c :: rest =>
    if c = '"' then .ok rest
    else if c = '\\' then
      match rest with
      | [] => .error .unexpectedEnd
      | 'u' :: more =>
        match readHex4 more with
        | .ok (_, after) => skipStringBody fuel after
        | .error e => .error e
      | e :: more =>
        if (simpleEscape e).isSome then skipStringBody fuel more else .error .invalidEscape
    else if c.toNat < 0x20 then .error .controlCharacter
    else skipStringBody fuel rest

mutual
/-- Skips one value after any blanks, checking only its syntax, at any depth. -/
def skipValue : Nat → List Char → Except ReadError (List Char)
  | 0, _ => .error .unexpectedEnd
  | fuel + 1, cs =>
    match skipBlank cs with
    | [] => .error .unexpectedEnd
    | c :: rest =>
      if c = 'n' then readWord ['u', 'l', 'l'] rest
      else if c = 't' then readWord ['r', 'u', 'e'] rest
      else if c = 'f' then readWord ['a', 'l', 's', 'e'] rest
      else if c = '-' || c.isDigit then skipNumber (c :: rest)
      else if c = '"' then skipStringBody (rest.length + 1) rest
      else if c = '[' then
        match skipBlank rest with
        | ']' :: after => .ok after
        | _ =>
          match skipValue fuel rest with
          | .ok after => skipItems fuel after
          | .error e => .error e
      else if c = '{' then
        match skipBlank rest with
        | '}' :: after => .ok after
        | '"' :: after => skipMember fuel after
        | [] => .error .unexpectedEnd
        | _ => .error .keyMustBeString
      else .error .expectedValue

/-- Skips the items of an array after one, up to its closing bracket. -/
def skipItems : Nat → List Char → Except ReadError (List Char)
  | 0, _ => .error .unexpectedEnd
  | fuel + 1, cs =>
    match skipBlank cs with
    | ']' :: after => .ok after
    | ',' :: after =>
      match skipBlank after with
      | ']' :: _ => .error .trailingComma
      | [] => .error .unexpectedEnd
      | _ =>
        match skipValue fuel after with
        | .ok more => skipItems fuel more
        | .error e => .error e
    | [] => .error .unexpectedEnd
    | _ => .error .expectedCommaOrEnd

/-- Skips a member of an object after the opening quote of its key, and the members after it. -/
def skipMember : Nat → List Char → Except ReadError (List Char)
  | 0, _ => .error .unexpectedEnd
  | fuel + 1, cs =>
    match skipStringBody (cs.length + 1) cs with
    | .error e => .error e
    | .ok afterKey =>
      match skipBlank afterKey with
      | ':' :: afterColon =>
        match skipValue fuel afterColon with
        | .error e => .error e
        | .ok afterValue =>
          match skipBlank afterValue with
          | '}' :: after => .ok after
          | ',' :: after =>
            match skipBlank after with
            | '"' :: more => skipMember fuel more
            | '}' :: _ => .error .trailingComma
            | [] => .error .unexpectedEnd
            | _ => .error .keyMustBeString
          | [] => .error .unexpectedEnd
          | _ => .error .expectedCommaOrEnd
      | [] => .error .unexpectedEnd
      | _ => .error .expectedColon
end

/-- A string after its opening quote: its text, or an unreadable part when it holds a lone
surrogate. -/
def readStringPart (cs : List Char) : Except ReadError (Json × List Char) :=
  match readString cs with
  | .ok (text, after) => .ok (.string text, after)
  | .error .loneSurrogate =>
    (skipStringBody (cs.length + 1) cs).map fun after => (.unreadable .loneSurrogate, after)
  | .error e => .error e

/-- A key after its opening quote: its text, or none when it holds a lone surrogate. -/
def readKey (cs : List Char) : Except ReadError (Option String × List Char) :=
  match readString cs with
  | .ok (key, after) => .ok (some key, after)
  | .error .loneSurrogate => (skipStringBody (cs.length + 1) cs).map fun after => (none, after)
  | .error e => .error e

/-- A number: its value, or an unreadable part when it is out of range. -/
def readNumberPart (cs : List Char) : Except ReadError (Json × List Char) :=
  match readNumber cs with
  | .ok (n, after) => .ok (.number n, after)
  | .error .numberOutOfRange =>
    (skipNumber cs).map fun after => (.unreadable .numberOutOfRange, after)
  | .error e => .error e

mutual
/-- Reads one value after any blanks, with `depth` the nesting budget left; a container past
the budget is skipped as an unreadable part. -/
def readValue (depth : Nat) : Nat → List Char → Except ReadError (Json × List Char)
  | 0, _ => .error .unexpectedEnd
  | fuel + 1, cs =>
    match skipBlank cs with
    | [] => .error .unexpectedEnd
    | c :: rest =>
      if c = 'n' then (readWord ['u', 'l', 'l'] rest).map fun after => (.null, after)
      else if c = 't' then (readWord ['r', 'u', 'e'] rest).map fun after => (.bool true, after)
      else if c = 'f' then
        (readWord ['a', 'l', 's', 'e'] rest).map fun after => (.bool false, after)
      else if c = '-' || c.isDigit then readNumberPart (c :: rest)
      else if c = '"' then readStringPart rest
      else if (c = '[' || c = '{') && depth ≤ 1 then
        (skipValue (2 * cs.length + 2) cs).map fun after => (.unreadable .depthExceeded, after)
      else if c = '[' then
        match skipBlank rest with
        | ']' :: after => .ok (.array [], after)
        | _ =>
          match readValue (depth - 1) fuel rest with
          | .ok (first, after) => readItems (depth - 1) fuel [first] after
          | .error e => .error e
      else if c = '{' then
        match skipBlank rest with
        | '}' :: after => .ok (.object [], after)
        | '"' :: after => readMember (depth - 1) fuel [] true after
        | [] => .error .unexpectedEnd
        | _ => .error .keyMustBeString
      else .error .expectedValue

/-- Reads the items of an array after one, up to its closing bracket; `acc` holds the items
read, last first. -/
def readItems (depth : Nat) : Nat → List Json → List Char → Except ReadError (Json × List Char)
  | 0, _, _ => .error .unexpectedEnd
  | fuel + 1, acc, cs =>
    match skipBlank cs with
    | ']' :: after => .ok (.array acc.reverse, after)
    | ',' :: after =>
      match skipBlank after with
      | ']' :: _ => .error .trailingComma
      | [] => .error .unexpectedEnd
      | _ =>
        match readValue depth fuel after with
        | .ok (item, more) => readItems depth fuel (item :: acc) more
        | .error e => .error e
    | [] => .error .unexpectedEnd
    | _ => .error .expectedCommaOrEnd

/-- Reads a member of an object after the opening quote of its key, then the members after it. -/
def readMember (depth : Nat) :
    Nat → List (String × Json) → Bool → List Char → Except ReadError (Json × List Char)
  | 0, _, _, _ => .error .unexpectedEnd
  | fuel + 1, acc, keysRead, cs =>
    match readKey cs with
    | .error e => .error e
    | .ok (key, afterKey) =>
      match skipBlank afterKey with
      | ':' :: afterColon =>
        match readValue depth fuel afterColon with
        | .error e => .error e
        | .ok (value, afterValue) =>
          let acc := (key.getD "", value) :: acc
          let keysRead := keysRead && key.isSome
          match skipBlank afterValue with
          | '}' :: after =>
            .ok (if keysRead then .object acc.reverse else .unreadable .loneSurrogate, after)
          | ',' :: after =>
            match skipBlank after with
            | '"' :: more => readMember depth fuel acc keysRead more
            | '}' :: _ => .error .trailingComma
            | [] => .error .unexpectedEnd
            | _ => .error .keyMustBeString
          | [] => .error .unexpectedEnd
          | _ => .error .expectedCommaOrEnd
      | [] => .error .unexpectedEnd
      | _ => .error .expectedColon
end

/-- Reads a whole text as one document, keeping as unreadable the parts only skipping accepts. -/
def readSkimming (s : String) : Except ReadError Json := do
  let cs := s.toList
  let (value, rest) ← readValue depthBudget (2 * cs.length + 2) cs
  if (skipBlank rest).isEmpty then return value else throw .trailingCharacters

/-- Reads a whole text as one document, every part of which must be readable. -/
def read (s : String) : Except ReadError Json := do
  let doc ← readSkimming s
  match doc.firstFlaw? with
  | some why => throw why
  | none => return doc

end DraftPool.Json
