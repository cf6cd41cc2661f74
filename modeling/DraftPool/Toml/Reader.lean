import DraftPool.Toml.Value
import DraftPool.Text.Decimal
import DraftPool.Number.Binary64

/-
Reading a TOML document (version 1.0).
-/

namespace DraftPool.Toml

/-- Whether a character is a blank within a line. -/
def isBlank (c : Char) : Bool := c = ' ' || c = '\t'

/-- The text after any blanks. -/
def skipBlank (cs : List Char) : List Char := cs.dropWhile isBlank

/-- Whether a character may not stand in a comment or a string: the controls other than tab. -/
def isControl (c : Char) : Bool := (c.toNat < 0x20 && c ≠ '\t') || c.toNat = 0x7F

/-- Whether a character may be part of a bare key. -/
def isBareKeyChar (c : Char) : Bool :=
  ('a' ≤ c && c ≤ 'z') || ('A' ≤ c && c ≤ 'Z') || ('0' ≤ c && c ≤ '9') || c = '_' || c = '-'

/-- Skips a comment after its `#`, up to the end of its line. -/
def skipComment : List Char → Except TomlError (List Char)
  | [] => .ok []
  | '\n' :: rest => .ok ('\n' :: rest)
  | '\r' :: '\n' :: rest => .ok ('\r' :: '\n' :: rest)
  | c :: rest => if isControl c then .error (.malformed "control character in comment") else skipComment rest

/-- Ends a line: blanks, an optional comment, then a line break or the end of the text. -/
def endLine (cs : List Char) : Except TomlError (List Char) := do
  let cs := skipBlank cs
  let cs ← match cs with
    | '#' :: rest => skipComment rest
    | _ => pure cs
  match cs with
  | [] => return []
  | '\n' :: rest => return rest
  | '\r' :: '\n' :: rest => return rest
  | _ => throw (.malformed "expected the end of the line")

/-- Skips blanks, comments and line breaks between the items of an array. -/
def skipFiller : Nat → List Char → Except TomlError (List Char)
  | 0, cs => .ok cs
  | fuel + 1, cs =>
    match skipBlank cs with
    | '\n' :: rest => skipFiller fuel rest
    | '\r' :: '\n' :: rest => skipFiller fuel rest
    | '#' :: rest => do skipFiller fuel (← skipComment rest)
    | rest => .ok rest

/-! Strings. -/

/-- The value of a hexadecimal digit. -/
def hexDigit? (c : Char) : Option Nat :=
  if '0' ≤ c && c ≤ '9' then some (c.toNat - '0'.toNat)
  else if 'a' ≤ c && c ≤ 'f' then some (c.toNat - 'a'.toNat + 10)
  else if 'A' ≤ c && c ≤ 'F' then some (c.toNat - 'A'.toNat + 10)
  else none

/-- Reads `n` hexadecimal digits as a Unicode scalar value. -/
def readScalar (n : Nat) (cs : List Char) : Except TomlError (Char × List Char) :=
  let digits := cs.take n
  match digits.mapM hexDigit? with
  | some ds =>
    if ds.length < n then .error (.malformed "short escape")
    else
      let v := ds.foldl (fun acc d => acc * 16 + d) 0
      if v < 0xD800 || (0xE000 ≤ v && v ≤ 0x10FFFF) then .ok (Char.ofNat v, cs.drop n)
      else .error (.malformed "escape is no scalar value")
  | none => .error (.malformed "bad escape")

/-- Reads an escape after its backslash. -/
def readEscape : List Char → Except TomlError (Char × List Char)
  | 'b' :: rest => .ok ('\x08', rest)
  | 't' :: rest => .ok ('\t', rest)
  | 'n' :: rest => .ok ('\n', rest)
  | 'f' :: rest => .ok ('\x0c', rest)
  | 'r' :: rest => .ok ('\r', rest)
  | '"' :: rest => .ok ('"', rest)
  | '\\' :: rest => .ok ('\\', rest)
  | 'u' :: rest => readScalar 4 rest
  | 'U' :: rest => readScalar 8 rest
  | _ => .error (.malformed "bad escape")

/-- Reads a basic string after its opening quote; `acc` holds what was read, last first. -/
def readBasic (acc : List Char) : Nat → List Char → Except TomlError (String × List Char)
  | 0, _ => .error (.malformed "unterminated string")
  | _ + 1, [] => .error (.malformed "unterminated string")
  | fuel + 1, c :: rest =>
    if c = '"' then .ok (String.ofList acc.reverse, rest)
    else if c = '\\' then do
      let (e, after) ← readEscape rest
      readBasic (e :: acc) fuel after
    else if isControl c then .error (.malformed "control character in string")
    else readBasic (c :: acc) fuel rest

/-- Reads a literal string after its opening apostrophe. -/
def readLiteral (acc : List Char) : List Char → Except TomlError (String × List Char)
  | [] => .error (.malformed "unterminated string")
  | c :: rest =>
    if c = '\x27' then .ok (String.ofList acc.reverse, rest)
    else if isControl c then .error (.malformed "control character in string")
    else readLiteral (c :: acc) rest

/-- The number of copies of `q` at the front of a text, and the text after them. -/
def countRun (q : Char) : List Char → Nat × List Char
  | c :: rest => if c = q then let (n, after) := countRun q rest; (n + 1, after) else (0, c :: rest)
  | [] => (0, [])

/-- Drops the line break right after the opening delimiter of a multi-line string. -/
def dropFirstBreak : List Char → List Char
  | '\n' :: rest => rest
  | '\r' :: '\n' :: rest => rest
  | cs => cs

/-- Skips blanks and line breaks after a line-ending backslash. -/
def skipTrimmed : List Char → List Char
  | c :: rest => if c = ' ' || c = '\t' || c = '\n' || c = '\r' then skipTrimmed rest else c :: rest
  | [] => []

/-- Reads a multi-line string after its opening delimiter of three `q`. -/
def readMultiline (q : Char) (escapes : Bool) (acc : List Char) :
    Nat → List Char → Except TomlError (String × List Char)
  | 0, _ => .error (.malformed "unterminated string")
  | _ + 1, [] => .error (.malformed "unterminated string")
  | fuel + 1, c :: rest =>
    if c = q then
      let (n, after) := countRun q (c :: rest)
      if n < 3 then readMultiline q escapes (List.replicate n q ++ acc) fuel after
      else if n ≤ 5 then .ok (String.ofList (List.replicate (n - 3) q ++ acc).reverse, after)
      else .error (.malformed "too many quotes")
    else if c = '\n' then readMultiline q escapes ('\n' :: acc) fuel rest
    else if c = '\r' then
      match rest with
      | '\n' :: more => readMultiline q escapes ('\n' :: acc) fuel more
      | _ => .error (.malformed "lone carriage return")
    else if escapes && c = '\\' then
      let afterBlanks := skipBlank rest
      match afterBlanks with
      | '\n' :: _ | '\r' :: '\n' :: _ => readMultiline q escapes acc fuel (skipTrimmed afterBlanks)
      | _ => do
        let (e, after) ← readEscape rest
        readMultiline q escapes (e :: acc) fuel after
    else if isControl c then .error (.malformed "control character in string")
    else readMultiline q escapes (c :: acc) fuel rest

/-- Reads a string of any form at its opening delimiter. -/
def readString (cs : List Char) : Except TomlError (String × List Char) :=
  match cs with
  | '"' :: '"' :: '"' :: rest =>
    let body := dropFirstBreak rest
    readMultiline '"' true [] (body.length + 1) body
  | '"' :: rest => readBasic [] (rest.length + 1) rest
  | '\x27' :: '\x27' :: '\x27' :: rest =>
    let body := dropFirstBreak rest
    readMultiline '\x27' false [] (body.length + 1) body
  | '\x27' :: rest => readLiteral [] rest
  | _ => .error (.malformed "expected a string")

/-! Keys. -/

/-- Reads one part of a key: bare, or a single-line quoted string. -/
def readKeyPart (cs : List Char) : Except TomlError (String × List Char) :=
  match cs with
  | '"' :: rest => readBasic [] (rest.length + 1) rest
  | '\x27' :: rest => readLiteral [] rest
  | _ =>
    let part := cs.takeWhile isBareKeyChar
    if part.isEmpty then .error (.malformed "expected a key")
    else .ok (String.ofList part, cs.dropWhile isBareKeyChar)

/-- Reads a dotted key, with blanks allowed around the dots. -/
def readKey : Nat → List Char → Except TomlError (List String × List Char)
  | 0, _ => .error (.malformed "expected a key")
  | fuel + 1, cs => do
    let (part, after) ← readKeyPart cs
    match skipBlank after with
    | '.' :: more =>
      let (parts, rest) ← readKey fuel (skipBlank more)
      return (part :: parts, rest)
    | _ => return ([part], after)

/-! Numbers, booleans, dates and times. -/

/-- Whether a character ends a bare value. -/
def endsBareValue (c : Char) : Bool :=
  c = ' ' || c = '\t' || c = ',' || c = ']' || c = '}' || c = '#' || c = '\n' || c = '\r'

/-- Digits with single underscores between them, of the given kind; none if malformed. -/
def digitsWithUnderscores (isDigit : Char → Bool) (cs : List Char) : Option (List Char) :=
  match cs with
  | [] => none
  | c :: _ =>
    if !isDigit c then none
    else
      let rec go : List Char → Option (List Char)
        | [] => some []
        | ['_'] => none
        | '_' :: d :: rest => if isDigit d then (go rest).map (d :: ·) else none
        | d :: rest => if isDigit d then (go rest).map (d :: ·) else none
      go cs

/-- The value of digits in a base. -/
def digitsIn (base : Nat) (ds : List Char) : Nat :=
  ds.foldl (fun acc d => acc * base + (hexDigit? d).getD 0) 0

/-- Whether a character is a decimal digit. -/
def isDecimal (c : Char) : Bool := '0' ≤ c && c ≤ '9'

/-- Reads an integer token, or none if it is no integer. -/
def integer? (token : List Char) : Option Int :=
  let inRange (n : Int) : Option Int := if Text.int64Min ≤ n && n ≤ Text.int64Max then some n else none
  let prefixed (base : Nat) (isDigit : Char → Bool) (rest : List Char) : Option Int :=
    (digitsWithUnderscores isDigit rest).bind fun ds => inRange (digitsIn base ds)
  match token with
  | '0' :: 'x' :: rest => prefixed 16 (fun c => (hexDigit? c).isSome) rest
  | '0' :: 'o' :: rest => prefixed 8 (fun c => '0' ≤ c && c ≤ '7') rest
  | '0' :: 'b' :: rest => prefixed 2 (fun c => c = '0' || c = '1') rest
  | _ =>
    let (negative, body) := match token with
      | '-' :: rest => (true, rest)
      | '+' :: rest => (false, rest)
      | rest => (false, rest)
    match body with
    | ['0'] => some 0
    | '0' :: _ => none
    | _ =>
      (digitsWithUnderscores isDecimal body).bind fun ds =>
        let n : Int := digitsIn 10 ds
        inRange (if negative then -n else n)

/-- Whether a token is a float. -/
def isFloat (token : List Char) : Bool :=
  let body := match token with
    | '-' :: rest => rest
    | '+' :: rest => rest
    | rest => rest
  if body == ['i', 'n', 'f'] || body == ['n', 'a', 'n'] then true
  else
    let whole := body.takeWhile fun c => c ≠ '.' && c ≠ 'e' && c ≠ 'E'
    let rest := body.drop whole.length
    let wholeOk := match whole with
      | ['0'] => true
      | '0' :: _ => false
      | _ => (digitsWithUnderscores isDecimal whole).isSome
    let exponentOk (e : List Char) : Bool :=
      let e := match e with
        | '-' :: more => more
        | '+' :: more => more
        | more => more
      (digitsWithUnderscores isDecimal e).isSome
    let tailOk := match rest with
      | '.' :: more =>
        let frac := more.takeWhile fun c => c ≠ 'e' && c ≠ 'E'
        let afterFrac := more.drop frac.length
        (digitsWithUnderscores isDecimal frac).isSome &&
          match afterFrac with
          | [] => true
          | _ :: e => exponentOk e
      | 'e' :: e | 'E' :: e => exponentOk e
      | _ => false
    wholeOk && tailOk

/-- The value of exactly `n` decimal digits at the front of a text. -/
def fixedNumber (n : Nat) (cs : List Char) : Option (Nat × List Char) :=
  let ds := cs.take n
  if ds.length = n && ds.all isDecimal then some (digitsIn 10 ds, cs.drop n) else none

/-- Reads a date `YYYY-MM-DD` with a valid day of its month. -/
def date? (cs : List Char) : Option (List Char) := do
  let (y, cs) ← fixedNumber 4 cs
  let '-' :: cs := cs | none
  let (m, cs) ← fixedNumber 2 cs
  let '-' :: cs := cs | none
  let (d, cs) ← fixedNumber 2 cs
  let leap := y % 4 = 0 && (y % 100 ≠ 0 || y % 400 = 0)
  let days := if m = 2 then (if leap then 29 else 28) else if m = 4 || m = 6 || m = 9 || m = 11 then 30 else 31
  if 1 ≤ m && m ≤ 12 && 1 ≤ d && d ≤ days then some cs else none

/-- Reads a time `HH:MM:SS` with an optional fraction. -/
def time? (cs : List Char) : Option (List Char) := do
  let (h, cs) ← fixedNumber 2 cs
  let ':' :: cs := cs | none
  let (m, cs) ← fixedNumber 2 cs
  let ':' :: cs := cs | none
  let (s, cs) ← fixedNumber 2 cs
  if h > 23 || m > 59 || s > 60 then none
  match cs with
  | '.' :: rest =>
    let frac := rest.takeWhile isDecimal
    if frac.isEmpty then none else some (rest.drop frac.length)
  | _ => some cs

/-- Reads an optional offset `Z` or `±HH:MM`. -/
def offset? (cs : List Char) : Option (List Char) :=
  match cs with
  | 'Z' :: rest | 'z' :: rest => some rest
  | '+' :: rest | '-' :: rest => do
    let (h, rest) ← fixedNumber 2 rest
    let ':' :: rest := rest | none
    let (m, rest) ← fixedNumber 2 rest
    if h > 23 || m > 59 then none else some rest
  | _ => some cs

/-- Whether a token is a date, a time, or a date and time. -/
def isDatetime (token : List Char) : Bool :=
  let whole (r : Option (List Char)) : Bool := r == some []
  whole (time? token) ||
    match date? token with
    | some [] => true
    | some (sep :: rest) =>
      (sep = 'T' || sep = 't' || sep = ' ') && whole ((time? rest).bind offset?)
    | none => false

/-- The bare token at the front of a text; a date followed by a space and a time is one token. -/
def bareToken (cs : List Char) : List Char × List Char :=
  let token := cs.takeWhile fun c => !endsBareValue c
  let rest := cs.drop token.length
  match date? token, rest with
  | some [], ' ' :: more =>
    match time? more with
    | some _ =>
      let timePart := more.takeWhile fun c => !endsBareValue c
      (token ++ [' '] ++ timePart, more.drop timePart.length)
    | none => (token, rest)
  | _, _ => (token, rest)

/-- Whether a float token is a positive number too large for a binary64, which it would round
to infinity. -/
def overflowsUpward (token : List Char) : Bool :=
  let token := token.filter (· ≠ '_')
  let body := match token with
    | '+' :: rest => rest
    | rest => rest
  match body with
  | '-' :: _ => false
  | _ =>
    if body == ['i', 'n', 'f'] || body == ['n', 'a', 'n'] then false
    else
      let whole := body.takeWhile Char.isDigit
      let afterWhole := body.drop whole.length
      let fraction := match afterWhole with
        | '.' :: more => more.takeWhile Char.isDigit
        | _ => []
      let afterFraction := match afterWhole with
        | '.' :: more => more.drop fraction.length
        | more => more
      let exponent : Int := match afterFraction with
        | _ :: '-' :: ds => -(digitsIn 10 ds : Int)
        | _ :: '+' :: ds => digitsIn 10 ds
        | _ :: ds => digitsIn 10 ds
        | [] => 0
      (Number.ofDecimal false (digitsIn 10 (whole ++ fraction)) (exponent - fraction.length)).isNone

/-- Reads a bare value: a boolean, number, date or time. A float written in digits may not round
to positive infinity. -/
def readBare (cs : List Char) : Except TomlError (Value × List Char) :=
  let (token, rest) := bareToken cs
  if token == ['t', 'r', 'u', 'e'] then .ok (.boolean true, rest)
  else if token == ['f', 'a', 'l', 's', 'e'] then .ok (.boolean false, rest)
  else if isDatetime token then .ok (.datetime (String.ofList token), rest)
  else
    match integer? token with
    | some n => .ok (.integer n, rest)
    | none =>
      if isFloat token && !overflowsUpward token then .ok (.float (String.ofList token), rest)
      else .error (.malformed "invalid value")

/-! Values. -/

mutual
/-- Reads a value. -/
def readValue : Nat → List Char → Except TomlError (Value × List Char)
  | 0, _ => .error (.malformed "value too deep")
  | fuel + 1, cs =>
    match cs with
    | '"' :: _ | '\x27' :: _ => (readString cs).map fun (s, rest) => (.string s, rest)
    | '[' :: rest => readArrayItems fuel [] true rest
    | '{' :: rest =>
      match skipBlank rest with
      | '}' :: after => .ok (.table [], after)
      | body => readInlineMembers fuel [] body
    | _ => readBare cs

/-- Reads the items of an array after its opening bracket; `acc` holds the items read, last
first, and `expectItem` tells whether an item (or the closing bracket) may come next. -/
def readArrayItems : Nat → List Value → Bool → List Char → Except TomlError (Value × List Char)
  | 0, _, _, _ => .error (.malformed "array too long")
  | fuel + 1, acc, expectItem, cs => do
    let cs ← skipFiller (cs.length + 1) cs
    match cs with
    | ']' :: rest => return (.array acc.reverse, rest)
    | ',' :: rest =>
      if expectItem then throw (.malformed "unexpected comma")
      else readArrayItems fuel acc true rest
    | _ =>
      if !expectItem then throw (.malformed "expected a comma")
      let (v, rest) ← readValue fuel cs
      readArrayItems fuel (v :: acc) false rest

/-- Reads the members of an inline table, up to its closing brace; `acc` holds the table so
far. -/
def readInlineMembers : Nat → List (String × Entry) → List Char →
    Except TomlError (Value × List Char)
  | 0, _, _ => .error (.malformed "table too long")
  | fuel + 1, acc, cs => do
    let (key, afterKey) ← readKey (cs.length + 1) (skipBlank cs)
    let '=' :: afterEq := skipBlank afterKey | throw (.malformed "expected =")
    let (v, afterValue) ← readValue fuel (skipBlank afterEq)
    let acc ← putDotted key v acc
    match skipBlank afterValue with
    | '}' :: rest => return (.table (entriesToValues acc), rest)
    | ',' :: rest => readInlineMembers fuel acc rest
    | _ => throw (.malformed "expected , or \x7d")
end

/-! Documents. -/

/-- What is being filled in: the root table and the path of the table lines go to. -/
structure Assembly where
  root : List (String × Entry)
  current : List String

/-- Reads the lines of a document into the table tree. -/
def readLines : Nat → Assembly → List Char → Except TomlError Assembly
  | 0, _, _ => .error (.malformed "document too long")
  | fuel + 1, a, cs =>
    match skipBlank cs with
    | [] => .ok a
    | '\n' :: rest => readLines fuel a rest
    | '\r' :: '\n' :: rest => readLines fuel a rest
    | '#' :: rest => do readLines fuel a (← endLine ('#' :: rest))
    | '[' :: '[' :: rest => do
      let (key, after) ← readKey (rest.length + 1) (skipBlank rest)
      let ']' :: ']' :: after := skipBlank after | throw (.malformed "expected ]]")
      let root ← appendTable key a.root
      readLines fuel ⟨root, key⟩ (← endLine after)
    | '[' :: rest => do
      let (key, after) ← readKey (rest.length + 1) (skipBlank rest)
      let ']' :: after := skipBlank after | throw (.malformed "expected ]")
      let root ← defineTable key a.root
      readLines fuel ⟨root, key⟩ (← endLine after)
    | line => do
      let (key, after) ← readKey (line.length + 1) line
      let '=' :: afterEq := skipBlank after | throw (.malformed "expected =")
      let (v, afterValue) ← readValue (afterEq.length + 1) (skipBlank afterEq)
      let root ← modifyAt (putDotted key v) a.current a.root
      readLines fuel ⟨root, a.current⟩ (← endLine afterValue)

/-- Reads a document as its root table. -/
def read (text : String) : Except TomlError (List (String × Value)) := do
  let cs := match text.toList with
    | '\uFEFF' :: rest => rest
    | cs => cs
  let a ← readLines (cs.length + 1) ⟨[], []⟩ cs
  return entriesToValues a.root

end DraftPool.Toml
