import DraftPool.Text.Utf8

/-
The `application/x-www-form-urlencoded` format of query strings.
-/

namespace DraftPool.Web

/-- An uppercase hexadecimal digit. -/
def upperHex (n : Nat) : Char :=
  if n < 10 then Char.ofNat ('0'.toNat + n) else Char.ofNat ('A'.toNat + n - 10)

/-- A byte written as a percent escape. -/
def percentByte (b : Nat) : List Char := ['%', upperHex (b / 16), upperHex (b % 16)]

/-- Whether a byte is written as itself in a form value. -/
def formKeeps (b : Nat) : Bool :=
  (0x30 ≤ b && b ≤ 0x39) || (0x41 ≤ b && b ≤ 0x5A) || (0x61 ≤ b && b ≤ 0x7A) ||
    b = 0x2A || b = 0x2D || b = 0x2E || b = 0x5F

/-- How one byte is written in a form value. -/
def formByte (b : Nat) : List Char :=
  if formKeeps b then [Char.ofNat b] else if b = 0x20 then ['+'] else percentByte b

/-- A text written as a form value. -/
def formEncode (s : String) : String := String.ofList ((Text.utf8Encode s).flatMap formByte)

/-- A `name=value` pair of a form, written. -/
def formPair (name value : String) : String := formEncode name ++ "=" ++ formEncode value

/-- The value of a hexadecimal digit of either case. -/
def hexDigitValue (c : Char) : Option Nat :=
  if c.isDigit then some (c.toNat - '0'.toNat)
  else if 'a' ≤ c && c ≤ 'f' then some (c.toNat - 'a'.toNat + 10)
  else if 'A' ≤ c && c ≤ 'F' then some (c.toNat - 'A'.toNat + 10)
  else none

/-- The bytes of percent-escaped text, with `+` read as a space when `plusIsSpace`. -/
def unescapeBytes (plusIsSpace : Bool) : List Char → List Nat
  | [] => []
  | '%' :: a :: b :: more =>
    match hexDigitValue a, hexDigitValue b with
    | some x, some y => (x * 16 + y) :: unescapeBytes plusIsSpace more
    | _, _ => 0x25 :: unescapeBytes plusIsSpace (a :: b :: more)
  | c :: rest =>
    (if plusIsSpace && c = '+' then [0x20] else Text.utf8Bytes c) ++ unescapeBytes plusIsSpace rest
termination_by cs => cs.length
decreasing_by all_goals (simp only [List.length_cons]; omega)

/-- A form value read back into text. -/
def formDecode (s : String) : String :=
  String.ofList (Text.utf8DecodeLossy (unescapeBytes true s.toList))

/-- Percent escapes read back into text, with `+` kept. -/
def percentDecode (s : String) : String :=
  String.ofList (Text.utf8DecodeLossy (unescapeBytes false s.toList))

/-- The pairs of a query string, in order. -/
def parseForm (query : String) : List (String × String) :=
  (query.splitOn "&").filterMap fun part =>
    if part.isEmpty then none
    else
      match part.splitOn "=" with
      | [] => none
      | [name] => some (formDecode name, "")
      | name :: rest => some (formDecode name, formDecode ("=".intercalate rest))

end DraftPool.Web
