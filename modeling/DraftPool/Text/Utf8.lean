/-
UTF-8 bytes of text, and the lossy reading of bytes back into text.
-/

namespace DraftPool.Text

/-- The UTF-8 bytes of a character. -/
def utf8Bytes (c : Char) : List Nat :=
  let n := c.toNat
  if n < 0x80 then [n]
  else if n < 0x800 then [0xC0 + n / 64, 0x80 + n % 64]
  else if n < 0x10000 then [0xE0 + n / 4096, 0x80 + n / 64 % 64, 0x80 + n % 64]
  else [0xF0 + n / 262144, 0x80 + n / 4096 % 64, 0x80 + n / 64 % 64, 0x80 + n % 64]

/-- The UTF-8 bytes of a text. -/
def utf8Encode (s : String) : List Nat := s.toList.flatMap utf8Bytes

/-- Whether a byte continues a sequence. -/
def isContinuation (b : Nat) : Bool := 0x80 ≤ b && b ≤ 0xBF

/-- Whether `second` may follow the lead byte `first` of a three- or four-byte sequence. -/
def validSecond (first second : Nat) : Bool :=
  if first = 0xE0 then 0xA0 ≤ second && second ≤ 0xBF
  else if first = 0xED then 0x80 ≤ second && second ≤ 0x9F
  else if first = 0xF0 then 0x90 ≤ second && second ≤ 0xBF
  else if first = 0xF4 then 0x80 ≤ second && second ≤ 0x8F
  else isContinuation second

/-- The replacement character. -/
def replacement : Char := '�'

/-- The character of a complete sequence. -/
def decodeSequence : List Nat → Char
  | [a] => Char.ofNat a
  | [a, b] => Char.ofNat ((a - 0xC0) * 64 + (b - 0x80))
  | [a, b, c] => Char.ofNat (((a - 0xE0) * 64 + (b - 0x80)) * 64 + (c - 0x80))
  | [a, b, c, d] =>
    Char.ofNat ((((a - 0xF0) * 64 + (b - 0x80)) * 64 + (c - 0x80)) * 64 + (d - 0x80))
  | _ => replacement

/-- The number of bytes a lead byte announces, zero for a byte that leads nothing. -/
def sequenceLength (b : Nat) : Nat :=
  if b < 0x80 then 1
  else if 0xC2 ≤ b && b ≤ 0xDF then 2
  else if 0xE0 ≤ b && b ≤ 0xEF then 3
  else if 0xF0 ≤ b && b ≤ 0xF4 then 4
  else 0

/-- How many bytes after the lead byte belong to the sequence it starts, up to `need`. -/
def acceptedTail (first : Nat) (need : Nat) : List Nat → Nat
  | [] => 0
  | b :: rest =>
    if need = 0 then 0
    else if validSecond first b then 1 + acceptedTailCont (need - 1) rest
    else 0
where
  /-- Continuation bytes after the second. -/
  acceptedTailCont : Nat → List Nat → Nat
    | 0, _ => 0
    | _, [] => 0
    | k + 1, b :: rest => if isContinuation b then 1 + acceptedTailCont k rest else 0

/-- Reads bytes as text, replacing what cannot be read. -/
def utf8DecodeLossy : List Nat → List Char
  | [] => []
  | b :: rest =>
    let len := sequenceLength b
    if len = 1 then Char.ofNat b :: utf8DecodeLossy rest
    else if len = 0 then replacement :: utf8DecodeLossy rest
    else
      let tail := if len = 2 then (if rest.head?.any isContinuation then 1 else 0)
        else acceptedTail b (len - 1) rest
      if tail + 1 = len then
        decodeSequence (b :: rest.take tail) :: utf8DecodeLossy (rest.drop tail)
      else replacement :: utf8DecodeLossy (rest.drop tail)
termination_by bytes => bytes.length
decreasing_by all_goals (simp only [List.length_cons, List.length_drop]; omega)

/-- Reads bytes as text when they are well-formed UTF-8: exactly when reading them with
replacement and writing the result back gives the same bytes. -/
def utf8Decode? (bytes : List Nat) : Option String :=
  let cs := utf8DecodeLossy bytes
  if (cs.flatMap utf8Bytes) == bytes then some (String.ofList cs) else none

end DraftPool.Text
