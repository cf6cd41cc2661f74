/-
Reading a signed decimal integer within bounds.
-/

namespace DraftPool.Text

/-- Why a text is no integer within the bounds. -/
inductive DecimalError where
  | empty
  | invalidDigit
  | tooLarge
  | tooSmall
  deriving DecidableEq, Repr

/-- The message that names the fault. -/
def DecimalError.message : DecimalError → String
  | .empty => "cannot parse integer from empty string"
  | .invalidDigit => "invalid digit found in string"
  | .tooLarge => "number too large to fit in target type"
  | .tooSmall => "number too small to fit in target type"

/-- The least signed 64-bit integer. -/
def int64Min : Int := -9223372036854775808

/-- The greatest signed 64-bit integer. -/
def int64Max : Int := 9223372036854775807

/-- The least signed 32-bit integer. -/
def int32Min : Int := -2147483648

/-- The greatest signed 32-bit integer. -/
def int32Max : Int := 2147483647

/-- Reads digits onto the magnitude `acc`; `negative` tells which bound applies. -/
def readDigits (lo hi : Int) (negative : Bool) (acc : Nat) : List Char → Except DecimalError Int
  | [] => .ok (if negative then -(acc : Int) else acc)
  | c :: rest =>
    if c.isDigit then
      let next := acc * 10 + (c.toNat - '0'.toNat)
      if negative && -(next : Int) < lo then .error .tooSmall
      else if !negative && hi < (next : Int) then .error .tooLarge
      else readDigits lo hi negative next rest
    else .error .invalidDigit

/-- Reads a signed decimal integer between `lo` and `hi`, where `lo ≤ 0 ≤ hi`. -/
def readInteger (lo hi : Int) (s : String) : Except DecimalError Int :=
  match s.toList with
  | [] => .error .empty
  | ['+'] => .error .invalidDigit
  | ['-'] => .error .invalidDigit
  | '+' :: rest => readDigits lo hi false 0 rest
  | '-' :: rest => readDigits lo hi true 0 rest
  | cs => readDigits lo hi false 0 cs

/-- Reads a signed 64-bit decimal integer. -/
def readInt64 (s : String) : Except DecimalError Int := readInteger int64Min int64Max s

/-- Reads a signed 32-bit decimal integer. -/
def readInt32 (s : String) : Except DecimalError Int := readInteger int32Min int32Max s

end DraftPool.Text
