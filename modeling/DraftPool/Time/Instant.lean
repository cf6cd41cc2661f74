import DraftPool.Text.WhiteSpace

/-
Instants on the UTC time scale with their RFC 3339 text.
-/

namespace DraftPool

/-- A point in time: seconds since the Unix epoch, leap seconds skipped, and nanoseconds past
that second, a leap second adding one second to them. -/
structure Instant where
  seconds : Int
  nanos : Nat
  deriving DecidableEq, Repr, Inhabited

namespace Instant

/-- One instant is at or before another: it has fewer seconds, or as many and no more
nanoseconds. -/
def le (a b : Instant) : Prop := a.seconds < b.seconds ∨ (a.seconds = b.seconds ∧ a.nanos ≤ b.nanos)

/-- One instant is before another. -/
def lt (a b : Instant) : Prop := a.seconds < b.seconds ∨ (a.seconds = b.seconds ∧ a.nanos < b.nanos)

instance : LE Instant := ⟨le⟩
instance : LT Instant := ⟨lt⟩
instance (a b : Instant) : Decidable (a ≤ b) :=
  inferInstanceAs (Decidable (a.seconds < b.seconds ∨ (a.seconds = b.seconds ∧ a.nanos ≤ b.nanos)))
instance (a b : Instant) : Decidable (a < b) :=
  inferInstanceAs (Decidable (a.seconds < b.seconds ∨ (a.seconds = b.seconds ∧ a.nanos < b.nanos)))

theorem le_iff (a b : Instant) :
    a ≤ b ↔ a.seconds < b.seconds ∨ (a.seconds = b.seconds ∧ a.nanos ≤ b.nanos) := Iff.rfl

theorem lt_iff (a b : Instant) :
    a < b ↔ a.seconds < b.seconds ∨ (a.seconds = b.seconds ∧ a.nanos < b.nanos) := Iff.rfl

/-- Nanoseconds in a second. -/
def nanosPerSecond : Nat := 1000000000

/-- Seconds in a day. -/
def secondsPerDay : Int := 86400

/-- The instant a count of nanoseconds since the epoch stands for. -/
def ofNanos (n : Int) : Instant := ⟨n / nanosPerSecond, (n % nanosPerSecond).toNat⟩

/-- Days since the epoch of a proleptic Gregorian date. -/
def daysOfDate (y m d : Int) : Int :=
  let y := if m ≤ 2 then y - 1 else y
  let era := y / 400
  let yoe := y - era * 400
  let mp := if 2 < m then m - 3 else m + 9
  let doy := (153 * mp + 2) / 5 + d - 1
  let doe := yoe * 365 + yoe / 4 - yoe / 100 + doy
  era * 146097 + doe - 719468

/-- The proleptic Gregorian date of a day count since the epoch. -/
def dateOfDays (z : Int) : Int × Int × Int :=
  let z := z + 719468
  let era := z / 146097
  let doe := z - era * 146097
  let yoe := (doe - doe / 1460 + doe / 36524 - doe / 146096) / 365
  let doy := doe - (365 * yoe + yoe / 4 - yoe / 100)
  let mp := (5 * doy + 2) / 153
  let d := doy - (153 * mp + 2) / 5 + 1
  let m := if mp < 10 then mp + 3 else mp - 9
  ((if m ≤ 2 then yoe + era * 400 + 1 else yoe + era * 400), m, d)

/-- Whether a year of the Gregorian calendar has 366 days. -/
def isLeapYear (y : Int) : Bool := y % 4 = 0 && (y % 100 ≠ 0 || y % 400 = 0)

/-- The number of days of a month. -/
def monthLength (y m : Int) : Int :=
  if m = 2 then (if isLeapYear y then 29 else 28)
  else if m = 4 || m = 6 || m = 9 || m = 11 then 30
  else 31

/-- The first and last years of the calendar. -/
def yearRange : Int × Int := (-262144, 262143)

/-- The first and last second of the calendar. -/
def secondRange : Int × Int :=
  (daysOfDate yearRange.1 1 1 * secondsPerDay, daysOfDate yearRange.2 12 31 * secondsPerDay + 86399)

/-! Reading. -/

/-- The value of decimal digits. -/
def digitsValue (ds : List Char) : Nat :=
  ds.foldl (fun acc c => acc * 10 + (c.toNat - '0'.toNat)) 0

/-- Reads one to `most` digits after any blanks. -/
def readNumber (most : Nat) (cs : List Char) : Option (Nat × List Char) :=
  let cs := Text.dropLeadingWhiteSpace cs
  let ds := (cs.takeWhile Char.isDigit).take most
  if ds.isEmpty then none else some (digitsValue ds, cs.drop ds.length)

/-- Reads a year: up to four digits, or a sign and any number of digits. -/
def readYear (cs : List Char) : Option (Int × List Char) :=
  match Text.dropLeadingWhiteSpace cs with
  | '-' :: rest => (readNumber rest.length rest).map fun (n, r) => (-(n : Int), r)
  | '+' :: rest => (readNumber rest.length rest).map fun (n, r) => ((n : Int), r)
  | rest => (readNumber 4 rest).map fun (n, r) => ((n : Int), r)

/-- Reads a separator character after any blanks. -/
def readMark (mark : Char) (cs : List Char) : Option (List Char) :=
  match Text.dropLeadingWhiteSpace cs with
  | c :: rest => if c = mark then some rest else none
  | [] => none

/-- Reads an optional fraction: a point and at least one digit, of which nine count. -/
def readFraction : List Char → Option (Nat × List Char)
  | '.' :: rest =>
    let ds := rest.takeWhile Char.isDigit
    if ds.isEmpty then none
    else
      let nine := ds.take 9
      some (digitsValue nine * Nat.pow 10 (9 - nine.length), rest.drop ds.length)
  | cs => some (0, cs)

/-- Reads the zone after a time: `Z`, `UTC` in any case, or a sign, two digits of hours, any
colons and blanks, and two digits of minutes; gives its offset from UTC in seconds. -/
def readZone (cs : List Char) : Option (Int × List Char) :=
  match cs with
  | 'Z' :: rest | 'z' :: rest => some (0, rest)
  | u :: t :: c :: rest =>
    if u.toLower = 'u' && t.toLower = 't' && c.toLower = 'c' then some (0, rest)
    else readOffset cs
  | _ => readOffset cs
where
  /-- Reads a signed offset of hours and minutes. -/
  readOffset (cs : List Char) : Option (Int × List Char) := do
    let (negative, cs) ← match cs with
      | '+' :: rest => some (false, rest)
      | '-' :: rest => some (true, rest)
      | '−' :: rest => some (true, rest)
      | _ => none
    let h1 :: h2 :: cs := cs | none
    if !(h1.isDigit && h2.isDigit) then none
    let cs := cs.dropWhile fun c => c = ':' || Text.isWhiteSpace c
    let m1 :: m2 :: cs := cs | none
    if !('0' ≤ m1 && m1 ≤ '5' && m2.isDigit) then none
    let seconds : Int := (digitsValue [h1, h2] * 60 + digitsValue [m1, m2]) * 60
    return (if negative then -seconds else seconds, cs)

/-- The parts of a date and time as written: year, month, day, hour, minute, second,
nanoseconds and offset. -/
structure Written where
  year : Int
  month : Nat
  day : Nat
  hour : Nat
  minute : Nat
  second : Nat
  nanos : Nat
  offset : Int

/-- Reads the parts of a date and time, with nothing but blanks after them. -/
def readWritten (cs : List Char) : Option Written := do
  let (year, cs) ← readYear cs
  let cs ← readMark '-' cs
  let (month, cs) ← readNumber 2 cs
  let cs ← readMark '-' cs
  let (day, cs) ← readNumber 2 cs
  let sep :: cs := cs | none
  if !(sep = 'T' || sep = 't' || sep = ' ') then none
  let (hour, cs) ← readNumber 2 cs
  let cs ← readMark ':' cs
  let (minute, cs) ← readNumber 2 cs
  let cs ← readMark ':' cs
  let (second, cs) ← readNumber 2 cs
  let (nanos, cs) ← readFraction cs
  let (offset, cs) ← readZone (Text.dropLeadingWhiteSpace cs)
  if !(Text.dropLeadingWhiteSpace cs).isEmpty then none
  return ⟨year, month, day, hour, minute, second, nanos, offset⟩

/-- The instant of written parts, when they name a date and time of the calendar: a second of
60 is the leap second after the 59th. -/
def Written.instant? (w : Written) : Option Instant :=
  let valid := 1 ≤ w.month && w.month ≤ 12 && 1 ≤ w.day &&
    (w.day : Int) ≤ monthLength w.year w.month && w.hour ≤ 23 && w.minute ≤ 59 &&
    w.second ≤ 60 && yearRange.1 ≤ w.year && w.year ≤ yearRange.2 && w.offset.natAbs < 86400
  if !valid then none
  else
    let (second, leap) := if w.second = 60 then (59, nanosPerSecond) else (w.second, 0)
    let wall := daysOfDate w.year w.month w.day * secondsPerDay + (w.hour * 3600 + w.minute * 60 +
      second : Nat)
    let utc := wall - w.offset
    if secondRange.1 ≤ utc && utc ≤ secondRange.2 then some ⟨utc, w.nanos + leap⟩ else none

/-- Reads an instant from its text. -/
def parse? (s : String) : Option Instant := (readWritten s.toList).bind Written.instant?

/-! Writing. -/

/-- `n` written with at least `width` digits. -/
def padded (width : Nat) (n : Nat) : String :=
  let digits := toString n
  String.ofList (List.replicate (width - digits.length) '0') ++ digits

/-- A year: four digits from 0 to 9999, otherwise a sign and at least four digits. -/
def yearText (y : Int) : String :=
  if 0 ≤ y && y ≤ 9999 then padded 4 y.toNat
  else (if y < 0 then "-" else "+") ++ padded 4 y.natAbs

/-- The fraction of a second as written: empty, or a point and three, six or nine digits. -/
def fractionText (nanos : Nat) : String :=
  if nanos = 0 then ""
  else if nanos % 1000000 = 0 then "." ++ padded 3 (nanos / 1000000)
  else if nanos % 1000 = 0 then "." ++ padded 6 (nanos / 1000)
  else "." ++ padded 9 nanos

/-- The RFC 3339 text of an instant in UTC. -/
def render (t : Instant) : String :=
  let days := t.seconds / secondsPerDay
  let within := (t.seconds % secondsPerDay).toNat
  let (y, m, d) := dateOfDays days
  let leap := nanosPerSecond ≤ t.nanos
  let second := within % 60 + (if leap then 1 else 0)
  let nanos := if leap then t.nanos - nanosPerSecond else t.nanos
  yearText y ++ "-" ++ padded 2 m.toNat ++ "-" ++ padded 2 d.toNat ++ "T" ++
    padded 2 (within / 3600) ++ ":" ++ padded 2 (within / 60 % 60) ++ ":" ++ padded 2 second ++
    fractionText nanos ++ "Z"

end Instant

end DraftPool
