import DraftPool.Text.IdnaTable
import DraftPool.Text.Normalization
import DraftPool.Text.Character
import DraftPool.Web.Punycode

/-
The ASCII form of a domain name, as UTS 46 gives it to URLs.
-/

namespace DraftPool.Web

open Text

/-- Why a domain name has no ASCII form. -/
inductive DomainError where
  /-- A code point that a domain name may not hold. -/
  | disallowed
  /-- A label after `xn--` that is not Punycode, or reads to an invalid label. -/
  | punycode
  /-- A label that starts with a mark. -/
  | leadingMark
  /-- An ASCII character that a URL's host may not hold. -/
  | deniedAscii
  /-- A joiner where the joining rules do not allow it. -/
  | joiner
  /-- A label that breaks the bidirectional rule. -/
  | bidi
  /-- A label too long to be written as Punycode or read from it. -/
  | tooLong
  deriving DecidableEq, Repr

/-- How a domain name treats a code point. -/
inductive IdnaStatus where
  | valid
  | mapped (image : List Char)
  | ignored
  | disallowed
  deriving DecidableEq, Repr

/-- The status of a code point in the mapping table. -/
def idnaStatus (c : Char) : IdnaStatus :=
  match shiftBy? idnaShiftRuns c.toNat with
  | some n => .mapped [Char.ofNat n]
  | none =>
    match rangeValue? idnaExpansions c.toNat with
    | some image => .mapped (image.map Char.ofNat)
    | none =>
      if inRanges idnaDisallowed c && !isUnassigned c then .disallowed
      else if inRanges idnaIgnored c then .ignored
      else .valid

/-- Whether a code point is valid as it stands. -/
def isIdnaValid (c : Char) : Bool := idnaStatus c == .valid

/-- The text a code point is mapped to; none when it is disallowed. -/
def mapChar (c : Char) : Option (List Char) :=
  match idnaStatus c with
  | .valid => some [c]
  | .mapped image => some image
  | .ignored => some []
  | .disallowed => none

/-- Maps every code point of a domain name. -/
def mapDomain (cs : List Char) : Except DomainError (List Char) :=
  match cs.mapM mapChar with
  | some parts => .ok parts.flatten
  | none => .error .disallowed

/-- Whether an ASCII character may not stand in a URL's host: the controls, the space, delete,
and `%#/:<>?@[\]^|`. -/
def isDeniedAscii (c : Char) : Bool :=
  c.toNat ≤ 0x20 || c.toNat = 0x7F || "%#/:<>?@[\\]^|".contains c

/-- Whether a character is a virama: its combining class is 9. -/
def isVirama (c : Char) : Bool := combiningClass c = 9

/-! Joiners. -/

/-- The zero width non-joiner. -/
def nonJoiner : Char := Char.ofNat 0x200C

/-- The zero width joiner. -/
def joiner : Char := Char.ofNat 0x200D

/-- Whether the nearest character that is not transparent has one of the joining types. -/
def joinsToward (types : List JoiningType) (cs : List Char) : Bool :=
  match cs.dropWhile (joiningType · == .transparent) with
  | c :: _ => types.contains (joiningType c)
  | [] => false

/-- Whether each joiner of a label stands where RFC 5892 allows it. -/
def joinersAllowed (before : List Char) : List Char → Bool
  | [] => true
  | c :: rest =>
    let afterVirama := before.head?.any isVirama
    let allowed :=
      if c = nonJoiner then
        afterVirama || (joinsToward [.leftJoining, .dualJoining] before &&
          joinsToward [.rightJoining, .dualJoining] rest)
      else if c = joiner then afterVirama
      else true
    allowed && joinersAllowed (c :: before) rest

/-! The bidirectional rule. -/

/-- Whether a character makes a domain name a bidirectional one. -/
def isRightToLeft (c : Char) : Bool :=
  [BidiClass.rightToLeft, .arabicLetter, .arabicNumber].contains (bidiClass c)

/-- The classes that may stand inside a left-to-right label. -/
def leftToRightInner : List BidiClass :=
  [.leftToRight, .europeanNumber, .europeanSeparator, .commonSeparator, .europeanTerminator,
    .otherNeutral, .boundaryNeutral, .nonspacingMark]

/-- The classes that may stand inside a right-to-left label. -/
def rightToLeftInner : List BidiClass :=
  [.rightToLeft, .arabicLetter, .arabicNumber, .europeanNumber, .europeanSeparator,
    .commonSeparator, .europeanTerminator, .otherNeutral, .boundaryNeutral, .nonspacingMark]

/-- Whether a label satisfies the bidirectional rule of RFC 5893. -/
def bidiRuleHolds (label : List Char) : Bool :=
  match label.map bidiClass with
  | [] => true
  | first :: rest =>
    let body := (rest.reverse.dropWhile (· == .nonspacingMark)).reverse
    if first = .leftToRight then
      match body.getLast? with
      | none => true
      | some last =>
        [BidiClass.leftToRight, .europeanNumber].contains last &&
          body.all leftToRightInner.contains
    else if first = .rightToLeft || first = .arabicLetter then
      match body.getLast? with
      | none => true
      | some last =>
        [BidiClass.rightToLeft, .arabicLetter, .europeanNumber, .arabicNumber].contains last &&
          body.all rightToLeftInner.contains &&
          !(body.contains .europeanNumber && body.contains .arabicNumber)
    else false

/-! Labels. -/

/-- Whether text is ASCII. -/
def isAscii (cs : List Char) : Bool := cs.all (·.toNat < 0x80)

/-- A label as it is read: one that starts with `xn--` is read from Punycode. -/
def readLabel (label : List Char) : Except DomainError (List Char) :=
  match label with
  | 'x' :: 'n' :: '-' :: '-' :: code =>
    if !isAscii code then .error .punycode
    else if punyMaxCodeLength < code.length then .error .tooLong
    else
      match punyDecode code with
      | none => .error .punycode
      | some read =>
        if read.isEmpty || isAscii read || !isNfc read || !read.all isIdnaValid then .error .punycode
        else .ok read
  | _ => .ok label

/-- Checks a label as read: no leading mark, no denied ASCII character, and joiners only where
they are allowed. -/
def checkLabel (label : List Char) : Except DomainError Unit :=
  if label.head?.any isMark then .error .leadingMark
  else if label.any isDeniedAscii then .error .deniedAscii
  else if !joinersAllowed [] label then .error .joiner
  else .ok ()

/-- The ASCII form of a label as read. -/
def asciiLabel (label : List Char) : Except DomainError String :=
  if isAscii label then .ok (String.ofList label)
  else if punyMaxLabelLength < label.length then .error .tooLong
  else .ok ("xn--" ++ punycode (String.ofList label))

/-- The ASCII form of a domain name. -/
def domainToAscii (domain : List Char) : Except DomainError String := do
  let mapped ← mapDomain domain
  let labels ← (((nfc mapped).splitOn '.').mapM readLabel)
  labels.forM checkLabel
  if labels.any (·.any isRightToLeft) && !labels.all bidiRuleHolds then throw .bidi
  return ".".intercalate (← labels.mapM asciiLabel)

end DraftPool.Web
