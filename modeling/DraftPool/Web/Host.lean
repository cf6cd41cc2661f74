import DraftPool.Web.Idna
import DraftPool.Web.Percent

/-
Hosts of URLs as the WHATWG URL standard reads them.
-/

namespace DraftPool.Web

/-- Why a text is no URL. -/
inductive UrlError where
  | emptyHost
  | idna
  | invalidPort
  | invalidIpv4
  | invalidIpv6
  | invalidDomainCharacter
  | relativeWithoutBase
  deriving DecidableEq, Repr

/-- The message of a URL fault. -/
def UrlError.message : UrlError → String
  | .emptyHost => "empty host"
  | .idna => "invalid international domain name"
  | .invalidPort => "invalid port number"
  | .invalidIpv4 => "invalid IPv4 address"
  | .invalidIpv6 => "invalid IPv6 address"
  | .invalidDomainCharacter => "invalid domain character"
  | .relativeWithoutBase => "relative URL without a base"

/-- Whether a character may not appear in an opaque host. -/
def isForbiddenHostChar (c : Char) : Bool :=
  c.toNat = 0 || [' ', '\t', '\n', '\r', '#', '/', ':', '<', '>', '?', '@', '[', '\\', ']', '^', '|'].contains c

/-- The value of digits in a base, all of which must be digits of it. -/
def digitsIn (base : Nat) (cs : List Char) : Option Nat :=
  cs.foldlM (fun acc c =>
    match hexDigitValue c with
    | some d => if d < base then some (acc * base + d) else none
    | none => none) 0

/-! IPv4. -/

/-- A part of an IPv4 address: decimal, octal after a leading zero, or hexadecimal after `0x`. -/
def ipv4Number (part : List Char) : Option Nat :=
  match part with
  | '0' :: 'x' :: rest | '0' :: 'X' :: rest => if rest.isEmpty then some 0 else digitsIn 16 rest
  | '0' :: rest@(_ :: _) => digitsIn 8 rest
  | [] => none
  | _ => digitsIn 10 part

/-- The parts of a dotted host, without one trailing empty part. -/
def hostParts (host : List Char) : List (List Char) :=
  match (host.splitOn '.').reverse with
  | [] :: rest@(_ :: _) => rest.reverse
  | parts => parts.reverse

/-- Whether the last label of a domain is a number, which makes it an IPv4 address. -/
def endsInNumber (host : List Char) : Bool :=
  match (hostParts host).getLast? with
  | some last =>
    (!last.isEmpty && last.all Char.isDigit) ||
      (match last with
        | '0' :: 'x' :: rest | '0' :: 'X' :: rest => rest.all fun c => (hexDigitValue c).isSome
        | _ => false)
  | none => false

/-- Reads an IPv4 address as a 32-bit number. -/
def parseIpv4 (host : List Char) : Except UrlError Nat := do
  let parts := hostParts host
  if 4 < parts.length then throw .invalidIpv4
  let numbers ← parts.mapM fun p => match ipv4Number p with
    | some n => .ok n
    | none => .error .invalidIpv4
  match numbers.reverse with
  | [] => throw .invalidIpv4
  | last :: earlier =>
    if earlier.any (255 < ·) then throw .invalidIpv4
    if Nat.pow 256 (5 - numbers.length) ≤ last then throw .invalidIpv4
    return earlier.reverse.zipIdx.foldl (fun acc (n, i) => acc + n * Nat.pow 256 (3 - i)) last

/-- The dotted decimal text of an IPv4 address. -/
def ipv4Text (n : Nat) : String :=
  ".".intercalate ([3, 2, 1, 0].map fun i => toString (n / Nat.pow 256 i % 256))

/-! IPv6. -/

/-- Reads a piece of one to four hexadecimal digits. -/
def ipv6Piece (cs : List Char) : Option Nat :=
  if cs.isEmpty || 4 < cs.length then none else digitsIn 16 cs

/-- Reads the IPv4 address that may end an IPv6 address, as two pieces: four decimal numbers
below 256 without leading zeros, joined by dots. -/
def ipv6Ipv4Tail (cs : List Char) : Option (List Nat) :=
  let values := (cs.splitOn '.').filterMap fun p =>
    if p.isEmpty || !p.all Char.isDigit || (1 < p.length && p.head? = some '0') then none
    else (digitsIn 10 p).filter (· ≤ 255)
  match values, (cs.splitOn '.').length with
  | [a, b, c, d], 4 => some [a * 256 + b, c * 256 + d]
  | _, _ => none

/-- Reads the pieces on one side of a `::`, the last of which may be an IPv4 address when
`ends` says that this side ends the address. -/
def ipv6Side (ends : Bool) (side : List Char) : Option (List Nat) :=
  if side.isEmpty then some []
  else
    let groups := side.splitOn ':'
    let leading := groups.dropLast
    let last := groups.getLastD []
    let tail :=
      if ends && last.contains '.' then ipv6Ipv4Tail last else (ipv6Piece last).map ([·])
    do
      let pieces ← leading.mapM ipv6Piece
      let lastPieces ← tail
      return pieces ++ lastPieces

/-- Splits text at each `::`. -/
def splitDoubleColon : List Char → List (List Char)
  | [] => [[]]
  | ':' :: ':' :: rest => [] :: splitDoubleColon rest
  | c :: rest =>
    match splitDoubleColon rest with
    | part :: parts => (c :: part) :: parts
    | [] => [[c]]

/-- Reads the pieces of an IPv6 address, written around at most one `::`, which stands for at
least one zero piece. -/
def parseIpv6 (cs : List Char) : Except UrlError (List Nat) :=
  match splitDoubleColon cs with
  | [whole] =>
    match ipv6Side true whole with
    | some pieces => if pieces.length = 8 then .ok pieces else .error .invalidIpv6
    | none => .error .invalidIpv6
  | [before, after] =>
    match ipv6Side false before, ipv6Side true after with
    | some a, some b =>
      if a.length + b.length ≤ 7 then .ok (a ++ List.replicate (8 - a.length - b.length) 0 ++ b)
      else .error .invalidIpv6
    | _, _ => .error .invalidIpv6
  | _ => .error .invalidIpv6

/-- The longest run of at least two zero pieces, the first of equals, as start and length. -/
def longestZeroRun (pieces : List Nat) : Option (Nat × Nat) :=
  let (best, _, _) := pieces.zipIdx.foldl (fun (best, start, len) (p, i) =>
    if p = 0 then
      let start := if len = 0 then i else start
      let len := len + 1
      let best := match best with
        | some (_, l) => if l < len then some (start, len) else best
        | none => some (start, len)
      (best, start, len)
    else (best, start, 0)) ((none : Option (Nat × Nat)), 0, 0)
  best.filter (2 ≤ ·.2)

/-- The compressed text of an IPv6 address, in brackets. -/
def ipv6Text (pieces : List Nat) : String :=
  let hex (p : Nat) : String := String.ofList (Nat.toDigits 16 p)
  let body := match longestZeroRun pieces with
    | some (start, len) =>
      ":".intercalate ((pieces.take start).map hex) ++ "::" ++
        ":".intercalate ((pieces.drop (start + len)).map hex)
    | none => ":".intercalate (pieces.map hex)
  "[" ++ body ++ "]"

/-- Reads a host in brackets. -/
def parseBracketed (rest : List Char) : Except UrlError String :=
  match rest.reverse with
  | ']' :: inner => return ipv6Text (← parseIpv6 inner.reverse)
  | _ => throw .invalidIpv6

/-! Hosts. -/

/-- Reads the host of a special URL. -/
def parseSpecialHost (host : List Char) : Except UrlError String :=
  match host with
  | '[' :: rest => parseBracketed rest
  | _ =>
    match domainToAscii (percentDecode (String.ofList host)).toList with
    | .error _ => throw .idna
    | .ok domain =>
      if domain.isEmpty then throw .emptyHost
      else if endsInNumber domain.toList then return ipv4Text (← parseIpv4 domain.toList)
      else return domain

/-- Reads the host of a URL of another scheme. -/
def parseOpaqueHost (host : List Char) : Except UrlError String :=
  match host with
  | '[' :: rest => parseBracketed rest
  | _ =>
    if host.any isForbiddenHostChar then throw .invalidDomainCharacter
    else return encodeIn [] host

end DraftPool.Web
