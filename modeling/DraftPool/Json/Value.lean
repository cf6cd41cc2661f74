import DraftPool.Number.Binary64

/-
Documents in the JSON format.
-/

namespace DraftPool

/-- Why a text is no document. -/
inductive ReadError where
  | unexpectedEnd
  | expectedValue
  | expectedIdent
  | invalidNumber
  | numberOutOfRange
  | invalidEscape
  | controlCharacter
  | loneSurrogate
  | expectedColon
  | expectedCommaOrEnd
  | trailingComma
  | keyMustBeString
  | trailingCharacters
  | depthExceeded
  deriving DecidableEq, Repr

/-- A number of a document. -/
inductive JsonNumber where
  /-- An integer from `-2^63` to `2^64 - 1`. -/
  | int (value : Int)
  /-- Any other number, as the pattern of the nearest binary64. -/
  | float (bits : UInt64)
  deriving DecidableEq, Repr

/-- A document. -/
inductive Json where
  | null
  | bool (value : Bool)
  | number (value : JsonNumber)
  | string (value : String)
  | array (items : List Json)
  | object (members : List (String × Json))
  /-- A part that is well formed but holds no value; it can only be skipped. -/
  | unreadable (why : ReadError)
  deriving Repr, Inhabited

namespace Json

/-- An integer as a document. -/
def int (n : Int) : Json := .number (.int n)

/-- The value of the last member named `key`, when the document is an object. -/
def get? (key : String) : Json → Option Json
  | .object members => (members.reverse.find? (·.1 == key)).map (·.2)
  | _ => none

/-- The members of a map with repeated keys removed, the last one kept. -/
def lastOfEachKey (members : List (String × Json)) : List (String × Json) :=
  members.reverse.foldl
    (fun kept member => if kept.any (·.1 == member.1) then kept else member :: kept) []

/-- The members sorted by key. -/
def sortMembers (members : List (String × Json)) : List (String × Json) :=
  members.mergeSort fun a b => decide (a.1 ≤ b.1)

mutual
/-- The map view of a document: at every depth, object keys sorted and repeated keys resolved
to their last value. -/
def normalize : Json → Json
  | .array items => .array (normalizeItems items)
  | .object members => .object (sortMembers (lastOfEachKey (normalizeMembers members)))
  | other => other

/-- `normalize` on each item. -/
def normalizeItems : List Json → List Json
  | [] => []
  | item :: rest => normalize item :: normalizeItems rest

/-- `normalize` on each member's value. -/
def normalizeMembers : List (String × Json) → List (String × Json)
  | [] => []
  | (key, value) :: rest => (key, normalize value) :: normalizeMembers rest
end

mutual
/-- The reason of the first unreadable part of a document, in document order. -/
def firstFlaw? : Json → Option ReadError
  | .unreadable why => some why
  | .array items => firstFlawItems? items
  | .object members => firstFlawMembers? members
  | _ => none

/-- `firstFlaw?` over items. -/
def firstFlawItems? : List Json → Option ReadError
  | [] => none
  | item :: rest => (firstFlaw? item).orElse fun _ => firstFlawItems? rest

/-- `firstFlaw?` over members' values. -/
def firstFlawMembers? : List (String × Json) → Option ReadError
  | [] => none
  | (_, value) :: rest => (firstFlaw? value).orElse fun _ => firstFlawMembers? rest
end

/-- The document itself when no part of it is unreadable: what a reader of whole values
accepts. -/
def sound? (j : Json) : Option Json := if (firstFlaw? j).isNone then some j else none

end Json

end DraftPool
