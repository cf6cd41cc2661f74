import DraftPool.Json.Value

/-
Writing a document as compact or indented text.
-/

namespace DraftPool.Json

/-- A hexadecimal digit in lowercase. -/
def hexDigit (n : Nat) : Char :=
  if n < 10 then Char.ofNat ('0'.toNat + n) else Char.ofNat ('a'.toNat + n - 10)

/-- How one character is written inside a string. -/
def escapeChar (c : Char) : List Char :=
  if c = '"' then ['\\', '"']
  else if c = '\\' then ['\\', '\\']
  else if c = '\n' then ['\\', 'n']
  else if c = '\r' then ['\\', 'r']
  else if c = '\t' then ['\\', 't']
  else if c = '\x08' then ['\\', 'b']
  else if c = '\x0c' then ['\\', 'f']
  else if c.toNat < 0x20 then ['\\', 'u', '0', '0', hexDigit (c.toNat / 16), hexDigit (c.toNat % 16)]
  else [c]

/-- A string as the text of a document. -/
def renderString (s : String) : String :=
  String.ofList ('"' :: (s.toList.flatMap escapeChar ++ ['"']))

/-- A number as text. -/
def renderNumber : JsonNumber → String
  | .int n => toString n
  | .float bits => Number.shortestText bits

mutual
/-- A document as compact text. -/
def render : Json → String
  | .null => "null"
  | .bool true => "true"
  | .bool false => "false"
  | .number n => renderNumber n
  | .string s => renderString s
  | .array items => "[" ++ renderItems items ++ "]"
  | .object members => "\x7b" ++ renderMembers members ++ "\x7d"
  | .unreadable _ => "null"

/-- Items separated by commas. -/
def renderItems : List Json → String
  | [] => ""
  | [item] => render item
  | item :: rest => render item ++ "," ++ renderItems rest

/-- Members separated by commas. -/
def renderMembers : List (String × Json) → String
  | [] => ""
  | [(key, value)] => renderString key ++ ":" ++ render value
  | (key, value) :: rest => renderString key ++ ":" ++ render value ++ "," ++ renderMembers rest
end

mutual
/-- A document as indented text, its closing bracket at `indent`. -/
def renderIndented (indent : String) : Json → String
  | .array [] => "[]"
  | .object [] => "\x7b\x7d"
  | .array items => "[\n" ++ indentedItems (indent ++ "  ") items ++ "\n" ++ indent ++ "]"
  | .object members =>
    "\x7b\n" ++ indentedMembers (indent ++ "  ") members ++ "\n" ++ indent ++ "\x7d"
  | doc => render doc

/-- Items on lines of their own at `indent`. -/
def indentedItems (indent : String) : List Json → String
  | [] => ""
  | [item] => indent ++ renderIndented indent item
  | item :: rest => indent ++ renderIndented indent item ++ ",\n" ++ indentedItems indent rest

/-- Members on lines of their own at `indent`. -/
def indentedMembers (indent : String) : List (String × Json) → String
  | [] => ""
  | [(key, value)] => indent ++ renderString key ++ ": " ++ renderIndented indent value
  | (key, value) :: rest =>
    indent ++ renderString key ++ ": " ++ renderIndented indent value ++ ",\n" ++
      indentedMembers indent rest
end

/-- A document as indented text. -/
def renderPretty (doc : Json) : String := renderIndented "" doc

end DraftPool.Json
