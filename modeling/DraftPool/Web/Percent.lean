import DraftPool.Web.Form

/-
Percent-encoding of the parts of a URL.
-/

namespace DraftPool.Web

/-- A set of ASCII characters that a part of a URL percent-encodes besides the controls and
every non-ASCII character. -/
abbrev EncodeSet := List Char

/-- Characters the fragment encodes. -/
def fragmentSet : EncodeSet := [' ', '"', '<', '>', '\x60']

/-- Characters a path encodes. -/
def pathSet : EncodeSet := fragmentSet ++ ['#', '?', '\x7b', '\x7d']

/-- Characters user information encodes. -/
def userinfoSet : EncodeSet := pathSet ++ ['/', ':', ';', '=', '@', '[', '\\', ']', '^', '|']

/-- Characters a query encodes. -/
def querySet : EncodeSet := [' ', '"', '#', '<', '>']

/-- Characters the query of a special URL encodes. -/
def specialQuerySet : EncodeSet := querySet ++ ['\x27']

/-- A character percent-encoded within the set. -/
def encodeChar (set : EncodeSet) (c : Char) : List Char :=
  if c.toNat < 0x20 || 0x7E < c.toNat || set.contains c then
    (Text.utf8Bytes c).flatMap percentByte
  else [c]

/-- Characters percent-encoded within the set. -/
def encodeIn (set : EncodeSet) (cs : List Char) : String := String.ofList (cs.flatMap (encodeChar set))

end DraftPool.Web
