import DraftPool.Score.Board
import DraftPool.Text.Lower
import DraftPool.Text.WhiteSpace

/-
Matching and ordering search results against a query.
-/

namespace DraftPool

/-- Whether `needle` occurs in `hay`. -/
def containsChars (hay needle : List Char) : Bool :=
  match hay with
  | [] => needle.isEmpty
  | c :: rest => needle.isPrefixOf (c :: rest) || containsChars rest needle

/-- The lowercase form of a query after trimming. -/
def queryKey (query : String) : String := Text.lower (Text.trim query)

/-- Whether a name contains the query, both in lowercase. -/
def nameMatches (name query : String) : Bool :=
  containsChars (Text.lower name).toList (queryKey query).toList

/-- The rank of a name for a lowercase query: 0 for a prefix, 1 for a part, 2 otherwise. -/
def matchRank (key name : String) : Nat :=
  let lowered := (Text.lower name).toList
  if key.toList.isPrefixOf lowered then 0
  else if containsChars lowered key.toList then 1
  else 2

/-- Whether one ranked result goes no later than another. -/
def rankedBefore (a b : Nat × SearchResult) : Bool :=
  if a.1 ≠ b.1 then a.1 < b.1
  else if a.2.name ≠ b.2.name then a.2.name < b.2.name
  else a.2.sourceId ≤ b.2.sourceId

/-- Orders results for a query, best matches first. -/
def rankResults (results : List SearchResult) (query : String) : List SearchResult :=
  let key := queryKey query
  ((results.map fun r => (matchRank key r.name, r)).mergeSort rankedBefore).map (·.2)

end DraftPool
