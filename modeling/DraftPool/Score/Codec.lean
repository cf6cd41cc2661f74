import DraftPool.Score.Board
import DraftPool.Json.Decode
import DraftPool.Json.Reader
import DraftPool.Json.Writer

/-
Boards as documents.
-/

namespace DraftPool

open Json

/-- A player's line as a document. -/
def PlayerScore.toJson (p : PlayerScore) : Json :=
  .object [("player_id", .int p.playerId), ("name", .string p.name), ("score", .int p.score),
    ("display_order", .int p.displayOrder), ("source_id", .int p.sourceId)]

/-- A friend's line as a document. -/
def FriendScore.toJson (f : FriendScore) : Json :=
  .object [("friend_id", .int f.friendId), ("name", .string f.name),
    ("score_type", .string f.scoreType), ("score", .int f.score),
    ("display_order", .int f.displayOrder), ("player_scores", .array (f.playerScores.map (·.toJson)))]

/-- A board as a document. -/
def ScoreCategory.toJson (c : ScoreCategory) : Json :=
  .object [("category_id", .int c.categoryId), ("name", .string c.name),
    ("description", .string c.description), ("display_order", .int c.displayOrder),
    ("friend_scores", .array (c.friendScores.map (·.toJson)))]

/-- A search result as a document. -/
def SearchResult.toJson (r : SearchResult) : Json :=
  .object [("name", .string r.name), ("details", .string r.details), ("source_id", .int r.sourceId)]

/-- Reads a player's line. -/
def PlayerScore.ofJson? (j : Json) : Option PlayerScore := do
  let fields ← recordFields ["player_id", "name", "score", "display_order", "source_id"] j
  let [id, name, score, order, source] := fields | none
  return ⟨← required asInt64 id, ← required asString name, ← required asInt64 score,
    ← required asInt32 order, ← required asInt64 source⟩

/-- Reads a friend's line. -/
def FriendScore.ofJson? (j : Json) : Option FriendScore := do
  let fields ← recordFields
    ["friend_id", "name", "score_type", "score", "display_order", "player_scores"] j
  let [id, name, scoreType, score, order, players] := fields | none
  return ⟨← required asInt64 id, ← required asString name, ← required asString scoreType,
    ← required asInt64 score, ← required asInt32 order,
    ← required (asList PlayerScore.ofJson?) players⟩

/-- Reads a board. -/
def ScoreCategory.ofJson? (j : Json) : Option ScoreCategory := do
  let fields ← recordFields
    ["category_id", "name", "description", "display_order", "friend_scores"] j
  let [id, name, description, order, friends] := fields | none
  return ⟨← required asInt64 id, ← required asString name, ← required asString description,
    ← required asInt32 order, ← required (asList FriendScore.ofJson?) friends⟩

/-- The stored text of a list of boards. -/
def encodeBoards (boards : List ScoreCategory) : String :=
  render (.array (boards.map (·.toJson)))

/-- Reads boards back from stored text; members that are not fields are only skipped. -/
def decodeBoards (text : String) : Option (List ScoreCategory) :=
  match Json.readSkimming text with
  | .ok doc => asList ScoreCategory.ofJson? doc
  | .error _ => none

end DraftPool
