/-
The score board of a category: each friend's players with their provider names and scores,
and the friend's total.
-/

namespace DraftPool

/-- A provider's name and score for a player or team. -/
structure NameScore where
  name : String := ""
  score : Int := 0
  deriving DecidableEq, Repr, Inhabited

/-- One drafted player on the board. -/
structure PlayerScore where
  playerId : Int
  name : String
  score : Int
  displayOrder : Int
  sourceId : Int
  deriving DecidableEq, Repr, Inhabited

/-- One friend on the board, with the total of their players. -/
structure FriendScore where
  friendId : Int
  name : String
  scoreType : String
  score : Int
  displayOrder : Int
  playerScores : List PlayerScore
  deriving DecidableEq, Repr, Inhabited

/-- The board of one category. -/
structure ScoreCategory where
  categoryId : Int
  name : String
  description : String
  displayOrder : Int
  friendScores : List FriendScore
  deriving DecidableEq, Repr, Inhabited

/-- A candidate found by searching a provider. -/
structure SearchResult where
  name : String
  details : String
  sourceId : Int
  deriving DecidableEq, Repr, Inhabited

end DraftPool
