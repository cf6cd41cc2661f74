/-
The rows of a roster: seasons, friends and players.
-/

namespace DraftPool

/-- A season of a sport, at most one of which is active. -/
structure Year where
  value : Int
  active : Bool
  deriving DecidableEq, Repr, Inhabited

/-- A friend taking part in the active season. -/
structure Friend where
  id : Int
  displayOrder : Int
  name : String
  deriving DecidableEq, Repr, Inhabited

/-- A player or team drafted by a friend in a category. -/
structure Player where
  id : Int
  categoryId : Int
  sourceId : Int
  friendId : Int
  displayOrder : Int
  deriving DecidableEq, Repr, Inhabited

/-- How a row id is shown in diagnostics. -/
def rowIdDebug (id : Int) : String := s!"RowId({id})"

/-- How a source id is shown in diagnostics. -/
def sourceIdDebug (id : Int) : String := s!"SourceId({id})"

end DraftPool
