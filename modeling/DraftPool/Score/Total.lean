import DraftPool.Category
import DraftPool.Roster.Rows
import DraftPool.Score.Board
import DraftPool.Number.Wrapping

/-
Building a category's board from resolved names and scores.
-/

namespace DraftPool

/-- The value of the last pair with key `k`. -/
def lookupLast {α : Type} (k : Int) (pairs : List (Int × α)) : Option α :=
  (pairs.reverse.find? (·.1 == k)).map (·.2)

/-- The total of a friend's scores, summed in 64 bits. -/
def friendTotal (scores : List Int) (topTwoOnly : Bool) : Int :=
  if topTwoOnly && 2 < scores.length then
    sumWrapping ((scores.mergeSort fun a b => decide (b ≤ a)).take 2)
  else sumWrapping scores

/-- A player's line on the board, with the name and score resolved for the player's id. -/
def PlayerScore.ofPlayer (nameScores : List (Int × NameScore)) (p : Player) : PlayerScore :=
  let resolved := (lookupLast p.id nameScores).getD {}
  ⟨p.id, resolved.name, resolved.score, p.displayOrder, p.sourceId⟩

/-- A friend's line on the board, from the friend's players. -/
def FriendScore.ofPlayers (category : Category) (nameScores : List (Int × NameScore))
    (friend : Friend) (players : List Player) : FriendScore :=
  let lines := (players.map (PlayerScore.ofPlayer nameScores)).mergeSort
    fun a b => decide (a.displayOrder ≤ b.displayOrder)
  ⟨friend.id, friend.name, category.scoreType, friendTotal (lines.map (·.score)) category.topTwoOnly,
    friend.displayOrder, lines⟩

/-- The players that go to each friend: a friend gets the players with their id, unless an
earlier friend has the same id. -/
def playersOfFriends (friends : List Friend) (players : List Player) :
    List (Friend × List Player) :=
  let rec go (seen : List Int) : List Friend → List (Friend × List Player)
    | [] => []
    | f :: rest =>
      let owned := if seen.contains f.id then [] else players.filter (·.friendId == f.id)
      (f, owned) :: go (f.id :: seen) rest
  go [] friends

/-- The board of a category. -/
def buildScoreCategory (category : Category) (friends : List Friend) (players : List Player)
    (nameScores : List (Int × NameScore)) : ScoreCategory :=
  let lines := (playersOfFriends friends players).map fun (f, owned) =>
    FriendScore.ofPlayers category nameScores f owned
  ⟨category.id, category.name, category.description, category.displayOrder,
    lines.mergeSort fun a b => decide (a.displayOrder ≤ b.displayOrder)⟩

/-- A player left without a name or a stat by a provider. -/
inductive MissingField where
  | name (playerId sourceId : Int)
  | stat (playerId sourceId : Int)
  deriving DecidableEq, Repr

/-- The message naming the player left out. -/
def MissingField.message : MissingField → String
  | .name p s => s!"no name for player {p} (source {s})"
  | .stat p s => s!"no stat for player {p} (source {s})"

/-- Joins separately fetched names and stats onto players, keyed by player id. The first player
without a name, or else without a stat, fails the join. -/
def nameScoresOfFields (players : List Player) (names : List (Int × String))
    (stats : List (Int × Int)) : Except MissingField (List (Int × NameScore)) :=
  players.mapM fun p =>
    match lookupLast p.sourceId names, lookupLast p.sourceId stats with
    | none, _ => .error (.name p.id p.sourceId)
    | some _, none => .error (.stat p.id p.sourceId)
    | some name, some stat => .ok (p.id, ⟨name, stat⟩)

/-- Looks players up in a provider's map of source ids; players it does not list get an empty
name and zero. -/
def nameScoresOfSources (players : List Player) (sources : List (Int × NameScore)) :
    List (Int × NameScore) :=
  players.map fun p => (p.id, (lookupLast p.sourceId sources).getD {})

end DraftPool
