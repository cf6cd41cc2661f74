import DraftPool.Sport
import DraftPool.Roster.Rows
import DraftPool.Time.Instant

/-
The tables of a pool's store and the reads over them.
-/

namespace DraftPool

/-- A stored season. -/
structure YearRow where
  sport : Sport
  value : Int
  active : Bool
  deriving DecidableEq, Repr

/-- A stored friend with the season it belongs to. -/
structure FriendRow where
  id : Int
  sport : Sport
  year : Int
  displayOrder : Int
  name : String
  deriving DecidableEq, Repr

/-- A stored player with the season it belongs to. -/
structure PlayerRow where
  id : Int
  sport : Sport
  year : Int
  categoryId : Int
  sourceId : Int
  friendId : Int
  displayOrder : Int
  deriving DecidableEq, Repr

/-- The cached scores of a season: when they were computed and their stored text. -/
structure StatRow where
  sport : Sport
  year : Int
  stamp : Option Instant
  scores : Option String
  deriving DecidableEq, Repr

/-- The tables of a store, the last ids handed out, and whether the store was opened for
reading only. -/
structure Store where
  years : List YearRow := []
  friends : List FriendRow := []
  players : List PlayerRow := []
  stats : List StatRow := []
  lastFriendId : Int := 0
  lastPlayerId : Int := 0
  readOnly : Bool := false
  deriving DecidableEq, Repr

namespace Store

/-- The empty store. -/
def empty : Store := {}

/-- The active year of a sport. -/
def activeYear (s : Store) (sport : Sport) : Option Int :=
  (s.years.find? fun y => y.sport == sport && y.active).map (·.value)

/-- Whether a season is stored. -/
def hasYear (s : Store) (sport : Sport) (year : Int) : Bool :=
  s.years.any fun y => y.sport == sport && y.value == year

/-- Whether a row belongs to the sport's active year. -/
def inActiveYear (s : Store) (sport : Sport) (year : Int) : Bool :=
  s.activeYear sport == some year

/-- Every year of a sport, oldest first. -/
def yearsOf (s : Store) (sport : Sport) : List Year :=
  ((s.years.filter (·.sport == sport)).map fun y => (⟨y.value, y.active⟩ : Year)).mergeSort
    fun a b => decide (a.value ≤ b.value)

/-- Lexicographic order on lists of integers. -/
def keyLe : List Int → List Int → Bool
  | [], _ => true
  | _ :: _, [] => false
  | a :: as, b :: bs => if a < b then true else if b < a then false else keyLe as bs

/-- The friends of a sport's active year, by display order and then id. -/
def friendsOf (s : Store) (sport : Sport) : List Friend :=
  let rows := s.friends.filter fun f => f.sport == sport && s.inActiveYear sport f.year
  let sorted := rows.mergeSort fun a b => keyLe [a.displayOrder, a.id] [b.displayOrder, b.id]
  sorted.map fun f => ⟨f.id, f.displayOrder, f.name⟩

/-- The players of a sport's active year, by category, friend, display order and id. -/
def playersOf (s : Store) (sport : Sport) : List Player :=
  let rows := s.players.filter fun p => p.sport == sport && s.inActiveYear sport p.year
  let key (p : PlayerRow) : List Int := [p.categoryId, p.friendId, p.displayOrder, p.id]
  let sorted := rows.mergeSort fun a b => keyLe (key a) (key b)
  sorted.map fun p => ⟨p.id, p.categoryId, p.sourceId, p.friendId, p.displayOrder⟩

/-- The cached scores of a sport's active year: none without an active year, an empty row
when nothing was stored. -/
def statOf (s : Store) (sport : Sport) : Option StatRow := do
  let year ← s.activeYear sport
  match s.stats.find? fun r => r.sport == sport && r.year == year with
  | some row => some row
  | none => some ⟨sport, year, none, none⟩

end Store

end DraftPool
