import DraftPool.Store.Tables

/-
Writes to the store and the constraints they must keep.
-/

namespace DraftPool

/-- A single write to the roster tables. -/
inductive Write where
  | delFriend (id : Int)
  | addFriend (sport : Sport) (displayOrder : Int) (name : String)
  | setFriend (id displayOrder : Int) (name : String)
  | delPlayer (id : Int)
  | addPlayer (sport : Sport) (categoryId sourceId friendId displayOrder : Int)
  | setPlayer (id displayOrder : Int)
  | clearActive (sport : Sport)
  | delYear (sport : Sport) (year : Int)
  | addYear (sport : Sport) (year : Int)
  | setActive (sport : Sport) (year : Int)
  deriving DecidableEq, Repr

/-- The short name of a write, used in messages. -/
def Write.name : Write → String
  | .delFriend .. => "del_friend"
  | .addFriend .. => "add_friend"
  | .setFriend .. => "set_friend"
  | .delPlayer .. => "del_player"
  | .addPlayer .. => "add_player"
  | .setPlayer .. => "set_player"
  | .clearActive .. => "clr_year_active"
  | .delYear .. => "del_year"
  | .addYear .. => "add_year"
  | .setActive .. => "set_year_active"

/-- A constraint a write or an upsert would break, or a write refused by a store opened for
reading only. -/
inductive StoreFault where
  | duplicateYear
  | secondActiveYear
  | missingYear
  | readOnly
  deriving DecidableEq, Repr

/-- The database's text for a broken constraint or a refused write. -/
def StoreFault.text : StoreFault → String
  | .duplicateYear => "UNIQUE constraint failed: years.sport, years.year"
  | .secondActiveYear => "UNIQUE constraint failed: years.sport"
  | .missingYear => "FOREIGN KEY constraint failed"
  | .readOnly => "attempt to write a readonly database"

/-- The message of a store fault. -/
def StoreFault.message (f : StoreFault) : String := "SQLite error: " ++ f.text

namespace Store

/-- Removes a season with everything that belongs to it. -/
def dropYear (s : Store) (sport : Sport) (year : Int) : Store :=
  let inYear (rowSport : Sport) (rowYear : Int) : Bool := rowSport == sport && rowYear == year
  let friends := s.friends.filter fun f => !inYear f.sport f.year
  let gone := (s.friends.filter fun f => inYear f.sport f.year).map (·.id)
  { s with
    years := s.years.filter fun y => !inYear y.sport y.value
    friends := friends
    players := s.players.filter fun p => !inYear p.sport p.year && !gone.contains p.friendId
    stats := s.stats.filter fun r => !inYear r.sport r.year }

/-- Applies one write to a store that takes writes, giving the rows it matched and the new
store. -/
def applyWritable (s : Store) : Write → Except StoreFault (Nat × Store)
  | .delFriend id =>
    .ok (s.friends.countP (·.id == id), { s with
      friends := s.friends.filter (·.id != id)
      players := s.players.filter (·.friendId != id) })
  | .addFriend sport displayOrder name =>
    match s.activeYear sport with
    | none => .ok (0, s)
    | some year =>
      let id := s.lastFriendId + 1
      .ok (1, { s with
        friends := s.friends ++ [⟨id, sport, year, displayOrder, name⟩]
        lastFriendId := id })
  | .setFriend id displayOrder name =>
    .ok (s.friends.countP (·.id == id), { s with
      friends := s.friends.map fun f =>
        if f.id == id then { f with displayOrder := displayOrder, name := name } else f })
  | .delPlayer id =>
    .ok (s.players.countP (·.id == id), { s with players := s.players.filter (·.id != id) })
  | .addPlayer sport categoryId sourceId friendId displayOrder =>
    match s.friends.find? fun f => f.sport == sport && f.id == friendId &&
        s.inActiveYear sport f.year with
    | none => .ok (0, s)
    | some f =>
      let id := s.lastPlayerId + 1
      .ok (1, { s with
        players := s.players ++ [⟨id, f.sport, f.year, categoryId, sourceId, f.id, displayOrder⟩]
        lastPlayerId := id })
  | .setPlayer id displayOrder =>
    .ok (s.players.countP (·.id == id), { s with
      players := s.players.map fun p =>
        if p.id == id then { p with displayOrder := displayOrder } else p })
  | .clearActive sport =>
    let hit (y : YearRow) : Bool := y.sport == sport && y.active
    .ok (s.years.countP hit, { s with
      years := s.years.map fun y => if hit y then { y with active := false } else y })
  | .delYear sport year =>
    .ok (s.years.countP (fun y => y.sport == sport && y.value == year), s.dropYear sport year)
  | .addYear sport year =>
    if s.hasYear sport year then .error .duplicateYear
    else .ok (1, { s with years := s.years ++ [⟨sport, year, false⟩] })
  | .setActive sport year =>
    let hit (y : YearRow) : Bool := y.sport == sport && y.value == year
    if !s.hasYear sport year then .ok (0, s)
    else if s.years.any (fun y => y.sport == sport && y.active && !hit y) then
      .error .secondActiveYear
    else .ok (1, { s with years := s.years.map fun y => if hit y then { y with active := true } else y })

/-- Applies one write, giving the rows it matched and the new store. -/
def apply (s : Store) (w : Write) : Except StoreFault (Nat × Store) :=
  if s.readOnly then .error .readOnly else s.applyWritable w

/-- Stores the cached scores of a season, replacing the ones stored; the season must exist. -/
def putStat (s : Store) (row : StatRow) : Except StoreFault Store :=
  if s.readOnly then .error .readOnly
  else if !s.hasYear row.sport row.year then .error .missingYear
  else
    let same (r : StatRow) : Bool := r.sport == row.sport && r.year == row.year
    if s.stats.any same then .ok { s with stats := s.stats.map fun r => if same r then row else r }
    else .ok { s with stats := s.stats ++ [row] }

/-- Forgets the cached scores of a sport's active season, keeping its row. -/
def clearStat (s : Store) (sport : Sport) : Except StoreFault Store :=
  if s.readOnly then .error .readOnly
  else
    match s.activeYear sport with
    | none => .ok s
    | some year =>
      .ok { s with stats := s.stats.map fun r =>
        if r.sport == sport && r.year == year then { r with stamp := none, scores := none } else r }

/-- Applies writes one after another in an open transaction: a failing write changes nothing
and the next one still runs. -/
def applyEach (s : Store) : List Write → List (Except StoreFault Nat) × Store
  | [] => ([], s)
  | w :: rest =>
    match s.apply w with
    | .ok (n, next) =>
      let (results, final) := applyEach next rest
      (.ok n :: results, final)
    | .error e =>
      let (results, final) := applyEach s rest
      (.error e :: results, final)

end Store

end DraftPool
