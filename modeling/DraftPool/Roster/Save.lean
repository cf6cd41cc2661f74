import DraftPool.Store.Write
import DraftPool.Roster.Diff
import DraftPool.Category

/-
Saving a roster: checks, a plan of writes, and one transaction.
-/

namespace DraftPool

/-- Why a roster could not be saved. -/
inductive RosterError where
  | validation (text : String)
  | write (operation : String) (cause : StoreFault)
  | consistency (operation : String) (affected : Nat)
  deriving DecidableEq, Repr

namespace RosterError

/-- The message of a roster fault. -/
def message : RosterError → String
  | .validation text => "Invalid roster: " ++ text
  | .write operation cause => "Saving: " ++ operation ++ ": " ++ cause.message
  | .consistency operation affected =>
    "Saving: " ++ operation ++ ": expected 1 row affected, got " ++ toString affected

/-- The path of kinds of a roster fault. -/
def kindPath : RosterError → String
  | .validation _ => "Validation"
  | .write .. => "Write/Sqlite"
  | .consistency .. => "Consistency"

end RosterError

/-- Applies writes in one transaction: all of them, each matching exactly one row, or none. -/
def Store.transact (s : Store) (writes : List Write) : Except RosterError Store :=
  writes.foldlM (fun working w =>
    match working.apply w with
    | .ok (1, next) => .ok next
    | .ok (n, _) => .error (.consistency w.name n)
    | .error e => .error (.write w.name e)) s

/-- Saves the friends of a sport's active year. -/
def Store.saveFriends (s : Store) (sport : Sport) (desired : List Friend) :
    Except RosterError Store :=
  let plan := diff (s.friendsOf sport) desired
  s.transact (plan.toDelete.map (fun f => .delFriend f.id) ++
    plan.toInsert.map (fun f => .addFriend sport f.displayOrder f.name) ++
    plan.toUpdate.map (fun f => .setFriend f.id f.displayOrder f.name))

/-- The first player whose category is not one of the sport's. -/
def strayPlayer (registry : Registry) (sport : Sport) (players : List Player) : Option Player :=
  players.find? fun p =>
    match registry.get? p.categoryId with
    | some c => c.sport != sport
    | none => true

/-- Saves the players of a sport's active year; each must be in one of the sport's categories. -/
def Store.savePlayers (s : Store) (registry : Registry) (sport : Sport) (desired : List Player) :
    Except RosterError Store :=
  match strayPlayer registry sport desired with
  | some p =>
    .error (.validation ("player " ++ toString p.id ++ " has unknown " ++ sport.slug ++
      " category " ++ toString p.categoryId))
  | none =>
    let plan := diff (s.playersOf sport) desired
    s.transact (plan.toDelete.map (fun p => .delPlayer p.id) ++
      plan.toInsert.map (fun p => .addPlayer sport p.categoryId p.sourceId p.friendId p.displayOrder) ++
      plan.toUpdate.map (fun p => .setPlayer p.id p.displayOrder))

/-- The first value, reading left to right, that an earlier value already had. -/
def repeatedValue (seen : List Int) : List Int → Option Int
  | [] => none
  | v :: rest => if seen.contains v then some v else repeatedValue (v :: seen) rest

/-- Saves the years of a sport and which one is active; an empty list leaves them alone. -/
def Store.saveYears (s : Store) (sport : Sport) (desired : List Year) : Except RosterError Store :=
  if desired.isEmpty then .ok s
  else if (desired.filter (·.active)).length > 1 then
    .error (.validation ("multiple active years for " ++ sport.slug))
  else
    match repeatedValue [] (desired.map (·.value)) with
    | some value => .error (.validation ("duplicate year " ++ toString value ++ " for " ++ sport.slug))
    | none =>
      let desiredActive := (desired.find? (·.active)).map (·.value)
      let currentActive := s.activeYear sport
      let plan := diff (s.yearsOf sport) desired
      if plan.isEmpty && currentActive == desiredActive then .ok s
      else
        s.transact ((if currentActive.isSome then [.clearActive sport] else []) ++
          plan.toDelete.map (fun y => .delYear sport y.value) ++
          plan.toInsert.map (fun y => .addYear sport y.value) ++
          (match desiredActive with
            | some year => [.setActive sport year]
            | none => []))

end DraftPool
