import DraftPool.Score.Engine
import DraftPool.Score.Codec
import DraftPool.Store.Write
import DraftPool.Time.Reset

/-
Serving a sport's scores from the daily cache.
-/

namespace DraftPool

/-- Why the store could not give what was asked. -/
inductive StorageError where
  | fault (cause : StoreFault)
  | blob
  | multipleActiveYears (sport : Sport)
  deriving DecidableEq, Repr

namespace StorageError

/-- The message of a storage fault; an unreadable stored value says no more than that. -/
def message : StorageError → String
  | .fault cause => cause.message
  | .blob => "Invalid stored value"
  | .multipleActiveYears sport => "Multiple active years for " ++ sport.slug

/-- The path of kinds of a storage fault. -/
def kindPath : StorageError → String
  | .fault _ => "Sqlite"
  | .blob => "Blob"
  | .multipleActiveYears _ => "MultipleActiveYears"

end StorageError

/-- A sport's seasons, oldest first. A sport with two active seasons is refused. -/
def Store.getYears (s : Store) (sport : Sport) : Except StorageError (List Year) :=
  let years := s.yearsOf sport
  if (years.filter (·.active)).length > 1 then .error (.multipleActiveYears sport) else .ok years

/-- Why a sport's scores could not be served. -/
inductive StatsError where
  | storage (cause : StorageError)
  | score (cause : ScoreError)
  deriving DecidableEq, Repr

namespace StatsError

/-- The message of a stats fault. -/
def message : StatsError → String
  | .storage cause => "Storage error: " ++ cause.message
  | .score cause => "Scoring error: " ++ cause.message

/-- The path of kinds of a stats fault. -/
def kindPath : StatsError → String
  | .storage cause => "Storage/" ++ cause.kindPath
  | .score cause => "Score/" ++ cause.kindPath

end StatsError

/-- The scores of a sport's active season and when they were computed. -/
structure EtlStats where
  sport : Sport
  year : Int
  etlTime : Instant
  etlRefreshTime : Instant
  scoreCategories : List ScoreCategory
  deriving DecidableEq, Repr

/-- The document of a sport's scores. -/
def EtlStats.toJson (s : EtlStats) : Json :=
  .object [("sport", .string s.sport.slug), ("year", .int s.year),
    ("etl_time", .string s.etlTime.render), ("etl_refresh_time", .string s.etlRefreshTime.render),
    ("score_categories", .array (s.scoreCategories.map (·.toJson)))]

/-- Serves the scores held in a fresh row. -/
def EtlStats.ofRow (row : StatRow) (boundary : Instant) : Except StatsError EtlStats :=
  match row.stamp, row.scores.bind decodeBoards with
  | some stamp, some boards => .ok ⟨row.sport, row.year, stamp, boundary, boards⟩
  | _, _ => .error (.storage .blob)

/-- The refresh bookkeeping of a sport. -/
structure RefreshSlot where
  finished : Nat := 0
  failure : Option (Nat × StatsError) := none
  generation : Nat := 0
  deriving DecidableEq, Repr

namespace RefreshSlot

/-- The error of an attempt that finished after the first `seen` ones, if it failed. -/
def failedSince (slot : RefreshSlot) (seen : Nat) : Option StatsError :=
  match slot.failure with
  | some (attempt, e) => if seen < attempt then some e else none
  | none => none

/-- Records the outcome of an attempt, numbered after the finished ones: a failure replaces the
recorded error and a success clears it. -/
def finish {α : Type} (slot : RefreshSlot) (outcome : Except StatsError α) : RefreshSlot :=
  let attempt := slot.finished + 1
  match outcome with
  | .ok _ => { slot with finished := attempt, failure := none }
  | .error e => { slot with finished := attempt, failure := some (attempt, e) }

/-- The slot after an invalidation. -/
def bump (slot : RefreshSlot) : RefreshSlot := { slot with generation := slot.generation + 1 }

/-- Stores a row unless an invalidation came after `generation` was read, telling whether it
stored. -/
def persistIfCurrent (slot : RefreshSlot) (store : Store) (generation : Nat) (row : StatRow) :
    Except StoreFault (Bool × Store) :=
  if slot.generation ≠ generation then .ok (false, store)
  else (store.putStat row).map fun s => (true, s)

end RefreshSlot

/-- What scores a pool: its categories, providers and roster store, the clock, and the refresh
slot of the sport being served. -/
structure Scorekeeper where
  registry : Registry
  sources : Sources
  store : Store
  clock : Instant
  slot : RefreshSlot

/-- Scores a sport's active season again and caches the boards, stamped with the clock. -/
def Scorekeeper.refresh (k : Scorekeeper) (sport : Sport) (year : Int) (boundary : Instant) :
    Fetch (Except StatsError (EtlStats × Store)) := do
  let generation := k.slot.generation
  let scored ← scoreCategories k.sources (k.registry.forSport sport) year (k.store.friendsOf sport)
    (k.store.playersOf sport)
  match scored with
  | .error e => return .error (.score e)
  | .ok boards =>
    let row : StatRow := ⟨sport, year, some k.clock, some (encodeBoards boards)⟩
    match k.slot.persistIfCurrent k.store generation row with
    | .error e => return .error (.storage (.fault e))
    | .ok (_, store) => return .ok (⟨sport, year, k.clock, boundary, boards⟩, store)

/-- The scores of a sport's active season, none without one, with the store and the sport's
refresh slot afterwards. -/
def Scorekeeper.stats (k : Scorekeeper) (sport : Sport) :
    Fetch (Except StatsError (Option EtlStats × Store) × RefreshSlot) := do
  match k.store.statOf sport with
  | none => return (.ok (none, k.store), k.slot)
  | some row =>
    let boundary := resetBoundary k.clock
    match Freshness.of row.stamp row.scores boundary with
    | .fresh => return ((EtlStats.ofRow row boundary).map fun s => (some s, k.store), k.slot)
    | .stale =>
      let seen := k.slot.finished
      match k.slot.failedSince seen with
      | some e => return (.error e, k.slot)
      | none =>
        let outcome ← k.refresh sport row.year boundary
        return (outcome.map fun (s, store) => (some s, store), k.slot.finish outcome)

end DraftPool
