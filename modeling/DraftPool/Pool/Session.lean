import DraftPool.Pool.Stats
import DraftPool.Roster.Save

/-
A pool: a registry, providers, a store and a network, and the calls made on it.
-/

namespace DraftPool

/-- Why a pool operation failed. -/
inductive PoolError where
  | stats (cause : StatsError)
  | roster (cause : RosterError)
  | storage (cause : StorageError)
  | unknownCategory (id : Int)
  | invalidSearch (text : String)
  | search (category : String) (cause : FetchError)
  | score (cause : ScoreError)
  deriving DecidableEq, Repr

namespace PoolError

/-- The message of a pool fault. -/
def message : PoolError → String
  | .stats cause => cause.message
  | .roster cause => cause.message
  | .storage cause => cause.message
  | .unknownCategory id => "Unknown category " ++ toString id
  | .invalidSearch text => "Invalid search: " ++ text
  | .search category cause => "Searching " ++ category ++ ": " ++ cause.message
  | .score cause => cause.message

/-- The path of kinds of a pool fault. -/
def kindPath : PoolError → String
  | .stats cause => "Stats/" ++ cause.kindPath
  | .roster cause => "Roster/" ++ cause.kindPath
  | .storage cause => "Storage/" ++ cause.kindPath
  | .unknownCategory _ => "UnknownCategory"
  | .invalidSearch _ => "InvalidSearch"
  | .search _ cause => "Search/" ++ cause.kind
  | .score cause => cause.kindPath

end PoolError

/-- A pool and everything it keeps between operations. -/
structure Pool where
  registry : Registry
  sources : Sources
  store : Store
  net : Net
  clock : Instant
  slots : Sport → RefreshSlot

/-- Operations on a pool. -/
abbrev PoolM := StateM Pool

namespace Pool

/-- Runs a fetching computation on the pool's network. -/
def fetching {α : Type} (f : Fetch α) : PoolM α := fun p =>
  let (a, net) := f.run p.net
  (a, { p with net := net })

/-- Replaces the store when a step succeeds. -/
def commit {ε : Type} (result : Except ε Store) : PoolM (Except ε Unit) := do
  match result with
  | .ok store =>
    modify fun p => { p with store := store }
    return .ok ()
  | .error e => return .error e

/-- The pool with a sport's refresh slot replaced. -/
def withSlot (p : Pool) (sport : Sport) (slot : RefreshSlot) : Pool :=
  { p with slots := fun s => if s = sport then slot else p.slots s }

/-- Sets the clock. -/
def setClock (now : Instant) : PoolM Unit := modify fun p => { p with clock := now }

/-- The scores of a sport's active season, none without one. -/
def stats (sport : Sport) : PoolM (Except PoolError (Option EtlStats)) := do
  let p ← get
  let (served, slot) ← fetching
    (Scorekeeper.stats ⟨p.registry, p.sources, p.store, p.clock, p.slots sport⟩ sport)
  modify fun p => p.withSlot sport slot
  match served with
  | .error e => return .error (.stats e)
  | .ok (result, store) =>
    modify fun p => { p with store := store }
    return .ok result

/-- Drops a sport's cached scores, bumping its generation first. -/
def invalidate (sport : Sport) : PoolM (Except StoreFault Unit) := do
  modify fun p => p.withSlot sport (p.slots sport).bump
  let p ← get
  commit (p.store.clearStat sport)

/-- Drops a sport's cached scores after a roster save, trying once more if the first clear
fails; a second failure leaves the scores cached until the next reset. -/
def invalidateAfterSave (sport : Sport) : PoolM Unit := do
  match ← invalidate sport with
  | .ok () => return ()
  | .error _ =>
    let _ ← invalidate sport
    return ()

/-- Saves the years of a sport. -/
def saveYears (sport : Sport) (years : List Year) : PoolM (Except PoolError Unit) := do
  let p ← get
  return (← commit (p.store.saveYears sport years)).mapError PoolError.roster

/-- Saves the friends of a sport and drops its cached scores. -/
def saveFriends (sport : Sport) (friends : List Friend) : PoolM (Except PoolError Unit) := do
  let p ← get
  match ← commit (p.store.saveFriends sport friends) with
  | .error e => return .error (.roster e)
  | .ok () =>
    invalidateAfterSave sport
    return .ok ()

/-- Saves the players of a sport and drops its cached scores. -/
def savePlayers (sport : Sport) (players : List Player) : PoolM (Except PoolError Unit) := do
  let p ← get
  match ← commit (p.store.savePlayers p.registry sport players) with
  | .error e => return .error (.roster e)
  | .ok () =>
    invalidateAfterSave sport
    return .ok ()

/-- Empties the request cache and drops a sport's cached scores. -/
def clearCache (sport : Sport) : PoolM (Except PoolError Unit) := do
  modify fun p => { p with net := { p.net with cache := p.net.cache.clear } }
  return (← invalidate sport).mapError fun e => .storage (.fault e)

/-- The category with an id. -/
def category (p : Pool) (id : Int) : Except PoolError Category :=
  match p.registry.get? id with
  | some c => .ok c
  | none => .error (.unknownCategory id)

/-- Searches a category's provider, best matches first. -/
def search (categoryId year : Int) (query : String) (activeOnly : Bool) :
    PoolM (Except PoolError (List SearchResult)) := do
  let p ← get
  if (Text.trim query).isEmpty then return .error (.invalidSearch "query must not be empty")
  match p.category categoryId with
  | .error e => return .error e
  | .ok c =>
    if !p.sources.isWired c.kind then
      return .error (.invalidSearch (c.name ++ " cannot be searched"))
    match ← fetching (p.sources.search c.kind year query activeOnly) with
    | .error e => return .error (.search c.name e)
    | .ok found => return .ok (rankResults found query)

/-- Scores one category for a season over the sport's active roster, without the cache. -/
def scoreOne (sport : Sport) (categoryId year : Int) : PoolM (Except PoolError ScoreCategory) := do
  let p ← get
  match p.category categoryId with
  | .error e => return .error e
  | .ok c =>
    let players := (p.store.playersOf sport).filter (·.categoryId == categoryId)
    return (← fetching (scoreCategory p.sources c year (p.store.friendsOf sport) players)).mapError
      PoolError.score

/-- Stores a season's cached scores directly. -/
def putStat (row : StatRow) : PoolM (Except StorageError Unit) := do
  let p ← get
  return (← commit (p.store.putStat row)).mapError StorageError.fault

/-- Runs writes in one transaction, all or nothing. -/
def execute (writes : List Write) : PoolM (Except RosterError Unit) := do
  let p ← get
  commit (p.store.transact writes)

/-- Runs writes in an open transaction, each on its own, then keeps or drops them all. -/
def transaction (writes : List Write) (keep : Bool) : PoolM (List (Except StoreFault Nat)) := do
  let p ← get
  let (results, store) := p.store.applyEach writes
  if keep then modify fun p => { p with store := store }
  return results

end Pool

end DraftPool
