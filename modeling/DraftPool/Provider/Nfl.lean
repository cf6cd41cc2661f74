import DraftPool.Provider.Mlb
import DraftPool.Json.Writer
import DraftPool.Number.Wrapping

/-
The football provider: the season schedule and the players' season stats.
-/

namespace DraftPool.Nfl

open Json

/-- The order a hash map of the provider's answers is visited in: by the rank of the keys. -/
structure MapOrder where
  rank : String → Nat

/-- A map's entries, each key once, in the order they are visited. -/
def MapOrder.arrange {α : Type} (o : MapOrder) (entries : List (String × α)) :
    List (String × α) :=
  entries.mergeSort fun a b => decide (o.rank a.1 ≤ o.rank b.1)

/-- Visiting a map as the document lists it. -/
def MapOrder.document : MapOrder := ⟨fun _ => 0⟩

/-- The provider's base URL and app key, and the order its maps are visited in. -/
structure Client where
  base : String
  appKey : String
  order : MapOrder

/-- The URL of an endpoint with its parameters after the app key. -/
def Client.url (c : Client) (path : String) (params : List (String × String)) :
    Except FetchError String :=
  buildUrl (Mlb.trimBase c.base ++ "/v2/" ++ path) (("appKey", c.appKey) :: params)

/-- Reads a source id given as text. -/
def readSourceId (raw : String) : Except FetchError Int :=
  match Text.readInt64 (Text.trim raw) with
  | .ok id => .ok id
  | .error _ => .error (.payload ("invalid NFL source id " ++ Text.quote raw))

/-- The wins of a `W-L-T` record: the digits before the first dash. -/
def recordWins (record : String) : Except FetchError Int :=
  let wins := record.toList.takeWhile (· ≠ '-')
  let fault : FetchError := .payload ("invalid NFL record " ++ Text.quote record)
  if wins.isEmpty || !wins.all Char.isDigit then .error fault
  else
    match Text.readInt64 (String.ofList wins) with
    | .ok n => .ok n
    | .error _ => .error fault

/-! Teams. -/

/-- A team of the schedule. -/
structure Team where
  fullName : String
  record : String
  deriving DecidableEq, Repr

/-- Reads the schedule's teams by key: the full name is required, the record defaults to empty. -/
def readSchedule (j : Json) : Option (List (String × Team)) := do
  let fields ← recordFields ["nflTeams"] j
  let [teams] := fields | none
  let teams ← withDefault [] (asMap fun t => do
    let fields ← recordFields ["fullName", "record"] t
    let [name, record] := fields | none
    return ⟨← required asString name, ← withDefault "" asString record⟩) teams
  return Json.lastOfEachKeyBy teams

/-- The schedule's teams with their source ids, in the order visited; every key must read as a
source id. -/
def keyedTeams (teams : List (String × Team)) : Except FetchError (List (Int × Team)) :=
  teams.mapM fun (key, team) => (readSourceId key).map fun id => (id, team)

/-- Each team's name and wins, by source id, in the order visited; every record must be
readable. -/
def teamWins (teams : List (Int × Team)) : Except FetchError (List (Int × NameScore)) :=
  teams.mapM fun (id, team) => (recordWins team.record).map fun wins => (id, ⟨team.fullName, wins⟩)

/-- Every team of a season with its source id. -/
def teams (c : Client) (year : Int) : Fetch (Except FetchError (List (Int × Team))) := do
  match c.url "nfl/schedule" [("season", toString year)] with
  | .error e => return .error e
  | .ok url =>
    match ← Mlb.fetchJson url readSchedule with
    | .error e => return .error e
    | .ok teams => return keyedTeams (c.order.arrange teams)

/-- Each team's name and wins, by source id. -/
def teamScores (c : Client) (year : Int) : Fetch (Except FetchError (List (Int × NameScore))) := do
  match ← teams c year with
  | .error e => return .error e
  | .ok teams => return teamWins teams

/-- The teams whose name contains the query, by source id. -/
def searchTeams (c : Client) (year : Int) (query : String) :
    Fetch (Except FetchError (List SearchResult)) := do
  return (← teams c year).map fun teams =>
    let found := (teams.filter fun (_, t) => nameMatches t.fullName query).map fun (id, t) =>
      (⟨t.fullName, t.record ++ " Record", id⟩ : SearchResult)
    found.mergeSort fun a b => decide (a.sourceId ≤ b.sourceId)

/-! Players. -/

/-- A player of a game. -/
structure GamePlayer where
  playerId : String
  name : String
  position : String
  team : String
  stats : List (String × Json)
  deriving Repr

/-- Reads a player: id and name are required, the others default to empty. -/
def readPlayer (j : Json) : Option GamePlayer := do
  let fields ← recordFields ["playerId", "name", "position", "nflTeamAbbr", "stats"] j
  let [id, name, position, team, stats] := fields | none
  return ⟨← required asString id, ← required asString name, ← withDefault "" asString position,
    ← withDefault "" asString team, ← withDefault [] (asMap sound?) stats⟩

/-- Reads the players of the first game visited. -/
def readGames (order : MapOrder) (j : Json) : Option (List GamePlayer) := do
  let fields ← recordFields ["games"] j
  let [games] := fields | none
  let games ← withDefault [] (asMap fun g => do
    let fields ← recordFields ["players"] g
    let [players] := fields | none
    withDefault [] (asMap readPlayer) players) games
  match order.arrange (Json.lastOfEachKeyBy games) with
  | (_, players) :: _ => return (order.arrange (Json.lastOfEachKeyBy players)).map (·.2)
  | [] => return []

/-- A stat value: a string holding an integer, or an integer number. -/
def statValue : Json → Except FetchError Int
  | .string s =>
    match Text.readInt64 (Text.trim s) with
    | .ok n => .ok n
    | .error _ => .error (.payload ("invalid NFL stat " ++ Text.quote s))
  | .number (.int n) =>
    if Text.int64Min ≤ n ∧ n ≤ Text.int64Max then .ok n
    else .error (.payload ("invalid NFL stat " ++ toString n))
  | other => .error (.payload ("invalid NFL stat " ++ Json.render (Json.normalize other)))

/-- The player's stats of a season, or of the latest season listed, by stat number. -/
def GamePlayer.seasonStats (p : GamePlayer) (year : Int) : Except FetchError (List (String × Int)) :=
  match (mapGet? "season" p.stats).map Json.normalize with
  | some (.object seasons) =>
    let chosen := (mapGet? (toString year) seasons).or (seasons.getLast?.map (·.2))
    match chosen with
    | some (.object season) => season.mapM fun (k, v) => (statValue v).map fun n => (k, n)
    | _ => .error (.payload ("empty season stats for player " ++ p.playerId))
  | _ => .error (.payload ("no season stats for player " ++ p.playerId))

/-- The stat numbers that count for a kind. -/
def touchdownKeys : CategoryKind → List String
  | .nflQb => ["6", "15"]
  | .nflMisc => ["15", "22", "28"]
  | _ => []

/-- The touchdowns of a player for a kind: the stats found, summed left to right in 64 bits. -/
def touchdowns (kind : CategoryKind) (stats : List (String × Int)) : Int :=
  sumWrapping ((touchdownKeys kind).filterMap fun k => mapGet? k stats)

/-- The player services parameter: one details request per id. -/
def services (year : Int) (ids : List Int) : String :=
  Json.render (.array (ids.map fun id =>
    .object [("playerDetails", .string ("season=" ++ toString year ++ "&playerId=" ++ toString id))]))

/-- What a game player adds to the scores: its id is read first, then a player not wanted adds
nothing and a wanted one its name and touchdowns. -/
def playerLine (kind : CategoryKind) (year : Int) (ids : List Int) (p : GamePlayer) :
    Except FetchError (Option (Int × NameScore)) := do
  let id ← readSourceId p.playerId
  if !ids.contains id then return none
  let stats ← p.seasonStats year
  return some (id, ⟨p.name, touchdowns kind stats⟩)

/-- The wanted players' names and touchdowns, by source id, from a game's players in the order
visited; the first player that fails ends the visit. -/
def gameScores (kind : CategoryKind) (year : Int) (ids : List Int) (players : List GamePlayer) :
    Except FetchError (List (Int × NameScore)) :=
  (players.mapM (playerLine kind year ids)).map List.reduceOption

/-- The wanted players' names and touchdowns, by source id. -/
def playerScores (c : Client) (kind : CategoryKind) (year : Int) (ids : List Int) :
    Fetch (Except FetchError (List (Int × NameScore))) := do
  match c.url "batchservices" [("services", services year ids)] with
  | .error e => return .error e
  | .ok url =>
    match ← Mlb.fetchJson url (readGames c.order) with
    | .error e => return .error e
    | .ok players => return gameScores kind year ids players

/-- Whether a player's position belongs to a kind. -/
def GamePlayer.matches (p : GamePlayer) (kind : CategoryKind) : Bool :=
  if p.position = "QB" then kind = .nflQb
  else if p.position = "RB" || p.position = "WR" || p.position = "TE" then kind = .nflMisc
  else false

/-- The players of a kind whose name contains the query. -/
def searchPlayers (c : Client) (kind : CategoryKind) (query : String) :
    Fetch (Except FetchError (List SearchResult)) := do
  match c.url "players/autocomplete" [("positionIds", "1,2,3,4"), ("query", Text.trim query)] with
  | .error e => return .error e
  | .ok url =>
    match ← Mlb.fetchJson url (readGames c.order) with
    | .error e => return .error e
    | .ok players =>
      return (players.filter fun p => p.matches kind && nameMatches p.name query).mapM fun p =>
        (readSourceId p.playerId).map fun id =>
          ⟨p.name, "Team: " ++ p.team ++ ", Position: " ++ p.position, id⟩

end DraftPool.Nfl
