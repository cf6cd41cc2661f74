import DraftPool.Fetch.Net
import DraftPool.Json.Reader
import DraftPool.Json.Decode
import DraftPool.Score.Total
import DraftPool.Search.Rank
import DraftPool.Text.Quoted

/-
The baseball providers: standings, player names and player stats.
-/

namespace DraftPool.Mlb

open Json

/-- A body read as a document and then as a typed value; either failure is unreadable JSON.
Members that are not fields are only skipped, so an unreadable part fails only where it is read. -/
def readBody {α : Type} (url : String) (decode : Json → Option α) (body : String) :
    Except FetchError α :=
  match Json.readSkimming body with
  | .ok doc =>
    match decode doc with
    | some value => .ok value
    | none => .error (.json url)
  | .error _ => .error (.json url)

/-- Fetches a URL and reads its body. -/
def fetchJson {α : Type} (url : String) (decode : Json → Option α) : Fetch (Except FetchError α) := do
  match ← fetchBody url with
  | .ok body => return readBody url decode body
  | .error e => return .error e

/-- A base URL without its trailing slashes. -/
def trimBase (base : String) : String :=
  String.ofList (base.toList.reverse.dropWhile (· = '/')).reverse

/-! Teams. -/

/-- A team's line of the standings. -/
structure TeamRecord where
  id : Int
  name : String
  wins : Int
  losses : Int
  deriving DecidableEq, Repr

/-- Reads a team's line: its team, wins and losses are required. -/
def readTeamRecord (j : Json) : Option TeamRecord := do
  let fields ← recordFields ["team", "wins", "losses"] j
  let [team, wins, losses] := fields | none
  let teamFields ← required (recordFields ["id", "name"]) team
  let [id, name] := teamFields | none
  return ⟨← required asInt64 id, ← required asString name, ← required asInt64 wins,
    ← required asInt64 losses⟩

/-- Reads the standings: divisions of team lines, both lists empty when absent. -/
def readStandings (j : Json) : Option (List TeamRecord) := do
  let fields ← recordFields ["records"] j
  let [records] := fields | none
  let divisions ← withDefault [] (asList fun d => do
    let fields ← recordFields ["teamRecords"] d
    let [lines] := fields | none
    withDefault [] (asList readTeamRecord) lines) records
  return divisions.flatten

/-- The standings URL of a season. -/
def standingsUrl (base : String) (year : Int) : Except FetchError String :=
  buildUrl (trimBase base ++ "/api/v1/standings/regularSeason")
    [("leagueId", "103,104"), ("season", toString year)]

/-- Every team's line of a season. -/
def teamRecords (base : String) (year : Int) : Fetch (Except FetchError (List TeamRecord)) :=
  match standingsUrl base year with
  | .ok url => fetchJson url readStandings
  | .error e => return .error e

/-- Each team's name and wins, by source id. -/
def teamScores (base : String) (year : Int) : Fetch (Except FetchError (List (Int × NameScore))) := do
  return (← teamRecords base year).map fun records =>
    records.map fun r => (r.id, ⟨r.name, r.wins⟩)

/-- The teams whose name contains the query. -/
def searchTeams (base : String) (year : Int) (query : String) :
    Fetch (Except FetchError (List SearchResult)) := do
  return (← teamRecords base year).map fun records =>
    (records.filter fun r => nameMatches r.name query).map fun r =>
      ⟨r.name, toString r.wins ++ " - " ++ toString r.losses ++ " Record", r.id⟩

/-! Players. -/

/-- The URL of the names of players. -/
def namesUrl (base : String) (ids : List Int) : Except FetchError String :=
  buildUrl (trimBase base ++ "/api/v1/people")
    [("personIds", ",".intercalate (ids.map toString)), ("fields", "people,id,fullName")]

/-- The URL of a player's season stats. -/
def statUrl (base : String) (year : Int) (id : Int) : Except FetchError String :=
  buildUrl (trimBase base ++ "/api/v1/people/" ++ toString id ++ "/stats")
    [("season", toString year), ("stats", "season"),
      ("fields", "stats,group,displayName,splits,stat,homeRuns,wins")]

/-- Reads the people of a names response, as source id and full name. -/
def readPeople (j : Json) : Option (List (Int × String)) := do
  let fields ← recordFields ["people"] j
  let [people] := fields | none
  withDefault [] (asList fun p => do
    let fields ← recordFields ["id", "fullName"] p
    let [id, name] := fields | none
    return (← required asInt64 id, ← required asString name)) people

/-- The names of the wanted players; every wanted player must be named. -/
def names (base : String) (ids : List Int) : Fetch (Except FetchError (List (Int × String))) := do
  match namesUrl base ids with
  | .error e => return .error e
  | .ok url =>
    match ← fetchJson url readPeople with
    | .error e => return .error e
    | .ok people =>
      let wanted := ids.eraseDups
      let found := people.filter fun (id, _) => wanted.contains id
      let distinct := (found.map (·.1)).eraseDups
      if distinct.length ≠ wanted.length then
        return .error (.payload ("expected " ++ toString wanted.length ++ " MLB player names, got " ++
          toString distinct.length))
      else return .ok found

/-- A stat group: its display name and each split's home runs and wins. -/
structure StatGroup where
  displayName : String
  splits : List (Int × Int)
  deriving DecidableEq, Repr

/-- Reads the stat groups of a stats response. -/
def readStatGroups (j : Json) : Option (List StatGroup) := do
  let fields ← recordFields ["stats"] j
  let [stats] := fields | none
  withDefault [] (asList fun g => do
    let fields ← recordFields ["group", "splits"] g
    let [group, splits] := fields | none
    let groupFields ← required (recordFields ["displayName"]) group
    let [displayName] := groupFields | none
    let splits ← withDefault [] (asList fun s => do
      let fields ← recordFields ["stat"] s
      let [stat] := fields | none
      let statFields ← required (recordFields ["homeRuns", "wins"]) stat
      let [homeRuns, wins] := statFields | none
      return (← withDefault 0 asInt64 homeRuns, ← withDefault 0 asInt64 wins)) splits
    return ⟨← required asString displayName, splits⟩) stats

/-- The stat of the last split of the first group with the name, zero without one. -/
def lastStat (groups : List StatGroup) (group : String) (pick : Int × Int → Int) : Int :=
  match groups.find? (·.displayName == group) with
  | some g => match g.splits.getLast? with
    | some split => pick split
    | none => 0
  | none => 0

/-- A player's season stat for a category kind: home runs of hitters, wins of pitchers. -/
def stat (base : String) (kind : CategoryKind) (year : Int) (id : Int) :
    Fetch (Except FetchError Int) := do
  match statUrl base year id with
  | .error e => return .error e
  | .ok url =>
    match ← fetchJson url readStatGroups with
    | .error e => return .error e
    | .ok groups =>
      match kind with
      | .mlbHitter => return .ok (lastStat groups "hitting" (·.1))
      | .mlbPitcher => return .ok (lastStat groups "pitching" (·.2))
      | other => return .error (.payload ("no MLB player stat for category " ++ other.label))

/-- A row of the player search. -/
structure PlayerBio where
  position : String
  birthCountry : String
  birthDate : String
  teamAbbrev : String
  name : String
  playerId : String
  deriving DecidableEq, Repr

/-- Reads a row of the player search: name and id are required, the rest default to empty. -/
def readBio (j : Json) : Option PlayerBio := do
  let fields ← recordFields ["position", "birth_country", "birth_date", "team_abbrev",
    "name_display_first_last", "player_id"] j
  let [position, country, date, team, name, id] := fields | none
  return ⟨← withDefault "" asString position, ← withDefault "" asString country,
    ← withDefault "" asString date, ← withDefault "" asString team, ← required asString name,
    ← required asString id⟩

/-- Reads the rows of a search response: none, one object, or an array of them. The rows are
read whole, so an unreadable part anywhere in them fails. -/
def readSearch (j : Json) : Option (List PlayerBio) := do
  let fields ← recordFields ["search_player_all"] j
  let [all] := fields | none
  let allFields ← required (recordFields ["queryResults"]) all
  let [results] := allFields | none
  let resultFields ← required (recordFields ["row"]) results
  let [row] := resultFields | none
  let rows ← optional (fun r => (sound? r).bind fun r =>
    (asList readBio r).orElse fun _ => (readBio r).map ([·])) row
  return rows.getD []

/-- The search URL of a query. -/
def searchUrl (lookup : String) (query : String) (activeOnly : Bool) : Except FetchError String :=
  buildUrl (trimBase lookup ++ "/json/named.search_player_all.bam")
    ([("name_part", "'" ++ Text.trim query ++ "%'"),
      ("active_sw", if activeOnly then "'Y'" else "'N'"), ("sport_code", "'mlb'")] ++
      (["player_id", "name_display_first_last", "position", "team_abbrev", "birth_country",
        "birth_date"].map fun col => ("search_player_all.col_in", col)))

/-- Whether a row belongs to a category kind. -/
def PlayerBio.matches (bio : PlayerBio) (kind : CategoryKind) : Bool :=
  if bio.position = "P" then kind = .mlbPitcher else kind = .mlbHitter

/-- The first ten bytes of the birth date, or `?` when they do not end a character. -/
def PlayerBio.birthDay (bio : PlayerBio) : String :=
  let rec take (n : Nat) : List Char → Option (List Char)
    | [] => if n = 0 then some [] else none
    | c :: rest =>
      if n = 0 then some []
      else
        let width := c.utf8Size
        if width ≤ n then (take (n - width) rest).map (c :: ·) else none
  match take 10 bio.birthDate.toList with
  | some cs => String.ofList cs
  | none => "?"

/-- A search result of a row; its player id must read as a source id. -/
def PlayerBio.result (bio : PlayerBio) : Except FetchError SearchResult :=
  match Text.readInt64 (Text.trim bio.playerId) with
  | .ok id =>
    .ok ⟨bio.name, "team:" ++ bio.teamAbbrev ++ ", position:" ++ bio.position ++ ", born:" ++
      bio.birthCountry ++ "," ++ bio.birthDay, id⟩
  | .error _ => .error (.payload ("invalid MLB player id " ++ Text.quote bio.playerId))

/-- The players of a kind found for a query. -/
def searchPlayers (lookup : String) (kind : CategoryKind) (query : String) (activeOnly : Bool) :
    Fetch (Except FetchError (List SearchResult)) := do
  match searchUrl lookup query activeOnly with
  | .error e => return .error e
  | .ok url =>
    match ← fetchJson url readSearch with
    | .error e => return .error e
    | .ok bios => return (bios.filter (·.matches kind)).mapM PlayerBio.result

end DraftPool.Mlb
