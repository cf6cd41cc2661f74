import DraftPool.Provider.Nfl

/-
Which provider scores and searches each kind of category.
-/

namespace DraftPool

/-- The providers' base URLs and the football app key. -/
structure ProviderConfig where
  mlbStatsUrl : String := "http://statsapi.mlb.com"
  mlbLookupUrl : String := "http://lookup-service-prod.mlb.com"
  nflUrl : String := "https://api.fantasy.nfl.com"
  nflAppKey : String := "test_key_1"
  deriving DecidableEq, Repr, Inhabited

/-- The providers of a pool and the kinds wired to them. -/
structure Sources where
  config : ProviderConfig
  wired : List CategoryKind := CategoryKind.all
  deriving Repr, Inhabited

namespace Sources

/-- The football client of the configuration; it visits maps as the document lists them. -/
def nfl (s : Sources) : Nfl.Client := ⟨s.config.nflUrl, s.config.nflAppKey, .document⟩

/-- Whether a kind has a scorer and a searcher. -/
def isWired (s : Sources) (kind : CategoryKind) : Bool := s.wired.contains kind

/-- Whether a kind is scored player by player. -/
def perPlayer : CategoryKind → Bool
  | .mlbHitter | .mlbPitcher => true
  | _ => false

/-- The bulk names and scores of a kind, by source id. -/
def bulkScores (s : Sources) (kind : CategoryKind) (year : Int) (ids : List Int) :
    Fetch (Except FetchError (List (Int × NameScore))) :=
  match kind with
  | .mlbTeam => Mlb.teamScores s.config.mlbStatsUrl year
  | .nflTeam => Nfl.teamScores s.nfl year
  | _ => Nfl.playerScores s.nfl kind year ids

/-- The names of players scored one by one. -/
def playerNames (s : Sources) (ids : List Int) : Fetch (Except FetchError (List (Int × String))) :=
  Mlb.names s.config.mlbStatsUrl ids

/-- The stat of one player scored one by one. -/
def playerStat (s : Sources) (kind : CategoryKind) (year id : Int) : Fetch (Except FetchError Int) :=
  Mlb.stat s.config.mlbStatsUrl kind year id

/-- Candidates of a kind for a query. -/
def search (s : Sources) (kind : CategoryKind) (year : Int) (query : String) (activeOnly : Bool) :
    Fetch (Except FetchError (List SearchResult)) :=
  match kind with
  | .mlbTeam => Mlb.searchTeams s.config.mlbStatsUrl year query
  | .mlbHitter | .mlbPitcher => Mlb.searchPlayers s.config.mlbLookupUrl kind query activeOnly
  | .nflTeam => Nfl.searchTeams s.nfl year query
  | .nflQb | .nflMisc => Nfl.searchPlayers s.nfl kind query

end Sources

end DraftPool
