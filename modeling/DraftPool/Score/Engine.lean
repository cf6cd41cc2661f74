import DraftPool.Provider.Sources

/-
Scoring the categories of a sport.
-/

namespace DraftPool

/-- Why a sport could not be scored. -/
inductive ScoreError where
  | unknownCategory (id : Int)
  | noSource (kind : CategoryKind)
  | fetch (category : String) (cause : FetchError)
  | incomplete (category : String) (expected received : Nat)
  | missing (cause : MissingField)
  deriving DecidableEq, Repr

namespace ScoreError

/-- The message of a scoring fault. -/
def message : ScoreError → String
  | .unknownCategory id => "Player references unknown category " ++ toString id
  | .noSource kind => "No score source for " ++ kind.label
  | .fetch category cause => "Fetching " ++ category ++ " scores: " ++ cause.message
  | .incomplete category expected received =>
    "Expected " ++ toString expected ++ " name and stat results for " ++ category ++ ", got " ++
      toString received
  | .missing cause => cause.message

/-- The path of kinds of a scoring fault. -/
def kindPath : ScoreError → String
  | .unknownCategory _ => "UnknownCategory"
  | .noSource _ => "NoSource"
  | .fetch _ cause => "Fetch/" ++ cause.kind
  | .incomplete .. => "Incomplete"
  | .missing (.name ..) => "Missing/MissingName"
  | .missing (.stat ..) => "Missing/MissingStat"

end ScoreError

/-- The distinct source ids of players, ascending. -/
def sourceIds (players : List Player) : List Int :=
  (players.map (·.sourceId)).eraseDups.mergeSort fun a b => decide (a ≤ b)

/-- A lookup of a category scored player by player: the names of its source ids, or the stat
of one. -/
inductive LookupRequest where
  | names (ids : List Int)
  | stat (id : Int)
  deriving DecidableEq, Repr

/-- The lookups spawned for a category's source ids: one for every name and one stat lookup per
id. -/
def lookupRequests (ids : List Int) : List LookupRequest :=
  .names ids :: ids.map .stat

/-- What a lookup gives: the named source ids, or the stat of one id. -/
inductive Lookup where
  | names (entries : List (Int × String))
  | stat (id stat : Int)
  deriving DecidableEq, Repr

namespace Lookup

/-- The source ids a lookup brings results for: one result per distinct id named, or the one
stat. -/
def ids : Lookup → List Int
  | .names entries => (entries.map (·.1)).eraseDups
  | .stat id _ => [id]

/-- The names a lookup brings, by source id. -/
def nameEntries : Lookup → List (Int × String)
  | .names entries => entries
  | .stat .. => []

/-- The stat a lookup brings, by source id. -/
def statEntries : Lookup → List (Int × Int)
  | .names _ => []
  | .stat id value => [(id, value)]

end Lookup

/-- The order in which concurrent tasks complete. Each set of tasks spawned together is given
in the order the tasks were spawned, and the schedule lists them in the order they complete. -/
structure Schedule where
  /-- The categories of a sport, in the order their scoring completes. -/
  categories : List Category → List Category
  /-- The lookups of a category scored player by player, in the order they complete. -/
  lookups : Category → List LookupRequest → List LookupRequest

/-- Every task completes in the order it was spawned. -/
def Schedule.spawned : Schedule := ⟨id, fun _ => id⟩

/-- Collects the results of tasks in the order they complete. The first failure aborts the
tasks still running and is the result. -/
def joinOrAbort {α : Type} : List (Fetch (Except ScoreError α)) → Fetch (Except ScoreError (List α))
  | [] => return .ok []
  | task :: rest => do
    match ← task with
    | .error e => return .error e
    | .ok a =>
      match ← joinOrAbort rest with
      | .error e => return .error e
      | .ok as => return .ok (a :: as)

/-- Runs one lookup of a category scored player by player. -/
def lookup (sources : Sources) (category : Category) (year : Int) :
    LookupRequest → Fetch (Except ScoreError Lookup)
  | .names ids => do
    match ← sources.playerNames ids with
    | .error e => return .error (.fetch category.name e)
    | .ok names => return .ok (.names names)
  | .stat id => do
    match ← sources.playerStat category.kind year id with
    | .error e => return .error (.fetch category.name e)
    | .ok stat => return .ok (.stat id stat)

/-- The names and scores of a category's players from its lookups, in whatever order they
completed: two results are expected per source id. -/
def nameScoresOfLookups (category : Category) (players : List Player) (ids : List Int)
    (lookups : List Lookup) : Except ScoreError (List (Int × NameScore)) :=
  let received := (lookups.flatMap Lookup.ids).length
  if received ≠ 2 * ids.length then .error (.incomplete category.name (2 * ids.length) received)
  else (nameScoresOfFields players (lookups.flatMap Lookup.nameEntries)
    (lookups.flatMap Lookup.statEntries)).mapError ScoreError.missing

/-- The names and scores of a category's players, by player id. -/
def categoryNameScores (schedule : Schedule) (sources : Sources) (category : Category)
    (year : Int) (players : List Player) (ids : List Int) :
    Fetch (Except ScoreError (List (Int × NameScore))) := do
  if Sources.perPlayer category.kind then
    let tasks := (schedule.lookups category (lookupRequests ids)).map (lookup sources category year)
    match ← joinOrAbort tasks with
    | .error e => return .error e
    | .ok lookups => return nameScoresOfLookups category players ids lookups
  else
    match ← sources.bulkScores category.kind year ids with
    | .error e => return .error (.fetch category.name e)
    | .ok scores => return .ok (nameScoresOfSources players scores)

/-- The board of one category, its lookups completing as the schedule says. -/
def scoreCategoryBy (schedule : Schedule) (sources : Sources) (category : Category) (year : Int)
    (friends : List Friend) (players : List Player) : Fetch (Except ScoreError ScoreCategory) := do
  let ids := sourceIds players
  if ids.isEmpty then return .ok (buildScoreCategory category friends players [])
  if !sources.isWired category.kind then return .error (.noSource category.kind)
  match ← categoryNameScores schedule sources category year players ids with
  | .error e => return .error e
  | .ok nameScores => return .ok (buildScoreCategory category friends players nameScores)

/-- The board of one category, its lookups completing in the order they were spawned. -/
def scoreCategory (sources : Sources) (category : Category) (year : Int) (friends : List Friend)
    (players : List Player) : Fetch (Except ScoreError ScoreCategory) :=
  scoreCategoryBy .spawned sources category year friends players

/-- The boards of a sport's categories, ordered by display order, the tasks completing as the
schedule says. A player of a category not given fails the scoring before any request. -/
def scoreCategoriesBy (schedule : Schedule) (sources : Sources) (categories : List Category)
    (year : Int) (friends : List Friend) (players : List Player) :
    Fetch (Except ScoreError (List ScoreCategory)) := do
  match players.find? fun p => !(categories.any (·.id == p.categoryId)) with
  | some p => return .error (.unknownCategory p.categoryId)
  | none =>
    let task (c : Category) :=
      scoreCategoryBy schedule sources c year friends (players.filter (·.categoryId == c.id))
    match ← joinOrAbort ((schedule.categories categories).map task) with
    | .error e => return .error e
    | .ok boards => return .ok (boards.mergeSort fun a b => decide (a.displayOrder ≤ b.displayOrder))

/-- The boards of a sport's categories, ordered by display order, every task completing in the
order it was spawned. -/
def scoreCategories (sources : Sources) (categories : List Category) (year : Int)
    (friends : List Friend) (players : List Player) : Fetch (Except ScoreError (List ScoreCategory)) :=
  scoreCategoriesBy .spawned sources categories year friends players

end DraftPool
