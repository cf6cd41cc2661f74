import DraftPool.Pool.Session
import DraftPool.Roster.Codec
import DraftPool.Web.Form

/-
The pool's HTTP interface: routes, answers and error documents.
-/

namespace DraftPool.Http

open Json

/-- A request: its method, its target (path and query) and its body. -/
structure Request where
  method : String
  target : String
  body : Option String
  deriving DecidableEq, Repr

/-- A response: its status and, when it has one, its document. -/
structure Response where
  status : Nat
  body : Option Json
  deriving Repr

/-- A response with no document. -/
def Response.bare (status : Nat) : Response := ⟨status, none⟩

/-- A successful response with a document. -/
def Response.ok (body : Json) : Response := ⟨200, some body⟩

/-- An error of the interface, by the status it is sent with. -/
inductive ApiError where
  | notFound (text : String)
  | badRequest (text : String)
  | upstream (text : String)
  | internal (text : String)
  deriving DecidableEq, Repr

namespace ApiError

/-- The status, code and message of an interface error. -/
def parts : ApiError → Nat × String × String
  | .notFound text => (404, "NOT_FOUND", "Not found: " ++ text)
  | .badRequest text => (400, "BAD_REQUEST", "Bad request: " ++ text)
  | .upstream text => (502, "UPSTREAM_ERROR", "Upstream error: " ++ text)
  | .internal text => (500, "INTERNAL_ERROR", "Internal error: " ++ text)

/-- The response carrying an interface error. -/
def response (e : ApiError) : Response :=
  let (status, code, message) := e.parts
  ⟨status, some (.object [("error", .object [("code", .string code), ("message", .string message)])])⟩

/-- How a pool failure is sent: not found, bad request, upstream error or internal error. -/
def ofPool (e : PoolError) : ApiError :=
  let text := e.message
  match e with
  | .unknownCategory _ => .notFound text
  | .invalidSearch _ | .roster (.validation _) => .badRequest text
  | .search .. => .upstream text
  | .stats (.score (.unknownCategory _)) => .badRequest text
  | .stats (.score (.fetch ..)) | .stats (.score (.incomplete ..)) => .upstream text
  | _ => .internal text

end ApiError

/-- A roster collection that can be listed and saved. -/
inductive Collection where
  | friends
  | players
  | years
  deriving DecidableEq, Repr

/-- A route of the interface, with its raw sport segment. -/
inductive Route where
  | search
  | stats (sport : String)
  | roster (sport : String) (collection : Collection)
  | clearCache (sport : String)
  deriving DecidableEq, Repr

/-- The route of a path. -/
def Route.ofPath (path : String) : Option Route :=
  match path.splitOn "/" with
  | ["", "api", "search"] => some .search
  | ["", "api", sport, "stats"] => if sport.isEmpty then none else some (.stats sport)
  | ["", "api", sport, "friends"] => if sport.isEmpty then none else some (.roster sport .friends)
  | ["", "api", sport, "players"] => if sport.isEmpty then none else some (.roster sport .players)
  | ["", "api", sport, "years"] => if sport.isEmpty then none else some (.roster sport .years)
  | ["", "api", sport, "cache", "clear"] => if sport.isEmpty then none else some (.clearCache sport)
  | _ => none

/-- Whether a route answers a method; `HEAD` goes wherever `GET` does. -/
def Route.allows : Route → String → Bool
  | .search, m | .stats _, m => m == "GET" || m == "HEAD"
  | .roster .., m => m == "GET" || m == "HEAD" || m == "POST"
  | .clearCache _, m => m == "POST"

/-- The sport segment with its escapes read, if they spell UTF-8. -/
def Route.sportText : Route → Option String
  | .search => some ""
  | .stats s | .roster s _ | .clearCache s =>
    Text.utf8Decode? (Web.unescapeBytes false s.toList)

/-- Whether a character may stand in the scheme of a URI. -/
def isSchemeChar (c : Char) : Bool := c.isAlphanum || c = '+' || c = '-' || c = '.'

/-- The path and query of a target in absolute form, `/` for an empty path. -/
def absoluteTail (target : List Char) : Option (List Char) :=
  match target.span isSchemeChar with
  | (_ :: _, ':' :: '/' :: '/' :: rest) =>
    match rest.span fun c => c ≠ '/' && c ≠ '?' with
    | ([], _) => none
    | (_, tail@('/' :: _)) => some tail
    | (_, tail) => some ('/' :: tail)
  | _ => none

/-- The path and query of a request target, taken from the path on when the target is in
absolute form; a fragment after `#` is not part of either. -/
def splitTarget (target : String) : String × String :=
  let target := (target.splitOn "#").headD ""
  let target := match absoluteTail target.toList with
    | some tail => String.ofList tail
    | none => target
  match target.splitOn "?" with
  | [] => ("", "")
  | path :: rest => (path, "?".intercalate rest)

/-- The parameters of a search. -/
structure SearchQuery where
  category : Int
  year : Int
  query : String
  activeOnly : Bool
  deriving DecidableEq, Repr

/-- Reads the parameters of a search from a query string, each at most once. -/
def SearchQuery.parse? (queryString : String) : Option SearchQuery := do
  let pairs := Web.parseForm queryString
  let known := ["category", "year", "q", "active_only"]
  let named := pairs.filter fun (k, _) => known.contains k
  if (named.map (·.1)).eraseDups.length ≠ named.length then none
  let value (k : String) : Option String := (named.find? (·.1 == k)).map (·.2)
  let int64? (s : String) : Option Int :=
    match Text.readInt64 s with
    | .ok n => some n
    | .error _ => none
  let int32? (s : String) : Option Int :=
    match Text.readInt32 s with
    | .ok n => some n
    | .error _ => none
  let bool? (s : String) : Option Bool :=
    if s == "true" then some true else if s == "false" then some false else none
  let activeOnly ← match value "active_only" with
    | none => some false
    | some s => bool? s
  return ⟨← (value "category").bind int64?, ← (value "year").bind int32?, ← value "q", activeOnly⟩

/-- The sport named by a route segment. -/
def sportOf (text : String) : Except ApiError Sport :=
  (Sport.parse text).mapError fun e => .notFound e.message

/-- The body of a scores response. -/
def statsBody (sport : Sport) : Option EtlStats → Json
  | none =>
    .object [("sport", .string sport.slug), ("year", .null), ("score_categories", .array [])]
  | some s => s.toJson

/-- Answers a pool result: a document on success, the mapped error otherwise. -/
def answer {α : Type} (ok : α → Response) : Except PoolError α → Response
  | .ok a => ok a
  | .error e => (ApiError.ofPool e).response

/-- Lists a roster collection. -/
def list (sport : Sport) : Collection → PoolM Response
  | .friends => do return .ok (.array (((← get).store.friendsOf sport).map (·.toJson)))
  | .players => do return .ok (.array (((← get).store.playersOf sport).map (·.toJson)))
  | .years => do
    return answer (fun years => .ok (.array (years.map (·.toJson))))
      (((← get).store.getYears sport).mapError .storage)

/-- Reads a body as a list of rows. -/
def readRows {α : Type} (fields : List (String × FieldType)) (ofValues : List Json → Option α)
    (body : String) : Except Nat (List α) :=
  match readRecordList fields body with
  | .error .malformed => .error 400
  | .error .mistyped => .error 422
  | .ok records =>
    match records.mapM ofValues with
    | some rows => .ok rows
    | none => .error 422

/-- Saves a roster collection from a body, once the body has been read. -/
def save (sportText : String) (collection : Collection) (body : String) : PoolM Response := do
  let saved (r : Except PoolError Unit) : Response := answer (fun _ => .bare 204) r
  match collection with
  | .friends =>
    match readRows Friend.fields Friend.ofValues body with
    | .error status => return .bare status
    | .ok rows =>
      match sportOf sportText with
      | .error e => return e.response
      | .ok sport => return saved (← Pool.saveFriends sport rows)
  | .players =>
    match readRows Player.fields Player.ofValues body with
    | .error status => return .bare status
    | .ok rows =>
      match sportOf sportText with
      | .error e => return e.response
      | .ok sport => return saved (← Pool.savePlayers sport rows)
  | .years =>
    match readRows Year.fields Year.ofValues body with
    | .error status => return .bare status
    | .ok rows =>
      match sportOf sportText with
      | .error e => return e.response
      | .ok sport => return saved (← Pool.saveYears sport rows)

/-- Runs a route for a method it allows, with the sport segment read. -/
def dispatch (route : Route) (method sportText query : String) (body : Option String) :
    PoolM Response := do
  match route with
  | .search =>
    match SearchQuery.parse? query with
    | none => return .bare 400
    | some q =>
      let found ← Pool.search q.category q.year q.query q.activeOnly
      return answer (fun (rs : List SearchResult) => .ok (.array (rs.map (·.toJson)))) found
  | .stats _ =>
    match sportOf sportText with
    | .error e => return e.response
    | .ok sport => return answer (fun s => .ok (statsBody sport s)) (← Pool.stats sport)
  | .roster _ collection =>
    if method == "POST" then
      match body with
      | none => return .bare 415
      | some text => save sportText collection text
    else
      match sportOf sportText with
      | .error e => return e.response
      | .ok sport => list sport collection
  | .clearCache _ =>
    match sportOf sportText with
    | .error e => return e.response
    | .ok sport => return answer (fun _ => .bare 204) (← Pool.clearCache sport)

/-- Handles one request. -/
def handle (req : Request) : PoolM Response := do
  if req.method == "OPTIONS" then return .bare 200
  let (path, query) := splitTarget req.target
  match Route.ofPath path with
  | none => return .bare 404
  | some route =>
    if !route.allows req.method then return .bare 405
    match route.sportText with
    | none => return .bare 400
    | some sportText =>
      let response ← dispatch route req.method sportText query req.body
      if req.method == "HEAD" then return .bare response.status else return response

end DraftPool.Http
