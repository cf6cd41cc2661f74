import DraftPool.Fetch.Cache
import DraftPool.Web.Url

/-
Fetching provider responses through the request cache.
-/

namespace DraftPool

/-- Why a provider response could not be had or understood. -/
inductive FetchError where
  | invalidUrl (raw : String) (reason : Web.UrlError)
  | httpStatus (status : Nat) (url : String)
  | json (url : String)
  | payload (text : String)
  | transport (text : String)
  deriving DecidableEq, Repr

namespace FetchError

/-- The kind of a fetch error, as error paths name it. -/
def kind : FetchError → String
  | .invalidUrl .. => "InvalidUrl"
  | .httpStatus .. => "HttpStatus"
  | .json .. => "Json"
  | .payload .. => "Payload"
  | .transport .. => "Http"

/-- The message of a fetch error. The reader's diagnostic after an unreadable body is not part
of it. -/
def message : FetchError → String
  | .invalidUrl raw reason => "Invalid URL: " ++ raw ++ ": " ++ reason.message
  | .httpStatus status url => "HTTP " ++ toString status ++ " from " ++ url
  | .json url => "Reading JSON from " ++ url
  | .payload text => "Unexpected payload: " ++ text
  | .transport text => "HTTP error: " ++ text

end FetchError

/-- What the network answers to one request. -/
inductive Reply where
  | body (text : String)
  | status (code : Nat)
  | failure (text : String)
  deriving DecidableEq, Repr

/-- The network a pool talks to. -/
inductive Responder where
  /-- Canned answers: the first rule whose pattern occurs in the URL. -/
  | canned (rules : List (String × Reply))
  /-- No network: every request fails to be sent. -/
  | offline
  deriving Repr

/-- Whether `needle` occurs in `hay`. -/
def occursIn (needle hay : String) : Bool :=
  let rec go (rest : List Char) : Bool :=
    match rest with
    | [] => needle.isEmpty
    | c :: more => needle.toList.isPrefixOf (c :: more) || go more
  go hay.toList

/-- The answer of the network to a URL. -/
def Responder.answer : Responder → String → Reply
  | .canned rules, url =>
    match rules.find? fun rule => occursIn rule.1 url with
    | some rule => rule.2
    | none => .status 404
  | .offline, url => .failure ("error sending request for url (" ++ url ++ ")")

/-- The request cache, the network and the number of requests sent so far. -/
structure Net where
  cache : RequestCache
  responder : Responder
  calls : Nat

/-- Computations that fetch. -/
abbrev Fetch := StateM Net

/-- The body of a URL, from the cache or the network. -/
def fetchBody (url : String) : Fetch (Except FetchError String) := do
  let net ← get
  match net.cache.get? url with
  | some body => return .ok body
  | none =>
    set { net with calls := net.calls + 1 }
    match net.responder.answer url with
    | .body text =>
      modify fun n => { n with cache := n.cache.add url text }
      return .ok text
    | .status code => return .error (.httpStatus code url)
    | .failure text => return .error (.transport text)

/-- Reads a URL from text, naming the text in the failure. -/
def parseUrl (raw : String) : Except FetchError Web.Url :=
  match Web.Url.parse raw with
  | .ok u => .ok u
  | .error reason => .error (.invalidUrl raw reason)

/-- The URL `raw` with query pairs appended, as text. -/
def buildUrl (raw : String) (pairs : List (String × String)) : Except FetchError String :=
  (parseUrl raw).map fun u => (u.appendPairs pairs).text

end DraftPool
