import DraftPool.Toml.Reader
import DraftPool.Provider.Sources

/-
The application's configuration, read from a TOML document and checked.
-/

namespace DraftPool

/-- How provider requests are made. -/
structure FetchSettings where
  timeoutSeconds : Nat := 5
  cacheCapacity : Nat := 128
  userAgent : String := "sports-pool/0.1.0"
  providers : ProviderConfig := {}
  deriving DecidableEq, Repr

/-- Where the server listens. -/
structure ServerSettings where
  host : String := "127.0.0.1"
  port : Nat := 8080
  deriving DecidableEq, Repr

/-- The whole configuration. -/
structure AppConfig where
  databasePath : String := "./data/pool.db"
  logLevel : String := "info"
  fetch : FetchSettings := {}
  server : ServerSettings := {}
  categories : Option (List Category) := none
  deriving Repr

/-- Why a configuration cannot be used. -/
inductive ConfigError where
  | unreadable
  | invalid (text : String)
  deriving DecidableEq, Repr

/-- The message of a configuration that fails validation. -/
def ConfigError.message : ConfigError → String
  | .unreadable => "Failed to parse config"
  | .invalid text => "Invalid configuration: " ++ text

namespace Config

open Toml

/-- A setting read from a table: its default when absent. -/
def setting {α : Type} (table : List (String × Value)) (key : String) (d : α)
    (read : Value → Option α) : Option α :=
  match (table.find? (·.1 == key)).map (·.2) with
  | some v => read v
  | none => some d

/-- A required setting of a table. -/
def needed {α : Type} (table : List (String × Value)) (key : String) (read : Value → Option α) :
    Option α :=
  ((table.find? (·.1 == key)).map (·.2)).bind read

/-- A string. -/
def string? : Value → Option String
  | .string s => some s
  | _ => none

/-- An integer within bounds. -/
def intIn? (lo hi : Int) : Value → Option Int
  | .integer n => if lo ≤ n && n ≤ hi then some n else none
  | _ => none

/-- A natural number within a bound. -/
def natUpTo? (hi : Nat) (v : Value) : Option Nat := (intIn? 0 hi v).map Int.toNat

/-- A boolean. -/
def bool? : Value → Option Bool
  | .boolean b => some b
  | _ => none

/-- A table. -/
def table? : Value → Option (List (String × Value))
  | .table t => some t
  | _ => none

/-- The members of a record with the given fields, in order: a table as it is, or an array of
the fields' values in that order, whose items past the last field are ignored. -/
def record? (fields : List String) : Value → Option (List (String × Value))
  | .table t => some t
  | .array items => some (fields.zip items)
  | _ => none

/-- The largest value of an unsigned 64-bit setting. -/
def u64Max : Nat := Nat.pow 2 64 - 1

/-- Reads the fetch settings. -/
def fetch? (v : Value) : Option FetchSettings := do
  let t ← table? v
  let d : FetchSettings := {}
  return {
    timeoutSeconds := ← setting t "timeout_seconds" d.timeoutSeconds (natUpTo? u64Max)
    cacheCapacity := ← setting t "cache_capacity" d.cacheCapacity (natUpTo? u64Max)
    userAgent := ← setting t "user_agent" d.userAgent string?
    providers := {
      mlbStatsUrl := ← setting t "mlb_stats_url" d.providers.mlbStatsUrl string?
      mlbLookupUrl := ← setting t "mlb_lookup_url" d.providers.mlbLookupUrl string?
      nflUrl := ← setting t "nfl_url" d.providers.nflUrl string?
      nflAppKey := ← setting t "nfl_app_key" d.providers.nflAppKey string? } }

/-- Reads the server settings. -/
def server? (v : Value) : Option ServerSettings := do
  let t ← record? ["host", "port"] v
  let d : ServerSettings := {}
  return {
    host := ← setting t "host" d.host string?
    port := ← setting t "port" d.port (natUpTo? 65535) }

/-- Reads a category kind: its name, or a table whose one member is named for the kind and holds
an empty table or an empty array. -/
def kind? : Value → Option CategoryKind
  | .string s => CategoryKind.ofSlug? s
  | .table [(name, .table [])] | .table [(name, .array [])] => CategoryKind.ofSlug? name
  | _ => none

/-- Reads a category. -/
def category? (v : Value) : Option Category := do
  let t ← record? ["id", "kind", "name", "description", "score_type", "display_order",
    "top_two_only"] v
  return {
    id := ← needed t "id" (intIn? Text.int64Min Text.int64Max)
    kind := ← needed t "kind" kind?
    name := ← needed t "name" string?
    description := ← needed t "description" string?
    scoreType := ← needed t "score_type" string?
    displayOrder := ← needed t "display_order" (intIn? Text.int32Min Text.int32Max)
    topTwoOnly := ← setting t "top_two_only" false bool? }

/-- Reads a list of categories. -/
def categories? : Value → Option (List Category)
  | .array items => items.mapM category?
  | _ => none

end Config

open Config in
/-- Reads a configuration from a TOML document. -/
def AppConfig.ofToml (text : String) : Except ConfigError AppConfig :=
  match Toml.read text with
  | .error _ => .error .unreadable
  | .ok t =>
    let d : AppConfig := {}
    let read : Option AppConfig := do
      return {
        databasePath := ← setting t "database_path" d.databasePath string?
        logLevel := ← setting t "log_level" d.logLevel string?
        fetch := ← setting t "fetch" d.fetch fetch?
        server := ← setting t "server" d.server server?
        categories := ← setting t "categories" none fun v => (categories? v).map some }
    match read with
    | some c => .ok c
    | none => .error .unreadable

namespace AppConfig

/-- The categories in use: the configured ones, or the built-in ones. -/
def registry (c : AppConfig) : Except ConfigError Registry :=
  (Registry.build (c.categories.getD Category.defaults)).mapError fun e => .invalid e.message

/-- The first problem of a configuration, if any. -/
def validate (c : AppConfig) : Except ConfigError Unit :=
  if c.fetch.timeoutSeconds = 0 then .error (.invalid "Fetch timeout must be greater than 0")
  else if c.fetch.cacheCapacity = 0 then
    .error (.invalid "Request cache capacity must be greater than 0")
  else if c.server.port = 0 then .error (.invalid "Server port must be greater than 0")
  else c.registry.map fun _ => ()

/-- Reads and validates a configuration. -/
def load (text : String) : Except ConfigError AppConfig := do
  let c ← AppConfig.ofToml text
  c.validate
  return c

end AppConfig

end DraftPool
