/-
The command line's grammar: the program's options and its subcommands.
-/

namespace DraftPool.Cli

/-- How the text of a value is checked and read. -/
inductive ValueKind where
  | text
  | path
  | sport
  | int64
  | int32
  | port
  deriving DecidableEq, Repr

/-- An option with a value, or a flag when it has no value name. -/
structure OptionSpec where
  long : String
  valueName : Option String
  kind : ValueKind := .text
  deriving DecidableEq, Repr

/-- How an option is shown in messages: `--config <CONFIG>`, or `--json-logs`. -/
def OptionSpec.display (o : OptionSpec) : String :=
  match o.valueName with
  | some v => "--" ++ o.long ++ " <" ++ v ++ ">"
  | none => "--" ++ o.long

/-- A positional argument. -/
structure PositionalSpec where
  valueName : String
  kind : ValueKind
  deriving DecidableEq, Repr

/-- How a positional argument is shown in messages: `<SPORT>`. -/
def PositionalSpec.display (p : PositionalSpec) : String := "<" ++ p.valueName ++ ">"

/-- A command: its name as used in messages, its options and positionals, its usage line and
its help screen. -/
structure CommandSpec where
  name : String
  options : List OptionSpec
  positionals : List PositionalSpec
  hasVersion : Bool
  usage : String
  help : String
  deriving Repr

/-- The name of the program. -/
def programName : String := "sports-pool"

/-- The version line. -/
def versionText : String := "sports-pool 0.1.0\n"

/-- The program itself. -/
def topSpec : CommandSpec where
  name := "sports-pool"
  options := [⟨"config", some "CONFIG", .path⟩, ⟨"log-level", some "LOG_LEVEL", .text⟩,
    ⟨"json-logs", none, .text⟩]
  positionals := []
  hasVersion := true
  usage := "sports-pool [OPTIONS] <COMMAND>"
  help := "Friends-and-players sports pool with cached daily stats\n\n" ++
    "Usage: sports-pool [OPTIONS] <COMMAND>\n\n" ++
    "Commands:\n" ++
    "  serve        Serve the JSON API\n" ++
    "  stats        Print the current scores of a sport, refreshing them if stale\n" ++
    "  clear-cache  Forget cached provider responses and the sport's cached scores\n" ++
    "  search       Search a category's provider for players or teams\n" ++
    "  help         Print this message or the help of the given subcommand(s)\n\n" ++
    "Options:\n" ++
    "      --config <CONFIG>        Path to configuration file [default: ./config.toml]\n" ++
    "      --log-level <LOG_LEVEL>  Log level (trace, debug, info, warn, error); overrides the config file\n" ++
    "      --json-logs              Output logs as JSON\n" ++
    "  -h, --help                   Print help\n" ++
    "  -V, --version                Print version\n"

/-- The `serve` subcommand. -/
def serveSpec : CommandSpec where
  name := "serve"
  options := [⟨"host", some "HOST", .text⟩, ⟨"port", some "PORT", .port⟩]
  positionals := []
  hasVersion := false
  usage := "sports-pool serve [OPTIONS]"
  help := "Serve the JSON API\n\n" ++
    "Usage: sports-pool serve [OPTIONS]\n\n" ++
    "Options:\n" ++
    "      --host <HOST>  Host to bind to\n" ++
    "      --port <PORT>  Port to listen on\n" ++
    "  -h, --help         Print help\n"

/-- The `stats` subcommand. -/
def statsSpec : CommandSpec where
  name := "stats"
  options := []
  positionals := [⟨"SPORT", .sport⟩]
  hasVersion := false
  usage := "sports-pool stats <SPORT>"
  help := "Print the current scores of a sport, refreshing them if stale\n\n" ++
    "Usage: sports-pool stats <SPORT>\n\n" ++
    "Arguments:\n" ++
    "  <SPORT>  Sport slug (mlb, nfl)\n\n" ++
    "Options:\n" ++
    "  -h, --help  Print help\n"

/-- The `clear-cache` subcommand. -/
def clearCacheSpec : CommandSpec where
  name := "clear-cache"
  options := []
  positionals := [⟨"SPORT", .sport⟩]
  hasVersion := false
  usage := "sports-pool clear-cache <SPORT>"
  help := "Forget cached provider responses and the sport's cached scores\n\n" ++
    "Usage: sports-pool clear-cache <SPORT>\n\n" ++
    "Arguments:\n" ++
    "  <SPORT>  Sport slug (mlb, nfl)\n\n" ++
    "Options:\n" ++
    "  -h, --help  Print help\n"

/-- The `search` subcommand. -/
def searchSpec : CommandSpec where
  name := "search"
  options := [⟨"active-only", none, .text⟩]
  positionals := [⟨"CATEGORY", .int64⟩, ⟨"YEAR", .int32⟩, ⟨"QUERY", .text⟩]
  hasVersion := false
  usage := "sports-pool search [OPTIONS] <CATEGORY> <YEAR> <QUERY>"
  help := "Search a category's provider for players or teams\n\n" ++
    "Usage: sports-pool search [OPTIONS] <CATEGORY> <YEAR> <QUERY>\n\n" ++
    "Arguments:\n" ++
    "  <CATEGORY>  Category id\n" ++
    "  <YEAR>      Season\n" ++
    "  <QUERY>     Name or part of a name\n\n" ++
    "Options:\n" ++
    "      --active-only  Only players active in the season\n" ++
    "  -h, --help         Print help\n"

/-- The help screen of the `help` subcommand. -/
def helpHelp : String :=
  "Print this message or the help of the given subcommand(s)\n\n" ++
    "Usage: sports-pool help [COMMAND]...\n\n" ++
    "Arguments:\n" ++
    "  [COMMAND]...  Print help for the subcommand(s)\n"

/-- The subcommands that run something, by name. -/
def subcommandSpecs : List CommandSpec := [serveSpec, statsSpec, clearCacheSpec, searchSpec]

/-- Every subcommand name, `help` last. -/
def subcommandNames : List String := (subcommandSpecs.map (·.name)) ++ ["help"]

end DraftPool.Cli
