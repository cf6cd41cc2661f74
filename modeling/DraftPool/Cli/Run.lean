import DraftPool.Cli.Args
import DraftPool.Cli.Report
import DraftPool.Config
import DraftPool.Store.Location

/-
A run of the command line: configuration, pool, then the subcommand.
-/

namespace DraftPool

/-- The causes beneath a configuration file that cannot be used. -/
def ConfigError.causes : ConfigError → List String
  | .unreadable => ["Failed to parse config: TOML parse error", "TOML parse error"]
  | .invalid text => [ConfigError.message (.invalid text)]

end DraftPool

namespace DraftPool.Cli

/-- What is found at a path. -/
inductive Entry where
  | missing
  | directory
  /-- A file holding text. -/
  | text (content : String)
  /-- A file whose bytes are not text. -/
  | bytes
  /-- A store file. -/
  | database (store : Store)

/-- How a run ends: its exit status and what it wrote on the two streams. -/
structure Outcome where
  code : Nat
  stdout : String := ""
  stderr : String := ""
  deriving DecidableEq, Repr

/-- A run, finished or waiting on the file system or the clock. -/
inductive Run where
  | done (outcome : Outcome)
  /-- Looks at what is at a path. -/
  | look (path : String) (next : Entry → Run)
  /-- Makes a directory and the missing ones on the way to it. -/
  | makeDirs (path : String) (next : Run)
  /-- Reads the clock. -/
  | clock (next : Instant → Run)

namespace Run

/-- Ends a run with a failure report. -/
def fail (f : Failure) : Run := .done ⟨1, "", f.render⟩

/-- Ends a run successfully with this text. -/
def print (text : String) : Run := .done ⟨0, text, ""⟩

end Run

/-- A path as a root mark and its names, with empty names and `.` left out. -/
def pathParts (path : String) : Bool × List String :=
  (path.startsWith "/", (path.splitOn "/").filter fun name => !name.isEmpty && name != ".")

/-- A path made from a root mark and names. -/
def pathOfParts (root : Bool) (names : List String) : String :=
  (if root then "/" else "") ++ "/".intercalate names

/-- Makes the missing directories of a path; the first name on the way that is no directory
decides. -/
def makeParents (root : Bool) (names : List String) (next : Except String Unit → Run) : Run :=
  go [] names
where
  /-- Walks the names after those in `walked`, which are directories. -/
  go (walked : List String) : List String → Run
    | [] => next (.ok ())
    | name :: rest =>
      let here := walked ++ [name]
      .look (pathOfParts root here) fun
        | .directory => go here rest
        | .missing => .makeDirs (pathOfParts root (here ++ rest)) (next (.ok ()))
        | _ =>
          next (.error (if rest.isEmpty then "File exists (os error 17)"
            else "Not a directory (os error 20)"))

/-- The causes beneath a store that cannot be opened: the path names a directory, or a file
that is missing where the mode does not make one. -/
def directoryAsStore (path : String) : List String :=
  ["SQLite error: unable to open database file: " ++ path, "unable to open database file: " ++ path,
    "Error code 14: Unable to open the database file"]

/-- The causes beneath a store that cannot be opened because the file holds something else. -/
def notAStore : List String :=
  ["SQLite error: file is not a database", "file is not a database",
    "Error code 26: File opened that is not a database file"]

/-- The refusal of a file name holding a NUL character. -/
def nulInName : String := "file name contained an unexpected NUL byte"

/-- The causes beneath a store path that holds a NUL character at byte `offset`. -/
def nulInStorePath (offset : Nat) : List String :=
  let text := "nul byte found in provided data at position: " ++ toString offset
  ["SQLite error: " ++ text, text, text]

/-- The byte offset of the first NUL character of a text. -/
def nulOffset (text : String) : Nat :=
  (String.ofList (text.toList.takeWhile (· ≠ '\x00'))).utf8ByteSize

/-- The causes beneath a store path that the database refuses as a URI. -/
def refusedLocation (text : String) : List String :=
  ["SQLite error: " ++ text, text, "Error code 1: SQL error or missing database"]

/-- The causes beneath a store opened for reading only whose file has no tables yet, which
opening would have to write. -/
def readOnlyWithoutTables : List String :=
  [StoreFault.readOnly.message, StoreFault.readOnly.text, StoreFault.readOnly.codeText]

/-- Opens the store file at a path whose directories exist, as its location says. -/
def openStoreFile (path : String) (failure : List String → Run) (next : Store → Run) : Run :=
  if path.contains '\x00' then failure (nulInStorePath (nulOffset path))
  else
    match StoreLocation.parse path with
    | .error text => failure (refusedLocation text)
    | .ok loc =>
      if loc.inMemory then next Store.empty
      else
        let readOnly := loc.mode == .readOnly
        .look loc.file fun
          | .directory => failure (directoryAsStore path)
          | .missing =>
            if loc.mode == .readWriteCreate then next Store.empty else failure (directoryAsStore path)
          | .database store => next { store with readOnly := readOnly }
          | .text content =>
            if !content.isEmpty then failure notAStore
            else if readOnly then failure readOnlyWithoutTables
            else next Store.empty
          | .bytes => failure notAStore

/-- Opens the store at a path, making the directories on the way. -/
def openStore (path : String) (next : Store → Run) : Run :=
  if path.isEmpty then next Store.empty
  else
    let failure (causes : List String) : Run := .fail ⟨"opening " ++ path, causes⟩
    let (root, names) := pathParts path
    if names.dropLast.any (·.contains '\x00') then failure ["IO error: " ++ nulInName, nulInName]
    else
      makeParents root names.dropLast fun
        | .error text => failure ["IO error: " ++ text, text]
        | .ok () => openStoreFile path failure next

/-- Loads the configuration at a path: the built-in settings when nothing is there. -/
def loadConfig (path : String) (next : AppConfig → Run) : Run :=
  let failure (causes : List String) : Run := .fail ⟨"loading " ++ path, causes⟩
  let unreadable (reason : String) : Run :=
    failure ["Failed to read config file: " ++ reason, reason]
  .look path fun
    | .missing => next {}
    | .directory => unreadable "Is a directory (os error 21)"
    | .bytes | .database _ => unreadable "stream did not contain valid UTF-8"
    | .text content =>
      match AppConfig.load content with
      | .ok config => next config
      | .error e => failure e.causes

/-- A search result line: the id right-aligned in eight columns, the name, and the details. -/
def resultLine (r : SearchResult) : String :=
  let id := toString r.sourceId
  String.ofList (List.replicate (8 - id.length) ' ') ++ id ++ "  " ++ r.name ++ "  (" ++
    r.details ++ ")\n"

/-- Runs a subcommand on a pool. -/
def perform (pool : Pool) : Command → Run
  | .serve .. =>
    .fail { headline := "serving the API needs a network listener, which this program lacks" }
  | .stats sport =>
    match ((Pool.stats sport).run pool).1 with
    | .ok none => .print ("No active year for " ++ sport.name ++ "\n")
    | .ok (some stats) => .print (Json.renderPretty stats.toJson ++ "\n")
    | .error e => .fail e.failure
  | .clearCache sport =>
    match ((Pool.clearCache sport).run pool).1 with
    | .ok () => .print ("Cleared caches for " ++ sport.name ++ "\n")
    | .error e => .fail e.failure
  | .search category year query activeOnly =>
    match ((Pool.search category year query activeOnly).run pool).1 with
    | .ok [] => .print ("No matches for " ++ Text.quote query ++ "\n")
    | .ok results => .print (String.join (results.map resultLine))
    | .error e => .fail e.failure

/-- Assembles the pool a configuration describes, its network being `responder`, and runs the
command on it. -/
def execute (responder : Responder) (inv : Invocation) : Run :=
  loadConfig inv.config fun config =>
    match config.registry with
    | .error e => .fail { headline := e.message }
    | .ok registry =>
      match RequestCache.create config.fetch.cacheCapacity with
      | .error e => .fail { headline := e.message }
      | .ok cache =>
        openStore config.databasePath fun store =>
          .clock fun now =>
            let sources : Sources := ⟨config.fetch.providers, CategoryKind.all⟩
            perform ⟨registry, sources, store, ⟨cache, responder, 0⟩, now, fun _ => {}⟩ inv.command

/-- A whole run of the program on its arguments. -/
def run (responder : Responder) (args : List String) : Run :=
  match parse args with
  | .show text => .print text
  | .refuse text => .done ⟨2, "", text⟩
  | .run inv => execute responder inv

/-- Files held in memory: entries by their path, relative to the working directory. The
working directory, and every directory on the way to an entry, exists. -/
structure FileTable where
  entries : List (List String × Entry)

namespace FileTable

/-- The names of a path from the working directory, `..` taking one back; none for a path
outside it. -/
def resolve (path : String) : Option (List String) :=
  let (root, names) := pathParts path
  if root then none
  else
    names.foldl (fun acc name =>
      acc.bind fun walked =>
        if name == ".." then (if walked.isEmpty then none else some walked.dropLast)
        else some (walked ++ [name])) (some [])

/-- What is at a path. Outside the working directory only the root is known. A file named with
a trailing `/` is not found. -/
def entry (table : FileTable) (path : String) : Entry :=
  match resolve path with
  | none => if (pathParts path).2.isEmpty && path.startsWith "/" then .directory else .missing
  | some [] => .directory
  | some names =>
    match table.entries.find? (·.1 == names) with
    | some (_, e) => if path.endsWith "/" then .missing else e
    | none =>
      if table.entries.any fun (p, _) => names.isPrefixOf p && names.length < p.length then
        .directory
      else .missing

end FileTable

/-- Carries out a run against files held in memory and a fixed clock. Directories made are not
kept: a run looks at nothing below a directory it made. -/
def Run.simulate (table : FileTable) (now : Instant) : Run → Outcome
  | .done outcome => outcome
  | .look path next => Run.simulate table now (next (table.entry path))
  | .makeDirs _ next => Run.simulate table now next
  | .clock next => Run.simulate table now (next now)

end DraftPool.Cli
