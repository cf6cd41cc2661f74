import DraftPool.Cli.Spec
import DraftPool.Sport
import DraftPool.Text.Decimal
import DraftPool.Text.Similarity

/-
Reading the command line, one level of arguments at a time.
-/

namespace DraftPool.Cli

/-- What a subcommand asks for. -/
inductive Command where
  | serve (host : Option String) (port : Option Nat)
  | stats (sport : Sport)
  | clearCache (sport : Sport)
  | search (category : Int) (year : Int) (query : String) (activeOnly : Bool)
  deriving DecidableEq, Repr

/-- A whole command line, read. -/
structure Invocation where
  config : String
  logLevel : Option String
  jsonLogs : Bool
  command : Command
  deriving DecidableEq, Repr

/-- What reading a command line comes to. -/
inductive Parsed where
  /-- Run the command. -/
  | run (inv : Invocation)
  /-- Print this text, help or version, and stop successfully. -/
  | show (text : String)
  /-- Print this text on the error stream and stop with status 2. -/
  | refuse (text : String)
  deriving DecidableEq, Repr

/-- A usage error: the headline, then tips, the usage line, and where to find help. -/
def usageError (headline : String) (tips : List String) (usage : Option String) : String :=
  let tipText := if tips.isEmpty then "" else "\n" ++ String.join (tips.map ("\n  tip: " ++ ·))
  let usageText := match usage with
    | some u => "\n\nUsage: " ++ u
    | none => ""
  "error: " ++ headline ++ tipText ++ usageText ++ "\n\nFor more information, try '--help'.\n"

/-- The tip naming similar names of one sort. -/
def similarTip (what : String) (names : List String) : String :=
  let quoted := ", ".intercalate (names.map fun n => "'" ++ n ++ "'")
  match names with
  | [_] => "a similar " ++ what ++ " exists: " ++ quoted
  | _ => "some similar " ++ what ++ "s exist: " ++ quoted

/-- The refusal of an option given without its value. -/
def emptyValue (display : String) : String :=
  usageError ("a value is required for '" ++ display ++ "' but none was supplied") [] none

/-- The refusal of a value that cannot be read. -/
def invalidValue (shown display reason : String) : String :=
  usageError ("invalid value '" ++ shown ++ "' for '" ++ display ++ "': " ++ reason) [] none

/-- Checks the value of an argument shown as `display`; a number keeps its own decimal text. -/
def readValue (display : String) (kind : ValueKind) (raw : String) : Except String String :=
  let ranged (lo hi : Int) : Except String String :=
    match Text.readInt64 raw with
    | .error e => .error (invalidValue raw display e.message)
    | .ok n =>
      if lo ≤ n && n ≤ hi then .ok (toString n)
      else .error (invalidValue raw display
        (toString n ++ " is not in " ++ toString lo ++ "..=" ++ toString hi))
  match kind with
  | .text => .ok raw
  | .path => if raw.isEmpty then .error (emptyValue display) else .ok raw
  | .sport =>
    match Sport.parse raw with
    | .ok _ => .ok raw
    | .error e => .error (invalidValue raw display e.message)
  | .int64 => ranged Text.int64Min Text.int64Max
  | .int32 => ranged Text.int32Min Text.int32Max
  | .port => ranged 0 65535

/-- An argument whose value is not yet settled. -/
inductive Pending where
  /-- An option still waiting for its value, or holding it. -/
  | option (o : OptionSpec) (value : Option String)
  /-- A positional argument with its value. -/
  | positional (p : PositionalSpec) (value : String)

/-- What has been read at one level of the command line. -/
structure Matches where
  /-- Options and flags settled, in the order given, with their values. -/
  options : List (OptionSpec × String) := []
  /-- Positional values settled, in order. -/
  positionals : List String := []
  /-- The number of positional arguments started. -/
  started : Nat := 0
  /-- The argument not yet settled. -/
  pending : Option Pending := none
  /-- Whether `--` has been seen. -/
  trailing : Bool := false

namespace Matches

/-- Whether an option has been settled. -/
def has (m : Matches) (o : OptionSpec) : Bool := m.options.any (·.1 == o)

/-- How the settled options are shown in a usage line. -/
def shown (m : Matches) : List String := m.options.map (·.1.display)

/-- Whether any argument has been settled. -/
def touched (m : Matches) : Bool := !m.options.isEmpty || !m.positionals.isEmpty

/-- The value of an option, if it was given. -/
def option? (m : Matches) (long : String) : Option String :=
  (m.options.find? (·.1.long == long)).map (·.2)

end Matches

/-- The long names a level knows, in the order it defines them, help and version included. -/
def CommandSpec.longs (spec : CommandSpec) : List String :=
  spec.options.map (·.long) ++ ["help"] ++ (if spec.hasVersion then ["version"] else [])

/-- The usage line for the arguments given: the command, the given options, the required
positionals and, at the top, the subcommand. -/
def CommandSpec.usageWith (spec : CommandSpec) (shown : List String) : String :=
  let name := if spec.hasVersion then [programName] else [programName, spec.name]
  let command := if spec.hasVersion then ["<COMMAND>"] else []
  " ".intercalate (name ++ shown ++ spec.positionals.map (·.display) ++ command)

/-- The arguments of a level as one group, in the order they are declared (positionals before
options): `<CATEGORY|YEAR|QUERY|--active-only>`. -/
def CommandSpec.group (spec : CommandSpec) : String :=
  "<" ++ "|".intercalate (spec.positionals.map (·.valueName) ++ spec.options.map (·.display)) ++ ">"

/-- The usage line after some arguments: the whole usage when none were given. -/
def CommandSpec.usageAfter (spec : CommandSpec) (touched : Bool) (shown : List String) : String :=
  if touched then spec.usageWith shown else spec.usage

/-- The refusal of an argument given twice. -/
def givenTwice (spec : CommandSpec) (display : String) : String :=
  usageError ("the argument '" ++ display ++ "' cannot be used multiple times") [] (some spec.usage)

/-- Settles an option with its value: refused when it was settled before or its value cannot be
read. An option given twice is dropped; one whose value is at fault is kept. -/
def settleOption (spec : CommandSpec) (m : Matches) (o : OptionSpec) (v : String) :
    Matches × Option String :=
  if m.has o then
    ({ m with options := m.options.filter (·.1 != o) }, some (givenTwice spec o.display))
  else
    match readValue o.display o.kind v with
    | .ok v => ({ m with options := m.options ++ [(o, v)] }, none)
    | .error text => ({ m with options := m.options ++ [(o, v)] }, some text)

/-- Settles the pending argument, if any. -/
def settle (spec : CommandSpec) (m : Matches) : Matches × Option String :=
  let rest := { m with pending := none }
  match m.pending with
  | none => (m, none)
  | some (.option o none) => (rest, some (emptyValue o.display))
  | some (.option o (some v)) => settleOption spec rest o v
  | some (.positional p v) =>
    match readValue p.display p.kind v with
    | .ok v => ({ rest with positionals := rest.positionals ++ [v] }, none)
    | .error text => ({ rest with positionals := rest.positionals ++ [v] }, some text)

/-- Settles the pending argument where a refusal stops the reading. -/
def settled (spec : CommandSpec) (m : Matches) : Except Parsed Matches :=
  match settle spec m with
  | (m, none) => .ok m
  | (_, some text) => .error (.refuse text)

/-- The outcome of reading one argument. -/
inductive Step where
  /-- Go on with the remaining arguments. -/
  | next (m : Matches)
  /-- Stop reading with this outcome. -/
  | stop (p : Parsed)
  /-- The subcommand starts here. -/
  | enter (name : String) (m : Matches)

/-- Turns a refusal into a stop. -/
def Step.ofExcept : Except Parsed Matches → Step
  | .ok m => .next m
  | .error p => .stop p

/-- The tip for a flag unknown here that a subcommand named later on the line knows; of several,
the subcommand named first. -/
def laterFlagTip (name : String) (rest : List String) : Option String :=
  let found := subcommandSpecs.filterMap fun sub =>
    match (Text.similarNames name sub.longs).getLast?, rest.idxOf? sub.name with
    | some candidate, some place => some (place, "'" ++ sub.name ++ " --" ++ candidate ++ "' exists")
    | _, _ => none
  let first := found.foldl (fun best this =>
    match best with
    | some b => if this.1 < b.1 then some this else some b
    | none => some this) none
  first.map (·.2)

/-- Refuses an unknown long option, naming a similar known one when there is one. The usage
line then shows the similar option as if it had been given. -/
def unknownLong (spec : CommandSpec) (m : Matches) (name : String) (rest : List String) : Parsed :=
  let m := (settle spec m).1
  let arg := "--" ++ name
  let headline := "unexpected argument '" ++ arg ++ "' found"
  match (Text.similarNames name spec.longs).getLast? with
  | some candidate =>
    let shown := match spec.options.find? (·.long == candidate) with
      | some o => if m.has o then m.shown else m.shown ++ [o.display]
      | none => m.shown ++ ["--" ++ candidate]
    .refuse (usageError headline [similarTip "argument" ["--" ++ candidate]]
      (some (spec.usageWith shown)))
  | none =>
    let later := if spec.hasVersion then laterFlagTip name rest else none
    let tips := match later with
      | some tip => [tip]
      | none =>
        if !m.trailing && !spec.positionals.isEmpty then
          ["to pass '" ++ arg ++ "' as a value, use '-- " ++ arg ++ "'"]
        else []
    .refuse (usageError headline tips (some (spec.usageAfter m.touched m.shown)))

/-- Reads a long option or flag, `body` being what follows `--`. -/
def readLong (spec : CommandSpec) (m : Matches) (body : String) (rest : List String) : Step :=
  let (name, inline) := match body.splitOn "=" with
    | [] => ("", none)
    | [n] => (n, none)
    | n :: vs => (n, some ("=".intercalate vs))
  let flagValue (display : String) (v : String) : Step :=
    let settledBefore := (settle spec m).1
    let usage :=
      if !settledBefore.touched then spec.usageWith [display]
      else
        let name := if spec.hasVersion then [programName] else [programName, spec.name]
        let own := if spec.options.any (·.display == display) then [] else [display]
        let command := if spec.hasVersion then ["<COMMAND>"] else []
        " ".intercalate (name ++ own ++ [spec.group] ++ command)
    .stop (.refuse (usageError ("unexpected value '" ++ v ++ "' for '" ++ display ++
      "' found; no more were expected") [] (some usage)))
  if name == "help" || (name == "version" && spec.hasVersion) then
    match inline with
    | some v => flagValue ("--" ++ name) v
    | none =>
      match settled spec m with
      | .error p => .stop p
      | .ok _ => .stop (.show (if name == "help" then spec.help else versionText))
  else
    match spec.options.find? (·.long == name) with
    | none => .stop (unknownLong spec m name rest)
    | some o =>
      match o.valueName, inline with
      | none, some v => flagValue o.display v
      | none, none =>
        Step.ofExcept do
          let m ← settled spec m
          if m.has o then throw (.refuse (givenTwice spec o.display))
          return { m with options := m.options ++ [(o, "true")] }
      | some _, some v =>
        Step.ofExcept do
          let m ← settled spec m
          match settleOption spec m o v with
          | (m, none) => return m
          | (_, some text) => throw (.refuse text)
      | some _, none =>
        Step.ofExcept do
          let m ← settled spec m
          return { m with pending := some (.option o none) }

/-- Reads a cluster of short flags; the first one decides. -/
def readShort (spec : CommandSpec) (m : Matches) (first : Char) : Step :=
  if first = 'h' || (first = 'V' && spec.hasVersion) then
    match settled spec m with
    | .error p => .stop p
    | .ok _ => .stop (.show (if first = 'h' then spec.help else versionText))
  else
    let arg := "-" ++ String.singleton first
    let tips := if !m.trailing && !spec.positionals.isEmpty then
        ["to pass '" ++ arg ++ "' as a value, use '-- " ++ arg ++ "'"]
      else []
    .stop (.refuse (usageError ("unexpected argument '" ++ arg ++ "' found") tips (some spec.usage)))

/-- Refuses an argument for which this level has no place. -/
def misplaced (spec : CommandSpec) (m : Matches) (arg : String) : Parsed :=
  if !spec.hasVersion then
    .refuse (usageError ("unexpected argument '" ++ arg ++ "' found") [] (some spec.usage))
  else if m.trailing && subcommandNames.contains arg then
    .refuse (usageError ("unexpected argument '" ++ arg ++ "' found")
      ["subcommand '" ++ arg ++ "' exists; to use it, remove the '--' before it"] (some spec.usage))
  else
    match Text.similarNames arg subcommandNames with
    | [] => .refuse (usageError ("unrecognized subcommand '" ++ arg ++ "'") [] (some spec.usage))
    | similar =>
      .refuse (usageError ("unrecognized subcommand '" ++ arg ++ "'")
        [similarTip "subcommand" similar] (some spec.usage))

/-- Reads a positional argument, or the value of the option waiting for one. -/
def readPlain (spec : CommandSpec) (m : Matches) (arg : String) : Step :=
  let positional : Step :=
    match spec.positionals.drop m.started with
    | p :: _ =>
      Step.ofExcept do
        let m ← settled spec m
        return { m with pending := some (.positional p arg), started := m.started + 1 }
    | [] => .stop (misplaced spec (settle spec m).1 arg)
  match m.pending with
  | some (.option o none) =>
    if m.trailing then positional else .next { m with pending := some (.option o (some arg)) }
  | _ => positional

/-- The help screen asked for by `help` and the names after it. -/
def helpFor : List String → Parsed
  | [] => .show topSpec.help
  | name :: rest =>
    if name == "help" then
      match rest with
      | [] => .show helpHelp
      | n :: _ =>
        .refuse (usageError ("unrecognized subcommand '" ++ n ++ "'") []
          (some "sports-pool help [COMMAND]..."))
    else
      match subcommandSpecs.find? (·.name == name) with
      | none =>
        .refuse (usageError ("unrecognized subcommand '" ++ name ++ "'") [] (some topSpec.usage))
      | some spec =>
        match rest with
        | [] => .show spec.help
        | n :: _ =>
          .refuse (usageError ("unrecognized subcommand '" ++ n ++ "'") [] (some spec.usage))

/-- Reads one argument; `rest` are the arguments after it. -/
def readArg (spec : CommandSpec) (m : Matches) (arg : String) (rest : List String) : Step :=
  if m.trailing then readPlain spec m arg
  else if spec.hasVersion && subcommandNames.contains arg then
    if arg == "help" then .stop (helpFor rest) else .enter arg m
  else if arg == "--" then .next { m with trailing := true }
  else if arg.startsWith "--" then readLong spec m (arg.drop 2).toString rest
  else
    match arg.toList with
    | '-' :: first :: _ => readShort spec m first
    | _ => readPlain spec m arg

/-- Reads the arguments of one level, up to their end or the subcommand. -/
def readLevel (spec : CommandSpec) : List String → Matches →
    Except Parsed (Matches × Option (String × List String))
  | [], m => .ok (m, none)
  | arg :: rest, m =>
    match readArg spec m arg rest with
    | .stop p => .error p
    | .enter name m => .ok (m, some (name, rest))
    | .next m => readLevel spec rest m

/-- Refuses missing positional arguments. -/
def missingArguments (spec : CommandSpec) (m : Matches) : Option String :=
  match spec.positionals.drop m.positionals.length with
  | [] => none
  | missing =>
    some (usageError ("the following required arguments were not provided:" ++
      String.join (missing.map fun p => "\n  " ++ p.display)) []
      (some (spec.usageAfter m.touched m.shown)))

/-- The command a subcommand's settled arguments make. -/
def commandOf (name : String) (m : Matches) : Option Command :=
  let int? (s : String) : Option Int := (Text.readInt64 s).toOption
  match name, m.positionals with
  | "serve", [] =>
    some (.serve (m.option? "host") ((m.option? "port").bind fun s => (int? s).map Int.toNat))
  | "stats", [s] => (Sport.parse s).toOption.map .stats
  | "clear-cache", [s] => (Sport.parse s).toOption.map .clearCache
  | "search", [c, y, q] => do
    return .search (← int? c) (← int? y) q (m.option? "active-only" == some "true")
  | _, _ => none

/-- Reads a subcommand's arguments, then settles what the program's own options left
pending. -/
def readSubcommand (top : Matches) (spec : CommandSpec) (args : List String) :
    Except Parsed Invocation := do
  let (sub, _) ← readLevel spec args {}
  let sub ← settled spec sub
  if let some text := missingArguments spec sub then throw (.refuse text)
  let top ← settled topSpec top
  match commandOf spec.name sub with
  | none => throw (.refuse (usageError "unreadable arguments" [] (some spec.usage)))
  | some command =>
    return ⟨(top.option? "config").getD "./config.toml", top.option? "log-level",
      top.option? "json-logs" == some "true", command⟩

/-- Reads a command line, the program's name not included. -/
def parse (args : List String) : Parsed :=
  let read : Except Parsed Invocation := do
    match ← readLevel topSpec args {} with
    | (top, some (name, rest)) =>
      match subcommandSpecs.find? (·.name == name) with
      | some spec => readSubcommand top spec rest
      | none => throw (misplaced topSpec top name)
    | (top, none) =>
      let top ← settled topSpec top
      if top.touched then
        throw (.refuse (usageError ("'" ++ programName ++
          "' requires a subcommand but one was not provided\n  [subcommands: " ++
          ", ".intercalate subcommandNames ++ "]") [] (some topSpec.usage)))
      else throw (.refuse topSpec.help)
  match read with
  | .ok inv => .run inv
  | .error p => p

end DraftPool.Cli
