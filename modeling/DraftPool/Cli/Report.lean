import DraftPool.Pool.Session

/-
How the command line reports a failure: a headline and the chain of its causes.
-/

namespace DraftPool

/-- A failure as reported: what failed, and the causes beneath it, outermost first. -/
structure Failure where
  headline : String
  causes : List String := []
  deriving DecidableEq, Repr

namespace Failure

/-- A text with every line after the first indented by `pad`. -/
def indentLater (pad text : String) : String := ("\n" ++ pad).intercalate (text.splitOn "\n")

/-- A number right-aligned in `width` columns. -/
def rightAligned (width : Nat) (n : Nat) : String :=
  let digits := toString n
  String.ofList (List.replicate (width - digits.length) ' ') ++ digits

/-- The text of a report. -/
def render (f : Failure) : String :=
  let chain := match f.causes with
    | [] => ""
    | [cause] => "\n\nCaused by:\n    " ++ indentLater "    " cause
    | causes =>
      "\n\nCaused by:" ++ String.join (causes.zipIdx.map fun (cause, n) =>
        "\n" ++ rightAligned 5 n ++ ": " ++ indentLater "       " cause)
  "Error: " ++ f.headline ++ chain ++ "\n"

end Failure

/-- The database's own line beneath a broken constraint or a refused write: its extended result
code and what the code means. -/
def StoreFault.codeText : StoreFault → String
  | .duplicateYear | .secondActiveYear => "Error code 2067: A UNIQUE constraint failed"
  | .missingYear => "Error code 787: A foreign key constraint failed"
  | .readOnly => "Error code 8: Attempt to write a readonly database"

/-- The causes beneath a store fault. -/
def StoreFault.causes (f : StoreFault) : List String := [f.text, f.codeText]

/-- The causes beneath a fetch failure. The diagnostics of a reader or of the network are not
kept, so none are named. -/
def FetchError.causes (_ : FetchError) : List String := []

/-- The causes beneath a storage fault. -/
def StorageError.causes : StorageError → List String
  | .fault f => f.causes
  | .blob | .multipleActiveYears _ => []

/-- The causes beneath a scoring fault. -/
def ScoreError.causes : ScoreError → List String
  | .fetch _ cause => cause.message :: cause.causes
  | _ => []

/-- The causes beneath a stats fault: the storage or scoring fault it wraps, and what is beneath
that. -/
def StatsError.causes : StatsError → List String
  | .storage cause => cause.message :: cause.causes
  | .score cause => cause.message :: cause.causes

/-- The causes beneath a roster fault. -/
def RosterError.causes : RosterError → List String
  | .write _ cause => cause.message :: cause.causes
  | _ => []

/-- The causes beneath a pool fault; a wrapped stats, roster, storage or scoring fault stands in
the pool fault's place. -/
def PoolError.causes : PoolError → List String
  | .stats cause => cause.causes
  | .roster cause => cause.causes
  | .storage cause => cause.causes
  | .search _ cause => cause.message :: cause.causes
  | .score cause => cause.causes
  | .unknownCategory _ | .invalidSearch _ => []

/-- A pool fault as reported. -/
def PoolError.failure (e : PoolError) : Failure := ⟨e.message, e.causes⟩

end DraftPool
