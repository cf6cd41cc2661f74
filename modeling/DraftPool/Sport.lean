import DraftPool.Text.Lower
import DraftPool.Text.WhiteSpace

/-
The two sports of a pool and the six kinds of category that friends draft in. Each kind belongs
to one sport; baseball comes before football wherever sports are ordered.
-/

namespace DraftPool

/-- A sport that a pool follows. -/
inductive Sport where
  | mlb
  | nfl
  deriving DecidableEq, Repr, Inhabited

namespace Sport

/-- Both sports, in their order. -/
def all : List Sport := [.mlb, .nfl]

/-- The number that stands for the sport in the store. -/
def id : Sport → Int
  | .mlb => 1
  | .nfl => 2

/-- The sport with a stored number. -/
def ofId? (n : Int) : Option Sport := all.find? (·.id == n)

/-- The display name. -/
def name : Sport → String
  | .mlb => "MLB"
  | .nfl => "NFL"

/-- The short lowercase name used in paths and messages. -/
def slug : Sport → String
  | .mlb => "mlb"
  | .nfl => "nfl"

/-- A text that names no sport, as lowercased after trimming. -/
structure Unknown where
  text : String
  deriving DecidableEq, Repr

/-- The message for a text that names no sport. -/
def Unknown.message (e : Unknown) : String := "unknown sport: " ++ e.text

/-- Reads a sport from its slug, ignoring case and surrounding white space. -/
def parse (s : String) : Except Unknown Sport :=
  let key := Text.lower (Text.trim s)
  if key = "mlb" then .ok .mlb
  else if key = "nfl" then .ok .nfl
  else .error ⟨key⟩

/-- Baseball before football. -/
def le (a b : Sport) : Bool := a.id ≤ b.id

@[simp] theorem ofId?_id (s : Sport) : ofId? s.id = some s := by
  cases s <;> rfl

end Sport

/-- The kind of a category, which decides how its players are scored and searched. -/
inductive CategoryKind where
  | mlbTeam
  | mlbHitter
  | mlbPitcher
  | nflTeam
  | nflQb
  | nflMisc
  deriving DecidableEq, Repr, Inhabited

namespace CategoryKind

/-- Every kind. -/
def all : List CategoryKind := [.mlbTeam, .mlbHitter, .mlbPitcher, .nflTeam, .nflQb, .nflMisc]

/-- The sport a kind belongs to. -/
def sport : CategoryKind → Sport
  | .mlbTeam | .mlbHitter | .mlbPitcher => .mlb
  | .nflTeam | .nflQb | .nflMisc => .nfl

/-- The name of a kind in documents and configuration. -/
def slug : CategoryKind → String
  | .mlbTeam => "mlb_team"
  | .mlbHitter => "mlb_hitter"
  | .mlbPitcher => "mlb_pitcher"
  | .nflTeam => "nfl_team"
  | .nflQb => "nfl_qb"
  | .nflMisc => "nfl_misc"

/-- The kind with a document name. -/
def ofSlug? (s : String) : Option CategoryKind := all.find? (·.slug == s)

/-- The name of a kind in diagnostic messages. -/
def label : CategoryKind → String
  | .mlbTeam => "MlbTeam"
  | .mlbHitter => "MlbHitter"
  | .mlbPitcher => "MlbPitcher"
  | .nflTeam => "NflTeam"
  | .nflQb => "NflQb"
  | .nflMisc => "NflMisc"

@[simp] theorem ofSlug?_slug (k : CategoryKind) : ofSlug? k.slug = some k := by
  cases k <;> rfl

end CategoryKind

end DraftPool
