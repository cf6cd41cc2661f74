/-
Values of a TOML document and the table tree it is assembled into.
-/

namespace DraftPool.Toml

/-- A value of a document. Floats and dates are kept as their text. -/
inductive Value where
  | string (s : String)
  | integer (n : Int)
  | float (text : String)
  | boolean (b : Bool)
  | datetime (text : String)
  | array (items : List Value)
  | table (entries : List (String × Value))
  deriving Repr, Inhabited

/-- Why a text is no document. -/
inductive TomlError where
  | malformed (what : String)
  | duplicate (key : String)
  deriving DecidableEq, Repr

/-- How a table came to be. -/
inductive Origin where
  | implicit
  | header
  | dotted
  deriving DecidableEq, Repr

/-- An entry of the table tree. -/
inductive Entry where
  | value (v : Value)
  | table (origin : Origin) (entries : List (String × Entry))
  | tableArray (tables : List (List (String × Entry)))
  deriving Repr, Inhabited

/-- The entry under a key. -/
def lookup (key : String) (entries : List (String × Entry)) : Option Entry :=
  (entries.find? (·.1 == key)).map (·.2)

/-- Replaces the entry under a key. -/
def replace (key : String) (e : Entry) (entries : List (String × Entry)) : List (String × Entry) :=
  entries.map fun p => if p.1 == key then (key, e) else p

/-- Changes the last table of an array of tables. -/
def modifyLast (f : List (String × Entry) → Except TomlError (List (String × Entry))) :
    List (List (String × Entry)) → Except TomlError (List (List (String × Entry)))
  | [] => .error (.malformed "empty array of tables")
  | [t] => (f t).map ([·])
  | t :: rest => (modifyLast f rest).map (t :: ·)

/-- Changes the table at a header path, going into the last table of arrays of tables. -/
def modifyAt (f : List (String × Entry) → Except TomlError (List (String × Entry))) :
    List String → List (String × Entry) → Except TomlError (List (String × Entry))
  | [], entries => f entries
  | k :: rest, entries =>
    match lookup k entries with
    | some (.table o sub) => (modifyAt f rest sub).map fun sub => replace k (.table o sub) entries
    | some (.tableArray ts) =>
      (modifyLast (modifyAt f rest) ts).map fun ts => replace k (.tableArray ts) entries
    | _ => .error (.duplicate k)

/-- The table that a header path passes through on its way, entered by `f`. -/
def enterParent (k : String) (f : List (String × Entry) → Except TomlError (List (String × Entry)))
    (entries : List (String × Entry)) : Except TomlError (List (String × Entry)) :=
  match lookup k entries with
  | none => (f []).map fun sub => entries ++ [(k, .table .implicit sub)]
  | some (.table o sub) => (f sub).map fun sub => replace k (.table o sub) entries
  | some (.tableArray ts) => (modifyLast f ts).map fun ts => replace k (.tableArray ts) entries
  | some (.value _) => .error (.duplicate k)

/-- Defines the table of a `[header]`. -/
def defineTable : List String → List (String × Entry) → Except TomlError (List (String × Entry))
  | [], _ => .error (.malformed "empty header")
  | [k], entries =>
    match lookup k entries with
    | none => .ok (entries ++ [(k, .table .header [])])
    | some (.table .implicit sub) => .ok (replace k (.table .header sub) entries)
    | some _ => .error (.duplicate k)
  | k :: rest, entries => enterParent k (defineTable rest) entries

/-- Adds a table to the array of a `[[header]]`. -/
def appendTable : List String → List (String × Entry) → Except TomlError (List (String × Entry))
  | [], _ => .error (.malformed "empty header")
  | [k], entries =>
    match lookup k entries with
    | none => .ok (entries ++ [(k, .tableArray [[]])])
    | some (.tableArray ts) => .ok (replace k (.tableArray (ts ++ [[]])) entries)
    | some _ => .error (.duplicate k)
  | k :: rest, entries => enterParent k (appendTable rest) entries

/-- Sets the value of a dotted key in a table. -/
def putDotted : List String → Value → List (String × Entry) → Except TomlError (List (String × Entry))
  | [], _, _ => .error (.malformed "empty key")
  | [k], v, entries =>
    match lookup k entries with
    | none => .ok (entries ++ [(k, .value v)])
    | some _ => .error (.duplicate k)
  | k :: rest, v, entries =>
    -- a table made by a header, implicitly or in an array, may be passed through but may not
    -- take the value itself
    let holdsValue := rest.length = 1
    match lookup k entries with
    | none => (putDotted rest v []).map fun sub => entries ++ [(k, .table .dotted sub)]
    | some (.table .dotted sub) => (putDotted rest v sub).map fun sub => replace k (.table .dotted sub) entries
    | some (.table .implicit sub) =>
      if holdsValue then .error (.duplicate k)
      else (putDotted rest v sub).map fun sub => replace k (.table .implicit sub) entries
    | some (.tableArray ts) =>
      if holdsValue then .error (.duplicate k)
      else (modifyLast (putDotted rest v) ts).map fun ts => replace k (.tableArray ts) entries
    | some _ => .error (.duplicate k)

mutual
/-- The value an entry stands for. -/
def Entry.toValue : Entry → Value
  | .value v => v
  | .table _ entries => .table (entriesToValues entries)
  | .tableArray tables => .array (tablesToValues tables)

/-- The values of a table's entries. -/
def entriesToValues : List (String × Entry) → List (String × Value)
  | [] => []
  | (k, e) :: rest => (k, e.toValue) :: entriesToValues rest

/-- The tables of an array of tables, as values. -/
def tablesToValues : List (List (String × Entry)) → List Value
  | [] => []
  | t :: rest => .table (entriesToValues t) :: tablesToValues rest
end

end DraftPool.Toml
