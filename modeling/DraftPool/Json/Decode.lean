import DraftPool.Json.Value
import DraftPool.Text.Decimal

/-
Reading typed values out of a document.
-/

namespace DraftPool.Json

/-- An integer within the bounds. -/
def asIntIn (lo hi : Int) : Json → Option Int
  | .number (.int n) => if lo ≤ n ∧ n ≤ hi then some n else none
  | _ => none

/-- A signed 64-bit integer. -/
def asInt64 : Json → Option Int := asIntIn Text.int64Min Text.int64Max

/-- A signed 32-bit integer. -/
def asInt32 : Json → Option Int := asIntIn Text.int32Min Text.int32Max

/-- A string. -/
def asString : Json → Option String
  | .string s => some s
  | _ => none

/-- A boolean. -/
def asBool : Json → Option Bool
  | .bool b => some b
  | _ => none

/-- The items of an array. -/
def asArray : Json → Option (List Json)
  | .array items => some items
  | _ => none

/-- The members of an object. -/
def asObject : Json → Option (List (String × Json))
  | .object members => some members
  | _ => none

/-- A sequence of values read alike. -/
def asList {α : Type} (item : Json → Option α) (j : Json) : Option (List α) :=
  (asArray j).bind (·.mapM item)

/-- A map of values read alike, in document order; a later key replaces an earlier one. -/
def asMap {α : Type} (value : Json → Option α) (j : Json) : Option (List (String × α)) :=
  (asObject j).bind fun members =>
    members.mapM fun (k, v) => (value v).map fun a => (k, a)

/-- The pairs of a map with a key given twice reduced to its last pair, in document order. -/
def lastOfEachKeyBy {α : Type} (pairs : List (String × α)) : List (String × α) :=
  pairs.reverse.foldl (fun kept p => if kept.any (·.1 == p.1) then kept else p :: kept) []

/-- The value under a key of a map read by `asMap`: the last one. -/
def mapGet? {α : Type} (key : String) (pairs : List (String × α)) : Option α :=
  (pairs.reverse.find? (·.1 == key)).map (·.2)

/-- The value of each named field of a record, absent fields as none. -/
def recordFields (names : List String) : Json → Option (List (Option Json))
  | .object members =>
    names.mapM fun name =>
      match members.filter (·.1 == name) with
      | [] => some none
      | [(_, v)] => some (some v)
      | _ => none
  | .array items =>
    if names.length < items.length then none
    else some (names.zipIdx.map fun (_, i) => items[i]?)
  | _ => none

/-- A required field. -/
def required {α : Type} (read : Json → Option α) : Option Json → Option α
  | some v => read v
  | none => none

/-- A field with a default. -/
def withDefault {α : Type} (d : α) (read : Json → Option α) : Option Json → Option α
  | some v => read v
  | none => some d

/-- An optional field, absent when missing or null. -/
def optional {α : Type} (read : Json → Option α) : Option Json → Option (Option α)
  | some .null => some none
  | some v => (read v).map some
  | none => some none

end DraftPool.Json
