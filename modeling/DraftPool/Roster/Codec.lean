import DraftPool.Roster.Rows
import DraftPool.Json.Typed
import DraftPool.Text.Decimal

/-
Roster rows as documents: how friends, players and years are written, and the field types
with which lists of them are read from a request body.
-/

namespace DraftPool

open Json

/-- A friend as a document. -/
def Friend.toJson (f : Friend) : Json :=
  .object [("id", .int f.id), ("display_order", .int f.displayOrder), ("name", .string f.name)]

/-- A player as a document. -/
def Player.toJson (p : Player) : Json :=
  .object [("id", .int p.id), ("category_id", .int p.categoryId), ("source_id", .int p.sourceId),
    ("friend_id", .int p.friendId), ("display_order", .int p.displayOrder)]

/-- A year as a document. -/
def Year.toJson (y : Year) : Json :=
  .object [("value", .int y.value), ("active", .bool y.active)]

/-- A signed 64-bit integer field. -/
def int64Field : FieldType := .int Text.int64Min Text.int64Max

/-- A signed 32-bit integer field. -/
def int32Field : FieldType := .int Text.int32Min Text.int32Max

/-- The fields of a friend, in order. -/
def Friend.fields : List (String × FieldType) :=
  [("id", int64Field), ("display_order", int32Field), ("name", .string)]

/-- The fields of a player, in order. -/
def Player.fields : List (String × FieldType) :=
  [("id", int64Field), ("category_id", int64Field), ("source_id", int64Field),
    ("friend_id", int64Field), ("display_order", int32Field)]

/-- The fields of a year, in order. -/
def Year.fields : List (String × FieldType) := [("value", int32Field), ("active", .bool)]

/-- The integer of a field value. -/
def intValue : Json → Option Int
  | .number (.int n) => some n
  | _ => none

/-- A friend from its field values. -/
def Friend.ofValues : List Json → Option Friend
  | [id, order, .string name] => return ⟨← intValue id, ← intValue order, name⟩
  | _ => none

/-- A player from its field values. -/
def Player.ofValues : List Json → Option Player
  | [id, category, source, friend, order] =>
    return ⟨← intValue id, ← intValue category, ← intValue source, ← intValue friend,
      ← intValue order⟩
  | _ => none

/-- A year from its field values. -/
def Year.ofValues : List Json → Option Year
  | [value, .bool active] => return ⟨← intValue value, active⟩
  | _ => none

end DraftPool
