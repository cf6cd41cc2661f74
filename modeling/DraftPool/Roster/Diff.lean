import DraftPool.Roster.Rows

/-
The difference between a stored roster and a desired one, by key.
-/

namespace DraftPool

/-- Items that are compared by a key, with the fields that a save may change. -/
class RosterItem (α : Type) where
  key : α → Int
  differs : α → α → Bool

instance : RosterItem Friend where
  key f := f.id
  differs f stored := f.displayOrder != stored.displayOrder || f.name != stored.name

instance : RosterItem Player where
  key p := p.id
  differs p stored := p.displayOrder != stored.displayOrder

/-- The active flag of years is rewritten as a whole, never compared year by year. -/
instance : RosterItem Year where
  key y := y.value
  differs _ _ := false

/-- The writes that turn a stored collection into a desired one. -/
structure RosterDiff (α : Type) where
  toInsert : List α
  toUpdate : List α
  toDelete : List α
  deriving Repr

/-- Whether a difference asks for no write. -/
def RosterDiff.isEmpty {α : Type} (d : RosterDiff α) : Bool :=
  d.toInsert.isEmpty && d.toUpdate.isEmpty && d.toDelete.isEmpty

/-- The stored version for a key: the last stored item with it. -/
def storedVersion {α : Type} [RosterItem α] (current : List α) (k : Int) : Option α :=
  current.reverse.find? (RosterItem.key · == k)

/-- Partitions the desired items against the stored ones, keeping the order of each input. -/
def diff {α : Type} [RosterItem α] (current desired : List α) : RosterDiff α :=
  let toInsert := desired.filter fun item => (storedVersion current (RosterItem.key item)).isNone
  let toUpdate := desired.filter fun item =>
    match storedVersion current (RosterItem.key item) with
    | some stored => RosterItem.differs item stored
    | none => false
  let wanted := desired.map RosterItem.key
  let toDelete := current.filter fun item => !wanted.contains (RosterItem.key item)
  ⟨toInsert, toUpdate, toDelete⟩

end DraftPool
