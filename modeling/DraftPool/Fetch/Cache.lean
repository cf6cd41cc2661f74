import Std.Data.HashMap

/-
The request cache: a bounded queue of bodies by URL.
-/

namespace DraftPool

/-- Response bodies by URL, oldest first. -/
structure RequestCache where
  capacity : Nat
  entries : List (String × String)
  capacity_pos : 0 < capacity
  deriving Repr

/-- A capacity of zero, refused. -/
structure ZeroCapacity where
  deriving DecidableEq, Repr

/-- The message refusing a capacity of zero. -/
def ZeroCapacity.message (_ : ZeroCapacity) : String :=
  "Request cache capacity must be positive, got 0"

namespace RequestCache

/-- An empty cache of the given capacity. -/
def create (capacity : Nat) : Except ZeroCapacity RequestCache :=
  if h : 0 < capacity then .ok ⟨capacity, [], h⟩ else .error ⟨⟩

/-- The body stored for a URL. -/
def get? (cache : RequestCache) (url : String) : Option String :=
  (cache.entries.find? (·.1 == url)).map (·.2)

/-- Whether a body is stored for a URL. -/
def contains (cache : RequestCache) (url : String) : Bool := cache.entries.any (·.1 == url)

/-- The number of stored bodies. -/
def size (cache : RequestCache) : Nat := cache.entries.length

/-- Stores a body. A new URL goes last, evicting the oldest entry when the cache is full. -/
def add (cache : RequestCache) (url body : String) : RequestCache :=
  if cache.contains url then
    { cache with entries := cache.entries.map fun e => if e.1 == url then (url, body) else e }
  else if cache.entries.length < cache.capacity then
    { cache with entries := cache.entries ++ [(url, body)] }
  else
    { cache with entries := cache.entries.drop 1 ++ [(url, body)] }

/-- The cache with nothing stored. -/
def clear (cache : RequestCache) : RequestCache := { cache with entries := [] }

end RequestCache

/-- The request cache as a ring: the bodies by URL, the slots holding the stored URLs, and the
slot the next new URL takes. -/
structure CacheRing where
  capacity : Nat
  values : Std.HashMap String String
  slots : Vector (Option String) capacity
  index : Fin capacity

namespace CacheRing

/-- An empty ring of the given capacity, every slot free. -/
def create (capacity : Nat) : Except ZeroCapacity CacheRing :=
  if h : 0 < capacity then .ok ⟨capacity, ∅, Vector.replicate capacity none, ⟨0, h⟩⟩
  else .error ⟨⟩

/-- The body stored for a URL. -/
def get? (ring : CacheRing) (url : String) : Option String := ring.values[url]?

/-- Whether a body is stored for a URL. -/
def contains (ring : CacheRing) (url : String) : Bool := ring.values.contains url

/-- The number of stored bodies. -/
def size (ring : CacheRing) : Nat := ring.values.size

/-- Stores a body. A URL already stored keeps its slot and takes the new body; a new URL takes
the next slot, evicting the URL held there, and the ring moves on to the slot after it. -/
def add (ring : CacheRing) (url body : String) : CacheRing :=
  if ring.values.contains url then { ring with values := ring.values.insert url body }
  else
    let kept := match ring.slots.get ring.index with
      | some evicted => ring.values.erase evicted
      | none => ring.values
    { ring with
      values := kept.insert url body
      slots := ring.slots.set ring.index (some url) ring.index.isLt
      index := ⟨(ring.index.val + 1) % ring.capacity, Nat.mod_lt _ ring.index.pos⟩ }

/-- Drops every body, frees every slot and rewinds the ring. -/
def clear (ring : CacheRing) : CacheRing :=
  { ring with
    values := ∅
    slots := Vector.replicate ring.capacity none
    index := ⟨0, ring.index.pos⟩ }

end CacheRing

end DraftPool
