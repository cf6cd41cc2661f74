import DraftPool.Fetch.Cache
import Mathlib.Data.List.Rotate

/-
The ring answers every call as the queue of its entries. The main statement is `CacheRing.serves_as_queue`.
-/

namespace DraftPool

/-- A call on the request cache. -/
inductive CacheCall where
  | add (url body : String)
  | get (url : String)
  | contains (url : String)
  | size
  | clear

/-- What a call on the request cache answers. -/
inductive CacheAnswer where
  | stored
  | body (found : Option String)
  | present (found : Bool)
  | count (n : Nat)
  | cleared
  deriving DecidableEq, Repr

/-- The calls of a request cache kept in some representation. -/
structure CacheApi (σ : Type) where
  get? : σ → String → Option String
  contains : σ → String → Bool
  size : σ → Nat
  add : σ → String → String → σ
  clear : σ → σ

namespace CacheApi

variable {σ : Type} (api : CacheApi σ)

/-- One call: its answer and the cache it leaves. -/
def call (cache : σ) : CacheCall → CacheAnswer × σ
  | .add url body => (.stored, api.add cache url body)
  | .get url => (.body (api.get? cache url), cache)
  | .contains url => (.present (api.contains cache url), cache)
  | .size => (.count (api.size cache), cache)
  | .clear => (.cleared, api.clear cache)

/-- Calls made one after another: their answers and the cache they leave. -/
def run (cache : σ) : List CacheCall → List CacheAnswer × σ
  | [] => ([], cache)
  | c :: rest =>
    let step := api.call cache c
    let after := run step.2 rest
    (step.1 :: after.1, after.2)

end CacheApi

/-- The calls of the queue. -/
def RequestCache.api : CacheApi RequestCache :=
  ⟨RequestCache.get?, RequestCache.contains, RequestCache.size, RequestCache.add,
    RequestCache.clear⟩

@[simp] theorem RequestCache.capacity_add (cache : RequestCache) (url body : String) :
    (cache.add url body).capacity = cache.capacity := by
  unfold RequestCache.add
  split
  · rfl
  · split <;> rfl

/-- The calls of the ring. -/
def CacheRing.api : CacheApi CacheRing :=
  ⟨CacheRing.get?, CacheRing.contains, CacheRing.size, CacheRing.add, CacheRing.clear⟩

/-- Writing the item a rotation starts from and rotating one further puts the written item last. -/
theorem rotate_set_succ {α : Type} {l : List α} {i : Nat} (inside : i < l.length) (x : α) :
    (l.set i x).rotate (i + 1) = (l.rotate i).tail ++ [x] := by
  have fits : i + 1 ≤ (l.set i x).length := by
    rw [List.length_set]
    exact inside
  rw [List.rotate_eq_drop_append_take fits, List.rotate_eq_drop_append_take inside.le,
    List.drop_set_of_lt (Nat.lt_succ_self i), List.take_set,
    List.take_succ_eq_append_getElem inside, List.drop_eq_getElem_cons inside]
  rw [List.set_append_right _ _ (by rw [List.length_take]; omega)]
  simp only [List.length_take, Nat.min_eq_left inside.le, Nat.sub_self, List.set_cons_zero,
    List.cons_append, List.tail_cons, List.append_assoc]

namespace CacheRing

/-- The stored URLs, read around the ring from the slot the next new URL takes: oldest first. -/
def order (ring : CacheRing) : List String := (ring.slots.toList.rotate ring.index).filterMap id

/-- The entries the ring holds, oldest first. -/
def entries (ring : CacheRing) : List (String × String) :=
  ring.order.map fun url => (url, ring.values.getD url "")

/-- What every ring that calls reach keeps: free slots first, then distinct stored URLs. -/
structure Inv (ring : CacheRing) : Prop where
  layout : ring.slots.toList.rotate ring.index =
    List.replicate (ring.capacity - ring.order.length) none ++ ring.order.map some
  distinct : ring.order.Nodup
  keys : ∀ url, url ∈ ring.values ↔ url ∈ ring.order

/-- A ring answers as a queue: it keeps its invariant, and the queue holds the ring's entries
under the ring's capacity. -/
structure Refines (ring : CacheRing) (queue : RequestCache) : Prop where
  inv : ring.Inv
  capacity : queue.capacity = ring.capacity
  entries : queue.entries = ring.entries

theorem head?_rotate_index (ring : CacheRing) :
    (ring.slots.toList.rotate ring.index).head? = some (ring.slots.get ring.index) := by
  rw [List.head?_rotate (by simp), List.getElem?_eq_getElem (by simp), Vector.getElem_toList]
  rfl

theorem order_length_le {ring : CacheRing} (inv : ring.Inv) : ring.order.length ≤ ring.capacity := by
  have lengths := congrArg List.length inv.layout
  simp only [List.length_rotate, Vector.length_toList, List.length_append, List.length_replicate,
    List.length_map] at lengths
  omega

/-- The next slot is free while the ring has room, and otherwise holds the oldest URL. -/
theorem Inv.next_slot {ring : CacheRing} (inv : ring.Inv) :
    (ring.order.length < ring.capacity ∧ ring.slots.get ring.index = none ∧
      (ring.slots.toList.rotate ring.index).tail =
        List.replicate (ring.capacity - ring.order.length - 1) none ++ ring.order.map some) ∨
    (∃ oldest rest, ring.order = oldest :: rest ∧ ring.order.length = ring.capacity ∧
      ring.slots.get ring.index = some oldest ∧
      (ring.slots.toList.rotate ring.index).tail = rest.map some) := by
  have head := head?_rotate_index ring
  rw [inv.layout] at head ⊢
  by_cases room : ring.order.length < ring.capacity
  · obtain ⟨free, hasFree⟩ : ∃ free, ring.capacity - ring.order.length = free + 1 :=
      ⟨ring.capacity - ring.order.length - 1, by omega⟩
    rw [hasFree] at head ⊢
    refine .inl ⟨room, ?_, ?_⟩
    · simpa [List.replicate_succ] using head.symm
    · simp [List.replicate_succ]
  · have full : ring.order.length = ring.capacity := by
      have := order_length_le inv
      omega
    obtain ⟨oldest, rest, stored⟩ : ∃ oldest rest, ring.order = oldest :: rest := by
      cases ordered : ring.order with
      | nil =>
        have := ring.index.pos
        rw [ordered] at full
        simp at full
        omega
      | cons oldest rest => exact ⟨oldest, rest, rfl⟩
    rw [full, Nat.sub_self, stored] at head
    refine .inr ⟨oldest, rest, stored, full, by simpa using head.symm, ?_⟩
    rw [full, Nat.sub_self, stored]
    simp

/-! Reading the ring. -/

theorem mem_order_iff {ring : CacheRing} (inv : ring.Inv) {url : String} :
    url ∈ ring.order ↔ ring.values.contains url = true := by
  rw [← inv.keys, Std.HashMap.mem_iff_contains]

theorem entries_map_fst (ring : CacheRing) : ring.entries.map (·.1) = ring.order := by
  simp [entries, Function.comp_def]

/-- The entry a URL finds is the URL with its body, when the URL is stored. -/
theorem find?_entries (ring : CacheRing) (url : String) :
    ring.entries.find? (·.1 == url) =
      if url ∈ ring.order then some (url, ring.values.getD url "") else none := by
  unfold entries
  rw [List.find?_map]
  cases found : ring.order.find? ((·.1 == url) ∘ fun w => (w, ring.values.getD w "")) with
  | none =>
    have absent : url ∉ ring.order := fun member => by
      simpa using List.find?_eq_none.1 found url member
    simp [absent]
  | some w =>
    have same : w = url := by simpa using List.find?_some found
    subst same
    simp [List.mem_of_find?_eq_some found]

theorem Refines.get? {ring : CacheRing} {queue : RequestCache} (refines : ring.Refines queue)
    (url : String) : ring.get? url = queue.get? url := by
  unfold CacheRing.get? RequestCache.get?
  rw [refines.entries, find?_entries]
  by_cases stored : url ∈ ring.order
  · rw [if_pos stored]
    exact Std.HashMap.getElem?_eq_some_getD_of_contains ((mem_order_iff refines.inv).1 stored)
  · rw [if_neg stored]
    exact Std.HashMap.getElem?_eq_none fun member => stored ((refines.inv.keys url).1 member)

theorem Refines.contains {ring : CacheRing} {queue : RequestCache} (refines : ring.Refines queue)
    (url : String) : ring.contains url = queue.contains url := by
  unfold CacheRing.contains RequestCache.contains
  rw [refines.entries, Bool.eq_iff_iff, ← mem_order_iff refines.inv]
  simp [CacheRing.entries]

/-- The ring holds one body per stored URL. -/
theorem Refines.size {ring : CacheRing} {queue : RequestCache} (refines : ring.Refines queue) :
    ring.size = queue.size := by
  have keys : ring.values.keys.Perm ring.order :=
    (List.perm_ext_iff_of_nodup Std.HashMap.nodup_keys refines.inv.distinct).2 fun url => by
      rw [Std.HashMap.mem_keys, refines.inv.keys]
  unfold CacheRing.size RequestCache.size
  rw [← Std.HashMap.length_keys, keys.length_eq, refines.entries, CacheRing.entries,
    List.length_map]

/-! Emptying the ring. -/

/-- A ring with no body and every slot free holds no URL, wherever it points. -/
theorem order_of_free {ring : CacheRing} (free : ring.slots = Vector.replicate ring.capacity none) :
    ring.order = [] := by
  simp [order, free]

theorem inv_of_free {ring : CacheRing} (empty : ring.values = ∅)
    (free : ring.slots = Vector.replicate ring.capacity none) : ring.Inv where
  layout := by simp [order_of_free free, free]
  distinct := by simp [order_of_free free]
  keys url := by simp [order_of_free free, empty]

theorem Refines.clear {ring : CacheRing} {queue : RequestCache} (refines : ring.Refines queue) :
    ring.clear.Refines queue.clear where
  inv := inv_of_free rfl rfl
  capacity := refines.capacity
  entries := by simp [RequestCache.clear, CacheRing.entries, @order_of_free ring.clear rfl]

/-- A ring and a queue created with one capacity: both exactly when it is positive, and then
the ring answers as the queue. -/
theorem refines_create {capacity : Nat} (positive : 0 < capacity) :
    ∃ ring queue, CacheRing.create capacity = .ok ring ∧ RequestCache.create capacity = .ok queue ∧
      ring.Refines queue := by
  let ring : CacheRing := ⟨capacity, ∅, Vector.replicate capacity none, ⟨0, positive⟩⟩
  refine ⟨ring, ⟨capacity, [], positive⟩, by simp [CacheRing.create, positive, ring],
    by simp [RequestCache.create, positive], ⟨inv_of_free rfl rfl, rfl, ?_⟩⟩
  simp [entries, @order_of_free ring rfl]

/-! Storing a body. -/

@[simp] theorem capacity_add (ring : CacheRing) (url body : String) :
    (ring.add url body).capacity = ring.capacity := by
  unfold CacheRing.add
  split <;> rfl

theorem add_of_present {ring : CacheRing} {url : String} (present : ring.values.contains url = true)
    (body : String) : ring.add url body = { ring with values := ring.values.insert url body } := by
  unfold CacheRing.add
  rw [if_pos present]

section Fresh

variable {ring : CacheRing} {url : String} (fresh : ring.values.contains url = false)
  (body : String)
include fresh

theorem slots_add_fresh :
    (ring.add url body).slots.toList = ring.slots.toList.set ring.index (some url) := by
  unfold CacheRing.add
  rw [if_neg (by simp [fresh])]
  exact Vector.toList_set ring.index.isLt

theorem index_add_fresh :
    ((ring.add url body).index : Nat) = (ring.index + 1) % ring.capacity := by
  unfold CacheRing.add
  rw [if_neg (by simp [fresh])]

theorem values_add_free (free : ring.slots.get ring.index = none) :
    (ring.add url body).values = ring.values.insert url body := by
  simp only [CacheRing.add, fresh, free, Bool.false_eq_true, if_false]

theorem values_add_taken {oldest : String} (taken : ring.slots.get ring.index = some oldest) :
    (ring.add url body).values = (ring.values.erase oldest).insert url body := by
  simp only [CacheRing.add, fresh, taken, Bool.false_eq_true, if_false]

/-- A new URL goes in the next slot and the ring moves on: read from there, the slots are those
after the old position, then the new URL. -/
theorem rotate_add_fresh :
    (ring.add url body).slots.toList.rotate (ring.add url body).index =
      (ring.slots.toList.rotate ring.index).tail ++ [some url] := by
  have inside : (ring.index : Nat) < ring.slots.toList.length := by simp
  have wrapped : ((ring.index : Nat) + 1) % ring.capacity =
      (ring.index + 1) % (ring.slots.toList.set ring.index (some url)).length := by simp
  rw [slots_add_fresh fresh, index_add_fresh fresh, wrapped, List.rotate_mod,
    rotate_set_succ inside]

end Fresh

section Add

variable {ring : CacheRing} {queue : RequestCache} (refines : ring.Refines queue)
  {url body : String}
include refines

theorem Refines.absent (fresh : ring.values.contains url = false) : url ∉ ring.order :=
  fun stored => by simp [(mem_order_iff refines.inv).1 stored] at fresh

theorem Refines.queue_fresh (fresh : ring.values.contains url = false) :
    queue.contains url = false := by
  rw [← refines.contains]
  exact fresh

/-- A stored URL takes the new body where it is. -/
theorem Refines.add_present (present : ring.values.contains url = true) :
    (ring.add url body).Refines (queue.add url body) := by
  have inv := refines.inv
  have sameOrder : (ring.add url body).order = ring.order := by
    rw [add_of_present present]
    rfl
  have values : (ring.add url body).values = ring.values.insert url body := by
    rw [add_of_present present]
  have queuePresent : queue.contains url = true := by rw [← refines.contains]; exact present
  refine ⟨⟨?layout, ?distinct, fun other => ?keys⟩, by simpa using refines.capacity, ?entries⟩
  case layout =>
    rw [sameOrder, add_of_present present]
    exact inv.layout
  case distinct => exact sameOrder ▸ inv.distinct
  case keys =>
    rw [values, sameOrder, Std.HashMap.mem_insert, ← inv.keys]
    constructor
    · rintro (same | stored)
      · rw [← beq_iff_eq.1 same]
        exact Std.HashMap.mem_iff_contains.2 present
      · exact stored
    · exact .inr
  case entries =>
    simp only [RequestCache.add, queuePresent, if_true, refines.entries, CacheRing.entries,
      sameOrder, values, List.map_map]
    refine List.map_congr_left fun other _ => ?_
    by_cases same : url = other
    · subst same
      simp
    · simp [Std.HashMap.getD_insert, same, Ne.symm same]

/-- A new URL, while the ring has room, takes a free slot and goes last. -/
theorem Refines.add_room (fresh : ring.values.contains url = false)
    (room : ring.order.length < ring.capacity) (free : ring.slots.get ring.index = none)
    (after : (ring.slots.toList.rotate ring.index).tail =
      List.replicate (ring.capacity - ring.order.length - 1) none ++ ring.order.map some) :
    (ring.add url body).Refines (queue.add url body) := by
  have inv := refines.inv
  have absent := refines.absent fresh
  have order : (ring.add url body).order = ring.order ++ [url] := by
    simp [CacheRing.order, rotate_add_fresh fresh, after, List.filterMap_append]
  have values := values_add_free fresh body free
  have queueRoom : queue.entries.length < queue.capacity := by
    rw [refines.entries, refines.capacity, CacheRing.entries, List.length_map]
    exact room
  refine ⟨⟨?layout, ?distinct, fun other => ?keys⟩, by simpa using refines.capacity, ?entries⟩
  case layout =>
    rw [rotate_add_fresh fresh, after, order, capacity_add, List.length_append,
      List.length_singleton, Nat.sub_sub, List.map_append, List.append_assoc]
    rfl
  case distinct =>
    rw [order]
    exact List.nodup_append.2 ⟨inv.distinct, List.nodup_singleton url,
      fun a stored b added => by simp at added; subst added; exact fun same => absent (same ▸ stored)⟩
  case keys =>
    rw [values, order, Std.HashMap.mem_insert, inv.keys, List.mem_append, List.mem_singleton,
      beq_iff_eq, eq_comm, or_comm]
  case entries =>
    unfold RequestCache.add
    rw [if_neg (by simp [refines.queue_fresh fresh]), if_pos queueRoom]
    simp only [refines.entries, CacheRing.entries, order, values, List.map_append,
      List.map_singleton, Std.HashMap.getD_insert_self]
    congr 1
    refine List.map_congr_left fun other stored => ?_
    have differs : url ≠ other := fun same => absent (same ▸ stored)
    simp [Std.HashMap.getD_insert, differs]

/-- A new URL, once the ring is full, evicts the oldest URL from its slot and goes last. -/
theorem Refines.add_full (fresh : ring.values.contains url = false) {oldest : String}
    {rest : List String} (stored : ring.order = oldest :: rest)
    (full : ring.order.length = ring.capacity) (taken : ring.slots.get ring.index = some oldest)
    (after : (ring.slots.toList.rotate ring.index).tail = rest.map some) :
    (ring.add url body).Refines (queue.add url body) := by
  have inv := refines.inv
  have absent := refines.absent fresh
  have distinctRest : oldest ∉ rest ∧ rest.Nodup := List.nodup_cons.1 (stored ▸ inv.distinct)
  have order : (ring.add url body).order = rest ++ [url] := by
    simp [CacheRing.order, rotate_add_fresh fresh, after, List.filterMap_append]
  have values := values_add_taken fresh body taken
  have queueFull : ¬queue.entries.length < queue.capacity := by
    rw [refines.entries, refines.capacity, CacheRing.entries, List.length_map, full]
    exact Nat.lt_irrefl _
  have lengths : rest.length + 1 = ring.capacity := by
    rw [← full, stored, List.length_cons]
  refine ⟨⟨?layout, ?distinct, fun other => ?keys⟩, by simpa using refines.capacity, ?entries⟩
  case layout =>
    rw [rotate_add_fresh fresh, after, order, capacity_add, List.length_append,
      List.length_singleton, lengths, Nat.sub_self, List.map_append]
    rfl
  case distinct =>
    rw [order]
    refine List.nodup_append.2 ⟨distinctRest.2, List.nodup_singleton url,
      fun a kept b added => ?_⟩
    simp only [List.mem_singleton] at added
    subst added
    exact fun same => absent (stored ▸ List.mem_cons_of_mem _ (same ▸ kept))
  case keys =>
    rw [values, order, Std.HashMap.mem_insert, Std.HashMap.mem_erase, inv.keys, stored,
      List.mem_append, List.mem_singleton, List.mem_cons, beq_iff_eq, beq_eq_false_iff_ne]
    constructor
    · rintro (rfl | ⟨notOldest, same | kept⟩)
      · exact .inr rfl
      · exact absurd same.symm notOldest
      · exact .inl kept
    · rintro (kept | rfl)
      · exact .inr ⟨fun same => distinctRest.1 (same ▸ kept), .inr kept⟩
      · exact .inl rfl
  case entries =>
    unfold RequestCache.add
    rw [if_neg (by simp [refines.queue_fresh fresh]), if_neg queueFull]
    simp only [refines.entries, CacheRing.entries, stored, order, values, List.map_cons,
      List.drop_succ_cons, List.drop_zero, List.map_append, Std.HashMap.getD_insert_self]
    congr 1
    refine List.map_congr_left fun other kept => ?_
    have notNew : url ≠ other := fun same => absent (stored ▸ List.mem_cons_of_mem _ (same ▸ kept))
    have notOldest : oldest ≠ other := fun same => distinctRest.1 (same ▸ kept)
    simp [Std.HashMap.getD_insert, Std.HashMap.getD_erase, notNew, notOldest]

/-- Storing a body keeps the ring answering as the queue. -/
theorem Refines.add : (ring.add url body).Refines (queue.add url body) := by
  cases present : ring.values.contains url
  · rcases refines.inv.next_slot with ⟨room, free, after⟩ |
      ⟨oldest, rest, stored, full, taken, after⟩
    · exact refines.add_room present room free after
    · exact refines.add_full present stored full taken after
  · exact refines.add_present present

end Add

/-! Any calls. -/

/-- One call on a ring that answers as a queue gives the queue's answer and leaves a ring that
answers as the queue left. -/
theorem Refines.call {ring : CacheRing} {queue : RequestCache} (refines : ring.Refines queue) :
    ∀ c : CacheCall, (CacheRing.api.call ring c).1 = (RequestCache.api.call queue c).1 ∧
      (CacheRing.api.call ring c).2.Refines (RequestCache.api.call queue c).2
  | .add _ _ => ⟨rfl, refines.add⟩
  | .get url => ⟨congrArg CacheAnswer.body (refines.get? url), refines⟩
  | .contains url => ⟨congrArg CacheAnswer.present (refines.contains url), refines⟩
  | .size => ⟨congrArg CacheAnswer.count refines.size, refines⟩
  | .clear => ⟨rfl, refines.clear⟩

theorem Refines.run {ring : CacheRing} {queue : RequestCache} (refines : ring.Refines queue)
    (calls : List CacheCall) :
    (CacheRing.api.run ring calls).1 = (RequestCache.api.run queue calls).1 ∧
      (CacheRing.api.run ring calls).2.Refines (RequestCache.api.run queue calls).2 := by
  -- each call is answered alike from the pair the calls before it left
  induction calls generalizing ring queue with
  | nil => exact ⟨rfl, refines⟩
  | cons c rest inductionHypothesis =>
    obtain ⟨sameAnswer, next⟩ := refines.call c
    obtain ⟨sameAnswers, final⟩ := inductionHypothesis next
    exact ⟨by simp only [CacheApi.run, sameAnswer, sameAnswers], final⟩

theorem capacity_run (ring : CacheRing) (calls : List CacheCall) :
    (CacheRing.api.run ring calls).2.capacity = ring.capacity := by
  induction calls generalizing ring with
  | nil => rfl
  | cons c rest inductionHypothesis =>
    rw [CacheApi.run, inductionHypothesis]
    cases c <;> simp [CacheApi.call, CacheRing.api, CacheRing.clear]

/-- The request cache is a bounded queue: along any calls the ring gives the queue's answers. -/
theorem serves_as_queue (capacity : Nat) (positive : 0 < capacity) :
    ∃ ring queue, CacheRing.create capacity = .ok ring ∧ RequestCache.create capacity = .ok queue ∧
      ∀ calls : List CacheCall,
        let answered := CacheRing.api.run ring calls
        let expected := RequestCache.api.run queue calls
        answered.1 = expected.1 ∧ answered.2.Refines expected.2 ∧
          (answered.2.index : Nat) < capacity ∧
          (expected.2.entries.map (·.1)).Nodup ∧ expected.2.entries.length ≤ capacity := by
  obtain ⟨ring, queue, created, createdQueue, refines⟩ := refines_create positive
  have sameCapacity : ring.capacity = capacity := by
    simp only [CacheRing.create, positive, dite_true, Except.ok.injEq] at created
    rw [← created]
  refine ⟨ring, queue, created, createdQueue, fun calls => ?_⟩
  obtain ⟨sameAnswers, final⟩ := refines.run calls
  have bounded : ((CacheRing.api.run ring calls).2.index : Nat) < capacity :=
    Nat.lt_of_lt_of_eq (CacheRing.api.run ring calls).2.index.isLt
      ((capacity_run ring calls).trans sameCapacity)
  have lengthBound := order_length_le final.inv
  rw [capacity_run, sameCapacity] at lengthBound
  refine ⟨sameAnswers, final, bounded, ?_, ?_⟩
  · rw [final.entries, entries_map_fst]
    exact final.inv.distinct
  · rw [final.entries, CacheRing.entries, List.length_map]
    exact lengthBound

/-- A ring of two slots answers as the queue of at most two entries. -/
theorem serves_as_queue_two : 0 < 2 ∧ ∃ ring queue, CacheRing.create 2 = .ok ring ∧
    RequestCache.create 2 = .ok queue ∧
      ∀ calls : List CacheCall,
        let answered := CacheRing.api.run ring calls
        let expected := RequestCache.api.run queue calls
        answered.1 = expected.1 ∧ answered.2.Refines expected.2 ∧
          (answered.2.index : Nat) < 2 ∧
          (expected.2.entries.map (·.1)).Nodup ∧ expected.2.entries.length ≤ 2 :=
  ⟨by decide, serves_as_queue 2 (by decide)⟩

end CacheRing

end DraftPool
