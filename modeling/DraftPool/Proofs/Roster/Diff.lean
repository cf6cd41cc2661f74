import DraftPool.Roster.Diff
import Mathlib.Data.List.Nodup
import Mathlib.Logic.Function.Basic

/-
The plan of a roster save, by key. The main statement is `diff_partitions_by_key`.
-/

namespace DraftPool

section Plan

variable {α : Type} [RosterItem α]

theorem storedVersion_eq_none_iff {current : List α} {k : Int} :
    storedVersion current k = none ↔ k ∉ current.map RosterItem.key := by
  simp only [storedVersion, List.find?_eq_none, List.mem_reverse, beq_iff_eq, List.mem_map,
    not_exists, not_and]

/-- With distinct keys the stored version of a stored item's key is the item itself. -/
theorem storedVersion_of_mem {current : List α} (distinct : (current.map RosterItem.key).Nodup)
    {x : α} (member : x ∈ current) : storedVersion current (RosterItem.key x) = some x := by
  unfold storedVersion
  obtain ⟨y, first⟩ : ∃ y, current.reverse.find? (RosterItem.key · == RosterItem.key x) = some y :=
    Option.isSome_iff_exists.1 (List.find?_isSome.2 ⟨x, List.mem_reverse.2 member, by simp⟩)
  have sameKey := List.find?_some first
  rw [beq_iff_eq] at sameKey
  have stored := List.mem_reverse.1 (List.mem_of_find?_eq_some first)
  rw [first, List.inj_on_of_nodup_map distinct stored member sameKey]

/-- The plan adds the desired items whose key is not stored, in their order. -/
theorem toInsert_eq (current desired : List α) :
    (diff current desired).toInsert =
      desired.filter fun d => !(current.map RosterItem.key).contains (RosterItem.key d) := by
  refine List.filter_congr fun d _ => ?_
  rw [Bool.eq_iff_iff, Option.isNone_iff_eq_none, storedVersion_eq_none_iff]
  simp

theorem mem_toDelete_iff {current desired : List α} {x : α} :
    x ∈ (diff current desired).toDelete ↔
      x ∈ current ∧ RosterItem.key x ∉ desired.map RosterItem.key := by
  simp [diff]

/-- With distinct stored keys the plan writes over exactly the desired items that differ from
the stored item with their key. -/
theorem mem_toUpdate_iff {current desired : List α} (distinct : (current.map RosterItem.key).Nodup)
    {d : α} : d ∈ (diff current desired).toUpdate ↔
      d ∈ desired ∧ ∃ x ∈ current, RosterItem.key x = RosterItem.key d ∧
        RosterItem.differs d x = true := by
  change d ∈ desired.filter _ ↔ _
  rw [List.mem_filter]
  constructor
  · rintro ⟨wanted, listed⟩
    cases found : storedVersion current (RosterItem.key d) with
    | none => simp [found] at listed
    | some x =>
      simp only [found] at listed
      unfold storedVersion at found
      have sameKey := List.find?_some found
      rw [beq_iff_eq] at sameKey
      exact ⟨wanted, x, List.mem_reverse.1 (List.mem_of_find?_eq_some found), sameKey, listed⟩
  · rintro ⟨wanted, x, stored, sameKey, differs⟩
    rw [← sameKey, storedVersion_of_mem distinct stored]
    exact ⟨wanted, differs⟩

/-- The plan writes over desired items only. -/
theorem toUpdate_sublist (current desired : List α) :
    (diff current desired).toUpdate.Sublist
      (desired.filter fun d => (current.map RosterItem.key).contains (RosterItem.key d)) := by
  change (desired.filter _).Sublist _
  refine List.monotone_filter_right desired fun d listed => ?_
  cases found : storedVersion current (RosterItem.key d) with
  | none => simp [found] at listed
  | some x =>
    unfold storedVersion at found
    have sameKey := List.find?_some found
    rw [beq_iff_eq] at sameKey
    rw [← sameKey, List.contains_iff_mem]
    exact List.mem_map_of_mem (List.mem_reverse.1 (List.mem_of_find?_eq_some found))

/-- A stored item the plan deletes is stored. -/
theorem mem_of_mem_toDelete {current desired : List α} {x : α}
    (deleted : x ∈ (diff current desired).toDelete) : x ∈ current :=
  (List.mem_filter.1 deleted).1

/-- A desired item the plan updates has the key of a stored item. -/
theorem key_mem_of_mem_toUpdate {current desired : List α} {x : α}
    (updated : x ∈ (diff current desired).toUpdate) :
    RosterItem.key x ∈ current.map RosterItem.key := by
  have listed := (List.mem_filter.1 ((toUpdate_sublist current desired).subset updated)).2
  simpa using listed

/-- Against nothing stored the plan adds every desired item. -/
theorem diff_nil (desired : List α) : diff ([] : List α) desired = ⟨desired, [], []⟩ := by
  simp [diff, storedVersion]

/-- The plan's additions and writes are desired items, its deletions stored ones; so the keys of
each list are distinct when those of its input are. -/
theorem toInsert_sublist (current desired : List α) :
    (diff current desired).toInsert.Sublist desired :=
  List.filter_sublist

theorem toDelete_sublist (current desired : List α) :
    (diff current desired).toDelete.Sublist current :=
  List.filter_sublist

theorem nodup_keys_of_sublist {xs ys : List α} (sub : xs.Sublist ys)
    (distinct : (ys.map RosterItem.key).Nodup) : (xs.map RosterItem.key).Nodup :=
  distinct.sublist (sub.map _)

end Plan

theorem rosterKey_friend : (RosterItem.key : Friend → Int) = (·.id) := rfl

@[simp] theorem rosterDiffers_friend (d f : Friend) :
    RosterItem.differs d f = (d.displayOrder != f.displayOrder || d.name != f.name) := rfl

theorem rosterKey_player : (RosterItem.key : Player → Int) = (·.id) := rfl

@[simp] theorem rosterDiffers_player (d p : Player) :
    RosterItem.differs d p = (d.displayOrder != p.displayOrder) := rfl

/-! The fields a save may change. -/

/-- The fields of a roster item that a save may change: an item differs from its stored version
exactly when these fields do. -/
class RosterFields (α : Type) [RosterItem α] (β : outParam Type) where
  fields : α → β
  differs_iff : ∀ a b : α, RosterItem.differs a b = true ↔ fields a ≠ fields b

/-- An item that does not differ from another has its fields. -/
theorem RosterFields.fields_eq_of_differs_false {α β : Type} [RosterItem α] [RosterFields α β]
    {a b : α} (same : RosterItem.differs a b = false) : fields a = fields b :=
  not_not.1 fun different => by
    have differs := (differs_iff a b).2 different
    rw [same] at differs
    cases differs

/-- A friend's order and name can change. -/
instance : RosterFields Friend (Int × String) where
  fields f := (f.displayOrder, f.name)
  differs_iff a b := by
    simp only [rosterDiffers_friend, Bool.or_eq_true, bne_iff_ne, ne_eq, Prod.mk.injEq]
    exact not_and_or.symm

/-- A player's order can change; a player is never moved to another friend or category. -/
instance : RosterFields Player Int where
  fields p := p.displayOrder
  differs_iff a b := by simp

/-- Nothing of a year is compared: its active flag is rewritten as a whole. -/
instance : RosterFields Year Unit where
  fields _ := ()
  differs_iff _ _ := by
    change false = true ↔ _
    simp

/-! Writing items at their keys. -/

section Writes

variable {α β : Type} (key : α → Int) (value : α → Option β)

/-- Writes the items of a list at their keys, one after another. -/
def writeAll (xs : List α) (m : Int → Option β) : Int → Option β :=
  xs.foldl (fun m x => Function.update m (key x) (value x)) m

variable {key value}

theorem writeAll_cons (y : α) (ys : List α) (m : Int → Option β) :
    writeAll key value (y :: ys) m = writeAll key value ys (Function.update m (key y) (value y)) :=
  rfl

/-- A key that no item has keeps its value. -/
theorem writeAll_of_absent {xs : List α} {k : Int} (absent : ∀ x ∈ xs, key x ≠ k)
    (m : Int → Option β) : writeAll key value xs m k = m k := by
  induction xs generalizing m with
  | nil => rfl
  | cons y ys inductionHypothesis =>
    rw [writeAll_cons, inductionHypothesis fun x member => absent x (List.mem_cons_of_mem y member),
      Function.update_of_ne (absent y List.mem_cons_self).symm]

/-- With distinct keys, the key of an item holds that item's value. -/
theorem writeAll_of_mem {xs : List α} (distinct : (xs.map key).Nodup) {x : α} (member : x ∈ xs)
    (m : Int → Option β) : writeAll key value xs m (key x) = value x := by
  induction xs generalizing m with
  | nil => simp at member
  | cons y ys inductionHypothesis =>
    rw [List.map_cons, List.nodup_cons] at distinct
    rw [writeAll_cons]
    rcases List.mem_cons.1 member with rfl | later
    · -- no later item has the key, so the first write stands
      have absent : ∀ z ∈ ys, key z ≠ key x := fun z listed same =>
        distinct.1 (same ▸ List.mem_map_of_mem listed)
      rw [writeAll_of_absent absent, Function.update_self]
    · exact inductionHypothesis distinct.2 later _

end Writes

/-! Carrying out a plan. -/

section Apply

variable {α β : Type} [RosterItem α] [RosterFields α β]

/-- The fields of a roster by key: those of the first item with the key. -/
def fieldsByKey (xs : List α) (k : Int) : Option β :=
  (xs.find? (RosterItem.key · == k)).map RosterFields.fields

/-- Carries out a plan over a map from keys to fields: the deleted keys are dropped, then each
added and each written-over item is written at its key. -/
def applyPlan (m : Int → Option β) (plan : RosterDiff α) : Int → Option β :=
  let write := writeAll RosterItem.key fun x => some (RosterFields.fields x)
  write plan.toUpdate (write plan.toInsert (writeAll RosterItem.key (fun _ => none) plan.toDelete m))

theorem fieldsByKey_of_mem {xs : List α} (distinct : (xs.map RosterItem.key).Nodup) {x : α}
    (member : x ∈ xs) : fieldsByKey xs (RosterItem.key x) = some (RosterFields.fields x) := by
  obtain ⟨y, first⟩ : ∃ y, xs.find? (RosterItem.key · == RosterItem.key x) = some y :=
    Option.isSome_iff_exists.1 (List.find?_isSome.2 ⟨x, member, by simp⟩)
  have sameKey : RosterItem.key y = RosterItem.key x := by simpa using List.find?_some first
  rw [fieldsByKey, first, List.inj_on_of_nodup_map distinct (List.mem_of_find?_eq_some first)
    member sameKey]
  rfl

theorem fieldsByKey_of_absent {xs : List α} {k : Int} (absent : k ∉ xs.map RosterItem.key) :
    fieldsByKey xs k = none := by
  have none : xs.find? (RosterItem.key · == k) = none := by
    rw [List.find?_eq_none]
    intro x member same
    exact absent (List.mem_map.2 ⟨x, member, by simpa using same⟩)
  rw [fieldsByKey, none]
  rfl

/-- A key that no write of a plan names keeps its fields. -/
theorem applyPlan_of_untouched (m : Int → Option β) {plan : RosterDiff α} {k : Int}
    (noUpdate : ∀ x ∈ plan.toUpdate, RosterItem.key x ≠ k)
    (noInsert : ∀ x ∈ plan.toInsert, RosterItem.key x ≠ k)
    (noDelete : ∀ x ∈ plan.toDelete, RosterItem.key x ≠ k) : applyPlan m plan k = m k := by
  simp only [applyPlan]
  rw [writeAll_of_absent noUpdate, writeAll_of_absent noInsert, writeAll_of_absent noDelete]

/-- The key of a written-over item takes its fields. -/
theorem applyPlan_of_updated (m : Int → Option β) {plan : RosterDiff α}
    (distinct : (plan.toUpdate.map RosterItem.key).Nodup) {d : α} (updated : d ∈ plan.toUpdate) :
    applyPlan m plan (RosterItem.key d) = some (RosterFields.fields d) :=
  writeAll_of_mem distinct updated _

/-- The key of an added item that nothing writes over takes its fields. -/
theorem applyPlan_of_inserted (m : Int → Option β) {plan : RosterDiff α}
    (distinct : (plan.toInsert.map RosterItem.key).Nodup) {d : α} (inserted : d ∈ plan.toInsert)
    (noUpdate : ∀ x ∈ plan.toUpdate, RosterItem.key x ≠ RosterItem.key d) :
    applyPlan m plan (RosterItem.key d) = some (RosterFields.fields d) := by
  simp only [applyPlan]
  rw [writeAll_of_absent noUpdate, writeAll_of_mem distinct inserted]

/-- The key of a deleted item that nothing adds or writes over is dropped. -/
theorem applyPlan_of_deleted (m : Int → Option β) {plan : RosterDiff α}
    (distinct : (plan.toDelete.map RosterItem.key).Nodup) {c : α} (deleted : c ∈ plan.toDelete)
    (noUpdate : ∀ x ∈ plan.toUpdate, RosterItem.key x ≠ RosterItem.key c)
    (noInsert : ∀ x ∈ plan.toInsert, RosterItem.key x ≠ RosterItem.key c) :
    applyPlan m plan (RosterItem.key c) = none := by
  simp only [applyPlan]
  rw [writeAll_of_absent noUpdate, writeAll_of_absent noInsert, writeAll_of_mem distinct deleted]

/-- The plan adds no item whose key is stored. -/
theorem key_not_mem_of_mem_toInsert {current desired : List α} {x : α}
    (inserted : x ∈ (diff current desired).toInsert) :
    RosterItem.key x ∉ current.map RosterItem.key := by
  rw [toInsert_eq, List.mem_filter] at inserted
  simpa using inserted.2

/-- A desired item equal in its fields to the stored item with its key is not written over, nor
is anything else with that key. -/
theorem key_ne_of_mem_toUpdate {current desired : List α}
    (distinct : (current.map RosterItem.key).Nodup) (distinct' : (desired.map RosterItem.key).Nodup)
    {d c : α} (listed : d ∈ desired) (kept : c ∈ current) (sameKey : RosterItem.key c = RosterItem.key d)
    (unchanged : RosterItem.differs d c = false) :
    ∀ x ∈ (diff current desired).toUpdate, RosterItem.key x ≠ RosterItem.key d := by
  intro x updated same
  obtain ⟨_, c', kept', sameKey', changed⟩ := (mem_toUpdate_iff distinct).1 updated
  have sameStored := List.inj_on_of_nodup_map distinct kept' kept (sameKey'.trans (same.trans sameKey.symm))
  have sameDesired := List.inj_on_of_nodup_map distinct' (List.mem_of_mem_filter updated) listed same
  subst sameStored sameDesired
  rw [unchanged] at changed
  cases changed

/-- Carried out over the stored fields by key, the plan gives the desired fields by key. -/
theorem applyPlan_diff {current desired : List α}
    (distinct : (current.map RosterItem.key).Nodup) (distinct' : (desired.map RosterItem.key).Nodup) :
    applyPlan (fieldsByKey current) (diff current desired) = fieldsByKey desired := by
  let plan := diff current desired
  have updatesDesired : plan.toUpdate.Sublist desired :=
    (toUpdate_sublist current desired).trans List.filter_sublist
  have updatesDistinct := nodup_keys_of_sublist updatesDesired distinct'
  funext k
  by_cases wanted : k ∈ desired.map RosterItem.key
  · obtain ⟨d, listed, rfl⟩ := List.mem_map.1 wanted
    rw [fieldsByKey_of_mem distinct' listed]
    by_cases stored : RosterItem.key d ∈ current.map RosterItem.key
    · obtain ⟨c, kept, sameKey⟩ := List.mem_map.1 stored
      cases changed : RosterItem.differs d c
      case true =>
        -- the stored item is written over with the desired one
        exact applyPlan_of_updated _ updatesDistinct
          ((mem_toUpdate_iff distinct).2 ⟨listed, c, kept, sameKey, changed⟩)
      case false =>
        -- the stored item stays, and its fields are the desired ones
        have sameFields := RosterFields.fields_eq_of_differs_false changed
        rw [applyPlan_of_untouched _ (key_ne_of_mem_toUpdate distinct distinct' listed kept sameKey changed)
          (fun x inserted same => key_not_mem_of_mem_toInsert inserted (same ▸ stored))
          (fun x deleted same => (mem_toDelete_iff.1 deleted).2 (same ▸ wanted)),
          ← sameKey, fieldsByKey_of_mem distinct kept, sameFields]
    · -- the desired item is added
      exact applyPlan_of_inserted _ (nodup_keys_of_sublist (toInsert_sublist current desired) distinct')
        (by rw [toInsert_eq, List.mem_filter]; exact ⟨listed, by simpa using stored⟩)
        (fun x updated same => stored (same ▸ key_mem_of_mem_toUpdate updated))
  · -- no desired item has the key: it is deleted if stored
    have unwanted {xs : List α} (sub : xs.Sublist desired) : ∀ x ∈ xs, RosterItem.key x ≠ k :=
      fun x member same => wanted (same ▸ List.mem_map_of_mem (sub.subset member))
    rw [fieldsByKey_of_absent wanted]
    by_cases stored : k ∈ current.map RosterItem.key
    · obtain ⟨c, kept, rfl⟩ := List.mem_map.1 stored
      exact applyPlan_of_deleted _ (nodup_keys_of_sublist (toDelete_sublist current desired) distinct)
        (mem_toDelete_iff.2 ⟨kept, wanted⟩) (unwanted updatesDesired)
        (unwanted (toInsert_sublist current desired))
    · rw [applyPlan_of_untouched _ (unwanted updatesDesired) (unwanted (toInsert_sublist current desired))
        fun x deleted same => stored (List.mem_map.2 ⟨x, mem_of_mem_toDelete deleted, same⟩),
        fieldsByKey_of_absent stored]

end Apply

/-! The partition. -/

section Partition

variable {α β : Type} [RosterItem α]

/-- Against stored items with distinct keys, the plan adds, overwrites and deletes by key. -/
theorem diff_eq_partition {current : List α} (desired : List α)
    (distinct : (current.map RosterItem.key).Nodup) :
    diff current desired =
      ⟨desired.filter fun d => RosterItem.key d ∉ current.map RosterItem.key,
        desired.filter fun d => ∃ c ∈ current, RosterItem.key c = RosterItem.key d ∧
          RosterItem.differs d c = true,
        current.filter fun c => RosterItem.key c ∉ desired.map RosterItem.key⟩ := by
  have inserts : (diff current desired).toInsert =
      desired.filter fun d => RosterItem.key d ∉ current.map RosterItem.key := by
    rw [toInsert_eq]
    exact List.filter_congr fun d _ => by rw [Bool.eq_iff_iff]; simp
  have updates : (diff current desired).toUpdate =
      desired.filter fun d => ∃ c ∈ current, RosterItem.key c = RosterItem.key d ∧
        RosterItem.differs d c = true := by
    change desired.filter _ = _
    refine List.filter_congr fun d listed => ?_
    have member := @mem_toUpdate_iff α _ current desired distinct d
    change d ∈ desired.filter _ ↔ _ at member
    rw [List.mem_filter] at member
    rw [Bool.eq_iff_iff, decide_eq_true_iff]
    simpa [listed] using member
  have deletes : (diff current desired).toDelete =
      current.filter fun c => RosterItem.key c ∉ desired.map RosterItem.key :=
    List.filter_congr fun c _ => by rw [Bool.eq_iff_iff]; simp
  calc diff current desired
      = ⟨(diff current desired).toInsert, (diff current desired).toUpdate,
          (diff current desired).toDelete⟩ := rfl
    _ = _ := by rw [inserts, updates, deletes]

/-- A roster with distinct keys planned against itself asks for no write. -/
theorem diff_self_isEmpty [RosterFields α β] {xs : List α} (distinct : (xs.map RosterItem.key).Nodup) :
    (diff xs xs).isEmpty = true := by
  have noInserts : (diff xs xs).toInsert = [] := by
    rw [toInsert_eq, List.filter_eq_nil_iff]
    intro x member
    simpa using List.mem_map_of_mem member
  have noUpdates : (diff xs xs).toUpdate = [] := by
    rw [List.eq_nil_iff_forall_not_mem]
    intro x updated
    obtain ⟨listed, c, kept, sameKey, changed⟩ := (mem_toUpdate_iff distinct).1 updated
    have same := List.inj_on_of_nodup_map distinct kept listed sameKey
    subst same
    exact (RosterFields.differs_iff c c).1 changed rfl
  have noDeletes : (diff xs xs).toDelete = [] := by
    rw [List.eq_nil_iff_forall_not_mem]
    intro x deleted
    exact (mem_toDelete_iff.1 deleted).2 (List.mem_map_of_mem (mem_toDelete_iff.1 deleted).1)
  simp [RosterDiff.isEmpty, noInserts, noUpdates, noDeletes]

/-- The plan partitions a roster by key. -/
theorem diff_partitions_by_key [RosterFields α β] (current desired : List α)
    (distinct : (current.map RosterItem.key).Nodup) :
    diff current desired =
      ⟨desired.filter fun d => RosterItem.key d ∉ current.map RosterItem.key,
        desired.filter fun d => ∃ c ∈ current, RosterItem.key c = RosterItem.key d ∧
          RosterItem.differs d c = true,
        current.filter fun c => RosterItem.key c ∉ desired.map RosterItem.key⟩ ∧
    (diff current current).isEmpty = true ∧
    ((desired.map RosterItem.key).Nodup →
      applyPlan (fieldsByKey current) (diff current desired) = (fieldsByKey desired : Int → Option β)) :=
  ⟨diff_eq_partition desired distinct, diff_self_isEmpty distinct, applyPlan_diff distinct⟩

/-- Bob moves to the front and Cy joins, while Ann leaves. -/
theorem diff_partitions_by_key_reordered :
    let current : List Friend := [⟨1, 1, "Ann"⟩, ⟨2, 2, "Bob"⟩]
    let desired : List Friend := [⟨2, 1, "Bob"⟩, ⟨0, 2, "Cy"⟩]
    (current.map RosterItem.key).Nodup ∧
    (diff current desired =
      ⟨desired.filter fun d => RosterItem.key d ∉ current.map RosterItem.key,
        desired.filter fun d => ∃ c ∈ current, RosterItem.key c = RosterItem.key d ∧
          RosterItem.differs d c = true,
        current.filter fun c => RosterItem.key c ∉ desired.map RosterItem.key⟩ ∧
    (diff current current).isEmpty = true ∧
    ((desired.map RosterItem.key).Nodup →
      applyPlan (fieldsByKey current) (diff current desired) = fieldsByKey desired)) := by
  intro current desired
  exact ⟨by decide, diff_partitions_by_key current desired (by decide)⟩

end Partition

end DraftPool
