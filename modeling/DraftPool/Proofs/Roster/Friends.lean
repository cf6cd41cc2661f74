import DraftPool.Proofs.Roster.Frame
import DraftPool.Proofs.Roster.Years

/-
Saving the friends of a sport's active season. The main statement is `Store.saveFriends_reconciles`.
-/

namespace DraftPool

section Overwrite

variable {ρ ε : Type} (rowId : ρ → Int) (entryId : ε → Int) (write : ε → ρ → ρ)

/-- A row with the first entry that has its id written over it, if there is one. -/
def overwriteBy (entries : List ε) (r : ρ) : ρ :=
  match entries.find? (entryId · == rowId r) with
  | some e => write e r
  | none => r

variable {rowId entryId write}

theorem overwriteBy_of_absent {entries : List ε} {r : ρ}
    (absent : ∀ e ∈ entries, entryId e ≠ rowId r) : overwriteBy rowId entryId write entries r = r := by
  have none : entries.find? (entryId · == rowId r) = none := by
    rw [List.find?_eq_none]
    intro e member
    simpa using absent e member
  simp [overwriteBy, none]

theorem overwriteBy_of_find {entries : List ε} {r : ρ} {e : ε}
    (found : entries.find? (entryId · == rowId r) = some e) :
    overwriteBy rowId entryId write entries r = write e r := by
  simp [overwriteBy, found]

theorem overwriteBy_singleton (e : ε) (r : ρ) :
    overwriteBy rowId entryId write [e] r = if rowId r == entryId e then write e r else r := by
  by_cases same : rowId r = entryId e
  · simp [overwriteBy, same]
  · simp [overwriteBy, same, Ne.symm same]

/-- Writing one entry over a row and then others that do not share its id is writing all of
them at once, when writing keeps the id. -/
theorem overwriteBy_cons (keepsId : ∀ e r, rowId (write e r) = rowId r) {e : ε} {rest : List ε}
    (fresh : entryId e ∉ rest.map entryId) (r : ρ) :
    overwriteBy rowId entryId write rest (overwriteBy rowId entryId write [e] r) =
      overwriteBy rowId entryId write (e :: rest) r := by
  by_cases same : entryId e = rowId r
  · have written : overwriteBy rowId entryId write [e] r = write e r :=
      overwriteBy_of_find (by simp [same])
    have absent : ∀ x ∈ rest, entryId x ≠ rowId (write e r) := by
      intro x member sameId
      rw [keepsId] at sameId
      exact fresh (List.mem_map.2 ⟨x, member, sameId.trans same.symm⟩)
    rw [written, overwriteBy_of_absent absent]
    exact (overwriteBy_of_find (by simp [same])).symm
  · have untouched : overwriteBy rowId entryId write [e] r = r := overwriteBy_of_absent fun x member => by
      rw [List.mem_singleton] at member
      subst member
      exact same
    have skipped : (e :: rest).find? (entryId · == rowId r) = rest.find? (entryId · == rowId r) := by
      simp [same]
    rw [untouched]
    simp only [overwriteBy, skipped]

end Overwrite

/-- A stored friend with the order and name of the first entry with its id, if there is one. -/
def FriendRow.renameFrom (entries : List Friend) (f : FriendRow) : FriendRow :=
  overwriteBy (·.id) (·.id) (fun d f => { f with displayOrder := d.displayOrder, name := d.name })
    entries f

@[simp] theorem FriendRow.renameFrom_id (entries : List Friend) (f : FriendRow) :
    (f.renameFrom entries).id = f.id := by
  unfold renameFrom overwriteBy
  split <;> rfl

@[simp] theorem FriendRow.renameFrom_sport (entries : List Friend) (f : FriendRow) :
    (f.renameFrom entries).sport = f.sport := by
  unfold renameFrom overwriteBy
  split <;> rfl

@[simp] theorem FriendRow.renameFrom_year (entries : List Friend) (f : FriendRow) :
    (f.renameFrom entries).year = f.year := by
  unfold renameFrom overwriteBy
  split <;> rfl

/-- The rows of friends added to a season one after another, numbered on from `first`. -/
def freshFriendRows (sport : Sport) (year : Int) : Int → List Friend → List FriendRow
  | _, [] => []
  | first, d :: rest => ⟨first, sport, year, d.displayOrder, d.name⟩ ::
      freshFriendRows sport year (first + 1) rest

theorem mem_freshFriendRows {sport : Sport} {year first : Int} {entries : List Friend}
    {r : FriendRow} (member : r ∈ freshFriendRows sport year first entries) :
    r.sport = sport ∧ r.year = year ∧ first ≤ r.id := by
  induction entries generalizing first with
  | nil => simp [freshFriendRows] at member
  | cons d rest inductionHypothesis =>
    rcases List.mem_cons.1 member with added | later
    · subst added
      exact ⟨rfl, rfl, Int.le_refl first⟩
    · obtain ⟨sameSport, sameYear, above⟩ := inductionHypothesis later
      exact ⟨sameSport, sameYear, by omega⟩

namespace Store

/-- A store without some friends and the players they drafted. -/
def withoutFriends (s : Store) (ids : List Int) : Store :=
  { s with
    friends := s.friends.filter fun f => !ids.contains f.id
    players := s.players.filter fun p => !ids.contains p.friendId }

theorem withoutFriends_nil (s : Store) : s.withoutFriends [] = s := by
  simp [withoutFriends]

theorem withoutFriends_cons (s : Store) (id : Int) (ids : List Int) :
    (s.withoutFriends [id]).withoutFriends ids = s.withoutFriends (id :: ids) := by
  simp only [withoutFriends, List.filter_filter, List.contains_cons, List.contains_nil,
    Bool.or_false, Bool.not_or, Bool.and_comm]

/-- Deleting a stored friend matches its one row, and takes its players with it. -/
theorem apply_delFriend {s : Store} (valid : Valid s) (writable : s.readOnly = false) {id : Int}
    (stored : id ∈ s.friends.map (·.id)) :
    s.apply (.delFriend id) = .ok (1, s.withoutFriends [id]) := by
  obtain ⟨f, member, rfl⟩ := List.mem_map.1 stored
  have once : s.friends.countP (·.id == f.id) = 1 :=
    countP_eq_one_of_unique (valid.friendIds.of_map _) member (by simp) fun g other same => by
      rw [beq_iff_eq] at same
      exact List.inj_on_of_nodup_map valid.friendIds other member same
  simp only [apply, writable, Bool.false_eq_true, if_false, applyWritable, once, withoutFriends,
    List.contains_cons, List.contains_nil, Bool.or_false, bne]

/-- Deleting stored friends one after another matches one row each. -/
theorem runs_delFriends {s : Store} (valid : Valid s) (writable : s.readOnly = false)
    {ids : List Int} (distinct : ids.Nodup) (stored : ∀ id ∈ ids, id ∈ s.friends.map (·.id)) :
    s.Runs (ids.map .delFriend) (s.withoutFriends ids) := by
  induction ids generalizing s with
  | nil =>
    rw [withoutFriends_nil]
    exact .nil s
  | cons id rest inductionHypothesis =>
    rw [List.nodup_cons] at distinct
    have deleted := apply_delFriend valid writable (stored id List.mem_cons_self)
    have remaining : ∀ other ∈ rest, other ∈ (s.withoutFriends [id]).friends.map (·.id) := by
      intro other member
      obtain ⟨f, kept, rfl⟩ := List.mem_map.1 (stored other (List.mem_cons_of_mem id member))
      refine List.mem_map_of_mem (List.mem_filter.2 ⟨kept, ?_⟩)
      have different : f.id ≠ id := fun same => distinct.1 (same ▸ member)
      simp [different]
    have run := inductionHypothesis (valid.apply deleted) writable distinct.2 remaining
    rw [withoutFriends_cons] at run
    exact .cons deleted run

/-- A store with new friends added to a sport's season, numbered on from the last id. -/
def withNewFriends (s : Store) (sport : Sport) (year : Int) (entries : List Friend) : Store :=
  { s with
    friends := s.friends ++ freshFriendRows sport year (s.lastFriendId + 1) entries
    lastFriendId := s.lastFriendId + entries.length }

theorem withNewFriends_nil (s : Store) (sport : Sport) (year : Int) :
    s.withNewFriends sport year [] = s := by
  simp [withNewFriends, freshFriendRows]

theorem withNewFriends_cons (s : Store) (sport : Sport) (year : Int) (d : Friend)
    (rest : List Friend) :
    (s.withNewFriends sport year [d]).withNewFriends sport year rest =
      s.withNewFriends sport year (d :: rest) := by
  simp only [withNewFriends, freshFriendRows, List.append_assoc, List.singleton_append,
    List.length_cons, List.length_nil, Store.mk.injEq, true_and, and_true]
  have numbered : s.lastFriendId + ((0 + 1 : Nat) : Int) + 1 = s.lastFriendId + 1 + 1 := by omega
  exact ⟨by rw [numbered], by omega⟩

/-- Adding a friend to the sport's active season matches one row. -/
theorem apply_addFriend {s : Store} (writable : s.readOnly = false) {sport : Sport} {year : Int}
    (active : s.activeYear sport = some year) (d : Friend) :
    s.apply (.addFriend sport d.displayOrder d.name) = .ok (1, s.withNewFriends sport year [d]) := by
  simp [apply, writable, applyWritable, active, withNewFriends, freshFriendRows]

/-- Adding friends to the sport's active season one after another matches one row each. -/
theorem runs_addFriends {s : Store} (writable : s.readOnly = false) {sport : Sport} {year : Int}
    (active : s.activeYear sport = some year) (entries : List Friend) :
    s.Runs (entries.map fun d => .addFriend sport d.displayOrder d.name)
      (s.withNewFriends sport year entries) := by
  induction entries generalizing s with
  | nil =>
    rw [withNewFriends_nil]
    exact .nil s
  | cons d rest inductionHypothesis =>
    have added := apply_addFriend writable active d
    -- adding friends keeps the seasons, so the active one is the same
    have run := @inductionHypothesis (s.withNewFriends sport year [d]) writable active
    rw [withNewFriends_cons] at run
    exact .cons added run

/-- A store with desired entries written over the friends with their ids. -/
def withRenamedFriends (s : Store) (entries : List Friend) : Store :=
  { s with friends := s.friends.map (FriendRow.renameFrom entries) }

theorem withRenamedFriends_nil (s : Store) : s.withRenamedFriends [] = s := by
  have unchanged : FriendRow.renameFrom [] = id := funext fun _ => rfl
  simp [withRenamedFriends, unchanged]

theorem withRenamedFriends_cons {d : Friend} {rest : List Friend} (fresh : d.id ∉ rest.map (·.id))
    (s : Store) :
    (s.withRenamedFriends [d]).withRenamedFriends rest = s.withRenamedFriends (d :: rest) := by
  simp only [withRenamedFriends, List.map_map, Store.mk.injEq, true_and, and_true]
  refine List.map_congr_left fun f _ => ?_
  show FriendRow.renameFrom rest (FriendRow.renameFrom [d] f) = FriendRow.renameFrom (d :: rest) f
  unfold FriendRow.renameFrom
  apply overwriteBy_cons _ fresh
  intro _ _
  rfl

theorem withRenamedFriends_ids (s : Store) (entries : List Friend) :
    (s.withRenamedFriends entries).friends.map (·.id) = s.friends.map (·.id) := by
  simp [withRenamedFriends, Function.comp_def]

/-- Writing over a stored friend matches its one row. -/
theorem apply_setFriend {s : Store} (valid : Valid s) (writable : s.readOnly = false) {d : Friend}
    (stored : d.id ∈ s.friends.map (·.id)) :
    s.apply (.setFriend d.id d.displayOrder d.name) = .ok (1, s.withRenamedFriends [d]) := by
  obtain ⟨f, member, same⟩ := List.mem_map.1 stored
  have once : s.friends.countP (·.id == d.id) = 1 :=
    countP_eq_one_of_unique (valid.friendIds.of_map _) member (by simp [same]) fun g other hit => by
      rw [beq_iff_eq, ← same] at hit
      exact List.inj_on_of_nodup_map valid.friendIds other member hit
  have single : FriendRow.renameFrom [d] = fun f =>
      if f.id == d.id then { f with displayOrder := d.displayOrder, name := d.name } else f :=
    funext (overwriteBy_singleton d)
  simp only [apply, writable, Bool.false_eq_true, if_false, applyWritable, once, withRenamedFriends,
    single]

/-- Writing over stored friends with distinct ids one after another matches one row each. -/
theorem runs_setFriends {s : Store} (valid : Valid s) (writable : s.readOnly = false)
    {entries : List Friend} (distinct : (entries.map (·.id)).Nodup)
    (stored : ∀ d ∈ entries, d.id ∈ s.friends.map (·.id)) :
    s.Runs (entries.map fun d => .setFriend d.id d.displayOrder d.name)
      (s.withRenamedFriends entries) := by
  induction entries generalizing s with
  | nil =>
    rw [withRenamedFriends_nil]
    exact .nil s
  | cons d rest inductionHypothesis =>
    rw [List.map_cons, List.nodup_cons] at distinct
    have written := apply_setFriend valid writable (stored d List.mem_cons_self)
    have remaining : ∀ e ∈ rest, e.id ∈ (s.withRenamedFriends [d]).friends.map (·.id) := by
      intro e member
      rw [withRenamedFriends_ids]
      exact stored e (List.mem_cons_of_mem d member)
    have run := inductionHypothesis (valid.apply written) writable distinct.2 remaining
    rw [withRenamedFriends_cons distinct.1] at run
    exact .cons written run

theorem mem_friendsOf {s : Store} {sport : Sport} {year : Int}
    (active : s.activeYear sport = some year) {x : Friend} :
    x ∈ s.friendsOf sport ↔ ∃ f ∈ s.seasonFriends sport year, ⟨f.id, f.displayOrder, f.name⟩ = x := by
  rw [friendsOf_eq_friendsIn active]
  simp [friendsIn, List.mem_mergeSort]

/-- The roster lists the ids of the active season's stored friends. -/
theorem friendsOf_ids_perm {s : Store} {sport : Sport} {year : Int}
    (active : s.activeYear sport = some year) :
    ((s.friendsOf sport).map (·.id)).Perm ((s.seasonFriends sport year).map (·.id)) := by
  rw [friendsOf_eq_friendsIn active, friendsIn, List.map_map]
  exact (List.mergeSort_perm _ _).map _

theorem Valid.nodup_seasonFriendIds {s : Store} (valid : Valid s) (sport : Sport) (year : Int) :
    ((s.seasonFriends sport year).map (·.id)).Nodup :=
  valid.friendIds.sublist (List.filter_sublist.map _)

/-- Without an active season a sport lists no friends. -/
theorem friendsOf_of_inactive {s : Store} {sport : Sport} (noActive : s.activeYear sport = none) :
    s.friendsOf sport = [] := by
  simp [friendsOf, inActiveYear, noActive]

/-- The ids of the stored friends that a save of a sport's friends deletes. -/
def deletedFriendIds (s : Store) (sport : Sport) (desired : List Friend) : List Int :=
  (diff (s.friendsOf sport) desired).toDelete.map (·.id)

/-- The store that a save of a sport's friends writes in its active season. -/
def savedFriends (s : Store) (sport : Sport) (year : Int) (desired : List Friend) : Store :=
  let plan := diff (s.friendsOf sport) desired
  ((s.withoutFriends (s.deletedFriendIds sport desired)).withNewFriends sport year
    plan.toInsert).withRenamedFriends plan.toUpdate

section Plan

variable {s : Store} (valid : Valid s) {sport : Sport} {year : Int}
  (active : s.activeYear sport = some year) {desired : List Friend}
include valid active

theorem nodup_friendsOf_ids : ((s.friendsOf sport).map (·.id)).Nodup :=
  (friendsOf_ids_perm active).nodup_iff.2 (valid.nodup_seasonFriendIds sport year)

omit valid in
theorem mem_friendsOf_ids_iff {id : Int} :
    id ∈ (s.friendsOf sport).map (·.id) ↔ id ∈ (s.seasonFriends sport year).map (·.id) :=
  (friendsOf_ids_perm active).mem_iff

omit valid in
/-- A save deletes the stored friends of the season whose id is not desired. -/
theorem mem_deletedFriendIds {id : Int} :
    id ∈ s.deletedFriendIds sport desired ↔
      id ∈ (s.seasonFriends sport year).map (·.id) ∧ id ∉ desired.map (·.id) := by
  rw [← mem_friendsOf_ids_iff active]
  simp only [deletedFriendIds, List.mem_map, mem_toDelete_iff, rosterKey_friend]
  constructor
  · rintro ⟨x, ⟨listed, unwanted⟩, rfl⟩
    exact ⟨⟨x, listed, rfl⟩, unwanted⟩
  · rintro ⟨⟨x, listed, rfl⟩, unwanted⟩
    exact ⟨x, ⟨listed, unwanted⟩, rfl⟩

theorem nodup_deletedFriendIds : (s.deletedFriendIds sport desired).Nodup :=
  (nodup_friendsOf_ids valid active).sublist (List.filter_sublist.map _)

omit valid in
/-- A save adds the desired entries whose id is not stored in the season, in their order. -/
theorem toInsert_friends : (diff (s.friendsOf sport) desired).toInsert =
    desired.filter fun d => !((s.seasonFriends sport year).map (·.id)).contains d.id := by
  rw [toInsert_eq]
  refine List.filter_congr fun d _ => ?_
  simp only [rosterKey_friend]
  congr 1
  rw [Bool.eq_iff_iff, List.contains_iff_mem, List.contains_iff_mem]
  exact mem_friendsOf_ids_iff active

omit valid in
theorem mem_toUpdate_friends {u : Friend} (updated : u ∈ (diff (s.friendsOf sport) desired).toUpdate) :
    u ∈ desired ∧ u.id ∈ (s.seasonFriends sport year).map (·.id) :=
  ⟨(List.mem_filter.1 updated).1, (mem_friendsOf_ids_iff active).1 (key_mem_of_mem_toUpdate updated)⟩

omit valid in
/-- The entries a save writes over stored friends are among the entries that match a stored id. -/
theorem toUpdate_friends_sublist : (diff (s.friendsOf sport) desired).toUpdate.Sublist
    (desired.filter fun d => ((s.seasonFriends sport year).map (·.id)).contains d.id) := by
  have sameFilter : (desired.filter fun d =>
      ((s.friendsOf sport).map RosterItem.key).contains (RosterItem.key d)) =
      desired.filter fun d => ((s.seasonFriends sport year).map (·.id)).contains d.id := by
    refine List.filter_congr fun d _ => ?_
    simp only [rosterKey_friend]
    rw [Bool.eq_iff_iff, List.contains_iff_mem, List.contains_iff_mem]
    exact mem_friendsOf_ids_iff active
  exact sameFilter ▸ toUpdate_sublist _ _

/-- Writing the plan's entries over a stored friend whose id is desired gives it the order and
name of the desired entry with that id: either the entry is written, or it already agrees. -/
theorem renameFrom_toUpdate
    (matched : ((desired.filter fun d =>
      ((s.seasonFriends sport year).map (·.id)).contains d.id).map (·.id)).Nodup)
    {f : FriendRow} (member : f ∈ s.seasonFriends sport year) (wanted : f.id ∈ desired.map (·.id)) :
    f.renameFrom (diff (s.friendsOf sport) desired).toUpdate = f.renameFrom desired := by
  have seasonId : f.id ∈ (s.seasonFriends sport year).map (·.id) := List.mem_map_of_mem member
  obtain ⟨d, found⟩ : ∃ d, desired.find? (·.id == f.id) = some d :=
    Option.isSome_iff_exists.1 (List.find?_isSome.2 (by simpa using wanted))
  have sameId : d.id = f.id := by simpa using List.find?_some found
  have dMatched : d ∈ desired.filter fun d =>
      ((s.seasonFriends sport year).map (·.id)).contains d.id :=
    List.mem_filter.2 ⟨List.mem_of_find?_eq_some found, by simpa [sameId] using seasonId⟩
  -- an update with the friend's id is the desired entry found, since matched ids are distinct
  have unique : ∀ u ∈ (diff (s.friendsOf sport) desired).toUpdate, u.id = f.id → u = d :=
    fun u updated same => List.inj_on_of_nodup_map matched
      ((toUpdate_friends_sublist active).subset updated) dMatched (same.trans sameId.symm)
  unfold FriendRow.renameFrom
  rw [overwriteBy_of_find found]
  by_cases written : d ∈ (diff (s.friendsOf sport) desired).toUpdate
  · obtain ⟨u, first⟩ : ∃ u, (diff (s.friendsOf sport) desired).toUpdate.find? (·.id == f.id) =
        some u :=
      Option.isSome_iff_exists.1 (List.find?_isSome.2 ⟨d, written, by simp [sameId]⟩)
    have sameU := unique u (List.mem_of_find?_eq_some first) (by simpa using List.find?_some first)
    rw [overwriteBy_of_find first, sameU]
  · rw [overwriteBy_of_absent fun u updated same => written (unique u updated same ▸ updated)]
    -- the entry is not written, so it agrees with the stored friend it matches
    have stored : (⟨f.id, f.displayOrder, f.name⟩ : Friend) ∈ s.friendsOf sport :=
      (mem_friendsOf active).2 ⟨f, member, rfl⟩
    have agrees : ¬RosterItem.differs d ⟨f.id, f.displayOrder, f.name⟩ = true := fun differs =>
      written ((mem_toUpdate_iff (nodup_friendsOf_ids valid active)).2
        ⟨List.mem_of_find?_eq_some found, _, stored, sameId.symm, differs⟩)
    simp only [rosterDiffers_friend, Bool.or_eq_true, bne_iff_ne, ne_eq, not_or, not_not] at agrees
    obtain ⟨sameOrder, sameName⟩ := agrees
    rw [sameOrder, sameName]

omit valid in
/-- A stored friend of the season stays exactly when its id is desired. -/
theorem notDeleted_iff {f : FriendRow} (member : f ∈ s.seasonFriends sport year) :
    (!(s.deletedFriendIds sport desired).contains f.id) = (desired.map (·.id)).contains f.id := by
  have seasonId : f.id ∈ (s.seasonFriends sport year).map (·.id) := List.mem_map_of_mem member
  by_cases wanted : f.id ∈ desired.map (·.id)
  · have kept : f.id ∉ s.deletedFriendIds sport desired := fun deleted =>
      ((mem_deletedFriendIds active).1 deleted).2 wanted
    rw [List.contains_iff_mem.2 wanted, Bool.not_eq_true', ← Bool.not_eq_true,
      List.contains_iff_mem]
    exact kept
  · have gone : f.id ∈ s.deletedFriendIds sport desired :=
      (mem_deletedFriendIds active).2 ⟨seasonId, wanted⟩
    rw [List.contains_iff_mem.2 gone, Bool.not_true, eq_comm, ← Bool.not_eq_true,
      List.contains_iff_mem]
    exact wanted

/-- After a save the season's friends are the stored ones whose id is desired, with the desired
order and name, followed by the new ones. -/
theorem seasonFriends_savedFriends
    (matched : ((desired.filter fun d =>
      ((s.seasonFriends sport year).map (·.id)).contains d.id).map (·.id)).Nodup) :
    (s.savedFriends sport year desired).seasonFriends sport year =
      ((s.seasonFriends sport year).filter fun f => (desired.map (·.id)).contains f.id).map
          (FriendRow.renameFrom desired) ++
        freshFriendRows sport year (s.lastFriendId + 1)
          (desired.filter fun d => !((s.seasonFriends sport year).map (·.id)).contains d.id) := by
  let updates := (diff (s.friendsOf sport) desired).toUpdate
  let inSeason (f : FriendRow) : Bool := f.sport == sport && f.year == year
  let notDeleted (f : FriendRow) : Bool := !(s.deletedFriendIds sport desired).contains f.id
  let fresh := freshFriendRows sport year (s.lastFriendId + 1)
    (desired.filter fun d => !((s.seasonFriends sport year).map (·.id)).contains d.id)
  -- the new rows are numbered above every stored id, so no update reaches them
  have freshUntouched : fresh.map (FriendRow.renameFrom updates) = fresh := by
    refine (List.map_congr_left fun r added => overwriteBy_of_absent fun u updated same => ?_).trans
      (List.map_id fresh)
    obtain ⟨g, member, sameId⟩ := List.mem_map.1 (mem_toUpdate_friends active updated).2
    have below := valid.friendIdBelow g (List.mem_filter.1 member).1
    have above := (mem_freshFriendRows added).2.2
    omega
  have freshInSeason : fresh.filter inSeason = fresh := by
    refine List.filter_eq_self.2 fun r added => ?_
    obtain ⟨sameSport, sameYear, -⟩ := mem_freshFriendRows added
    simp [inSeason, sameSport, sameYear]
  have storedKept : ((s.friends.filter notDeleted).map (FriendRow.renameFrom updates)).filter inSeason =
      ((s.seasonFriends sport year).filter fun f => (desired.map (·.id)).contains f.id).map
        (FriendRow.renameFrom desired) :=
    calc ((s.friends.filter notDeleted).map (FriendRow.renameFrom updates)).filter inSeason
        = ((s.friends.filter notDeleted).filter inSeason).map (FriendRow.renameFrom updates) := by
          rw [List.filter_map]
          congr 2
          funext f
          simp [inSeason]
      _ = ((s.seasonFriends sport year).filter notDeleted).map (FriendRow.renameFrom updates) := by
          rw [seasonFriends, List.filter_filter, List.filter_filter]
          congr 1
          exact List.filter_congr fun f _ => Bool.and_comm _ _
      _ = ((s.seasonFriends sport year).filter fun f => (desired.map (·.id)).contains f.id).map
            (FriendRow.renameFrom updates) := by
          rw [List.filter_congr fun f member => notDeleted_iff active member]
      _ = _ := List.map_congr_left fun f kept => by
          rw [List.mem_filter, List.contains_iff_mem] at kept
          exact renameFrom_toUpdate valid active matched kept.1 kept.2
  change (((s.friends.filter notDeleted) ++ freshFriendRows sport year (s.lastFriendId + 1)
    (diff (s.friendsOf sport) desired).toInsert).map (FriendRow.renameFrom updates)).filter
      inSeason = _
  rw [toInsert_friends active, List.map_append, List.filter_append, freshUntouched, freshInSeason,
    storedKept]

/-- After a save the season keeps exactly the players of the friends that stay. -/
theorem seasonPlayers_savedFriends :
    (s.savedFriends sport year desired).seasonPlayers sport year =
      (s.seasonPlayers sport year).filter fun p => (desired.map (·.id)).contains p.friendId := by
  change ((s.players.filter fun p => !(s.deletedFriendIds sport desired).contains p.friendId).filter
    fun p => p.sport == sport && p.year == year) = _
  rw [List.filter_filter, seasonPlayers, List.filter_filter]
  refine List.filter_congr fun p stored => ?_
  cases inSeason : (p.sport == sport && p.year == year)
  · simp
  · simp only [Bool.and_eq_true, beq_iff_eq] at inSeason
    -- the player's friend is a friend of the same season
    obtain ⟨g, friendStored, sameId, friendSport, friendYear⟩ := valid.playerFriend p stored
    have friendInSeason : g ∈ s.seasonFriends sport year := by
      simp [seasonFriends, friendStored, friendSport, friendYear, inSeason.1, inSeason.2]
    rw [← sameId, notDeleted_iff active friendInSeason]
    simp

omit active in
/-- The new rows of a save are numbered above every id stored before. -/
theorem fresh_savedFriends {f : FriendRow} (stored : f ∈ s.friends) {r : FriendRow}
    (added : r ∈ freshFriendRows sport year (s.lastFriendId + 1)
      (desired.filter fun d => !((s.seasonFriends sport year).map (·.id)).contains d.id)) :
    f.id < r.id := by
  have below := valid.friendIdBelow f stored
  have above := (mem_freshFriendRows added).2.2
  omega

/-- On a store that takes writes, the writes of a save run through, one row each, to the saved
store. -/
theorem saveFriends_eq_savedFriends (writable : s.readOnly = false)
    (matched : ((desired.filter fun d =>
      ((s.seasonFriends sport year).map (·.id)).contains d.id).map (·.id)).Nodup) :
    s.saveFriends sport desired = .ok (s.savedFriends sport year desired) := by
  let plan := diff (s.friendsOf sport) desired
  have inSeason : ∀ id ∈ (s.seasonFriends sport year).map (·.id), id ∈ s.friends.map (·.id) :=
    (List.filter_sublist.map _).subset
  have deletes : s.Runs ((s.deletedFriendIds sport desired).map .delFriend)
      (s.withoutFriends (s.deletedFriendIds sport desired)) :=
    runs_delFriends valid writable (nodup_deletedFriendIds valid active)
      fun id deleted => inSeason id ((mem_deletedFriendIds active).1 deleted).1
  -- deleting friends keeps the seasons and whether the store takes writes
  let kept := s.withoutFriends (s.deletedFriendIds sport desired)
  have keptWritable : kept.readOnly = false := writable
  have keptActive : kept.activeYear sport = some year := active
  have inserts : kept.Runs (plan.toInsert.map fun d => .addFriend sport d.displayOrder d.name)
      (kept.withNewFriends sport year plan.toInsert) :=
    runs_addFriends keptWritable keptActive plan.toInsert
  -- an updated friend is desired, so it survives the deletes
  have updatedStored : ∀ u ∈ plan.toUpdate,
      u.id ∈ (kept.withNewFriends sport year plan.toInsert).friends.map (·.id) := by
    intro u updated
    obtain ⟨wanted, seasonId⟩ := mem_toUpdate_friends active updated
    obtain ⟨g, member, sameId⟩ := List.mem_map.1 seasonId
    have stays : (!(s.deletedFriendIds sport desired).contains g.id) =
        (desired.map (·.id)).contains g.id :=
      notDeleted_iff active member
    rw [sameId, List.contains_iff_mem.2 (List.mem_map_of_mem wanted)] at stays
    refine List.mem_map.2 ⟨g, List.mem_append_left _ (List.mem_filter.2 ⟨?_, ?_⟩), sameId⟩
    · exact (List.mem_filter.1 member).1
    · rw [sameId]
      exact stays
  have addedWritable : (kept.withNewFriends sport year plan.toInsert).readOnly = false := writable
  have updates := runs_setFriends (inserts.valid (deletes.valid valid)) addedWritable
    (matched.sublist ((toUpdate_friends_sublist active).map _)) updatedStored
  have deleteWrites : plan.toDelete.map (fun f => Write.delFriend f.id) =
      (s.deletedFriendIds sport desired).map .delFriend := by
    simp only [deletedFriendIds, List.map_map]
    rfl
  unfold saveFriends
  apply transact_eq_ok_iff.2
  change s.Runs (plan.toDelete.map (fun f => Write.delFriend f.id) ++ _ ++ _) _
  rw [deleteWrites, List.append_assoc]
  exact deletes.append (inserts.append updates)

end Plan

/-- What a save of a sport's friends leaves in its active season. -/
structure FriendsSaved (s t : Store) (sport : Sport) (year : Int) (desired : List Friend) : Prop where
  frame : RosterFrame s t sport
  friends : t.seasonFriends sport year =
    ((s.seasonFriends sport year).filter fun f => (desired.map (·.id)).contains f.id).map
        (FriendRow.renameFrom desired) ++
      freshFriendRows sport year (s.lastFriendId + 1)
        (desired.filter fun d => !((s.seasonFriends sport year).map (·.id)).contains d.id)
  players : t.seasonPlayers sport year =
    (s.seasonPlayers sport year).filter fun p => (desired.map (·.id)).contains p.friendId
  fresh : ∀ f ∈ s.friends, ∀ r ∈ freshFriendRows sport year (s.lastFriendId + 1)
      (desired.filter fun d => !((s.seasonFriends sport year).map (·.id)).contains d.id),
    f.id < r.id

/-- Saving friends without an active season: nothing desired changes nothing, and the first
friend to add matches no row. -/
theorem saveFriends_of_inactive {s : Store} (writable : s.readOnly = false) {sport : Sport}
    (noActive : s.activeYear sport = none) (desired : List Friend) :
    s.saveFriends sport desired =
      if desired = [] then .ok s else .error (.consistency "add_friend" 0) := by
  unfold saveFriends
  rw [friendsOf_of_inactive noActive, diff_nil]
  cases desired with
  | nil => rfl
  | cons d rest =>
    simp only [List.map_nil, List.nil_append, List.append_nil, List.map_cons, transact_cons,
      reduceCtorEq, if_false]
    simp [apply, writable, applyWritable, noActive, Write.name]

/-- Saving the friends of a sport's active season on a reachable store. -/
theorem saveFriends_reconciles (s : Store) (reachable : Reachable s) (sport : Sport)
    (desired : List Friend) :
    (∀ year, s.activeYear sport = some year →
      ((desired.filter fun d =>
        ((s.seasonFriends sport year).map (·.id)).contains d.id).map (·.id)).Nodup →
      ∃ t, s.saveFriends sport desired = .ok t ∧ Reachable t ∧ FriendsSaved s t sport year desired) ∧
    (s.activeYear sport = none → desired = [] → s.saveFriends sport desired = .ok s) ∧
    (s.activeYear sport = none → desired ≠ [] →
      s.saveFriends sport desired = .error (.consistency "add_friend" 0)) := by
  have valid := reachable.valid
  have writable := reachable.writable
  refine ⟨?active, ?nothing, ?inactive⟩
  case active =>
    intro year active matched
    have saved := saveFriends_eq_savedFriends valid active writable matched
    refine ⟨_, saved, reachable.transact saved, ?_⟩
    exact {
      frame := saveFriends_frame valid saved
      friends := seasonFriends_savedFriends valid active matched
      players := seasonPlayers_savedFriends valid active
      fresh := fun _ stored _ added => fresh_savedFriends valid stored added }
  case nothing =>
    intro noActive nothing
    rw [saveFriends_of_inactive writable noActive, if_pos nothing]
  case inactive =>
    intro noActive something
    rw [saveFriends_of_inactive writable noActive, if_neg something]

/-- A season with one friend, reached by three writes, whose friend is renamed and joined by a
new one. -/
theorem saveFriends_reconciles_renamed :
    let s : Store :=
      { years := [⟨.mlb, 2019, true⟩], friends := [⟨1, .mlb, 2019, 0, "Ann"⟩], lastFriendId := 1 }
    Reachable s ∧ ∃ t, s.saveFriends .mlb [⟨1, 1, "Anne"⟩, ⟨0, 0, "Bob"⟩] = .ok t ∧ Reachable t ∧
      FriendsSaved s t .mlb 2019 [⟨1, 1, "Anne"⟩, ⟨0, 0, "Bob"⟩] := by
  intro s
  have added : Store.empty.apply (.addYear .mlb 2019) =
      .ok (1, { years := [⟨.mlb, 2019, false⟩] }) := rfl
  have activated : ({ years := [⟨.mlb, 2019, false⟩] } : Store).apply (.setActive .mlb 2019) =
      .ok (1, { years := [⟨.mlb, 2019, true⟩] }) := rfl
  have joined : ({ years := [⟨.mlb, 2019, true⟩] } : Store).apply (.addFriend .mlb 0 "Ann") =
      .ok (1, s) := rfl
  have reachable : Reachable s := ((Reachable.empty.write added).write activated).write joined
  exact ⟨reachable, (saveFriends_reconciles s reachable .mlb _).1 2019 rfl (by decide)⟩

end Store

end DraftPool
