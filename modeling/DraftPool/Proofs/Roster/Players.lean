import DraftPool.Proofs.Roster.Friends
import Mathlib.Data.List.TakeWhile

/-
Saving the players of a sport's active season. The main statement is
`Store.savePlayers_reconciles`.
-/

namespace DraftPool

/-- The check refuses a player exactly when the registry's category with the player's category
id is missing or of another sport. -/
theorem stray_iff (registry : Registry) (sport : Sport) (p : Player) :
    (match registry.get? p.categoryId with
      | some c => c.sport != sport
      | none => true) = true ↔ (registry.get? p.categoryId).map Category.sport ≠ some sport := by
  cases registry.get? p.categoryId <;> simp

theorem strayPlayer_eq_none_iff {registry : Registry} {sport : Sport} {players : List Player} :
    strayPlayer registry sport players = none ↔
      ∀ q ∈ players, (registry.get? q.categoryId).map Category.sport = some sport := by
  rw [strayPlayer, List.find?_eq_none]
  exact forall₂_congr fun q _ => (not_congr (stray_iff registry sport q)).trans not_not

/-- The player the check refuses is the first one outside the sport's categories. -/
theorem strayPlayer_of_first {registry : Registry} {sport : Sport} {pre post : List Player}
    {p : Player} (covered : ∀ q ∈ pre, (registry.get? q.categoryId).map Category.sport = some sport)
    (stray : (registry.get? p.categoryId).map Category.sport ≠ some sport) :
    strayPlayer registry sport (pre ++ p :: post) = some p := by
  have noneBefore : strayPlayer registry sport pre = none := strayPlayer_eq_none_iff.2 covered
  rw [strayPlayer] at noneBefore ⊢
  rw [List.find?_append, noneBefore, Option.none_or, List.find?_cons_of_pos]
  exact (stray_iff registry sport p).2 stray

/-- A stored player with the display order of the first entry with its id, if there is one. -/
def PlayerRow.reorderFrom (entries : List Player) (p : PlayerRow) : PlayerRow :=
  overwriteBy (·.id) (·.id) (fun d p => { p with displayOrder := d.displayOrder }) entries p

@[simp] theorem PlayerRow.reorderFrom_id (entries : List Player) (p : PlayerRow) :
    (p.reorderFrom entries).id = p.id := by
  unfold reorderFrom overwriteBy
  split <;> rfl

@[simp] theorem PlayerRow.reorderFrom_sport (entries : List Player) (p : PlayerRow) :
    (p.reorderFrom entries).sport = p.sport := by
  unfold reorderFrom overwriteBy
  split <;> rfl

@[simp] theorem PlayerRow.reorderFrom_year (entries : List Player) (p : PlayerRow) :
    (p.reorderFrom entries).year = p.year := by
  unfold reorderFrom overwriteBy
  split <;> rfl

/-- The rows of players added to a season one after another, numbered on from `first`. -/
def freshPlayerRows (sport : Sport) (year : Int) : Int → List Player → List PlayerRow
  | _, [] => []
  | first, d :: rest => ⟨first, sport, year, d.categoryId, d.sourceId, d.friendId, d.displayOrder⟩ ::
      freshPlayerRows sport year (first + 1) rest

theorem mem_freshPlayerRows {sport : Sport} {year first : Int} {entries : List Player}
    {r : PlayerRow} (member : r ∈ freshPlayerRows sport year first entries) :
    r.sport = sport ∧ r.year = year ∧ first ≤ r.id := by
  induction entries generalizing first with
  | nil => simp [freshPlayerRows] at member
  | cons d rest inductionHypothesis =>
    rcases List.mem_cons.1 member with added | later
    · subst added
      exact ⟨rfl, rfl, Int.le_refl first⟩
    · obtain ⟨sameSport, sameYear, above⟩ := inductionHypothesis later
      exact ⟨sameSport, sameYear, by omega⟩

namespace Store

/-- A store without some players. -/
def withoutPlayers (s : Store) (ids : List Int) : Store :=
  { s with players := s.players.filter fun p => !ids.contains p.id }

theorem withoutPlayers_nil (s : Store) : s.withoutPlayers [] = s := by
  simp [withoutPlayers]

theorem withoutPlayers_cons (s : Store) (id : Int) (ids : List Int) :
    (s.withoutPlayers [id]).withoutPlayers ids = s.withoutPlayers (id :: ids) := by
  simp only [withoutPlayers, List.filter_filter, List.contains_cons, List.contains_nil,
    Bool.or_false, Bool.not_or, Bool.and_comm]

/-- Deleting a stored player matches its one row. -/
theorem apply_delPlayer {s : Store} (valid : Valid s) (writable : s.readOnly = false) {id : Int}
    (stored : id ∈ s.players.map (·.id)) :
    s.apply (.delPlayer id) = .ok (1, s.withoutPlayers [id]) := by
  obtain ⟨p, member, rfl⟩ := List.mem_map.1 stored
  have once : s.players.countP (·.id == p.id) = 1 :=
    countP_eq_one_of_unique (valid.playerIds.of_map _) member (by simp) fun q other same => by
      rw [beq_iff_eq] at same
      exact List.inj_on_of_nodup_map valid.playerIds other member same
  simp only [apply, writable, Bool.false_eq_true, if_false, applyWritable, once, withoutPlayers,
    List.contains_cons, List.contains_nil, Bool.or_false, bne]

/-- Deleting stored players one after another matches one row each. -/
theorem runs_delPlayers {s : Store} (valid : Valid s) (writable : s.readOnly = false)
    {ids : List Int} (distinct : ids.Nodup) (stored : ∀ id ∈ ids, id ∈ s.players.map (·.id)) :
    s.Runs (ids.map .delPlayer) (s.withoutPlayers ids) := by
  induction ids generalizing s with
  | nil =>
    rw [withoutPlayers_nil]
    exact .nil s
  | cons id rest inductionHypothesis =>
    rw [List.nodup_cons] at distinct
    have deleted := apply_delPlayer valid writable (stored id List.mem_cons_self)
    have remaining : ∀ other ∈ rest, other ∈ (s.withoutPlayers [id]).players.map (·.id) := by
      intro other member
      obtain ⟨p, kept, rfl⟩ := List.mem_map.1 (stored other (List.mem_cons_of_mem id member))
      refine List.mem_map_of_mem (List.mem_filter.2 ⟨kept, ?_⟩)
      have different : p.id ≠ id := fun same => distinct.1 (same ▸ member)
      simp [different]
    have run := inductionHypothesis (valid.apply deleted) writable distinct.2 remaining
    rw [withoutPlayers_cons] at run
    exact .cons deleted run

/-- A store with new players added to a sport's season, numbered on from the last id. -/
def withNewPlayers (s : Store) (sport : Sport) (year : Int) (entries : List Player) : Store :=
  { s with
    players := s.players ++ freshPlayerRows sport year (s.lastPlayerId + 1) entries
    lastPlayerId := s.lastPlayerId + entries.length }

theorem withNewPlayers_nil (s : Store) (sport : Sport) (year : Int) :
    s.withNewPlayers sport year [] = s := by
  simp [withNewPlayers, freshPlayerRows]

theorem withNewPlayers_cons (s : Store) (sport : Sport) (year : Int) (d : Player)
    (rest : List Player) :
    (s.withNewPlayers sport year [d]).withNewPlayers sport year rest =
      s.withNewPlayers sport year (d :: rest) := by
  simp only [withNewPlayers, freshPlayerRows, List.append_assoc, List.singleton_append,
    List.length_cons, List.length_nil, Store.mk.injEq, true_and, and_true]
  have numbered : s.lastPlayerId + ((0 + 1 : Nat) : Int) + 1 = s.lastPlayerId + 1 + 1 := by omega
  exact ⟨by rw [numbered], by omega⟩

/-- A stored friend of a sport's active season is listed by the sport's roster. -/
theorem id_mem_friendsOf {s : Store} {sport : Sport} {f : FriendRow} (stored : f ∈ s.friends)
    (sameSport : f.sport = sport) (inSeason : s.inActiveYear sport f.year = true) :
    f.id ∈ (s.friendsOf sport).map (·.id) := by
  simp only [friendsOf, List.map_map, List.mem_map, List.mem_mergeSort, List.mem_filter,
    Bool.and_eq_true, beq_iff_eq, Function.comp_apply]
  exact ⟨f, ⟨stored, sameSport, inSeason⟩, rfl⟩

/-- Adding a player under a friend of the sport's active season matches one row. -/
theorem apply_addPlayer {s : Store} (writable : s.readOnly = false) {sport : Sport} {year : Int}
    (active : s.activeYear sport = some year) {d : Player}
    (named : d.friendId ∈ (s.friendsOf sport).map (·.id)) :
    s.apply (.addPlayer sport d.categoryId d.sourceId d.friendId d.displayOrder) =
      .ok (1, s.withNewPlayers sport year [d]) := by
  obtain ⟨g, stored, sameId, sameSport, gActive⟩ := mem_friendsOf_ids named
  obtain ⟨f, found⟩ : ∃ f, s.friends.find? (fun f => f.sport == sport && f.id == d.friendId &&
      s.inActiveYear sport f.year) = some f :=
    Option.isSome_iff_exists.1 (List.find?_isSome.2
      ⟨g, stored, by simp [sameSport, sameId, inActiveYear, gActive]⟩)
  have passes := List.find?_some found
  rw [inActiveYear_eq active] at passes
  simp only [Bool.and_eq_true, beq_iff_eq] at passes
  obtain ⟨⟨fSport, fId⟩, fYear⟩ := passes
  simp only [apply, writable, Bool.false_eq_true, if_false, applyWritable, found, withNewPlayers,
    freshPlayerRows, fSport, fId, fYear, List.length_singleton]
  rfl

/-- Adding a player under no friend of the sport's active season matches no row and changes
nothing. -/
theorem apply_addPlayer_unnamed {s : Store} (writable : s.readOnly = false) {sport : Sport}
    {d : Player} (unnamed : d.friendId ∉ (s.friendsOf sport).map (·.id)) :
    s.apply (.addPlayer sport d.categoryId d.sourceId d.friendId d.displayOrder) = .ok (0, s) := by
  have none : s.friends.find? (fun f => f.sport == sport && f.id == d.friendId &&
      s.inActiveYear sport f.year) = none := by
    rw [List.find?_eq_none]
    intro f stored passes
    simp only [Bool.and_eq_true, beq_iff_eq] at passes
    obtain ⟨⟨sameSport, sameId⟩, inSeason⟩ := passes
    exact unnamed (sameId ▸ id_mem_friendsOf stored sameSport inSeason)
  simp only [apply, writable, Bool.false_eq_true, if_false, applyWritable, none]

/-- Adding players under friends of the sport's active season one after another matches one
row each. -/
theorem runs_addPlayers {s : Store} (writable : s.readOnly = false) {sport : Sport} {year : Int}
    (active : s.activeYear sport = some year) {entries : List Player}
    (named : ∀ d ∈ entries, d.friendId ∈ (s.friendsOf sport).map (·.id)) :
    s.Runs (entries.map fun d => .addPlayer sport d.categoryId d.sourceId d.friendId d.displayOrder)
      (s.withNewPlayers sport year entries) := by
  induction entries generalizing s with
  | nil =>
    rw [withNewPlayers_nil]
    exact .nil s
  | cons d rest inductionHypothesis =>
    have added := apply_addPlayer writable active (named d List.mem_cons_self)
    -- adding players keeps the seasons and the friends, so the same friends are listed
    have run := @inductionHypothesis (s.withNewPlayers sport year [d]) writable active
      fun e member => named e (List.mem_cons_of_mem d member)
    rw [withNewPlayers_cons] at run
    exact .cons added run

/-- A store with desired entries written over the display order of the players with their ids. -/
def withReorderedPlayers (s : Store) (entries : List Player) : Store :=
  { s with players := s.players.map (PlayerRow.reorderFrom entries) }

theorem withReorderedPlayers_nil (s : Store) : s.withReorderedPlayers [] = s := by
  have unchanged : PlayerRow.reorderFrom [] = id := funext fun _ => rfl
  simp [withReorderedPlayers, unchanged]

theorem withReorderedPlayers_cons {d : Player} {rest : List Player}
    (fresh : d.id ∉ rest.map (·.id)) (s : Store) :
    (s.withReorderedPlayers [d]).withReorderedPlayers rest = s.withReorderedPlayers (d :: rest) := by
  simp only [withReorderedPlayers, List.map_map, Store.mk.injEq, true_and, and_true]
  refine List.map_congr_left fun p _ => ?_
  show PlayerRow.reorderFrom rest (PlayerRow.reorderFrom [d] p) = PlayerRow.reorderFrom (d :: rest) p
  unfold PlayerRow.reorderFrom
  apply overwriteBy_cons _ fresh
  intro _ _
  rfl

theorem withReorderedPlayers_ids (s : Store) (entries : List Player) :
    (s.withReorderedPlayers entries).players.map (·.id) = s.players.map (·.id) := by
  simp [withReorderedPlayers, Function.comp_def]

/-- Reordering a stored player matches its one row. -/
theorem apply_setPlayer {s : Store} (valid : Valid s) (writable : s.readOnly = false) {d : Player}
    (stored : d.id ∈ s.players.map (·.id)) :
    s.apply (.setPlayer d.id d.displayOrder) = .ok (1, s.withReorderedPlayers [d]) := by
  obtain ⟨p, member, same⟩ := List.mem_map.1 stored
  have once : s.players.countP (·.id == d.id) = 1 :=
    countP_eq_one_of_unique (valid.playerIds.of_map _) member (by simp [same]) fun q other hit => by
      rw [beq_iff_eq, ← same] at hit
      exact List.inj_on_of_nodup_map valid.playerIds other member hit
  have single : PlayerRow.reorderFrom [d] = fun p =>
      if p.id == d.id then { p with displayOrder := d.displayOrder } else p :=
    funext (overwriteBy_singleton d)
  simp only [apply, writable, Bool.false_eq_true, if_false, applyWritable, once,
    withReorderedPlayers, single]

/-- Reordering stored players with distinct ids one after another matches one row each. -/
theorem runs_setPlayers {s : Store} (valid : Valid s) (writable : s.readOnly = false)
    {entries : List Player} (distinct : (entries.map (·.id)).Nodup)
    (stored : ∀ d ∈ entries, d.id ∈ s.players.map (·.id)) :
    s.Runs (entries.map fun d => .setPlayer d.id d.displayOrder)
      (s.withReorderedPlayers entries) := by
  induction entries generalizing s with
  | nil =>
    rw [withReorderedPlayers_nil]
    exact .nil s
  | cons d rest inductionHypothesis =>
    rw [List.map_cons, List.nodup_cons] at distinct
    have written := apply_setPlayer valid writable (stored d List.mem_cons_self)
    have remaining : ∀ e ∈ rest, e.id ∈ (s.withReorderedPlayers [d]).players.map (·.id) := by
      intro e member
      rw [withReorderedPlayers_ids]
      exact stored e (List.mem_cons_of_mem d member)
    have run := inductionHypothesis (valid.apply written) writable distinct.2 remaining
    rw [withReorderedPlayers_cons distinct.1] at run
    exact .cons written run

/-- The roster lists the ids of the active season's stored players. -/
theorem playersOf_ids_perm {s : Store} {sport : Sport} {year : Int}
    (active : s.activeYear sport = some year) :
    ((s.playersOf sport).map (·.id)).Perm ((s.seasonPlayers sport year).map (·.id)) := by
  rw [playersOf_eq_playersIn active, playersIn, List.map_map]
  exact (List.mergeSort_perm _ _).map _

theorem Valid.nodup_seasonPlayerIds {s : Store} (valid : Valid s) (sport : Sport) (year : Int) :
    ((s.seasonPlayers sport year).map (·.id)).Nodup :=
  valid.playerIds.sublist (List.filter_sublist.map _)

/-- Without an active season a sport lists no players. -/
theorem playersOf_of_inactive {s : Store} {sport : Sport} (noActive : s.activeYear sport = none) :
    s.playersOf sport = [] := by
  simp [playersOf, inActiveYear, noActive]

/-- The ids of the stored players that a save of a sport's players deletes. -/
def deletedPlayerIds (s : Store) (sport : Sport) (desired : List Player) : List Int :=
  (diff (s.playersOf sport) desired).toDelete.map (·.id)

/-- The store that a save of a sport's players writes in its active season. -/
def savedPlayers (s : Store) (sport : Sport) (year : Int) (desired : List Player) : Store :=
  let plan := diff (s.playersOf sport) desired
  ((s.withoutPlayers (s.deletedPlayerIds sport desired)).withNewPlayers sport year
    plan.toInsert).withReorderedPlayers plan.toUpdate

/-- Once every player is in one of the sport's categories, a save is the transaction of its
plan. -/
theorem savePlayers_of_covered {s : Store} {registry : Registry} {sport : Sport}
    {desired : List Player}
    (covered : ∀ q ∈ desired, (registry.get? q.categoryId).map Category.sport = some sport) :
    s.savePlayers registry sport desired =
      let plan := diff (s.playersOf sport) desired
      s.transact (plan.toDelete.map (fun p => .delPlayer p.id) ++
        plan.toInsert.map (fun p => .addPlayer sport p.categoryId p.sourceId p.friendId
          p.displayOrder) ++
        plan.toUpdate.map (fun p => .setPlayer p.id p.displayOrder)) := by
  rw [savePlayers, strayPlayer_eq_none_iff.2 covered]

/-- Saving players of known categories without an active season: nothing desired changes
nothing, and the first player to add names no friend and matches no row. -/
theorem savePlayers_of_inactive {s : Store} (writable : s.readOnly = false) {registry : Registry}
    {sport : Sport} (noActive : s.activeYear sport = none) {desired : List Player}
    (covered : ∀ q ∈ desired, (registry.get? q.categoryId).map Category.sport = some sport) :
    s.savePlayers registry sport desired =
      if desired = [] then .ok s else .error (.consistency "add_player" 0) := by
  rw [savePlayers_of_covered covered, playersOf_of_inactive noActive, diff_nil]
  cases desired with
  | nil => rfl
  | cons d rest =>
    simp only [List.map_nil, List.nil_append, List.append_nil, List.map_cons, transact_cons,
      reduceCtorEq, if_false]
    rw [apply_addPlayer_unnamed writable (by simp [friendsOf_of_inactive noActive])]
    rfl

section Plan

variable {s : Store} (valid : Valid s) {sport : Sport} {year : Int}
  (active : s.activeYear sport = some year) {desired : List Player}
include valid active

theorem nodup_playersOf_ids : ((s.playersOf sport).map (·.id)).Nodup :=
  (playersOf_ids_perm active).nodup_iff.2 (valid.nodup_seasonPlayerIds sport year)

omit valid in
theorem mem_playersOf_ids_iff {id : Int} :
    id ∈ (s.playersOf sport).map (·.id) ↔ id ∈ (s.seasonPlayers sport year).map (·.id) :=
  (playersOf_ids_perm active).mem_iff

omit valid in
/-- A save deletes the stored players of the season whose id is not desired. -/
theorem mem_deletedPlayerIds {id : Int} :
    id ∈ s.deletedPlayerIds sport desired ↔
      id ∈ (s.seasonPlayers sport year).map (·.id) ∧ id ∉ desired.map (·.id) := by
  rw [← mem_playersOf_ids_iff active]
  simp only [deletedPlayerIds, List.mem_map, mem_toDelete_iff, rosterKey_player]
  constructor
  · rintro ⟨x, ⟨listed, unwanted⟩, rfl⟩
    exact ⟨⟨x, listed, rfl⟩, unwanted⟩
  · rintro ⟨⟨x, listed, rfl⟩, unwanted⟩
    exact ⟨x, ⟨listed, unwanted⟩, rfl⟩

theorem nodup_deletedPlayerIds : (s.deletedPlayerIds sport desired).Nodup :=
  (nodup_playersOf_ids valid active).sublist (List.filter_sublist.map _)

omit valid in
/-- A save adds the desired entries whose id is not stored in the season, in their order. -/
theorem toInsert_players : (diff (s.playersOf sport) desired).toInsert =
    desired.filter fun d => !((s.seasonPlayers sport year).map (·.id)).contains d.id := by
  rw [toInsert_eq]
  refine List.filter_congr fun d _ => ?_
  simp only [rosterKey_player]
  congr 1
  rw [Bool.eq_iff_iff, List.contains_iff_mem, List.contains_iff_mem]
  exact mem_playersOf_ids_iff active

omit valid in
theorem mem_toUpdate_players {u : Player}
    (updated : u ∈ (diff (s.playersOf sport) desired).toUpdate) :
    u ∈ desired ∧ u.id ∈ (s.seasonPlayers sport year).map (·.id) :=
  ⟨(List.mem_filter.1 updated).1, (mem_playersOf_ids_iff active).1 (key_mem_of_mem_toUpdate updated)⟩

omit valid in
/-- The entries a save writes over stored players are among the entries that match a stored id. -/
theorem toUpdate_players_sublist : (diff (s.playersOf sport) desired).toUpdate.Sublist
    (desired.filter fun d => ((s.seasonPlayers sport year).map (·.id)).contains d.id) := by
  have sameFilter : (desired.filter fun d =>
      ((s.playersOf sport).map RosterItem.key).contains (RosterItem.key d)) =
      desired.filter fun d => ((s.seasonPlayers sport year).map (·.id)).contains d.id := by
    refine List.filter_congr fun d _ => ?_
    simp only [rosterKey_player]
    rw [Bool.eq_iff_iff, List.contains_iff_mem, List.contains_iff_mem]
    exact mem_playersOf_ids_iff active
  exact sameFilter ▸ toUpdate_sublist _ _

/-- Writing the plan's entries over a stored player whose id is desired gives it the display
order of the desired entry with that id: either the entry is written, or it already agrees. -/
theorem reorderFrom_toUpdate
    (matched : ((desired.filter fun d =>
      ((s.seasonPlayers sport year).map (·.id)).contains d.id).map (·.id)).Nodup)
    {p : PlayerRow} (member : p ∈ s.seasonPlayers sport year) (wanted : p.id ∈ desired.map (·.id)) :
    p.reorderFrom (diff (s.playersOf sport) desired).toUpdate = p.reorderFrom desired := by
  have seasonId : p.id ∈ (s.seasonPlayers sport year).map (·.id) := List.mem_map_of_mem member
  obtain ⟨d, found⟩ : ∃ d, desired.find? (·.id == p.id) = some d :=
    Option.isSome_iff_exists.1 (List.find?_isSome.2 (by simpa using wanted))
  have sameId : d.id = p.id := by simpa using List.find?_some found
  have dMatched : d ∈ desired.filter fun d =>
      ((s.seasonPlayers sport year).map (·.id)).contains d.id :=
    List.mem_filter.2 ⟨List.mem_of_find?_eq_some found, by simpa [sameId] using seasonId⟩
  -- an update with the player's id is the desired entry found, since matched ids are distinct
  have unique : ∀ u ∈ (diff (s.playersOf sport) desired).toUpdate, u.id = p.id → u = d :=
    fun u updated same => List.inj_on_of_nodup_map matched
      ((toUpdate_players_sublist active).subset updated) dMatched (same.trans sameId.symm)
  unfold PlayerRow.reorderFrom
  rw [overwriteBy_of_find found]
  by_cases written : d ∈ (diff (s.playersOf sport) desired).toUpdate
  · obtain ⟨u, first⟩ : ∃ u, (diff (s.playersOf sport) desired).toUpdate.find? (·.id == p.id) =
        some u :=
      Option.isSome_iff_exists.1 (List.find?_isSome.2 ⟨d, written, by simp [sameId]⟩)
    have sameU := unique u (List.mem_of_find?_eq_some first) (by simpa using List.find?_some first)
    rw [overwriteBy_of_find first, sameU]
  · rw [overwriteBy_of_absent fun u updated same => written (unique u updated same ▸ updated)]
    -- the entry is not written, so it agrees with the stored player it matches
    have stored : (⟨p.id, p.categoryId, p.sourceId, p.friendId, p.displayOrder⟩ : Player) ∈
        s.playersOf sport := by
      rw [playersOf_eq_playersIn active]
      simp only [playersIn, List.mem_map, List.mem_mergeSort]
      exact ⟨p, member, rfl⟩
    have agrees : ¬RosterItem.differs d ⟨p.id, p.categoryId, p.sourceId, p.friendId,
        p.displayOrder⟩ = true := fun differs =>
      written ((mem_toUpdate_iff (nodup_playersOf_ids valid active)).2
        ⟨List.mem_of_find?_eq_some found, _, stored, sameId.symm, differs⟩)
    simp only [rosterDiffers_player, bne_iff_ne, ne_eq, not_not] at agrees
    rw [agrees]

omit valid in
/-- A stored player of the season stays exactly when its id is desired. -/
theorem notDeletedPlayer_iff {p : PlayerRow} (member : p ∈ s.seasonPlayers sport year) :
    (!(s.deletedPlayerIds sport desired).contains p.id) = (desired.map (·.id)).contains p.id := by
  have seasonId : p.id ∈ (s.seasonPlayers sport year).map (·.id) := List.mem_map_of_mem member
  by_cases wanted : p.id ∈ desired.map (·.id)
  · have kept : p.id ∉ s.deletedPlayerIds sport desired := fun deleted =>
      ((mem_deletedPlayerIds active).1 deleted).2 wanted
    rw [List.contains_iff_mem.2 wanted, Bool.not_eq_true', ← Bool.not_eq_true,
      List.contains_iff_mem]
    exact kept
  · have gone : p.id ∈ s.deletedPlayerIds sport desired :=
      (mem_deletedPlayerIds active).2 ⟨seasonId, wanted⟩
    rw [List.contains_iff_mem.2 gone, Bool.not_true, eq_comm, ← Bool.not_eq_true,
      List.contains_iff_mem]
    exact wanted

/-- After a save the season's players are the stored ones whose id is desired, with the desired
display order, followed by the new ones. -/
theorem seasonPlayers_savedPlayers
    (matched : ((desired.filter fun d =>
      ((s.seasonPlayers sport year).map (·.id)).contains d.id).map (·.id)).Nodup) :
    (s.savedPlayers sport year desired).seasonPlayers sport year =
      ((s.seasonPlayers sport year).filter fun p => (desired.map (·.id)).contains p.id).map
          (PlayerRow.reorderFrom desired) ++
        freshPlayerRows sport year (s.lastPlayerId + 1)
          (desired.filter fun d => !((s.seasonPlayers sport year).map (·.id)).contains d.id) := by
  let updates := (diff (s.playersOf sport) desired).toUpdate
  let inSeason (p : PlayerRow) : Bool := p.sport == sport && p.year == year
  let notDeleted (p : PlayerRow) : Bool := !(s.deletedPlayerIds sport desired).contains p.id
  let fresh := freshPlayerRows sport year (s.lastPlayerId + 1)
    (desired.filter fun d => !((s.seasonPlayers sport year).map (·.id)).contains d.id)
  -- the new rows are numbered above every stored id, so no update reaches them
  have freshUntouched : fresh.map (PlayerRow.reorderFrom updates) = fresh := by
    refine (List.map_congr_left fun r added => overwriteBy_of_absent fun u updated same => ?_).trans
      (List.map_id fresh)
    obtain ⟨q, member, sameId⟩ := List.mem_map.1 (mem_toUpdate_players active updated).2
    have below := valid.playerIdBelow q (List.mem_filter.1 member).1
    have above := (mem_freshPlayerRows added).2.2
    omega
  have freshInSeason : fresh.filter inSeason = fresh := by
    refine List.filter_eq_self.2 fun r added => ?_
    obtain ⟨sameSport, sameYear, -⟩ := mem_freshPlayerRows added
    simp [inSeason, sameSport, sameYear]
  have storedKept : ((s.players.filter notDeleted).map (PlayerRow.reorderFrom updates)).filter
      inSeason = ((s.seasonPlayers sport year).filter fun p =>
        (desired.map (·.id)).contains p.id).map (PlayerRow.reorderFrom desired) :=
    calc ((s.players.filter notDeleted).map (PlayerRow.reorderFrom updates)).filter inSeason
        = ((s.players.filter notDeleted).filter inSeason).map (PlayerRow.reorderFrom updates) := by
          rw [List.filter_map]
          congr 2
          funext p
          simp [inSeason]
      _ = ((s.seasonPlayers sport year).filter notDeleted).map (PlayerRow.reorderFrom updates) := by
          rw [seasonPlayers, List.filter_filter, List.filter_filter]
          congr 1
          exact List.filter_congr fun p _ => Bool.and_comm _ _
      _ = ((s.seasonPlayers sport year).filter fun p => (desired.map (·.id)).contains p.id).map
            (PlayerRow.reorderFrom updates) := by
          rw [List.filter_congr fun p member => notDeletedPlayer_iff active member]
      _ = _ := List.map_congr_left fun p kept => by
          rw [List.mem_filter, List.contains_iff_mem] at kept
          exact reorderFrom_toUpdate valid active matched kept.1 kept.2
  change (((s.players.filter notDeleted) ++ freshPlayerRows sport year (s.lastPlayerId + 1)
    (diff (s.playersOf sport) desired).toInsert).map (PlayerRow.reorderFrom updates)).filter
      inSeason = _
  rw [toInsert_players active, List.map_append, List.filter_append, freshUntouched, freshInSeason,
    storedKept]

omit active in
/-- The new rows of a save are numbered above every id stored before. -/
theorem fresh_savedPlayers {p : PlayerRow} (stored : p ∈ s.players) {r : PlayerRow}
    (added : r ∈ freshPlayerRows sport year (s.lastPlayerId + 1)
      (desired.filter fun d => !((s.seasonPlayers sport year).map (·.id)).contains d.id)) :
    p.id < r.id := by
  have below := valid.playerIdBelow p stored
  have above := (mem_freshPlayerRows added).2.2
  omega

/-- On a store that takes writes, when every new player names a friend of the active season, the
writes of a save run through, one row each, to the saved store. -/
theorem transact_savedPlayers (writable : s.readOnly = false)
    (named : ∀ d ∈ desired, d.id ∉ (s.playersOf sport).map (·.id) →
      d.friendId ∈ (s.friendsOf sport).map (·.id))
    (matched : ((desired.filter fun d =>
      ((s.seasonPlayers sport year).map (·.id)).contains d.id).map (·.id)).Nodup) :
    let plan := diff (s.playersOf sport) desired
    s.transact (plan.toDelete.map (fun p => .delPlayer p.id) ++
      plan.toInsert.map (fun p => .addPlayer sport p.categoryId p.sourceId p.friendId
        p.displayOrder) ++
      plan.toUpdate.map (fun p => .setPlayer p.id p.displayOrder)) =
      .ok (s.savedPlayers sport year desired) := by
  intro plan
  have inSeason : ∀ id ∈ (s.seasonPlayers sport year).map (·.id), id ∈ s.players.map (·.id) :=
    (List.filter_sublist.map _).subset
  have deletes : s.Runs ((s.deletedPlayerIds sport desired).map .delPlayer)
      (s.withoutPlayers (s.deletedPlayerIds sport desired)) :=
    runs_delPlayers valid writable (nodup_deletedPlayerIds valid active)
      fun id deleted => inSeason id ((mem_deletedPlayerIds active).1 deleted).1
  -- deleting players keeps the seasons, the friends and whether the store takes writes
  let kept := s.withoutPlayers (s.deletedPlayerIds sport desired)
  have keptWritable : kept.readOnly = false := writable
  have keptActive : kept.activeYear sport = some year := active
  have insertedNamed : ∀ d ∈ plan.toInsert, d.friendId ∈ (kept.friendsOf sport).map (·.id) := by
    intro d inserted
    rw [toInsert_eq, List.mem_filter] at inserted
    refine named d inserted.1 fun listed => ?_
    simp [rosterKey_player, listed] at inserted
  have inserts : kept.Runs (plan.toInsert.map fun d =>
        .addPlayer sport d.categoryId d.sourceId d.friendId d.displayOrder)
      (kept.withNewPlayers sport year plan.toInsert) :=
    runs_addPlayers keptWritable keptActive insertedNamed
  -- an updated player is desired, so it survives the deletes
  have updatedStored : ∀ u ∈ plan.toUpdate,
      u.id ∈ (kept.withNewPlayers sport year plan.toInsert).players.map (·.id) := by
    intro u updated
    obtain ⟨wanted, seasonId⟩ := mem_toUpdate_players active updated
    obtain ⟨q, member, sameId⟩ := List.mem_map.1 seasonId
    have stays : (!(s.deletedPlayerIds sport desired).contains q.id) =
        (desired.map (·.id)).contains q.id :=
      notDeletedPlayer_iff active member
    rw [sameId, List.contains_iff_mem.2 (List.mem_map_of_mem wanted)] at stays
    refine List.mem_map.2 ⟨q, List.mem_append_left _ (List.mem_filter.2 ⟨?_, ?_⟩), sameId⟩
    · exact (List.mem_filter.1 member).1
    · rw [sameId]
      exact stays
  have addedWritable : (kept.withNewPlayers sport year plan.toInsert).readOnly = false := writable
  have updates := runs_setPlayers (inserts.valid (deletes.valid valid)) addedWritable
    (matched.sublist ((toUpdate_players_sublist active).map _)) updatedStored
  have deleteWrites : plan.toDelete.map (fun p => Write.delPlayer p.id) =
      (s.deletedPlayerIds sport desired).map .delPlayer := by
    simp only [deletedPlayerIds, List.map_map]
    rfl
  apply transact_eq_ok_iff.2
  rw [deleteWrites, List.append_assoc]
  exact deletes.append (inserts.append updates)

/-- When a new player names no friend of the active season, the save stops at the first such
player, which matches no row. -/
theorem transact_of_unnamed (writable : s.readOnly = false)
    (unnamed : ∃ d ∈ desired, d.id ∉ (s.playersOf sport).map (·.id) ∧
      d.friendId ∉ (s.friendsOf sport).map (·.id)) :
    let plan := diff (s.playersOf sport) desired
    s.transact (plan.toDelete.map (fun p => .delPlayer p.id) ++
      plan.toInsert.map (fun p => .addPlayer sport p.categoryId p.sourceId p.friendId
        p.displayOrder) ++
      plan.toUpdate.map (fun p => .setPlayer p.id p.displayOrder)) =
      .error (.consistency "add_player" 0) := by
  intro plan
  let named (d : Player) : Bool := ((s.friendsOf sport).map (·.id)).contains d.friendId
  -- the inserts split at the first player that names no friend of the season
  have notAll : ¬∀ d ∈ plan.toInsert, named d = true := by
    obtain ⟨d, wanted, fresh, noFriend⟩ := unnamed
    intro all
    have inserted : d ∈ plan.toInsert := by
      rw [toInsert_eq, List.mem_filter]
      exact ⟨wanted, by simpa [rosterKey_player] using fresh⟩
    exact noFriend (List.contains_iff_mem.1 (all d inserted))
  obtain ⟨d, post, dropped⟩ := List.exists_cons_of_ne_nil
    fun empty => notAll (List.dropWhile_eq_nil_iff.1 empty)
  have firstUnnamed : named d = false := by
    have head := List.dropWhile_get_zero_not named plan.toInsert (by simp [dropped])
    simpa [dropped] using head
  have split : plan.toInsert = plan.toInsert.takeWhile named ++ d :: post := by
    rw [← dropped, List.takeWhile_append_dropWhile]
  have inSeason : ∀ id ∈ (s.seasonPlayers sport year).map (·.id), id ∈ s.players.map (·.id) :=
    (List.filter_sublist.map _).subset
  have deletes : s.Runs ((s.deletedPlayerIds sport desired).map .delPlayer)
      (s.withoutPlayers (s.deletedPlayerIds sport desired)) :=
    runs_delPlayers valid writable (nodup_deletedPlayerIds valid active)
      fun id deleted => inSeason id ((mem_deletedPlayerIds active).1 deleted).1
  let kept := s.withoutPlayers (s.deletedPlayerIds sport desired)
  have keptWritable : kept.readOnly = false := writable
  have keptActive : kept.activeYear sport = some year := active
  have earlier : kept.Runs ((plan.toInsert.takeWhile named).map fun d =>
        .addPlayer sport d.categoryId d.sourceId d.friendId d.displayOrder)
      (kept.withNewPlayers sport year (plan.toInsert.takeWhile named)) :=
    runs_addPlayers keptWritable keptActive fun e member => by
      have earlyNamed : named e = true := List.mem_takeWhile_imp member
      exact List.contains_iff_mem.1 earlyNamed
  -- adding players keeps the friends, so the first player without one still names none
  let added := kept.withNewPlayers sport year (plan.toInsert.takeWhile named)
  have addedWritable : added.readOnly = false := writable
  have stopped : added.apply (.addPlayer sport d.categoryId d.sourceId d.friendId d.displayOrder) =
      .ok (0, added) :=
    apply_addPlayer_unnamed addedWritable fun listed =>
      Bool.false_ne_true (firstUnnamed.symm.trans (List.contains_iff_mem.2 listed))
  have deleteWrites : plan.toDelete.map (fun p => Write.delPlayer p.id) =
      (s.deletedPlayerIds sport desired).map .delPlayer := by
    simp only [deletedPlayerIds, List.map_map]
    rfl
  rw [deleteWrites, split, List.map_append, List.map_cons, List.append_assoc, List.append_assoc,
    ← List.append_assoc, List.cons_append]
  exact transact_of_count (deletes.append earlier) stopped (by decide) _

end Plan

/-- What a save of a sport's players leaves in its active season. -/
structure PlayersSaved (s t : Store) (sport : Sport) (year : Int) (desired : List Player) : Prop where
  frame : RosterFrame s t sport
  friends : t.friends = s.friends
  players : t.seasonPlayers sport year =
    ((s.seasonPlayers sport year).filter fun p => (desired.map (·.id)).contains p.id).map
        (PlayerRow.reorderFrom desired) ++
      freshPlayerRows sport year (s.lastPlayerId + 1)
        (desired.filter fun d => !((s.seasonPlayers sport year).map (·.id)).contains d.id)
  fresh : ∀ p ∈ s.players, ∀ r ∈ freshPlayerRows sport year (s.lastPlayerId + 1)
      (desired.filter fun d => !((s.seasonPlayers sport year).map (·.id)).contains d.id),
    p.id < r.id

/-- Saving the players of a sport on a reachable store. -/
theorem savePlayers_reconciles (s : Store) (reachable : Reachable s) (registry : Registry)
    (sport : Sport) (desired : List Player) :
    (∀ pre p post, desired = pre ++ p :: post →
      (∀ q ∈ pre, (registry.get? q.categoryId).map Category.sport = some sport) →
      (registry.get? p.categoryId).map Category.sport ≠ some sport →
      s.savePlayers registry sport desired = .error (.validation ("player " ++ toString p.id ++
        " has unknown " ++ sport.slug ++ " category " ++ toString p.categoryId))) ∧
    ((∀ q ∈ desired, (registry.get? q.categoryId).map Category.sport = some sport) →
      ((∀ d ∈ desired, d.id ∉ (s.playersOf sport).map (·.id) →
          d.friendId ∈ (s.friendsOf sport).map (·.id)) →
        ((desired.filter fun d => ((s.playersOf sport).map (·.id)).contains d.id).map
          (·.id)).Nodup →
        ∃ t, s.savePlayers registry sport desired = .ok t ∧ Reachable t ∧
          (∀ year, s.activeYear sport = some year → PlayersSaved s t sport year desired) ∧
          (s.activeYear sport = none → t = s)) ∧
      (¬(∀ d ∈ desired, d.id ∉ (s.playersOf sport).map (·.id) →
          d.friendId ∈ (s.friendsOf sport).map (·.id)) →
        s.savePlayers registry sport desired = .error (.consistency "add_player" 0))) := by
  have valid := reachable.valid
  have writable := reachable.writable
  refine ⟨?stray, fun covered => ⟨?saved, ?unnamed⟩⟩
  case stray =>
    intro pre p post split covered stray
    rw [savePlayers, split, strayPlayer_of_first covered stray]
  case saved =>
    intro named matched
    cases active : s.activeYear sport with
    | none =>
      -- without an active season no player names a friend of it, so nothing is desired
      have nothing : desired = [] := by
        rw [List.eq_nil_iff_forall_not_mem]
        intro d wanted
        have listed := named d wanted (by simp [playersOf_of_inactive active])
        simp [friendsOf_of_inactive active] at listed
      refine ⟨s, ?_, reachable, fun year stored => by simp at stored, fun _ => rfl⟩
      rw [savePlayers_of_inactive writable active covered, if_pos nothing]
    | some year =>
      rw [savePlayers_of_covered covered]
      have sameMatched : (desired.filter fun d =>
          ((s.playersOf sport).map (·.id)).contains d.id) =
          desired.filter fun d => ((s.seasonPlayers sport year).map (·.id)).contains d.id := by
        refine List.filter_congr fun d _ => ?_
        rw [Bool.eq_iff_iff, List.contains_iff_mem, List.contains_iff_mem]
        exact mem_playersOf_ids_iff active
      rw [sameMatched] at matched
      have saved := transact_savedPlayers valid active writable named matched
      refine ⟨_, saved, reachable.transact saved, ?_,
        fun impossible => absurd impossible (Option.some_ne_none year)⟩
      intro season sameSeason
      cases sameSeason
      have frame := savePlayers_frame valid ((savePlayers_of_covered covered).trans saved)
      exact {
        frame := frame
        friends := rfl
        players := seasonPlayers_savedPlayers valid active matched
        fresh := fun _ stored _ added => fresh_savedPlayers valid stored added }
  case unnamed =>
    intro notNamed
    have unnamed : ∃ d ∈ desired, d.id ∉ (s.playersOf sport).map (·.id) ∧
        d.friendId ∉ (s.friendsOf sport).map (·.id) := by
      simpa only [not_forall, Classical.not_imp, exists_prop] using notNamed
    cases active : s.activeYear sport with
    | none =>
      obtain ⟨d, wanted, -, -⟩ := unnamed
      rw [savePlayers_of_inactive writable active covered, if_neg (List.ne_nil_of_mem wanted)]
    | some year =>
      rw [savePlayers_of_covered covered]
      exact transact_of_unnamed valid active writable unnamed

/-- A season with one friend and one player, reached by four writes, whose player is reordered
and joined by a new one under the same friend. -/
theorem savePlayers_reconciles_reordered :
    let s : Store :=
      { years := [⟨.mlb, 2019, true⟩], friends := [⟨1, .mlb, 2019, 0, "Ann"⟩],
        players := [⟨1, .mlb, 2019, 2, 545361, 1, 0⟩], lastFriendId := 1, lastPlayerId := 1 }
    let desired : List Player := [⟨1, 2, 545361, 1, 1⟩, ⟨0, 3, 477132, 1, 0⟩]
    Reachable s ∧ ∃ t, s.savePlayers Registry.defaults .mlb desired = .ok t ∧ Reachable t ∧
      (∀ year, s.activeYear .mlb = some year → PlayersSaved s t .mlb year desired) ∧
      (s.activeYear .mlb = none → t = s) := by
  intro s desired
  let season : Store := { years := [⟨.mlb, 2019, true⟩] }
  let withFriend : Store := { season with friends := [⟨1, .mlb, 2019, 0, "Ann"⟩], lastFriendId := 1 }
  have added : Store.empty.apply (.addYear .mlb 2019) =
      .ok (1, { years := [⟨.mlb, 2019, false⟩] }) := rfl
  have activated : ({ years := [⟨.mlb, 2019, false⟩] } : Store).apply (.setActive .mlb 2019) =
      .ok (1, season) := rfl
  have joined : season.apply (.addFriend .mlb 0 "Ann") = .ok (1, withFriend) := rfl
  have drafted : withFriend.apply (.addPlayer .mlb 2 545361 1 0) = .ok (1, s) := rfl
  have reachable : Reachable s :=
    (((Reachable.empty.write added).write activated).write joined).write drafted
  exact ⟨reachable, ((savePlayers_reconciles s reachable Registry.defaults .mlb desired).2
    (by decide)).1 (by decide +kernel) (by decide +kernel)⟩

end Store

end DraftPool
