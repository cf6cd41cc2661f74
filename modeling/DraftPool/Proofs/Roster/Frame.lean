import DraftPool.Proofs.Roster.Diff
import DraftPool.Proofs.Roster.Transaction
import DraftPool.Proofs.Store.Valid

/-
Saving friends or players touches one season.
-/

namespace DraftPool

namespace Store

theorem applyWritable_of_apply {s : Store} {w : Write} {result : Nat × Store}
    (applied : s.apply w = .ok result) : s.applyWritable w = .ok result := by
  simp only [Store.apply] at applied
  split at applied
  · cases applied
  · exact applied

/-- The stored friends of a season. -/
def seasonFriends (s : Store) (sport : Sport) (year : Int) : List FriendRow :=
  s.friends.filter fun f => f.sport == sport && f.year == year

/-- The stored players of a season. -/
def seasonPlayers (s : Store) (sport : Sport) (year : Int) : List PlayerRow :=
  s.players.filter fun p => p.sport == sport && p.year == year

/-- The friends of a season, in the order a roster lists them. -/
def friendsIn (s : Store) (sport : Sport) (year : Int) : List Friend :=
  ((s.seasonFriends sport year).mergeSort fun a b =>
    keyLe [a.displayOrder, a.id] [b.displayOrder, b.id]).map fun f => ⟨f.id, f.displayOrder, f.name⟩

/-- The players of a season, in the order a roster lists them. -/
def playersIn (s : Store) (sport : Sport) (year : Int) : List Player :=
  let key (p : PlayerRow) : List Int := [p.categoryId, p.friendId, p.displayOrder, p.id]
  ((s.seasonPlayers sport year).mergeSort fun a b => keyLe (key a) (key b)).map fun p =>
    ⟨p.id, p.categoryId, p.sourceId, p.friendId, p.displayOrder⟩

theorem inActiveYear_eq {s : Store} {sport : Sport} {year : Int}
    (active : s.activeYear sport = some year) (rowYear : Int) :
    s.inActiveYear sport rowYear = (rowYear == year) := by
  simp only [inActiveYear, active, Option.some_beq_some]
  cases same : rowYear == year
  · simp only [beq_eq_false_iff_ne, ne_eq] at same ⊢
    exact fun back => same back.symm
  · rw [beq_iff_eq] at same ⊢
    exact same.symm

/-- The roster of a sport is the roster of its active season. -/
theorem friendsOf_eq_friendsIn {s : Store} {sport : Sport} {year : Int}
    (active : s.activeYear sport = some year) : s.friendsOf sport = s.friendsIn sport year := by
  simp only [friendsOf, friendsIn, seasonFriends, inActiveYear_eq active]

theorem playersOf_eq_playersIn {s : Store} {sport : Sport} {year : Int}
    (active : s.activeYear sport = some year) : s.playersOf sport = s.playersIn sport year := by
  simp only [playersOf, playersIn, seasonPlayers, inActiveYear_eq active]

theorem mem_friendsOf_ids {s : Store} {sport : Sport} {id : Int}
    (listed : id ∈ (s.friendsOf sport).map (·.id)) :
    ∃ f ∈ s.friends, f.id = id ∧ f.sport = sport ∧ s.activeYear sport = some f.year := by
  simp only [friendsOf, List.map_map, List.mem_map, List.mem_mergeSort, List.mem_filter,
    Bool.and_eq_true, beq_iff_eq, inActiveYear, Function.comp_apply] at listed
  obtain ⟨f, ⟨stored, sameSport, active⟩, rfl⟩ := listed
  exact ⟨f, stored, rfl, sameSport, by simpa using active⟩

theorem mem_playersOf_ids {s : Store} {sport : Sport} {id : Int}
    (listed : id ∈ (s.playersOf sport).map (·.id)) :
    ∃ p ∈ s.players, p.id = id ∧ p.sport = sport ∧ s.activeYear sport = some p.year := by
  simp only [playersOf, List.map_map, List.mem_map, List.mem_mergeSort, List.mem_filter,
    Bool.and_eq_true, beq_iff_eq, inActiveYear, Function.comp_apply] at listed
  obtain ⟨p, ⟨stored, sameSport, active⟩, rfl⟩ := listed
  exact ⟨p, stored, rfl, sameSport, by simpa using active⟩

/-- A season other than the sport's active one. -/
def OtherSeason (s : Store) (sport rowSport : Sport) (year : Int) : Prop :=
  ¬(rowSport = sport ∧ s.activeYear sport = some year)

section Elsewhere

variable {s : Store} (valid : Valid s) {sport rowSport : Sport} {year : Int}
  (other : s.OtherSeason sport rowSport year)
include valid other

/-- No friend of another season has the id of a friend of the active season. -/
theorem Valid.friendId_ne {g : FriendRow} (stored : g ∈ s.friends) (sameSport : g.sport = sport)
    (active : s.activeYear sport = some g.year) :
    ∀ f ∈ s.seasonFriends rowSport year, f.id ≠ g.id := by
  intro f member sameId
  rw [seasonFriends, List.mem_filter, Bool.and_eq_true, beq_iff_eq, beq_iff_eq] at member
  have same : f = g := List.inj_on_of_nodup_map valid.friendIds member.1 stored sameId
  subst same
  exact other ⟨member.2.1 ▸ sameSport, member.2.2 ▸ active⟩

/-- No player of another season drafts for a friend of the active season. -/
theorem Valid.playerFriend_ne {g : FriendRow} (stored : g ∈ s.friends)
    (sameSport : g.sport = sport) (active : s.activeYear sport = some g.year) :
    ∀ p ∈ s.seasonPlayers rowSport year, p.friendId ≠ g.id := by
  intro p member sameId
  rw [seasonPlayers, List.mem_filter, Bool.and_eq_true, beq_iff_eq, beq_iff_eq] at member
  obtain ⟨f, friendStored, friendId, friendSport, friendYear⟩ := valid.playerFriend p member.1
  have inSeason : f ∈ s.seasonFriends rowSport year := by
    rw [seasonFriends, List.mem_filter, Bool.and_eq_true, beq_iff_eq, beq_iff_eq]
    exact ⟨friendStored, friendSport.trans member.2.1, friendYear.trans member.2.2⟩
  exact valid.friendId_ne other stored sameSport active f inSeason (friendId.trans sameId)

/-- No player of another season has the id of a player of the active season. -/
theorem Valid.playerId_ne {q : PlayerRow} (stored : q ∈ s.players) (sameSport : q.sport = sport)
    (active : s.activeYear sport = some q.year) :
    ∀ p ∈ s.seasonPlayers rowSport year, p.id ≠ q.id := by
  intro p member sameId
  rw [seasonPlayers, List.mem_filter, Bool.and_eq_true, beq_iff_eq, beq_iff_eq] at member
  have same : p = q := List.inj_on_of_nodup_map valid.playerIds member.1 stored sameId
  subst same
  exact other ⟨member.2.1 ▸ sameSport, member.2.2 ▸ active⟩

end Elsewhere

/-- The writes a save of a sport's friends or players makes: by the id of a row of the active
season, or adding to the sport. -/
def RosterWrite (s : Store) (sport : Sport) : Write → Prop
  | .delFriend id | .setFriend id _ _ => id ∈ (s.friendsOf sport).map (·.id)
  | .addFriend rowSport _ _ | .addPlayer rowSport _ _ _ _ => rowSport = sport
  | .delPlayer id | .setPlayer id _ => id ∈ (s.playersOf sport).map (·.id)
  | _ => False

/-- A store that differs from another at most in the friends and players of a sport's active
season. -/
structure RosterFrame (s t : Store) (sport : Sport) : Prop where
  years : t.years = s.years
  stats : t.stats = s.stats
  friends : ∀ rowSport year, s.OtherSeason sport rowSport year →
    t.seasonFriends rowSport year = s.seasonFriends rowSport year
  players : ∀ rowSport year, s.OtherSeason sport rowSport year →
    t.seasonPlayers rowSport year = s.seasonPlayers rowSport year

theorem RosterFrame.refl (s : Store) (sport : Sport) : RosterFrame s s sport :=
  ⟨rfl, rfl, fun _ _ _ => rfl, fun _ _ _ => rfl⟩

theorem RosterFrame.activeYear {s t : Store} {sport : Sport} (frame : RosterFrame s t sport) :
    t.activeYear sport = s.activeYear sport := by
  simp only [Store.activeYear, frame.years]

section Step

variable {s t : Store} (valid : Valid s) {sport : Sport} (frame : RosterFrame s t sport)
include valid frame

omit valid in
theorem RosterFrame.mem_seasonFriends {rowSport : Sport} {year : Int}
    (other : s.OtherSeason sport rowSport year) {f : FriendRow} (stored : f ∈ t.friends)
    (inSeason : (f.sport == rowSport && f.year == year) = true) :
    f ∈ s.seasonFriends rowSport year := by
  rw [← frame.friends _ _ other]
  exact List.mem_filter.2 ⟨stored, inSeason⟩

omit valid in
theorem RosterFrame.mem_seasonPlayers {rowSport : Sport} {year : Int}
    (other : s.OtherSeason sport rowSport year) {p : PlayerRow} (stored : p ∈ t.players)
    (inSeason : (p.sport == rowSport && p.year == year) = true) :
    p ∈ s.seasonPlayers rowSport year := by
  rw [← frame.players _ _ other]
  exact List.mem_filter.2 ⟨stored, inSeason⟩

omit valid in
theorem RosterFrame.withFriends {friends : List FriendRow} {lastFriendId : Int}
    (kept : ∀ rowSport year, s.OtherSeason sport rowSport year →
      friends.filter (fun f => f.sport == rowSport && f.year == year) =
        t.seasonFriends rowSport year) :
    RosterFrame s { t with friends := friends, lastFriendId := lastFriendId } sport :=
  ⟨frame.years, frame.stats, fun _ _ other => (kept _ _ other).trans (frame.friends _ _ other),
    frame.players⟩

omit valid in
theorem RosterFrame.withPlayers {players : List PlayerRow} {lastPlayerId : Int}
    (kept : ∀ rowSport year, s.OtherSeason sport rowSport year →
      players.filter (fun p => p.sport == rowSport && p.year == year) =
        t.seasonPlayers rowSport year) :
    RosterFrame s { t with players := players, lastPlayerId := lastPlayerId } sport :=
  ⟨frame.years, frame.stats, frame.friends,
    fun _ _ other => (kept _ _ other).trans (frame.players _ _ other)⟩

/-- Deleting a friend of the active season, with its players, leaves other seasons alone. -/
theorem RosterFrame.delFriend {id : Int} (listed : id ∈ (s.friendsOf sport).map (·.id)) :
    RosterFrame s
      { t with
        friends := t.friends.filter fun f => f.id != id
        players := t.players.filter fun p => p.friendId != id } sport := by
  obtain ⟨g, stored, rfl, sameSport, active⟩ := mem_friendsOf_ids listed
  refine ⟨frame.years, frame.stats, fun rowSport year other => ?_,
    fun rowSport year other => ?_⟩
  · have keeps : ∀ f ∈ t.friends, (f.sport == rowSport && f.year == year) = true →
        (f.id != g.id) = true := fun f member inSeason => by
      simpa using valid.friendId_ne other stored sameSport active f
        (frame.mem_seasonFriends other member inSeason)
    exact (filter_filter_of_imp keeps).trans (frame.friends _ _ other)
  · have keeps : ∀ p ∈ t.players, (p.sport == rowSport && p.year == year) = true →
        (p.friendId != g.id) = true := fun p member inSeason => by
      simpa using valid.playerFriend_ne other stored sameSport active p
        (frame.mem_seasonPlayers other member inSeason)
    exact (filter_filter_of_imp keeps).trans (frame.players _ _ other)

/-- Renaming or reordering a friend of the active season leaves other seasons alone. -/
theorem RosterFrame.setFriend {id : Int} (listed : id ∈ (s.friendsOf sport).map (·.id))
    (order : Int) (name : String) :
    RosterFrame s { t with friends := t.friends.map fun f =>
      if f.id == id then { f with displayOrder := order, name := name } else f } sport := by
  obtain ⟨g, stored, rfl, sameSport, active⟩ := mem_friendsOf_ids listed
  refine frame.withFriends fun rowSport year other => filter_map_of_fixed
    (fun f => by split <;> rfl) fun f member inSeason => ?_
  have differs := valid.friendId_ne other stored sameSport active f
    (frame.mem_seasonFriends other member inSeason)
  simp [differs]

/-- Deleting a player of the active season leaves other seasons alone. -/
theorem RosterFrame.delPlayer {id : Int} (listed : id ∈ (s.playersOf sport).map (·.id)) :
    RosterFrame s { t with players := t.players.filter (·.id != id) } sport := by
  obtain ⟨q, stored, rfl, sameSport, active⟩ := mem_playersOf_ids listed
  refine frame.withPlayers fun rowSport year other => filter_filter_of_imp
    fun p member inSeason => ?_
  simpa using valid.playerId_ne other stored sameSport active p
    (frame.mem_seasonPlayers other member inSeason)

/-- Reordering a player of the active season leaves other seasons alone. -/
theorem RosterFrame.setPlayer {id : Int} (listed : id ∈ (s.playersOf sport).map (·.id))
    (order : Int) :
    RosterFrame s { t with players := t.players.map fun p =>
      if p.id == id then { p with displayOrder := order } else p } sport := by
  obtain ⟨q, stored, rfl, sameSport, active⟩ := mem_playersOf_ids listed
  refine frame.withPlayers fun rowSport year other => filter_map_of_fixed
    (fun p => by split <;> rfl) fun p member inSeason => ?_
  have differs := valid.playerId_ne other stored sameSport active p
    (frame.mem_seasonPlayers other member inSeason)
  simp [differs]

omit valid in
/-- A row added to the sport's active season is of no other season. -/
theorem RosterFrame.not_other {rowSport : Sport} {year : Int}
    (other : s.OtherSeason sport rowSport year) {added : Int}
    (active : t.activeYear sport = some added) : (sport == rowSport && added == year) = false := by
  rw [frame.activeYear] at active
  cases inSeason : (sport == rowSport && added == year)
  · rfl
  · simp only [Bool.and_eq_true, beq_iff_eq] at inSeason
    exact absurd ⟨inSeason.1.symm, inSeason.2 ▸ active⟩ other

omit valid in
/-- Adding a friend to the active season leaves other seasons alone. -/
theorem RosterFrame.addFriend {year : Int} (active : t.activeYear sport = some year)
    (id order : Int) (name : String) :
    RosterFrame s
      { t with
        friends := t.friends ++ [⟨id, sport, year, order, name⟩]
        lastFriendId := id } sport :=
  frame.withFriends fun _ _ other => by
    simp [List.filter_append, frame.not_other other active, seasonFriends]

omit valid in
/-- Adding a player under a friend of the active season leaves other seasons alone. -/
theorem RosterFrame.addPlayer {f : FriendRow} (sameSport : f.sport = sport)
    (active : t.activeYear sport = some f.year) (id categoryId sourceId order : Int) :
    RosterFrame s
      { t with
        players := t.players ++ [⟨id, f.sport, f.year, categoryId, sourceId, f.id, order⟩]
        lastPlayerId := id } sport :=
  frame.withPlayers fun _ _ other => by
    simp [List.filter_append, sameSport, frame.not_other other active, seasonPlayers]

/-- Every write of a roster save that succeeds leaves other seasons alone. -/
theorem RosterFrame.step {w : Write} (allowed : RosterWrite s sport w) {n : Nat} {t' : Store}
    (applied : t.applyWritable w = .ok (n, t')) : RosterFrame s t' sport := by
  cases w with
  | delFriend id =>
    cases applied
    exact frame.delFriend valid allowed
  | addFriend rowSport order name =>
    cases allowed
    simp only [applyWritable] at applied
    split at applied
    · cases applied
      exact frame
    · rename_i year active
      cases applied
      exact frame.addFriend active _ _ _
  | setFriend id order name =>
    cases applied
    exact frame.setFriend valid allowed order name
  | delPlayer id =>
    cases applied
    exact frame.delPlayer valid allowed
  | addPlayer rowSport categoryId sourceId friendId order =>
    cases allowed
    simp only [applyWritable] at applied
    split at applied
    · cases applied
      exact frame
    · rename_i f found
      have passes := List.find?_some found
      simp only [Bool.and_eq_true, beq_iff_eq] at passes
      cases applied
      refine frame.addPlayer passes.1.1 ?_ _ _ _ _
      simpa [inActiveYear] using passes.2
  | setPlayer id order =>
    cases applied
    exact frame.setPlayer valid allowed order
  | clearActive | delYear | addYear | setActive => exact allowed.elim

end Step

/-- A run of roster writes leaves other seasons alone. -/
theorem RosterFrame.runs {s t t' : Store} (valid : Valid s) {sport : Sport}
    (frame : RosterFrame s t sport) {ws : List Write} (run : t.Runs ws t')
    (allowed : ∀ w ∈ ws, RosterWrite s sport w) : RosterFrame s t' sport := by
  induction run with
  | nil => exact frame
  | cons applied _ inductionHypothesis =>
    have stepped := frame.step valid (allowed _ List.mem_cons_self)
      (applyWritable_of_apply applied)
    exact inductionHypothesis stepped fun w member => allowed w (List.mem_cons_of_mem _ member)

/-- Saving a sport's friends changes only the friends and players of its active season. -/
theorem saveFriends_frame {s t : Store} (valid : Valid s) {sport : Sport}
    {desired : List Friend} (saved : s.saveFriends sport desired = .ok t) :
    RosterFrame s t sport := by
  unfold saveFriends at saved
  refine (RosterFrame.refl s sport).runs valid (transact_eq_ok_iff.1 saved) fun w member => ?_
  simp only [List.mem_append, List.mem_map] at member
  rcases member with (⟨f, deleted, rfl⟩ | ⟨f, _, rfl⟩) | ⟨f, updated, rfl⟩
  · exact List.mem_map_of_mem (mem_of_mem_toDelete deleted)
  · rfl
  · exact key_mem_of_mem_toUpdate updated

/-- Saving a sport's players changes only the players of its active season. -/
theorem savePlayers_frame {s t : Store} (valid : Valid s) {registry : Registry} {sport : Sport}
    {desired : List Player} (saved : s.savePlayers registry sport desired = .ok t) :
    RosterFrame s t sport := by
  unfold savePlayers at saved
  split at saved
  · cases saved
  · refine (RosterFrame.refl s sport).runs valid (transact_eq_ok_iff.1 saved) fun w member => ?_
    simp only [List.mem_append, List.mem_map] at member
    rcases member with (⟨p, deleted, rfl⟩ | ⟨p, _, rfl⟩) | ⟨p, updated, rfl⟩
    · exact List.mem_map_of_mem (mem_of_mem_toDelete deleted)
    · rfl
    · exact key_mem_of_mem_toUpdate updated

end Store

end DraftPool
