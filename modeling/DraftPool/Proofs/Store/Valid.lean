import DraftPool.Store.Write
import Mathlib.Data.List.Nodup

/-
The constraints a store keeps, and the stores reachable by writes.
-/

namespace DraftPool

/-- The key of a stored season. -/
def YearRow.key (y : YearRow) : Sport × Int := (y.sport, y.value)

/-- The key of a cached score row. -/
def StatRow.key (r : StatRow) : Sport × Int := (r.sport, r.year)

/-- What the constraints read of a friend: its id and its season. -/
def FriendRow.link (f : FriendRow) : Int × Sport × Int := (f.id, f.sport, f.year)

/-- What the constraints read of a player: its id, its season and its friend. -/
def PlayerRow.link (p : PlayerRow) : Int × Sport × Int × Int := (p.id, p.sport, p.year, p.friendId)

/-- Filtering again by a weaker test changes nothing. -/
theorem filter_filter_of_imp {α : Type} {l : List α} {p q : α → Bool}
    (implies : ∀ a ∈ l, p a = true → q a = true) : (l.filter q).filter p = l.filter p := by
  rw [List.filter_filter]
  refine List.filter_congr fun a member => ?_
  cases passes : p a
  · rfl
  · simp [implies a member passes]

/-- A change that keeps a test and leaves the rows passing it alone keeps what passes. -/
theorem filter_map_of_fixed {α : Type} {l : List α} {g : α → α} {p : α → Bool}
    (keeps : ∀ a, p (g a) = p a) (fixed : ∀ a ∈ l, p a = true → g a = a) :
    (l.map g).filter p = l.filter p := by
  rw [List.filter_map]
  have samePass : (p ∘ g) = p := funext keeps
  rw [samePass]
  conv_rhs => rw [← List.map_id (l.filter p)]
  refine List.map_congr_left fun a member => ?_
  rw [List.mem_filter] at member
  exact fixed a member.1 member.2

/-- Sorting by an integer key gives one order to lists that hold the same items with distinct
keys. -/
theorem mergeSort_eq_of_perm_of_key {α : Type} {key : α → Int} {l₁ l₂ : List α}
    (perm : l₁.Perm l₂) (distinct : (l₁.map key).Nodup) :
    l₁.mergeSort (fun a b => decide (key a ≤ key b)) =
      l₂.mergeSort (fun a b => decide (key a ≤ key b)) := by
  have trans : ∀ a b c : α, decide (key a ≤ key b) = true →
      decide (key b ≤ key c) = true → decide (key a ≤ key c) = true := by
    intro a b c first second
    simp only [decide_eq_true_eq] at first second ⊢
    omega
  have total : ∀ a b : α, (decide (key a ≤ key b) || decide (key b ≤ key a)) = true := by
    intro a b
    simp only [Bool.or_eq_true, decide_eq_true_eq]
    omega
  -- two sorted permutations of one list agree unless two items are sorted both ways
  refine List.Perm.eq_of_pairwise ?_ (List.pairwise_mergeSort trans total l₁)
    (List.pairwise_mergeSort trans total l₂)
    ((List.mergeSort_perm l₁ _).trans (perm.trans (List.mergeSort_perm l₂ _).symm))
  intro a b memA memB below above
  simp only [decide_eq_true_eq] at below above
  rw [List.mem_mergeSort] at memA memB
  exact List.inj_on_of_nodup_map distinct memA (perm.symm.subset memB) (by omega)

namespace Store

theorem hasYear_iff {s : Store} {sport : Sport} {year : Int} :
    s.hasYear sport year = true ↔ (sport, year) ∈ s.years.map YearRow.key := by
  simp [hasYear, YearRow.key, and_comm]

/-- The active season of a sport is a stored active season of it. -/
theorem activeYear_mem {s : Store} {sport : Sport} {year : Int}
    (active : s.activeYear sport = some year) : (⟨sport, year, true⟩ : YearRow) ∈ s.years := by
  simp only [activeYear, Option.map_eq_some_iff] at active
  obtain ⟨row, found, rfl⟩ := active
  have holds := List.find?_some found
  simp only [Bool.and_eq_true, beq_iff_eq] at holds
  obtain ⟨sameSport, isActive⟩ := holds
  have stored := List.mem_of_find?_eq_some found
  rw [← sameSport, ← isActive]
  exact stored

theorem hasYear_of_activeYear {s : Store} {sport : Sport} {year : Int}
    (active : s.activeYear sport = some year) : s.hasYear sport year = true :=
  hasYear_iff.2 (List.mem_map_of_mem (activeYear_mem active))

/-- The constraints of the store's schema, and the counters above every id. -/
structure Valid (s : Store) : Prop where
  yearKeys : (s.years.map YearRow.key).Nodup
  oneActive : ∀ a ∈ s.years, ∀ b ∈ s.years, a.sport = b.sport → a.active = true →
    b.active = true → a.value = b.value
  friendYear : ∀ f ∈ s.friends, s.hasYear f.sport f.year = true
  playerFriend : ∀ p ∈ s.players,
    ∃ f ∈ s.friends, f.id = p.friendId ∧ f.sport = p.sport ∧ f.year = p.year
  statYear : ∀ r ∈ s.stats, s.hasYear r.sport r.year = true
  statKeys : (s.stats.map StatRow.key).Nodup
  friendIds : (s.friends.map (·.id)).Nodup
  playerIds : (s.players.map (·.id)).Nodup
  friendIdBelow : ∀ f ∈ s.friends, f.id ≤ s.lastFriendId
  playerIdBelow : ∀ p ∈ s.players, p.id ≤ s.lastPlayerId

theorem empty_valid : Valid Store.empty := by
  constructor <;> simp [Store.empty]

/-- A sport's active season, read under the constraints: the one stored active season of it. -/
theorem activeYear_eq_some_iff {s : Store} (valid : Valid s) {sport : Sport} {year : Int} :
    s.activeYear sport = some year ↔ (⟨sport, year, true⟩ : YearRow) ∈ s.years := by
  refine ⟨activeYear_mem, fun stored => ?_⟩
  have found : (s.years.find? fun y => y.sport == sport && y.active).isSome := by
    rw [List.find?_isSome]
    exact ⟨_, stored, by simp⟩
  obtain ⟨row, first⟩ := Option.isSome_iff_exists.1 found
  have passes := List.find?_some first
  simp only [Bool.and_eq_true, beq_iff_eq] at passes
  have same : row.value = year :=
    valid.oneActive row (List.mem_of_find?_eq_some first) _ stored passes.1 passes.2 rfl
  simp [activeYear, first, same]

/-- A member of a list has a partner in any list with the same image. -/
theorem exists_of_map_eq {α β : Type} {l l' : List α} {g : α → β} (same : l.map g = l'.map g)
    {x : α} (mem : x ∈ l) : ∃ y ∈ l', g y = g x :=
  List.mem_map.1 (same ▸ List.mem_map_of_mem mem)

/-- The constraints read the years, the links of friends and players, the keys of cached scores
and the counters, and nothing else. -/
theorem Valid.of_links {s t : Store} (valid : Valid s) (years : t.years = s.years)
    (friends : t.friends.map FriendRow.link = s.friends.map FriendRow.link)
    (players : t.players.map PlayerRow.link = s.players.map PlayerRow.link)
    (stats : t.stats.map StatRow.key = s.stats.map StatRow.key)
    (lastFriend : t.lastFriendId = s.lastFriendId) (lastPlayer : t.lastPlayerId = s.lastPlayerId) :
    Valid t := by
  have hasYear_same (sport : Sport) (year : Int) : t.hasYear sport year = s.hasYear sport year := by
    simp only [hasYear, years]
  have friendIds : t.friends.map (·.id) = s.friends.map (·.id) := by
    have ids := congrArg (List.map Prod.fst) friends
    simpa [FriendRow.link, Function.comp_def] using ids
  have playerIds : t.players.map (·.id) = s.players.map (·.id) := by
    have ids := congrArg (List.map Prod.fst) players
    simpa [PlayerRow.link, Function.comp_def] using ids
  constructor
  · rw [years]
    exact valid.yearKeys
  · rw [years]
    exact valid.oneActive
  · intro f member
    obtain ⟨f', stored, link⟩ := exists_of_map_eq friends member
    simp only [FriendRow.link, Prod.mk.injEq] at link
    rw [hasYear_same, ← link.2.1, ← link.2.2]
    exact valid.friendYear f' stored
  · intro p member
    obtain ⟨p', stored, link⟩ := exists_of_map_eq players member
    simp only [PlayerRow.link, Prod.mk.injEq] at link
    obtain ⟨f', friendStored, sameId, sameSport, sameYear⟩ := valid.playerFriend p' stored
    obtain ⟨f, kept, fLink⟩ := exists_of_map_eq friends.symm friendStored
    simp only [FriendRow.link, Prod.mk.injEq] at fLink
    exact ⟨f, kept, by rw [fLink.1, sameId, link.2.2.2], by rw [fLink.2.1, sameSport, link.2.1],
      by rw [fLink.2.2, sameYear, link.2.2.1]⟩
  · intro r member
    obtain ⟨r', stored, key⟩ := exists_of_map_eq stats member
    simp only [StatRow.key, Prod.mk.injEq] at key
    rw [hasYear_same, ← key.1, ← key.2]
    exact valid.statYear r' stored
  · rw [stats]
    exact valid.statKeys
  · rw [friendIds]
    exact valid.friendIds
  · rw [playerIds]
    exact valid.playerIds
  · intro f member
    obtain ⟨f', stored, link⟩ := exists_of_map_eq friends member
    simp only [FriendRow.link, Prod.mk.injEq] at link
    rw [lastFriend, ← link.1]
    exact valid.friendIdBelow f' stored
  · intro p member
    obtain ⟨p', stored, link⟩ := exists_of_map_eq players member
    simp only [PlayerRow.link, Prod.mk.injEq] at link
    rw [lastPlayer, ← link.1]
    exact valid.playerIdBelow p' stored

/-- Dropping rows keeps the constraints that forbid repeats; the ones that point from a row to
another are shown for what is left. -/
theorem Valid.of_sublists {s t : Store} (valid : Valid s) (years : t.years.Sublist s.years)
    (friends : t.friends.Sublist s.friends) (players : t.players.Sublist s.players)
    (stats : t.stats.Sublist s.stats) (lastFriend : t.lastFriendId = s.lastFriendId)
    (lastPlayer : t.lastPlayerId = s.lastPlayerId)
    (friendYear : ∀ f ∈ t.friends, t.hasYear f.sport f.year = true)
    (playerFriend : ∀ p ∈ t.players,
      ∃ f ∈ t.friends, f.id = p.friendId ∧ f.sport = p.sport ∧ f.year = p.year)
    (statYear : ∀ r ∈ t.stats, t.hasYear r.sport r.year = true) : Valid t where
  yearKeys := valid.yearKeys.sublist (years.map _)
  oneActive a memA b memB := valid.oneActive a (years.subset memA) b (years.subset memB)
  friendYear := friendYear
  playerFriend := playerFriend
  statYear := statYear
  statKeys := valid.statKeys.sublist (stats.map _)
  friendIds := valid.friendIds.sublist (friends.map _)
  playerIds := valid.playerIds.sublist (players.map _)
  friendIdBelow f member := lastFriend ▸ valid.friendIdBelow f (friends.subset member)
  playerIdBelow p member := lastPlayer ▸ valid.playerIdBelow p (players.subset member)

/-- Deleting a friend and the players it drafted keeps the constraints. -/
theorem Valid.dropFriend {s : Store} (valid : Valid s) (id : Int) :
    Valid { s with friends := s.friends.filter (·.id != id)
                   players := s.players.filter (·.friendId != id) } := by
  refine valid.of_sublists (List.Sublist.refl _) List.filter_sublist List.filter_sublist
    (List.Sublist.refl _) rfl rfl ?_ ?_ ?_
  · intro f member
    exact valid.friendYear f (List.mem_of_mem_filter member)
  · intro p member
    rw [List.mem_filter] at member
    obtain ⟨f, stored, sameId, sameSport, sameYear⟩ := valid.playerFriend p member.1
    refine ⟨f, List.mem_filter.2 ⟨stored, ?_⟩, sameId, sameSport, sameYear⟩
    rw [sameId]
    exact member.2
  · intro r member
    exact valid.statYear r member

/-- Deleting a player keeps the constraints. -/
theorem Valid.dropPlayer {s : Store} (valid : Valid s) (id : Int) :
    Valid { s with players := s.players.filter (·.id != id) } := by
  refine valid.of_sublists (List.Sublist.refl _) (List.Sublist.refl _) List.filter_sublist
    (List.Sublist.refl _) rfl rfl ?_ ?_ ?_
  · exact valid.friendYear
  · intro p member
    exact valid.playerFriend p (List.mem_of_mem_filter member)
  · exact valid.statYear

/-- An id one past the last one handed out is no stored id. -/
theorem nodup_append_fresh {α : Type} {l : List α} {id : α → Int} {last : Int}
    (distinct : (l.map id).Nodup) (below : ∀ x ∈ l, id x ≤ last) (x : α) (fresh : id x = last + 1) :
    ((l ++ [x]).map id).Nodup := by
  rw [List.map_append, List.nodup_append]
  refine ⟨distinct, by simp, ?_⟩
  intro a memA b memB
  rw [List.mem_map] at memA
  obtain ⟨y, stored, rfl⟩ := memA
  rw [List.map_singleton, List.mem_singleton] at memB
  have := below y stored
  omega

/-- Adding a friend to the active season under a fresh id keeps the constraints. -/
theorem Valid.addFriend {s : Store} (valid : Valid s) {sport : Sport} {year : Int}
    (active : s.activeYear sport = some year) (displayOrder : Int) (name : String) :
    Valid { s with friends := s.friends ++ [⟨s.lastFriendId + 1, sport, year, displayOrder, name⟩]
                   lastFriendId := s.lastFriendId + 1 } where
  yearKeys := valid.yearKeys
  oneActive := valid.oneActive
  friendYear f member := by
    rcases List.mem_append.1 member with stored | added
    · exact valid.friendYear f stored
    · rw [List.mem_singleton] at added
      subst added
      exact hasYear_of_activeYear active
  playerFriend p member := by
    obtain ⟨f, stored, link⟩ := valid.playerFriend p member
    exact ⟨f, List.mem_append_left _ stored, link⟩
  statYear := valid.statYear
  statKeys := valid.statKeys
  friendIds := nodup_append_fresh valid.friendIds valid.friendIdBelow _ rfl
  playerIds := valid.playerIds
  friendIdBelow f member := by
    rcases List.mem_append.1 member with stored | added
    · have := valid.friendIdBelow f stored
      dsimp only
      omega
    · rw [List.mem_singleton] at added
      subst added
      exact Int.le_refl _
  playerIdBelow := valid.playerIdBelow

/-- Adding a player under a stored friend, in the friend's season and under a fresh id, keeps
the constraints. -/
theorem Valid.addPlayer {s : Store} (valid : Valid s) {f : FriendRow} (stored : f ∈ s.friends)
    (categoryId sourceId displayOrder : Int) :
    Valid { s with
      players := s.players ++
        [⟨s.lastPlayerId + 1, f.sport, f.year, categoryId, sourceId, f.id, displayOrder⟩]
      lastPlayerId := s.lastPlayerId + 1 } where
  yearKeys := valid.yearKeys
  oneActive := valid.oneActive
  friendYear := valid.friendYear
  playerFriend p member := by
    rcases List.mem_append.1 member with kept | added
    · exact valid.playerFriend p kept
    · rw [List.mem_singleton] at added
      subst added
      exact ⟨f, stored, rfl, rfl, rfl⟩
  statYear := valid.statYear
  statKeys := valid.statKeys
  friendIds := valid.friendIds
  playerIds := nodup_append_fresh valid.playerIds valid.playerIdBelow _ rfl
  friendIdBelow := valid.friendIdBelow
  playerIdBelow p member := by
    rcases List.mem_append.1 member with kept | added
    · have := valid.playerIdBelow p kept
      dsimp only
      omega
    · rw [List.mem_singleton] at added
      subst added
      exact Int.le_refl _

/-- Rewriting the fields of friends that no constraint reads keeps the constraints. -/
theorem Valid.setFriend {s : Store} (valid : Valid s) (id displayOrder : Int) (name : String) :
    Valid { s with friends := s.friends.map fun f =>
      if f.id == id then { f with displayOrder := displayOrder, name := name } else f } := by
  refine valid.of_links rfl ?_ rfl rfl rfl rfl
  simp only [List.map_map]
  congr 1
  funext f
  simp only [Function.comp_apply]
  split <;> rfl

/-- Rewriting the display order of a player keeps the constraints. -/
theorem Valid.setPlayer {s : Store} (valid : Valid s) (id displayOrder : Int) :
    Valid { s with players := s.players.map fun p =>
      if p.id == id then { p with displayOrder := displayOrder } else p } := by
  refine valid.of_links rfl rfl ?_ rfl rfl rfl
  simp only [List.map_map]
  congr 1
  funext p
  simp only [Function.comp_apply]
  split <;> rfl

/-- Changing which seasons are active, with the same seasons stored, keeps the constraints when
a sport is still left with at most one active season. -/
theorem Valid.of_activeFlags {s t : Store} (valid : Valid s)
    (keys : t.years.map YearRow.key = s.years.map YearRow.key)
    (oneActive : ∀ a ∈ t.years, ∀ b ∈ t.years, a.sport = b.sport → a.active = true →
      b.active = true → a.value = b.value)
    (friends : t.friends = s.friends) (players : t.players = s.players) (stats : t.stats = s.stats)
    (lastFriend : t.lastFriendId = s.lastFriendId) (lastPlayer : t.lastPlayerId = s.lastPlayerId) :
    Valid t := by
  have hasYear_same (sport : Sport) (year : Int) : t.hasYear sport year = s.hasYear sport year := by
    rw [Bool.eq_iff_iff, hasYear_iff, hasYear_iff, keys]
  constructor
  · rw [keys]
    exact valid.yearKeys
  · exact oneActive
  · intro f member
    rw [hasYear_same]
    exact valid.friendYear f (friends ▸ member)
  · intro p member
    rw [friends]
    exact valid.playerFriend p (players ▸ member)
  · intro r member
    rw [hasYear_same]
    exact valid.statYear r (stats ▸ member)
  · rw [stats]
    exact valid.statKeys
  · rw [friends]
    exact valid.friendIds
  · rw [players]
    exact valid.playerIds
  · intro f member
    rw [lastFriend]
    exact valid.friendIdBelow f (friends ▸ member)
  · intro p member
    rw [lastPlayer]
    exact valid.playerIdBelow p (players ▸ member)

/-- Clearing a sport's active flag keeps the constraints: what stays active was active. -/
theorem Valid.clearActive {s : Store} (valid : Valid s) (sport : Sport) :
    Valid { s with years := s.years.map fun y =>
      if (y.sport == sport && y.active) = true then { y with active := false } else y } := by
  have keys : (s.years.map fun y =>
      if (y.sport == sport && y.active) = true then { y with active := false } else y).map
        YearRow.key = s.years.map YearRow.key := by
    simp only [List.map_map]
    congr 1
    funext y
    simp only [Function.comp_apply]
    split <;> rfl
  have stillActive : ∀ a ∈ s.years.map (fun y =>
      if (y.sport == sport && y.active) = true then { y with active := false } else y),
      a.active = true → a ∈ s.years := by
    intro a member active
    obtain ⟨y, stored, rfl⟩ := List.mem_map.1 member
    split at active
    · simp at active
    · rename_i notHit
      rw [if_neg notHit]
      exact stored
  refine valid.of_activeFlags keys ?_ rfl rfl rfl rfl rfl
  intro a memA b memB sameSport activeA activeB
  exact valid.oneActive a (stillActive a memA activeA) b (stillActive b memB activeB) sameSport
    activeA activeB

/-- Activating a stored season of a sport with no other active season keeps the constraints. -/
theorem Valid.setActive {s : Store} (valid : Valid s) {sport : Sport} {year : Int}
    (noOther : (s.years.any fun y =>
      y.sport == sport && y.active && !(y.sport == sport && y.value == year)) = false) :
    Valid { s with years := s.years.map fun y =>
      if (y.sport == sport && y.value == year) = true then { y with active := true } else y } := by
  let activate (y : YearRow) : YearRow :=
    if (y.sport == sport && y.value == year) = true then { y with active := true } else y
  have keys : (s.years.map activate).map YearRow.key = s.years.map YearRow.key := by
    simp only [List.map_map]
    congr 1
    funext y
    simp only [Function.comp_apply, activate]
    split <;> rfl
  -- an active season after the write is the one activated, or one of another sport
  have settled : ∀ y ∈ s.years, (activate y).active = true →
      ((activate y).sport = sport ∧ (activate y).value = year) ∨
        ((y.sport == sport && y.value == year) ≠ true ∧ y.sport ≠ sport) := by
    intro y stored active
    by_cases hit : (y.sport == sport && y.value == year) = true
    · simp only [Bool.and_eq_true, beq_iff_eq] at hit
      left
      simp [activate, hit]
    · have same : activate y = y := if_neg hit
      rw [same] at active
      right
      refine ⟨hit, fun sameSport => ?_⟩
      have excluded := List.any_eq_false.1 noOther y stored
      simp_all
  refine valid.of_activeFlags keys ?_ rfl rfl rfl rfl rfl
  intro a memA b memB sameSport activeA activeB
  obtain ⟨a', storedA, rfl⟩ := List.mem_map.1 memA
  obtain ⟨b', storedB, rfl⟩ := List.mem_map.1 memB
  rcases settled a' storedA activeA with ⟨sportA, valueA⟩ | ⟨hitA, otherA⟩ <;>
    rcases settled b' storedB activeB with ⟨sportB, valueB⟩ | ⟨hitB, otherB⟩
  · rw [valueA, valueB]
  · simp only [if_neg hitB] at sameSport
    exact absurd (sameSport.symm.trans sportA) otherB
  · simp only [if_neg hitA] at sameSport
    exact absurd (sameSport.trans sportB) otherA
  · simp only [if_neg hitA, if_neg hitB] at sameSport activeA activeB ⊢
    exact valid.oneActive a' storedA b' storedB sameSport activeA activeB

/-- A season that stays stored after another one is dropped. -/
theorem hasYear_dropYear {s : Store} {sport rowSport : Sport} {year rowYear : Int}
    (stored : s.hasYear rowSport rowYear = true) (other : ¬(rowSport = sport ∧ rowYear = year)) :
    (s.dropYear sport year).hasYear rowSport rowYear = true := by
  rw [hasYear_iff] at stored ⊢
  obtain ⟨y, member, key⟩ := List.mem_map.1 stored
  simp only [YearRow.key, Prod.mk.injEq] at key
  refine List.mem_map.2 ⟨y, List.mem_filter.2 ⟨member, ?_⟩, by simp [YearRow.key, key]⟩
  simp only [key.1, key.2]
  simpa using not_and_or.1 other

/-- Dropping a season with its friends, players and cached scores keeps the constraints. -/
theorem Valid.dropYear {s : Store} (valid : Valid s) (sport : Sport) (year : Int) :
    Valid (s.dropYear sport year) := by
  refine valid.of_sublists List.filter_sublist List.filter_sublist List.filter_sublist
    List.filter_sublist rfl rfl ?_ ?_ ?_
  · intro f member
    simp only [Store.dropYear, List.mem_filter] at member
    exact hasYear_dropYear (valid.friendYear f member.1) fun both => by
      simp [both.1, both.2] at member
  · intro p member
    simp only [Store.dropYear, List.mem_filter, Bool.and_eq_true] at member
    obtain ⟨stored, kept, -⟩ := member
    obtain ⟨f, friendStored, sameId, sameSport, sameYear⟩ := valid.playerFriend p stored
    refine ⟨f, ?_, sameId, sameSport, sameYear⟩
    simp only [Store.dropYear, List.mem_filter]
    rw [sameSport, sameYear]
    exact ⟨friendStored, kept⟩
  · intro r member
    simp only [Store.dropYear, List.mem_filter] at member
    exact hasYear_dropYear (valid.statYear r member.1) fun both => by
      simp [both.1, both.2] at member

/-- A season stays stored when another is added. -/
theorem hasYear_addYear {s : Store} {sport : Sport} {year : Int} (row : YearRow)
    (stored : s.hasYear sport year = true) :
    ({ s with years := s.years ++ [row] } : Store).hasYear sport year = true := by
  simp only [hasYear, List.any_append, Bool.or_eq_true]
  exact .inl stored

/-- Adding an inactive season that is not stored keeps the constraints. -/
theorem Valid.addYear {s : Store} (valid : Valid s) {sport : Sport} {year : Int}
    (absent : s.hasYear sport year = false) :
    Valid { s with years := s.years ++ [⟨sport, year, false⟩] } where
  yearKeys := by
    rw [List.map_append, List.nodup_append]
    refine ⟨valid.yearKeys, by simp, ?_⟩
    intro a memA b memB same
    rw [List.map_singleton, List.mem_singleton] at memB
    subst memB
    subst same
    have := hasYear_iff.2 memA
    simp_all
  oneActive a memA b memB sameSport activeA activeB := by
    rcases List.mem_append.1 memA with storedA | addedA
    · rcases List.mem_append.1 memB with storedB | addedB
      · exact valid.oneActive a storedA b storedB sameSport activeA activeB
      · simp only [List.mem_singleton] at addedB
        simp [addedB] at activeB
    · simp only [List.mem_singleton] at addedA
      simp [addedA] at activeA
  friendYear f member := hasYear_addYear _ (valid.friendYear f member)
  playerFriend := valid.playerFriend
  statYear r member := hasYear_addYear _ (valid.statYear r member)
  statKeys := valid.statKeys
  friendIds := valid.friendIds
  playerIds := valid.playerIds
  friendIdBelow := valid.friendIdBelow
  playerIdBelow := valid.playerIdBelow

/-- Every write that succeeds on a store that takes writes keeps the constraints. -/
theorem Valid.applyWritable {s t : Store} {w : Write} {n : Nat} (valid : Valid s)
    (applied : s.applyWritable w = .ok (n, t)) : Valid t := by
  cases w with
  | delFriend id =>
    simp only [Store.applyWritable, Except.ok.injEq, Prod.mk.injEq] at applied
    rw [← applied.2]
    exact valid.dropFriend id
  | addFriend sport displayOrder name =>
    simp only [Store.applyWritable] at applied
    split at applied
    · simp only [Except.ok.injEq, Prod.mk.injEq] at applied
      rw [← applied.2]
      exact valid
    · rename_i year active
      simp only [Except.ok.injEq, Prod.mk.injEq] at applied
      rw [← applied.2]
      exact valid.addFriend active displayOrder name
  | setFriend id displayOrder name =>
    simp only [Store.applyWritable, Except.ok.injEq, Prod.mk.injEq] at applied
    rw [← applied.2]
    exact valid.setFriend id displayOrder name
  | delPlayer id =>
    simp only [Store.applyWritable, Except.ok.injEq, Prod.mk.injEq] at applied
    rw [← applied.2]
    exact valid.dropPlayer id
  | addPlayer sport categoryId sourceId friendId displayOrder =>
    simp only [Store.applyWritable] at applied
    split at applied
    · simp only [Except.ok.injEq, Prod.mk.injEq] at applied
      rw [← applied.2]
      exact valid
    · rename_i f found
      simp only [Except.ok.injEq, Prod.mk.injEq] at applied
      rw [← applied.2]
      exact valid.addPlayer (List.mem_of_find?_eq_some found) categoryId sourceId displayOrder
  | setPlayer id displayOrder =>
    simp only [Store.applyWritable, Except.ok.injEq, Prod.mk.injEq] at applied
    rw [← applied.2]
    exact valid.setPlayer id displayOrder
  | clearActive sport =>
    simp only [Store.applyWritable, Except.ok.injEq, Prod.mk.injEq] at applied
    rw [← applied.2]
    exact valid.clearActive sport
  | delYear sport year =>
    simp only [Store.applyWritable, Except.ok.injEq, Prod.mk.injEq] at applied
    rw [← applied.2]
    exact valid.dropYear sport year
  | addYear sport year =>
    simp only [Store.applyWritable] at applied
    split at applied
    · cases applied
    · rename_i absent
      simp only [Except.ok.injEq, Prod.mk.injEq] at applied
      rw [← applied.2]
      exact valid.addYear (by simpa using absent)
  | setActive sport year =>
    simp only [Store.applyWritable] at applied
    split at applied
    · simp only [Except.ok.injEq, Prod.mk.injEq] at applied
      rw [← applied.2]
      exact valid
    · split at applied
      · cases applied
      · rename_i noOther
        simp only [Except.ok.injEq, Prod.mk.injEq] at applied
        rw [← applied.2]
        exact valid.setActive (by simpa using noOther)

theorem Valid.apply {s t : Store} {w : Write} {n : Nat} (valid : Valid s)
    (applied : s.apply w = .ok (n, t)) : Valid t := by
  simp only [Store.apply] at applied
  split at applied
  · cases applied
  · exact valid.applyWritable applied

/-- Storing cached scores for a stored season keeps the constraints: the row replaces the
season's row, or is the first for it. -/
theorem Valid.putStat {s t : Store} {row : StatRow} (valid : Valid s)
    (put : s.putStat row = .ok t) : Valid t := by
  simp only [Store.putStat] at put
  split at put
  · cases put
  split at put
  · cases put
  rename_i stored
  have stored : s.hasYear row.sport row.year = true := by simpa using stored
  split at put
  · cases put
    refine valid.of_links rfl rfl rfl ?_ rfl rfl
    simp only [List.map_map]
    congr 1
    funext r
    simp only [Function.comp_apply]
    split
    · rename_i same
      simp only [Bool.and_eq_true, beq_iff_eq] at same
      simp [StatRow.key, same.1, same.2]
    · rfl
  · rename_i fresh
    cases put
    exact { valid with
      statYear := fun r member => by
        rcases List.mem_append.1 member with kept | added
        · exact valid.statYear r kept
        · rw [List.mem_singleton] at added
          rw [added]
          exact stored
      statKeys := by
        rw [List.map_append, List.nodup_append]
        refine ⟨valid.statKeys, by simp, ?_⟩
        intro a memA b memB same
        rw [List.map_singleton, List.mem_singleton] at memB
        obtain ⟨r, kept, rfl⟩ := List.mem_map.1 memA
        subst memB
        simp only [StatRow.key, Prod.mk.injEq] at same
        simp only [List.any_eq_true, not_exists, not_and] at fresh
        exact fresh r kept (by simp [same.1, same.2]) }

/-- Forgetting cached scores keeps the constraints. -/
theorem Valid.clearStat {s t : Store} {sport : Sport} (valid : Valid s)
    (clear : s.clearStat sport = .ok t) : Valid t := by
  simp only [Store.clearStat] at clear
  split at clear
  · cases clear
  split at clear
  · cases clear
    exact valid
  · cases clear
    refine valid.of_links rfl rfl rfl ?_ rfl rfl
    simp only [List.map_map]
    congr 1
    funext r
    simp only [Function.comp_apply]
    split <;> rfl

/-- The stores a pool reaches from an empty one: through writes, whether or not a transaction
keeps the ones before, and through storing and forgetting cached scores. -/
inductive Reachable : Store → Prop
  | empty : Reachable Store.empty
  | write {s t : Store} {w : Write} {n : Nat} : Reachable s → s.apply w = .ok (n, t) → Reachable t
  | putStat {s t : Store} {row : StatRow} : Reachable s → s.putStat row = .ok t → Reachable t
  | clearStat {s t : Store} {sport : Sport} : Reachable s → s.clearStat sport = .ok t →
      Reachable t

/-- Every reachable store keeps the constraints. -/
theorem Reachable.valid {s : Store} (reachable : Reachable s) : Valid s := by
  induction reachable with
  | empty => exact empty_valid
  | write _ applied inductionHypothesis => exact inductionHypothesis.apply applied
  | putStat _ put inductionHypothesis => exact inductionHypothesis.putStat put
  | clearStat _ clear inductionHypothesis => exact inductionHypothesis.clearStat clear

/-- No write changes whether a store takes writes. -/
theorem readOnly_applyWritable {s t : Store} {w : Write} {n : Nat}
    (applied : s.applyWritable w = .ok (n, t)) : t.readOnly = s.readOnly := by
  cases w <;> simp only [Store.applyWritable] at applied <;> (repeat' split at applied) <;>
    (simp only [Except.ok.injEq, Prod.mk.injEq, reduceCtorEq] at applied) <;>
    rw [← applied.2]
  -- dropping a season builds a new store value, which carries the flag over
  rfl

/-- Every reachable store takes writes. -/
theorem Reachable.writable {s : Store} (reachable : Reachable s) : s.readOnly = false := by
  induction reachable with
  | empty => rfl
  | write _ applied inductionHypothesis =>
    simp only [Store.apply, inductionHypothesis, Bool.false_eq_true, if_false] at applied
    rw [readOnly_applyWritable applied, inductionHypothesis]
  | putStat _ put inductionHypothesis =>
    simp only [Store.putStat, inductionHypothesis, Bool.false_eq_true, if_false] at put
    split at put
    · cases put
    split at put <;> cases put <;> rfl
  | clearStat _ clear inductionHypothesis =>
    simp only [Store.clearStat, inductionHypothesis, Bool.false_eq_true, if_false] at clear
    split at clear <;> cases clear
    · exact inductionHypothesis
    · rfl

end Store

end DraftPool
