import DraftPool.Proofs.Pool.CachedScores
import DraftPool.Proofs.Roster.Players
import DraftPool.Proofs.Score.Board

/-
The store keeps its schema along any sequence of calls from the empty store.
-/

namespace DraftPool

namespace Store

/-- A call that changes a store. -/
inductive Call where
  /-- Writes in one transaction, all or nothing. -/
  | execute (writes : List Write)
  /-- Writes each on its own in an open transaction, which is then kept or dropped. -/
  | transaction (writes : List Write) (keep : Bool)
  | putStat (row : StatRow)
  | clearStat (sport : Sport)
  | saveYears (sport : Sport) (years : List Year)
  | saveFriends (sport : Sport) (friends : List Friend)
  | savePlayers (registry : Registry) (sport : Sport) (players : List Player)

/-- The store a step leaves: the one it gives when it succeeds, the one it started from when it
fails. -/
def settle {ε : Type} (s : Store) : Except ε Store → Store
  | .ok t => t
  | .error _ => s

/-- The store a call leaves. -/
def Call.run : Call → Store → Store
  | .execute writes, s => s.settle (s.transact writes)
  | .transaction writes keep, s => if keep then (s.applyEach writes).2 else s
  | .putStat row, s => s.settle (s.putStat row)
  | .clearStat sport, s => s.settle (s.clearStat sport)
  | .saveYears sport years, s => s.settle (s.saveYears sport years)
  | .saveFriends sport friends, s => s.settle (s.saveFriends sport friends)
  | .savePlayers registry sport players, s => s.settle (s.savePlayers registry sport players)

/-- The store a list of calls leaves, run in order. -/
def session (s : Store) (calls : List Call) : Store :=
  calls.foldl (fun s call => call.run s) s

theorem Reachable.settle {ε : Type} {s : Store} (reachable : Reachable s) {r : Except ε Store}
    (step : ∀ t, r = .ok t → Reachable t) : Reachable (s.settle r) := by
  cases r with
  | ok t => exact step t rfl
  | error _ => exact reachable

/-- An open transaction leaves a reachable store, whichever of its writes fail. -/
theorem Reachable.applyEach {s : Store} (reachable : Reachable s) (writes : List Write) :
    Reachable (s.applyEach writes).2 := by
  -- each write runs on the store the writes before it left; a failing one changes nothing
  induction writes generalizing s with
  | nil => exact reachable
  | cons w rest inductionHypothesis =>
    unfold Store.applyEach
    split
    · rename_i n next applied
      exact inductionHypothesis (reachable.write applied)
    · exact inductionHypothesis reachable

/-- Every call leaves a reachable store reachable. -/
theorem Reachable.call {s : Store} (reachable : Reachable s) : ∀ call : Call, Reachable (call.run s)
  | .execute _ => reachable.settle fun _ ran => reachable.transact ran
  | .transaction writes keep => by
    cases keep
    · exact reachable
    · exact reachable.applyEach writes
  | .putStat _ => reachable.settle fun _ put => reachable.putStat put
  | .clearStat _ => reachable.settle fun _ cleared => reachable.clearStat cleared
  | .saveYears _ _ => reachable.settle fun _ saved => (saveYears_eq_ok reachable saved).1
  | .saveFriends _ _ => reachable.settle fun _ saved => reachable.saveFriends saved
  | .savePlayers _ _ _ => reachable.settle fun _ saved => reachable.savePlayers saved

theorem Reachable.session {s : Store} (reachable : Reachable s) (calls : List Call) :
    Reachable (s.session calls) := by
  -- each call runs on the store the calls before it left
  induction calls generalizing s with
  | nil => exact reachable
  | cons call rest inductionHypothesis => exact inductionHypothesis (reachable.call call)

/-- The active entries of a sport's seasons are its active stored rows. -/
theorem length_active_yearsOf (s : Store) (sport : Sport) :
    ((s.yearsOf sport).filter (·.active)).length =
      s.years.countP (fun y => y.sport == sport && y.active) := by
  rw [yearsOf, ((List.mergeSort_perm _ _).filter _).length_eq, List.filter_map, List.length_map,
    List.filter_filter, List.countP_eq_length_filter]
  congr 1
  exact List.filter_congr fun y _ => Bool.and_comm ..

/-- A sport of a valid store has at most one active stored season. -/
theorem Valid.countP_active_le_one {s : Store} (valid : Valid s) (sport : Sport) :
    s.years.countP (fun y => y.sport == sport && y.active) ≤ 1 := by
  cases active : s.activeYear sport with
  | some year => exact Nat.le_of_eq (valid.countP_active active)
  | none =>
    -- without an active season no stored row of the sport is active
    simp only [activeYear, Option.map_eq_none_iff, List.find?_eq_none] at active
    rw [List.countP_eq_zero.2 active]
    exact Nat.zero_le 1

/-- Reading a sport's seasons from a valid store never finds two active ones. -/
theorem Valid.getYears {s : Store} (valid : Valid s) (sport : Sport) :
    s.getYears sport = .ok (s.yearsOf sport) := by
  have atMostOne : ¬((s.yearsOf sport).filter (·.active)).length > 1 := by
    rw [length_active_yearsOf]
    exact Nat.not_lt.2 (valid.countP_active_le_one sport)
  simp only [Store.getYears, atMostOne, if_false]

/-- Every player a valid store's roster lists drafts for a friend the roster lists. -/
theorem Valid.friend_of_playersOf {s : Store} (valid : Valid s) {sport : Sport} {p : Player}
    (listed : p ∈ s.playersOf sport) : ∃ f ∈ s.friendsOf sport, f.id = p.friendId := by
  simp only [playersOf, List.mem_map, List.mem_mergeSort, List.mem_filter, Bool.and_eq_true,
    beq_iff_eq] at listed
  obtain ⟨row, ⟨stored, sameSport, inSeason⟩, rfl⟩ := listed
  -- the row's friend is stored in the row's season, the sport's active one
  obtain ⟨f, friendStored, sameId, friendSport, friendYear⟩ := valid.playerFriend row stored
  have named := id_mem_friendsOf friendStored (friendSport.trans sameSport) (friendYear ▸ inSeason)
  obtain ⟨g, member, same⟩ := List.mem_map.1 named
  exact ⟨g, member, same.trans sameId⟩

/-- Along any sequence of calls from the empty store, the store keeps its schema. -/
theorem session_keepsSchema (calls : List Call) :
    let s := Store.empty.session calls
    Valid s ∧ (∀ sport, s.getYears sport = .ok (s.yearsOf sport)) ∧
      (∀ sport, ∀ p ∈ s.playersOf sport, ∃ f ∈ s.friendsOf sport, f.id = p.friendId) ∧
      (∀ sport (category : Category) (nameScores : List (Int × NameScore)),
        ∀ p ∈ s.playersOf sport, p.categoryId = category.id →
          ∃ line ∈ (buildScoreCategory category (s.friendsOf sport)
              ((s.playersOf sport).filter (·.categoryId == category.id)) nameScores).friendScores,
            line.friendId = p.friendId ∧ PlayerScore.ofPlayer nameScores p ∈ line.playerScores) := by
  intro s
  have valid : Valid s := (Reachable.empty.session calls).valid
  refine ⟨valid, valid.getYears, fun _ _ listed => valid.friend_of_playersOf listed, ?_⟩
  intro sport category nameScores p listed inCategory
  obtain ⟨f, member, same⟩ := valid.friend_of_playersOf listed
  refine mem_buildScoreCategory category nameScores (List.mem_filter.2 ⟨listed, by simp [inCategory]⟩) ?_
  exact List.mem_map.2 ⟨f, member, same⟩

/-- A season, a friend and a player drafted for the friend, each saved in turn: the player's
line shows on the board of the player's category, under the friend. -/
theorem session_keepsSchema_drafted :
    let s := Store.empty.session [.saveYears .mlb [⟨2019, true⟩],
      .saveFriends .mlb [⟨0, 1, "Ann"⟩], .savePlayers Registry.defaults .mlb [⟨0, 1, 545361, 1, 1⟩]]
    let teams : Category := ⟨1, .mlbTeam, "Teams", "Wins per team", "Wins", 0, false⟩
    let drafted : Player := ⟨1, 1, 545361, 1, 1⟩
    drafted ∈ s.playersOf .mlb ∧ drafted.categoryId = teams.id ∧
      ∃ line ∈ (buildScoreCategory teams (s.friendsOf .mlb)
          ((s.playersOf .mlb).filter (·.categoryId == teams.id)) []).friendScores,
        line.friendId = drafted.friendId ∧ PlayerScore.ofPlayer [] drafted ∈ line.playerScores := by
  intro s teams drafted
  have listed : drafted ∈ s.playersOf .mlb := by decide +kernel
  exact ⟨listed, rfl, (session_keepsSchema _).2.2.2 .mlb teams [] drafted listed rfl⟩

end Store

end DraftPool
