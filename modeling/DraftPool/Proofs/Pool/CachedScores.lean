import DraftPool.Proofs.Fetch.Coherence
import DraftPool.Proofs.Pool.Refresh
import DraftPool.Proofs.Roster.Frame
import DraftPool.Proofs.Roster.Years

/-
Cached scores follow the roster. The main statement is `Pool.cachedScores_current`.
-/

namespace DraftPool

namespace Store

/-- A row after dropping a sport's cached scores is either emptied or was there before, of a
season other than the sport's active one. -/
theorem mem_clearStat {s t : Store} {sport : Sport} (cleared : s.clearStat sport = .ok t)
    {r : StatRow} (member : r ∈ t.stats) :
    (r.stamp = none ∧ r.scores = none) ∨ (r ∈ s.stats ∧ s.OtherSeason sport r.sport r.year) := by
  unfold clearStat at cleared
  split at cleared
  · cases cleared
  split at cleared
  · rename_i noActive
    cases cleared
    exact .inr ⟨member, fun ⟨_, active⟩ => by simp [noActive] at active⟩
  · rename_i year active
    cases cleared
    obtain ⟨old, stored, rfl⟩ := List.mem_map.1 member
    split
    · exact .inl ⟨rfl, rfl⟩
    · rename_i kept
      refine .inr ⟨stored, fun ⟨sameSport, sameYear⟩ => kept ?_⟩
      rw [active, Option.some.injEq] at sameYear
      simp [sameSport, sameYear]

theorem clearStat_roster {s t : Store} {sport : Sport} (cleared : s.clearStat sport = .ok t) :
    t.friends = s.friends ∧ t.players = s.players ∧ t.years = s.years := by
  unfold clearStat at cleared
  split at cleared
  · cases cleared
  split at cleared <;> cases cleared <;> exact ⟨rfl, rfl, rfl⟩

theorem clearStat_eq_ok {s : Store} (writable : s.readOnly = false) (sport : Sport) :
    ∃ t, s.clearStat sport = .ok t := by
  unfold clearStat
  rw [if_neg (by simp [writable])]
  split <;> exact ⟨_, rfl⟩

/-- A row after storing one is the stored row or an earlier row of another season. -/
theorem mem_upsertStat {s : Store} {row r : StatRow} (member : r ∈ s.upsertStat row) :
    r = row ∨ (r ∈ s.stats ∧ row.sameSeason r = false) := by
  unfold upsertStat at member
  split at member
  · obtain ⟨old, stored, rfl⟩ := List.mem_map.1 member
    cases same : row.sameSeason old
    · simp only [Bool.false_eq_true, if_false]
      exact .inr ⟨stored, same⟩
    · exact .inl (if_pos rfl)
  · rename_i absent
    rcases List.mem_append.1 member with stored | added
    · refine .inr ⟨stored, Bool.eq_false_iff.2 fun same => absent ?_⟩
      exact List.any_eq_true.2 ⟨r, stored, same⟩
    · exact .inl (List.mem_singleton.1 added)

theorem Reachable.saveFriends {s t : Store} (reachable : Reachable s) {sport : Sport}
    {desired : List Friend} (saved : s.saveFriends sport desired = .ok t) : Reachable t := by
  unfold Store.saveFriends at saved
  exact reachable.transact saved

theorem Reachable.savePlayers {s t : Store} (reachable : Reachable s) {registry : Registry}
    {sport : Sport} {desired : List Player} (saved : s.savePlayers registry sport desired = .ok t) :
    Reachable t := by
  unfold Store.savePlayers at saved
  split at saved
  · cases saved
  · exact reachable.transact saved

/-- A save of seasons keeps the friends and players of every season it keeps. -/
theorem SeasonsSaved.seasonRoster {s t : Store} {sport : Sport} {desired : List Year}
    (saved : SeasonsSaved s t sport desired) {rowSport : Sport} {year : Int}
    (kept : keepsSeason sport desired rowSport year = true) :
    t.seasonFriends rowSport year = s.seasonFriends rowSport year ∧
      t.seasonPlayers rowSport year = s.seasonPlayers rowSport year := by
  constructor
  · unfold seasonFriends
    rw [saved.friends]
    refine filter_filter_of_imp fun f _ inSeason => ?_
    simp only [Bool.and_eq_true, beq_iff_eq] at inSeason
    rw [inSeason.1, inSeason.2]
    exact kept
  · unfold seasonPlayers
    rw [saved.players]
    refine filter_filter_of_imp fun p _ inSeason => ?_
    simp only [Bool.and_eq_true, beq_iff_eq] at inSeason
    rw [inSeason.1, inSeason.2]
    exact kept

end Store

namespace Pool

/-- A cached score row is current in a pool: it holds a stamp exactly when it holds scores, and
its scores are the boards its season's friends and players score to on the pool's network. -/
def ScoresCurrent (p : Pool) (r : StatRow) : Prop :=
  r.stamp.isSome = r.scores.isSome ∧
    ∀ text, r.scores = some text → ∃ boards,
      ((scoreCategories p.sources (p.registry.forSport r.sport) r.year
        (p.store.friendsIn r.sport r.year) (p.store.playersIn r.sport r.year)).run p.net).1 =
          .ok boards ∧ text = encodeBoards boards

theorem scoresCurrent_of_empty (p : Pool) {r : StatRow} (emptied : r.stamp = none ∧ r.scores = none) :
    p.ScoresCurrent r := by
  refine ⟨by rw [emptied.1, emptied.2]; rfl, fun text scores => ?_⟩
  rw [emptied.2] at scores
  cases scores

/-- A row stays current in another pool with the same providers, categories and season roster,
and a network that is coherent with the same responder. -/
theorem ScoresCurrent.transfer {p q : Pool} {r : StatRow} (current : p.ScoresCurrent r)
    (coherent : p.net.Coherent) (coherent' : q.net.Coherent)
    (responder : q.net.responder = p.net.responder) (sources : q.sources = p.sources)
    (registry : q.registry = p.registry)
    (friends : q.store.seasonFriends r.sport r.year = p.store.seasonFriends r.sport r.year)
    (players : q.store.seasonPlayers r.sport r.year = p.store.seasonPlayers r.sport r.year) :
    q.ScoresCurrent r := by
  refine ⟨current.1, fun text scores => ?_⟩
  obtain ⟨boards, scored, encoded⟩ := current.2 text scores
  have sameRoster : q.store.friendsIn r.sport r.year = p.store.friendsIn r.sport r.year ∧
      q.store.playersIn r.sport r.year = p.store.playersIn r.sport r.year := by
    simp only [Store.friendsIn, Store.playersIn, friends, players, and_self]
  have sameBoards := (scoreCategories_settles p.sources (p.registry.forSport r.sport) r.year
    (p.store.friendsIn r.sport r.year) (p.store.playersIn r.sport r.year) q.net p.net
    coherent' coherent responder).1
  rw [sources, registry, sameRoster.1, sameRoster.2]
  exact ⟨boards, sameBoards.trans scored, encoded⟩

/-- What every pool a session reaches keeps: a reachable store, a coherent network, slots that
finished refreshes and invalidations reach, and current cached scores. -/
structure Consistent (p : Pool) : Prop where
  store : p.store.Reachable
  net : p.net.Coherent
  slots : p.SlotsReachable
  scores : ∀ r ∈ p.store.stats, p.ScoresCurrent r

/-- On a reachable store the clear succeeds: the generation is bumped and the sport's rows
emptied. -/
theorem invalidate_run {q : Pool} (store : q.store.Reachable) (sport : Sport) :
    ∃ cleared, q.store.clearStat sport = .ok cleared ∧
      (Pool.invalidate sport).run q =
        (.ok (), { q.withSlot sport (q.slots sport).bump with store := cleared }) := by
  obtain ⟨cleared, clearing⟩ := Store.clearStat_eq_ok store.writable sport
  refine ⟨cleared, clearing, ?_⟩
  simp only [Pool.invalidate, StateT.run_bind, StateT.run_modify, StateT.run_get]
  dsimp only [bind, pure]
  rw [show (q.withSlot sport (q.slots sport).bump).store = q.store from rfl, clearing]
  rfl

/-- On a reachable store the first clear after a roster save succeeds, so it is never retried. -/
theorem invalidateAfterSave_run {q : Pool} (store : q.store.Reachable) (sport : Sport) :
    ((Pool.invalidateAfterSave sport).run q).2 = ((Pool.invalidate sport).run q).2 := by
  obtain ⟨_, _, cleared⟩ := invalidate_run store sport
  simp only [Pool.invalidateAfterSave, StateT.run_bind, cleared]
  rfl

/-- Dropping a sport's cached scores after its active season's roster changed, on a coherent
network with the same responder, leaves a consistent pool. -/
theorem Consistent.invalidate {p q : Pool} (consistent : p.Consistent) {sport : Sport}
    (store : q.store.Reachable) (net : q.net.Coherent)
    (responder : q.net.responder = p.net.responder) (sources : q.sources = p.sources)
    (registry : q.registry = p.registry) (slots : q.SlotsReachable)
    (frame : Store.RosterFrame p.store q.store sport) :
    ((Pool.invalidate sport).run q).2.Consistent := by
  obtain ⟨cleared, clearing, after⟩ := invalidate_run store sport
  have bumped : (q.withSlot sport (q.slots sport).bump).SlotsReachable :=
    slots.withSlot (slots sport).bump
  obtain ⟨sameFriends, samePlayers, -⟩ := Store.clearStat_roster clearing
  rw [after]
  refine ⟨store.clearStat clearing, net, bumped, fun r member => ?_⟩
  rcases Store.mem_clearStat clearing member with emptied | ⟨stored, other⟩
  · exact scoresCurrent_of_empty _ emptied
  · -- a row the invalidation kept is of another season, whose roster the save kept
    have otherBefore : p.store.OtherSeason sport r.sport r.year := by
      simpa [Store.OtherSeason, frame.activeYear] using other
    rw [frame.stats] at stored
    refine (consistent.scores r stored).transfer consistent.net net responder sources registry
      ?_ ?_
    · simp only [Store.seasonFriends, sameFriends]
      exact frame.friends _ _ otherBefore
    · simp only [Store.seasonPlayers, samePlayers]
      exact frame.players _ _ otherBefore

theorem saveYears_state (p : Pool) (sport : Sport) (years : List Year) :
    ((Pool.saveYears sport years).run p).2 =
      match p.store.saveYears sport years with
      | .ok t => { p with store := t }
      | .error _ => p := by
  simp only [Pool.saveYears, StateT.run_bind, StateT.run_get]
  dsimp only [bind, pure]
  cases p.store.saveYears sport years <;> rfl

theorem saveFriends_state (p : Pool) (sport : Sport) (friends : List Friend) :
    ((Pool.saveFriends sport friends).run p).2 =
      match p.store.saveFriends sport friends with
      | .ok t => ((Pool.invalidateAfterSave sport).run { p with store := t }).2
      | .error _ => p := by
  simp only [Pool.saveFriends, StateT.run_bind, StateT.run_get]
  dsimp only [bind, pure]
  cases p.store.saveFriends sport friends <;> rfl

theorem savePlayers_state (p : Pool) (sport : Sport) (players : List Player) :
    ((Pool.savePlayers sport players).run p).2 =
      match p.store.savePlayers p.registry sport players with
      | .ok t => ((Pool.invalidateAfterSave sport).run { p with store := t }).2
      | .error _ => p := by
  simp only [Pool.savePlayers, StateT.run_bind, StateT.run_get]
  dsimp only [bind, pure]
  cases p.store.savePlayers p.registry sport players <;> rfl

theorem clearCache_state (p : Pool) (sport : Sport) :
    ((Pool.clearCache sport).run p).2 =
      ((Pool.invalidate sport).run { p with net := { p.net with cache := p.net.cache.clear } }).2 := by
  simp only [Pool.clearCache, StateT.run_bind, StateT.run_modify]
  dsimp only [bind, pure]
  rfl

section Steps

variable {p : Pool} (consistent : p.Consistent)
include consistent

theorem Consistent.setClock (now : Instant) : ((Pool.setClock now).run p).2.Consistent :=
  ⟨consistent.store, consistent.net, consistent.slots, consistent.scores⟩

theorem Consistent.clearCache (sport : Sport) : ((Pool.clearCache sport).run p).2.Consistent := by
  rw [clearCache_state]
  exact consistent.invalidate consistent.store (Net.Coherent.clear _) rfl rfl rfl
    consistent.slots (Store.RosterFrame.refl _ _)

/-- A roster save of the active season, followed by dropping its cached scores, keeps a pool
consistent. -/
theorem Consistent.rosterSaved {sport : Sport} {t : Store} (reachable : t.Reachable)
    (frame : Store.RosterFrame p.store t sport) :
    ((Pool.invalidateAfterSave sport).run { p with store := t }).2.Consistent := by
  rw [invalidateAfterSave_run reachable]
  exact consistent.invalidate reachable consistent.net rfl rfl rfl consistent.slots frame

theorem Consistent.saveFriends (sport : Sport) (friends : List Friend) :
    ((Pool.saveFriends sport friends).run p).2.Consistent := by
  rw [saveFriends_state]
  split
  · rename_i t saved
    exact consistent.rosterSaved (consistent.store.saveFriends saved)
      (Store.saveFriends_frame consistent.store.valid saved)
  · exact consistent

theorem Consistent.savePlayers (sport : Sport) (players : List Player) :
    ((Pool.savePlayers sport players).run p).2.Consistent := by
  rw [savePlayers_state]
  split
  · rename_i t saved
    exact consistent.rosterSaved (consistent.store.savePlayers saved)
      (Store.savePlayers_frame consistent.store.valid saved)
  · exact consistent

theorem Consistent.saveYears (sport : Sport) (years : List Year) :
    ((Pool.saveYears sport years).run p).2.Consistent := by
  rw [saveYears_state]
  split
  · rename_i t saved
    obtain ⟨reachable, same | seasons⟩ := Store.saveYears_eq_ok consistent.store saved
    · subst same
      exact consistent
    · refine ⟨reachable, consistent.net, consistent.slots, fun r member => ?_⟩
      -- a row the save kept is of a season it kept, with that season's friends and players
      rw [seasons.stats, List.mem_filter] at member
      obtain ⟨friends, players⟩ := seasons.seasonRoster member.2
      exact (consistent.scores r member.1).transfer consistent.net consistent.net rfl rfl rfl
        friends players
  · exact consistent

/-- Serving a sport keeps a pool consistent: a fresh row is served as stored, and a refresh
stores the boards of the active season's roster, scored on the network it leaves coherent. -/
theorem Consistent.stats (sport : Sport) : ((Pool.stats sport).run p).2.Consistent := by
  cases active : p.store.activeYear sport with
  | none =>
    rw [stats_run_of_noActive active]
    exact consistent
  | some year =>
    obtain ⟨row, stored⟩ : ∃ row, p.store.statOf sport = some row :=
      ⟨_, Store.statOf_of_activeYear active⟩
    have activeRow := (Store.statOf_eq_some stored).2
    rcases row.fresh_or_stale (resetBoundary p.clock) with ⟨t, text, stamp, scores, le⟩ | stale
    · rw [stats_run_of_fresh stored stamp scores le]
      exact consistent
    -- scoring leaves the network coherent with the same responder, whatever it answers
    have settled := scoreCategories_settles p.sources (p.registry.forSport sport) row.year
      (p.store.friendsOf sport) (p.store.playersOf sport) p.net p.net consistent.net
      consistent.net rfl
    cases scored : (((p.keeper sport).scoring sport row.year).run p.net).1 with
    | error e =>
      obtain ⟨slot, reachable, served⟩ :=
        stats_run_of_scoringFailed (consistent.slots sport) stored stale scored
      rw [served]
      refine ⟨consistent.store, settled.2.1, consistent.slots.withSlot reachable,
        fun r member => ?_⟩
      exact (consistent.scores r member).transfer consistent.net settled.2.1 settled.2.2 rfl rfl
        rfl rfl
    | ok boards =>
      obtain ⟨slot, reachable, served⟩ := stats_run_of_refreshed (consistent.slots sport) stored
        stale scored consistent.store.writable
      rw [served]
      have seasonStored : p.store.hasYear sport row.year = true :=
        Store.hasYear_of_activeYear activeRow
      refine ⟨consistent.store.putStat
          (Store.putStat_eq_ok consistent.store.writable seasonStored),
        settled.2.1, consistent.slots.withSlot reachable, fun r member => ?_⟩
      rcases Store.mem_upsertStat member with rfl | ⟨old, -⟩
      · -- the refreshed row holds the boards of the active season's roster
        refine ⟨rfl, fun text scores => ⟨boards, ?_, (Option.some.inj scores).symm⟩⟩
        show ((scoreCategories p.sources (p.registry.forSport sport) row.year
          (p.store.friendsIn sport row.year) (p.store.playersIn sport row.year)).run
            (((p.keeper sport).scoring sport row.year).run p.net).2).1 = .ok boards
        rw [← Store.friendsOf_eq_friendsIn activeRow, ← Store.playersOf_eq_playersIn activeRow]
        exact ((scoreCategories_settles p.sources (p.registry.forSport sport) row.year
          (p.store.friendsOf sport) (p.store.playersOf sport)) _ p.net settled.2.1
          consistent.net settled.2.2).1.trans scored
      · exact (consistent.scores r old).transfer consistent.net settled.2.1 settled.2.2 rfl rfl
          rfl rfl

end Steps

/-- The calls of a session that read or change cached scores or what they are scored from. -/
inductive Call where
  | saveYears (sport : Sport) (years : List Year)
  | saveFriends (sport : Sport) (friends : List Friend)
  | savePlayers (sport : Sport) (players : List Player)
  | clearCache (sport : Sport)
  | stats (sport : Sport)
  | setClock (now : Instant)

/-- The pool a call leaves. -/
def Call.run : Call → Pool → Pool
  | .saveYears sport years, p => ((Pool.saveYears sport years).run p).2
  | .saveFriends sport friends, p => ((Pool.saveFriends sport friends).run p).2
  | .savePlayers sport players, p => ((Pool.savePlayers sport players).run p).2
  | .clearCache sport, p => ((Pool.clearCache sport).run p).2
  | .stats sport, p => ((Pool.stats sport).run p).2
  | .setClock now, p => ((Pool.setClock now).run p).2

/-- The pool a list of calls leaves, run in order. -/
def session (p : Pool) (calls : List Call) : Pool :=
  calls.foldl (fun p call => call.run p) p

/-- A pool opened on the empty store, with no refresh yet. -/
def opened (registry : Registry) (sources : Sources) (net : Net) (clock : Instant) : Pool :=
  ⟨registry, sources, Store.empty, net, clock, fun _ => {}⟩

theorem Consistent.call {p : Pool} (consistent : p.Consistent) : ∀ call : Call,
    (call.run p).Consistent
  | .saveYears sport years => consistent.saveYears sport years
  | .saveFriends sport friends => consistent.saveFriends sport friends
  | .savePlayers sport players => consistent.savePlayers sport players
  | .clearCache sport => consistent.clearCache sport
  | .stats sport => consistent.stats sport
  | .setClock now => consistent.setClock now

theorem Consistent.session {p : Pool} (consistent : p.Consistent) (calls : List Call) :
    (p.session calls).Consistent := by
  -- each call keeps the invariant, from the pool the calls before it left
  induction calls generalizing p with
  | nil => exact consistent
  | cons call rest inductionHypothesis => exact inductionHypothesis (consistent.call call)

theorem consistent_opened (registry : Registry) (sources : Sources) {net : Net}
    (coherent : net.Coherent) (clock : Instant) :
    (opened registry sources net clock).Consistent :=
  ⟨.empty, coherent, fun _ => .initial, fun _ member => nomatch member⟩

/-- Along any session on a coherent network, every cached score row holds the boards of its
season's current roster. -/
theorem cachedScores_current (registry : Registry) (sources : Sources) (net : Net)
    (coherent : net.Coherent) (clock : Instant) (calls : List Call) :
    let p := (opened registry sources net clock).session calls
    ∀ r ∈ p.store.stats, r.stamp.isSome = r.scores.isSome ∧
      ∀ text, r.scores = some text → ∃ boards,
        ((scoreCategories p.sources (p.registry.forSport r.sport) r.year
          (p.store.friendsIn r.sport r.year) (p.store.playersIn r.sport r.year)).run p.net).1 =
            .ok boards ∧ text = encodeBoards boards :=
  ((consistent_opened registry sources coherent clock).session calls).scores

/-- A session of roster saves, refreshes, a clock past a reset and a cleared cache. -/
theorem cachedScores_current_resaved :
    let standings := "\x7b\"records\":[\x7b\"teamRecords\":[\x7b\"team\":\x7b\"id\":147,\"name\":\"Yankees\"\x7d,\"wins\":103,\"losses\":59\x7d]\x7d]\x7d"
    let net : Net := ⟨⟨8, [], by decide⟩, .canned [("standings", .body standings), ("people", .status 500)], 0⟩
    let sources : Sources := ⟨{ mlbStatsUrl := "http://stats.test" }, CategoryKind.all⟩
    let calls : List Call := [.saveYears .mlb [⟨2018, false⟩, ⟨2019, true⟩],
      .saveFriends .mlb [⟨0, 1, "Ann"⟩, ⟨0, 2, "Bo"⟩],
      .savePlayers .mlb [⟨0, 1, 147, 1, 0⟩, ⟨0, 1, 121, 2, 0⟩], .stats .mlb,
      .saveFriends .mlb [⟨1, 1, "Anne"⟩, ⟨2, 2, "Bo"⟩], .setClock ⟨1559476800, 0⟩, .stats .mlb,
      .clearCache .mlb, .stats .mlb]
    let p := (opened Registry.defaults sources net ⟨1559390400, 0⟩).session calls
    net.Coherent ∧ ∀ r ∈ p.store.stats, r.stamp.isSome = r.scores.isSome ∧
      ∀ text, r.scores = some text → ∃ boards,
        ((scoreCategories p.sources (p.registry.forSport r.sport) r.year
          (p.store.friendsIn r.sport r.year) (p.store.playersIn r.sport r.year)).run p.net).1 =
            .ok boards ∧ text = encodeBoards boards := by
  intro standings net sources calls
  have coherent : net.Coherent := ⟨fun _ member => nomatch member⟩
  exact ⟨coherent, cachedScores_current Registry.defaults sources net coherent ⟨1559390400, 0⟩ calls⟩

end Pool

end DraftPool
