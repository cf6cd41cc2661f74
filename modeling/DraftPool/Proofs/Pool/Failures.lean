import DraftPool.Proofs.Pool.CachedScores
import DraftPool.Proofs.Score.Faults
import DraftPool.Proofs.Roster.Players

/-
Serving scores fails only at the store or at a provider. The main statement is
`Pool.session_stats_failure`.
-/

namespace DraftPool

/-- A write that may enter the store under the categories of a registry: a player added under
a category of its own sport. Every other write is admitted. -/
def Write.Admits (registry : Registry) : Write → Prop
  | .addPlayer sport categoryId _ _ _ => (registry.get? categoryId).map Category.sport = some sport
  | _ => True

namespace Store

/-- Every stored player is in a category of its own sport. -/
def Categorised (registry : Registry) (s : Store) : Prop :=
  ∀ row ∈ s.players, (registry.get? row.categoryId).map Category.sport = some row.sport

section Categorised

variable {registry : Registry} {s t : Store}

theorem Categorised.mono (categorised : s.Categorised registry)
    (within : ∀ row ∈ t.players, row ∈ s.players) : t.Categorised registry :=
  fun row member => categorised row (within row member)

theorem Categorised.of_players (categorised : s.Categorised registry) (same : t.players = s.players) :
    t.Categorised registry :=
  categorised.mono fun _ member => same ▸ member

theorem categorised_empty (registry : Registry) : Store.empty.Categorised registry :=
  fun _ member => nomatch member

/-- An admitted write keeps every stored player in a category of its sport: players are only
dropped, reordered, or added under a friend of the sport with an admitted category. -/
theorem Categorised.step (categorised : s.Categorised registry) {w : Write}
    (admitted : w.Admits registry) {n : Nat} (applied : s.applyWritable w = .ok (n, t)) :
    t.Categorised registry := by
  cases w with
  | delFriend id =>
    cases applied
    exact categorised.mono fun _ member => (List.mem_filter.1 member).1
  | addFriend rowSport order name =>
    simp only [applyWritable] at applied
    split at applied <;> cases applied <;> exact categorised
  | setFriend id order name =>
    cases applied
    exact categorised
  | delPlayer id =>
    cases applied
    exact categorised.mono fun _ member => (List.mem_filter.1 member).1
  | addPlayer rowSport categoryId sourceId friendId order =>
    simp only [applyWritable] at applied
    split at applied
    · cases applied
      exact categorised
    · rename_i f found
      have passes := List.find?_some found
      simp only [Bool.and_eq_true, beq_iff_eq] at passes
      cases applied
      intro row member
      rcases List.mem_append.1 member with stored | added
      · exact categorised row stored
      · rw [List.mem_singleton.1 added, passes.1.1]
        exact admitted
  | setPlayer id order =>
    cases applied
    intro row member
    obtain ⟨old, stored, rfl⟩ := List.mem_map.1 member
    split
    · exact categorised old stored
    · exact categorised old stored
  | clearActive rowSport =>
    cases applied
    exact categorised
  | delYear rowSport year =>
    cases applied
    exact categorised.mono fun _ member => (List.mem_filter.1 member).1
  | addYear rowSport year =>
    simp only [applyWritable] at applied
    split at applied <;> cases applied
    exact categorised
  | setActive rowSport year =>
    simp only [applyWritable] at applied
    split at applied
    · cases applied
      exact categorised
    · split at applied <;> cases applied
      exact categorised

/-- A run of admitted writes keeps every stored player in a category of its sport. -/
theorem Categorised.runs (categorised : s.Categorised registry) {ws : List Write} (run : s.Runs ws t)
    (admitted : ∀ w ∈ ws, w.Admits registry) : t.Categorised registry := by
  induction run with
  | nil => exact categorised
  | cons applied _ inductionHypothesis =>
    exact inductionHypothesis (categorised.step (admitted _ List.mem_cons_self)
      (applyWritable_of_apply applied)) fun w member => admitted w (List.mem_cons_of_mem _ member)

theorem Categorised.saveFriends (categorised : s.Categorised registry) {sport : Sport}
    {desired : List Friend} (saved : s.saveFriends sport desired = .ok t) : t.Categorised registry := by
  unfold Store.saveFriends at saved
  refine categorised.runs (transact_eq_ok_iff.1 saved) fun w member => ?_
  simp only [List.mem_append, List.mem_map] at member
  rcases member with (⟨f, _, rfl⟩ | ⟨f, _, rfl⟩) | ⟨f, _, rfl⟩ <;> trivial

/-- A save of players admits only players in the sport's categories. -/
theorem Categorised.savePlayers (categorised : s.Categorised registry) {sport : Sport}
    {desired : List Player} (saved : s.savePlayers registry sport desired = .ok t) :
    t.Categorised registry := by
  unfold Store.savePlayers at saved
  split at saved
  · cases saved
  · rename_i noStray
    refine categorised.runs (transact_eq_ok_iff.1 saved) fun w member => ?_
    simp only [List.mem_append, List.mem_map] at member
    rcases member with (⟨p, _, rfl⟩ | ⟨p, inserted, rfl⟩) | ⟨p, _, rfl⟩
    · trivial
    · exact strayPlayer_eq_none_iff.1 noStray p (List.mem_of_mem_filter inserted)
    · trivial

theorem Categorised.saveYears (categorised : s.Categorised registry) (reachable : s.Reachable)
    {sport : Sport} {desired : List Year} (saved : s.saveYears sport desired = .ok t) :
    t.Categorised registry := by
  obtain ⟨-, rfl | seasons⟩ := saveYears_eq_ok reachable saved
  · exact categorised
  · exact categorised.mono fun _ member => by
      rw [seasons.players] at member
      exact (List.mem_filter.1 member).1

theorem putStat_players {row : StatRow} (put : s.putStat row = .ok t) : t.players = s.players := by
  unfold putStat at put
  split at put
  · cases put
  split at put
  · cases put
  dsimp only at put
  split at put <;> cases put <;> rfl

/-- The players of a sport's active season are each in one of the sport's categories. -/
theorem Categorised.playersOf_covered (categorised : s.Categorised registry) (sport : Sport) :
    ∀ p ∈ s.playersOf sport, p.categoryId ∈ (registry.forSport sport).map (·.id) := by
  intro p member
  simp only [Store.playersOf, List.mem_map, List.mem_mergeSort, List.mem_filter, Bool.and_eq_true,
    beq_iff_eq] at member
  obtain ⟨row, ⟨stored, sameSport, _⟩, rfl⟩ := member
  obtain ⟨c, found, kind⟩ := Option.map_eq_some_iff.1 (categorised row stored)
  have sameId := List.find?_some found
  rw [beq_iff_eq] at sameId
  refine List.mem_map.2 ⟨c, List.mem_filter.2 ⟨List.mem_of_find?_eq_some found, ?_⟩, sameId⟩
  exact beq_iff_eq.2 (kind.trans sameSport)

end Categorised

end Store

namespace Scorekeeper

theorem scoring_settles (k : Scorekeeper) (sport : Sport) (year : Int) :
    Settles (k.scoring sport year) :=
  scoreCategories_settles _ _ _ _ _

theorem ofRow_error {row : StatRow} {boundary : Instant} {e : StatsError}
    (failed : EtlStats.ofRow row boundary = .error e) : e = .storage .blob := by
  unfold EtlStats.ofRow at failed
  split at failed <;> cases failed
  rfl

/-- A refresh fails only as its scoring or the storing of its row does, and keeps the players. -/
theorem refreshOutcome_cases (k : Scorekeeper) (sport : Sport) (year : Int) (boundary : Instant)
    (scored : Except ScoreError (List ScoreCategory)) :
    (∀ e, k.refreshOutcome sport year boundary scored = .error e →
      (∃ cause, e = .storage cause) ∨ ∃ cause, scored = .error cause ∧ e = .score cause) ∧
    (∀ served store, k.refreshOutcome sport year boundary scored = .ok (served, store) →
      store.players = k.store.players) := by
  cases scored with
  | error cause => exact ⟨fun e failed => .inr ⟨cause, rfl, (Except.error.inj failed).symm⟩,
      fun _ _ succeeded => by cases succeeded⟩
  | ok boards =>
    simp only [refreshOutcome]
    cases put : k.store.putStat ⟨sport, year, some k.clock, some (encodeBoards boards)⟩ with
    | error fault => exact ⟨fun e failed => .inl ⟨_, (Except.error.inj failed).symm⟩,
        fun _ _ succeeded => by cases succeeded⟩
    | ok store =>
      refine ⟨fun e failed => (by cases failed), fun _ stored succeeded => ?_⟩
      cases succeeded
      exact Store.putStat_players put

/-- Serving a sport's scores fails only at the store or in one scoring, and keeps the players. -/
theorem stats_outcome (k : Scorekeeper) (sport : Sport) (net : Net)
    (settled : k.slot.failedSince k.slot.finished = none) :
    (((k.stats sport).run net).2 = net ∨
        ∃ year, ((k.stats sport).run net).2 = ((k.scoring sport year).run net).2) ∧
      (∀ e, ((k.stats sport).run net).1.1 = .error e → (∃ cause, e = .storage cause) ∨
        ∃ year cause, ((k.scoring sport year).run net).1 = .error cause ∧ e = .score cause) ∧
      ∀ result store, ((k.stats sport).run net).1.1 = .ok (result, store) →
        store.players = k.store.players := by
  cases stored : k.store.statOf sport with
  | none =>
    rw [k.stats_run_of_none net stored]
    exact ⟨.inl rfl, fun e failed => (by cases failed), fun _ _ succeeded => by cases succeeded; rfl⟩
  | some row =>
    cases fresh : Freshness.of row.stamp row.scores (resetBoundary k.clock) with
    | fresh =>
      -- a fresh row is served as stored, and fails only if it does not decode
      rw [k.stats_run_of_fresh net stored fresh]
      cases served : EtlStats.ofRow row (resetBoundary k.clock) with
      | error cause =>
        refine ⟨.inl rfl, fun e failed => ?_, fun _ _ succeeded => by cases succeeded⟩
        obtain rfl : cause = e := Except.error.inj failed
        exact .inl ⟨_, ofRow_error served⟩
      | ok s =>
        exact ⟨.inl rfl, fun e failed => (by cases failed), fun _ _ succeeded => by cases succeeded; rfl⟩
    | stale =>
      rw [k.stats_run_of_stale net stored fresh settled]
      dsimp only
      obtain ⟨failures, kept⟩ := k.refreshOutcome_cases sport row.year (resetBoundary k.clock)
        ((k.scoring sport row.year).run net).1
      cases outcome : k.refreshOutcome sport row.year (resetBoundary k.clock)
          ((k.scoring sport row.year).run net).1 with
      | error cause =>
        refine ⟨.inr ⟨row.year, rfl⟩, fun e failed => ?_, fun _ _ succeeded => by cases succeeded⟩
        obtain rfl : cause = e := Except.error.inj failed
        rcases failures cause outcome with stored | ⟨scoreCause, scored, rfl⟩
        · exact .inl stored
        · exact .inr ⟨row.year, scoreCause, scored, rfl⟩
      | ok served =>
        refine ⟨.inr ⟨row.year, rfl⟩, fun e failed => (by cases failed), fun _ _ succeeded => ?_⟩
        cases succeeded
        exact kept _ _ outcome

end Scorekeeper

namespace Pool

/-- What every pool of a session keeps for serving scores. -/
structure Serving (registry : Registry) (sources : Sources) (responder : Responder) (p : Pool) :
    Prop where
  consistent : p.Consistent
  sameRegistry : p.registry = registry
  sameSources : p.sources = sources
  sameResponder : p.net.responder = responder
  categorised : p.store.Categorised registry

theorem serving_opened (registry : Registry) (sources : Sources) {net : Net} (coherent : net.Coherent)
    (clock : Instant) :
    (opened registry sources net clock).Serving registry sources net.responder :=
  ⟨consistent_opened registry sources coherent clock, rfl, rfl, rfl, Store.categorised_empty registry⟩

/-- Dropping cached scores changes neither the categories, the providers, the network nor the
players. -/
theorem invalidate_frame (q : Pool) (sport : Sport) :
    ((invalidate sport).run q).2.registry = q.registry ∧
      ((invalidate sport).run q).2.sources = q.sources ∧
      ((invalidate sport).run q).2.net = q.net ∧
      ((invalidate sport).run q).2.store.players = q.store.players := by
  simp only [Pool.invalidate, StateT.run_bind, StateT.run_modify, StateT.run_get]
  dsimp only [bind, pure]
  cases cleared : (q.withSlot sport (q.slots sport).bump).store.clearStat sport with
  | error e => exact ⟨rfl, rfl, rfl, rfl⟩
  | ok store => exact ⟨rfl, rfl, rfl, (Store.clearStat_roster cleared).2.1⟩

section Steps

variable {registry : Registry} {sources : Sources} {responder : Responder} {p : Pool}
  (serving : p.Serving registry sources responder)
include serving

/-- A roster save of a store that keeps players in their categories, followed by dropping the
sport's cached scores, keeps a pool serving. -/
theorem Serving.rosterSaved {sport : Sport} {t : Store} (reachable : t.Reachable)
    (consistent : ((invalidateAfterSave sport).run { p with store := t }).2.Consistent)
    (categorised : t.Categorised registry) :
    ((invalidateAfterSave sport).run { p with store := t }).2.Serving registry sources responder := by
  rw [invalidateAfterSave_run reachable] at consistent ⊢
  obtain ⟨sameRegistry, sameSources, sameNet, samePlayers⟩ :=
    invalidate_frame { p with store := t } sport
  exact ⟨consistent, sameRegistry.trans serving.sameRegistry, sameSources.trans serving.sameSources,
    (congrArg (·.responder) sameNet).trans serving.sameResponder, categorised.of_players samePlayers⟩

theorem Serving.saveYears (sport : Sport) (years : List Year) :
    ((Pool.saveYears sport years).run p).2.Serving registry sources responder := by
  have consistent := serving.consistent.saveYears sport years
  rw [saveYears_state] at consistent ⊢
  cases saved : p.store.saveYears sport years with
  | error e => exact serving
  | ok t =>
    rw [saved] at consistent
    exact ⟨consistent, serving.sameRegistry, serving.sameSources, serving.sameResponder,
      serving.categorised.saveYears serving.consistent.store saved⟩

theorem Serving.saveFriends (sport : Sport) (friends : List Friend) :
    ((Pool.saveFriends sport friends).run p).2.Serving registry sources responder := by
  have consistent := serving.consistent.saveFriends sport friends
  rw [saveFriends_state] at consistent ⊢
  cases saved : p.store.saveFriends sport friends with
  | error e => exact serving
  | ok t =>
    rw [saved] at consistent
    exact serving.rosterSaved (serving.consistent.store.saveFriends saved) consistent
      (serving.categorised.saveFriends saved)

theorem Serving.savePlayers (sport : Sport) (players : List Player) :
    ((Pool.savePlayers sport players).run p).2.Serving registry sources responder := by
  have consistent := serving.consistent.savePlayers sport players
  rw [savePlayers_state] at consistent ⊢
  cases saved : p.store.savePlayers p.registry sport players with
  | error e => exact serving
  | ok t =>
    rw [saved] at consistent
    have reachable := serving.consistent.store.savePlayers saved
    rw [serving.sameRegistry] at saved
    exact serving.rosterSaved reachable consistent (serving.categorised.savePlayers saved)

theorem Serving.clearCache (sport : Sport) :
    ((Pool.clearCache sport).run p).2.Serving registry sources responder := by
  have consistent := serving.consistent.clearCache sport
  rw [clearCache_state] at consistent ⊢
  obtain ⟨sameRegistry, sameSources, sameNet, samePlayers⟩ :=
    invalidate_frame { p with net := { p.net with cache := p.net.cache.clear } } sport
  exact ⟨consistent, sameRegistry.trans serving.sameRegistry, sameSources.trans serving.sameSources,
    (congrArg (·.responder) sameNet).trans serving.sameResponder,
    serving.categorised.of_players samePlayers⟩

/-- Serving a sport keeps a pool serving: the network is left as a scoring leaves it, which keeps
the responder, and a refresh stores only scores. -/
theorem Serving.stats (sport : Sport) :
    ((Pool.stats sport).run p).2.Serving registry sources responder := by
  have outcome := (p.keeper sport).stats_outcome sport p.net
    (serving.consistent.slots sport).failedSince_finished
  have responderKept : (((p.keeper sport).stats sport).run p.net).2.responder = p.net.responder := by
    rcases outcome.1 with same | ⟨year, scored⟩
    · rw [same]
    · rw [scored]
      exact ((p.keeper sport).scoring_settles sport year p.net p.net serving.consistent.net
        serving.consistent.net rfl).2.2
  have consistent := serving.consistent.stats sport
  rw [stats_run] at consistent ⊢
  generalize ((p.keeper sport).stats sport).run p.net = served at outcome responderKept consistent ⊢
  obtain ⟨⟨answer, slot⟩, net⟩ := served
  cases answer with
  | error e =>
    exact ⟨consistent, serving.sameRegistry, serving.sameSources,
      responderKept.trans serving.sameResponder, serving.categorised⟩
  | ok served =>
    obtain ⟨result, store⟩ := served
    exact ⟨consistent, serving.sameRegistry, serving.sameSources,
      responderKept.trans serving.sameResponder,
      serving.categorised.of_players (outcome.2.2 result store rfl)⟩

theorem Serving.setClock (now : Instant) :
    ((Pool.setClock now).run p).2.Serving registry sources responder :=
  ⟨serving.consistent.setClock now, serving.sameRegistry, serving.sameSources, serving.sameResponder,
    serving.categorised⟩

theorem Serving.call : ∀ call : Call, (call.run p).Serving registry sources responder
  | .saveYears sport years => serving.saveYears sport years
  | .saveFriends sport friends => serving.saveFriends sport friends
  | .savePlayers sport players => serving.savePlayers sport players
  | .clearCache sport => serving.clearCache sport
  | .stats sport => serving.stats sport
  | .setClock now => serving.setClock now

/-- With every kind wired and a responder that answers every request, serving a sport fails
only at the store, or in scoring with a provider's fault. -/
theorem Serving.stats_failure (wired : ∀ kind, sources.isWired kind = true)
    (answers : responder.Answers) (sport : Sport) {e : PoolError}
    (failed : ((Pool.stats sport).run p).1 = .error e) :
    (∃ cause, e = .stats (.storage cause)) ∨
      ∃ cause, e = .stats (.score cause) ∧ cause.ProviderFault := by
  have outcome := (p.keeper sport).stats_outcome sport p.net
    (serving.consistent.slots sport).failedSince_finished
  rw [stats_run] at failed
  generalize ((p.keeper sport).stats sport).run p.net = served at outcome failed
  obtain ⟨⟨answer, slot⟩, net⟩ := served
  cases answer with
  | ok served => cases failed
  | error cause =>
    cases failed
    rcases outcome.2.1 cause rfl with ⟨stored, rfl⟩ | ⟨year, scoreCause, scored, rfl⟩
    · exact .inl ⟨stored, rfl⟩
    · -- the scoring covers the active season's players with every kind wired
      refine .inr ⟨scoreCause, rfl, ?_⟩
      have covered := serving.categorised.playersOf_covered sport
      rw [← serving.sameRegistry] at covered
      have faults := (scoreCategories_providerFault p.sources (serving.sameSources ▸ wired)
        (p.registry.forSport sport) year (p.store.friendsOf sport) (p.store.playersOf sport)
        covered).holds p.net serving.consistent.net (serving.sameResponder ▸ answers)
      exact Meets.error_of_eq faults scored

end Steps

theorem Serving.session {registry : Registry} {sources : Sources} {responder : Responder} {p : Pool}
    (serving : p.Serving registry sources responder) (calls : List Call) :
    (p.session calls).Serving registry sources responder := by
  -- each call keeps the invariant, from the pool the calls before it left
  induction calls generalizing p with
  | nil => exact serving
  | cons call rest inductionHypothesis => exact inductionHypothesis (serving.call call)

/-- Along any session, a stats call fails only at the store or with a provider's fault. -/
theorem session_stats_failure (registry : Registry) (config : ProviderConfig) (net : Net)
    (coherent : net.Coherent) (answers : net.responder.Answers) (clock : Instant)
    (calls : List Call) (sport : Sport) :
    Fails (fun e : PoolError => (∃ cause, e = .stats (.storage cause)) ∨
        ∃ cause, e = .stats (.score cause) ∧ cause.ProviderFault)
      ((Pool.stats sport).run ((opened registry ⟨config, CategoryKind.all⟩ net clock).session calls)).1 := by
  have wired : ∀ kind, (⟨config, CategoryKind.all⟩ : Sources).isWired kind = true := by
    intro kind
    cases kind <;> rfl
  have serving := (serving_opened registry ⟨config, CategoryKind.all⟩ coherent clock).session calls
  cases served : ((Pool.stats sport).run
      ((opened registry ⟨config, CategoryKind.all⟩ net clock).session calls)).1 with
  | ok result => exact .ok trivial
  | error e => exact .error (serving.stats_failure wired answers sport served)

/-- A baseball roster of a team and a hitter, scored on a network that answers the standings and
refuses the player lookups with a server error, fails at most so. -/
theorem session_stats_failure_refused :
    let standings := "\x7b\"records\":[\x7b\"teamRecords\":[\x7b\"team\":\x7b\"id\":147,\"name\":\"Yankees\"\x7d,\"wins\":103,\"losses\":59\x7d]\x7d]\x7d"
    let net : Net := ⟨⟨8, [], by decide⟩, .canned [("standings", .body standings), ("people", .status 500)], 0⟩
    let config : ProviderConfig := { mlbStatsUrl := "http://stats.test" }
    let calls : List Call := [.saveYears .mlb [⟨2018, false⟩, ⟨2019, true⟩],
      .saveFriends .mlb [⟨0, 1, "Ann"⟩, ⟨0, 2, "Bo"⟩],
      .savePlayers .mlb [⟨0, 1, 147, 1, 0⟩, ⟨0, 2, 545361, 2, 0⟩]]
    net.Coherent ∧ net.responder.Answers ∧
      Fails (fun e : PoolError => (∃ cause, e = .stats (.storage cause)) ∨
          ∃ cause, e = .stats (.score cause) ∧ cause.ProviderFault)
        ((Pool.stats .mlb).run ((opened Registry.defaults ⟨config, CategoryKind.all⟩ net
          ⟨1559390400, 0⟩).session calls)).1 := by
  intro standings net config calls
  have coherent : net.Coherent := ⟨fun _ member => nomatch member⟩
  have answers : net.responder.Answers := Responder.answers_canned (by simp)
  exact ⟨coherent, answers,
    session_stats_failure Registry.defaults config net coherent answers ⟨1559390400, 0⟩ calls .mlb⟩

end Pool

end DraftPool
