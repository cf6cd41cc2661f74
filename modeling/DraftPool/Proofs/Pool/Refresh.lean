import DraftPool.Pool.Session
import DraftPool.Proofs.Store.Valid

/-
Serving a sport's scores when calls come one at a time. The main statement is
`Pool.stats_served_or_refreshed`.
-/

namespace DraftPool

/-- Whether a cached score row is of the season of another. -/
def StatRow.sameSeason (row r : StatRow) : Bool :=
  r.sport == row.sport && r.year == row.year

/-- A row is stale against a boundary unless it holds scores stamped at or after it. -/
def StatRow.Stale (row : StatRow) (boundary : Instant) : Prop :=
  ∀ t text, row.stamp = some t → row.scores = some text → ¬boundary ≤ t

theorem StatRow.freshness_of_stale {row : StatRow} {boundary : Instant}
    (stale : row.Stale boundary) : Freshness.of row.stamp row.scores boundary = .stale := by
  unfold Freshness.of
  split
  · rename_i t text stamp scores
    exact if_neg (stale t text stamp scores)
  · rfl

theorem StatRow.freshness_of_le {row : StatRow} {boundary t : Instant} {text : String}
    (stamp : row.stamp = some t) (scores : row.scores = some text) (fresh : boundary ≤ t) :
    Freshness.of row.stamp row.scores boundary = .fresh := by
  simp [Freshness.of, stamp, scores, fresh]

/-- A row holds scores stamped at or after a boundary, or is stale for it. -/
theorem StatRow.fresh_or_stale (row : StatRow) (boundary : Instant) :
    (∃ t text, row.stamp = some t ∧ row.scores = some text ∧ boundary ≤ t) ∨
      row.Stale boundary := by
  by_cases fresh : ∃ t text, row.stamp = some t ∧ row.scores = some text ∧ boundary ≤ t
  · exact .inl fresh
  · exact .inr fun t text stamp scores le => fresh ⟨t, text, stamp, scores, le⟩

namespace Store

/-- The row served for a sport with an active season: the stored row of that season, or an
empty one. -/
theorem statOf_of_activeYear {s : Store} {sport : Sport} {year : Int}
    (active : s.activeYear sport = some year) :
    s.statOf sport = some ((s.stats.find? fun r => r.sport == sport && r.year == year).getD
      ⟨sport, year, none, none⟩) := by
  simp only [statOf, active]
  dsimp only [bind, Option.bind]
  cases s.stats.find? fun r => r.sport == sport && r.year == year <;> rfl

theorem statOf_eq_none_iff {s : Store} {sport : Sport} :
    s.statOf sport = none ↔ s.activeYear sport = none := by
  cases active : s.activeYear sport with
  | none => simp [statOf, active]
  | some year => simp [statOf_of_activeYear active]

/-- The row served for a sport is of its active season. -/
theorem statOf_eq_some {s : Store} {sport : Sport} {row : StatRow}
    (served : s.statOf sport = some row) :
    row.sport = sport ∧ s.activeYear sport = some row.year := by
  cases active : s.activeYear sport with
  | none => simp [statOf, active] at served
  | some year =>
    rw [statOf_of_activeYear active, Option.some.injEq] at served
    subst served
    cases found : s.stats.find? fun r => r.sport == sport && r.year == year with
    | none => exact ⟨rfl, rfl⟩
    | some r =>
      have holds := List.find?_some found
      simp only [Bool.and_eq_true, beq_iff_eq] at holds
      simp [holds.1, holds.2]

/-- Storing a row replaces every row of its season, or adds it when there is none. -/
def upsertStat (s : Store) (row : StatRow) : List StatRow :=
  if s.stats.any row.sameSeason then s.stats.map fun r => if row.sameSeason r then row else r
  else s.stats ++ [row]

theorem putStat_eq_ok {s : Store} (writable : s.readOnly = false) {row : StatRow}
    (stored : s.hasYear row.sport row.year = true) :
    s.putStat row = .ok { s with stats := s.upsertStat row } := by
  have unfolded : row.sameSeason = fun r => r.sport == row.sport && r.year == row.year := rfl
  simp only [putStat, writable, stored, upsertStat, unfolded, Bool.false_eq_true, if_false,
    Bool.not_true]
  split <;> rfl

theorem putStat_of_readOnly {s : Store} (readOnly : s.readOnly = true) (row : StatRow) :
    s.putStat row = .error .readOnly := by
  simp [putStat, readOnly]

/-- After a row of the active season is stored, it is the row served. -/
theorem statOf_upsertStat {s : Store} {row : StatRow}
    (active : s.activeYear row.sport = some row.year) :
    ({ s with stats := s.upsertStat row } : Store).statOf row.sport = some row := by
  have sameRow : row.sameSeason row = true := by simp [StatRow.sameSeason]
  have found : (s.upsertStat row).find? row.sameSeason = some row := by
    unfold upsertStat
    split
    · -- every row of the season is replaced, so the first one found is the new row
      rename_i present
      obtain ⟨first, firstFound⟩ := Option.isSome_iff_exists.1 (List.find?_isSome.2
        (List.any_eq_true.1 present))
      rw [List.find?_map]
      have keeps : (row.sameSeason ∘ fun r => if row.sameSeason r = true then row else r) =
          row.sameSeason := by
        funext r
        by_cases hit : row.sameSeason r = true <;> simp [hit, sameRow]
      rw [keeps, firstFound]
      simp [List.find?_some firstFound]
    · rename_i absent
      rw [List.find?_append, List.find?_eq_none.2 fun r member hit =>
        absent (List.any_eq_true.2 ⟨r, member, hit⟩)]
      simp [sameRow]
  have unchanged : ({ s with stats := s.upsertStat row } : Store).activeYear row.sport =
      some row.year := active
  rw [statOf_of_activeYear unchanged]
  exact congrArg (fun found => some (Option.getD found _)) found

end Store

namespace RefreshSlot

/-- The slots a sport can have: the default one after finished refreshes and invalidations. -/
inductive Reachable : RefreshSlot → Prop
  | initial : Reachable {}
  | finish {slot : RefreshSlot} {α : Type} (outcome : Except StatsError α) :
      Reachable slot → Reachable (slot.finish outcome)
  | bump {slot : RefreshSlot} : Reachable slot → Reachable slot.bump

/-- The recorded failure is of an attempt that has finished. -/
theorem Reachable.failure_le {slot : RefreshSlot} (reachable : slot.Reachable) {attempt : Nat}
    {e : StatsError} (recorded : slot.failure = some (attempt, e)) : attempt ≤ slot.finished := by
  induction reachable generalizing attempt e with
  | initial => cases recorded
  | finish outcome _ _ =>
    cases outcome with
    | ok => cases recorded
    | error failure =>
      simp only [RefreshSlot.finish, Option.some.injEq, Prod.mk.injEq] at recorded ⊢
      exact Nat.le_of_eq recorded.1.symm
  | bump _ inductionHypothesis => exact inductionHypothesis recorded

/-- A caller that arrives after every finished attempt shares no failure. -/
theorem Reachable.failedSince_finished {slot : RefreshSlot} (reachable : slot.Reachable) :
    slot.failedSince slot.finished = none := by
  unfold failedSince
  split
  · rename_i attempt e recorded
    exact if_neg (Nat.not_lt.2 (reachable.failure_le recorded))
  · rfl

end RefreshSlot

namespace Scorekeeper

/-- The scoring a refresh runs: every category of the sport over the active season's roster. -/
def scoring (k : Scorekeeper) (sport : Sport) (year : Int) :
    Fetch (Except ScoreError (List ScoreCategory)) :=
  scoreCategories k.sources (k.registry.forSport sport) year (k.store.friendsOf sport)
    (k.store.playersOf sport)

/-- What a refresh gives for the outcome of its scoring, once the row is stored. -/
def refreshOutcome (k : Scorekeeper) (sport : Sport) (year : Int) (boundary : Instant) :
    Except ScoreError (List ScoreCategory) → Except StatsError (EtlStats × Store)
  | .error e => .error (.score e)
  | .ok boards =>
    match k.store.putStat ⟨sport, year, some k.clock, some (encodeBoards boards)⟩ with
    | .error e => .error (.storage (.fault e))
    | .ok store => .ok (⟨sport, year, k.clock, boundary, boards⟩, store)

/-- A refresh scores once and stores its boards: the generation it reads is still current when
it stores, since nothing runs in between. -/
theorem refresh_run (k : Scorekeeper) (sport : Sport) (year : Int) (boundary : Instant)
    (net : Net) :
    (k.refresh sport year boundary).run net =
      (k.refreshOutcome sport year boundary ((k.scoring sport year).run net).1,
        ((k.scoring sport year).run net).2) := by
  simp only [refresh, RefreshSlot.persistIfCurrent, ne_eq, not_true_eq_false, if_false,
    StateT.run_bind, scoring]
  dsimp only [bind]
  generalize (scoreCategories k.sources (k.registry.forSport sport) year (k.store.friendsOf sport)
    (k.store.playersOf sport)).run net = scored
  obtain ⟨scored | boards, net'⟩ := scored
  · rfl
  · simp only [refreshOutcome]
    cases k.store.putStat ⟨sport, year, some k.clock, some (encodeBoards boards)⟩ <;> rfl

theorem stats_run_of_none (k : Scorekeeper) {sport : Sport} (net : Net)
    (noRow : k.store.statOf sport = none) :
    (k.stats sport).run net = ((.ok (none, k.store), k.slot), net) := by
  simp only [stats, noRow]
  rfl

theorem stats_run_of_fresh (k : Scorekeeper) {sport : Sport} (net : Net) {row : StatRow}
    (stored : k.store.statOf sport = some row)
    (fresh : Freshness.of row.stamp row.scores (resetBoundary k.clock) = .fresh) :
    (k.stats sport).run net =
      (((EtlStats.ofRow row (resetBoundary k.clock)).map fun s => (some s, k.store), k.slot),
        net) := by
  simp only [stats, stored, fresh]
  rfl

theorem stats_run_of_stale (k : Scorekeeper) {sport : Sport} (net : Net) {row : StatRow}
    (stored : k.store.statOf sport = some row)
    (stale : Freshness.of row.stamp row.scores (resetBoundary k.clock) = .stale)
    (settled : k.slot.failedSince k.slot.finished = none) :
    let outcome := k.refreshOutcome sport row.year (resetBoundary k.clock)
      ((k.scoring sport row.year).run net).1
    (k.stats sport).run net =
      ((outcome.map fun (s, store) => (some s, store), k.slot.finish outcome),
        ((k.scoring sport row.year).run net).2) := by
  simp only [stats, stored, stale, settled, StateT.run_bind, refresh_run]
  rfl

/-- Serving leaves the slot reachable: at most one refresh finishes. -/
theorem stats_slot_reachable (k : Scorekeeper) (sport : Sport) (net : Net)
    (history : k.slot.Reachable) : ((k.stats sport).run net).1.2.Reachable := by
  cases stored : k.store.statOf sport with
  | none =>
    rw [stats_run_of_none k net stored]
    exact history
  | some row =>
    cases fresh : Freshness.of row.stamp row.scores (resetBoundary k.clock) with
    | fresh =>
      rw [stats_run_of_fresh k net stored fresh]
      exact history
    | stale =>
      rw [stats_run_of_stale k net stored fresh history.failedSince_finished]
      exact history.finish _

end Scorekeeper

namespace Pool

/-- The scorekeeper of a pool for one sport. -/
def keeper (p : Pool) (sport : Sport) : Scorekeeper :=
  ⟨p.registry, p.sources, p.store, p.clock, p.slots sport⟩

@[simp] theorem keeper_store (p : Pool) (sport : Sport) : (p.keeper sport).store = p.store := rfl

@[simp] theorem keeper_clock (p : Pool) (sport : Sport) : (p.keeper sport).clock = p.clock := rfl

@[simp] theorem keeper_slot (p : Pool) (sport : Sport) :
    (p.keeper sport).slot = p.slots sport := rfl

theorem fetching_run {α : Type} (f : Fetch α) (p : Pool) :
    (fetching f).run p = ((f.run p.net).1, { p with net := (f.run p.net).2 }) := rfl

theorem withSlot_self (p : Pool) (sport : Sport) : p.withSlot sport (p.slots sport) = p := by
  have slots : (fun s => if s = sport then p.slots sport else p.slots s) = p.slots := by
    funext s
    by_cases same : s = sport
    · rw [if_pos same, same]
    · rw [if_neg same]
  simp only [withSlot, slots]

theorem withSlot_slots (p : Pool) (sport : Sport) (slot : RefreshSlot) (other : Sport) :
    (p.withSlot sport slot).slots other = if other = sport then slot else p.slots other := rfl

/-- Every sport's slot is one that finished refreshes and invalidations reach. -/
def SlotsReachable (p : Pool) : Prop := ∀ sport, (p.slots sport).Reachable

theorem SlotsReachable.withSlot {p : Pool} (reachable : p.SlotsReachable) {sport : Sport}
    {slot : RefreshSlot} (history : slot.Reachable) : (p.withSlot sport slot).SlotsReachable := by
  intro other
  rw [withSlot_slots]
  split
  · exact history
  · exact reachable other

/-- Serving a sport is the scorekeeper's answer, with its slot, network and store kept. -/
theorem stats_run (p : Pool) (sport : Sport) :
    (stats sport).run p =
      match ((p.keeper sport).stats sport).run p.net with
      | ((.error e, slot), net) => (.error (.stats e), { p.withSlot sport slot with net := net })
      | ((.ok (result, store), slot), net) =>
        (.ok result, { p.withSlot sport slot with net := net, store := store }) := by
  simp only [stats, keeper, StateT.run_bind, StateT.run_get, fetching_run]
  dsimp only [bind, pure]
  generalize (Scorekeeper.stats ⟨p.registry, p.sources, p.store, p.clock, p.slots sport⟩ sport).run
    p.net = served
  obtain ⟨⟨served | ⟨result, store⟩, slot⟩, net⟩ := served <;> rfl

theorem stats_run_of_noActive {p : Pool} {sport : Sport}
    (noActive : p.store.activeYear sport = none) : (stats sport).run p = (.ok none, p) := by
  rw [stats_run, Scorekeeper.stats_run_of_none (p.keeper sport) p.net
    (Store.statOf_eq_none_iff.2 noActive)]
  simp only [keeper, withSlot_self]

theorem stats_run_of_fresh {p : Pool} {sport : Sport} {row : StatRow} {t : Instant}
    {text : String} (stored : p.store.statOf sport = some row) (stamp : row.stamp = some t)
    (scores : row.scores = some text) (fresh : resetBoundary p.clock ≤ t) :
    (stats sport).run p =
      ((match decodeBoards text with
        | some boards => .ok (some ⟨sport, row.year, t, resetBoundary p.clock, boards⟩)
        | none => .error (.stats (.storage .blob))), p) := by
  have sameSport := (Store.statOf_eq_some stored).1
  rw [stats_run, Scorekeeper.stats_run_of_fresh (p.keeper sport) p.net stored
    (StatRow.freshness_of_le stamp scores fresh)]
  simp only [keeper, EtlStats.ofRow, stamp, scores, Option.bind_some, sameSport]
  cases decodeBoards text <;> simp only [Except.map, withSlot_self]

/-- The boards of a refresh, stored in the row of their season. -/
def refreshedRow (p : Pool) (sport : Sport) (year : Int) (boards : List ScoreCategory) :
    StatRow :=
  ⟨sport, year, some p.clock, some (encodeBoards boards)⟩

theorem refreshOutcome_ok {p : Pool} {sport : Sport} {row : StatRow}
    (stored : p.store.statOf sport = some row) (writable : p.store.readOnly = false)
    (boards : List ScoreCategory) :
    (p.keeper sport).refreshOutcome sport row.year (resetBoundary p.clock) (.ok boards) =
      .ok (⟨sport, row.year, p.clock, resetBoundary p.clock, boards⟩,
        { p.store with stats := p.store.upsertStat (p.refreshedRow sport row.year boards) }) := by
  have seasonStored : p.store.hasYear sport row.year = true :=
    Store.hasYear_of_activeYear (Store.statOf_eq_some stored).2
  simp only [Scorekeeper.refreshOutcome, keeper]
  rw [Store.putStat_eq_ok writable seasonStored]
  rfl

theorem refreshOutcome_readOnly {p : Pool} {sport : Sport} {year : Int}
    (readOnly : p.store.readOnly = true) (boards : List ScoreCategory) :
    (p.keeper sport).refreshOutcome sport year (resetBoundary p.clock) (.ok boards) =
      .error (.storage (.fault .readOnly)) := by
  simp only [Scorekeeper.refreshOutcome, keeper]
  rw [Store.putStat_of_readOnly readOnly]

section Stale

variable {p : Pool} {sport : Sport} {row : StatRow} (history : (p.slots sport).Reachable)
  (stored : p.store.statOf sport = some row) (stale : row.Stale (resetBoundary p.clock))
include history stored stale

/-- A stale row is scored again whatever earlier refreshes did, and the sport's slot stays one
that finished refreshes and invalidations reach. -/
theorem stats_run_of_stale {scored : Except ScoreError (List ScoreCategory)}
    (scoring : (((p.keeper sport).scoring sport row.year).run p.net).1 = scored) :
    ∃ slot : RefreshSlot, slot.Reachable ∧ (stats sport).run p =
      let net := (((p.keeper sport).scoring sport row.year).run p.net).2
      match (p.keeper sport).refreshOutcome sport row.year (resetBoundary p.clock) scored with
      | .error e => (.error (.stats e), { p.withSlot sport slot with net := net })
      | .ok (served, store) =>
        (.ok (some served), { p.withSlot sport slot with net := net, store := store }) := by
  refine ⟨_, history.finish
    ((p.keeper sport).refreshOutcome sport row.year (resetBoundary p.clock) scored), ?_⟩
  rw [stats_run, Scorekeeper.stats_run_of_stale (p.keeper sport) p.net stored
    (StatRow.freshness_of_stale stale) history.failedSince_finished]
  simp only [scoring, keeper_clock, keeper_slot]
  cases (p.keeper sport).refreshOutcome sport row.year (resetBoundary p.clock) scored <;> rfl

theorem stats_run_of_scoringFailed {e : ScoreError}
    (failed : (((p.keeper sport).scoring sport row.year).run p.net).1 = .error e) :
    ∃ slot : RefreshSlot, slot.Reachable ∧ (stats sport).run p =
      (.error (.stats (.score e)),
        { p.withSlot sport slot with net := (((p.keeper sport).scoring sport row.year).run p.net).2 }) :=
  stats_run_of_stale history stored stale failed

theorem stats_run_of_refreshed {boards : List ScoreCategory}
    (scored : (((p.keeper sport).scoring sport row.year).run p.net).1 = .ok boards)
    (writable : p.store.readOnly = false) :
    ∃ slot : RefreshSlot, slot.Reachable ∧ (stats sport).run p =
      (.ok (some ⟨sport, row.year, p.clock, resetBoundary p.clock, boards⟩),
        { p.withSlot sport slot with
          net := (((p.keeper sport).scoring sport row.year).run p.net).2
          store := { p.store with stats := p.store.upsertStat (p.refreshedRow sport row.year boards) } }) := by
  obtain ⟨slot, reachable, served⟩ := stats_run_of_stale history stored stale scored
  rw [refreshOutcome_ok stored writable] at served
  exact ⟨slot, reachable, served⟩

theorem stats_run_of_readOnly {boards : List ScoreCategory}
    (scored : (((p.keeper sport).scoring sport row.year).run p.net).1 = .ok boards)
    (readOnly : p.store.readOnly = true) :
    ∃ slot : RefreshSlot, slot.Reachable ∧ (stats sport).run p =
      (.error (.stats (.storage (.fault .readOnly))),
        { p.withSlot sport slot with net := (((p.keeper sport).scoring sport row.year).run p.net).2 }) := by
  obtain ⟨slot, reachable, served⟩ := stats_run_of_stale history stored stale scored
  rw [refreshOutcome_readOnly readOnly] at served
  exact ⟨slot, reachable, served⟩

/-- A stale row is never answered with no scores. -/
theorem stats_ne_none_of_stale : ((stats sport).run p).1 ≠ .ok none := by
  intro answered
  cases scored : (((p.keeper sport).scoring sport row.year).run p.net).1 with
  | error e =>
    obtain ⟨_, _, served⟩ := stats_run_of_scoringFailed history stored stale scored
    rw [served] at answered
    cases answered
  | ok boards =>
    cases readOnly : p.store.readOnly
    · obtain ⟨_, _, served⟩ := stats_run_of_refreshed history stored stale scored readOnly
      rw [served] at answered
      cases answered
    · obtain ⟨_, _, served⟩ := stats_run_of_readOnly history stored stale scored readOnly
      rw [served] at answered
      cases answered

end Stale

/-- Serving a sport keeps every slot reachable. -/
theorem SlotsReachable.stats {p : Pool} (reachable : p.SlotsReachable) (sport : Sport) :
    ((stats sport).run p).2.SlotsReachable := by
  have history := Scorekeeper.stats_slot_reachable (p.keeper sport) sport p.net (reachable sport)
  rw [stats_run]
  generalize ((p.keeper sport).stats sport).run p.net = served at history
  obtain ⟨⟨served | ⟨result, store⟩, slot⟩, net⟩ := served <;> exact reachable.withSlot history

/-- An invalidation keeps every slot reachable. -/
theorem SlotsReachable.invalidate {p : Pool} (reachable : p.SlotsReachable) (sport : Sport) :
    ((invalidate sport).run p).2.SlotsReachable := by
  have bumped : (p.withSlot sport (p.slots sport).bump).SlotsReachable :=
    reachable.withSlot (reachable sport).bump
  simp only [Pool.invalidate, StateT.run_bind, StateT.run_modify, StateT.run_get]
  dsimp only [bind, pure]
  cases (p.withSlot sport (p.slots sport).bump).store.clearStat sport with
  | error e => exact bumped
  | ok store => exact bumped

/-- How serving a sport's scores behaves on a pool, case by case. -/
structure ServesScores (p : Pool) (sport : Sport) : Prop where
  noSeason : p.store.activeYear sport = none → (stats sport).run p = (.ok none, p)
  onlyNoSeason : ((stats sport).run p).1 = .ok none → p.store.activeYear sport = none
  cached : ∀ row t text, p.store.statOf sport = some row → row.stamp = some t →
    row.scores = some text → resetBoundary p.clock ≤ t →
    (stats sport).run p =
      ((match decodeBoards text with
        | some boards => .ok (some ⟨sport, row.year, t, resetBoundary p.clock, boards⟩)
        | none => .error (.stats (.storage .blob))), p)
  scoringFailed : ∀ row e, p.store.statOf sport = some row → row.Stale (resetBoundary p.clock) →
    (((p.keeper sport).scoring sport row.year).run p.net).1 = .error e →
    ∃ slot : RefreshSlot, slot.Reachable ∧ (stats sport).run p =
      (.error (.stats (.score e)),
        { p.withSlot sport slot with net := (((p.keeper sport).scoring sport row.year).run p.net).2 })
  refreshed : ∀ row boards, p.store.statOf sport = some row →
    row.Stale (resetBoundary p.clock) →
    (((p.keeper sport).scoring sport row.year).run p.net).1 = .ok boards →
    p.store.readOnly = false →
    let store : Store :=
      { p.store with stats := p.store.upsertStat (p.refreshedRow sport row.year boards) }
    store.statOf sport = some (p.refreshedRow sport row.year boards) ∧
    ∃ slot : RefreshSlot, slot.Reachable ∧
      let after : Pool := { p.withSlot sport slot with
        net := (((p.keeper sport).scoring sport row.year).run p.net).2, store := store }
      (stats sport).run p =
        (.ok (some ⟨sport, row.year, p.clock, resetBoundary p.clock, boards⟩), after) ∧
      ∀ later, resetBoundary later ≤ p.clock →
        (stats sport).run { after with clock := later } =
          ((match decodeBoards (encodeBoards boards) with
            | some served => .ok (some ⟨sport, row.year, p.clock, resetBoundary later, served⟩)
            | none => .error (.stats (.storage .blob))), { after with clock := later })
  notStored : ∀ row boards, p.store.statOf sport = some row →
    row.Stale (resetBoundary p.clock) →
    (((p.keeper sport).scoring sport row.year).run p.net).1 = .ok boards →
    p.store.readOnly = true →
    ∃ slot : RefreshSlot, slot.Reachable ∧ (stats sport).run p =
      (.error (.stats (.storage (.fault .readOnly))),
        { p.withSlot sport slot with net := (((p.keeper sport).scoring sport row.year).run p.net).2 })

/-- Serving a sport's scores, on any pool whose slot for the sport earlier calls made one at a
time could have left, behaves as `ServesScores` says. -/
theorem stats_served_or_refreshed (p : Pool) (sport : Sport)
    (history : (p.slots sport).Reachable) : p.ServesScores sport where
  noSeason := stats_run_of_noActive
  onlyNoSeason := by
    intro answered
    cases served : p.store.statOf sport with
    | none => exact Store.statOf_eq_none_iff.1 served
    | some row =>
      exfalso
      rcases row.fresh_or_stale (resetBoundary p.clock) with ⟨t, text, stamp, scores, le⟩ | stale
      · rw [stats_run_of_fresh served stamp scores le] at answered
        split at answered <;> cases answered
      · exact stats_ne_none_of_stale history served stale answered
  cached _ _ _ := stats_run_of_fresh
  scoringFailed _ _ stored stale := stats_run_of_scoringFailed history stored stale
  refreshed row boards stored stale scored writable := by
    have active := (Store.statOf_eq_some stored).2
    obtain ⟨slot, reachable, served⟩ :=
      stats_run_of_refreshed history stored stale scored writable
    refine ⟨Store.statOf_upsertStat active, slot, reachable, served, ?_⟩
    -- the refreshed row is fresh for any clock whose last reset is not after the stamp
    intro later fresh
    refine @stats_run_of_fresh _ sport (p.refreshedRow sport row.year boards) p.clock
      (encodeBoards boards) ?_ rfl rfl fresh
    exact Store.statOf_upsertStat active
  notStored _ _ stored stale := stats_run_of_readOnly history stored stale

/-- A pool with stale cached scores, a slot that saw a failed refresh, and a provider that fails. -/
theorem stats_served_or_refreshed_stale :
    let failed : RefreshSlot := ({} : RefreshSlot).bump.finish
      (.error (.score (.fetch "Teams" (.httpStatus 500 "http://stats.test/standings"))) :
        Except StatsError Unit)
    let p : Pool := {
      registry := Registry.defaults
      sources := ⟨{}, CategoryKind.all⟩
      store := {
        years := [⟨.mlb, 2018, false⟩, ⟨.mlb, 2019, true⟩]
        friends := [⟨1, .mlb, 2019, 0, "Ann"⟩]
        players := [⟨1, .mlb, 2019, 1, 147, 1, 0⟩]
        stats := [⟨.mlb, 2019, some ⟨1559296800, 0⟩, some "[]"⟩]
        lastFriendId := 1
        lastPlayerId := 1 }
      net := ⟨⟨8, [], by decide⟩, .canned [("standings", .status 500)], 1⟩
      clock := ⟨1559390400, 0⟩
      slots := fun sport => if sport = .mlb then failed else {} }
    (p.slots .mlb).Reachable ∧ p.ServesScores .mlb := by
  intro failed p
  have history : failed.Reachable := RefreshSlot.Reachable.initial.bump.finish _
  exact ⟨history, stats_served_or_refreshed p .mlb history⟩

end Pool

end DraftPool
