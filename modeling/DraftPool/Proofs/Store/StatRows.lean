import DraftPool.Proofs.Pool.CachedScores
import Mathlib

/-
The cached-score rows of the store. The main statement is `Store.statRow_round_trip`.
-/

namespace DraftPool

/-- Whether a cached-score row is of a season. -/
def StatRow.isOf (sport : Sport) (year : Int) (r : StatRow) : Bool :=
  r.sport == sport && r.year == year

namespace Store

/-- The stored row is among the rows after storing it. -/
theorem mem_upsertStat_self (s : Store) (row : StatRow) : row ∈ s.upsertStat row := by
  unfold upsertStat
  split
  · rename_i present
    obtain ⟨old, stored, same⟩ := List.any_eq_true.1 present
    exact List.mem_map.2 ⟨old, stored, if_pos same⟩
  · exact List.mem_append_right _ List.mem_cons_self

/-- Storing a row leaves the rows of other seasons as they were. -/
theorem filter_upsertStat_other (s : Store) (row : StatRow) :
    (s.upsertStat row).filter (!row.sameSeason ·) = s.stats.filter (!row.sameSeason ·) := by
  have sameRow : row.sameSeason row = true := by simp [StatRow.sameSeason]
  unfold upsertStat
  split
  · refine filter_map_of_fixed (fun r => ?_) fun r _ other => ?_
    · by_cases same : row.sameSeason r = true <;> simp [same, sameRow]
    · simp only [Bool.not_eq_eq_eq_not, Bool.not_true] at other
      simp [other]
  · simp [List.filter_append, sameRow]

/-- Under the constraints, a stored row is the only row of its season. -/
theorem Valid.filter_sameSeason {t : Store} (valid : t.Valid) {row : StatRow}
    (member : row ∈ t.stats) : t.stats.filter row.sameSeason = [row] := by
  have distinct : (t.stats.filter row.sameSeason).Nodup := (valid.statKeys.of_map _).filter _
  -- every row of the season has the row's key, and keys are not repeated
  have only : ∀ r ∈ t.stats.filter row.sameSeason, r = row := by
    intro r kept
    rw [List.mem_filter] at kept
    simp only [StatRow.sameSeason, Bool.and_eq_true, beq_iff_eq] at kept
    exact List.inj_on_of_nodup_map valid.statKeys kept.1 member
      (by simp [StatRow.key, kept.2.1, kept.2.2])
  have repeated := List.eq_replicate_iff.2 ⟨rfl, only⟩
  have short : (t.stats.filter row.sameSeason).length ≤ 1 := by
    rw [repeated, List.nodup_replicate] at distinct
    simpa using distinct
  have kept : row ∈ t.stats.filter row.sameSeason :=
    List.mem_filter.2 ⟨member, by simp [StatRow.sameSeason]⟩
  have one : (t.stats.filter row.sameSeason).length = 1 := by
    have positive := List.length_pos_of_mem kept
    omega
  rw [repeated, one, List.replicate_one]

theorem upsertStat_of_any {s : Store} {row : StatRow} (present : s.stats.any row.sameSeason = true) :
    s.upsertStat row = s.stats.map fun r => if row.sameSeason r then row else r :=
  if_pos present

theorem upsertStat_of_not_any {s : Store} {row : StatRow}
    (absent : s.stats.any row.sameSeason = false) : s.upsertStat row = s.stats ++ [row] :=
  if_neg (by simp [absent])

/-- Storing a row of a season and then another row of it stores the second row alone. -/
theorem upsertStat_upsertStat (s : Store) {row row' : StatRow}
    (season : row'.sameSeason = row.sameSeason) :
    ({ s with stats := s.upsertStat row } : Store).upsertStat row' = s.upsertStat row' := by
  have hit : row'.sameSeason row = true := by
    rw [season]
    simp [StatRow.sameSeason]
  have present : (s.upsertStat row).any row'.sameSeason = true :=
    List.any_eq_true.2 ⟨row, mem_upsertStat_self s row, hit⟩
  rw [upsertStat_of_any (s := { s with stats := s.upsertStat row }) present]
  cases stored : s.stats.any row.sameSeason
  · -- the season had no row: the first row was appended, and the second replaces it
    have absent : s.stats.any row'.sameSeason = false := by rw [season, stored]
    rw [upsertStat_of_not_any stored, upsertStat_of_not_any absent, List.map_append]
    have kept : s.stats.map (fun r => if row'.sameSeason r then row' else r) = s.stats := by
      conv_rhs => rw [← List.map_id s.stats]
      refine List.map_congr_left fun r member => ?_
      have other : row'.sameSeason r = false :=
        Bool.eq_false_iff.2 (List.any_eq_false.1 absent r member)
      simp [other]
    simp only [kept, List.map_cons, List.map_nil, hit, if_true]
  · -- the season's rows were replaced by the first row, and then by the second
    have present' : s.stats.any row'.sameSeason = true := by rw [season, stored]
    rw [upsertStat_of_any stored, upsertStat_of_any present', List.map_map]
    refine List.map_congr_left fun r _ => ?_
    by_cases same : row.sameSeason r = true
    · have same' : row'.sameSeason r = true := by rw [season]; exact same
      simp only [Function.comp_apply, same, same', hit, if_true]
    · have other : row'.sameSeason r = false := by rw [season]; simpa using same
      simp only [Function.comp_apply, same, other, if_false, Bool.false_eq_true]

/-- Storing a row of a season and then another row of it is storing the second row, whether or
not the store takes writes and the season exists. -/
theorem putStat_bind_putStat (s : Store) {row row' : StatRow} (sport : row'.sport = row.sport)
    (year : row'.year = row.year) : (s.putStat row).bind (·.putStat row') = s.putStat row' := by
  have season : row'.sameSeason = row.sameSeason := by
    funext r
    simp [StatRow.sameSeason, sport, year]
  cases readOnly : s.readOnly
  · cases stored : s.hasYear row.sport row.year
    · have missing (r : StatRow) (key : r.sport = row.sport ∧ r.year = row.year) :
          s.putStat r = .error .missingYear := by
        simp [putStat, readOnly, key.1, key.2, stored]
      rw [missing row ⟨rfl, rfl⟩, missing row' ⟨sport, year⟩]
      rfl
    · have stored' : s.hasYear row'.sport row'.year = true := by rw [sport, year, stored]
      rw [putStat_eq_ok readOnly stored, putStat_eq_ok readOnly stored', Except.bind,
        putStat_eq_ok (s := { s with stats := s.upsertStat row }) readOnly stored',
        upsertStat_upsertStat s season]
  · rw [putStat_of_readOnly readOnly, putStat_of_readOnly readOnly]
    rfl

/-- Emptying a row keeps its season. -/
theorem isOf_emptied (sport : Sport) (year : Int) (r : StatRow) (sport' : Sport) (year' : Int) :
    (if r.isOf sport year then { r with stamp := none, scores := none } else r).isOf sport' year' =
      r.isOf sport' year' := by
  split <;> rfl

theorem key_emptied (sport : Sport) (year : Int) (r : StatRow) :
    (if r.isOf sport year then { r with stamp := none, scores := none } else r).key = r.key := by
  split <;> rfl

/-- Clearing a sport's cached scores empties the rows of its active season and keeps every row. -/
theorem clearStat_stats {s t : Store} {sport : Sport} {year : Int}
    (active : s.activeYear sport = some year) (cleared : s.clearStat sport = .ok t) :
    t.stats = s.stats.map (fun r => if r.isOf sport year then { r with stamp := none, scores := none }
      else r) ∧ t.years = s.years := by
  unfold clearStat at cleared
  split at cleared
  · cases cleared
  rw [active] at cleared
  cases cleared
  exact ⟨rfl, rfl⟩

/-- Clearing a sport's cached scores leaves the row read for it empty. -/
theorem statOf_clearStat {s t : Store} {sport : Sport} {year : Int}
    (active : s.activeYear sport = some year) (cleared : s.clearStat sport = .ok t) :
    t.statOf sport = some ⟨sport, year, none, none⟩ := by
  obtain ⟨rows, years⟩ := clearStat_stats active cleared
  have stillActive : t.activeYear sport = some year := by
    rw [← active]
    simp only [activeYear, years]
  -- emptying keeps each row's season, so the row found is the emptied row found before
  have keeps : (fun r : StatRow => r.sport == sport && r.year == year) ∘
      (fun r : StatRow => if r.isOf sport year then { r with stamp := none, scores := none } else r) =
      fun r => r.sport == sport && r.year == year := by
    funext r
    exact isOf_emptied sport year r sport year
  rw [statOf_of_activeYear stillActive, rows, List.find?_map, keeps]
  cases found : s.stats.find? fun r => r.sport == sport && r.year == year with
  | none => rfl
  | some r =>
    have key : r.sport = sport ∧ r.year = year := by simpa using List.find?_some found
    simp [StatRow.isOf, key.1, key.2]

/-- The cached-score row of a sport in a reachable store, as read, stored and cleared. -/
theorem statRow_round_trip {s : Store} (reachable : s.Reachable) (sport : Sport) :
    (s.activeYear sport = none → s.statOf sport = none) ∧
    ∀ year, s.activeYear sport = some year →
      ((∀ r ∈ s.stats, r.isOf sport year = false) →
        s.statOf sport = some ⟨sport, year, none, none⟩) ∧
      (∀ stamp scores, ∃ t, s.putStat ⟨sport, year, stamp, scores⟩ = .ok t ∧ t.Reachable ∧
        t.statOf sport = some ⟨sport, year, stamp, scores⟩ ∧
        t.stats.filter (·.isOf sport year) = [⟨sport, year, stamp, scores⟩] ∧
        t.stats.filter (!·.isOf sport year) = s.stats.filter (!·.isOf sport year)) ∧
      (∀ first second : StatRow, first.isOf sport year = true → second.isOf sport year = true →
        (s.putStat first).bind (·.putStat second) = s.putStat second) ∧
      ∃ t, s.clearStat sport = .ok t ∧ t.Reachable ∧
        t.statOf sport = some ⟨sport, year, none, none⟩ ∧
        t.stats.map StatRow.key = s.stats.map StatRow.key ∧
        (∀ r ∈ t.stats, r.isOf sport year = true → r.stamp = none ∧ r.scores = none) ∧
        t.stats.filter (!·.isOf sport year) = s.stats.filter (!·.isOf sport year) := by
  have writable := reachable.writable
  refine ⟨fun noActive => statOf_eq_none_iff.2 noActive, fun year active => ⟨?empty, ?put, ?twice,
    ?clear⟩⟩
  case empty =>
    intro absent
    rw [statOf_of_activeYear active, List.find?_eq_none.2 fun r member => by
      simpa [StatRow.isOf] using absent r member]
    rfl
  case put =>
    intro stamp scores
    let row : StatRow := ⟨sport, year, stamp, scores⟩
    have put : s.putStat row = .ok { s with stats := s.upsertStat row } :=
      putStat_eq_ok writable (hasYear_of_activeYear active)
    have stored : ({ s with stats := s.upsertStat row } : Store).Reachable := reachable.putStat put
    exact ⟨_, put, stored, statOf_upsertStat active,
      stored.valid.filter_sameSeason (mem_upsertStat_self s row), filter_upsertStat_other s row⟩
  case twice =>
    intro first second firstOf secondOf
    simp only [StatRow.isOf, Bool.and_eq_true, beq_iff_eq] at firstOf secondOf
    exact putStat_bind_putStat s (secondOf.1.trans firstOf.1.symm)
      (secondOf.2.trans firstOf.2.symm)
  case clear =>
    obtain ⟨t, cleared⟩ := clearStat_eq_ok writable sport
    obtain ⟨rows, -⟩ := clearStat_stats active cleared
    refine ⟨t, cleared, reachable.clearStat cleared, statOf_clearStat active cleared, ?_, ?_, ?_⟩
    · -- emptying a row keeps its key
      rw [rows, List.map_map]
      exact List.map_congr_left fun r _ => key_emptied sport year r
    · intro r member season
      rw [rows] at member
      obtain ⟨old, -, rfl⟩ := List.mem_map.1 member
      by_cases hit : old.isOf sport year = true
      · simp [hit]
      · simp [hit] at season
    · rw [rows]
      refine filter_map_of_fixed (fun r => by rw [isOf_emptied]) fun r _ other => ?_
      simp only [Bool.not_eq_eq_eq_not, Bool.not_true] at other
      simp [other]

/-- A season stored and made active from the empty store keeps a leap-second stamp and its text
through a store and a read. -/
theorem statRow_round_trip_seeded :
    ∃ t, ({ years := [⟨.mlb, 2019, true⟩] } : Store).putStat
        ⟨.mlb, 2019, some ⟨1483228799, 1500000000⟩, some "[]"⟩ = .ok t ∧
      t.statOf .mlb = some ⟨.mlb, 2019, some ⟨1483228799, 1500000000⟩, some "[]"⟩ := by
  have added : Store.empty.apply (.addYear .mlb 2019) =
      .ok (1, { years := [⟨.mlb, 2019, false⟩] }) := rfl
  have activated : ({ years := [⟨.mlb, 2019, false⟩] } : Store).apply (.setActive .mlb 2019) =
      .ok (1, { years := [⟨.mlb, 2019, true⟩] }) := rfl
  obtain ⟨t, put, -, read, -⟩ := ((statRow_round_trip ((Reachable.empty.write added).write activated)
    .mlb).2 2019 rfl).2.1 _ _
  exact ⟨t, put, read⟩

end Store

end DraftPool
