import DraftPool.Proofs.Json.ReadBack
import DraftPool.Proofs.Pool.Refresh
import DraftPool.Score.Codec

/-
Stored boards read back. The main statement is `decodeBoards_encodeBoards`.
-/

namespace DraftPool

open Json

/-- An integer a signed 64-bit field holds. -/
def Fits64 (n : Int) : Prop := Text.int64Min ≤ n ∧ n ≤ Text.int64Max

/-- An integer a signed 32-bit field holds. -/
def Fits32 (n : Int) : Prop := Text.int32Min ≤ n ∧ n ≤ Text.int32Max

/-- A player's line whose numbers fit their fields. -/
structure PlayerScore.Fits (p : PlayerScore) : Prop where
  playerId : Fits64 p.playerId
  score : Fits64 p.score
  displayOrder : Fits32 p.displayOrder
  sourceId : Fits64 p.sourceId

/-- A friend's line whose numbers, and those of its players, fit their fields. -/
structure FriendScore.Fits (f : FriendScore) : Prop where
  friendId : Fits64 f.friendId
  score : Fits64 f.score
  displayOrder : Fits32 f.displayOrder
  players : ∀ p ∈ f.playerScores, p.Fits

/-- A board whose numbers, and those of its friends, fit their fields. -/
structure ScoreCategory.Fits (c : ScoreCategory) : Prop where
  categoryId : Fits64 c.categoryId
  displayOrder : Fits32 c.displayOrder
  friends : ∀ f ∈ c.friendScores, f.Fits

theorem Fits32.fits64 {n : Int} (fits : Fits32 n) : Fits64 n := by
  simp only [Fits32, Fits64, Text.int32Min, Text.int32Max, Text.int64Min, Text.int64Max] at *
  omega

theorem readsBack_of_fits64 (depth : Nat) {n : Int} (fits : Fits64 n) : ReadsBack depth (.int n) := by
  simp only [Fits64, Text.int64Min, Text.int64Max] at fits
  exact ReadsBack.int depth (by omega) (by omega)

theorem asInt64_of_fits {n : Int} (fits : Fits64 n) : asInt64 (.int n) = some n := by
  simp [asInt64, asIntIn, Json.int, fits.1, fits.2]

theorem asInt32_of_fits {n : Int} (fits : Fits32 n) : asInt32 (.int n) = some n := by
  simp [asInt32, asIntIn, Json.int, fits.1, fits.2]

/-- A list written item by item reads back when each item does. -/
theorem asList_array_map {α : Type} {item : Json → Option α} {toJson : α → Json} (xs : List α)
    (back : ∀ x ∈ xs, item (toJson x) = some x) : asList item (.array (xs.map toJson)) = some xs := by
  induction xs with
  | nil => rfl
  | cons x xs inductionHypothesis =>
    have rest := inductionHypothesis fun y member => back y (List.mem_cons_of_mem _ member)
    simp only [asList, asArray, Option.bind_some, List.map_cons, List.mapM_cons] at rest ⊢
    simp [back x List.mem_cons_self, rest]

/-! Each line reads back as a document from its text. -/

theorem PlayerScore.readsBack (depth : Nat) {p : PlayerScore} (fits : p.Fits) :
    ReadsBack (depth + 2) p.toJson := by
  refine ReadsBack.object (by omega) ?_
  simp only [List.mem_cons, List.not_mem_nil, or_false, forall_eq_or_imp, forall_eq]
  exact ⟨readsBack_of_fits64 _ fits.playerId, ReadsBack.string _ _, readsBack_of_fits64 _ fits.score,
    readsBack_of_fits64 _ fits.displayOrder.fits64, readsBack_of_fits64 _ fits.sourceId⟩

theorem FriendScore.readsBack (depth : Nat) {f : FriendScore} (fits : f.Fits) :
    ReadsBack (depth + 4) f.toJson := by
  have players : ReadsBack (depth + 3) (.array (f.playerScores.map (·.toJson))) := by
    refine ReadsBack.array (by omega) fun item member => ?_
    obtain ⟨p, playing, rfl⟩ := List.mem_map.1 member
    exact PlayerScore.readsBack depth (fits.players p playing)
  refine ReadsBack.object (by omega) ?_
  simp only [List.mem_cons, List.not_mem_nil, or_false, forall_eq_or_imp, forall_eq]
  exact ⟨readsBack_of_fits64 _ fits.friendId, ReadsBack.string _ _, ReadsBack.string _ _,
    readsBack_of_fits64 _ fits.score, readsBack_of_fits64 _ fits.displayOrder.fits64, players⟩

theorem ScoreCategory.readsBack (depth : Nat) {c : ScoreCategory} (fits : c.Fits) :
    ReadsBack (depth + 6) c.toJson := by
  have friends : ReadsBack (depth + 5) (.array (c.friendScores.map (·.toJson))) := by
    refine ReadsBack.array (by omega) fun item member => ?_
    obtain ⟨f, listed, rfl⟩ := List.mem_map.1 member
    exact FriendScore.readsBack depth (fits.friends f listed)
  refine ReadsBack.object (by omega) ?_
  simp only [List.mem_cons, List.not_mem_nil, or_false, forall_eq_or_imp, forall_eq]
  exact ⟨readsBack_of_fits64 _ fits.categoryId, ReadsBack.string _ _, ReadsBack.string _ _,
    readsBack_of_fits64 _ fits.displayOrder.fits64, friends⟩

/-! Each document's fields read back as the line's. -/

theorem PlayerScore.ofJson?_toJson {p : PlayerScore} (fits : p.Fits) : ofJson? p.toJson = some p := by
  simp [ofJson?, toJson, recordFields, required, asString, asInt64_of_fits fits.playerId,
    asInt64_of_fits fits.score, asInt32_of_fits fits.displayOrder, asInt64_of_fits fits.sourceId]

theorem FriendScore.ofJson?_toJson {f : FriendScore} (fits : f.Fits) : ofJson? f.toJson = some f := by
  have players := asList_array_map f.playerScores fun p playing =>
    PlayerScore.ofJson?_toJson (fits.players p playing)
  simp [ofJson?, toJson, recordFields, required, asString, asInt64_of_fits fits.friendId,
    asInt64_of_fits fits.score, asInt32_of_fits fits.displayOrder, players]

theorem ScoreCategory.ofJson?_toJson {c : ScoreCategory} (fits : c.Fits) :
    ofJson? c.toJson = some c := by
  have friends := asList_array_map c.friendScores fun f listed =>
    FriendScore.ofJson?_toJson (fits.friends f listed)
  simp [ofJson?, toJson, recordFields, required, asString, asInt64_of_fits fits.categoryId,
    asInt32_of_fits fits.displayOrder, friends]

/-! Stored text. -/

theorem readBoards_encodeBoards {boards : List ScoreCategory} (fits : ∀ board ∈ boards, board.Fits) :
    decodeBoards (encodeBoards boards) = some boards := by
  -- the list is an array of boards, one level above them, within the reader's budget
  have back : ReadsBack (127 + 1) (.array (boards.map (·.toJson))) := by
    refine ReadsBack.array (by omega) fun item member => ?_
    obtain ⟨board, listed, rfl⟩ := List.mem_map.1 member
    exact ScoreCategory.readsBack 121 (fits board listed)
  rw [decodeBoards, encodeBoards, readSkimming_render back]
  exact asList_array_map boards fun board listed => ScoreCategory.ofJson?_toJson (fits board listed)

namespace Pool

/-- A refresh leaves its row as the one served for the sport. -/
theorem statOf_after_refresh {p : Pool} {sport : Sport} {row : StatRow}
    (stored : p.store.statOf sport = some row) (boards : List ScoreCategory) :
    ({ p.store with stats := p.store.upsertStat (p.refreshedRow sport row.year boards) } : Store).statOf
      sport = some (p.refreshedRow sport row.year boards) :=
  Store.statOf_upsertStat (Store.statOf_eq_some stored).2

end Pool

/-- Boards stored as text read back as themselves. -/
theorem decodeBoards_encodeBoards (boards : List ScoreCategory)
    (fits : ∀ board ∈ boards, board.Fits) :
    decodeBoards (encodeBoards boards) = some boards ∧
    ∀ (p : Pool) (sport : Sport) (row : StatRow), (p.slots sport).Reachable →
      p.store.statOf sport = some row → row.Stale (resetBoundary p.clock) →
      (((p.keeper sport).scoring sport row.year).run p.net).1 = .ok boards →
      p.store.readOnly = false →
      ((Pool.stats sport).run p).1 =
          .ok (some ⟨sport, row.year, p.clock, resetBoundary p.clock, boards⟩) ∧
        ∀ q : Pool, q.store = ((Pool.stats sport).run p).2.store →
          resetBoundary q.clock ≤ p.clock →
          (Pool.stats sport).run q =
            (.ok (some ⟨sport, row.year, p.clock, resetBoundary q.clock, boards⟩), q) := by
  have decoded := readBoards_encodeBoards fits
  refine ⟨decoded, fun p sport row history stored stale scored writable => ?_⟩
  obtain ⟨slot, -, served⟩ := Pool.stats_run_of_refreshed history stored stale scored writable
  rw [served]
  refine ⟨rfl, fun q sameStore fresh => ?_⟩
  -- the row served now is the one the refresh stored, stamped with the refresh's clock
  have again : q.store.statOf sport = some (p.refreshedRow sport row.year boards) := by
    rw [sameStore]
    exact Pool.statOf_after_refresh stored boards
  simp only [Pool.stats_run_of_fresh again rfl rfl fresh, decoded, Pool.refreshedRow]

/-- A board with a quote, a backslash, a line break, a control character and letters beyond
ASCII in its texts, and numbers at both ends of their ranges, reads back. -/
theorem decodeBoards_encodeBoards_extremes :
    decodeBoards (encodeBoards [⟨-9223372036854775808, "say \"hi\"\n", "a\\b\x01", 2147483647,
      [⟨9223372036854775807, "Zoë", "", -1, -2147483648,
        [⟨0, "Ω\t", 9223372036854775807, 0, -9223372036854775808⟩]⟩]⟩]) =
      some [⟨-9223372036854775808, "say \"hi\"\n", "a\\b\x01", 2147483647,
        [⟨9223372036854775807, "Zoë", "", -1, -2147483648,
          [⟨0, "Ω\t", 9223372036854775807, 0, -9223372036854775808⟩]⟩]⟩] :=
  (decodeBoards_encodeBoards _ (by
    simp only [List.mem_singleton, forall_eq]
    exact ⟨⟨by decide, by decide⟩, ⟨by decide, by decide⟩, by
      simp only [List.mem_singleton, forall_eq]
      exact ⟨⟨by decide, by decide⟩, ⟨by decide, by decide⟩, ⟨by decide, by decide⟩, by
        simp only [List.mem_singleton, forall_eq]
        exact ⟨⟨by decide, by decide⟩, ⟨by decide, by decide⟩, ⟨by decide, by decide⟩,
          ⟨by decide, by decide⟩⟩⟩⟩)).1

end DraftPool
