import DraftPool.Proofs.Provider.Schedule
import DraftPool.Proofs.Number.Wrapping
import Mathlib

/-
Scoring football players from a game. The main statement is `playerScores_requested_only`.
-/

namespace DraftPool

namespace Nfl

open Json

section Wrapping

/-- The touchdowns are the true sum of the stats found, wrapped into the 64-bit range. -/
theorem touchdowns_eq_bmod (kind : CategoryKind) (stats : List (String × Int)) :
    touchdowns kind stats =
      ((touchdownKeys kind).filterMap fun k => mapGet? k stats).sum.bmod 18446744073709551616 := by
  unfold touchdowns
  exact sumWrapping_eq_bmod _

/-- The touchdowns are the stats found summed in 64-bit arithmetic: the true sum wrapped into the
64-bit range, which is the true sum exactly when the true sum fits. -/
theorem touchdowns_wraps (kind : CategoryKind) (stats : List (String × Int)) :
    let found := (touchdownKeys kind).filterMap fun k => mapGet? k stats
    touchdowns kind stats = found.sum.bmod 18446744073709551616 ∧
      (touchdowns kind stats = found.sum ↔ Text.int64Min ≤ found.sum ∧ found.sum ≤ Text.int64Max) := by
  intro found
  rw [touchdowns_eq_bmod]
  exact ⟨rfl, bmod_eq_self_iff⟩

/-- A quarterback whose passing touchdowns read as the greatest 64-bit integer, with one rushing
touchdown, scores the least 64-bit integer. -/
theorem touchdowns_overflow :
    statValue (.string "9223372036854775807") = .ok Text.int64Max ∧
      statValue (.string "1") = .ok 1 ∧
      touchdowns .nflQb [("15", 1), ("6", Text.int64Max)] = Text.int64Min :=
  ⟨rfl, rfl, by decide⟩

end Wrapping

section Seasons

/-- A stat value is a string that reads, once trimmed, as a 64-bit integer, or an integer number
in the 64-bit range. -/
theorem statValue_eq_ok_iff {value : Json} {n : Int} :
    statValue value = .ok n ↔
      (∃ s, value = .string s ∧ Text.readInt64 (Text.trim s) = .ok n) ∨
        (value = .number (.int n) ∧ Text.int64Min ≤ n ∧ n ≤ Text.int64Max) := by
  cases value with
  | string s =>
    rw [statValue]
    cases read : Text.readInt64 (Text.trim s) <;> simp [read]
  | number number =>
    cases number with
    | int m =>
      rw [statValue]
      split
      · next fits =>
        simp only [Except.ok.injEq]
        constructor
        · rintro rfl
          exact .inr ⟨rfl, fits⟩
        · rintro (⟨s, wrong, -⟩ | ⟨same, -⟩)
          · cases wrong
          · cases same
            rfl
      · next unfit =>
        simp only [reduceCtorEq, false_iff]
        rintro (⟨s, wrong, -⟩ | ⟨same, fits⟩)
        · cases wrong
        · cases same
          exact unfit fits
    | float bits => simp [statValue]
  | _ => simp [statValue]

/-- A season's stats: each member's value read as a stat, under the member's key. -/
def StatsOf (season : List (String × Json)) (stats : List (String × Int)) : Prop :=
  List.Forall₂ (fun member stat => stat.1 = member.1 ∧ statValue member.2 = .ok stat.2) season stats

theorem season_mapM_eq_ok_iff {season : List (String × Json)} {stats : List (String × Int)} :
    season.mapM (fun (k, v) => (statValue v).map fun n => (k, n)) = .ok stats ↔
      StatsOf season stats := by
  rw [mapM_eq_ok_iff]
  have each (member : String × Json) (stat : String × Int) :
      ((statValue member.2).map fun n => (member.1, n)) = .ok stat ↔
        stat.1 = member.1 ∧ statValue member.2 = .ok stat.2 := by
    rw [except_map_eq_ok_iff]
    constructor
    · rintro ⟨n, read, rfl⟩
      exact ⟨rfl, read⟩
    · rintro ⟨sameKey, read⟩
      exact ⟨stat.2, read, by rw [← sameKey]⟩
  exact forall₂_iff_of_iff each

/-- Members sorted by key are in key order. -/
theorem sortMembers_sorted (members : List (String × Json)) :
    (sortMembers members).Pairwise fun a b => a.1 ≤ b.1 := by
  unfold sortMembers
  have sorted : (members.mergeSort fun a b => decide (a.1 ≤ b.1)).Pairwise
      fun a b => decide (a.1 ≤ b.1) = true :=
    List.pairwise_mergeSort
      (fun _ _ _ first second => by
        simp only [decide_eq_true_eq] at first second ⊢
        exact le_trans first second)
      (fun a b => by simpa using le_total a.1 b.1) members
  exact sorted.imp fun related => of_decide_eq_true related

/-- A map view's members come in key order, each key once. -/
theorem keys_of_normalize_eq_object {j : Json} {members : List (String × Json)}
    (normal : j.normalize = .object members) :
    (members.map (·.1)).Nodup ∧ members.Pairwise fun a b => a.1 ≤ b.1 := by
  cases j with
  | object raw =>
    rw [Json.normalize] at normal
    cases normal
    exact ⟨((List.mergeSort_perm _ _).map _).nodup_iff.2 (nodup_keys_lastOfEachKeyBy _),
      sortMembers_sorted _⟩
  | array items => simp [Json.normalize] at normal
  | _ => simp [Json.normalize] at normal

/-- The last of members in key order has the greatest key. -/
theorem greatest_of_getLast? {members : List (String × Json)}
    (sorted : members.Pairwise fun a b => a.1 ≤ b.1) {last : String × Json}
    (isLast : members.getLast? = some last) :
    last ∈ members ∧ ∀ other ∈ members, other.1 ≤ last.1 := by
  obtain ⟨before, rfl⟩ := List.getLast?_eq_some_iff.1 isLast
  rw [List.pairwise_append] at sorted
  refine ⟨List.mem_append_right _ (List.mem_singleton_self _), fun other listed => ?_⟩
  rcases List.mem_append.1 listed with earlier | itself
  · exact sorted.2.2 other earlier last (List.mem_singleton_self _)
  · exact (List.mem_singleton.1 itself) ▸ le_rfl

/-- In key order with each key once, the last member is the one whose key is greatest. -/
theorem getLast?_eq_some_iff_greatest {members : List (String × Json)}
    (distinct : (members.map (·.1)).Nodup) (sorted : members.Pairwise fun a b => a.1 ≤ b.1)
    {member : String × Json} :
    members.getLast? = some member ↔ member ∈ members ∧ ∀ other ∈ members, other.1 ≤ member.1 := by
  refine ⟨greatest_of_getLast? sorted, fun ⟨listed, greatest⟩ => ?_⟩
  -- the last member's key and the member's bound each other, and one key is one member
  obtain ⟨last, isLast⟩ := Option.ne_none_iff_exists'.1 fun none =>
    List.ne_nil_of_mem listed (List.getLast?_eq_none_iff.1 none)
  obtain ⟨lastListed, lastGreatest⟩ := greatest_of_getLast? sorted isLast
  have sameKey : last.1 = member.1 :=
    le_antisymm (greatest last lastListed) (lastGreatest member listed)
  rw [isLast, List.inj_on_of_nodup_map distinct lastListed listed sameKey]

/-- The season whose stats count: the year's season when the seasons list it, and otherwise the
season with the greatest key. -/
def ChosenSeason (year : Int) (seasons : List (String × Json)) (season : Json) : Prop :=
  mapGet? (toString year) seasons = some season ∨
    mapGet? (toString year) seasons = none ∧
      ∃ key, (key, season) ∈ seasons ∧ ∀ member ∈ seasons, member.1 ≤ key

theorem or_getLast?_eq_some_iff {year : Int} {seasons : List (String × Json)}
    (distinct : (seasons.map (·.1)).Nodup) (sorted : seasons.Pairwise fun a b => a.1 ≤ b.1)
    {season : Json} :
    (mapGet? (toString year) seasons).or (seasons.getLast?.map (·.2)) = some season ↔
      ChosenSeason year seasons season := by
  unfold ChosenSeason
  cases yearly : mapGet? (toString year) seasons with
  | some v => simp
  | none =>
    simp only [Option.none_or, reduceCtorEq, false_or, true_and, Option.map_eq_some_iff]
    constructor
    · rintro ⟨⟨key, v⟩, last, rfl⟩
      exact ⟨key, (getLast?_eq_some_iff_greatest distinct sorted).1 last⟩
    · rintro ⟨key, greatest⟩
      exact ⟨(key, season), (getLast?_eq_some_iff_greatest distinct sorted).2 greatest, rfl⟩

/-- A player's season stats are read from the player's seasons, a map: the chosen season must be
an object, and each of its values must read as a stat. -/
theorem seasonStats_eq_ok_iff {p : GamePlayer} {year : Int} {stats : List (String × Int)} :
    p.seasonStats year = .ok stats ↔
      ∃ seasons season, (mapGet? "season" p.stats).map Json.normalize = some (.object seasons) ∧
        ChosenSeason year seasons (.object season) ∧ StatsOf season stats := by
  unfold GamePlayer.seasonStats
  cases listed : (mapGet? "season" p.stats).map Json.normalize with
  | none => simp
  | some view =>
    cases view with
    | object seasons =>
      obtain ⟨raw, -, normal⟩ := Option.map_eq_some_iff.1 listed
      obtain ⟨distinct, sorted⟩ := keys_of_normalize_eq_object normal
      have pick (season : Json) : ChosenSeason year seasons season ↔
          (mapGet? (toString year) seasons).or (seasons.getLast?.map (·.2)) = some season :=
        (or_getLast?_eq_some_iff distinct sorted).symm
      simp only [Option.some.injEq, Json.object.injEq, exists_and_left, exists_eq_left', pick]
      cases chosen : (mapGet? (toString year) seasons).or (seasons.getLast?.map (·.2)) with
      | none => simp
      | some v =>
        cases v with
        | object season => simp [season_mapM_eq_ok_iff]
        | _ => simp
    | _ => simp

end Seasons

section Lines

variable {α β : Type}

/-- Members paired with optional results, where a member has a result exactly when it passes
`keep`: the members kept pair with the results present. -/
theorem forall₂_filter_reduceOption {R : α → Option β → Prop} {keep : α → Bool} {l : List α}
    {outs : List (Option β)} (paired : List.Forall₂ R l outs)
    (present : ∀ a o, R a o → (o.isSome ↔ keep a = true)) :
    List.Forall₂ (fun a b => R a (some b)) (l.filter keep) outs.reduceOption := by
  induction paired with
  | nil => exact .nil
  | @cons a o _ _ related _ inductionHypothesis =>
    cases o with
    | none =>
      have dropped : keep a = false := by simpa using present a none related
      rw [List.filter_cons_of_neg (by simp [dropped]), List.reduceOption_cons_of_none]
      exact inductionHypothesis
    | some b =>
      have kept : keep a = true := (present a (some b) related).1 rfl
      rw [List.filter_cons_of_pos kept, List.reduceOption_cons_of_some]
      exact .cons related inductionHypothesis

end Lines

section Players

variable {kind : CategoryKind} {year : Int} {ids : List Int}

/-- Whether a player's id reads as one of the requested ids. -/
def GamePlayer.isRequested (ids : List Int) (p : GamePlayer) : Bool :=
  match readSourceId p.playerId with
  | .ok id => ids.contains id
  | .error _ => false

/-- A player's line: the player's id reads; a player not requested adds nothing, and a requested
one its id with its name and the touchdowns of its season stats. -/
theorem playerLine_eq_ok_iff {p : GamePlayer} {line : Option (Int × NameScore)} :
    playerLine kind year ids p = .ok line ↔
      ∃ id, readSourceId p.playerId = .ok id ∧
        (id ∉ ids ∧ line = none ∨
          id ∈ ids ∧ ∃ stats, p.seasonStats year = .ok stats ∧
            line = some (id, ⟨p.name, touchdowns kind stats⟩)) := by
  unfold playerLine
  cases read : readSourceId p.playerId with
  | error e => simp [bind, Except.bind]
  | ok id =>
    by_cases wanted : id ∈ ids
    · cases stats : p.seasonStats year with
      | error e => simp [bind, Except.bind, wanted]
      | ok stats => simp [bind, Except.bind, pure, Except.pure, wanted, eq_comm]
    · simp [bind, Except.bind, pure, Except.pure, wanted, eq_comm]

/-- A player has a line exactly when the player is requested. -/
theorem isSome_of_playerLine {p : GamePlayer} {line : Option (Int × NameScore)}
    (lined : playerLine kind year ids p = .ok line) : line.isSome ↔ p.isRequested ids = true := by
  obtain ⟨id, read, outcome⟩ := playerLine_eq_ok_iff.1 lined
  unfold GamePlayer.isRequested
  rw [read]
  rcases outcome with ⟨unwanted, rfl⟩ | ⟨wanted, _, _, rfl⟩
  · simp [unwanted]
  · simp [wanted]

theorem exists_playerLine_eq_ok_iff {p : GamePlayer} :
    (∃ line, playerLine kind year ids p = .ok line) ↔
      (∃ id, readSourceId p.playerId = .ok id) ∧
        (p.isRequested ids = true → ∃ stats, p.seasonStats year = .ok stats) := by
  constructor
  · rintro ⟨line, lined⟩
    obtain ⟨id, read, outcome⟩ := playerLine_eq_ok_iff.1 lined
    refine ⟨⟨id, read⟩, fun requested => ?_⟩
    rcases outcome with ⟨unwanted, -⟩ | ⟨-, stats, statsOk, -⟩
    · simp [GamePlayer.isRequested, read, unwanted] at requested
    · exact ⟨stats, statsOk⟩
  · rintro ⟨⟨id, read⟩, statsOf⟩
    by_cases wanted : id ∈ ids
    · obtain ⟨stats, statsOk⟩ := statsOf (by simp [GamePlayer.isRequested, read, wanted])
      exact ⟨_, playerLine_eq_ok_iff.2 ⟨id, read, .inr ⟨wanted, stats, statsOk, rfl⟩⟩⟩
    · exact ⟨none, playerLine_eq_ok_iff.2 ⟨id, read, .inl ⟨wanted, rfl⟩⟩⟩

theorem gameScores_eq_ok_iff {players : List GamePlayer} {lines : List (Int × NameScore)} :
    gameScores kind year ids players = .ok lines ↔
      ∃ outs, List.Forall₂ (fun p line => playerLine kind year ids p = .ok line) players outs ∧
        lines = outs.reduceOption := by
  unfold gameScores
  rw [except_map_eq_ok_iff]
  simp only [mapM_eq_ok_iff]

theorem gameScores_cons {p : GamePlayer} {rest : List GamePlayer} :
    gameScores kind year ids (p :: rest) =
      (playerLine kind year ids p).bind fun line =>
        (gameScores kind year ids rest).map (line.toList ++ ·) := by
  unfold gameScores
  rw [List.mapM_cons]
  cases playerLine kind year ids p with
  | error e => rfl
  | ok line =>
    cases rest.mapM (playerLine kind year ids) with
    | error e => rfl
    | ok outs => cases line <;> rfl

/-- Scoring succeeds exactly when every player's id reads, requested or not, and every requested
player's season stats read. -/
theorem exists_gameScores_eq_ok_iff {players : List GamePlayer} :
    (∃ lines, gameScores kind year ids players = .ok lines) ↔
      (∀ p ∈ players, ∃ id, readSourceId p.playerId = .ok id) ∧
        ∀ p ∈ players, p.isRequested ids = true → ∃ stats, p.seasonStats year = .ok stats := by
  have traversed : (∃ lines, gameScores kind year ids players = .ok lines) ↔
      ∃ outs, players.mapM (playerLine kind year ids) = .ok outs := by
    unfold gameScores
    cases players.mapM (playerLine kind year ids) <;> simp [Except.map]
  rw [traversed, exists_mapM_eq_ok_iff]
  simp only [exists_playerLine_eq_ok_iff, imp_and, forall_and]

/-- With every id readable, the scores are those of the requested players alone. -/
theorem gameScores_filter_isRequested {players : List GamePlayer}
    (readable : ∀ p ∈ players, ∃ id, readSourceId p.playerId = .ok id) :
    gameScores kind year ids players =
      gameScores kind year ids (players.filter (·.isRequested ids)) := by
  induction players with
  | nil => rfl
  | cons p rest inductionHypothesis =>
    obtain ⟨id, read⟩ := readable p List.mem_cons_self
    have restFiltered := inductionHypothesis fun q member => readable q (List.mem_cons_of_mem _ member)
    rw [gameScores_cons, List.filter_cons, restFiltered]
    by_cases wanted : id ∈ ids
    · have requested : p.isRequested ids = true := by simp [GamePlayer.isRequested, read, wanted]
      rw [if_pos requested, gameScores_cons]
    · -- a player not requested adds no line
      have unrequested : p.isRequested ids = false := by
        simp [GamePlayer.isRequested, read, wanted]
      have nothing : playerLine kind year ids p = .ok none :=
        playerLine_eq_ok_iff.2 ⟨id, read, .inl ⟨wanted, rfl⟩⟩
      rw [if_neg (by simp [unrequested]), nothing]
      cases gameScores kind year ids (rest.filter (·.isRequested ids)) <;> rfl

/-- A line of scores for a requested player: the player's id, with the player's name and the
touchdowns of the player's season stats. -/
def ScoreLine (kind : CategoryKind) (year : Int) (p : GamePlayer) (line : Int × NameScore) : Prop :=
  Text.readInt64 (Text.trim p.playerId) = .ok line.1 ∧ line.2.name = p.name ∧
    ∃ stats, p.seasonStats year = .ok stats ∧ line.2.score = touchdowns kind stats

/-- The scores list each requested player, in the order visited. -/
theorem forall₂_scoreLine_of_gameScores {players : List GamePlayer}
    {lines : List (Int × NameScore)} (scored : gameScores kind year ids players = .ok lines) :
    List.Forall₂ (ScoreLine kind year) (players.filter (·.isRequested ids)) lines := by
  obtain ⟨outs, paired, rfl⟩ := gameScores_eq_ok_iff.1 scored
  refine (forall₂_filter_reduceOption paired fun _ _ lined => isSome_of_playerLine lined).imp ?_
  intro p line lined
  obtain ⟨id, read, outcome⟩ := playerLine_eq_ok_iff.1 lined
  rcases outcome with ⟨-, nothing⟩ | ⟨-, stats, statsOk, same⟩
  · cases nothing
  · cases same
    exact ⟨readSourceId_eq_ok_iff.1 read, rfl, stats, statsOk, rfl⟩

/-- Two orders of a game's players give the same lines in two orders. -/
theorem gameScores_perm {players visit : List GamePlayer} (perm : visit.Perm players)
    {lines lines' : List (Int × NameScore)} (scored : gameScores kind year ids visit = .ok lines)
    (scored' : gameScores kind year ids players = .ok lines') : lines.Perm lines' := by
  obtain ⟨outs, outsOk, rfl⟩ := except_map_eq_ok_iff.1 scored
  obtain ⟨outs', outsOk', rfl⟩ := except_map_eq_ok_iff.1 scored'
  -- a player's line is the player's own, so the lines come in the players' order
  exact (perm_mapM_eq_ok perm outsOk outsOk').filterMap id

/-- Scoring players scores the game players a fetched body decodes to. -/
theorem playerScores_of_body {c : Client} {net : Net} {url body : String}
    {players : List GamePlayer}
    (built : c.url "batchservices" [("services", services year ids)] = .ok url)
    (fetched : ((fetchBody url).run net).1 = .ok body)
    (decoded : Mlb.readBody url (readGames c.order) body = .ok players) :
    ((playerScores c kind year ids).run net).1 = gameScores kind year ids players := by
  unfold playerScores
  simp only [built, StateT.run_bind]
  dsimp only [bind]
  rw [fetchJson_run_of_body fetched decoded]
  rfl

end Players

/-- Scoring players from a game: every id is read, and the requested players alone are scored. -/
theorem playerScores_requested_only (c : Client) (kind : CategoryKind) (year : Int)
    (ids : List Int) (net : Net) (url body : String) (players : List GamePlayer) :
    (c.url "batchservices" [("services", services year ids)] = .ok url →
      ((fetchBody url).run net).1 = .ok body → Mlb.readBody url (readGames c.order) body = .ok players →
      ((playerScores c kind year ids).run net).1 = gameScores kind year ids players) ∧
    ((∃ lines, gameScores kind year ids players = .ok lines) ↔
      (∀ p ∈ players, ∃ id, Text.readInt64 (Text.trim p.playerId) = .ok id) ∧
        ∀ p ∈ players, p.isRequested ids = true → ∃ stats, p.seasonStats year = .ok stats) ∧
    ((∀ p ∈ players, ∃ id, Text.readInt64 (Text.trim p.playerId) = .ok id) →
      gameScores kind year ids players =
        gameScores kind year ids (players.filter (·.isRequested ids))) ∧
    (∀ lines, gameScores kind year ids players = .ok lines →
      List.Forall₂ (ScoreLine kind year) (players.filter (·.isRequested ids)) lines) ∧
    (∀ visit : List GamePlayer, visit.Perm players →
      ((∃ lines, gameScores kind year ids visit = .ok lines) ↔
        ∃ lines, gameScores kind year ids players = .ok lines) ∧
      ∀ lines lines', gameScores kind year ids visit = .ok lines →
        gameScores kind year ids players = .ok lines' → (lines'.map (·.1)).Nodup →
          ∀ id, lookupLast id lines = lookupLast id lines') ∧
    (∀ (p : GamePlayer) stats, p.seasonStats year = .ok stats ↔
      ∃ seasons season, (mapGet? "season" p.stats).map Json.normalize = some (.object seasons) ∧
        ChosenSeason year seasons (.object season) ∧ StatsOf season stats) ∧
    (∀ value n, statValue value = .ok n ↔
      (∃ s, value = .string s ∧ Text.readInt64 (Text.trim s) = .ok n) ∨
        (value = .number (.int n) ∧ Text.int64Min ≤ n ∧ n ≤ Text.int64Max)) ∧
    ∀ stats, let found := (touchdownKeys kind).filterMap fun k => mapGet? k stats
      Text.int64Min ≤ found.sum ∧ found.sum ≤ Text.int64Max → touchdowns kind stats = found.sum := by
  refine ⟨fun built fetched decoded => playerScores_of_body built fetched decoded, ?_, ?_,
    fun _ scored => forall₂_scoreLine_of_gameScores scored, fun visit perm => ⟨?_, ?_⟩,
    fun _ _ => seasonStats_eq_ok_iff, fun _ _ => statValue_eq_ok_iff, fun stats fits => ?_⟩
  · rw [exists_gameScores_eq_ok_iff]
    simp only [readSourceId_eq_ok_iff]
  · intro readable
    exact gameScores_filter_isRequested fun p member =>
      (readable p member).imp fun _ read => readSourceId_eq_ok_iff.2 read
  · rw [exists_gameScores_eq_ok_iff, exists_gameScores_eq_ok_iff]
    simp only [perm.mem_iff]
  · intro lines lines' scored scored' distinct id
    have reordered := gameScores_perm perm scored scored'
    exact lookupLast_eq_of_perm reordered ((reordered.map _).nodup_iff.2 distinct) id
  · -- a sum that fits is not wrapped
    rw [touchdowns_eq_bmod]
    exact bmod_eq_self_iff.2 fits

set_option maxRecDepth 20000 in
/-- A player who is not requested, but whose id does not read, fails the scoring of a game in
which the requested players alone score. -/
theorem gameScores_unrequested_unreadable :
    gameScores .nflQb 2019 [5] [⟨"seven", "Other", "QB", "", []⟩] =
        .error (.payload "invalid NFL source id \"seven\"") ∧
      gameScores .nflQb 2019 [5] ([⟨"seven", "Other", "QB", "", []⟩].filter (·.isRequested [5])) =
        .ok [] :=
  ⟨rfl, rfl⟩

end Nfl

end DraftPool
