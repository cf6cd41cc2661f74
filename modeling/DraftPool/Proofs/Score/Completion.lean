import DraftPool.Proofs.Fetch.Coherence
import DraftPool.Proofs.Store.Valid

/-
Scoring does not depend on the order in which its concurrent tasks complete. The main statement
is `scoreCategoriesBy_any_completion`.
-/

namespace DraftPool

section Join

variable {ε α β : Type}

/-- Running over a list stops at the first failure, or gives every result. -/
theorem mapM_eq_ok_iff {l : List β} {f : β → Except ε α} {values : List α} :
    l.mapM f = .ok values ↔ List.Forall₂ (fun b v => f b = .ok v) l values := by
  induction l generalizing values with
  | nil =>
    cases values <;> simp [pure, Except.pure]
  | cons b rest inductionHypothesis =>
    rw [List.mapM_cons]
    cases values with
    | nil =>
      simp only [List.forall₂_nil_right_iff, reduceCtorEq, iff_false]
      cases f b <;> cases rest.mapM f <;> simp [bind, Except.bind, pure, Except.pure]
    | cons v vs =>
      rw [List.forall₂_cons, ← inductionHypothesis]
      cases f b <;> cases rest.mapM f <;> simp [bind, Except.bind, pure, Except.pure]

theorem mapM_eq_ok_map {l : List β} {f : β → Except ε α} {g : β → α}
    (each : ∀ b ∈ l, f b = .ok (g b)) : l.mapM f = .ok (l.map g) := by
  rw [mapM_eq_ok_iff, List.forall₂_map_right_iff, List.forall₂_same]
  exact each

/-- Results collected from members that each give `g` of themselves are the map of `g`. -/
theorem eq_map_of_mapM_eq_ok {l : List β} {f : β → Except ε α} {g : β → α} {values : List α}
    (all : l.mapM f = .ok values) (each : ∀ b ∈ l, f b = .ok (g b)) : values = l.map g := by
  rw [mapM_eq_ok_map each] at all
  exact (Except.ok.inj all).symm

theorem ok_of_mapM_eq_ok {l : List β} {f : β → Except ε α} {values : List α}
    (all : l.mapM f = .ok values) {b : β} (member : b ∈ l) : ∃ v, f b = .ok v := by
  -- the results pair off with the list, one for each member
  have paired := mapM_eq_ok_iff.1 all
  clear all
  induction paired with
  | nil => cases member
  | cons first _ inductionHypothesis =>
    rcases List.mem_cons.1 member with rfl | later
    · exact ⟨_, first⟩
    · exact inductionHypothesis later

theorem exists_of_mapM_eq_error {l : List β} {f : β → Except ε α} {e : ε}
    (failed : l.mapM f = .error e) : ∃ b ∈ l, f b = .error e := by
  induction l with
  | nil => cases failed
  | cons b rest inductionHypothesis =>
    rw [List.mapM_cons] at failed
    cases first : f b with
    | error e' =>
      rw [first] at failed
      cases failed
      exact ⟨b, List.mem_cons_self, first⟩
    | ok v =>
      rw [first] at failed
      cases others : rest.mapM f with
      | error e' =>
        rw [others] at failed
        cases failed
        obtain ⟨c, member, failing⟩ := inductionHypothesis others
        exact ⟨c, List.mem_cons_of_mem _ member, failing⟩
      | ok vs =>
        rw [others] at failed
        cases failed

end Join

/-- One step of collecting tasks: the first task to complete runs on the network, and a failure
ends the collection there. -/
theorem joinOrAbort_cons_run {α : Type} (task : Fetch (Except ScoreError α))
    (rest : List (Fetch (Except ScoreError α))) (net : Net) :
    ((joinOrAbort (task :: rest)).run net).1 =
      match (task.run net).1 with
      | .error e => .error e
      | .ok a => (((joinOrAbort rest).run (task.run net).2).1).map (a :: ·) := by
  rw [joinOrAbort, StateT.run_bind]
  rcases task.run net with ⟨first, after⟩
  cases first with
  | error e => rfl
  | ok a =>
    show ((joinOrAbort rest >>= _).run after).1 = _
    rw [StateT.run_bind]
    rcases (joinOrAbort rest).run after with ⟨others, last⟩
    cases others <;> rfl

/-- On a coherent network, tasks that settle are collected as their results on any coherent
network with the same responder, in the order they complete. -/
theorem joinOrAbort_run {α : Type} {tasks : List (Fetch (Except ScoreError α))}
    (settle : ∀ task ∈ tasks, Settles task) {net base : Net} (coherent : net.Coherent)
    (coherentBase : base.Coherent) (sameResponder : net.responder = base.responder) :
    ((joinOrAbort tasks).run net).1 = tasks.mapM fun task => (task.run base).1 := by
  -- each task runs on the network the tasks before it left, coherent with the same responder
  induction tasks generalizing net with
  | nil => rfl
  | cons task rest inductionHypothesis =>
    obtain ⟨sameResult, coherentAfter, responderAfter⟩ :=
      settle task List.mem_cons_self net base coherent coherentBase sameResponder
    have restSettle : ∀ t ∈ rest, Settles t := fun t member => settle t (List.mem_cons_of_mem _ member)
    rw [joinOrAbort_cons_run, List.mapM_cons, ← sameResult]
    cases (task.run net).1 with
    | error e => rfl
    | ok a =>
      rw [inductionHypothesis restSettle coherentAfter (responderAfter.trans sameResponder)]
      cases rest.mapM fun task => (task.run base).1 <;> rfl

/-- On a coherent network, tasks spawned one for each item, each settling, are collected as each
item's task gives its result on the network, in the order they complete. -/
theorem joinOrAbort_map_run {α β : Type} {task : β → Fetch (Except ScoreError α)}
    (settle : ∀ b, Settles (task b)) {net : Net} (coherent : net.Coherent) (items : List β) :
    ((joinOrAbort (items.map task)).run net).1 = items.mapM fun b => ((task b).run net).1 := by
  have settleEach : ∀ t ∈ items.map task, Settles t := by
    intro t member
    obtain ⟨b, _, rfl⟩ := List.mem_map.1 member
    exact settle b
  rw [joinOrAbort_run settleEach coherent coherent rfl, List.mapM_map]
  rfl

/-- A schedule that only reorders: the tasks of every set complete in some order, each once. -/
structure Schedule.Reorders (schedule : Schedule) : Prop where
  categories : ∀ categories, (schedule.categories categories).Perm categories
  lookups : ∀ category requests, (schedule.lookups category requests).Perm requests

theorem Schedule.spawned_reorders : Schedule.spawned.Reorders :=
  ⟨fun _ => .refl _, fun _ _ => .refl _⟩

section SourceIds

theorem nodup_eraseDups {α : Type} [BEq α] [LawfulBEq α] : ∀ l : List α, l.eraseDups.Nodup
  | [] => List.nodup_nil
  | a :: rest => by
    rw [List.eraseDups_cons]
    refine List.nodup_cons.2 ⟨?_, nodup_eraseDups _⟩
    simp [List.mem_eraseDups, List.mem_filter]
termination_by l => l.length
decreasing_by exact Nat.lt_succ_of_le (List.length_filter_le _ _)

theorem mem_sourceIds {players : List Player} {x : Int} :
    x ∈ sourceIds players ↔ ∃ p ∈ players, p.sourceId = x := by
  simp [sourceIds, List.mem_mergeSort, List.mem_eraseDups]

theorem nodup_sourceIds (players : List Player) : (sourceIds players).Nodup :=
  (List.mergeSort_perm _ _).nodup_iff.2 (nodup_eraseDups _)

/-- The source ids a category asks about are its players' source ids, each once, ascending. -/
theorem sourceIds_ascending (players : List Player) : (sourceIds players).Pairwise (· < ·) := by
  have trans : ∀ a b c : Int, decide (a ≤ b) = true → decide (b ≤ c) = true →
      decide (a ≤ c) = true := by
    intro a b c first second
    simp only [decide_eq_true_eq] at first second ⊢
    omega
  have total : ∀ a b : Int, (decide (a ≤ b) || decide (b ≤ a)) = true := by
    intro a b
    simp only [Bool.or_eq_true, decide_eq_true_eq]
    omega
  have sorted := List.pairwise_mergeSort trans total ((players.map (·.sourceId)).eraseDups)
  refine (sorted.and (nodup_sourceIds players)).imp fun ⟨below, different⟩ => ?_
  simp only [decide_eq_true_eq] at below
  omega

end SourceIds

section Lookups

/-- Mapping a list in which one item occurs once, and every other item maps to nothing, gives
what that item maps to. -/
theorem flatMap_eq_of_count_eq_one {α β : Type} [BEq α] [LawfulBEq α] {l : List α} {x : α}
    {h : α → List β} (once : l.count x = 1) (others : ∀ y ∈ l, y ≠ x → h y = []) :
    l.flatMap h = h x := by
  induction l with
  | nil => simp at once
  | cons y rest inductionHypothesis =>
    rw [List.flatMap_cons]
    by_cases same : y = x
    · subst same
      -- the item does not occur again, so the rest maps to nothing
      have absent : y ∉ rest := by
        rw [List.count_cons_self] at once
        exact List.count_eq_zero.1 (by omega)
      have nothing : rest.flatMap h = [] := List.flatMap_eq_nil_iff.2 fun z member =>
        others z (List.mem_cons_of_mem _ member) fun same => absent (same ▸ member)
      rw [nothing, List.append_nil]
    · rw [others y List.mem_cons_self same, List.nil_append]
      rw [List.count_cons_of_ne same] at once
      exact inductionHypothesis once fun z member => others z (List.mem_cons_of_mem _ member)

/-- With distinct keys, the value kept for a key is the one paired with it. -/
theorem lookupLast_eq_some_iff {α : Type} {pairs : List (Int × α)}
    (distinct : (pairs.map (·.1)).Nodup) {k : Int} {v : α} :
    lookupLast k pairs = some v ↔ (k, v) ∈ pairs := by
  unfold lookupLast
  constructor
  · intro found
    obtain ⟨p, first, rfl⟩ := Option.map_eq_some_iff.1 found
    have key := List.find?_some first
    rw [beq_iff_eq] at key
    rw [← key]
    exact List.mem_reverse.1 (List.mem_of_find?_eq_some first)
  · intro member
    have some : (pairs.reverse.find? (·.1 == k)).isSome :=
      List.find?_isSome.2 ⟨(k, v), List.mem_reverse.2 member, by simp⟩
    obtain ⟨p, first⟩ := Option.isSome_iff_exists.1 some
    have key := List.find?_some first
    rw [beq_iff_eq] at key
    have stored := List.mem_reverse.1 (List.mem_of_find?_eq_some first)
    have same : p = (k, v) := List.inj_on_of_nodup_map distinct stored member key
    rw [first, same]
    rfl

/-- With distinct keys, the order of the pairs does not change what a key finds. -/
theorem lookupLast_eq_of_perm {α : Type} {pairs pairs' : List (Int × α)} (perm : pairs.Perm pairs')
    (distinct : (pairs.map (·.1)).Nodup) (k : Int) : lookupLast k pairs = lookupLast k pairs' := by
  have distinct' := (perm.map (·.1)).nodup_iff.1 distinct
  ext v
  rw [lookupLast_eq_some_iff distinct, lookupLast_eq_some_iff distinct', perm.mem_iff]

theorem nameScoresOfFields_congr {players : List Player} {names : List (Int × String)}
    {stats stats' : List (Int × Int)} (same : ∀ k, lookupLast k stats = lookupLast k stats') :
    nameScoresOfFields players names stats = nameScoresOfFields players names stats' := by
  unfold nameScoresOfFields
  congr 1
  funext p
  rw [same p.sourceId]

/-- The stat lookups of distinct ids bring one stat for each id. -/
theorem statEntries_keys {ids : List Int} {g : LookupRequest → Lookup}
    (stated : ∀ id ∈ ids, ∃ v, g (.stat id) = .stat id v) :
    (((ids.map LookupRequest.stat).map g).flatMap Lookup.statEntries).map (·.1) = ids := by
  induction ids with
  | nil => rfl
  | cons id rest inductionHypothesis =>
    obtain ⟨v, answer⟩ := stated id List.mem_cons_self
    simp only [List.map_cons, List.flatMap_cons, answer, Lookup.statEntries, List.cons_append,
      List.nil_append, List.map_cons]
    rw [inductionHypothesis fun other member => stated other (List.mem_cons_of_mem _ member)]

/-- Whatever order the lookups of distinct source ids complete in, they give the same names and
scores: only the names lookup brings names, and the stats are keyed by distinct ids. -/
theorem nameScoresOfLookups_of_perm {category : Category} {players : List Player}
    {ids : List Int} (distinct : ids.Nodup) {requests : List LookupRequest}
    (perm : requests.Perm (lookupRequests ids)) {g : LookupRequest → Lookup}
    (named : ∃ entries, g (.names ids) = .names entries)
    (stated : ∀ id ∈ ids, ∃ v, g (.stat id) = .stat id v) :
    nameScoresOfLookups category players ids (requests.map g) =
      nameScoresOfLookups category players ids ((lookupRequests ids).map g) := by
  have received : ((requests.map g).flatMap Lookup.ids).length =
      (((lookupRequests ids).map g).flatMap Lookup.ids).length :=
    ((perm.map g).flatMap_right Lookup.ids).length_eq
  have onlyNames : ∀ rs : List LookupRequest, rs.Perm (lookupRequests ids) →
      (rs.map g).flatMap Lookup.nameEntries = (g (.names ids)).nameEntries := by
    intro rs same
    rw [List.flatMap_map]
    refine flatMap_eq_of_count_eq_one ?_ fun r member other => ?_
    · have noStat : (LookupRequest.names ids) ∉ ids.map LookupRequest.stat := by simp
      rw [same.count_eq, lookupRequests, List.count_cons_self, List.count_eq_zero.2 noStat]
    · -- a request other than the names lookup is a stat lookup of one of the ids
      simp only [same.mem_iff, lookupRequests, List.mem_cons, List.mem_map] at member
      rcases member with rfl | ⟨id, listed, rfl⟩
      · exact absurd rfl other
      · obtain ⟨v, answer⟩ := stated id listed
        rw [answer]
        rfl
  have statsPerm : ((requests.map g).flatMap Lookup.statEntries).Perm
      (((lookupRequests ids).map g).flatMap Lookup.statEntries) :=
    (perm.map g).flatMap_right _
  have statKeys : ((((lookupRequests ids).map g).flatMap Lookup.statEntries).map (·.1)).Nodup := by
    obtain ⟨entries, answer⟩ := named
    simp only [lookupRequests, List.map_cons, List.flatMap_cons, answer, Lookup.statEntries,
      List.nil_append]
    rw [statEntries_keys stated]
    exact distinct
  unfold nameScoresOfLookups
  have sameStats := lookupLast_eq_of_perm statsPerm.symm statKeys
  rw [received, onlyNames requests perm, onlyNames _ (.refl _),
    nameScoresOfFields_congr fun k => (sameStats k).symm]

end Lookups

section Category

variable (sources : Sources) (year : Int)

theorem lookup_names_ok {category : Category} {ids : List Int} {net : Net} {l : Lookup}
    (answered : ((lookup sources category year (.names ids)).run net).1 = .ok l) :
    ∃ entries, l = .names entries := by
  unfold lookup at answered
  rw [StateT.run_bind] at answered
  generalize (sources.playerNames ids).run net = fetched at answered
  rcases fetched with ⟨first, after⟩
  cases first with
  | error e => cases answered
  | ok names =>
    cases answered
    exact ⟨names, rfl⟩

theorem lookup_stat_ok {category : Category} {id : Int} {net : Net} {l : Lookup}
    (answered : ((lookup sources category year (.stat id)).run net).1 = .ok l) :
    ∃ v, l = .stat id v := by
  unfold lookup at answered
  rw [StateT.run_bind] at answered
  generalize (sources.playerStat category.kind year id).run net = fetched at answered
  rcases fetched with ⟨first, after⟩
  cases first with
  | error e => cases answered
  | ok stat =>
    cases answered
    exact ⟨stat, rfl⟩

theorem categoryNameScores_run_perPlayer (schedule : Schedule) (category : Category)
    (players : List Player) (ids : List Int) (net : Net)
    (perPlayer : Sources.perPlayer category.kind = true) :
    ((categoryNameScores schedule sources category year players ids).run net).1 =
      ((joinOrAbort ((schedule.lookups category (lookupRequests ids)).map
        (lookup sources category year))).run net).1.bind (nameScoresOfLookups category players ids) := by
  unfold categoryNameScores
  rw [if_pos perPlayer]
  dsimp only
  rw [StateT.run_bind]
  rcases (joinOrAbort _).run net with ⟨first, after⟩
  cases first <;> rfl

/-- A category scored in bulk makes no lookups, so no schedule reaches it. -/
theorem categoryNameScores_bulk (schedule other : Schedule) (category : Category)
    (players : List Player) (ids : List Int) (bulk : Sources.perPlayer category.kind = false) :
    categoryNameScores schedule sources category year players ids =
      categoryNameScores other sources category year players ids := by
  unfold categoryNameScores
  simp only [bulk, Bool.false_eq_true, if_false]

theorem scoreCategoryBy_run (schedule : Schedule) (category : Category) (friends : List Friend)
    (players : List Player) (net : Net) :
    ((scoreCategoryBy schedule sources category year friends players).run net).1 =
      if (sourceIds players).isEmpty then .ok (buildScoreCategory category friends players [])
      else if !sources.isWired category.kind then .error (.noSource category.kind)
      else ((categoryNameScores schedule sources category year players (sourceIds players)).run
        net).1.bind fun nameScores => .ok (buildScoreCategory category friends players nameScores) := by
  unfold scoreCategoryBy
  dsimp only
  by_cases empty : (sourceIds players).isEmpty = true
  · rw [if_pos empty, if_pos empty]
    rfl
  · rw [if_neg empty, if_neg empty]
    by_cases unwired : (!sources.isWired category.kind) = true
    · rw [if_pos unwired, if_pos unwired]
      rfl
    · rw [if_neg unwired, if_neg unwired, StateT.run_bind]
      rcases (categoryNameScores _ _ _ _ _ _).run net with ⟨first, after⟩
      cases first <;> rfl

/-- A category without players asks no provider and leaves the network as it was. -/
theorem scoreCategoryBy_run_nil (schedule : Schedule) (category : Category) (friends : List Friend)
    (net : Net) : (scoreCategoryBy schedule sources category year friends []).run net =
      (.ok (buildScoreCategory category friends [] []), net) := by
  unfold scoreCategoryBy
  simp [sourceIds]
  rfl

/-- A board a category's scoring gives is the category's. -/
theorem scoreCategoryBy_ok_displayOrder {schedule : Schedule} {category : Category}
    {friends : List Friend} {players : List Player} {net : Net} {board : ScoreCategory}
    (scored : ((scoreCategoryBy schedule sources category year friends players).run net).1 = .ok board) :
    board.displayOrder = category.displayOrder := by
  rw [scoreCategoryBy_run] at scored
  split at scored
  · cases scored
    rfl
  split at scored
  · cases scored
  cases named : ((categoryNameScores schedule sources category year players (sourceIds players)).run
    net).1 with
  | error e => rw [named] at scored; cases scored
  | ok nameScores =>
    rw [named] at scored
    cases scored
    rfl

/-- On a coherent network a category's lookups give the same names and scores, whenever they
give any, whatever order they complete in. -/
theorem categoryNameScores_ok_of_reorders {schedule other : Schedule} (reorders : schedule.Reorders)
    (otherReorders : other.Reorders) {category : Category} {players : List Player} {ids : List Int}
    (distinct : ids.Nodup) {net : Net} (coherent : net.Coherent)
    {nameScores : List (Int × NameScore)}
    (named : ((categoryNameScores schedule sources category year players ids).run net).1 =
      .ok nameScores) :
    ((categoryNameScores other sources category year players ids).run net).1 = .ok nameScores := by
  cases perPlayer : Sources.perPlayer category.kind with
  | false => rwa [categoryNameScores_bulk sources year other schedule category players ids perPlayer]
  | true =>
    -- each lookup gives one answer on the network, whichever lookups ran before it
    let answer (r : LookupRequest) := ((lookup sources category year r).run net).1
    have collected : ∀ s : Schedule,
        ((joinOrAbort ((s.lookups category (lookupRequests ids)).map
          (lookup sources category year))).run net).1 =
          (s.lookups category (lookupRequests ids)).mapM answer := fun s =>
      joinOrAbort_map_run (lookup_settles sources category year) coherent _
    rw [categoryNameScores_run_perPlayer sources year schedule category players ids net perPlayer,
      collected] at named
    rw [categoryNameScores_run_perPlayer sources year other category players ids net perPlayer,
      collected]
    cases all : (schedule.lookups category (lookupRequests ids)).mapM answer with
    | error e =>
      rw [all] at named
      cases named
    | ok lookups =>
      rw [all] at named
      -- every lookup answered, so the answers are a function of the request
      let g (r : LookupRequest) : Lookup := (answer r).toOption.getD (.stat 0 0)
      have answered : ∀ r ∈ lookupRequests ids, answer r = .ok (g r) := by
        intro r member
        obtain ⟨l, found⟩ := ok_of_mapM_eq_ok all ((reorders.lookups category _).mem_iff.2 member)
        simp only [g, found]
        rfl
      have namesShape : ∃ entries, g (.names ids) = .names entries :=
        lookup_names_ok sources year (answered _ List.mem_cons_self)
      have statShape : ∀ id ∈ ids, ∃ v, g (.stat id) = .stat id v := fun id listed =>
        lookup_stat_ok sources year
          (answered _ (List.mem_cons_of_mem _ (List.mem_map_of_mem listed)))
      obtain rfl := eq_map_of_mapM_eq_ok all fun r member =>
        answered r ((reorders.lookups category _).mem_iff.1 member)
      rw [mapM_eq_ok_map fun r member =>
        answered r ((otherReorders.lookups category _).mem_iff.1 member)]
      calc nameScoresOfLookups category players ids ((other.lookups category (lookupRequests ids)).map g)
          = nameScoresOfLookups category players ids ((lookupRequests ids).map g) :=
            nameScoresOfLookups_of_perm distinct (otherReorders.lookups _ _) namesShape statShape
        _ = nameScoresOfLookups category players ids
            ((schedule.lookups category (lookupRequests ids)).map g) :=
            (nameScoresOfLookups_of_perm distinct (reorders.lookups _ _) namesShape statShape).symm
        _ = .ok nameScores := named

/-- On a coherent network a category gives the same board, whenever it gives one, whatever
order its lookups complete in. -/
theorem scoreCategoryBy_ok_of_reorders {schedule other : Schedule} (reorders : schedule.Reorders)
    (otherReorders : other.Reorders) {category : Category} {friends : List Friend}
    {players : List Player} {net : Net} (coherent : net.Coherent) {board : ScoreCategory}
    (scored : ((scoreCategoryBy schedule sources category year friends players).run net).1 = .ok board) :
    ((scoreCategoryBy other sources category year friends players).run net).1 = .ok board := by
  rw [scoreCategoryBy_run] at scored ⊢
  by_cases empty : (sourceIds players).isEmpty = true
  · rwa [if_pos empty] at scored ⊢
  rw [if_neg empty] at scored ⊢
  by_cases unwired : (!sources.isWired category.kind) = true
  · rw [if_pos unwired] at scored
    cases scored
  rw [if_neg unwired] at scored ⊢
  cases named : ((categoryNameScores schedule sources category year players (sourceIds players)).run
    net).1 with
  | error e =>
    rw [named] at scored
    cases scored
  | ok nameScores =>
    rw [named] at scored
    rw [categoryNameScores_ok_of_reorders sources year reorders otherReorders
      (nodup_sourceIds players) coherent named]
    exact scored

end Category

section Sport

variable (sources : Sources) (year : Int) (friends : List Friend)

theorem any_id_iff {categories : List Category} {id : Int} :
    categories.any (·.id == id) = true ↔ id ∈ categories.map (·.id) := by
  simp [List.any_eq_true, List.mem_map]

/-- With distinct category ids, the categories share out the players of the categories listed,
each player to one category, in the order given. -/
theorem flatMap_playersOfCategory_perm {categories : List Category}
    (distinct : (categories.map (·.id)).Nodup) {players : List Player}
    (covered : ∀ p ∈ players, p.categoryId ∈ categories.map (·.id)) :
    (categories.flatMap fun c => players.filter (·.categoryId == c.id)).Perm players := by
  -- each category takes its players, and the others share out the rest
  induction categories generalizing players with
  | nil =>
    cases players with
    | nil => exact .refl _
    | cons p _ => exact absurd (covered p List.mem_cons_self) List.not_mem_nil
  | cons c rest inductionHypothesis =>
    rw [List.map_cons, List.nodup_cons] at distinct
    have sameRest : (rest.flatMap fun d => players.filter (·.categoryId == d.id)) =
        rest.flatMap fun d => (players.filter fun p => !(p.categoryId == c.id)).filter
          (·.categoryId == d.id) := by
      refine List.flatMap_congr fun d member => (filter_filter_of_imp fun p _ same => ?_).symm
      have other : d.id ≠ c.id := fun same => distinct.1 (same ▸ List.mem_map_of_mem member)
      simp only [beq_iff_eq] at same
      simp [same, other]
    have restCovered : ∀ p ∈ players.filter (fun p => !(p.categoryId == c.id)),
        p.categoryId ∈ rest.map (·.id) := by
      intro p member
      rw [List.mem_filter] at member
      have listed := covered p member.1
      rw [List.map_cons, List.mem_cons] at listed
      simp only [Bool.not_eq_true', beq_eq_false_iff_ne] at member
      exact listed.resolve_left member.2
    rw [List.flatMap_cons, sameRest]
    exact ((List.perm_append_left_iff _).2 (inductionHypothesis distinct.2 restCovered)).trans
      (List.filter_append_perm _ players)

/-- A player of a category not given fails the scoring before any request. -/
theorem scoreCategoriesBy_run_of_stray (schedule : Schedule) (categories : List Category)
    (players : List Player) (net : Net) {p : Player}
    (first : players.find? (fun p => !(categories.any (·.id == p.categoryId))) = some p) :
    (scoreCategoriesBy schedule sources categories year friends players).run net =
      (.error (.unknownCategory p.categoryId), net) := by
  unfold scoreCategoriesBy
  rw [first]
  rfl

theorem scoreCategoriesBy_run (schedule : Schedule) (categories : List Category)
    (players : List Player) (net : Net)
    (covered : players.find? (fun p => !(categories.any (·.id == p.categoryId))) = none) :
    ((scoreCategoriesBy schedule sources categories year friends players).run net).1 =
      ((joinOrAbort ((schedule.categories categories).map fun c =>
        scoreCategoryBy schedule sources c year friends (players.filter (·.categoryId == c.id)))).run
          net).1.bind fun boards =>
        .ok (boards.mergeSort fun a b => decide (a.displayOrder ≤ b.displayOrder)) := by
  unfold scoreCategoriesBy
  rw [covered]
  dsimp only
  rw [StateT.run_bind]
  rcases (joinOrAbort _).run net with ⟨first, after⟩
  cases first <;> rfl

variable {schedule : Schedule} (reorders : schedule.Reorders) {categories : List Category}
  (players : List Player) {net : Net} (coherent : net.Coherent)

include coherent in
/-- On a coherent network the categories' results are collected as each gives it on the
network, in the order they complete. -/
theorem scoreCategoriesBy_collected
    (covered : players.find? (fun p => !(categories.any (·.id == p.categoryId))) = none) :
    ((scoreCategoriesBy schedule sources categories year friends players).run net).1 =
      ((schedule.categories categories).mapM fun c =>
        ((scoreCategoryBy schedule sources c year friends
          (players.filter (·.categoryId == c.id))).run net).1).bind fun boards =>
        .ok (boards.mergeSort fun a b => decide (a.displayOrder ≤ b.displayOrder)) := by
  have settle : ∀ c, Settles (scoreCategoryBy schedule sources c year friends
      (players.filter (·.categoryId == c.id))) := fun c =>
    scoreCategoryBy_settles schedule sources c year friends _
  rw [scoreCategoriesBy_run sources year friends schedule categories players net covered,
    joinOrAbort_map_run settle coherent]

include reorders in
/-- When every category gives a board, the boards in display order are the same whatever order
the categories complete in. -/
theorem sorted_boards_of_ok (distinctOrders : (categories.map (·.displayOrder)).Nodup)
    {g : Category → ScoreCategory}
    (each : ∀ c ∈ categories, ((scoreCategoryBy schedule sources c year friends
      (players.filter (·.categoryId == c.id))).run net).1 = .ok (g c)) :
    ((schedule.categories categories).map g).mergeSort
        (fun a b => decide (a.displayOrder ≤ b.displayOrder)) =
      (categories.map g).mergeSort fun a b => decide (a.displayOrder ≤ b.displayOrder) := by
  have orders : (categories.map g).map (·.displayOrder) = categories.map (·.displayOrder) := by
    rw [List.map_map]
    exact List.map_congr_left fun c member => scoreCategoryBy_ok_displayOrder sources year (each c member)
  have perm := (reorders.categories categories).map g
  refine mergeSort_eq_of_perm_of_key perm ?_
  rw [(perm.map (·.displayOrder)).nodup_iff, orders]
  exact distinctOrders

include reorders coherent in
/-- Scoring succeeds exactly when every category, its lookups completing in the order they were
spawned, gives a board; the boards are theirs in display order. -/
theorem scoreCategoriesBy_eq_ok_iff (distinctOrders : (categories.map (·.displayOrder)).Nodup)
    (covered : players.find? (fun p => !(categories.any (·.id == p.categoryId))) = none)
    (boards : List ScoreCategory) :
    ((scoreCategoriesBy schedule sources categories year friends players).run net).1 = .ok boards ↔
      ∃ results, (categories.mapM fun c => ((scoreCategory sources c year friends
          (players.filter (·.categoryId == c.id))).run net).1) = .ok results ∧
        boards = results.mergeSort fun a b => decide (a.displayOrder ≤ b.displayOrder) := by
  let out (s : Schedule) (c : Category) :=
    ((scoreCategoryBy s sources c year friends (players.filter (·.categoryId == c.id))).run net).1
  -- a category gives a board in one order exactly when it gives it in spawn order
  have sameBoard : ∀ c board, out schedule c = .ok board ↔ out .spawned c = .ok board := fun _ _ =>
    ⟨scoreCategoryBy_ok_of_reorders sources year reorders Schedule.spawned_reorders coherent,
      scoreCategoryBy_ok_of_reorders sources year Schedule.spawned_reorders reorders coherent⟩
  -- once every category gives a board, the boards are a function of the category
  let g (c : Category) : ScoreCategory := (out .spawned c).toOption.getD default
  have boardOf : ∀ c board, out .spawned c = .ok board → g c = board := by
    intro c board found
    simp only [g, found]
    rfl
  rw [scoreCategoriesBy_collected sources year friends players coherent covered]
  constructor
  · intro scored
    cases all : (schedule.categories categories).mapM (out schedule) with
    | error e =>
      rw [all] at scored
      cases scored
    | ok found =>
      rw [all] at scored
      cases scored
      have each : ∀ c ∈ categories, out schedule c = .ok (g c) ∧ out .spawned c = .ok (g c) := by
        intro c member
        obtain ⟨board, given⟩ :=
          ok_of_mapM_eq_ok all ((reorders.categories categories).mem_iff.2 member)
        have spawned := (sameBoard c board).1 given
        rw [boardOf c board spawned]
        exact ⟨given, spawned⟩
      obtain rfl := eq_map_of_mapM_eq_ok all fun c member =>
        (each c ((reorders.categories categories).mem_iff.1 member)).1
      exact ⟨categories.map g, mapM_eq_ok_map fun c member => (each c member).2,
        sorted_boards_of_ok sources year friends reorders players distinctOrders
          fun c member => (each c member).1⟩
  · rintro ⟨results, all, rfl⟩
    have each : ∀ c ∈ categories, out schedule c = .ok (g c) ∧ out .spawned c = .ok (g c) := by
      intro c member
      obtain ⟨board, given⟩ := ok_of_mapM_eq_ok all member
      rw [boardOf c board given]
      exact ⟨(sameBoard c board).2 given, given⟩
    obtain rfl := eq_map_of_mapM_eq_ok all fun c member => (each c member).2
    rw [mapM_eq_ok_map fun c member => (each c ((reorders.categories categories).mem_iff.1 member)).1]
    exact congrArg Except.ok (sorted_boards_of_ok sources year friends reorders players
      distinctOrders fun c member => (each c member).1)

include coherent in
/-- A failed scoring fails as one of the categories does, in the order the tasks complete. -/
theorem scoreCategoriesBy_error
    (covered : players.find? (fun p => !(categories.any (·.id == p.categoryId))) = none)
    {e : ScoreError}
    (failed : ((scoreCategoriesBy schedule sources categories year friends players).run net).1 =
      .error e) :
    ∃ c ∈ schedule.categories categories, ((scoreCategoryBy schedule sources c year friends
      (players.filter (·.categoryId == c.id))).run net).1 = .error e := by
  rw [scoreCategoriesBy_collected sources year friends players coherent covered] at failed
  cases all : (schedule.categories categories).mapM fun c => ((scoreCategoryBy schedule sources c
      year friends (players.filter (·.categoryId == c.id))).run net).1 with
  | error e' =>
    rw [all] at failed
    cases failed
    exact exists_of_mapM_eq_error all
  | ok boards =>
    rw [all] at failed
    cases failed

end Sport

/-- Scoring a sport's categories as concurrent tasks gives what scoring them one after another
gives, whatever order the tasks complete in. -/
theorem scoreCategoriesBy_any_completion (schedule : Schedule) (reorders : schedule.Reorders)
    (sources : Sources) (categories : List Category)
    (distinctIds : (categories.map (·.id)).Nodup)
    (distinctOrders : (categories.map (·.displayOrder)).Nodup) (year : Int)
    (friends : List Friend) (players : List Player) (net : Net) (coherent : net.Coherent) :
    let playersOf (c : Category) := players.filter (·.categoryId == c.id)
    let scored := (scoreCategoriesBy schedule sources categories year friends players).run net
    (∀ pre p post, players = pre ++ p :: post →
      (∀ q ∈ pre, q.categoryId ∈ categories.map (·.id)) → p.categoryId ∉ categories.map (·.id) →
        scored = (.error (.unknownCategory p.categoryId), net)) ∧
    ((∀ p ∈ players, p.categoryId ∈ categories.map (·.id)) →
      (categories.flatMap playersOf).Perm players ∧
      (∀ boards, scored.1 = .ok boards ↔ ∃ results,
        (categories.mapM fun c => ((scoreCategory sources c year friends (playersOf c)).run net).1) =
          .ok results ∧ boards = results.mergeSort fun a b => decide (a.displayOrder ≤ b.displayOrder)) ∧
      (∀ e, scored.1 = .error e → ∃ c ∈ categories,
        ((scoreCategoryBy schedule sources c year friends (playersOf c)).run net).1 = .error e)) ∧
    (∀ c : Category, (scoreCategoryBy schedule sources c year friends []).run net =
      (.ok (buildScoreCategory c friends [] []), net)) ∧
    (∀ ps : List Player, (sourceIds ps).Pairwise (· < ·) ∧
      ∀ x, x ∈ sourceIds ps ↔ ∃ p ∈ ps, p.sourceId = x) := by
  intro playersOf scored
  refine ⟨fun pre p post split earlier stray => ?_, fun covered => ?_,
    fun c => scoreCategoryBy_run_nil sources year schedule c friends net,
    fun ps => ⟨sourceIds_ascending ps, fun _ => mem_sourceIds⟩⟩
  · -- the first player of a category not given is the one the scoring names
    apply scoreCategoriesBy_run_of_stray
    rw [List.find?_eq_some_iff_append]
    refine ⟨by simpa [any_id_iff] using stray, pre, post, split, fun q member => ?_⟩
    simpa [any_id_iff] using earlier q member
  · have none : players.find? (fun p => !(categories.any (·.id == p.categoryId))) = none :=
      List.find?_eq_none.2 fun p member => by simpa [any_id_iff] using covered p member
    refine ⟨flatMap_playersOfCategory_perm distinctIds covered,
      scoreCategoriesBy_eq_ok_iff sources year friends reorders players coherent distinctOrders none,
      fun e failed => ?_⟩
    obtain ⟨c, member, failing⟩ := scoreCategoriesBy_error sources year friends players coherent none failed
    exact ⟨c, (reorders.categories categories).mem_iff.1 member, failing⟩

/-- The default baseball categories with two friends' teams, hitter and pitcher, the tasks
completing in reverse. -/
theorem scoreCategoriesBy_any_completion_drafted :
    let reversed : Schedule := ⟨List.reverse, fun _ => List.reverse⟩
    let baseball := Registry.defaults.forSport .mlb
    let sources : Sources := ⟨{ mlbStatsUrl := "http://stats.test" }, CategoryKind.all⟩
    let standings := "\x7b\"records\":[\x7b\"teamRecords\":[\x7b\"team\":\x7b\"id\":147,\"name\":\"Yankees\"\x7d,\"wins\":103,\"losses\":59\x7d]\x7d]\x7d"
    let net : Net := ⟨⟨8, [], by decide⟩, .canned [("standings", .body standings), ("people", .status 500)], 0⟩
    let friends : List Friend := [⟨1, 0, "Ann"⟩, ⟨2, 1, "Bo"⟩]
    let players : List Player :=
      [⟨1, 1, 147, 1, 0⟩, ⟨2, 1, 121, 2, 0⟩, ⟨3, 2, 545361, 1, 1⟩, ⟨4, 3, 592450, 2, 1⟩]
    let playersOf (c : Category) := players.filter (·.categoryId == c.id)
    let scored := (scoreCategoriesBy reversed sources baseball 2019 friends players).run net
    reversed.Reorders ∧ (baseball.map (·.id)).Nodup ∧ (baseball.map (·.displayOrder)).Nodup ∧
      net.Coherent ∧
      (∀ pre p post, players = pre ++ p :: post →
        (∀ q ∈ pre, q.categoryId ∈ baseball.map (·.id)) → p.categoryId ∉ baseball.map (·.id) →
          scored = (.error (.unknownCategory p.categoryId), net)) ∧
      ((∀ p ∈ players, p.categoryId ∈ baseball.map (·.id)) →
        (baseball.flatMap playersOf).Perm players ∧
        (∀ boards, scored.1 = .ok boards ↔ ∃ results,
          (baseball.mapM fun c => ((scoreCategory sources c 2019 friends (playersOf c)).run net).1) =
            .ok results ∧
              boards = results.mergeSort fun a b => decide (a.displayOrder ≤ b.displayOrder)) ∧
        (∀ e, scored.1 = .error e → ∃ c ∈ baseball,
          ((scoreCategoryBy reversed sources c 2019 friends (playersOf c)).run net).1 = .error e)) ∧
      (∀ c : Category, (scoreCategoryBy reversed sources c 2019 friends []).run net =
        (.ok (buildScoreCategory c friends [] []), net)) ∧
      (∀ ps : List Player, (sourceIds ps).Pairwise (· < ·) ∧
        ∀ x, x ∈ sourceIds ps ↔ ∃ p ∈ ps, p.sourceId = x) := by
  intro reversed baseball sources standings net friends players
  have reorders : reversed.Reorders := ⟨List.reverse_perm, fun _ => List.reverse_perm⟩
  have distinct := Registry.defaults.forSport_distinct .mlb
  have coherent : net.Coherent := ⟨fun _ member => nomatch member⟩
  exact ⟨reorders, distinct.1, distinct.2, coherent,
    scoreCategoriesBy_any_completion reversed reorders sources baseball distinct.1 distinct.2 2019
      friends players net coherent⟩

end DraftPool
