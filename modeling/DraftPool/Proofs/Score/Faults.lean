import DraftPool.Proofs.Score.Completion
import Mathlib.Data.List.Perm.Subperm

/-
Scoring fails only as a provider's answer does. The main statement is
`scoreCategories_providerFault`.
-/

namespace DraftPool

/-- A responder that answers every request, with a body or a status. -/
def Responder.Answers (r : Responder) : Prop := ∀ url text, r.answer url ≠ .failure text

/-- Canned rules that reply with bodies and statuses answer every request. -/
theorem Responder.answers_canned {rules : List (String × Reply)}
    (replies : ∀ rule ∈ rules, ∀ text, rule.2 ≠ .failure text) : (Responder.canned rules).Answers := by
  intro url text answered
  rw [Responder.answer] at answered
  split at answered
  · next rule found => exact replies rule (List.mem_of_find?_eq_some found) text answered
  · cases answered

/-- A fault in what a provider answered: a status, a body that does not read as expected, an
unexpected payload, or a URL that does not parse. A request that could not be sent is not one. -/
def FetchError.ProviderFault : FetchError → Prop
  | .transport _ => False
  | _ => True

/-- A scoring failure caused by a provider's answer alone. -/
def ScoreError.ProviderFault : ScoreError → Prop
  | .fetch _ cause => cause.ProviderFault
  | _ => False

/-- An outcome that fails only with an error `bad` allows, and succeeds only with a value `good`
allows. -/
inductive Meets {ε α : Type} (bad : ε → Prop) (good : α → Prop) : Except ε α → Prop
  | ok {a : α} : good a → Meets bad good (.ok a)
  | error {e : ε} : bad e → Meets bad good (.error e)

/-- An outcome that fails only with an error `bad` allows. -/
abbrev Fails {ε α : Type} (bad : ε → Prop) : Except ε α → Prop := Meets bad fun _ => True

namespace Meets

variable {ε α β : Type} {bad : ε → Prop} {good : α → Prop}

theorem error_of_eq {x : Except ε α} (meets : Meets bad good x) {e : ε} (failed : x = .error e) :
    bad e := by
  rw [failed] at meets
  cases meets with
  | error fault => exact fault

theorem map {x : Except ε α} (meets : Fails bad x) (f : α → β) : Fails bad (x.map f) := by
  cases meets with
  | error fault => exact .error fault
  | ok _ => exact .ok trivial

/-- Running over a list fails only as one of its members does. -/
theorem mapM {l : List β} {f : β → Except ε α} (each : ∀ b ∈ l, Fails bad (f b)) :
    Fails bad (l.mapM f) := by
  cases all : l.mapM f with
  | ok values => exact .ok trivial
  | error e =>
    obtain ⟨b, member, failed⟩ := exists_of_mapM_eq_error all
    exact .error (error_of_eq (each b member) failed)

end Meets

/-- On every coherent network whose responder answers every request, the computation gives a
result with the property. -/
structure Yields {α : Type} (P : α → Prop) (m : Fetch α) : Prop where
  holds : ∀ net : Net, net.Coherent → net.responder.Answers → P (m.run net).1

namespace Yields

variable {α β : Type}

theorem pure {P : α → Prop} {x : α} (holds : P x) : Yields P (Pure.pure x : Fetch α) :=
  ⟨fun _ _ _ => holds⟩

/-- A computation that settles hands the next one a coherent network with the same responder. -/
theorem bind {m : Fetch α} {f : α → Fetch β} {Q : α → Prop} {P : β → Prop} (settles : Settles m)
    (first : Yields Q m) (rest : ∀ x, Q x → Yields P (f x)) : Yields P (m >>= f) := by
  refine ⟨fun net coherent answers => ?_⟩
  obtain ⟨-, coherentAfter, responder⟩ := settles net net coherent coherent rfl
  simp only [StateT.run_bind]
  dsimp only [Bind.bind]
  exact (rest _ (first.holds net coherent answers)).holds _ coherentAfter (responder ▸ answers)

/-- The step after a computation with an outcome is taken case by case: it meets the property
after each failure and each success the computation allows. -/
theorem bind_cases {ε ε' : Type} {m : Fetch (Except ε α)} {f : Except ε α → Fetch (Except ε' β)}
    {bad : ε → Prop} {good : α → Prop} {P : Except ε' β → Prop} (settles : Settles m)
    (first : Yields (Meets bad good) m) (failed : ∀ e, bad e → Yields P (f (.error e)))
    (succeeded : ∀ a, good a → Yields P (f (.ok a))) : Yields P (m >>= f) :=
  Yields.bind settles first fun _ meets => by
    cases meets with
    | ok holds => exact succeeded _ holds
    | error fault => exact failed _ fault

end Yields

/-- On a responder that answers every request, a fetch fails only with the status it was
answered, cached or not. -/
theorem fetchBody_providerFault (url : String) :
    Yields (Fails FetchError.ProviderFault) (fetchBody url) := by
  refine ⟨fun net coherent answers => ?_⟩
  rw [(fetchBody_run coherent url).1]
  cases answered : net.responder.answer url with
  | body text => exact .ok trivial
  | status code => exact .error trivial
  | failure text => exact absurd answered (answers url text)

theorem buildUrl_providerFault (raw : String) (pairs : List (String × String)) :
    Fails FetchError.ProviderFault (buildUrl raw pairs) := by
  unfold buildUrl parseUrl
  cases Web.Url.parse raw with
  | ok u => exact .ok trivial
  | error reason => exact .error trivial

namespace Mlb

theorem readBody_providerFault {α : Type} (url : String) (decode : Json → Option α) (body : String) :
    Fails FetchError.ProviderFault (readBody url decode body) := by
  unfold readBody
  split
  · split
    · exact .ok trivial
    · exact .error trivial
  · exact .error trivial

theorem fetchJson_providerFault {α : Type} (url : String) (decode : Json → Option α) :
    Yields (Fails FetchError.ProviderFault) (fetchJson url decode) := by
  unfold fetchJson
  exact Yields.bind_cases (fetchBody_settles url) (fetchBody_providerFault url)
    (fun _ fault => Yields.pure (.error fault)) fun body _ =>
      Yields.pure (readBody_providerFault url decode body)

theorem teamRecords_providerFault (base : String) (year : Int) :
    Yields (Fails FetchError.ProviderFault) (teamRecords base year) := by
  unfold teamRecords
  cases built : standingsUrl base year with
  | error e => exact Yields.pure (.error (Meets.error_of_eq (buildUrl_providerFault _ _) built))
  | ok url => exact fetchJson_providerFault url _

theorem teamScores_providerFault (base : String) (year : Int) :
    Yields (Fails FetchError.ProviderFault) (teamScores base year) := by
  unfold teamScores
  exact Yields.bind (teamRecords_settles base year) (teamRecords_providerFault base year)
    fun records faults => Yields.pure (Meets.map faults _)

/-- A names request that succeeds names exactly the distinct ids it asked for. -/
def NamesAll (ids : List Int) (found : List (Int × String)) : Prop :=
  (found.map (·.1)).eraseDups.Perm ids.eraseDups

/-- Names kept for wanted ids, as many distinct ones as are wanted, are all of them. -/
theorem namesAll_of_length {ids : List Int} {people : List (Int × String)}
    (counted : ((people.filter fun (id, _) => ids.eraseDups.contains id).map (·.1)).eraseDups.length =
      ids.eraseDups.length) :
    NamesAll ids (people.filter fun (id, _) => ids.eraseDups.contains id) := by
  have within : ((people.filter fun (id, _) => ids.eraseDups.contains id).map (·.1)).eraseDups ⊆
      ids.eraseDups := by
    intro id member
    simp only [List.mem_eraseDups, List.mem_map, List.mem_filter] at member
    obtain ⟨⟨named, name⟩, ⟨-, wanted⟩, rfl⟩ := member
    simpa using wanted
  exact (List.Nodup.subperm (nodup_eraseDups _) within).perm_of_length_le (Nat.le_of_eq counted.symm)

/-- The names request fails only at the provider, and names every id it asked for. -/
theorem names_providerFault (base : String) (ids : List Int) :
    Yields (Meets FetchError.ProviderFault (NamesAll ids)) (names base ids) := by
  unfold names
  cases built : namesUrl base ids with
  | error e => exact Yields.pure (.error (Meets.error_of_eq (buildUrl_providerFault _ _) built))
  | ok url =>
    refine Yields.bind_cases (fetchJson_settles url readPeople)
      (fetchJson_providerFault url readPeople) (fun _ fault => Yields.pure (.error fault))
      fun people _ => ?_
    dsimp only
    split
    · exact Yields.pure (.error trivial)
    · rename_i counted
      exact Yields.pure (.ok (namesAll_of_length (Decidable.of_not_not counted)))

theorem stat_providerFault (base : String) (kind : CategoryKind) (year id : Int) :
    Yields (Fails FetchError.ProviderFault) (stat base kind year id) := by
  unfold stat
  cases built : statUrl base year id with
  | error e => exact Yields.pure (.error (Meets.error_of_eq (buildUrl_providerFault _ _) built))
  | ok url =>
    refine Yields.bind_cases (fetchJson_settles url readStatGroups)
      (fetchJson_providerFault url readStatGroups) (fun _ fault => Yields.pure (.error fault))
      fun groups _ => ?_
    dsimp only
    split
    · exact Yields.pure (.ok trivial)
    · exact Yields.pure (.ok trivial)
    · exact Yields.pure (.error trivial)

end Mlb

namespace Nfl

theorem url_providerFault (c : Client) (path : String) (params : List (String × String)) :
    Fails FetchError.ProviderFault (c.url path params) := by
  unfold Client.url
  exact buildUrl_providerFault _ _

theorem readSourceId_providerFault (raw : String) :
    Fails FetchError.ProviderFault (readSourceId raw) := by
  unfold readSourceId
  split
  · exact .ok trivial
  · exact .error trivial

theorem recordWins_providerFault (record : String) :
    Fails FetchError.ProviderFault (recordWins record) := by
  unfold recordWins
  dsimp only
  split
  · exact .error trivial
  · split
    · exact .ok trivial
    · exact .error trivial

theorem statValue_providerFault (value : Json) : Fails FetchError.ProviderFault (statValue value) := by
  unfold statValue
  split
  · split
    · exact .ok trivial
    · exact .error trivial
  · split
    · exact .ok trivial
    · exact .error trivial
  · exact .error trivial

theorem seasonStats_providerFault (p : GamePlayer) (year : Int) :
    Fails FetchError.ProviderFault (p.seasonStats year) := by
  unfold GamePlayer.seasonStats
  split
  · dsimp only
    split
    · exact Meets.mapM fun entry _ => Meets.map (statValue_providerFault entry.2) _
    · exact .error trivial
  · exact .error trivial

theorem teams_providerFault (c : Client) (year : Int) :
    Yields (Fails FetchError.ProviderFault) (teams c year) := by
  unfold teams
  cases built : c.url "nfl/schedule" [("season", toString year)] with
  | error e => exact Yields.pure (.error (Meets.error_of_eq (url_providerFault _ _ _) built))
  | ok url =>
    exact Yields.bind_cases (Mlb.fetchJson_settles url readSchedule)
      (Mlb.fetchJson_providerFault url readSchedule) (fun _ fault => Yields.pure (.error fault))
      fun keyed _ =>
        Yields.pure (Meets.mapM fun (key, _) _ => Meets.map (readSourceId_providerFault key) _)

theorem teamScores_providerFault (c : Client) (year : Int) :
    Yields (Fails FetchError.ProviderFault) (teamScores c year) := by
  unfold teamScores
  exact Yields.bind_cases (teams_settles c year) (teams_providerFault c year)
    (fun _ fault => Yields.pure (.error fault)) fun found _ =>
      Yields.pure (Meets.mapM fun (_, team) _ => Meets.map (recordWins_providerFault team.record) _)

theorem playerScores_providerFault (c : Client) (kind : CategoryKind) (year : Int) (ids : List Int) :
    Yields (Fails FetchError.ProviderFault) (playerScores c kind year ids) := by
  unfold playerScores
  cases built : c.url "batchservices" [("services", services year ids)] with
  | error e => exact Yields.pure (.error (Meets.error_of_eq (url_providerFault _ _ _) built))
  | ok url =>
    refine Yields.bind_cases (Mlb.fetchJson_settles url (readGames c.order))
      (Mlb.fetchJson_providerFault url (readGames c.order)) (fun _ fault => Yields.pure (.error fault))
      fun players _ => Yields.pure (Meets.map (Meets.mapM fun p _ => ?_) _)
    -- a player's line reads the player's id, then, for a wanted player, the season's stats
    unfold playerLine
    cases read : readSourceId p.playerId with
    | error e => exact .error (Meets.error_of_eq (readSourceId_providerFault p.playerId) read)
    | ok id =>
      show Fails _ (if !ids.contains id then Pure.pure none else _)
      split
      · exact .ok trivial
      · cases stats : p.seasonStats year with
        | error e => exact .error (Meets.error_of_eq (seasonStats_providerFault p year) stats)
        | ok stats => exact .ok trivial

end Nfl

theorem Sources.bulkScores_providerFault (s : Sources) (kind : CategoryKind) (year : Int)
    (ids : List Int) : Yields (Fails FetchError.ProviderFault) (s.bulkScores kind year ids) := by
  unfold Sources.bulkScores
  split
  · exact Mlb.teamScores_providerFault _ _
  · exact Nfl.teamScores_providerFault _ _
  · exact Nfl.playerScores_providerFault _ _ _ _

/-! Lookups of players scored one by one, and the scoring of categories. -/

theorem Meets.good_of_eq {ε α : Type} {bad : ε → Prop} {good : α → Prop} {x : Except ε α}
    (meets : Meets bad good x) {a : α} (succeeded : x = .ok a) : good a := by
  rw [succeeded] at meets
  cases meets with
  | ok holds => exact holds

theorem exists_mapM_eq_ok {ε α β : Type} {l : List β} {f : β → Except ε α}
    (each : ∀ b ∈ l, ∃ v, f b = .ok v) : ∃ values, l.mapM f = .ok values := by
  induction l with
  | nil => exact ⟨[], rfl⟩
  | cons b rest inductionHypothesis =>
    obtain ⟨v, first⟩ := each b List.mem_cons_self
    obtain ⟨vs, others⟩ := inductionHypothesis fun c member => each c (List.mem_cons_of_mem _ member)
    refine ⟨v :: vs, ?_⟩
    rw [List.mapM_cons, first, others]
    rfl

theorem eraseDups_perm_of_nodup {α : Type} [BEq α] [LawfulBEq α] {l : List α} (distinct : l.Nodup) :
    l.eraseDups.Perm l :=
  (List.perm_ext_iff_of_nodup (nodup_eraseDups l) distinct).2 fun _ => List.mem_eraseDups

theorem lookupLast_isSome_iff {α : Type} {k : Int} {pairs : List (Int × α)} :
    (lookupLast k pairs).isSome ↔ k ∈ pairs.map (·.1) := by
  simp [lookupLast, List.find?_isSome]

/-- The join succeeds once every player's source id has a name and a stat. -/
theorem nameScoresOfFields_ok {players : List Player} {names : List (Int × String)}
    {stats : List (Int × Int)} (named : ∀ p ∈ players, p.sourceId ∈ names.map (·.1))
    (stated : ∀ p ∈ players, p.sourceId ∈ stats.map (·.1)) :
    ∃ nameScores, nameScoresOfFields players names stats = .ok nameScores := by
  refine exists_mapM_eq_ok fun p member => ?_
  obtain ⟨name, hasName⟩ := Option.isSome_iff_exists.1 (lookupLast_isSome_iff.2 (named p member))
  obtain ⟨stat, hasStat⟩ := Option.isSome_iff_exists.1 (lookupLast_isSome_iff.2 (stated p member))
  exact ⟨(p.id, ⟨name, stat⟩), by simp only [hasName, hasStat]⟩

/-- What a lookup that succeeds must bring: a name for every distinct id asked for, or the stat
of the id asked about. -/
def LookupRequest.Answered : LookupRequest → Lookup → Prop
  | .names ids, l => ∃ found, l = .names found ∧ Mlb.NamesAll ids found
  | .stat id, l => ∃ v, l = .stat id v

/-- Stat lookups that each bring the stat of their id bring one result and one stat per id, and
no names. -/
theorem stat_lookups {ids : List Int} {rest : List Lookup}
    (answered : List.Forall₂ (fun id l => ∃ v, l = .stat id v) ids rest) :
    rest.flatMap Lookup.ids = ids ∧ rest.flatMap Lookup.nameEntries = [] ∧
      (rest.flatMap Lookup.statEntries).map (·.1) = ids := by
  induction answered with
  | nil => exact ⟨rfl, rfl, rfl⟩
  | cons first _ inductionHypothesis =>
    obtain ⟨v, rfl⟩ := first
    obtain ⟨sameIds, noNames, sameKeys⟩ := inductionHypothesis
    refine ⟨?_, ?_, ?_⟩ <;>
      simp [List.flatMap_cons, Lookup.ids, Lookup.nameEntries, Lookup.statEntries, sameIds, noNames,
        sameKeys]

/-- Lookups that each bring what they were asked for give every player a name and a stat. -/
theorem nameScoresOfLookups_ok (category : Category) {players : List Player} {ids : List Int}
    (distinct : ids.Nodup) (asked : ∀ p ∈ players, p.sourceId ∈ ids) {lookups : List Lookup}
    (answered : List.Forall₂ LookupRequest.Answered (lookupRequests ids) lookups) :
    ∃ nameScores, nameScoresOfLookups category players ids lookups = .ok nameScores := by
  rw [lookupRequests, List.forall₂_cons_left_iff] at answered
  obtain ⟨first, rest, ⟨found, rfl, all⟩, stats, rfl⟩ := answered
  rw [List.forall₂_map_left_iff] at stats
  obtain ⟨statIds, noNames, statKeys⟩ := stat_lookups stats
  -- the names lookup names as many distinct ids as were asked for, and each of them
  have namedCount : (found.map (·.1)).eraseDups.length = ids.length :=
    all.length_eq.trans (eraseDups_perm_of_nodup distinct).length_eq
  have named : ∀ p ∈ players, p.sourceId ∈ found.map (·.1) := by
    intro p member
    have listed : p.sourceId ∈ ids.eraseDups := List.mem_eraseDups.2 (asked p member)
    exact List.mem_eraseDups.1 (all.mem_iff.2 listed)
  have received : ((Lookup.names found :: rest).flatMap Lookup.ids).length = 2 * ids.length := by
    rw [List.flatMap_cons, List.length_append, statIds]
    simp only [Lookup.ids, namedCount]
    omega
  have stated : ∀ p ∈ players,
      p.sourceId ∈ ((Lookup.names found :: rest).flatMap Lookup.statEntries).map (·.1) := by
    intro p member
    rw [List.flatMap_cons, Lookup.statEntries, List.nil_append, statKeys]
    exact asked p member
  obtain ⟨nameScores, joined⟩ := nameScoresOfFields_ok named stated
  refine ⟨nameScores, ?_⟩
  unfold nameScoresOfLookups
  rw [if_neg (by simp only [received, ne_eq, not_true_eq_false, not_false_eq_true]),
    List.flatMap_cons, Lookup.nameEntries, noNames, List.append_nil]
  rw [joined]
  rfl

section Category

variable (sources : Sources) (category : Category) (year : Int)

/-- A lookup fails only at the provider, and brings what it was asked for. -/
theorem lookup_providerFault (request : LookupRequest) :
    Yields (Meets ScoreError.ProviderFault request.Answered)
      (lookup sources category year request) := by
  cases request with
  | names ids =>
    exact Yields.bind_cases (sources.playerNames_settles ids) (Mlb.names_providerFault _ ids)
      (fun _ fault => Yields.pure (.error fault)) fun found all =>
        Yields.pure (.ok ⟨found, rfl, all⟩)
  | stat id =>
    exact Yields.bind_cases (sources.playerStat_settles category.kind year id)
      (Mlb.stat_providerFault _ category.kind year id) (fun _ fault => Yields.pure (.error fault))
      fun v _ => Yields.pure (.ok ⟨v, rfl⟩)

/-- A category's names and scores fail only as one of its provider requests does. -/
theorem categoryNameScores_providerFault (players : List Player) :
    Yields (Fails ScoreError.ProviderFault)
      (categoryNameScores .spawned sources category year players (sourceIds players)) := by
  cases perPlayer : Sources.perPlayer category.kind with
  | false =>
    unfold categoryNameScores
    rw [if_neg (by simp [perPlayer])]
    exact Yields.bind_cases (sources.bulkScores_settles _ _ _)
      (sources.bulkScores_providerFault _ _ _) (fun _ fault => Yields.pure (.error fault))
      fun _ _ => Yields.pure (.ok trivial)
  | true =>
    refine ⟨fun net coherent answers => ?_⟩
    -- the lookups each run on the network as it is, and are collected in the order spawned
    let answer (r : LookupRequest) := ((lookup sources category year r).run net).1
    have collected := joinOrAbort_map_run (lookup_settles sources category year) coherent
      (lookupRequests (sourceIds players))
    rw [categoryNameScores_run_perPlayer sources year .spawned category players _ net perPlayer]
    change Fails _ ((((joinOrAbort ((lookupRequests (sourceIds players)).map
      (lookup sources category year))).run net).1).bind _)
    rw [collected]
    cases all : (lookupRequests (sourceIds players)).mapM answer with
    | error e =>
      obtain ⟨r, _, failed⟩ := exists_of_mapM_eq_error all
      exact .error (Meets.error_of_eq
        ((lookup_providerFault sources category year r).holds net coherent answers) failed)
    | ok lookups =>
      have answered : List.Forall₂ LookupRequest.Answered (lookupRequests (sourceIds players))
          lookups :=
        (mapM_eq_ok_iff.1 all).imp fun r _ found => Meets.good_of_eq
          ((lookup_providerFault sources category year r).holds net coherent answers) found
      obtain ⟨nameScores, joined⟩ := nameScoresOfLookups_ok category (nodup_sourceIds players)
        (fun p member => mem_sourceIds.2 ⟨p, member, rfl⟩) answered
      change Fails _ (nameScoresOfLookups category players (sourceIds players) lookups)
      rw [joined]
      exact .ok trivial

/-- With every kind wired, a category's scoring fails only as one of its provider requests does. -/
theorem scoreCategoryBy_providerFault (wired : ∀ kind, sources.isWired kind = true)
    (friends : List Friend) (players : List Player) :
    Yields (Fails ScoreError.ProviderFault)
      (scoreCategoryBy .spawned sources category year friends players) := by
  refine ⟨fun net coherent answers => ?_⟩
  rw [scoreCategoryBy_run]
  split
  · exact .ok trivial
  · rw [if_neg (by simp [wired])]
    cases named : ((categoryNameScores .spawned sources category year players (sourceIds players)).run
      net).1 with
    | error e =>
      exact .error (Meets.error_of_eq
        ((categoryNameScores_providerFault sources category year players).holds net coherent answers)
        named)
    | ok nameScores => exact .ok trivial

end Category

/-- Scoring a sport with every kind wired fails only as one of its provider requests does. -/
theorem scoreCategories_providerFault (sources : Sources)
    (wired : ∀ kind, sources.isWired kind = true) (categories : List Category) (year : Int)
    (friends : List Friend) (players : List Player)
    (covered : ∀ p ∈ players, p.categoryId ∈ categories.map (·.id)) :
    Yields (Fails ScoreError.ProviderFault)
      (scoreCategories sources categories year friends players) := by
  refine ⟨fun net coherent answers => ?_⟩
  have none : players.find? (fun p => !(categories.any (·.id == p.categoryId))) = none :=
    List.find?_eq_none.2 fun p member => by simpa [any_id_iff] using covered p member
  cases scored : ((scoreCategories sources categories year friends players).run net).1 with
  | ok boards => exact .ok trivial
  | error e =>
    obtain ⟨c, _, failed⟩ := scoreCategoriesBy_error sources year friends players coherent none scored
    exact .error (Meets.error_of_eq
      ((scoreCategoryBy_providerFault sources c year wired friends _).holds net coherent answers)
      failed)

end DraftPool
