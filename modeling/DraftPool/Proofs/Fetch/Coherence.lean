import DraftPool.Score.Engine

/-
Scoring does not depend on the request cache while the cache agrees with the network.
-/

namespace DraftPool

/-- Every cached body is the responder's answer for its URL. -/
structure Net.Coherent (net : Net) : Prop where
  cached : ∀ entry ∈ net.cache.entries, net.responder.answer entry.1 = .body entry.2

namespace RequestCache

theorem mem_of_get? {cache : RequestCache} {url body : String}
    (found : cache.get? url = some body) : (url, body) ∈ cache.entries := by
  obtain ⟨entry, first, rfl⟩ := Option.map_eq_some_iff.1 found
  have sameUrl := List.find?_some first
  rw [beq_iff_eq] at sameUrl
  rw [← sameUrl]
  exact List.mem_of_find?_eq_some first

/-- Storing a body keeps the other entries or drops them, and adds no other. -/
theorem mem_add {cache : RequestCache} {url body : String} {entry : String × String}
    (member : entry ∈ (cache.add url body).entries) :
    entry = (url, body) ∨ entry ∈ cache.entries := by
  unfold add at member
  split at member
  · obtain ⟨old, stored, rfl⟩ := List.mem_map.1 member
    split
    · exact .inl rfl
    · exact .inr stored
  · split at member
    · rcases List.mem_append.1 member with stored | added
      · exact .inr stored
      · exact .inl (List.mem_singleton.1 added)
    · rcases List.mem_append.1 member with kept | added
      · exact .inr (List.mem_of_mem_drop kept)
      · exact .inl (List.mem_singleton.1 added)

end RequestCache

namespace Net

theorem Coherent.answer_of_get? {net : Net} (coherent : net.Coherent) {url body : String}
    (found : net.cache.get? url = some body) : net.responder.answer url = .body body :=
  coherent.cached _ (RequestCache.mem_of_get? found)

theorem Coherent.add {net : Net} (coherent : net.Coherent) {url body : String}
    (answered : net.responder.answer url = .body body) (calls : Nat) :
    ({ net with cache := net.cache.add url body, calls := calls } : Net).Coherent := by
  constructor
  intro entry member
  rcases RequestCache.mem_add member with rfl | stored
  · exact answered
  · exact coherent.cached entry stored

theorem Coherent.withCalls {net : Net} (coherent : net.Coherent) (calls : Nat) :
    ({ net with calls := calls } : Net).Coherent :=
  ⟨coherent.cached⟩

theorem Coherent.clear (net : Net) :
    ({ net with cache := net.cache.clear } : Net).Coherent :=
  ⟨fun _ member => by simp [RequestCache.clear] at member⟩

end Net

/-- What a request gives for the network's answer. -/
def Reply.result (url : String) : Reply → Except FetchError String
  | .body text => .ok text
  | .status code => .error (.httpStatus code url)
  | .failure text => .error (.transport text)

/-- On a coherent network a fetch gives the responder's answer, cached or not, and leaves the
network coherent with the same responder. -/
theorem fetchBody_run {net : Net} (coherent : net.Coherent) (url : String) :
    ((fetchBody url).run net).1 = (net.responder.answer url).result url ∧
      ((fetchBody url).run net).2.Coherent ∧
      ((fetchBody url).run net).2.responder = net.responder := by
  simp only [fetchBody, StateT.run_bind, StateT.run_get]
  dsimp only [bind, pure]
  cases cached : net.cache.get? url with
  | some body =>
    rw [coherent.answer_of_get? cached]
    exact ⟨rfl, coherent, rfl⟩
  | none =>
    cases answered : net.responder.answer url with
    | body text => exact ⟨rfl, coherent.add answered _, rfl⟩
    | status code => exact ⟨rfl, coherent.withCalls _, rfl⟩
    | failure text => exact ⟨rfl, coherent.withCalls _, rfl⟩

/-! The cache is transparent over any sequence of fetches and clears. -/

theorem RequestCache.get?_eq_none_iff {cache : RequestCache} {url : String} :
    cache.get? url = none ↔ cache.contains url = false := by
  simp [get?, contains, List.find?_eq_none, List.any_eq_false]

/-- The cache after the network answers a request: a body is stored, anything else is not. -/
def RequestCache.record (cache : RequestCache) (url : String) : Reply → RequestCache
  | .body text => cache.add url text
  | _ => cache

/-- A fetch sends a request exactly when the URL is not cached, and only a body it gets back
changes the cache. -/
theorem fetchBody_state (net : Net) (url : String) :
    ((fetchBody url).run net).2 =
      if net.cache.contains url then net
      else { net with
        cache := net.cache.record url (net.responder.answer url), calls := net.calls + 1 } := by
  simp only [fetchBody, StateT.run_bind, StateT.run_get]
  dsimp only [bind, pure]
  cases cached : net.cache.get? url with
  | some body =>
    have present : net.cache.contains url = true := by
      cases found : net.cache.contains url
      · rw [RequestCache.get?_eq_none_iff.2 found] at cached
        contradiction
      · rfl
    rw [if_pos present]
    rfl
  | none =>
    rw [if_neg (by simp [RequestCache.get?_eq_none_iff.1 cached])]
    cases net.responder.answer url <;> rfl

/-- What a client asks of the fetcher: a URL, or to clear the cache. -/
inductive FetchCall where
  | fetch (url : String)
  | clear

/-- The network after a client's fetches and clears, in order. -/
def Net.after (net : Net) : List FetchCall → Net
  | [] => net
  | .fetch url :: rest => ((fetchBody url).run net).2.after rest
  | .clear :: rest => ({ net with cache := net.cache.clear } : Net).after rest

/-- Fetches and clears keep a network coherent and never change its responder. -/
theorem Net.Coherent.after {net : Net} (coherent : net.Coherent) (history : List FetchCall) :
    (net.after history).Coherent ∧ (net.after history).responder = net.responder := by
  induction history generalizing net with
  | nil => exact ⟨coherent, rfl⟩
  | cons call rest inductionHypothesis =>
    cases call with
    | fetch url =>
      obtain ⟨-, coherent', responder⟩ := fetchBody_run coherent url
      obtain ⟨coherentAfter, responderAfter⟩ := inductionHypothesis coherent'
      exact ⟨coherentAfter, responderAfter.trans responder⟩
    | clear => exact inductionHypothesis (Net.Coherent.clear net)

/-- Reading JSON decodes the body the fetch gives. -/
theorem Mlb.fetchJson_result {α : Type} (net : Net) (url : String) (decode : Json → Option α) :
    ((Mlb.fetchJson url decode).run net).1 =
      ((fetchBody url).run net).1.bind (Mlb.readBody url decode) := by
  unfold Mlb.fetchJson
  simp only [StateT.run_bind]
  dsimp only [bind]
  cases ((fetchBody url).run net).1 <;> rfl

/-- However the fetcher was used before, a fetch gives the responder's answer and asks the network
exactly when the URL is not cached. -/
theorem fetchBody_transparent (net : Net) (coherent : net.Coherent) (history : List FetchCall)
    (url : String) :
    let before := net.after history
    let after := (fetchBody url).run before
    let answer := net.responder.answer url
    after.1 = answer.result url ∧
      after.2.calls = before.calls + (if before.cache.contains url then 0 else 1) ∧
      after.2.cache =
        (if before.cache.contains url then before.cache else before.cache.record url answer) ∧
      after.2.responder = net.responder ∧
      ∀ {α : Type} (decode : Json → Option α),
        ((Mlb.fetchJson url decode).run before).1 = (answer.result url).bind (Mlb.readBody url decode) := by
  intro before after answer
  obtain ⟨coherentBefore, sameResponder⟩ := coherent.after history
  obtain ⟨result, -, responder⟩ := fetchBody_run coherentBefore url
  rw [sameResponder] at result
  have state := fetchBody_state before url
  rw [sameResponder] at state
  refine ⟨result, ?_, ?_, responder.trans sameResponder, fun decode => ?_⟩
  · rw [state]
    split <;> rfl
  · rw [state]
    split <;> rfl
  · rw [Mlb.fetchJson_result, result]

/-- Transparency applies to a fetcher that starts with an empty cache. -/
theorem fetchBody_transparent_empty :
    let net : Net := ⟨⟨1, [], Nat.one_pos⟩, .canned [("teams", .body "[]")], 0⟩
    net.Coherent ∧
      ((fetchBody "teams").run (net.after [.fetch "teams", .clear])).1 = .ok "[]" := by
  intro net
  have coherent : net.Coherent := ⟨fun _ member => by simp [net] at member⟩
  exact ⟨coherent, (fetchBody_transparent net coherent [.fetch "teams", .clear] "teams").1⟩

/-- A fetching computation settles when its result is the same on all coherent networks with
one responder, and it leaves a network coherent with its responder. -/
def Settles {α : Type} (m : Fetch α) : Prop :=
  ∀ a b : Net, a.Coherent → b.Coherent → a.responder = b.responder →
    (m.run a).1 = (m.run b).1 ∧ (m.run a).2.Coherent ∧ (m.run a).2.responder = a.responder

namespace Settles

theorem pure {α : Type} (x : α) : Settles (Pure.pure x : Fetch α) :=
  fun _ _ coherent _ _ => ⟨rfl, coherent, rfl⟩

theorem bind {α β : Type} {m : Fetch α} {f : α → Fetch β} (first : Settles m)
    (rest : ∀ x, Settles (f x)) : Settles (m >>= f) := by
  intro a b coherentA coherentB sameResponder
  obtain ⟨sameResult, coherentA', responderA⟩ := first a b coherentA coherentB sameResponder
  obtain ⟨-, coherentB', responderB⟩ := first b a coherentB coherentA sameResponder.symm
  simp only [StateT.run_bind]
  dsimp only [Bind.bind]
  rw [sameResult]
  obtain ⟨sameRest, coherentRest, responderRest⟩ := rest (m.run b).1 (m.run a).2 (m.run b).2
    coherentA' coherentB' (responderA.trans (sameResponder.trans responderB.symm))
  exact ⟨sameRest, coherentRest, responderRest.trans responderA⟩

end Settles

theorem fetchBody_settles (url : String) : Settles (fetchBody url) := by
  intro a b coherentA coherentB sameResponder
  obtain ⟨resultA, coherentA', responderA⟩ := fetchBody_run coherentA url
  obtain ⟨resultB, -, -⟩ := fetchBody_run coherentB url
  rw [resultA, resultB, ← sameResponder]
  exact ⟨rfl, coherentA', responderA⟩

namespace Mlb

theorem fetchJson_settles {α : Type} (url : String) (decode : Json → Option α) :
    Settles (fetchJson url decode) := by
  unfold fetchJson
  refine (fetchBody_settles url).bind fun fetched => ?_
  cases fetched <;> exact Settles.pure _

theorem teamRecords_settles (base : String) (year : Int) : Settles (teamRecords base year) := by
  unfold teamRecords
  split
  · exact fetchJson_settles _ _
  · exact Settles.pure _

theorem teamScores_settles (base : String) (year : Int) : Settles (teamScores base year) := by
  unfold teamScores
  exact (teamRecords_settles base year).bind fun _ => Settles.pure _

theorem names_settles (base : String) (ids : List Int) : Settles (names base ids) := by
  unfold names
  split
  · exact Settles.pure _
  · refine (fetchJson_settles _ _).bind fun people => ?_
    cases people
    · exact Settles.pure _
    · dsimp only
      split <;> exact Settles.pure _

theorem stat_settles (base : String) (kind : CategoryKind) (year id : Int) :
    Settles (stat base kind year id) := by
  unfold stat
  split
  · exact Settles.pure _
  · refine (fetchJson_settles _ _).bind fun groups => ?_
    cases groups
    · exact Settles.pure _
    · dsimp only
      split <;> exact Settles.pure _

end Mlb

namespace Nfl

theorem teams_settles (c : Client) (year : Int) : Settles (teams c year) := by
  unfold teams
  split
  · exact Settles.pure _
  · refine (Mlb.fetchJson_settles _ _).bind fun fetched => ?_
    cases fetched <;> exact Settles.pure _

theorem teamScores_settles (c : Client) (year : Int) : Settles (teamScores c year) := by
  unfold teamScores
  refine (teams_settles c year).bind fun fetched => ?_
  cases fetched <;> exact Settles.pure _

theorem playerScores_settles (c : Client) (kind : CategoryKind) (year : Int) (ids : List Int) :
    Settles (playerScores c kind year ids) := by
  unfold playerScores
  split
  · exact Settles.pure _
  · refine (Mlb.fetchJson_settles _ _).bind fun fetched => ?_
    cases fetched <;> exact Settles.pure _

end Nfl

namespace Sources

theorem bulkScores_settles (s : Sources) (kind : CategoryKind) (year : Int) (ids : List Int) :
    Settles (s.bulkScores kind year ids) := by
  unfold bulkScores
  split
  · exact Mlb.teamScores_settles _ _
  · exact Nfl.teamScores_settles _ _
  · exact Nfl.playerScores_settles _ _ _ _

theorem playerNames_settles (s : Sources) (ids : List Int) : Settles (s.playerNames ids) :=
  Mlb.names_settles _ _

theorem playerStat_settles (s : Sources) (kind : CategoryKind) (year id : Int) :
    Settles (s.playerStat kind year id) :=
  Mlb.stat_settles _ _ _ _

end Sources

/-- Tasks that each settle are collected into a result that settles, in any order they
complete. -/
theorem joinOrAbort_settles {α : Type} {tasks : List (Fetch (Except ScoreError α))}
    (each : ∀ task ∈ tasks, Settles task) : Settles (joinOrAbort tasks) := by
  induction tasks with
  | nil => exact Settles.pure _
  | cons task rest inductionHypothesis =>
    have restSettles := inductionHypothesis fun t member => each t (List.mem_cons_of_mem _ member)
    refine (each task List.mem_cons_self).bind fun first => ?_
    cases first with
    | error e => exact Settles.pure _
    | ok a =>
      refine restSettles.bind fun others => ?_
      cases others <;> exact Settles.pure _

theorem lookup_settles (sources : Sources) (category : Category) (year : Int)
    (request : LookupRequest) : Settles (lookup sources category year request) := by
  cases request with
  | names ids =>
    refine (sources.playerNames_settles ids).bind fun names => ?_
    cases names <;> exact Settles.pure _
  | stat id =>
    refine (sources.playerStat_settles category.kind year id).bind fun stat => ?_
    cases stat <;> exact Settles.pure _

theorem categoryNameScores_settles (schedule : Schedule) (sources : Sources) (category : Category)
    (year : Int) (players : List Player) (ids : List Int) :
    Settles (categoryNameScores schedule sources category year players ids) := by
  unfold categoryNameScores
  split
  · have tasks : ∀ task ∈ (schedule.lookups category (lookupRequests ids)).map
        (lookup sources category year), Settles task := by
      intro task member
      obtain ⟨request, _, rfl⟩ := List.mem_map.1 member
      exact lookup_settles sources category year request
    refine (joinOrAbort_settles tasks).bind fun lookups => ?_
    cases lookups <;> exact Settles.pure _
  · refine (sources.bulkScores_settles category.kind year ids).bind fun scores => ?_
    cases scores <;> exact Settles.pure _

theorem scoreCategoryBy_settles (schedule : Schedule) (sources : Sources) (category : Category)
    (year : Int) (friends : List Friend) (players : List Player) :
    Settles (scoreCategoryBy schedule sources category year friends players) := by
  unfold scoreCategoryBy
  dsimp only
  split
  · exact Settles.pure _
  · split
    · exact Settles.pure _
    · refine (categoryNameScores_settles schedule sources category year players _).bind
        fun named => ?_
      cases named <;> exact Settles.pure _

theorem scoreCategoriesBy_settles (schedule : Schedule) (sources : Sources)
    (categories : List Category) (year : Int) (friends : List Friend) (players : List Player) :
    Settles (scoreCategoriesBy schedule sources categories year friends players) := by
  unfold scoreCategoriesBy
  split
  · exact Settles.pure _
  · have tasks : ∀ task ∈ (schedule.categories categories).map (fun c =>
        scoreCategoryBy schedule sources c year friends (players.filter (·.categoryId == c.id))),
        Settles task := by
      intro task member
      obtain ⟨c, _, rfl⟩ := List.mem_map.1 member
      exact scoreCategoryBy_settles schedule sources c year friends _
    refine (joinOrAbort_settles tasks).bind fun boards => ?_
    cases boards <;> exact Settles.pure _

/-- Scoring a sport gives the same boards or error on every coherent network with one responder,
and leaves the network coherent. -/
theorem scoreCategories_settles (sources : Sources) (categories : List Category) (year : Int)
    (friends : List Friend) (players : List Player) :
    Settles (scoreCategories sources categories year friends players) :=
  scoreCategoriesBy_settles .spawned sources categories year friends players

end DraftPool
