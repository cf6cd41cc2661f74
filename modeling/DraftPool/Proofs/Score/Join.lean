import DraftPool.Proofs.Score.Faults

/-
The two ways a provider's answer is joined onto players. The main statement is
`fieldJoin_agrees_with_sourceJoin`.
-/

namespace DraftPool

/-- Pairs each source id's name with its stat, for the source ids both maps list. -/
def joinFields (names : List (Int × String)) (stats : List (Int × Int)) : List (Int × NameScore) :=
  names.filterMap fun entry => (lookupLast entry.1 stats).map fun stat => (entry.1, ⟨entry.2, stat⟩)

/-- The joined map gives a source id the name and the stat the two maps give it. -/
theorem lookupLast_joinFields (names : List (Int × String)) (stats : List (Int × Int)) (k : Int) :
    lookupLast k (joinFields names stats) =
      (lookupLast k names).bind fun name => (lookupLast k stats).map fun stat => ⟨name, stat⟩ := by
  rw [lookupLast, joinFields, ← List.filterMap_reverse, List.find?_filterMap]
  cases stated : lookupLast k stats with
  | none =>
    -- no entry of the key survives the join
    have dropped : names.reverse.find? (fun entry => ((lookupLast entry.1 stats).map fun stat =>
        (entry.1, (⟨entry.2, stat⟩ : NameScore))).any (·.1 == k)) = none := by
      rw [List.find?_eq_none]
      intro entry _ kept
      simp only [Option.any_map, Option.any_eq_true, beq_iff_eq] at kept
      obtain ⟨_, listed, rfl⟩ := kept
      rw [stated] at listed
      cases listed
    rw [dropped]
    cases lookupLast k names <;> rfl
  | some stat =>
    -- every entry of the key survives, so the last one is found
    have sameTest : (fun entry : Int × String => ((lookupLast entry.1 stats).map fun stat =>
        (entry.1, (⟨entry.2, stat⟩ : NameScore))).any (·.1 == k)) = (·.1 == k) := by
      funext entry
      by_cases same : entry.1 = k
      · simp [same, stated]
      · cases lookupLast entry.1 stats <;> simp [same]
    rw [sameTest, show lookupLast k names = (names.reverse.find? (·.1 == k)).map (·.2) from rfl]
    cases found : names.reverse.find? (·.1 == k) with
    | none => rfl
    | some entry =>
      have sameKey : entry.1 = k := by simpa using List.find?_some found
      simp [sameKey, stated]

/-- The bulk join resolves a player id as the last player with that id, an unlisted source giving
an empty name and zero. -/
theorem lookupLast_nameScoresOfSources (players : List Player) (sources : List (Int × NameScore))
    (k : Int) : lookupLast k (nameScoresOfSources players sources) =
      (players.reverse.find? (·.id == k)).map fun p => (lookupLast p.sourceId sources).getD ⟨"", 0⟩ := by
  unfold lookupLast nameScoresOfSources
  rw [← List.map_reverse, List.find?_map, Option.map_map]
  rfl

theorem exists_lookupLast_of_mem {α : Type} {k : Int} {pairs : List (Int × α)}
    (listed : k ∈ pairs.map (·.1)) : ∃ v, lookupLast k pairs = some v :=
  Option.isSome_iff_exists.1 (lookupLast_isSome_iff.2 listed)

theorem lookupLast_eq_none_iff {α : Type} {k : Int} {pairs : List (Int × α)} :
    lookupLast k pairs = none ↔ k ∉ pairs.map (·.1) := by
  rw [← Option.not_isSome_iff_eq_none, lookupLast_isSome_iff]

theorem except_map_eq_ok_iff {ε α β : Type} {f : α → β} {x : Except ε α} {b : β} :
    x.map f = .ok b ↔ ∃ a, x = .ok a ∧ b = f a := by
  cases x with
  | error e => simp [Except.map]
  | ok a => simp [Except.map, eq_comm]

/-! The join of names and stats, one player at a time. -/

section Fields

variable {p : Player} {rest : List Player} {names : List (Int × String)} {stats : List (Int × Int)}

theorem nameScoresOfFields_nil (names : List (Int × String)) (stats : List (Int × Int)) :
    nameScoresOfFields [] names stats = .ok [] := rfl

theorem nameScoresOfFields_cons_of_found {name : String} {stat : Int}
    (named : lookupLast p.sourceId names = some name) (stated : lookupLast p.sourceId stats = some stat) :
    nameScoresOfFields (p :: rest) names stats =
      (nameScoresOfFields rest names stats).map ((p.id, ⟨name, stat⟩) :: ·) := by
  rcases joined : nameScoresOfFields rest names stats with e | entries
  all_goals
    unfold nameScoresOfFields at joined ⊢
    rw [List.mapM_cons]
    simp only [named, stated, joined]
    rfl

/-- A player whose source id has a name and a stat resolves to them against the joined map. -/
theorem nameScoresOfSources_cons_joinFields {name : String} {stat : Int}
    (named : lookupLast p.sourceId names = some name) (stated : lookupLast p.sourceId stats = some stat) :
    nameScoresOfSources (p :: rest) (joinFields names stats) =
      (p.id, ⟨name, stat⟩) :: nameScoresOfSources rest (joinFields names stats) := by
  have joined : lookupLast p.sourceId (joinFields names stats) = some ⟨name, stat⟩ := by
    rw [lookupLast_joinFields, named, stated]
    rfl
  simp [nameScoresOfSources, joined]

theorem nameScoresOfFields_cons_of_unnamed (unnamed : lookupLast p.sourceId names = none) :
    nameScoresOfFields (p :: rest) names stats = .error (.name p.id p.sourceId) := by
  unfold nameScoresOfFields
  rw [List.mapM_cons]
  simp only [unnamed]
  rfl

theorem nameScoresOfFields_cons_of_unstated {name : String}
    (named : lookupLast p.sourceId names = some name) (unstated : lookupLast p.sourceId stats = none) :
    nameScoresOfFields (p :: rest) names stats = .error (.stat p.id p.sourceId) := by
  unfold nameScoresOfFields
  rw [List.mapM_cons]
  simp only [named, unstated]
  rfl

/-- A player left without a name or a stat fails the join at once, a missing name first. -/
theorem nameScoresOfFields_cons_of_missing
    (missing : ¬ (p.sourceId ∈ names.map (·.1) ∧ p.sourceId ∈ stats.map (·.1))) :
    nameScoresOfFields (p :: rest) names stats =
      .error (if p.sourceId ∈ names.map (·.1) then .stat p.id p.sourceId else .name p.id p.sourceId) := by
  by_cases listed : p.sourceId ∈ names.map (·.1)
  · obtain ⟨name, named⟩ := exists_lookupLast_of_mem listed
    have unstated := lookupLast_eq_none_iff.2 fun stated => missing ⟨listed, stated⟩
    rw [if_pos listed, nameScoresOfFields_cons_of_unstated named unstated]
  · rw [if_neg listed, nameScoresOfFields_cons_of_unnamed (lookupLast_eq_none_iff.2 listed)]

end Fields

/-- The join of names and stats succeeds exactly when every player's source id has a name and a
stat, and then it resolves the players as the bulk join does against the joined map. -/
theorem nameScoresOfFields_eq_ok_iff {players : List Player} {names : List (Int × String)}
    {stats : List (Int × Int)} {resolved : List (Int × NameScore)} :
    nameScoresOfFields players names stats = .ok resolved ↔
      (∀ p ∈ players, p.sourceId ∈ names.map (·.1) ∧ p.sourceId ∈ stats.map (·.1)) ∧
        resolved = nameScoresOfSources players (joinFields names stats) := by
  induction players generalizing resolved with
  | nil =>
    rw [nameScoresOfFields_nil]
    simp [nameScoresOfSources, eq_comm]
  | cons p rest inductionHypothesis =>
    by_cases covered : p.sourceId ∈ names.map (·.1) ∧ p.sourceId ∈ stats.map (·.1)
    · obtain ⟨name, named⟩ := exists_lookupLast_of_mem covered.1
      obtain ⟨stat, stated⟩ := exists_lookupLast_of_mem covered.2
      -- the player resolves first on both sides, and the rest as the induction hypothesis says
      rw [nameScoresOfFields_cons_of_found named stated, nameScoresOfSources_cons_joinFields named stated,
        except_map_eq_ok_iff, List.forall_mem_cons]
      simp only [inductionHypothesis, covered, true_and]
      constructor
      · rintro ⟨_, ⟨others, rfl⟩, rfl⟩
        exact ⟨others, rfl⟩
      · rintro ⟨others, rfl⟩
        exact ⟨_, ⟨others, rfl⟩, rfl⟩
    · rw [nameScoresOfFields_cons_of_missing covered]
      constructor
      · intro failed
        cases failed
      · rintro ⟨coveredAll, _⟩
        exact absurd (coveredAll p List.mem_cons_self) covered

/-- The join of names and stats fails at the first player left without a name or a stat. -/
theorem nameScoresOfFields_of_first_missing {before after : List Player} {p : Player}
    {names : List (Int × String)} {stats : List (Int × Int)}
    (earlier : ∀ q ∈ before, q.sourceId ∈ names.map (·.1) ∧ q.sourceId ∈ stats.map (·.1))
    (missing : ¬ (p.sourceId ∈ names.map (·.1) ∧ p.sourceId ∈ stats.map (·.1))) :
    nameScoresOfFields (before ++ p :: after) names stats =
      .error (if p.sourceId ∈ names.map (·.1) then .stat p.id p.sourceId else .name p.id p.sourceId) := by
  induction before with
  | nil => exact nameScoresOfFields_cons_of_missing missing
  | cons q rest inductionHypothesis =>
    have covered := earlier q List.mem_cons_self
    obtain ⟨name, named⟩ := exists_lookupLast_of_mem covered.1
    obtain ⟨stat, stated⟩ := exists_lookupLast_of_mem covered.2
    rw [List.cons_append, nameScoresOfFields_cons_of_found named stated,
      inductionHypothesis fun r member => earlier r (List.mem_cons_of_mem q member)]
    rfl

/-- The two joins of a provider's answer agree. -/
theorem fieldJoin_agrees_with_sourceJoin (players : List Player) (names : List (Int × String))
    (stats : List (Int × Int)) :
    (∀ resolved, nameScoresOfFields players names stats = .ok resolved ↔
      (∀ p ∈ players, p.sourceId ∈ names.map (·.1) ∧ p.sourceId ∈ stats.map (·.1)) ∧
        resolved = nameScoresOfSources players (joinFields names stats)) ∧
    (∀ k, lookupLast k (joinFields names stats) =
      (lookupLast k names).bind fun name => (lookupLast k stats).map fun stat => ⟨name, stat⟩) ∧
    (∀ before p after, players = before ++ p :: after →
      (∀ q ∈ before, q.sourceId ∈ names.map (·.1) ∧ q.sourceId ∈ stats.map (·.1)) →
      ¬ (p.sourceId ∈ names.map (·.1) ∧ p.sourceId ∈ stats.map (·.1)) →
      nameScoresOfFields players names stats =
        .error (if p.sourceId ∈ names.map (·.1) then .stat p.id p.sourceId else .name p.id p.sourceId)) ∧
    ∀ (sources : List (Int × NameScore)) k, lookupLast k (nameScoresOfSources players sources) =
      (players.reverse.find? (·.id == k)).map fun p => (lookupLast p.sourceId sources).getD ⟨"", 0⟩ := by
  refine ⟨fun _ => nameScoresOfFields_eq_ok_iff, lookupLast_joinFields names stats, ?_,
    lookupLast_nameScoresOfSources players⟩
  rintro before p after rfl earlier missing
  exact nameScoresOfFields_of_first_missing earlier missing

end DraftPool
