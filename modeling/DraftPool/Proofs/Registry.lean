import DraftPool.Category
import Mathlib.Data.List.Nodup

/-
Building a registry. The main statement is `build_validates_and_sorts`.
-/

namespace DraftPool

/-- One category comes strictly before another: an earlier sport, or the same sport and a lower
display order. -/
def Category.Precedes (a b : Category) : Prop :=
  a.sport.id < b.sport.id ∨ (a.sport = b.sport ∧ a.displayOrder < b.displayOrder)

/-- Two categories in sort order with different places are in strict order. -/
theorem Category.precedes_of_sortsBefore {a b : Category} (sorted : a.sortsBefore b = true)
    (apart : a.place ≠ b.place) : a.Precedes b := by
  rw [Category.sortsBefore_iff] at sorted
  rcases sorted with earlier | ⟨same, atMost⟩
  · exact .inl earlier
  · have differ : a.displayOrder ≠ b.displayOrder := fun orders =>
      apart (by simp [Category.place, same, orders])
    exact .inr ⟨same, by omega⟩

theorem Category.faultAgainst_eq_some_iff (ids : List Int) (orders : List (Sport × Int))
    (c : Category) (fault : RegistryError) :
    c.faultAgainst ids orders = some fault ↔
      (c.id ∈ ids ∧ fault = .duplicateId c.id) ∨
        (c.id ∉ ids ∧ c.place ∈ orders ∧ fault = .duplicateOrder c.displayOrder c.sport) := by
  unfold Category.faultAgainst
  split_ifs <;> simp_all [eq_comm]

namespace Registry

/-- The checks fail at the first category with a fault against the ids and places of those
before it. -/
theorem firstFault_eq_some_iff (ids : List Int) (orders : List (Sport × Int))
    (cs : List Category) (fault : RegistryError) :
    firstFault ids orders cs = some fault ↔
      ∃ before c after, cs = before ++ c :: after ∧ firstFault ids orders before = none ∧
        c.faultAgainst ((before.map (·.id)).reverse ++ ids)
          ((before.map Category.place).reverse ++ orders) = some fault := by
  induction cs generalizing ids orders with
  | nil => simp [firstFault]
  | cons c rest inductionHypothesis =>
    rw [firstFault_cons]
    cases own : c.faultAgainst ids orders with
    | some found =>
      -- the category itself is at fault, and no split can pass over it
      constructor
      · rintro ⟨⟩
        exact ⟨[], c, rest, rfl, rfl, own⟩
      · rintro ⟨before, d, after, split, clean, faulty⟩
        rcases List.cons_eq_append_iff.1 split with ⟨rfl, same⟩ | ⟨before, rfl, _⟩
        · cases same
          simpa [own] using faulty
        · rw [firstFault_cons, own] at clean
          cases clean
    | none =>
      -- the category passes, so the fault is the first one of the rest
      rw [Option.none_or, inductionHypothesis]
      constructor
      · rintro ⟨before, d, after, rfl, clean, faulty⟩
        refine ⟨c :: before, d, after, rfl, ?_, ?_⟩
        · rw [firstFault_cons, own, Option.none_or]
          exact clean
        · simpa using faulty
      · rintro ⟨before, d, after, split, clean, faulty⟩
        rcases List.cons_eq_append_iff.1 split with ⟨rfl, same⟩ | ⟨before, rfl, restSplit⟩
        · cases same
          simp [own] at faulty
        · rw [firstFault_cons, own, Option.none_or] at clean
          exact ⟨before, d, after, restSplit, clean, by simpa using faulty⟩

theorem build_eq_error_iff (categories : List Category) (fault : RegistryError) :
    build categories = .error fault ↔ firstFault [] [] categories = some fault := by
  unfold build
  split <;> simp_all

theorem build_eq_ok_iff (categories : List Category) (registry : Registry) :
    build categories = .ok registry ↔
      firstFault [] [] categories = none ∧
        registry.categories = categories.mergeSort Category.sortsBefore := by
  unfold build
  split
  · simp_all
  · rename_i checked
    simp only [checked, true_and, Except.ok.injEq]
    constructor
    · rintro rfl
      rfl
    · intro sorted
      exact Registry.ext sorted.symm

/-- A registry lists its categories strictly ordered by sport and display order. -/
theorem pairwise_precedes (r : Registry) : r.categories.Pairwise Category.Precedes := by
  have apart : r.categories.Pairwise (fun a b => a.place ≠ b.place) :=
    List.pairwise_map.1 r.distinctPlaces
  exact (r.sorted.and apart).imp fun ⟨inOrder, differ⟩ =>
    Category.precedes_of_sortsBefore inOrder differ

/-- In a list with distinct ids, an id finds the one category that has it. -/
theorem find?_id_eq_some_iff {categories : List Category}
    (distinct : (categories.map (·.id)).Nodup) (id : Int) (c : Category) :
    categories.find? (·.id == id) = some c ↔ c ∈ categories ∧ c.id = id := by
  constructor
  · intro found
    exact ⟨List.mem_of_find?_eq_some found, by simpa using List.find?_some found⟩
  · rintro ⟨member, rfl⟩
    cases found : categories.find? (·.id == c.id) with
    | none =>
      rw [List.find?_eq_none] at found
      exact absurd (beq_self_eq_true c.id) (found c member)
    | some d =>
      have sameId : d.id = c.id := by simpa using List.find?_some found
      rw [List.inj_on_of_nodup_map distinct (List.mem_of_find?_eq_some found) member sameId]

end Registry

/-- Building a registry checks the categories in order and sorts the ones it accepts. -/
theorem build_validates_and_sorts (categories : List Category) :
    ((∃ registry, Registry.build categories = .ok registry) ↔
      (categories.map (·.id)).Nodup ∧ (categories.map Category.place).Nodup) ∧
    (∀ fault, Registry.build categories = .error fault ↔
      ∃ before c after, categories = before ++ c :: after ∧
        (before.map (·.id)).Nodup ∧ (before.map Category.place).Nodup ∧
        ((c.id ∈ before.map (·.id) ∧ fault = .duplicateId c.id ∧
            fault.message = "duplicate category id " ++ toString c.id) ∨
          (c.id ∉ before.map (·.id) ∧ c.place ∈ before.map Category.place ∧
            fault = .duplicateOrder c.displayOrder c.sport ∧
            fault.message = "duplicate display order " ++ toString c.displayOrder ++ " for " ++
              c.sport.slug))) ∧
    ∀ registry, Registry.build categories = .ok registry →
      registry.categories.Perm categories ∧ registry.categories.Pairwise Category.Precedes ∧
      (∀ sport, (registry.forSport sport).Perm (categories.filter (·.sport == sport)) ∧
        (registry.forSport sport).Pairwise (·.displayOrder < ·.displayOrder)) ∧
      ∀ id c, registry.get? id = some c ↔ c ∈ categories ∧ c.id = id := by
  refine ⟨?succeeds, fun fault => ?fails, fun registry built => ?sorted⟩
  case succeeds =>
    constructor
    · rintro ⟨registry, built⟩
      have clean := ((Registry.build_eq_ok_iff categories registry).1 built).1
      exact ((Registry.firstFault_eq_none_iff [] [] categories).1 clean).2
    · intro distinct
      have clean : Registry.firstFault [] [] categories = none :=
        (Registry.firstFault_eq_none_iff [] [] categories).2 ⟨fun _ _ => by simp, distinct⟩
      exact ⟨Registry.ofChecked categories clean, (Registry.build_eq_ok_iff _ _).2 ⟨clean, rfl⟩⟩
  case fails =>
    rw [Registry.build_eq_error_iff, Registry.firstFault_eq_some_iff]
    simp only [List.append_nil, Registry.firstFault_eq_none_iff, Category.faultAgainst_eq_some_iff,
      List.mem_reverse, List.not_mem_nil, not_false_eq_true, and_self, implies_true, true_and]
    -- the message of each fault follows from the fault
    constructor
    · rintro ⟨before, c, after, split, ⟨ids, places⟩, found⟩
      refine ⟨before, c, after, split, ids, places, ?_⟩
      rcases found with ⟨repeated, rfl⟩ | ⟨fresh, repeated, rfl⟩
      · exact .inl ⟨repeated, rfl, rfl⟩
      · exact .inr ⟨fresh, repeated, rfl, rfl⟩
    · rintro ⟨before, c, after, split, ids, places, found⟩
      refine ⟨before, c, after, split, ⟨ids, places⟩, ?_⟩
      rcases found with ⟨repeated, same, -⟩ | ⟨fresh, repeated, same, -⟩
      · exact .inl ⟨repeated, same⟩
      · exact .inr ⟨fresh, repeated, same⟩
  case sorted =>
    obtain ⟨-, listed⟩ := (Registry.build_eq_ok_iff categories registry).1 built
    have perm : registry.categories.Perm categories := listed ▸ List.mergeSort_perm _ _
    have strict := registry.pairwise_precedes
    refine ⟨perm, strict, fun sport => ⟨perm.filter _, ?_⟩, fun id c => ?_⟩
    · -- within one sport the strict order is the display order
      refine List.pairwise_filter.2 (strict.imp fun {a b} precedes inSport bInSport => ?_)
      simp only [beq_iff_eq] at inSport bInSport
      rcases precedes with earlier | ⟨-, lower⟩
      · rw [inSport, bInSport] at earlier
        exact absurd earlier (Int.lt_irrefl _)
      · exact lower
    · rw [Registry.get?, Registry.find?_id_eq_some_iff registry.distinctIds]
      exact and_congr_left fun _ => perm.mem_iff

/-- The second category repeats the place of the first before the third repeats its id, so the
place is the fault. -/
example : (Registry.build [⟨1, .mlbTeam, "Teams", "", "Wins", 0, false⟩,
    ⟨2, .mlbHitter, "Hitting", "", "Home Runs", 0, true⟩,
    ⟨1, .nflQb, "Quarterbacks", "", "TDs", 1, true⟩]).mapError RegistryError.message =
      .error "duplicate display order 0 for mlb" := by
  rfl

end DraftPool
