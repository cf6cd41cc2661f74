import DraftPool.Sport

/-
Player categories and the registry that holds them, checked and sorted.
-/

namespace DraftPool

/-- A category that friends draft players or teams in. -/
structure Category where
  id : Int
  kind : CategoryKind
  name : String
  description : String
  scoreType : String
  displayOrder : Int
  topTwoOnly : Bool := false
  deriving DecidableEq, Repr, Inhabited

/-- The sport a category belongs to. -/
def Category.sport (c : Category) : Sport := c.kind.sport

/-- The six categories a pool has unless configured otherwise. -/
def Category.defaults : List Category := [
  ⟨1, .mlbTeam, "Teams", "Wins per team", "Wins", 0, false⟩,
  ⟨2, .mlbHitter, "Hitting", "Home runs of the top two hitters", "Home Runs", 1, true⟩,
  ⟨3, .mlbPitcher, "Pitching", "Wins of the top two pitchers", "Wins", 2, true⟩,
  ⟨4, .nflTeam, "Teams", "Wins per team", "Wins", 0, false⟩,
  ⟨5, .nflQb, "Quarterbacks", "Touchdowns of the top two quarterbacks", "TDs", 1, true⟩,
  ⟨6, .nflMisc, "Misc",
    "Touchdowns of the top two running backs, wide receivers, and tight ends", "TDs", 2, true⟩
]

/-- Why a list of categories makes no registry. -/
inductive RegistryError where
  | duplicateId (id : Int)
  | duplicateOrder (order : Int) (sport : Sport)
  deriving DecidableEq, Repr

/-- The message of a registry fault. -/
def RegistryError.message : RegistryError → String
  | .duplicateId id => s!"duplicate category id {id}"
  | .duplicateOrder order sport => s!"duplicate display order {order} for " ++ sport.slug

/-- The place of a category in the display order: its sport and its display order. -/
def Category.place (c : Category) : Sport × Int := (c.sport, c.displayOrder)

/-- Whether a category sorts no later than another: by sport, then by display order. -/
def Category.sortsBefore (a b : Category) : Bool :=
  if a.sport = b.sport then a.displayOrder ≤ b.displayOrder else a.sport.le b.sport

theorem Sport.id_inj {a b : Sport} (same : a.id = b.id) : a = b := by
  cases a <;> cases b <;> first | rfl | cases same

theorem Category.sortsBefore_iff (a b : Category) :
    a.sortsBefore b = true ↔
      a.sport.id < b.sport.id ∨ (a.sport = b.sport ∧ a.displayOrder ≤ b.displayOrder) := by
  unfold Category.sortsBefore Sport.le
  by_cases same : a.sport = b.sport
  · simp [same]
  · have apart : a.sport.id ≠ b.sport.id := fun ids => same (Sport.id_inj ids)
    simp only [same, if_false, decide_eq_true_eq, false_and, or_false]
    omega

theorem Category.sortsBefore_trans (a b c : Category) :
    a.sortsBefore b = true → b.sortsBefore c = true → a.sortsBefore c = true := by
  simp only [Category.sortsBefore_iff]
  rintro (ab | ⟨ab, abOrder⟩) (bc | ⟨bc, bcOrder⟩)
  · exact .inl (Int.lt_trans ab bc)
  · exact .inl (bc ▸ ab)
  · exact .inl (ab ▸ bc)
  · exact .inr ⟨ab.trans bc, Int.le_trans abOrder bcOrder⟩

theorem Category.sortsBefore_total (a b : Category) :
    (a.sortsBefore b || b.sortsBefore a) = true := by
  simp only [Bool.or_eq_true, Category.sortsBefore_iff]
  by_cases same : a.sport = b.sport
  · simp only [same, true_and]
    omega
  · have apart : a.sport.id ≠ b.sport.id := fun ids => same (Sport.id_inj ids)
    omega

/-- Categories that passed the checks: no two share an id or a place, and they come sorted by
sport and display order. -/
@[ext] structure Registry where
  categories : List Category
  distinctIds : (categories.map (·.id)).Nodup
  distinctPlaces : (categories.map Category.place).Nodup
  sorted : categories.Pairwise fun a b => a.sortsBefore b = true

/-- The first fault of a list of categories, given the ids and the sport orders already seen. -/
def Registry.firstFault (ids : List Int) (orders : List (Sport × Int)) :
    List Category → Option RegistryError
  | [] => none
  | c :: rest =>
    if ids.contains c.id then some (.duplicateId c.id)
    else if orders.contains (c.sport, c.displayOrder) then
      some (.duplicateOrder c.displayOrder c.sport)
    else firstFault (c.id :: ids) ((c.sport, c.displayOrder) :: orders) rest

/-- The fault of a category against the ids and places seen before it, if it has one: a repeated
id, or else a repeated place. -/
def Category.faultAgainst (ids : List Int) (orders : List (Sport × Int)) (c : Category) :
    Option RegistryError :=
  if c.id ∈ ids then some (.duplicateId c.id)
  else if c.place ∈ orders then some (.duplicateOrder c.displayOrder c.sport)
  else none

theorem Category.faultAgainst_eq_none_iff (ids : List Int) (orders : List (Sport × Int))
    (c : Category) : c.faultAgainst ids orders = none ↔ c.id ∉ ids ∧ c.place ∉ orders := by
  unfold Category.faultAgainst
  by_cases seenId : c.id ∈ ids <;> by_cases seenPlace : c.place ∈ orders <;> simp [seenId, seenPlace]

namespace Registry

/-- One step of the checks: the category's own fault, or else the checks of the rest with its
id and place seen. -/
theorem firstFault_cons (ids : List Int) (orders : List (Sport × Int)) (c : Category)
    (rest : List Category) :
    firstFault ids orders (c :: rest) =
      (c.faultAgainst ids orders).or (firstFault (c.id :: ids) (c.place :: orders) rest) := by
  rw [firstFault]
  unfold Category.faultAgainst
  simp only [List.contains_iff_mem, Category.place]
  by_cases seenId : c.id ∈ ids <;> by_cases seenPlace : (c.sport, c.displayOrder) ∈ orders <;>
    simp [seenId, seenPlace]

/-- The categories pass the checks exactly when no id and no place repeats, among them or with
those already seen. -/
theorem firstFault_eq_none_iff (ids : List Int) (orders : List (Sport × Int))
    (cs : List Category) :
    firstFault ids orders cs = none ↔
      (∀ c ∈ cs, c.id ∉ ids ∧ c.place ∉ orders) ∧ (cs.map (·.id)).Nodup ∧
        (cs.map Category.place).Nodup := by
  induction cs generalizing ids orders with
  | nil => simp [firstFault]
  | cons c rest inductionHypothesis =>
    rw [firstFault_cons, Option.or_eq_none_iff, Category.faultAgainst_eq_none_iff,
      inductionHypothesis, List.forall_mem_cons, List.map_cons, List.map_cons, List.nodup_cons,
      List.nodup_cons]
    simp only [List.mem_cons, not_or, List.mem_map, not_exists, not_and]
    constructor
    · rintro ⟨own, unseen, idsApart, placesApart⟩
      exact ⟨⟨own, fun d member => ⟨(unseen d member).1.2, (unseen d member).2.2⟩⟩,
        ⟨fun d member => (unseen d member).1.1, idsApart⟩,
        ⟨fun d member => (unseen d member).2.1, placesApart⟩⟩
    · rintro ⟨⟨own, unseen⟩, ⟨idFresh, idsApart⟩, ⟨placeFresh, placesApart⟩⟩
      exact ⟨own, fun d member => ⟨⟨idFresh d member, (unseen d member).1⟩,
        ⟨placeFresh d member, (unseen d member).2⟩⟩, idsApart, placesApart⟩

/-- Categories that passed the checks, sorted by sport and display order. -/
def ofChecked (categories : List Category) (clean : firstFault [] [] categories = none) :
    Registry where
  categories := categories.mergeSort Category.sortsBefore
  distinctIds := ((List.mergeSort_perm _ _).map _).nodup_iff.2
    ((firstFault_eq_none_iff [] [] categories).1 clean).2.1
  distinctPlaces := ((List.mergeSort_perm _ _).map _).nodup_iff.2
    ((firstFault_eq_none_iff [] [] categories).1 clean).2.2
  sorted := List.pairwise_mergeSort Category.sortsBefore_trans Category.sortsBefore_total categories

/-- Checks the categories in order and sorts them. -/
def build (categories : List Category) : Except RegistryError Registry :=
  match clean : firstFault [] [] categories with
  | some fault => .error fault
  | none => .ok (ofChecked categories clean)


/-- The categories of one sport, in registry order. -/
def forSport (r : Registry) (sport : Sport) : List Category :=
  r.categories.filter (·.sport == sport)

/-- A sport's categories have distinct ids and distinct display orders. -/
theorem forSport_distinct (r : Registry) (sport : Sport) :
    ((r.forSport sport).map (·.id)).Nodup ∧ ((r.forSport sport).map (·.displayOrder)).Nodup := by
  have kept : (r.forSport sport).Sublist r.categories := List.filter_sublist
  refine ⟨(kept.map _).nodup r.distinctIds, ?_⟩
  -- within one sport a category's place is its display order
  have places : ((r.forSport sport).map Category.place).Nodup := (kept.map _).nodup r.distinctPlaces
  have samePlaces : (r.forSport sport).map Category.place =
      ((r.forSport sport).map (·.displayOrder)).map (sport, ·) := by
    rw [List.map_map]
    refine List.map_congr_left fun c member => ?_
    have inSport : c.sport = sport := by simpa [forSport] using (List.mem_filter.1 member).2
    simp [Category.place, inSport]
  rw [samePlaces] at places
  exact List.Pairwise.of_map (sport, ·) (fun _ _ apart same => apart (same ▸ rfl)) places

/-- The category with an id. -/
def get? (r : Registry) (id : Int) : Option Category := r.categories.find? (·.id == id)

theorem defaults_distinctIds : (Category.defaults.map (·.id)).Nodup := by decide

theorem defaults_distinctPlaces : (Category.defaults.map Category.place).Nodup := by decide

theorem defaults_sorted : Category.defaults.Pairwise fun a b => a.sortsBefore b = true := by decide

/-- The registry of the six default categories. -/
def defaults : Registry :=
  ⟨Category.defaults, defaults_distinctIds, defaults_distinctPlaces, defaults_sorted⟩

instance : Inhabited Registry := ⟨defaults⟩

end Registry

end DraftPool
