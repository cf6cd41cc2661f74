import DraftPool.Proofs.Roster.Transaction
import DraftPool.Proofs.Store.Valid

/-
Saving the seasons of a sport. The main statement is `Store.saveYears_reconciles`.
-/

namespace DraftPool

/-- The check for repeated values finds nothing exactly when no value repeats and none was
seen before. -/
theorem repeatedValue_eq_none_iff {seen values : List Int} :
    repeatedValue seen values = none ↔ values.Nodup ∧ ∀ v ∈ values, v ∉ seen := by
  induction values generalizing seen with
  | nil => simp [repeatedValue]
  | cons v rest inductionHypothesis =>
    by_cases known : seen.contains v = true
    · have seenBefore : v ∈ seen := by simpa using known
      simp only [repeatedValue, known, if_true, reduceCtorEq, false_iff, not_and]
      intro _ fresh
      exact fresh v List.mem_cons_self seenBefore
    · have unseen : v ∉ seen := by simpa using known
      rw [repeatedValue, if_neg known, inductionHypothesis]
      simp only [List.nodup_cons, List.mem_cons, forall_eq_or_imp, not_or]
      constructor
      · rintro ⟨distinct, fresh⟩
        exact ⟨⟨fun mem => (fresh v mem).1 rfl, distinct⟩, unseen, fun x mem => (fresh x mem).2⟩
      · rintro ⟨⟨absent, distinct⟩, -, fresh⟩
        exact ⟨distinct, fun x mem => ⟨fun same => absent (same ▸ mem), fresh x mem⟩⟩

/-- A repeated value found is the first one equal to an earlier value or to one seen. -/
theorem repeatedValue_eq_some {seen values : List Int} {v : Int}
    (found : repeatedValue seen values = some v) :
    ∃ pre post, values = pre ++ v :: post ∧ (v ∈ pre ∨ v ∈ seen) ∧ pre.Nodup ∧
      ∀ x ∈ pre, x ∉ seen := by
  induction values generalizing seen with
  | nil => simp [repeatedValue] at found
  | cons x rest inductionHypothesis =>
    by_cases known : seen.contains x = true
    · simp only [repeatedValue, known, if_true, Option.some.injEq] at found
      subst found
      exact ⟨[], rest, rfl, .inr (by simpa using known), List.nodup_nil, by simp⟩
    · rw [repeatedValue, if_neg known] at found
      obtain ⟨pre, post, split, repeated, distinct, fresh⟩ := inductionHypothesis found
      have unseen : x ∉ seen := by simpa using known
      refine ⟨x :: pre, post, by rw [split]; rfl, ?_, ?_, ?_⟩
      · rcases repeated with inPre | inSeen
        · exact .inl (List.mem_cons_of_mem x inPre)
        · rcases List.mem_cons.1 inSeen with same | inSeen
          · exact .inl (same ▸ List.mem_cons_self)
          · exact .inr inSeen
      · exact List.nodup_cons.2 ⟨fun mem => fresh x mem List.mem_cons_self, distinct⟩
      · intro y mem
        rcases List.mem_cons.1 mem with same | inPre
        · exact same ▸ unseen
        · exact fun inSeen => fresh y inPre (List.mem_cons_of_mem x inSeen)

/-- Seasons are compared by value. -/
theorem rosterKey_year : (RosterItem.key : Year → Int) = (·.value) := rfl

/-- Two members that pass a filter leaving at most one are the same. -/
theorem eq_of_length_filter_le_one {α : Type} {l : List α} {p : α → Bool}
    (short : (l.filter p).length ≤ 1) {a b : α} (memA : a ∈ l) (memB : b ∈ l) (passA : p a = true)
    (passB : p b = true) : a = b := by
  have keptA : a ∈ l.filter p := List.mem_filter.2 ⟨memA, passA⟩
  have keptB : b ∈ l.filter p := List.mem_filter.2 ⟨memB, passB⟩
  match kept : l.filter p with
  | [] => simp [kept] at keptA
  | [c] =>
    rw [kept, List.mem_singleton] at keptA keptB
    rw [keptA, keptB]
  | _ :: _ :: _ =>
    rw [kept] at short
    simp at short

section Desired

variable {desired : List Year} (oneActive : (desired.filter (·.active)).length ≤ 1)
  (distinct : (desired.map (·.value)).Nodup)
include oneActive distinct

/-- A desired season is active exactly when it is the one the list asks to be active. -/
theorem active_iff_desiredActive {d : Year} (member : d ∈ desired) :
    d.active = true ↔ (desired.find? (·.active)).map (·.value) = some d.value := by
  constructor
  · intro active
    have found : (desired.find? (·.active)).isSome := List.find?_isSome.2 ⟨d, member, active⟩
    obtain ⟨e, first⟩ := Option.isSome_iff_exists.1 found
    have same : e = d := eq_of_length_filter_le_one oneActive (List.mem_of_find?_eq_some first)
      member (List.find?_some first) active
    simp [first, same]
  · intro asked
    obtain ⟨e, first, sameValue⟩ := Option.map_eq_some_iff.1 asked
    have same : e = d :=
      List.inj_on_of_nodup_map distinct (List.mem_of_find?_eq_some first) member sameValue
    rw [← same]
    exact List.find?_some first

/-- A season is desired exactly when its value is, with the flag the list asks for. -/
theorem mem_desired_iff {y : Year} :
    y ∈ desired ↔ y.value ∈ desired.map (·.value) ∧
      (y.active = true ↔ (desired.find? (·.active)).map (·.value) = some y.value) := by
  constructor
  · intro member
    exact ⟨List.mem_map_of_mem member, active_iff_desiredActive oneActive distinct member⟩
  · rintro ⟨listed, flag⟩
    obtain ⟨d, member, sameValue⟩ := List.mem_map.1 listed
    have sameFlag : d.active = y.active := by
      rw [Bool.eq_iff_iff, active_iff_desiredActive oneActive distinct member, flag, sameValue]
    have same : d = y := by
      cases d
      cases y
      simp only at sameValue sameFlag
      rw [sameValue, sameFlag]
    exact same ▸ member

end Desired

namespace Store

/-- The seasons of a sport as stored, before sorting. -/
def seasonRows (s : Store) (sport : Sport) : List Year :=
  (s.years.filter (·.sport == sport)).map fun y => ⟨y.value, y.active⟩

theorem yearsOf_eq (s : Store) (sport : Sport) :
    s.yearsOf sport = (s.seasonRows sport).mergeSort fun a b => decide (a.value ≤ b.value) := rfl

theorem mem_seasonRows {s : Store} {sport : Sport} {y : Year} :
    y ∈ s.seasonRows sport ↔ (⟨sport, y.value, y.active⟩ : YearRow) ∈ s.years := by
  simp only [seasonRows, List.mem_map, List.mem_filter, beq_iff_eq]
  constructor
  · rintro ⟨row, ⟨stored, rfl⟩, rfl⟩
    exact stored
  · intro stored
    exact ⟨_, ⟨stored, rfl⟩, rfl⟩

/-- Two stored seasons with one key are the same row. -/
theorem Valid.row_eq {s : Store} (valid : Valid s) {a b : YearRow} (memA : a ∈ s.years)
    (memB : b ∈ s.years) (key : a.key = b.key) : a = b :=
  List.inj_on_of_nodup_map valid.yearKeys memA memB key

/-- Under the constraints a season of a sport is listed exactly when it is stored, active
exactly when it is the sport's active season. -/
theorem mem_seasonRows_iff {s : Store} (valid : Valid s) {sport : Sport} {y : Year} :
    y ∈ s.seasonRows sport ↔
      s.hasYear sport y.value = true ∧ (y.active = true ↔ s.activeYear sport = some y.value) := by
  rw [mem_seasonRows, activeYear_eq_some_iff valid]
  constructor
  · intro stored
    refine ⟨hasYear_iff.2 (List.mem_map_of_mem stored), fun active => ?_, fun activeRow => ?_⟩
    · rw [← active]
      exact stored
    · have same := valid.row_eq stored activeRow rfl
      simp only [YearRow.mk.injEq, true_and] at same
      exact same
  · rintro ⟨stored, flag⟩
    obtain ⟨row, member, key⟩ := List.mem_map.1 (hasYear_iff.1 stored)
    simp only [YearRow.key, Prod.mk.injEq] at key
    have sameRow : row = ⟨sport, y.value, row.active⟩ := by
      rw [← key.1, ← key.2]
    cases flagRow : row.active
    · cases active : y.active
      · rw [sameRow, flagRow] at member
        exact member
      · rw [active] at flag
        have activeRow := flag.1 rfl
        have same := valid.row_eq member activeRow (by simp [YearRow.key, key.1, key.2])
        simp [same] at flagRow
    · rw [sameRow, flagRow] at member
      rw [flag.2 member]
      exact member

/-- The values of a sport's stored seasons are distinct. -/
theorem nodup_seasonValues {s : Store} (valid : Valid s) (sport : Sport) :
    ((s.seasonRows sport).map (·.value)).Nodup := by
  have keys : ((s.years.filter (·.sport == sport)).map YearRow.key).Nodup :=
    valid.yearKeys.sublist (List.filter_sublist.map _)
  have paired : (s.years.filter (·.sport == sport)).map YearRow.key =
      ((s.seasonRows sport).map (·.value)).map (Prod.mk sport) := by
    simp only [seasonRows, List.map_map]
    apply List.map_congr_left
    intro y member
    simp only [List.mem_filter, beq_iff_eq] at member
    simp [YearRow.key, member.2]
  rw [paired] at keys
  exact keys.of_map _

/-- Under the constraints a sport's stored seasons are the ones it lists. -/
theorem hasYear_iff_seasonRows {s : Store} {sport : Sport} {v : Int} :
    s.hasYear sport v = true ↔ ∃ y ∈ s.seasonRows sport, y.value = v := by
  rw [hasYear_iff]
  constructor
  · intro stored
    obtain ⟨row, member, key⟩ := List.mem_map.1 stored
    simp only [YearRow.key, Prod.mk.injEq] at key
    refine ⟨⟨row.value, row.active⟩, mem_seasonRows.2 ?_, key.2⟩
    rw [← key.1]
    exact member
  · rintro ⟨y, listed, rfl⟩
    exact List.mem_map_of_mem (mem_seasonRows.1 listed)

/-- A filter that passes one member of a list without repeats counts it once. -/
theorem countP_eq_one_of_unique {α : Type} {l : List α} {p : α → Bool} (distinct : l.Nodup)
    {x : α} (member : x ∈ l) (passes : p x = true) (unique : ∀ y ∈ l, p y = true → y = x) :
    l.countP p = 1 := by
  have single : (l.filter p).Perm [x] := by
    rw [List.perm_ext_iff_of_nodup (distinct.filter p) (List.nodup_singleton x)]
    intro y
    rw [List.mem_filter, List.mem_singleton]
    constructor
    · rintro ⟨stored, passing⟩
      exact unique y stored passing
    · rintro rfl
      exact ⟨member, passes⟩
  rw [List.countP_eq_length_filter, single.length_eq]
  rfl

/-- A stored season is matched once by its key. -/
theorem Valid.countP_key {s : Store} (valid : Valid s) {sport : Sport} {v : Int}
    (stored : s.hasYear sport v = true) :
    s.years.countP (fun y => y.sport == sport && y.value == v) = 1 := by
  obtain ⟨row, member, key⟩ := List.mem_map.1 (hasYear_iff.1 stored)
  simp only [YearRow.key, Prod.mk.injEq] at key
  refine countP_eq_one_of_unique (valid.yearKeys.of_map _) member (by simp [key.1, key.2]) ?_
  intro y other passing
  simp only [Bool.and_eq_true, beq_iff_eq] at passing
  exact valid.row_eq other member (by simp [YearRow.key, passing.1, passing.2, key.1, key.2])

/-- The active season of a sport is matched once by the sport's active flag. -/
theorem Valid.countP_active {s : Store} (valid : Valid s) {sport : Sport} {a : Int}
    (active : s.activeYear sport = some a) :
    s.years.countP (fun y => y.sport == sport && y.active) = 1 := by
  have member := (activeYear_eq_some_iff valid).1 active
  refine countP_eq_one_of_unique (valid.yearKeys.of_map _) member (by simp) ?_
  intro y other passing
  simp only [Bool.and_eq_true, beq_iff_eq] at passing
  have sameValue := valid.oneActive y other _ member passing.1 passing.2 rfl
  exact valid.row_eq other member (by simp [YearRow.key, passing.1, sameValue])

/-- A sport without an active stored season has no active season. -/
theorem activeYear_eq_none {s : Store} {sport : Sport}
    (inactive : ∀ y ∈ s.years, y.sport = sport → y.active = false) :
    s.activeYear sport = none := by
  simp only [activeYear, Option.map_eq_none_iff, List.find?_eq_none, Bool.and_eq_true,
    beq_iff_eq, not_and, Bool.not_eq_true]
  exact inactive

/-- A sport's seasons after clearing its active flag. -/
def clearedYears (s : Store) (sport : Sport) : List YearRow :=
  s.years.map fun y => if (y.sport == sport && y.active) = true then { y with active := false } else y

theorem runs_clearActive {s : Store} (valid : Valid s) (writable : s.readOnly = false)
    {sport : Sport} {a : Int} (active : s.activeYear sport = some a) :
    s.Runs [.clearActive sport] { s with years := s.clearedYears sport } := by
  refine .cons ?_ (.nil _)
  simp only [Store.apply, writable, Bool.false_eq_true, if_false, Store.applyWritable,
    valid.countP_active active]
  rfl

/-- Clearing changes nothing when no season of the sport is active. -/
theorem clearedYears_of_inactive {s : Store} {sport : Sport}
    (inactive : ∀ y ∈ s.years, y.sport = sport → y.active = false) :
    s.clearedYears sport = s.years := by
  conv_rhs => rw [← List.map_id s.years]
  apply List.map_congr_left
  intro y member
  have notHit : ¬(y.sport == sport && y.active) = true := by
    simp only [Bool.and_eq_true, beq_iff_eq, not_and, Bool.not_eq_true]
    exact inactive y member
  simp [notHit]

/-- A store without some seasons of a sport and without what belongs to them. -/
def withoutSeasons (s : Store) (sport : Sport) (values : List Int) : Store :=
  let gone (rowSport : Sport) (rowYear : Int) : Bool := rowSport == sport && values.contains rowYear
  { s with
    years := s.years.filter fun y => !gone y.sport y.value
    friends := s.friends.filter fun f => !gone f.sport f.year
    players := s.players.filter fun p => !gone p.sport p.year
    stats := s.stats.filter fun r => !gone r.sport r.year }

theorem withoutSeasons_nil (s : Store) (sport : Sport) : s.withoutSeasons sport [] = s := by
  simp [withoutSeasons]

/-- Dropping a row of a first season and then of others is dropping it of all of them. -/
theorem not_gone_cons (inSport inRest inFirst : Bool) :
    (!(inSport && inRest) && !(inSport && inFirst)) = !(inSport && (inFirst || inRest)) := by
  cases inSport <;> cases inRest <;> cases inFirst <;> rfl

theorem withoutSeasons_cons (s : Store) (sport : Sport) (v : Int) (values : List Int) :
    (s.withoutSeasons sport [v]).withoutSeasons sport values =
      s.withoutSeasons sport (v :: values) := by
  simp only [withoutSeasons, List.filter_filter, List.contains_cons, List.contains_nil,
    Bool.or_false]
  congr 1 <;> apply List.filter_congr <;> intro row _ <;> exact not_gone_cons _ _ _

/-- Under the constraints, deleting a season drops the players of its friends with its own. -/
theorem Valid.dropYear_eq {s : Store} (valid : Valid s) (sport : Sport) (v : Int) :
    s.dropYear sport v = s.withoutSeasons sport [v] := by
  simp only [Store.dropYear, withoutSeasons, List.contains_cons, List.contains_nil,
    Bool.or_false]
  congr 1
  apply List.filter_congr
  intro p member
  cases inYear : (p.sport == sport && p.year == v)
  · -- a player outside the season drafts for a friend outside it
    simp only [Bool.not_false, Bool.true_and, Bool.not_eq_eq_eq_not, Bool.not_true]
    rw [Bool.eq_false_iff]
    intro gone
    rw [List.contains_iff_mem] at gone
    obtain ⟨f, friendStored, sameId, sameSport, sameYear⟩ := valid.playerFriend p member
    obtain ⟨f', goneFriend, goneId⟩ := List.mem_map.1 gone
    rw [List.mem_filter] at goneFriend
    have same : f' = f :=
      List.inj_on_of_nodup_map valid.friendIds goneFriend.1 friendStored (goneId.trans sameId.symm)
    rw [same, sameSport, sameYear] at goneFriend
    simp [goneFriend.2] at inYear
  · simp

/-- Deleting stored seasons one after another matches one row each, and drops them with their
friends, players and cached scores. -/
theorem runs_delYears {s : Store} (valid : Valid s) (writable : s.readOnly = false)
    {sport : Sport} {values : List Int} (distinct : values.Nodup)
    (stored : ∀ v ∈ values, s.hasYear sport v = true) :
    s.Runs (values.map (.delYear sport)) (s.withoutSeasons sport values) := by
  induction values generalizing s with
  | nil =>
    rw [withoutSeasons_nil]
    exact .nil s
  | cons v rest inductionHypothesis =>
    rw [List.nodup_cons] at distinct
    have deleted : s.apply (.delYear sport v) = .ok (1, s.withoutSeasons sport [v]) := by
      simp only [Store.apply, writable, Bool.false_eq_true, if_false, Store.applyWritable,
        valid.countP_key (stored v List.mem_cons_self), valid.dropYear_eq]
    have next := valid.dropYear sport v
    rw [valid.dropYear_eq] at next
    have remaining : ∀ w ∈ rest, (s.withoutSeasons sport [v]).hasYear sport w = true := by
      intro w member
      rw [← valid.dropYear_eq]
      refine hasYear_dropYear (stored w (List.mem_cons_of_mem v member)) ?_
      rintro ⟨-, same⟩
      exact distinct.1 (same ▸ member)
    have run := inductionHypothesis next writable distinct.2 remaining
    rw [withoutSeasons_cons] at run
    exact .cons deleted run

/-- A sport's seasons with inactive ones added. -/
def withSeasons (s : Store) (sport : Sport) (values : List Int) : Store :=
  { s with years := s.years ++ values.map fun v => ⟨sport, v, false⟩ }

theorem hasYear_withSeasons (s : Store) (sport rowSport : Sport) (values : List Int) (v : Int) :
    (s.withSeasons sport values).hasYear rowSport v =
      (s.hasYear rowSport v || (sport == rowSport && values.contains v)) := by
  simp only [withSeasons, hasYear, List.any_append, List.any_map, Function.comp_def]
  congr 1
  cases sport == rowSport
  · simp
  · simp only [Bool.true_and]
    rw [Bool.eq_iff_iff, List.any_eq_true, List.contains_iff_mem]
    simp

/-- Adding seasons that are not stored one after another matches one row each. -/
theorem runs_addYears {s : Store} (writable : s.readOnly = false) {sport : Sport}
    {values : List Int} (distinct : values.Nodup)
    (absent : ∀ v ∈ values, s.hasYear sport v = false) :
    s.Runs (values.map (.addYear sport)) (s.withSeasons sport values) := by
  induction values generalizing s with
  | nil =>
    simp only [withSeasons, List.map_nil, List.append_nil]
    exact .nil s
  | cons v rest inductionHypothesis =>
    rw [List.nodup_cons] at distinct
    have added : s.apply (.addYear sport v) = .ok (1, s.withSeasons sport [v]) := by
      rw [Store.apply, if_neg (by simp [writable])]
      simp only [Store.applyWritable, absent v List.mem_cons_self, Bool.false_eq_true, if_false]
      rfl
    have remaining : ∀ w ∈ rest, (s.withSeasons sport [v]).hasYear sport w = false := by
      intro w member
      have other : w ≠ v := fun same => distinct.1 (same ▸ member)
      simp [hasYear_withSeasons, absent w (List.mem_cons_of_mem v member), other]
    have run := @inductionHypothesis (s.withSeasons sport [v]) writable distinct.2 remaining
    have joined : (s.withSeasons sport [v]).withSeasons sport rest =
        s.withSeasons sport (v :: rest) := by
      simp [withSeasons]
    rw [joined] at run
    exact .cons added run

/-- A sport's seasons after activating one of them. -/
def activatedYears (s : Store) (sport : Sport) (year : Int) : List YearRow :=
  s.years.map fun y =>
    if (y.sport == sport && y.value == year) = true then { y with active := true } else y

/-- Activating a stored season of a sport with no active season matches one row. -/
theorem runs_setActive {s : Store} (writable : s.readOnly = false) {sport : Sport} {a : Int}
    (stored : s.hasYear sport a = true)
    (inactive : ∀ y ∈ s.years, y.sport = sport → y.active = false) :
    s.Runs [.setActive sport a] { s with years := s.activatedYears sport a } := by
  have noActive : (s.years.any fun y =>
      y.sport == sport && y.active && !(y.sport == sport && y.value == a)) = false := by
    rw [List.any_eq_false]
    intro y member
    simp only [Bool.and_eq_true, beq_iff_eq, Bool.not_eq_true', not_and]
    intro activeHere
    simp [inactive y member activeHere.1] at activeHere
  refine .cons ?_ (.nil _)
  simp only [Store.apply, writable, Bool.false_eq_true, if_false, Store.applyWritable, stored,
    Bool.not_true, noActive]
  rfl

theorem hasYear_withoutSeasons (s : Store) (sport rowSport : Sport) (values : List Int)
    (v : Int) :
    (s.withoutSeasons sport values).hasYear rowSport v =
      (s.hasYear rowSport v && !(rowSport == sport && values.contains v)) := by
  simp only [withoutSeasons, hasYear, List.any_filter]
  rw [Bool.eq_iff_iff]
  simp only [List.any_eq_true, Bool.and_eq_true, beq_iff_eq, Bool.not_eq_true']
  constructor
  · rintro ⟨y, member, kept, sameSport, sameValue⟩
    rw [← sameSport, ← sameValue]
    exact ⟨⟨y, member, rfl, rfl⟩, by simpa using kept⟩
  · rintro ⟨⟨y, member, sameSport, sameValue⟩, kept⟩
    refine ⟨y, member, ?_, sameSport, sameValue⟩
    rw [sameSport, sameValue]
    simpa using kept

/-- Changing rows without touching their sport or value keeps which seasons are stored. -/
theorem hasYear_mapYears (s : Store) {f : YearRow → YearRow}
    (keepsKey : ∀ y, (f y).sport = y.sport ∧ (f y).value = y.value) (rowSport : Sport) (v : Int) :
    ({ s with years := s.years.map f } : Store).hasYear rowSport v = s.hasYear rowSport v := by
  simp only [hasYear, List.any_map]
  congr 1
  funext y
  simp only [Function.comp_apply, (keepsKey y).1, (keepsKey y).2]

theorem hasYear_clearedYears (s : Store) (sport rowSport : Sport) (v : Int) :
    ({ s with years := s.clearedYears sport } : Store).hasYear rowSport v = s.hasYear rowSport v :=
  hasYear_mapYears s (fun _ => by split <;> exact ⟨rfl, rfl⟩) rowSport v

theorem hasYear_activatedYears (s : Store) (sport rowSport : Sport) (a v : Int) :
    ({ s with years := s.activatedYears sport a } : Store).hasYear rowSport v =
      s.hasYear rowSport v :=
  hasYear_mapYears s (fun _ => by split <;> exact ⟨rfl, rfl⟩) rowSport v

/-- A run keeps the constraints of the store it starts from. -/
theorem Runs.valid {s t : Store} {ws : List Write} (run : s.Runs ws t) (valid : Valid s) :
    Valid t := by
  induction run with
  | nil => exact valid
  | cons applied _ inductionHypothesis => exact inductionHypothesis (valid.apply applied)

/-- A run from a reachable store ends in a reachable store. -/
theorem Runs.reachable {s t : Store} {ws : List Write} (run : s.Runs ws t)
    (reachable : Reachable s) : Reachable t := by
  induction run with
  | nil => exact reachable
  | cons applied _ inductionHypothesis => exact inductionHypothesis (reachable.write applied)

/-- A transaction that succeeds on a reachable store leaves a reachable store. -/
theorem Reachable.transact {s t : Store} (reachable : Reachable s) {writes : List Write}
    (ran : s.transact writes = .ok t) : Reachable t :=
  (transact_eq_ok_iff.1 ran).reachable reachable

/-- A store holds exactly the desired seasons of a sport when it stores their values and has
the active season they ask for. -/
theorem yearsOf_eq_of_seasons {t : Store} (valid : Valid t) {sport : Sport} {desired : List Year}
    (oneActive : (desired.filter (·.active)).length ≤ 1) (distinct : (desired.map (·.value)).Nodup)
    (stored : ∀ v, t.hasYear sport v = true ↔ v ∈ desired.map (·.value))
    (active : t.activeYear sport = (desired.find? (·.active)).map (·.value)) :
    t.yearsOf sport = desired.mergeSort fun a b => decide (a.value ≤ b.value) := by
  rw [yearsOf_eq]
  apply mergeSort_eq_of_perm_of_key _ (nodup_seasonValues valid sport)
  rw [List.perm_ext_iff_of_nodup ((nodup_seasonValues valid sport).of_map _) (distinct.of_map _)]
  intro y
  rw [mem_seasonRows_iff valid, mem_desired_iff oneActive distinct, stored, active]

/-- The values of the stored seasons that a save deletes. -/
def deletedValues (s : Store) (sport : Sport) (desired : List Year) : List Int :=
  (diff (s.yearsOf sport) desired).toDelete.map (·.value)

/-- The values of the desired seasons that a save adds. -/
def insertedValues (s : Store) (sport : Sport) (desired : List Year) : List Int :=
  (diff (s.yearsOf sport) desired).toInsert.map (·.value)

theorem storedVersion_isNone_iff {current : List Year} {v : Int} :
    (storedVersion current v).isNone = true ↔ ∀ c ∈ current, c.value ≠ v := by
  simp only [storedVersion, Option.isNone_iff_eq_none, List.find?_eq_none, List.mem_reverse,
    beq_iff_eq]
  rfl

theorem mem_deletedValues {s : Store} {sport : Sport} {desired : List Year} {v : Int} :
    v ∈ s.deletedValues sport desired ↔
      s.hasYear sport v = true ∧ v ∉ desired.map (·.value) := by
  simp only [deletedValues, diff, rosterKey_year, List.mem_map, List.mem_filter, yearsOf_eq,
    List.mem_mergeSort, hasYear_iff_seasonRows, Bool.not_eq_true', Bool.eq_false_iff, ne_eq,
    List.contains_iff_mem]
  constructor
  · rintro ⟨y, ⟨listed, unwanted⟩, rfl⟩
    exact ⟨⟨y, listed, rfl⟩, unwanted⟩
  · rintro ⟨⟨y, listed, rfl⟩, unwanted⟩
    exact ⟨y, ⟨listed, unwanted⟩, rfl⟩

theorem mem_insertedValues {s : Store} {sport : Sport} {desired : List Year} {v : Int} :
    v ∈ s.insertedValues sport desired ↔
      v ∈ desired.map (·.value) ∧ s.hasYear sport v = false := by
  simp only [insertedValues, diff, rosterKey_year, List.mem_map, List.mem_filter,
    storedVersion_isNone_iff, yearsOf_eq, List.mem_mergeSort, Bool.eq_false_iff, ne_eq,
    hasYear_iff_seasonRows]
  constructor
  · rintro ⟨d, ⟨member, unstored⟩, rfl⟩
    exact ⟨⟨d, member, rfl⟩, fun ⟨y, listed, same⟩ => unstored y listed same⟩
  · rintro ⟨⟨d, member, rfl⟩, unstored⟩
    exact ⟨d, ⟨member, fun y listed same => unstored ⟨y, listed, same⟩⟩, rfl⟩

theorem nodup_deletedValues {s : Store} (valid : Valid s) (sport : Sport) (desired : List Year) :
    (s.deletedValues sport desired).Nodup := by
  have sorted : ((s.yearsOf sport).map (·.value)).Nodup := by
    rw [yearsOf_eq]
    exact ((List.mergeSort_perm _ _).map _).nodup_iff.2 (nodup_seasonValues valid sport)
  exact sorted.sublist (List.filter_sublist.map _)

theorem nodup_insertedValues {desired : List Year} (distinct : (desired.map (·.value)).Nodup)
    (s : Store) (sport : Sport) : (s.insertedValues sport desired).Nodup :=
  distinct.sublist (List.filter_sublist.map _)

/-- A sport without an active season has no active stored season. -/
theorem inactive_of_activeYear {s : Store} {sport : Sport} (noActive : s.activeYear sport = none) :
    ∀ y ∈ s.years, y.sport = sport → y.active = false := by
  simpa only [activeYear, Option.map_eq_none_iff, List.find?_eq_none, Bool.and_eq_true,
    beq_iff_eq, not_and, Bool.not_eq_true] using noActive

/-- After clearing, no season of the sport is active. -/
theorem clearedYears_inactive (s : Store) (sport : Sport) :
    ∀ y ∈ s.clearedYears sport, y.sport = sport → y.active = false := by
  intro y member sameSport
  obtain ⟨row, _, rfl⟩ := List.mem_map.1 member
  by_cases hit : (row.sport == sport && row.active) = true
  · rw [if_pos hit]
  · rw [if_neg hit] at sameSport ⊢
    simpa [sameSport] using hit

/-- A change of rows that keeps sports and leaves another sport's rows alone leaves that
sport's seasons as they were. -/
theorem filter_sport_map {l : List YearRow} {f : YearRow → YearRow} {other : Sport}
    (keepsSport : ∀ y, (f y).sport = y.sport) (fixed : ∀ y ∈ l, y.sport = other → f y = y) :
    (l.map f).filter (·.sport == other) = l.filter (·.sport == other) :=
  filter_map_of_fixed (fun y => by rw [keepsSport])
    fun y member sameSport => fixed y member (beq_iff_eq.1 sameSport)

theorem filter_sport_clearedYears (s : Store) {sport other : Sport} (different : other ≠ sport) :
    (s.clearedYears sport).filter (·.sport == other) = s.years.filter (·.sport == other) := by
  refine filter_sport_map (fun y => by split <;> rfl) fun y _ sameSport => ?_
  have notHit : ¬(y.sport == sport && y.active) = true := by simp [sameSport, different]
  exact if_neg notHit

theorem filter_sport_activatedYears (s : Store) {sport other : Sport} (different : other ≠ sport)
    (a : Int) :
    (s.activatedYears sport a).filter (·.sport == other) = s.years.filter (·.sport == other) := by
  refine filter_sport_map (fun y => by split <;> rfl) fun y _ sameSport => ?_
  have notHit : ¬(y.sport == sport && y.value == a) = true := by simp [sameSport, different]
  exact if_neg notHit

theorem filter_sport_withoutSeasons (s : Store) {sport other : Sport} (different : other ≠ sport)
    (values : List Int) :
    (s.withoutSeasons sport values).years.filter (·.sport == other) =
      s.years.filter (·.sport == other) := by
  simp only [withoutSeasons]
  refine filter_filter_of_imp fun y _ sameSport => ?_
  rw [beq_iff_eq] at sameSport
  simp [sameSport, different]

theorem filter_sport_withSeasons (s : Store) {sport other : Sport} (different : other ≠ sport)
    (values : List Int) :
    (s.withSeasons sport values).years.filter (·.sport == other) =
      s.years.filter (·.sport == other) := by
  have noneAdded :
      (values.map fun v => (⟨sport, v, false⟩ : YearRow)).filter (·.sport == other) = [] := by
    rw [List.filter_eq_nil_iff]
    intro y member
    obtain ⟨v, _, rfl⟩ := List.mem_map.1 member
    simp [Ne.symm different]
  simp only [withSeasons, List.filter_append, noneAdded, List.append_nil]

/-- The activated season of a stored value is stored active. -/
theorem mem_activatedYears {s : Store} {sport : Sport} {a : Int} (stored : s.hasYear sport a = true) :
    (⟨sport, a, true⟩ : YearRow) ∈ s.activatedYears sport a := by
  obtain ⟨row, member, key⟩ := List.mem_map.1 (hasYear_iff.1 stored)
  simp only [YearRow.key, Prod.mk.injEq] at key
  refine List.mem_map.2 ⟨row, member, ?_⟩
  simp [key.1, key.2]

/-- The active flag is cleared first when a season of the sport is active. -/
theorem runs_clearPhase {s : Store} (valid : Valid s) (writable : s.readOnly = false)
    (sport : Sport) :
    s.Runs (if (s.activeYear sport).isSome = true then [.clearActive sport] else [])
      { s with years := s.clearedYears sport } := by
  cases active : s.activeYear sport with
  | none =>
    simp only [Option.isSome_none, Bool.false_eq_true, if_false]
    rw [clearedYears_of_inactive (inactive_of_activeYear active)]
    exact .nil _
  | some a =>
    simp only [Option.isSome_some, if_true]
    exact runs_clearActive valid writable active

/-- A sport's seasons after the deletes and adds of a save, before any is activated. -/
def seasonsAdded (s : Store) (sport : Sport) (desired : List Year) : Store :=
  (({ s with years := s.clearedYears sport } : Store).withoutSeasons sport
    (s.deletedValues sport desired)).withSeasons sport (s.insertedValues sport desired)

/-- The store a save of a sport's seasons writes. -/
def savedSeasons (s : Store) (sport : Sport) (desired : List Year) : Store :=
  match (desired.find? (·.active)).map (·.value) with
  | some a => { s.seasonsAdded sport desired with
      years := (s.seasonsAdded sport desired).activatedYears sport a }
  | none => s.seasonsAdded sport desired

/-- After the deletes and adds of a save, a sport stores exactly the desired values. -/
theorem hasYear_seasonsAdded {s : Store} {sport : Sport} {desired : List Year} (v : Int) :
    (s.seasonsAdded sport desired).hasYear sport v = true ↔ v ∈ desired.map (·.value) := by
  rw [seasonsAdded, hasYear_withSeasons, hasYear_withoutSeasons, hasYear_clearedYears]
  simp only [beq_self_eq_true, Bool.true_and, Bool.or_eq_true, Bool.and_eq_true,
    Bool.not_eq_true', List.contains_iff_mem, Bool.eq_false_iff, ne_eq]
  constructor
  · rintro (⟨stored, notDeleted⟩ | inserted)
    · by_contra unwanted
      exact notDeleted (mem_deletedValues.2 ⟨stored, unwanted⟩)
    · exact (mem_insertedValues.1 inserted).1
  · intro wanted
    cases stored : s.hasYear sport v
    · exact .inr (mem_insertedValues.2 ⟨wanted, stored⟩)
    · refine .inl ⟨rfl, fun deleted => ?_⟩
      exact (mem_deletedValues.1 deleted).2 wanted

theorem seasonsAdded_inactive (s : Store) (sport : Sport) (desired : List Year) :
    ∀ y ∈ (s.seasonsAdded sport desired).years, y.sport = sport → y.active = false := by
  intro y member sameSport
  simp only [seasonsAdded, withSeasons, withoutSeasons, List.mem_append, List.mem_filter,
    List.mem_map] at member
  rcases member with ⟨cleared, _⟩ | ⟨v, _, rfl⟩
  · exact clearedYears_inactive s sport y cleared sameSport
  · rfl

theorem hasYear_savedSeasons {s : Store} {sport : Sport} {desired : List Year} (v : Int) :
    (s.savedSeasons sport desired).hasYear sport v = true ↔ v ∈ desired.map (·.value) := by
  have same : (s.savedSeasons sport desired).hasYear sport v =
      (s.seasonsAdded sport desired).hasYear sport v := by
    unfold savedSeasons
    split
    · exact hasYear_activatedYears (s.seasonsAdded sport desired) sport sport _ v
    · rfl
  rw [same, hasYear_seasonsAdded]

/-- The writes of a save that changes something run through, one row each, to the saved store. -/
theorem runs_savedSeasons {s : Store} (valid : Valid s) (writable : s.readOnly = false)
    (sport : Sport) {desired : List Year} (distinct : (desired.map (·.value)).Nodup) :
    s.Runs ((if (s.activeYear sport).isSome = true then [.clearActive sport] else []) ++
      (diff (s.yearsOf sport) desired).toDelete.map (fun y => .delYear sport y.value) ++
      (diff (s.yearsOf sport) desired).toInsert.map (fun y => .addYear sport y.value) ++
      (match (desired.find? (·.active)).map (·.value) with
        | some year => [.setActive sport year]
        | none => []))
      (s.savedSeasons sport desired) := by
  have cleared := runs_clearPhase valid writable sport
  have deleted := runs_delYears (cleared.valid valid) writable
    (nodup_deletedValues valid sport desired) fun v member => by
      rw [hasYear_clearedYears]
      exact (mem_deletedValues.1 member).1
  have added : (({ s with years := s.clearedYears sport } : Store).withoutSeasons sport
      (s.deletedValues sport desired)).Runs ((s.insertedValues sport desired).map (.addYear sport))
      (s.seasonsAdded sport desired) :=
    @runs_addYears (({ s with years := s.clearedYears sport } : Store).withoutSeasons sport
      (s.deletedValues sport desired)) writable sport _ (nodup_insertedValues distinct s sport)
      fun v member => by
      rw [hasYear_withoutSeasons, hasYear_clearedYears]
      simp [(mem_insertedValues.1 member).2]
  have deletes :
      (diff (s.yearsOf sport) desired).toDelete.map (fun y => Write.delYear sport y.value) =
        (s.deletedValues sport desired).map (.delYear sport) := by
    rw [deletedValues, List.map_map]
    rfl
  have inserts :
      (diff (s.yearsOf sport) desired).toInsert.map (fun y => Write.addYear sport y.value) =
        (s.insertedValues sport desired).map (.addYear sport) := by
    rw [insertedValues, List.map_map]
    rfl
  rw [deletes, inserts]
  have upToAdds := (cleared.append deleted).append added
  unfold savedSeasons
  cases chosen : (desired.find? (·.active)).map (·.value) with
  | some a =>
    have stored : (s.seasonsAdded sport desired).hasYear sport a = true := by
      rw [hasYear_seasonsAdded]
      obtain ⟨d, found, rfl⟩ := Option.map_eq_some_iff.1 chosen
      exact List.mem_map_of_mem (List.mem_of_find?_eq_some found)
    exact upToAdds.append (@runs_setActive (s.seasonsAdded sport desired) writable sport a stored
      (seasonsAdded_inactive s sport desired))
  | none => simpa only [List.append_nil] using upToAdds

theorem activeYear_savedSeasons {s : Store} {sport : Sport} {desired : List Year}
    (valid : Valid (s.savedSeasons sport desired)) :
    (s.savedSeasons sport desired).activeYear sport = (desired.find? (·.active)).map (·.value) := by
  unfold savedSeasons at valid ⊢
  cases chosen : (desired.find? (·.active)).map (·.value) with
  | some a =>
    rw [chosen] at valid
    have stored : (s.seasonsAdded sport desired).hasYear sport a = true := by
      rw [hasYear_seasonsAdded]
      obtain ⟨d, found, rfl⟩ := Option.map_eq_some_iff.1 chosen
      exact List.mem_map_of_mem (List.mem_of_find?_eq_some found)
    exact (activeYear_eq_some_iff valid).2 (mem_activatedYears stored)
  | none => exact activeYear_eq_none (seasonsAdded_inactive s sport desired)

theorem filter_sport_savedSeasons (s : Store) {sport other : Sport} (different : other ≠ sport)
    (desired : List Year) :
    (s.savedSeasons sport desired).years.filter (·.sport == other) =
      s.years.filter (·.sport == other) := by
  have added : (s.seasonsAdded sport desired).years.filter (·.sport == other) =
      s.years.filter (·.sport == other) := by
    rw [seasonsAdded, filter_sport_withSeasons _ different, filter_sport_withoutSeasons _ different]
    exact filter_sport_clearedYears s different
  unfold savedSeasons
  split
  · exact (filter_sport_activatedYears _ different _).trans added
  · exact added

/-- A save keeps the rows of the seasons it does not delete. -/
theorem rows_savedSeasons (s : Store) (sport : Sport) (desired : List Year) :
    let kept := s.withoutSeasons sport (s.deletedValues sport desired)
    (s.savedSeasons sport desired).friends = kept.friends ∧
      (s.savedSeasons sport desired).players = kept.players ∧
      (s.savedSeasons sport desired).stats = kept.stats := by
  unfold savedSeasons
  split <;> exact ⟨rfl, rfl, rfl⟩

/-- Whether a row's season is one a save of a sport keeps. -/
def keepsSeason (sport : Sport) (desired : List Year) (rowSport : Sport) (rowYear : Int) : Bool :=
  rowSport != sport || (desired.map (·.value)).contains rowYear

/-- A row of a stored season survives the deletes of a save exactly when the save keeps its
season. -/
theorem kept_of_stored {s : Store} {sport rowSport : Sport} {desired : List Year} {rowYear : Int}
    (stored : s.hasYear rowSport rowYear = true) :
    (!(rowSport == sport && (s.deletedValues sport desired).contains rowYear)) =
      keepsSeason sport desired rowSport rowYear := by
  unfold keepsSeason
  cases sameSport : rowSport == sport
  · simp [bne, sameSport]
  · rw [beq_iff_eq] at sameSport
    subst sameSport
    rw [Bool.eq_iff_iff]
    simp only [Bool.true_and, Bool.not_eq_true', bne_self_eq_false,
      Bool.false_or, List.contains_iff_mem, ← Bool.not_eq_true, mem_deletedValues, stored,
      true_and, not_not]

theorem Valid.friends_withoutDeleted {s : Store} (valid : Valid s) (sport : Sport)
    (desired : List Year) :
    (s.withoutSeasons sport (s.deletedValues sport desired)).friends =
      s.friends.filter fun f => keepsSeason sport desired f.sport f.year :=
  List.filter_congr fun f member => kept_of_stored (valid.friendYear f member)

theorem Valid.players_withoutDeleted {s : Store} (valid : Valid s) (sport : Sport)
    (desired : List Year) :
    (s.withoutSeasons sport (s.deletedValues sport desired)).players =
      s.players.filter fun p => keepsSeason sport desired p.sport p.year := by
  refine List.filter_congr fun p member => kept_of_stored ?_
  obtain ⟨f, friendStored, _, sameSport, sameYear⟩ := valid.playerFriend p member
  rw [← sameSport, ← sameYear]
  exact valid.friendYear f friendStored

theorem Valid.stats_withoutDeleted {s : Store} (valid : Valid s) (sport : Sport)
    (desired : List Year) :
    (s.withoutSeasons sport (s.deletedValues sport desired)).stats =
      s.stats.filter fun r => keepsSeason sport desired r.sport r.year :=
  List.filter_congr fun r member => kept_of_stored (valid.statYear r member)

/-- What a successful save of a sport's seasons leaves. -/
structure SeasonsSaved (s t : Store) (sport : Sport) (desired : List Year) : Prop where
  seasons : t.yearsOf sport = desired.mergeSort fun a b => decide (a.value ≤ b.value)
  otherSports : ∀ other, other ≠ sport →
    t.years.filter (·.sport == other) = s.years.filter (·.sport == other)
  friends : t.friends = s.friends.filter fun f => keepsSeason sport desired f.sport f.year
  players : t.players = s.players.filter fun p => keepsSeason sport desired p.sport p.year
  stats : t.stats = s.stats.filter fun r => keepsSeason sport desired r.sport r.year

theorem seasonsSaved_savedSeasons {s : Store} (valid : Valid s) (writable : s.readOnly = false)
    {sport : Sport} {desired : List Year} (oneActive : (desired.filter (·.active)).length ≤ 1)
    (distinct : (desired.map (·.value)).Nodup) :
    SeasonsSaved s (s.savedSeasons sport desired) sport desired := by
  have saved := (runs_savedSeasons valid writable sport distinct).valid valid
  obtain ⟨friends, players, stats⟩ := rows_savedSeasons s sport desired
  exact {
    seasons := yearsOf_eq_of_seasons saved oneActive distinct hasYear_savedSeasons
      (activeYear_savedSeasons saved)
    otherSports := fun _ different => filter_sport_savedSeasons s different desired
    friends := friends.trans (valid.friends_withoutDeleted sport desired)
    players := players.trans (valid.players_withoutDeleted sport desired)
    stats := stats.trans (valid.stats_withoutDeleted sport desired) }

/-- When the stored seasons already are the desired ones, the store itself is what a save
leaves. -/
theorem seasonsSaved_self {s : Store} (valid : Valid s) {sport : Sport} {desired : List Year}
    (oneActive : (desired.filter (·.active)).length ≤ 1)
    (distinct : (desired.map (·.value)).Nodup)
    (unchanged : ((diff (s.yearsOf sport) desired).isEmpty &&
      s.activeYear sport == (desired.find? (·.active)).map (·.value)) = true) :
    SeasonsSaved s s sport desired := by
  simp only [RosterDiff.isEmpty, Bool.and_eq_true, List.isEmpty_iff, beq_iff_eq] at unchanged
  obtain ⟨⟨⟨noInserts, -⟩, noDeletes⟩, sameActive⟩ := unchanged
  have nothingDeleted : s.deletedValues sport desired = [] := by
    rw [deletedValues, noDeletes, List.map_nil]
  have stored : ∀ v, s.hasYear sport v = true ↔ v ∈ desired.map (·.value) := by
    intro v
    constructor
    · intro present
      by_contra unwanted
      have deleted := mem_deletedValues.2 ⟨present, unwanted⟩
      simp [nothingDeleted] at deleted
    · intro wanted
      by_contra absent
      have inserted := mem_insertedValues.2 ⟨wanted, Bool.eq_false_iff.2 absent⟩
      simp [insertedValues, noInserts] at inserted
  have kept := withoutSeasons_nil s sport
  rw [← nothingDeleted] at kept
  exact {
    seasons := yearsOf_eq_of_seasons valid oneActive distinct stored sameActive
    otherSports := fun _ _ => rfl
    friends := (congrArg Store.friends kept).symm.trans (valid.friends_withoutDeleted sport desired)
    players := (congrArg Store.players kept).symm.trans (valid.players_withoutDeleted sport desired)
    stats := (congrArg Store.stats kept).symm.trans (valid.stats_withoutDeleted sport desired) }

/-- A save that succeeds on a reachable store leaves it as it was or saves the seasons, and the
store it leaves is reachable. -/
theorem saveYears_eq_ok {s t : Store} (reachable : Reachable s) {sport : Sport}
    {desired : List Year} (saved : s.saveYears sport desired = .ok t) :
    Reachable t ∧ (t = s ∨ SeasonsSaved s t sport desired) := by
  have valid := reachable.valid
  have writable := reachable.writable
  unfold Store.saveYears at saved
  split at saved
  · cases saved
    exact ⟨reachable, .inl rfl⟩
  split at saved
  · cases saved
  rename_i manyActive
  have oneActive := Nat.not_lt.1 manyActive
  split at saved
  · cases saved
  rename_i unique
  have distinct := (repeatedValue_eq_none_iff.1 unique).1
  dsimp only at saved
  split at saved
  · cases saved
    exact ⟨reachable, .inl rfl⟩
  · have run := runs_savedSeasons valid writable sport distinct
    have same := (transact_eq_ok_iff.1 saved).determ run
    subst same
    exact ⟨run.reachable reachable, .inr (seasonsSaved_savedSeasons valid writable oneActive distinct)⟩

/-- Saving a sport's seasons: refused before any read, or saved exactly. -/
theorem saveYears_reconciles (s : Store) (reachable : Reachable s) (sport : Sport)
    (desired : List Year) :
    (desired = [] → s.saveYears sport desired = .ok s) ∧
    (1 < (desired.filter (·.active)).length →
      s.saveYears sport desired = .error (.validation ("multiple active years for " ++ sport.slug))) ∧
    ((desired.filter (·.active)).length ≤ 1 → ¬(desired.map (·.value)).Nodup →
      ∃ pre v post, desired.map (·.value) = pre ++ v :: post ∧ v ∈ pre ∧ pre.Nodup ∧
        s.saveYears sport desired =
          .error (.validation ("duplicate year " ++ toString v ++ " for " ++ sport.slug))) ∧
    (desired ≠ [] → (desired.filter (·.active)).length ≤ 1 → (desired.map (·.value)).Nodup →
      ∃ t, s.saveYears sport desired = .ok t ∧ Reachable t ∧ SeasonsSaved s t sport desired) := by
  refine ⟨?empty, ?manyActive, ?repeated, ?saved⟩
  case empty =>
    rintro rfl
    rfl
  case manyActive =>
    intro many
    cases desired with
    | nil => simp at many
    | cons d rest => simp only [Store.saveYears, List.isEmpty_cons, gt_iff_lt, many]; rfl
  case repeated =>
    intro oneActive repeats
    cases found : repeatedValue [] (desired.map (·.value)) with
    | none => exact absurd (repeatedValue_eq_none_iff.1 found).1 repeats
    | some v =>
      obtain ⟨pre, post, split, repeated, distinct, -⟩ := repeatedValue_eq_some found
      have notEmpty : desired.isEmpty = false := by
        rw [List.isEmpty_eq_false_iff]
        rintro rfl
        simp at split
      refine ⟨pre, v, post, split, repeated.resolve_right List.not_mem_nil, distinct, ?_⟩
      simp only [Store.saveYears, notEmpty, Bool.false_eq_true, if_false, gt_iff_lt,
        Nat.not_lt.2 oneActive, found]
  case saved =>
    intro nonempty oneActive distinct
    have valid := reachable.valid
    have writable := reachable.writable
    have notEmpty : desired.isEmpty = false := List.isEmpty_eq_false_iff.2 nonempty
    have unique : repeatedValue [] (desired.map (·.value)) = none :=
      repeatedValue_eq_none_iff.2 ⟨distinct, fun _ _ => List.not_mem_nil⟩
    simp only [Store.saveYears, notEmpty, Bool.false_eq_true, if_false, gt_iff_lt,
      Nat.not_lt.2 oneActive, unique]
    split
    · -- nothing to write: the shortcut agrees with the writes it skips
      rename_i unchanged
      exact ⟨s, rfl, reachable, seasonsSaved_self valid oneActive distinct unchanged⟩
    · have run := runs_savedSeasons valid writable sport distinct
      exact ⟨s.savedSeasons sport desired, transact_eq_ok_iff.2 run, run.reachable reachable,
        seasonsSaved_savedSeasons valid writable oneActive distinct⟩

/-- Reshuffling the seasons of a store that has rows to drop, a flag to clear and a football season;
then saving the seasons it already has. -/
theorem saveYears_reconciles_reshuffled :
    let s : Store := {
      years := [⟨.mlb, 2017, false⟩, ⟨.mlb, 2018, true⟩, ⟨.mlb, 2019, false⟩, ⟨.nfl, 2019, true⟩]
      friends := [⟨1, .mlb, 2017, 0, "Ann"⟩, ⟨2, .mlb, 2018, 0, "Bo"⟩, ⟨3, .nfl, 2019, 0, "Cy"⟩]
      players := [⟨1, .mlb, 2017, 1, 147, 1, 0⟩, ⟨2, .mlb, 2018, 2, 545361, 2, 0⟩,
        ⟨3, .nfl, 2019, 4, 9, 3, 0⟩]
      stats := [⟨.mlb, 2017, some ⟨1546340400, 0⟩, some "[]"⟩]
      lastFriendId := 3
      lastPlayerId := 3 }
    let desired : List Year := [⟨2020, false⟩, ⟨2019, true⟩, ⟨2018, false⟩]
    let current : List Year := [⟨2017, false⟩, ⟨2018, true⟩, ⟨2019, false⟩]
    Reachable s ∧
      (∃ t, s.saveYears .mlb desired = .ok t ∧ Reachable t ∧ SeasonsSaved s t .mlb desired) ∧
      ∃ t, s.saveYears .mlb current = .ok t ∧ Reachable t ∧ SeasonsSaved s t .mlb current := by
  intro s desired current
  have written : Store.empty.transact [.addYear .mlb 2017, .setActive .mlb 2017,
      .addFriend .mlb 0 "Ann", .addPlayer .mlb 1 147 1 0, .clearActive .mlb, .addYear .mlb 2018,
      .setActive .mlb 2018, .addFriend .mlb 0 "Bo", .addPlayer .mlb 2 545361 2 0,
      .addYear .mlb 2019, .addYear .nfl 2019, .setActive .nfl 2019, .addFriend .nfl 0 "Cy",
      .addPlayer .nfl 4 9 3 0] = .ok { s with stats := [] } := rfl
  have cached : ({ s with stats := [] } : Store).putStat ⟨.mlb, 2017, some ⟨1546340400, 0⟩, some "[]"⟩ =
      .ok s := rfl
  have reachable : Reachable s := (Reachable.empty.transact written).putStat cached
  exact ⟨reachable,
    (saveYears_reconciles s reachable .mlb desired).2.2.2 (by simp) (by decide) (by decide),
    (saveYears_reconciles s reachable .mlb current).2.2.2 (by simp) (by decide) (by decide)⟩

end Store

end DraftPool
