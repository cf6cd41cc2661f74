import DraftPool.Time.Reset

/-
The daily reset as a calendar fact. The main statement is `resetBoundary_latest_reset`.
-/

namespace DraftPool

namespace Instant

theorem le_refl (a : Instant) : a ≤ a := by
  rw [le_iff]
  omega

theorem le_trans {a b c : Instant} (ab : a ≤ b) (bc : b ≤ c) : a ≤ c := by
  rw [le_iff] at ab bc ⊢
  omega

theorem lt_of_not_le {a b : Instant} (notLe : ¬ a ≤ b) : b < a := by
  rw [le_iff] at notLe
  rw [lt_iff]
  omega

theorem eq_iff {a b : Instant} : a = b ↔ a.seconds = b.seconds ∧ a.nanos = b.nanos := by
  cases a
  cases b
  simp

end Instant

/-- An instant at 10:00:00.000000000 UTC: ten hours into its day, with no fraction of a
second. -/
def IsReset (r : Instant) : Prop :=
  r.seconds % 86400 = 10 * 3600 ∧ r.nanos = 0

theorem secondsPerDay_eq : Instant.secondsPerDay = 86400 := rfl

/-- The reset boundary is at 10:00 UTC, at or before the second of `now`, and less than a day
before it. -/
theorem resetBoundary_spec (now : Instant) :
    IsReset (resetBoundary now) ∧ (resetBoundary now).seconds ≤ now.seconds ∧
      now.seconds < (resetBoundary now).seconds + 86400 := by
  unfold IsReset resetBoundary dayReset
  dsimp only
  split
  case isTrue early =>
    -- before the reset of its day: the boundary is the reset of the day before
    rw [Instant.lt_iff] at early
    simp only [secondsPerDay_eq, show resetHour = 10 from rfl, and_true] at early ⊢
    omega
  case isFalse late =>
    rw [Instant.lt_iff] at late
    simp only [secondsPerDay_eq, show resetHour = 10 from rfl, and_true] at late ⊢
    omega

theorem isReset_resetBoundary (now : Instant) : IsReset (resetBoundary now) :=
  (resetBoundary_spec now).1

/-- `now` comes before the reset of the day after its boundary. -/
theorem lt_next_resetBoundary (now : Instant) :
    now < ⟨(resetBoundary now).seconds + 86400, 0⟩ := by
  rw [Instant.lt_iff]
  exact .inl (resetBoundary_spec now).2.2

/-- Every reset at or before `now` is at or before its boundary. -/
theorem le_resetBoundary_of_isReset {r now : Instant} (reset : IsReset r) (before : r ≤ now) :
    r ≤ resetBoundary now := by
  obtain ⟨⟨boundaryHour, boundaryNanos⟩, boundaryLe, nowLt⟩ := resetBoundary_spec now
  obtain ⟨resetHourOf, resetNanos⟩ := reset
  rw [Instant.le_iff] at before ⊢
  -- two resets are a whole number of days apart, and the boundary is within a day of `now`
  omega

/-- A reset at or before `now`, with `now` before the reset of the next day, is the boundary. -/
theorem resetBoundary_eq_of_isReset {r now : Instant} (reset : IsReset r) (before : r ≤ now)
    (within : now < ⟨r.seconds + 86400, 0⟩) : resetBoundary now = r := by
  have atMost := le_resetBoundary_of_isReset reset before
  obtain ⟨⟨boundaryHour, boundaryNanos⟩, boundaryLe, _⟩ := resetBoundary_spec now
  obtain ⟨resetHourOf, resetNanos⟩ := reset
  rw [Instant.le_iff] at atMost
  rw [Instant.lt_iff] at within
  dsimp only at within
  rw [Instant.eq_iff]
  omega

/-- The boundary only moves forward with time. -/
theorem resetBoundary_mono {now later : Instant} (le : now ≤ later) :
    resetBoundary now ≤ resetBoundary later :=
  le_resetBoundary_of_isReset (isReset_resetBoundary now)
    (Instant.le_trans (resetBoundary_le now) le)

/-- A boundary is its own boundary. -/
theorem resetBoundary_resetBoundary (now : Instant) :
    resetBoundary (resetBoundary now) = resetBoundary now := by
  apply resetBoundary_eq_of_isReset (isReset_resetBoundary now) (Instant.le_refl _)
  rw [Instant.lt_iff]
  dsimp only
  omega

/-- A stamped row is fresh against the boundary of `now` exactly when no reset falls after its
stamp and at or before `now`. -/
theorem freshness_resetBoundary (t now : Instant) (scores : String) :
    Freshness.of (some t) (some scores) (resetBoundary now) = .fresh ↔
      ¬ ∃ r, IsReset r ∧ t < r ∧ r ≤ now := by
  have fresh : Freshness.of (some t) (some scores) (resetBoundary now) = .fresh ↔
      resetBoundary now ≤ t := by
    by_cases le : resetBoundary now ≤ t <;> simp [Freshness.of, le]
  rw [fresh]
  constructor
  · -- every reset up to `now` is at or before the boundary, so at or before the stamp
    rintro boundaryLe ⟨r, reset, after, atMost⟩
    have rLe := Instant.le_trans (le_resetBoundary_of_isReset reset atMost) boundaryLe
    rw [Instant.le_iff] at rLe
    rw [Instant.lt_iff] at after
    omega
  · -- otherwise the boundary itself is such a reset
    intro none
    by_cases boundaryLe : resetBoundary now ≤ t
    · exact boundaryLe
    · exact absurd ⟨resetBoundary now, isReset_resetBoundary now, Instant.lt_of_not_le boundaryLe,
        resetBoundary_le now⟩ none

/-- A row without a time or without scores is stale. -/
theorem freshness_of_missing {stamp : Option Instant} {scores : Option String} (boundary : Instant)
    (missing : stamp = none ∨ scores = none) : Freshness.of stamp scores boundary = .stale := by
  rcases missing with rfl | rfl
  · rfl
  · cases stamp <;> rfl

/-- The reset boundary of `now` is the latest 10:00:00 UTC instant at or before `now`. -/
theorem resetBoundary_latest_reset (now : Instant) :
    IsReset (resetBoundary now) ∧ resetBoundary now ≤ now ∧
      now < ⟨(resetBoundary now).seconds + 86400, 0⟩ ∧
    (∀ r, IsReset r → r ≤ now → r ≤ resetBoundary now) ∧
    (∀ later, now ≤ later → resetBoundary now ≤ resetBoundary later) ∧
    resetBoundary (resetBoundary now) = resetBoundary now ∧
    (∀ t scores, Freshness.of (some t) (some scores) (resetBoundary now) = .fresh ↔
      ¬ ∃ r, IsReset r ∧ t < r ∧ r ≤ now) ∧
    ∀ stamp scores, stamp = none ∨ scores = none →
      Freshness.of stamp scores (resetBoundary now) = .stale :=
  ⟨isReset_resetBoundary now, resetBoundary_le now, lt_next_resetBoundary now,
    fun _ reset before => le_resetBoundary_of_isReset reset before,
    fun _ le => resetBoundary_mono le, resetBoundary_resetBoundary now,
    fun t scores => freshness_resetBoundary t now scores,
    fun _ _ missing => freshness_of_missing _ missing⟩

/-- Midnight of 2019-08-22 falls before that day's reset, so its boundary is 10:00 the day
before. -/
example : resetBoundary ⟨1566432000, 0⟩ = ⟨1566381600, 0⟩ := by decide

end DraftPool
