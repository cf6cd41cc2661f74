import DraftPool.Time.Instant

/-
The daily reset of cached scores. Scores expire every day at 10:00 UTC; a stored score row is
fresh when it has both a time and scores, and its time is at or after the latest reset.
-/

namespace DraftPool

/-- The hour of the day, in UTC, at which cached scores expire. -/
def resetHour : Int := 10

/-- The reset of the day of `now`. -/
def dayReset (now : Instant) : Instant :=
  ⟨now.seconds / Instant.secondsPerDay * Instant.secondsPerDay + resetHour * 3600, 0⟩

/-- The latest reset at or before `now`: the reset of its day, or of the day before when `now`
comes earlier in the day. -/
def resetBoundary (now : Instant) : Instant :=
  let anchor := dayReset now
  if now < anchor then ⟨anchor.seconds - Instant.secondsPerDay, 0⟩ else anchor

/-- Whether stored scores can be served as they are. -/
inductive Freshness where
  | fresh
  | stale
  deriving DecidableEq, Repr

/-- The freshness of a stored row against a reset boundary. -/
def Freshness.of (stamp : Option Instant) (scores : Option String) (boundary : Instant) :
    Freshness :=
  match stamp, scores with
  | some t, some _ => if boundary ≤ t then .fresh else .stale
  | _, _ => .stale

/-- The reset boundary is at or before the instant it is taken for. -/
theorem resetBoundary_le (now : Instant) : resetBoundary now ≤ now := by
  have hDiv := Int.emod_add_mul_ediv now.seconds Instant.secondsPerDay
  have hLow := Int.emod_nonneg now.seconds (by decide : Instant.secondsPerDay ≠ 0)
  have hDay : Instant.secondsPerDay = 86400 := rfl
  have hHour : resetHour = 10 := rfl
  unfold resetBoundary dayReset
  by_cases h : now < (⟨now.seconds / Instant.secondsPerDay * Instant.secondsPerDay +
      resetHour * 3600, 0⟩ : Instant)
  · rw [if_pos h, Instant.le_iff]
    dsimp only
    simp only [hDay, hHour] at hDiv hLow ⊢
    omega
  · rw [if_neg h, Instant.le_iff]
    rw [Instant.lt_iff] at h
    dsimp only at h ⊢
    omega

end DraftPool
