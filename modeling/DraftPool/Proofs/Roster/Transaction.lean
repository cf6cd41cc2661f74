import DraftPool.Pool.Session

/-
Writes applied in one transaction, each matching exactly one row.
-/

namespace DraftPool

namespace Store

/-- The writes, applied one after another from the first store, each match exactly one row and
end in the second. -/
inductive Runs : Store → List Write → Store → Prop
  | nil (s : Store) : Runs s [] s
  | cons {s next t : Store} {w : Write} {ws : List Write} :
      s.apply w = .ok (1, next) → Runs next ws t → Runs s (w :: ws) t

/-- A write stops a transaction on a store: it breaks a constraint, or it matches a number of
rows other than one. -/
def Stops (s : Store) (w : Write) : Prop :=
  (∃ e, s.apply w = .error e) ∨ ∃ n next, s.apply w = .ok (n, next) ∧ n ≠ 1

theorem transact_nil (s : Store) : s.transact [] = .ok s := rfl

/-- A transaction applies its first write and goes on from the store it leaves, or stops. -/
theorem transact_cons (s : Store) (w : Write) (ws : List Write) :
    s.transact (w :: ws) =
      match s.apply w with
      | .ok (1, next) => next.transact ws
      | .ok (n, _) => .error (.consistency w.name n)
      | .error e => .error (.write w.name e) := by
  simp only [transact, List.foldlM_cons]
  rcases s.apply w with e | ⟨n, next⟩
  · rfl
  · rcases n with _ | _ | n <;> rfl

/-- A list of writes runs to at most one store. -/
theorem Runs.determ {s t t' : Store} {ws : List Write} (first : Runs s ws t)
    (second : Runs s ws t') : t = t' := by
  induction first with
  | nil => cases second; rfl
  | cons applied _ inductionHypothesis =>
    cases second with
    | cons applied' rest' =>
      rw [applied] at applied'
      cases applied'
      exact inductionHypothesis rest'

theorem Runs.append {s t u : Store} {pre rest : List Write} (first : Runs s pre t)
    (second : Runs t rest u) : Runs s (pre ++ rest) u := by
  induction first with
  | nil => exact second
  | cons step _ inductionHypothesis => exact .cons step (inductionHypothesis second)

/-- After a run the transaction goes on from where the run ended. -/
theorem transact_append_of_runs {s t : Store} {pre : List Write} (run : Runs s pre t)
    (rest : List Write) : s.transact (pre ++ rest) = t.transact rest := by
  induction run with
  | nil => rfl
  | cons step _ inductionHypothesis =>
    rw [List.cons_append, transact_cons, step]
    exact inductionHypothesis

/-- A transaction succeeds exactly on a run, and ends where the run ends. -/
theorem transact_eq_ok_iff {s t : Store} {ws : List Write} :
    s.transact ws = .ok t ↔ Runs s ws t := by
  constructor
  · intro succeeded
    induction ws generalizing s with
    | nil =>
      cases succeeded
      exact .nil _
    | cons w ws inductionHypothesis =>
      rw [transact_cons] at succeeded
      rcases applied : s.apply w with e | ⟨n, next⟩
      · rw [applied] at succeeded
        cases succeeded
      · rw [applied] at succeeded
        rcases n with _ | _ | n
        · cases succeeded
        · exact .cons applied (inductionHypothesis succeeded)
        · cases succeeded
  · intro run
    have whole := transact_append_of_runs run []
    rwa [List.append_nil, transact_nil] at whole

/-- A write that breaks a constraint after a run ends the transaction with its fault, whatever
follows it. -/
theorem transact_of_fault {s t : Store} {pre : List Write} (run : Runs s pre t) {w : Write}
    {e : StoreFault} (failed : t.apply w = .error e) (post : List Write) :
    s.transact (pre ++ w :: post) = .error (.write w.name e) := by
  rw [transact_append_of_runs run, transact_cons, failed]

/-- A write that matches a number of rows other than one after a run ends the transaction with
that number, whatever follows it. -/
theorem transact_of_count {s t next : Store} {pre : List Write} (run : Runs s pre t) {w : Write}
    {n : Nat} (counted : t.apply w = .ok (n, next)) (other : n ≠ 1) (post : List Write) :
    s.transact (pre ++ w :: post) = .error (.consistency w.name n) := by
  rw [transact_append_of_runs run, transact_cons, counted]
  rcases n with _ | _ | n
  · rfl
  · exact absurd rfl other
  · rfl

/-- Writes either run to the end, or split at the first write that stops them. -/
theorem runs_or_stops (s : Store) (ws : List Write) :
    (∃ t, Runs s ws t) ∨ ∃ pre w post t, ws = pre ++ w :: post ∧ Runs s pre t ∧ t.Stops w := by
  induction ws generalizing s with
  | nil => exact .inl ⟨s, .nil s⟩
  | cons w ws inductionHypothesis =>
    rcases applied : s.apply w with e | ⟨n, next⟩
    · exact .inr ⟨[], w, ws, s, rfl, .nil s, .inl ⟨e, applied⟩⟩
    · by_cases one : n = 1
      · subst one
        rcases inductionHypothesis next with ⟨t, run⟩ | ⟨pre, w', post, t, split, run, stops⟩
        · exact .inl ⟨t, .cons applied run⟩
        · exact .inr ⟨w :: pre, w', post, t, by rw [split]; rfl, .cons applied run, stops⟩
      · exact .inr ⟨[], w, ws, s, rfl, .nil s, .inr ⟨n, next, applied, one⟩⟩

end Store

namespace Pool

/-- Running writes keeps the transaction's store when it succeeds and the pool as it was
when it fails. -/
theorem execute_run (p : Pool) (ws : List Write) :
    (execute ws).run p =
      match p.store.transact ws with
      | .ok t => (.ok (), { p with store := t })
      | .error e => (.error e, p) := by
  show (commit (p.store.transact ws)).run p = _
  cases p.store.transact ws <;> rfl

/-- Writes in one transaction are all or nothing. -/
theorem execute_atomic (p : Pool) (ws : List Write) :
    (ws = [] → (execute ws).run p = (.ok (), p)) ∧
    (∀ t, p.store.Runs ws t → (execute ws).run p = (.ok (), { p with store := t })) ∧
    (∀ pre w post t, ws = pre ++ w :: post → p.store.Runs pre t →
      (∀ e, t.apply w = .error e → (execute ws).run p = (.error (.write w.name e), p)) ∧
      (∀ n next, t.apply w = .ok (n, next) → n ≠ 1 →
        (execute ws).run p = (.error (.consistency w.name n), p))) ∧
    ((∃ t, p.store.Runs ws t) ∨
      ∃ pre w post t, ws = pre ++ w :: post ∧ p.store.Runs pre t ∧ t.Stops w) := by
  refine ⟨?empty, ?whole, ?stopped, Store.runs_or_stops p.store ws⟩
  case empty =>
    intro noWrites
    subst noWrites
    rfl
  case whole =>
    intro t run
    rw [execute_run, Store.transact_eq_ok_iff.2 run]
  case stopped =>
    intro pre w post t split run
    subst split
    constructor
    · intro e failed
      rw [execute_run, Store.transact_of_fault run failed]
    · intro n next counted other
      rw [execute_run, Store.transact_of_count run counted other]

end Pool

end DraftPool
