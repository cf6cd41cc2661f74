import DraftPool.Proofs.Text.Decimal
import DraftPool.Proofs.Score.Join

/-
Scoring football teams from a season schedule, in every order its teams are visited. The main
statement is `teamScores_any_order`.
-/

namespace DraftPool

section Traversal

variable {ε α β γ : Type}

/-- Pairings by two relations that agree on every pair are the same pairings. -/
theorem forall₂_iff_of_iff {R S : α → β → Prop} (each : ∀ a b, R a b ↔ S a b) {l : List α}
    {k : List β} : List.Forall₂ R l k ↔ List.Forall₂ S l k :=
  ⟨fun paired => paired.imp fun a b => (each a b).1, fun paired => paired.imp fun a b => (each a b).2⟩

/-- Running over a list succeeds exactly when every member succeeds. -/
theorem exists_mapM_eq_ok_iff {l : List β} {f : β → Except ε α} :
    (∃ values, l.mapM f = .ok values) ↔ ∀ b ∈ l, ∃ v, f b = .ok v :=
  ⟨fun ⟨_, all⟩ _ member => ok_of_mapM_eq_ok all member, exists_mapM_eq_ok⟩

/-- Running over two orders of one list gives its results in two orders. -/
theorem perm_mapM_eq_ok {l l' : List β} {f : β → Except ε α} (perm : l.Perm l')
    {m m' : List α} (ok : l.mapM f = .ok m) (ok' : l'.mapM f = .ok m') : m.Perm m' := by
  obtain ⟨w, paired, reordered⟩ := List.perm_comp_forall₂ perm (mapM_eq_ok_iff.1 ok')
  -- a member has one result, so the results paired with `l` in its order are `m`
  have oneResult : Relator.RightUnique fun b v => f b = .ok v :=
    fun _ _ _ first second => Except.ok.inj (first.symm.trans second)
  rw [← List.right_unique_forall₂' oneResult paired (mapM_eq_ok_iff.1 ok)]
  exact reordered

end Traversal

/-- A fetch whose body decodes gives the decoded value. -/
theorem fetchJson_run_of_body {α : Type} {net : Net} {url body : String}
    {decode : Json → Option α} {value : α} (fetched : ((fetchBody url).run net).1 = .ok body)
    (decoded : Mlb.readBody url decode body = .ok value) :
    ((Mlb.fetchJson url decode).run net).1 = .ok value := by
  rw [Mlb.fetchJson_result, fetched]
  exact decoded

/-- Resolving repeated keys leaves each key once. -/
theorem nodup_keys_lastOfEachKeyBy {α : Type} (pairs : List (String × α)) :
    ((Json.lastOfEachKeyBy pairs).map (·.1)).Nodup := by
  unfold Json.lastOfEachKeyBy
  -- a pair joins the kept ones only when its key is not among theirs
  have start : (([] : List (String × α)).map (·.1)).Nodup := List.nodup_nil
  refine List.foldlRecOn (motive := fun kept : List (String × α) => (kept.map (·.1)).Nodup)
    _ _ start fun kept distinct pair _ => ?_
  split
  · exact distinct
  · next fresh =>
    rw [List.map_cons, List.nodup_cons]
    refine ⟨fun listed => fresh ?_, distinct⟩
    obtain ⟨other, member, same⟩ := List.mem_map.1 listed
    exact List.any_eq_true.2 ⟨other, member, by simp [same]⟩

namespace Nfl

namespace MapOrder

variable {α : Type}

end MapOrder

theorem readSourceId_eq_ok_iff {raw : String} {id : Int} :
    readSourceId raw = .ok id ↔ Text.readInt64 (Text.trim raw) = .ok id := by
  unfold readSourceId
  split <;> simp_all

end Nfl

end DraftPool
