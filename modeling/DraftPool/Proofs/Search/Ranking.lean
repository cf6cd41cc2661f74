import DraftPool.Search.Rank
import DraftPool.Proofs.Score.Board
import DraftPool.Proofs.Text.ByteOrder
import Mathlib

/-
Ranking search results is a stable sort. The main statement is `rankResults_stable_sort`.
-/

namespace DraftPool

/-- The rank of a name for a query: 0 when the lowercase name starts with the query trimmed and
lowercased, 1 when it contains it elsewhere, and 2 otherwise. -/
def queryRank (query name : String) : Nat :=
  if (queryKey query).toList <+: (Text.lower name).toList then 0
  else if (queryKey query).toList <:+: (Text.lower name).toList then 1
  else 2

/-- The key that ranks a result for a query. -/
def rankKey (query : String) (r : SearchResult) : Nat × String × Int :=
  (queryRank query r.name, r.name, r.sourceId)

/-- One result goes no later than another for a query: a lower rank; or the same rank and a name
whose bytes come first; or the same rank and name and a source id no greater. -/
def RankedNoLater (query : String) (a b : SearchResult) : Prop :=
  queryRank query a.name < queryRank query b.name ∨
    queryRank query a.name = queryRank query b.name ∧
      (Text.utf8Encode a.name < Text.utf8Encode b.name ∨
        a.name = b.name ∧ a.sourceId ≤ b.sourceId)

theorem containsChars_iff_infix (hay needle : List Char) :
    containsChars hay needle = true ↔ needle <:+: hay := by
  induction hay with
  | nil => simp [containsChars]
  | cons c rest inductionHypothesis =>
    simp [containsChars, List.infix_cons_iff, inductionHypothesis]

theorem matchRank_queryKey (query name : String) :
    matchRank (queryKey query) name = queryRank query name := by
  simp only [matchRank, queryRank, List.isPrefixOf_iff_prefix, containsChars_iff_infix]

/-- A result with its rank for a query, as the sort compares it. -/
def ranked (query : String) (r : SearchResult) : Nat × SearchResult :=
  (matchRank (queryKey query) r.name, r)

theorem rankResults_eq (results : List SearchResult) (query : String) :
    rankResults results query =
      ((results.map (ranked query)).mergeSort rankedBefore).map Prod.snd := rfl

theorem rankedBefore_iff (a b : Nat × SearchResult) :
    rankedBefore a b = true ↔
      a.1 < b.1 ∨ a.1 = b.1 ∧ (a.2.name < b.2.name ∨ a.2.name = b.2.name ∧
        a.2.sourceId ≤ b.2.sourceId) := by
  unfold rankedBefore
  by_cases ranks : a.1 = b.1
  · by_cases names : a.2.name = b.2.name
    · simp [ranks, names]
    · simp [ranks, names]
  · simp only [ranks, ne_eq, not_false_eq_true, if_true, decide_eq_true_eq, false_and, or_false]

theorem rankedBefore_trans (a b c : Nat × SearchResult) :
    rankedBefore a b = true → rankedBefore b c = true → rankedBefore a c = true := by
  simp only [rankedBefore_iff]
  rintro (ab | ⟨ab, names⟩) (bc | ⟨bc, names'⟩)
  · exact .inl (Nat.lt_trans ab bc)
  · exact .inl (bc ▸ ab)
  · exact .inl (ab ▸ bc)
  · refine .inr ⟨ab.trans bc, ?_⟩
    rcases names with below | ⟨same, atMost⟩ <;> rcases names' with below' | ⟨same', atMost'⟩
    · exact .inl (String.lt_trans below below')
    · exact .inl (same' ▸ below)
    · exact .inl (same ▸ below')
    · exact .inr ⟨same.trans same', Int.le_trans atMost atMost'⟩

theorem rankedBefore_total (a b : Nat × SearchResult) :
    (rankedBefore a b || rankedBefore b a) = true := by
  simp only [Bool.or_eq_true, rankedBefore_iff]
  rcases lt_trichotomy a.1 b.1 with below | same | above
  · exact .inl (.inl below)
  · rcases lt_trichotomy a.2.name b.2.name with before | names | after
    · exact .inl (.inr ⟨same, .inl before⟩)
    · rcases le_total a.2.sourceId b.2.sourceId with ids | ids
      · exact .inl (.inr ⟨same, .inr ⟨names, ids⟩⟩)
      · exact .inr (.inr ⟨same.symm, .inr ⟨names.symm, ids⟩⟩)
    · exact .inr (.inr ⟨same.symm, .inl after⟩)
  · exact .inr (.inl above)

/-- The sort compares ranked results in the order of their keys. -/
theorem rankedBefore_ranked (query : String) (a b : SearchResult) :
    rankedBefore (ranked query a) (ranked query b) = true ↔ RankedNoLater query a b := by
  rw [rankedBefore_iff, RankedNoLater, ← Text.lt_iff_utf8Encode_lt]
  simp only [ranked, matchRank_queryKey]

/-- Every entry the sort gives back carries the rank of its result. -/
theorem eq_ranked_of_mem_sorted {query : String} {results : List SearchResult}
    {entry : Nat × SearchResult}
    (member : entry ∈ (results.map (ranked query)).mergeSort rankedBefore) :
    entry = ranked query entry.2 := by
  obtain ⟨r, _, rfl⟩ := List.mem_map.1 (List.mem_mergeSort.1 member)
  rfl

/-- Ranking the ranked results again gives back the sorted entries. -/
theorem map_ranked_rankResults (results : List SearchResult) (query : String) :
    (rankResults results query).map (ranked query) =
      (results.map (ranked query)).mergeSort rankedBefore := by
  rw [rankResults_eq, List.map_map]
  conv => rhs; rw [← List.map_id ((results.map (ranked query)).mergeSort rankedBefore)]
  exact List.map_congr_left fun entry member => (eq_ranked_of_mem_sorted member).symm

/-- Ranking search results is the stable sort of the results by their keys. -/
theorem rankResults_stable_sort (results : List SearchResult) (query : String) :
    (rankResults results query).Perm results ∧
    (rankResults results query).Pairwise (RankedNoLater query) ∧
    (∀ key, (rankResults results query).filter (rankKey query · == key) =
      results.filter (rankKey query · == key)) ∧
    (rankResults results query).Pairwise
      (fun a b => queryRank query a.name ≤ queryRank query b.name) ∧
    rankResults (rankResults results query) query = rankResults results query := by
  let sorted := (results.map (ranked query)).mergeSort rankedBefore
  have ordered : sorted.Pairwise (fun a b => rankedBefore a b = true) :=
    List.pairwise_mergeSort rankedBefore_trans rankedBefore_total _
  have unranked : Prod.snd ∘ ranked query = id := rfl
  have perm : (rankResults results query).Perm results := by
    have kept := (List.mergeSort_perm (results.map (ranked query)) rankedBefore).map Prod.snd
    rwa [List.map_map, unranked, List.map_id] at kept
  have keysInOrder : (rankResults results query).Pairwise (RankedNoLater query) := by
    have inOrder : ((rankResults results query).map (ranked query)).Pairwise
        (fun a b => rankedBefore a b = true) := by
      rw [map_ranked_rankResults]
      exact ordered
    rw [List.pairwise_map] at inOrder
    exact inOrder.imp fun before => (rankedBefore_ranked query _ _).1 before
  have stable (key : Nat × String × Int) : (rankResults results query).filter
      (rankKey query · == key) = results.filter (rankKey query · == key) := by
    let same (entry : Nat × SearchResult) : Bool := rankKey query entry.2 == key
    -- results of one key are level for the comparator, so the sort keeps their order
    have level : ∀ a ∈ results.map (ranked query), ∀ b ∈ results.map (ranked query),
        same a = true → same b = true → rankedBefore a b = true := by
      intro a aMember b bMember sameA sameB
      obtain ⟨x, -, rfl⟩ := List.mem_map.1 aMember
      obtain ⟨y, -, rfl⟩ := List.mem_map.1 bMember
      simp only [same, beq_iff_eq] at sameA sameB
      have keys := sameA.trans sameB.symm
      simp only [rankKey, Prod.mk.injEq] at keys
      rw [rankedBefore_ranked]
      exact .inr ⟨keys.1, .inr ⟨keys.2.1, keys.2.2.le⟩⟩
    calc (rankResults results query).filter (rankKey query · == key)
        = (sorted.filter same).map Prod.snd := by
          rw [rankResults_eq, List.filter_map]
          rfl
      _ = ((results.map (ranked query)).filter same).map Prod.snd := by
          rw [filter_mergeSort_of_level rankedBefore_trans rankedBefore_total _ same level]
      _ = results.filter (rankKey query · == key) := by
          rw [List.filter_map, List.map_map, unranked, List.map_id]
          rfl
  refine ⟨perm, keysInOrder, stable, keysInOrder.imp fun before => ?_, ?_⟩
  · rcases before with lower | ⟨same, -⟩
    · exact Nat.le_of_lt lower
    · exact Nat.le_of_eq same
  · -- the ranked results are sorted already, so sorting them again keeps them
    rw [rankResults_eq (rankResults results query), map_ranked_rankResults,
      List.mergeSort_of_pairwise ordered, ← rankResults_eq]

end DraftPool
