import DraftPool.Score.Total
import Mathlib.Data.List.Perm.Basic

/-
Where a category's board puts each player.
-/

namespace DraftPool

/-- A player whose friend id is listed, and is not among the ids already passed over, goes to
the first friend listed with that id. -/
theorem mem_playersOfFriends_go {players : List Player} {p : Player} (member : p ∈ players)
    {friends : List Friend} (listed : p.friendId ∈ friends.map (·.id)) {seen : List Int}
    (unseen : p.friendId ∉ seen) :
    ∃ entry ∈ playersOfFriends.go players seen friends, entry.1.id = p.friendId ∧ p ∈ entry.2 := by
  -- the friends are passed over one by one, each adding its id to the ones seen
  induction friends generalizing seen with
  | nil => simp at listed
  | cons f rest inductionHypothesis =>
    rw [playersOfFriends.go]
    by_cases same : f.id = p.friendId
    · have fresh : seen.contains f.id = false := by simpa [same] using unseen
      refine ⟨_, List.mem_cons_self, same, ?_⟩
      rw [fresh, if_neg Bool.false_ne_true]
      exact List.mem_filter.2 ⟨member, by simp [same]⟩
    · have later : p.friendId ∈ rest.map (·.id) := by
        simpa [Ne.symm same] using listed
      have stillUnseen : p.friendId ∉ f.id :: seen := by
        simpa [Ne.symm same] using unseen
      obtain ⟨entry, found, owner, owned⟩ := inductionHypothesis later stillUnseen
      exact ⟨entry, List.mem_cons_of_mem _ found, owner, owned⟩

/-- A player whose friend is listed goes to the first friend listed with that id. -/
theorem mem_playersOfFriends {friends : List Friend} {players : List Player} {p : Player}
    (member : p ∈ players) (listed : p.friendId ∈ friends.map (·.id)) :
    ∃ entry ∈ playersOfFriends friends players, entry.1.id = p.friendId ∧ p ∈ entry.2 :=
  mem_playersOfFriends_go member listed List.not_mem_nil

/-- A friend's line lists the line of every player it was given. -/
theorem ofPlayer_mem_ofPlayers (category : Category) (nameScores : List (Int × NameScore))
    (f : Friend) {owned : List Player} {p : Player} (member : p ∈ owned) :
    PlayerScore.ofPlayer nameScores p ∈ (FriendScore.ofPlayers category nameScores f owned).playerScores := by
  simp only [FriendScore.ofPlayers, List.mem_mergeSort]
  exact List.mem_map_of_mem member

/-- A player whose friend is listed shows on the board, under that friend. -/
theorem mem_buildScoreCategory (category : Category) (nameScores : List (Int × NameScore))
    {friends : List Friend} {players : List Player} {p : Player} (member : p ∈ players)
    (listed : p.friendId ∈ friends.map (·.id)) :
    ∃ line ∈ (buildScoreCategory category friends players nameScores).friendScores,
      line.friendId = p.friendId ∧ PlayerScore.ofPlayer nameScores p ∈ line.playerScores := by
  obtain ⟨⟨f, owned⟩, entry, owner, placed⟩ := mem_playersOfFriends member listed
  refine ⟨FriendScore.ofPlayers category nameScores f owned, ?_, owner,
    ofPlayer_mem_ofPlayers category nameScores f placed⟩
  simp only [buildScoreCategory, List.mem_mergeSort]
  exact List.mem_map.2 ⟨(f, owned), entry, rfl⟩

/-! Stable sorts by a key. -/

/-- A list is a stable sort of another by an integer key: ascending in the key, with the items
of each key in the order the other list gives them. -/
def StablySorted {α : Type} (key : α → Int) (sorted given : List α) : Prop :=
  sorted.Pairwise (fun a b => key a ≤ key b) ∧
    ∀ k, sorted.filter (fun a => key a == k) = given.filter (fun a => key a == k)

theorem keyLe_trans {α : Type} (key : α → Int) (a b c : α) :
    decide (key a ≤ key b) = true → decide (key b ≤ key c) = true →
      decide (key a ≤ key c) = true := by
  simp only [decide_eq_true_eq]
  omega

theorem keyLe_total {α : Type} (key : α → Int) (a b : α) :
    (decide (key a ≤ key b) || decide (key b ≤ key a)) = true := by
  simp only [Bool.or_eq_true, decide_eq_true_eq]
  omega

/-- Sorting keeps in their order the items that the comparator puts level with each other. -/
theorem filter_mergeSort_of_level {α : Type} {le : α → α → Bool}
    (trans : ∀ a b c, le a b = true → le b c = true → le a c = true)
    (total : ∀ a b, (le a b || le b a) = true) (l : List α) (same : α → Bool)
    (level : ∀ a ∈ l, ∀ b ∈ l, same a = true → same b = true → le a b = true) :
    (l.mergeSort le).filter same = l.filter same := by
  -- the level items are sorted already, so the sort keeps them as a sublist
  have alike : (l.filter same).Pairwise fun a b => le a b = true := by
    refine List.Pairwise.imp_of_mem (fun {a b} memA memB _ => ?_)
      (List.pairwise_of_forall fun _ _ => trivial)
    simp only [List.mem_filter] at memA memB
    exact level a memA.1 b memB.1 memA.2 memB.2
  have kept : (l.filter same).Sublist ((l.mergeSort le).filter same) := by
    have inSorted := List.sublist_mergeSort trans total alike List.filter_sublist
    simpa [List.filter_filter] using inSorted.filter same
  have sameLength : (l.filter same).length = ((l.mergeSort le).filter same).length := by
    rw [← List.countP_eq_length_filter, ← List.countP_eq_length_filter]
    exact ((List.mergeSort_perm l _).countP_eq same).symm
  exact (kept.eq_of_length sameLength).symm

/-- Sorting by a key is a stable sort: the items of one key keep their order. -/
theorem stablySorted_mergeSort {α : Type} (key : α → Int) (l : List α) :
    StablySorted key (l.mergeSort fun a b => decide (key a ≤ key b)) l := by
  refine ⟨?ascending, fun k => ?keyed⟩
  case ascending =>
    exact (List.pairwise_mergeSort (keyLe_trans key) (keyLe_total key) l).imp
      fun below => of_decide_eq_true below
  case keyed =>
    refine filter_mergeSort_of_level (keyLe_trans key) (keyLe_total key) l _
      fun a _ b _ sameA sameB => ?_
    simp only [beq_iff_eq] at sameA sameB
    simp [sameA, sameB]

/-! The board keeps every player of a listed friend, once. -/

/-- Two filters that never both pass share out the filter by either. -/
theorem filter_append_perm_of_disjoint {α : Type} {p q : α → Bool} (l : List α)
    (disjoint : ∀ a ∈ l, p a = true → q a = false) :
    (l.filter p ++ l.filter q).Perm (l.filter fun a => p a || q a) := by
  have first : (l.filter fun a => p a || q a).filter p = l.filter p := by
    rw [List.filter_filter]
    exact List.filter_congr fun a _ => by cases p a <;> cases q a <;> rfl
  have second : (l.filter fun a => p a || q a).filter (fun a => !p a) = l.filter q := by
    rw [List.filter_filter]
    refine List.filter_congr fun a member => ?_
    cases passes : p a
    · rfl
    · simp [disjoint a member passes]
  have split := List.filter_append_perm p (l.filter fun a => p a || q a)
  rwa [first, second] at split

theorem length_playersOfFriends_go (players : List Player) (seen : List Int)
    (friends : List Friend) : (playersOfFriends.go players seen friends).length = friends.length := by
  induction friends generalizing seen with
  | nil => rfl
  | cons f rest inductionHypothesis => simp [playersOfFriends.go, inductionHypothesis]

/-- The friend at each position is given the players with its id, unless a friend before it, or
an id already passed over, has that id. -/
theorem getElem_playersOfFriends_go (players : List Player) (seen : List Int) (friends : List Friend)
    (i : Nat) (listed : i < (playersOfFriends.go players seen friends).length)
    (inFriends : i < friends.length) :
    (playersOfFriends.go players seen friends)[i] =
      (friends[i], if seen.contains friends[i].id || (friends.take i).any (·.id == friends[i].id)
        then [] else players.filter (·.friendId == friends[i].id)) := by
  induction friends generalizing seen i with
  | nil => cases inFriends
  | cons f rest inductionHypothesis =>
    cases i with
    | zero => simp [playersOfFriends.go]
    | succ i =>
      have inRest : i < rest.length := by simpa using inFriends
      simp only [playersOfFriends.go, List.getElem_cons_succ, List.take_succ_cons, List.any_cons]
      rw [inductionHypothesis (f.id :: seen) i (by rw [length_playersOfFriends_go]; exact inRest)
        inRest]
      simp only [List.contains_cons, BEq.comm (a := rest[i].id), Bool.or_left_comm, Bool.or_assoc]

/-- The players handed out to friends are those whose friend is listed and was not passed over
already, each once. -/
theorem flatMap_playersOfFriends_go_perm (players : List Player) (seen : List Int)
    (friends : List Friend) :
    ((playersOfFriends.go players seen friends).flatMap (·.2)).Perm
      (players.filter fun p => !seen.contains p.friendId && friends.any (·.id == p.friendId)) := by
  induction friends generalizing seen with
  | nil => simp [playersOfFriends.go]
  | cons f rest inductionHypothesis =>
    rw [playersOfFriends.go, List.flatMap_cons]
    have later := inductionHypothesis (f.id :: seen)
    by_cases passed : seen.contains f.id = true
    · -- a friend whose id was passed over gets nobody, and adds no new id
      rw [if_pos passed, List.nil_append]
      refine later.trans (List.Perm.of_eq (List.filter_congr fun p _ => ?_))
      by_cases same : f.id = p.friendId
      · have passedMem : f.id ∈ seen := by simpa using passed
        rw [← same]
        simp [passedMem]
      · simp [Ne.symm same, beq_false_of_ne same]
    · rw [if_neg passed]
      refine (later.append_left _).trans ((filter_append_perm_of_disjoint players ?_).trans
        (List.Perm.of_eq (List.filter_congr fun p _ => ?_)))
      · intro p _ owned
        simp only [beq_iff_eq] at owned
        simp [owned]
      · by_cases same : f.id = p.friendId
        · have fresh : f.id ∉ seen := by simpa using passed
          rw [← same]
          simp [fresh]
        · simp [Ne.symm same, beq_false_of_ne same, beq_false_of_ne (Ne.symm same)]

/-- A player's line resolves its name and score from the last pair of the player's id, and is
empty and zero without one. -/
theorem ofPlayer_eq (nameScores : List (Int × NameScore)) (p : Player) :
    PlayerScore.ofPlayer nameScores p =
      ⟨p.id, ((lookupLast p.id nameScores).map (·.name)).getD "",
        ((lookupLast p.id nameScores).map (·.score)).getD 0, p.displayOrder, p.sourceId⟩ := by
  unfold PlayerScore.ofPlayer
  cases lookupLast p.id nameScores <;> rfl

/-- Before sorting, a board has one line for each friend with the players handed to it. -/
theorem buildScoreCategory_friendScores (category : Category) (friends : List Friend)
    (players : List Player) (nameScores : List (Int × NameScore)) :
    (buildScoreCategory category friends players nameScores).friendScores =
      ((playersOfFriends friends players).map fun entry =>
        FriendScore.ofPlayers category nameScores entry.1 entry.2).mergeSort
        fun a b => decide (a.displayOrder ≤ b.displayOrder) := by
  rfl

/-- The board of a category: one line per friend, each player under its first friend. -/
theorem buildScoreCategory_groups (category : Category) (friends : List Friend)
    (players : List Player) (nameScores : List (Int × NameScore)) :
    let board := buildScoreCategory category friends players nameScores
    let resolve (p : Player) : PlayerScore :=
      ⟨p.id, ((lookupLast p.id nameScores).map (·.name)).getD "",
        ((lookupLast p.id nameScores).map (·.score)).getD 0, p.displayOrder, p.sourceId⟩
    (∃ lines : List FriendScore, lines.length = friends.length ∧
      StablySorted (·.displayOrder) board.friendScores lines ∧
      ∀ i (inFriends : i < friends.length) (inLines : i < lines.length),
        let f := friends[i]
        let owned := if (friends.take i).any (·.id == f.id) then []
          else players.filter (·.friendId == f.id)
        lines[i].friendId = f.id ∧ lines[i].name = f.name ∧
          lines[i].displayOrder = f.displayOrder ∧ lines[i].scoreType = category.scoreType ∧
          lines[i].score = friendTotal (lines[i].playerScores.map (·.score)) category.topTwoOnly ∧
          StablySorted (·.displayOrder) lines[i].playerScores (owned.map resolve)) ∧
    (board.friendScores.flatMap (·.playerScores)).Perm
      ((players.filter fun p => friends.any (·.id == p.friendId)).map resolve) := by
  intro board resolve
  have resolved : PlayerScore.ofPlayer nameScores = resolve := funext (ofPlayer_eq nameScores)
  let handed := playersOfFriends friends players
  let lines := handed.map fun entry => FriendScore.ofPlayers category nameScores entry.1 entry.2
  have sorted := buildScoreCategory_friendScores category friends players nameScores
  have handedLength : handed.length = friends.length := length_playersOfFriends_go players [] friends
  refine ⟨⟨lines, by simp [lines, handedLength], sorted ▸ stablySorted_mergeSort _ lines, ?_⟩, ?_⟩
  · intro i inFriends inLines
    have entry := getElem_playersOfFriends_go players [] friends i
      (by rw [length_playersOfFriends_go]; exact inFriends) inFriends
    simp only [List.contains_nil, Bool.false_or] at entry
    have line : lines[i] = FriendScore.ofPlayers category nameScores friends[i]
        (if (friends.take i).any (·.id == friends[i].id) then []
          else players.filter (·.friendId == friends[i].id)) := by
      simp only [lines, List.getElem_map, handed, playersOfFriends, entry]
    rw [line, ← resolved]
    exact ⟨rfl, rfl, rfl, rfl, rfl, stablySorted_mergeSort _ _⟩
  · -- the lines share out the handed players, each sorted within its line
    have perLine : (lines.flatMap (·.playerScores)).Perm
        ((handed.flatMap (·.2)).map (PlayerScore.ofPlayer nameScores)) := by
      rw [List.flatMap_map, List.map_flatMap]
      exact List.Perm.flatMap_left _ fun entry _ => List.mergeSort_perm _ _
    have handedOut := flatMap_playersOfFriends_go_perm players [] friends
    simp only [List.contains_nil, Bool.not_false, Bool.true_and] at handedOut
    rw [sorted, ← resolved]
    exact ((List.mergeSort_perm lines _).flatMap_right _).trans (perLine.trans (handedOut.map _))

end DraftPool
