import DiskServer.Proof.Drive.Repositories

namespace DiskServer.Drive

open Library Transaction Jobs

variable {extra : Nat → Nat → Prop} {before after : Db}

theorem enqueue_posts {job : NewStorageJob} :
    Ensures (enqueue job) fun before _ after => Posts extra 0 before after := by
  intro before queued after ran
  have rest := get_bind_ok ran
  split at rest
  · obtain ⟨-, rfl⟩ := pure_ok rest
    exact Posts.refl _
  · obtain ⟨-, rfl⟩ := set_pure_ok rest
    exact Posts.ofOthers _ _ _ _

theorem enqueueOrRearmSucceeded_posts {job : NewStorageJob} {failure : ErrorInfo} :
    Ensures (enqueueOrRearmSucceeded job failure) fun before _ after => Posts extra 0 before after := by
  intro before queued after ran
  have rest := get_bind_ok ran
  split at rest
  · exact enqueue_posts _ _ _ rest
  · split at rest
    · obtain ⟨-, rfl⟩ := set_pure_ok rest
      exact Posts.ofOthers _ _ _ _
    · split at rest
      · obtain ⟨-, rfl⟩ := pure_ok rest
        exact Posts.refl _
      · exact (throw_ok rest).elim

/-- Jobs are written without touching users or the trash. -/
def SameOwners (before after : Db) : Prop := after.users = before.users ∧ after.trash = before.trash

theorem SameOwners.refl (db : Db) : SameOwners db db := ⟨rfl, rfl⟩

theorem SameOwners.trans {first second third : Db} (one : SameOwners first second)
    (two : SameOwners second third) : SameOwners first third :=
  ⟨two.1.trans one.1, two.2.trans one.2⟩

theorem enqueueOrRearmSucceeded_owners {job : NewStorageJob} {failure : ErrorInfo} :
    Ensures (enqueueOrRearmSucceeded job failure) fun before _ after => SameOwners before after := by
  intro before queued after ran
  have rest := get_bind_ok ran
  split at rest
  · have rest₁ := get_bind_ok rest
    split at rest₁
    · obtain ⟨-, rfl⟩ := pure_ok rest₁
      exact SameOwners.refl _
    · obtain ⟨-, rfl⟩ := set_pure_ok rest₁
      exact ⟨rfl, rfl⟩
  · split at rest
    · obtain ⟨-, rfl⟩ := set_pure_ok rest
      exact ⟨rfl, rfl⟩
    · split at rest
      · obtain ⟨-, rfl⟩ := pure_ok rest
        exact SameOwners.refl _
      · exact (throw_ok rest).elim

theorem checkReferenceGate_ok {contentId : Nat} {value : Unit}
    (ran : (checkReferenceGate contentId).run before = .ok (value, after)) : after = before := by
  have rest := get_bind_ok ran
  split at rest
  · exact (throw_ok rest).elim
  · exact (throw_ok rest).elim
  · exact (pure_ok rest).2

/-- Rewriting the counts of distinct stored contents posts each difference. -/
theorem updateCounts_posts (contentIds : List Nat) (amount : Nat → Int)
    {select : FileContent → Bool} {change : FileContent → FileContent} {keyed : ∀ row, (change row).id = row.id}
    (chosen : ∀ row, select row = contentIds.contains row.id)
    (sized : ∀ row, (change row).size = row.size)
    (counted : ∀ row ∈ before.contents.rows, row.id ∈ contentIds →
      (change row).refCount = row.refCount + amount row.id)
    (there : (before.contents.rows.filter fun row => contentIds.contains row.id).length =
      contentIds.length) :
    Posts extra (contentIds.map fun contentId => post (.refs contentId) (amount contentId)).sum before
      { before with contents := before.contents.update select change keyed } := by
  obtain rfl : select = fun row => contentIds.contains row.id := funext chosen
  apply Posts.ofContents
  · refine (sum_map_update FileContent.asset _ change before.contents.rows).trans ?_
    congr 1
    have weighed : ((before.contents.rows.filter fun row => contentIds.contains row.id).map
        fun row => (change row).asset - row.asset) =
        ((before.contents.rows.filter fun row => contentIds.contains row.id).map FileContent.id).map
          fun contentId => post (.refs contentId) (amount contentId) := by
      rw [List.map_map]
      apply List.map_congr_left
      intro row chosen
      obtain ⟨present, wanted⟩ := List.mem_filter.mp chosen
      rw [FileContent.asset, FileContent.asset, keyed, ← post_sub,
        counted row present (by simpa using wanted), add_sub_cancel_left]
      rfl
    rw [weighed]
    exact ((before.contents.filter_keys_perm there).map _).sum_eq
  · exact Nat.le_refl _
  · intro row present _
    obtain ⟨old, stored, rfl⟩ := List.mem_map.mp present
    refine ⟨old, stored, ?_, ?_⟩
    · split <;> simp [keyed]
    · split <;> simp [sized]

/-- One stored content is selected exactly once by its own id. -/
theorem filter_one_length {contentId : Nat} {content : FileContent}
    (found : before.contents.find? contentId = some content) :
    (before.contents.rows.filter fun row => [contentId].contains row.id).length = [contentId].length := by
  apply before.contents.filter_keys_length (List.nodup_singleton contentId)
  intro wanted present
  obtain rfl := List.mem_singleton.mp present
  exact ⟨content, Table.find?_some found⟩

theorem incrementRefCount_posts {contentId increment : Nat} :
    Ensures (incrementRefCount contentId increment) fun before _ after =>
      Posts extra (post (.refs contentId) increment) before after := by
  intro before value after ran
  unfold incrementRefCount at ran
  split at ran
  · rename_i zero
    obtain ⟨-, rfl⟩ := pure_ok ran
    exact (Posts.refl _).cast (by simp [zero])
  · have rest := get_bind_ok ran
    cases found : before.contents.find? contentId with
    | none =>
        simp only [found, Option.isNone_none, if_true] at rest
        exact (throw_ok rest).elim
    | some content =>
        simp only [found, Option.isNone_some, Bool.false_eq_true, if_false] at rest
        obtain ⟨_, last, gate, written⟩ := bind_ok rest
        obtain rfl := checkReferenceGate_ok gate
        obtain rfl := modify_ok written
        refine (updateCounts_posts [contentId] (fun _ => increment) ?_ ?_ ?_
          (filter_one_length found)).cast ?_
        · exact fun _ => rfl
        · exact fun _ => rfl
        · exact fun _ _ _ => rfl
        · simp

theorem checkExpected_ok {expected : Option Nat} {existing : Option FileContent} {value : Unit}
    (ran : (checkExpected expected existing).run before = .ok (value, after)) : after = before := by
  unfold checkExpected at ran
  split at ran
  · exact (pure_ok ran).2
  · split at ran
    · exact (pure_ok ran).2
    · exact (throw_ok ran).elim

/-- An acquired content has the size that the caller asked for. -/
theorem acquireReference_posts {content : NewContent} {expected : Option Nat} :
    Ensures (acquireReference content expected) fun before contentId after =>
      Posts extra (post (.refs contentId) 1) before after ∧ contentId < after.contents.next ∧
        ∀ row ∈ after.contents.rows, row.id = contentId → row.size = content.size := by
  intro before contentId after ran
  have rest := get_bind_ok ran
  obtain ⟨_, last, expectedRan, acquired⟩ := bind_ok rest
  obtain rfl := checkExpected_ok expectedRan
  cases existing : findByHashes last content with
  | some row =>
      have stored : row ∈ last.contents.rows := List.mem_of_find?_eq_some existing
      have found : last.contents.find? row.id = some row := Table.find?_eq_some_iff.mpr ⟨stored, rfl⟩
      simp only [existing] at acquired
      split at acquired
      · exact (throw_ok acquired).elim
      · rename_i sameSize
        obtain ⟨_, gated, gate, counted⟩ := bind_ok acquired
        obtain rfl := checkReferenceGate_ok gate
        obtain ⟨rfl, rfl⟩ := modify_pure_ok counted
        refine ⟨?_, (gated.contents.bounded row stored).2, ?_⟩
        · refine (updateCounts_posts [row.id] (fun _ => 1) ?_ ?_ ?_ (filter_one_length found)).cast ?_
          · simp
          · exact fun _ => rfl
          · exact fun _ _ _ => rfl
          · simp
        · intro other present same
          obtain ⟨old, there, rfl⟩ := List.mem_map.mp present
          have sized : old.size = row.size := by
            have keyed : old.id = row.id := by
              split at same <;> exact same
            rw [gated.contents.eq_of_key there stored keyed]
          split <;> exact sized.trans (not_not.mp sameSize)
  | none =>
      simp only [existing] at acquired
      obtain ⟨_, wrote, written, checked⟩ := bind_ok acquired
      obtain rfl := modify_ok written
      obtain ⟨_, gated, gate, returned⟩ := bind_ok checked
      obtain rfl := checkReferenceGate_ok gate
      obtain ⟨rfl, rfl⟩ := pure_ok returned
      refine ⟨Posts.ofContents ?_ (Nat.le_succ _) ?_, Nat.lt_succ_self _, ?_⟩
      · refine (congrArg List.sum List.map_append).trans ?_
        simp [FileContent.asset, NewContent.row]
      · intro row present early
        rcases List.mem_append.mp present with old | new
        · exact ⟨row, old, rfl, rfl⟩
        · obtain rfl := List.mem_singleton.mp new
          exact absurd early (Nat.lt_irrefl _)
      · intro row present same
        rcases List.mem_append.mp present with old | new
        · have bounded := (last.contents.bounded row old).2
          omega
        · obtain rfl := List.mem_singleton.mp new
          rfl

section Occurrences

variable {contentIds : List Nat}

theorem amountOf_countOccurrences (contentId : Nat) :
    amountOf (countOccurrences contentIds) contentId = contentIds.count contentId := by
  unfold amountOf countOccurrences
  rw [List.find?_map]
  cases found : contentIds.dedup.find? ((fun entry : Nat × Nat => decide (entry.1 = contentId)) ∘
      fun other => (other, contentIds.count other)) with
  | none =>
      have absent : contentId ∉ contentIds := by
        intro present
        have skipped := List.find?_eq_none.mp found contentId (List.mem_dedup.mpr present)
        simp at skipped
      simp [List.count_eq_zero_of_not_mem absent]
  | some other =>
      have same := List.find?_some found
      simp only [Function.comp_apply, decide_eq_true_eq] at same
      simp [same]

theorem countOccurrences_positive :
    (countOccurrences contentIds).filter (fun entry => entry.2 ≠ 0) = countOccurrences contentIds := by
  rw [List.filter_eq_self]
  intro entry present
  obtain ⟨contentId, there, rfl⟩ := List.mem_map.mp present
  have counted := List.count_pos_iff.mpr (List.mem_dedup.mp there)
  simp only [decide_eq_true_eq]
  omega

theorem countOccurrences_keys : (countOccurrences contentIds).map Prod.fst = contentIds.dedup := by
  simp [countOccurrences, Function.comp_def]

/-- Counting each distinct content by its occurrences posts one reference for each occurrence. -/
theorem sum_post_occurrences :
    (contentIds.dedup.map fun contentId => post (.refs contentId) (contentIds.count contentId)).sum =
      (contentIds.map fun contentId => post (.refs contentId) 1).sum := by
  rw [← sum_map_dedup (fun contentId => post (.refs contentId) 1)]
  congr 1
  apply List.map_congr_left
  intro contentId _
  funext account
  simp [post_apply]

end Occurrences

/-- The gates of a batch only read. -/
theorem forM_checkReferenceGate_ok {contentIds : List Nat} {value : PUnit}
    (ran : (contentIds.forM checkReferenceGate).run before = .ok (value, after)) : after = before := by
  refine Ensures.forM (fun first last => last = first) ?_ ?_ ?_ _ _ _ ran
  · exact fun _ => rfl
  · exact fun _ _ _ one two => two.trans one
  · exact fun _ _ _ _ _ gate => checkReferenceGate_ok gate

theorem incrementRefCountsChecked_posts {increments : List (Nat × Nat)} {existing : List Nat} :
    Ensures (incrementRefCountsChecked increments existing) fun before valid after =>
      Posts extra (valid.map fun contentId =>
        post (.refs contentId) (amountOf increments contentId)).sum before after ∧
      valid.Perm ((increments.filter fun entry =>
        entry.2 ≠ 0 && existing.contains entry.1).map Prod.fst) := by
  intro before valid after ran
  unfold incrementRefCountsChecked at ran
  simp only at ran
  split at ran
  · rename_i nothing
    obtain ⟨rfl, rfl⟩ := pure_ok ran
    refine ⟨(Posts.refl _).cast (by simp), ?_⟩
    rw [← nothing]
    exact List.perm_insertionSort _ _
  · have rest := get_bind_ok ran
    split at rest
    · exact (throw_ok rest).elim
    · rename_i there
      obtain ⟨_, gated, gates, counted⟩ := bind_ok rest
      obtain rfl := forM_checkReferenceGate_ok gates
      obtain ⟨rfl, rfl⟩ := modify_pure_ok counted
      refine ⟨updateCounts_posts _ _ ?_ ?_ ?_ (not_not.mp there), List.perm_insertionSort _ _⟩
      · exact fun _ => rfl
      · exact fun _ => rfl
      · exact fun _ _ _ => rfl

/-- References that are really counted are taken away without the clamp. -/
theorem decrementRefCountsAndEnqueueGc_posts {contentIds : List Nat} {value : Unit}
    (covered : ∀ contentId ∈ contentIds, ∃ row ∈ before.contents.rows, row.id = contentId ∧
      (contentIds.count contentId : Int) ≤ row.refCount)
    (ran : (decrementRefCountsAndEnqueueGc (countOccurrences contentIds)).run before =
      .ok (value, after)) :
    Posts extra (-(contentIds.map fun contentId => post (.refs contentId) 1).sum) before after := by
  unfold decrementRefCountsAndEnqueueGc at ran
  simp only [countOccurrences_positive, countOccurrences_keys] at ran
  obtain ⟨_, wrote, written, rest⟩ := bind_ok ran
  have queued := get_bind_ok rest
  have jobs : Posts extra 0 wrote after := by
    refine Posts.forM_zero ?_ _ _ _ queued
    intro row _ first _ last round
    obtain ⟨_, enqueued, -⟩ := bind_pure_ok round
    exact enqueueOrRearmSucceeded_posts _ _ _ enqueued
  obtain rfl := modify_ok written
  refine ((updateCounts_posts contentIds.dedup (fun contentId => -(contentIds.count contentId : Int))
    ?_ ?_ ?_ ?_).trans jobs).cast ?_
  · exact fun _ => rfl
  · exact fun _ => rfl
  · intro row present wanted
    obtain ⟨stored, there, keyed, enough⟩ := covered row.id (List.mem_dedup.mp wanted)
    obtain rfl := before.contents.eq_of_key there present keyed
    simp only [amountOf_countOccurrences]
    omega
  · apply before.contents.filter_keys_length contentIds.nodup_dedup
    intro contentId wanted
    obtain ⟨row, there, keyed, -⟩ := covered contentId (List.mem_dedup.mp wanted)
    exact ⟨row, there, keyed⟩
  · rw [add_zero, ← sum_post_occurrences, List.sum_neg, List.map_map]
    simp only [post_neg, Function.comp_def]

theorem decrementRefCountsAndEnqueueGc_owners {decrements : List (Nat × Nat)} :
    Ensures (decrementRefCountsAndEnqueueGc decrements) fun before _ after =>
      SameOwners before after := by
  intro before value after ran
  obtain ⟨_, wrote, written, rest⟩ := bind_ok ran
  have queued := get_bind_ok rest
  have jobs : SameOwners wrote after := by
    refine Ensures.forM SameOwners SameOwners.refl (fun _ _ _ => SameOwners.trans) ?_ _ _ _ queued
    intro row _ first _ last round
    obtain ⟨_, enqueued, -⟩ := bind_pure_ok round
    exact enqueueOrRearmSucceeded_owners _ _ _ enqueued
  obtain rfl := modify_ok written
  exact SameOwners.trans ⟨rfl, rfl⟩ jobs

end DiskServer.Drive
