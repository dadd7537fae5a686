import DiskServer.Proof.Drive.Repositories

namespace DiskServer.Drive

open Library Transaction Jobs

variable {extra : Nat → Nat → Prop}

theorem updateJob_posts {dedupeKey : String} {change : StorageJob → Option StorageJob}
    {keeps : ∀ job next, change job = some next → next.dedupeKey = job.dedupeKey} :
    Ensures (updateJob dedupeKey change keeps) fun before _ after => Posts extra 0 before after := by
  intro before updated after ran
  have rest := get_bind_ok ran
  split at rest
  · obtain ⟨-, rfl⟩ := pure_ok rest
    exact Posts.refl _
  · split at rest
    · obtain ⟨-, rfl⟩ := set_pure_ok rest
      exact Posts.ofOthers _ _ _ _
    · obtain ⟨-, rfl⟩ := pure_ok rest
      exact Posts.refl _

theorem runJobStatement_posts {statement : JobStatement} {dedupeKey : String} :
    Ensures (runJobStatement statement dedupeKey) fun before _ after => Posts extra 0 before after := by
  intro before updated after ran
  have rest := get_bind_ok ran
  exact updateJob_posts _ _ _ rest

theorem completeBlobGc_posts {dedupeKey instanceId : String} :
    Ensures (completeBlobGc dedupeKey instanceId) fun before _ after => Posts extra 0 before after := by
  intro before value after ran
  obtain ⟨persisted, wrote, updating, checked⟩ := bind_ok ran
  split at checked
  · obtain ⟨-, rfl⟩ := pure_ok checked
    exact updateJob_posts _ _ _ updating
  · exact (throw_ok checked).elim

/-- The collection removes a row without references, so nothing is posted. -/
theorem executeBlobGc_posts {contentId : Nat} {storagePath dedupeKey instanceId : String}
    {blobDeleted : Bool} :
    Ensures (executeBlobGc contentId storagePath dedupeKey instanceId blobDeleted)
      fun before _ after => Posts extra 0 before after := by
  intro before value after ran
  have rest := get_bind_ok ran
  split at rest
  · exact completeBlobGc_posts _ _ _ rest
  · split at rest
    · exact (throw_ok rest).elim
    · split at rest
      · exact completeBlobGc_posts _ _ _ rest
      · split at rest
        · exact (throw_ok rest).elim
        · split at rest
          · exact (throw_ok rest).elim
          · obtain ⟨_, removed, written, completing⟩ := bind_ok rest
            obtain rfl := set_ok written
            refine (Posts.trans (Posts.ofContents ?_ ?_ ?_)
              (completeBlobGc_posts _ _ _ completing)).cast (add_zero 0)
            · refine (sum_map_filter_not FileContent.asset _ before.contents.rows).trans ?_
              rw [sub_eq_add_neg]
              congr 1
              rw [neg_eq_zero]
              apply List.sum_eq_zero
              intro amount present
              obtain ⟨row, chosen, rfl⟩ := List.mem_map.mp present
              have zero := (List.mem_filter.mp chosen).2
              simp only [Bool.and_eq_true, decide_eq_true_eq] at zero
              rw [FileContent.asset, zero.1.2, post_zero]
            · exact Nat.le_refl _
            · intro row present _
              exact ⟨row, List.mem_of_mem_filter present, rfl, rfl⟩

theorem raiseParent_posts {userId parentId : Nat} :
    Ensures (raiseParent userId parentId) fun before _ after => Posts extra 0 before after := by
  intro before location after ran
  unfold raiseParent at ran
  split at ran
  · obtain ⟨updated, counted, counting, rest₁⟩ := bind_ok ran
    have count := @applyItemCountDelta_posts extra _ _ _ _ _ _ counting
    split at rest₁
    · obtain ⟨found, last, finding, returned⟩ := bind_ok rest₁
      obtain ⟨-, rfl⟩ := findOwnedFolder_ok finding
      cases found with
      | none => exact (throw_ok returned).elim
      | some parent =>
          obtain ⟨-, rfl⟩ := pure_ok returned
          exact count
    · exact (throw_ok rest₁).elim
  · obtain ⟨-, rfl⟩ := pure_ok ran
    exact Posts.refl _

theorem createFolder_posts {userId parentId : Nat} {name : String} (named : name ≠ "") :
    Ensures (createFolder userId parentId name) fun before _ after => Posts extra 0 before after := by
  intro before folderId after ran
  obtain ⟨location, located, locating, rest⟩ := bind_ok ran
  have locate := @raiseParent_posts extra _ _ _ _ _ locating
  have rest₁ := get_bind_ok rest
  split at rest₁
  · exact (throw_ok rest₁).elim
  · exact (locate.trans (insertFolder_posts named _ _ _ rest₁)).cast (add_zero 0)

theorem registerUser_posts {storageQuota : Nat} :
    Ensures (registerUser storageQuota) fun before _ after => Posts extra 0 before after := by
  intro before value after ran
  obtain rfl := modify_ok ran
  apply Posts.ofUsers
  · refine (congrArg List.sum List.map_append).trans ?_
    simp [User.asset]
  · intro user present
    exact ⟨user, List.mem_append_left _ present, rfl⟩

theorem tick_posts {elapsed : Nat} :
    Ensures (tick elapsed) fun before _ after => Posts extra 0 before after := by
  intro before value after ran
  obtain rfl := modify_ok ran
  exact Posts.ofOthers _ _ _ _

end DiskServer.Drive
