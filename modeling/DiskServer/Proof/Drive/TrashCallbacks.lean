import DiskServer.Proof.Drive.Callbacks

namespace DiskServer.Drive.Callbacks

open Library Transaction Library.Callback Jobs

variable {faults : Nat → Bool} {before : Db} {Value Result : Type}

section Restore

theorem fetchLifecycleRow_realizes (trashId userId : Nat) (itemType : TrashItemType) :
    Realizes faults (fetchLifecycleRow trashId userId itemType)
      (Drive.fetchLifecycleRow trashId userId itemType) before := by
  unfold fetchLifecycleRow Drive.fetchLifecycleRow
  apply realizes_query
  apply Realizes.of_get
  cases (before.trash.find? trashId).filter fun row => row.userId = userId with
  | none => exact realizes_refuse _ _
  | some row =>
      apply realizes_ite
      · intro _
        exact realizes_pure _
      · intro _
        exact realizes_refuse _ _

theorem restoreTarget_realizes (originalFolderId userId : Nat) :
    Realizes faults (restoreTarget originalFolderId userId)
      (Drive.restoreTarget originalFolderId userId) before := by
  apply realizes_ite
  · intro _
    exact realizes_lock (realizes_pure _)
  · intro _
    apply realizes_findOwnedFolder
    intro folder found
    cases folder with
    | none => exact realizes_lock (realizes_pure _)
    | some folder =>
        have owned := List.find?_some found
        unfold Folder.owned at owned
        simp only [Bool.and_eq_true, beq_iff_eq] at owned
        apply realizes_lock
        apply realizes_query
        rw [found]
        dsimp only
        rw [owned.1]
        exact realizes_pure _

theorem convert_realizes (failure : ErrorInfo) (decoded : Decoded Value) :
    Realizes faults (convert decoded) (liftDecoded failure decoded) before := by
  cases decoded with
  | ok value => exact realizes_pure _
  | error _ => exact realizes_exception _

theorem countRestoredItem_realizes (targetId userId : Nat) (failure : ErrorInfo) :
    Realizes faults (countRestoredItem targetId userId failure)
      (Drive.countRestoredItem targetId userId failure) before := by
  apply realizes_ite
  · intro _
    apply realizes_bind (realizes_statement _)
    intro updated middle _
    apply realizes_ite
    · intro _
      exact realizes_pure _
    · intro _
      exact realizes_refuse _ _
  · intro _
    exact realizes_pure _

/-- Counting the rows of a delete behind it decides like counting them in front of it. -/
theorem deleteTrashRow_realizes (trashId userId : Nat) (itemType : TrashItemType)
    (failure : ErrorInfo) :
    Realizes faults (deleteTrashRow trashId userId itemType failure)
      (Drive.deleteTrashRow trashId userId itemType failure) before := by
  have single : Realizes faults (deleteTrashRow trashId userId itemType failure)
      (do
        let affectedRows ← deleteTrash (selectsTrash trashId userId itemType)
        if affectedRows ≠ 1 then throw failure else pure ()) before := by
    apply realizes_bind (realizes_statement _)
    intro affectedRows middle _
    apply realizes_ite
    · intro _
      exact realizes_refuse _ _
    · intro _
      exact realizes_pure _
  apply single.of_run
  unfold deleteTrash Drive.deleteTrashRow
  rw [bind_assoc, get_bind_run, get_bind_run]
  change (if (before.trash.rows.filter (selectsTrash trashId userId itemType)).length ≠ 1 then
      (throw failure : Tx Unit)
    else
      set { before with trash := before.trash.remove (selectsTrash trashId userId itemType) }).run before =
    (if (before.trash.rows.filter (selectsTrash trashId userId itemType)).length ≠ 1 then
      (throw failure : Tx Unit)
    else
      pure ()).run { before with trash := before.trash.remove (selectsTrash trashId userId itemType) }
  split
  · rfl
  · rfl

theorem fileNameExistsExcluding_zero (db : Db) (userId folderId : Nat) (name : String) :
    fileNameExistsExcluding db userId folderId name 0 = fileNameExists db userId folderId name :=
  db.files.any_and_key_ne_zero _

theorem folderNameExistsExcluding_zero (db : Db) (userId parentId : Nat) (name : String) :
    folderNameExistsExcluding db userId parentId name 0 = folderNameExists db userId parentId name :=
  db.folders.any_and_key_ne_zero _

theorem restoreFile_realizes (trashId userId candidateIndex : Nat) :
    Realizes faults (restoreFile trashId userId candidateIndex)
      (Drive.restoreFile trashId userId candidateIndex) before := by
  apply realizes_bind (fetchLifecycleRow_realizes _ _ _)
  intro item middle _
  cases resolveRequiredContentId item.contentId item.itemData with
  | error error => exact realizes_refuse _ _
  | ok resolved =>
      apply realizes_bind (restoreTarget_realizes _ _)
      rintro ⟨targetFolderId, location⟩ locked _
      apply realizes_query
      apply Realizes.of_get
      rw [fileNameExistsExcluding_zero]
      apply realizes_ite
      · intro _
        exact realizes_refuse _ _
      · intro _
        apply realizes_bind (convert_realizes _ _)
        intro mimeType converted _
        apply realizes_bind (realizes_statement _)
        intro fileId placed _
        apply realizes_bind (countRestoredItem_realizes _ _ _)
        intro _ counted _
        apply realizes_bind (deleteTrashRow_realizes _ _ _ _)
        intro _ deleted _
        exact realizes_pure _

theorem restorePass_realizes (userId rootDepth oldRootDepth : Nat) (remaining : List SnapshotFolder)
    (folders : FolderMap) :
    Realizes faults (restorePass userId rootDepth oldRootDepth remaining folders)
      (Drive.restorePass userId rootDepth oldRootDepth remaining folders) before := by
  induction remaining generalizing folders before with
  | nil => exact realizes_pure _
  | cons folder rest ih =>
      unfold restorePass Drive.restorePass
      cases folders.lookup folder.parentId with
      | none =>
          apply realizes_bind (ih folders)
          intro restored middle _
          exact realizes_pure _
      | some parent =>
          apply realizes_bind (realizes_statement _)
          intro folderId middle _
          exact ih _

theorem restoreFolders_realizes (userId rootDepth oldRootDepth rounds : Nat)
    (remaining : List SnapshotFolder) (folders : FolderMap) :
    Realizes faults (restoreFolders userId rootDepth oldRootDepth rounds remaining folders)
      (Drive.restoreFolders userId rootDepth oldRootDepth rounds remaining folders) before := by
  induction rounds generalizing remaining folders before with
  | zero =>
      cases remaining with
      | nil => exact realizes_pure _
      | cons folder rest => exact realizes_refuse _ _
  | succ rounds ih =>
      cases remaining with
      | nil => exact realizes_pure _
      | cons folder rest =>
          apply realizes_bind (restorePass_realizes _ _ _ _ _)
          rintro ⟨left, restored⟩ middle _
          apply realizes_ite
          · intro _
            exact realizes_refuse _ _
          · intro _
            exact ih left restored

theorem restoreSnapshotFile_realizes (userId : Nat) (folders : FolderMap) (file : SnapshotFile) :
    Realizes faults (restoreSnapshotFile userId folders file)
      (Drive.restoreSnapshotFile userId folders file) before := by
  unfold restoreSnapshotFile Drive.restoreSnapshotFile
  cases folders.lookup file.folderId with
  | none => exact realizes_refuse _ _
  | some parent =>
      apply realizes_bind (realizes_statement _)
      intro fileId middle _
      exact realizes_pure _

theorem restoreTree_realizes (userId rootDepth rootId : Nat) (rootPath : String)
    (snapshot : Option FolderTreeSnapshot) :
    Realizes faults (restoreTree userId rootDepth rootId rootPath snapshot)
      (Drive.restoreTree userId rootDepth rootId rootPath snapshot) before := by
  cases snapshot with
  | none => exact realizes_pure _
  | some snapshot =>
      apply realizes_bind (restoreFolders_realizes _ _ _ _ _ _)
      intro folders middle _
      apply realizes_forM
      intro file _ state
      exact restoreSnapshotFile_realizes _ _ file

theorem restoreFolder_realizes (trashId userId candidateIndex : Nat) :
    Realizes faults (restoreFolder trashId userId candidateIndex)
      (Drive.restoreFolder trashId userId candidateIndex) before := by
  apply realizes_bind (fetchLifecycleRow_realizes _ _ _)
  intro item middle _
  apply realizes_bind (convert_realizes _ _)
  intro snapshot parsed _
  apply realizes_bind (restoreTarget_realizes _ _)
  rintro ⟨targetParentId, location⟩ locked _
  apply realizes_query
  apply Realizes.of_get
  rw [folderNameExistsExcluding_zero]
  apply realizes_ite
  · intro _
    exact realizes_refuse _ _
  · intro _
    apply realizes_bind (realizes_statement _)
    intro rootId placed _
    apply realizes_bind (restoreTree_realizes _ _ _ _ _)
    intro _ restored _
    apply realizes_bind (countRestoredItem_realizes _ _ _)
    intro _ counted _
    apply realizes_bind (deleteTrashRow_realizes _ _ _ _)
    intro _ deleted _
    exact realizes_pure _

/-- An attempt for a taken name leaves nothing behind for the next one. -/
theorem restoreAttempts_atomic {occupied failed : ErrorInfo}
    {attempt : Nat → Db → Ended Db ErrorInfo Nat} {program : Nat → Tx Nat}
    (atomic : ∀ candidateIndex db, Atomic (Effects (program candidateIndex)) db (attempt candidateIndex db))
    (rolledBack : ∀ candidateIndex db, (attempt candidateIndex db).result = .error occupied →
      (attempt candidateIndex db).state = db)
    (rounds candidateIndex : Nat) :
    Atomic (fun first fileId last => ∃ index < candidateIndex + rounds,
        Effects (program index) first fileId last) before
      (restoreAttempts occupied failed attempt rounds candidateIndex before) := by
  induction rounds generalizing candidateIndex with
  | zero => exact .rolledBack failed
  | succ rounds ih =>
      have here : Atomic (fun first fileId last => ∃ index < candidateIndex + (rounds + 1),
          Effects (program index) first fileId last) before (attempt candidateIndex before) := by
        apply (atomic candidateIndex before).mono
        intro fileId last made
        exact ⟨candidateIndex, by omega, made⟩
      unfold restoreAttempts
      dsimp only
      split
      · exact here
      · rename_i error reported
        split
        · rename_i taken
          rw [rolledBack candidateIndex before (taken ▸ reported)]
          apply (ih (candidateIndex + 1)).mono
          rintro fileId last ⟨index, below, made⟩
          exact ⟨index, by omega, made⟩
        · exact here

end Restore

section PermanentDelete

/-- A user that is gone fails the check of the rows instead of the search. -/
theorem adjustUsedStorage_successes (userId freed : Nat) (value : Unit) (after : Db) :
    StateT.run (do
        let updated ← adjustUsedStorage userId (-(freed : Int))
        if updated then pure () else throw adjustFailed) before = .ok (value, after) ↔
      (updateUserChecked userId (fun user => user.storageUsed + -(freed : Int)) adjustFailed adjustFailed
        (fun _ => true) (fun user => { user with storageUsed := max (user.storageUsed + -(freed : Int)) 0 })
        fun _ => rfl).run before = .ok (value, after) := by
  unfold adjustUsedStorage updateUserChecked
  rw [bind_assoc, get_bind_run, get_bind_run]
  cases before.users.find? userId with
  | none => rfl
  | some user =>
      dsimp only
      by_cases large : bigintMax < user.storageUsed + -(freed : Int)
      · rw [if_pos large, if_pos large]
        constructor <;> intro ran <;> cases ran
      · rw [if_neg large, if_neg large, if_pos rfl]
        rfl

theorem adjustUsedStorageChecked_realizes (userId freed : Nat) :
    Realizes faults (adjustUsedStorageChecked userId freed)
      (Drive.adjustUsedStorageChecked userId (-(freed : Int))) before := by
  unfold adjustUsedStorageChecked Drive.adjustUsedStorageChecked
  by_cases none : freed = 0
  · rw [if_pos none, none]
    exact realizes_pure _
  · rw [if_neg none, if_neg (by omega), if_neg (by omega)]
    apply realizes_converting
    have single : Realizes faults
        (do
          let updated ← statement (adjustUsedStorage userId (-(freed : Int)))
          if updated then pure () else refuse adjustFailed)
        (do
          let updated ← adjustUsedStorage userId (-(freed : Int))
          if updated then pure () else throw adjustFailed) before := by
      apply realizes_bind (realizes_statement _)
      intro updated middle _
      apply realizes_ite
      · intro _
        exact realizes_pure _
      · intro _
        exact realizes_refuse _ _
    exact single.of_successes (adjustUsedStorage_successes userId freed)

theorem decrementRefCountsAndEnqueueGc_realizes (decrements : List (Nat × Nat)) :
    Realizes faults (decrementRefCountsAndEnqueueGc decrements)
      (Drive.decrementRefCountsAndEnqueueGc decrements) before := by
  apply realizes_converting
  apply realizes_bind (realizes_statement (lowerRefCounts decrements))
  intro _ lowered _
  apply realizes_query
  apply Realizes.of_get
  apply realizes_forM
  intro row _ state
  apply realizes_bind (realizes_statement _)
  intro _ middle _
  exact realizes_pure _

theorem releaseContents_realizes (contentIds : List Nat) :
    Realizes faults (releaseContents contentIds) (Drive.releaseContents contentIds) before := by
  apply realizes_ite
  · intro _
    exact realizes_pure _
  · intro _
    exact decrementRefCountsAndEnqueueGc_realizes _

theorem deleteBatch_realizes {items : List Trash} {requireValidFileContent : Bool}
    {deletions : List (Trash × List Nat)}
    (collected : collectDeletions requireValidFileContent items = .ok deletions)
    (something : deletions ≠ []) :
    Realizes faults (deleteBatch deletions)
      (Drive.permanentlyDeleteTrashItems items requireValidFileContent) before := by
  unfold deleteBatch Drive.permanentlyDeleteTrashItems
  rw [collected]
  dsimp only
  rw [if_neg (by simpa using something)]
  apply realizes_bind (releaseContents_realizes _)
  intro _ released _
  apply realizes_bind (realizes_statement _)
  intro affectedRows deleted _
  apply realizes_ite
  · intro _
    exact realizes_exception _
  · intro _
    apply realizes_bind
    · apply realizes_forM
      intro userId _ state
      exact adjustUsedStorageChecked_realizes _ _
    · intro _ adjusted _
      exact realizes_pure _

end PermanentDelete

end DiskServer.Drive.Callbacks
