import DiskServer.Construction.Shares.TrashCallbacks
import DiskServer.Proof.Drive.TrashCallbacks
import DiskServer.Proof.Shares.TrashService

namespace DiskServer.Shares

open Library Transaction Library.Callback Drive

section OnDrive

variable {Value Result Item : Type}

theorem onDrive_run (program : Tx Value) (before : SharedDb) :
    (onDrive program).run before =
      match program.run before.drive with
      | .error failure => .error failure
      | .ok (value, drive) => .ok (value, { before with drive := drive }) := by
  unfold onDrive
  rw [get_bind_run]
  rcases program.run before.drive with failure | ⟨value, drive⟩ <;> rfl

/-- A program on the drive may be cut at every bind. -/
theorem onDrive_bind (program : Tx Value) (next : Value → Tx Result) :
    onDrive (program >>= next) = onDrive program >>= fun value => onDrive (next value) := by
  apply StateT.ext
  intro before
  rw [StateT.run_bind, onDrive_run, onDrive_run, StateT.run_bind]
  rcases program.run before.drive with failure | ⟨value, drive⟩
  · rfl
  · change _ = (onDrive (next value)).run { before with drive := drive }
    rw [onDrive_run]
    rfl

theorem onDrive_forM (body : Item → Tx PUnit) (items : List Item) :
    onDrive (items.forM body) = items.forM fun item => onDrive (body item) := by
  induction items with
  | nil => rfl
  | cons item rest ih =>
      change onDrive (body item >>= fun _ => rest.forM body) = _
      rw [onDrive_bind, ih]
      rfl

end OnDrive

namespace Callbacks

variable {faults : Nat → Bool} {before : SharedDb}

/-- The subtrees are the same when they are read again. -/
theorem lockPlans_realizes (hashOrder folderIds : List Nat) (userId : Nat) :
    Realizes faults (lockPlans hashOrder folderIds userId)
      (onDrive (fetchBatchFolderDeletePlans hashOrder folderIds userId)) before := by
  have twice : Realizes faults (lockPlans hashOrder folderIds userId)
      (do
        let plans ← onDrive (fetchBatchFolderDeletePlans hashOrder folderIds userId)
        if ((filterCoveredFolderIds folderIds plans).flatMap fun folderId =>
            ((findPlan plans folderId).map fun plan => plan.folders.map Folder.id).getD []) = [] then
          pure plans
        else
          onDrive (fetchBatchFolderDeletePlans hashOrder folderIds userId)) before := by
    apply realizes_bind (realizes_statement _)
    intro plans middle _
    apply realizes_ite
    · intro _
      exact realizes_pure _
    · intro _
      apply realizes_query
      exact realizes_statement _
  apply twice.of_run
  rw [StateT.run_bind, onDrive_run]
  rcases ran : (fetchBatchFolderDeletePlans hashOrder folderIds userId).run before.drive with
    failure | ⟨plans, drive⟩
  · rfl
  · obtain ⟨rfl, -⟩ := fetchBatchFolderDeletePlans_ok ran
    change Except.ok (plans, before) = StateT.run (if _ then pure plans else onDrive _) before
    split
    · rfl
    · rw [onDrive_run, ran]

theorem deleteShareLinks_realizes (itemType : ShareItemType) (found : List Nat × Nat)
    (chunk : List Nat) :
    Realizes faults (deleteShareLinks itemType found chunk)
      (Shares.deleteShareLinks itemType found chunk) before := by
  apply realizes_query
  have single : Realizes faults
      (statement (do
          let state ← get
          let select := fun link : ShareFile => link.itemType = itemType && chunk.contains link.itemId
          set { state with shareFiles := state.shareFiles.remove select }
          (pure (state.shareFiles.rows.filter select).length : SharedTx Nat)) >>= fun affectedRows =>
        pure (found.1 ++ ((before.shareFiles.rows.filter fun link =>
          link.itemType = itemType && chunk.contains link.itemId).map ShareFile.shareId).dedup,
          found.2 + affectedRows))
      ((do
          let state ← get
          let select := fun link : ShareFile => link.itemType = itemType && chunk.contains link.itemId
          set { state with shareFiles := state.shareFiles.remove select }
          (pure (state.shareFiles.rows.filter select).length : SharedTx Nat)) >>= fun affectedRows =>
        pure (found.1 ++ ((before.shareFiles.rows.filter fun link =>
          link.itemType = itemType && chunk.contains link.itemId).map ShareFile.shareId).dedup,
          found.2 + affectedRows)) before := by
    apply realizes_bind (realizes_statement _)
    intro affectedRows middle _
    exact realizes_pure _
  exact single.of_run rfl

theorem cleanupShareLinksForMovedItems_realizes (fileIds folderIds : List Nat) :
    Realizes faults (cleanupShareLinksForMovedItems fileIds folderIds)
      (Shares.cleanupShareLinksForMovedItems fileIds folderIds) before := by
  apply realizes_bind
  · apply realizes_foldlM
    intro chunk _ found state
    exact deleteShareLinks_realizes _ _ _
  · intro fileLinks middle _
    apply realizes_bind
    · apply realizes_foldlM
      intro chunk _ found state
      exact deleteShareLinks_realizes _ _ _
    · intro folderLinks last _
      apply realizes_bind
      · apply realizes_foldlM
        intro chunk _ cancelledCount state
        exact realizes_statement _
      · intro cancelledEmptyShares ended _
        exact realizes_pure _

/-- A failed delete answers zero, and the check that follows refuses zero of a list with items. -/
theorem realizes_deleteByIds {Result : Type} {ids : List Nat} {delete : List Nat → Tx Nat}
    {rest : SharedCallback Result} {program : SharedTx Result}
    (nothing : (onDrive (delete [])).run before = .ok (0, before))
    (deleted : ∀ middle, Realizes faults rest program middle) :
    Realizes faults
      (deleteByIds ids delete >>= fun rows => if rows ≠ ids.length then refuse deleteFailed else rest)
      (onDrive (delete ids) >>= fun rows => if rows ≠ ids.length then throw deleteFailed else program)
      before := by
  unfold deleteByIds
  by_cases empty : ids = []
  · rw [if_pos empty, pure_bind, empty, if_neg (by simp)]
    apply (deleted before).of_run
    rw [StateT.run_bind, nothing]
    rfl
  · rw [if_neg empty]
    apply realizes_swallowing deleteFailed (realizes_statement _)
    · apply if_pos
      intro same
      exact empty (List.length_eq_zero_iff.mp same.symm)
    · intro rows middle _
      apply realizes_ite
      · intro _
        exact realizes_refuse _ _
      · intro _
        exact deleted middle

theorem deleteFilesByIds_nil (before : SharedDb) :
    (onDrive (deleteFilesByIds [])).run before = .ok (0, before) := by
  have same : before.drive.files.remove (fun file => [].contains file.id) = before.drive.files :=
    before.drive.files.remove_nothing fun _ _ => rfl
  have none : (before.drive.files.rows.filter fun file => [].contains file.id) = [] :=
    List.filter_eq_nil_iff.mpr fun _ _ => Bool.false_ne_true
  have deleted : (deleteFilesByIds []).run before.drive = .ok
      ((before.drive.files.rows.filter fun file => [].contains file.id).length,
        { before.drive with files := before.drive.files.remove fun file => [].contains file.id }) := rfl
  rw [onDrive_run, deleted, same, none]
  rfl

theorem deleteFoldersByIds_nil (before : SharedDb) :
    (onDrive (deleteFoldersByIds [])).run before = .ok (0, before) := by
  have same : before.drive.folders.remove (fun folder => [].contains folder.id) = before.drive.folders :=
    before.drive.folders.remove_nothing fun _ _ => rfl
  have none : (before.drive.folders.rows.filter fun folder => [].contains folder.id) = [] :=
    List.filter_eq_nil_iff.mpr fun _ _ => Bool.false_ne_true
  have deleted : (deleteFoldersByIds []).run before.drive = .ok
      ((before.drive.folders.rows.filter fun folder => [].contains folder.id).length,
        { before.drive with folders := before.drive.folders.remove fun folder => [].contains folder.id }) := rfl
  rw [onDrive_run, deleted, same, none]
  rfl

theorem realizes_insertTrashRecords {Result : Type} {userId : Nat} {items : List TrashInsertItem}
    {rest : SharedCallback Result} {program : SharedTx Result}
    (inserted : ∀ middle, Realizes faults rest program middle) :
    Realizes faults
      (insertTrashRecords userId items >>= fun inserted =>
        if !inserted then refuse deleteFailed else rest)
      (onDrive (items.forM (insertTrashRecord userId)) >>= fun _ => program) before := by
  have flagged : Realizes faults
      (insertTrashRecords userId items >>= fun inserted =>
        if !inserted then refuse deleteFailed else rest)
      ((onDrive (items.forM (insertTrashRecord userId)) >>= fun _ => pure true) >>= fun _ => program)
      before := by
    apply realizes_swallowing deleteFailed
    · apply realizes_bind (realizes_statement _)
      intro _ middle _
      exact realizes_pure _
    · rfl
    · intro flag middle ran
      obtain ⟨_, _, rfl⟩ := bind_pure_ok ran
      exact inserted _
  rw [bind_assoc] at flagged
  exact flagged

theorem moveToTrash_realizes (hashOrder fileIds folderIds : List Nat) (userId : Nat) :
    Realizes faults (moveToTrash hashOrder fileIds folderIds userId)
      (Shares.moveToTrash hashOrder fileIds folderIds userId) before := by
  apply realizes_bind (lockPlans_realizes _ _ _)
  intro plans planned _
  apply realizes_query
  apply Realizes.of_get
  apply realizes_ite
  · intro _
    exact realizes_refuse _ _
  · intro _
    apply realizes_insertTrashRecords
    intro trashed
    rw [onDrive_forM]
    apply realizes_bind
    · apply realizes_forM
      intro parentId _ state
      rw [onDrive_bind]
      apply realizes_bind (realizes_statement _)
      intro updated middle _
      cases updated with
      | true => exact realizes_pure _
      | false => exact realizes_refuse _ _
    · intro _ counted _
      apply realizes_bind (cleanupShareLinksForMovedItems_realizes _ _)
      intro stats cleaned _
      apply realizes_deleteByIds (deleteFilesByIds_nil _)
      intro filesDeleted
      apply realizes_deleteByIds (deleteFoldersByIds_nil _)
      intro foldersDeleted
      exact realizes_pure _

end Callbacks

section Requests

open Drive.Callbacks (restoreAttempts_atomic maxCandidateIndex restoreFilenameOccupied
  restoreFolderNameOccupied)

/-- A delete is atomic together with its share links. -/
theorem runMoveToTrash_atomic (weather : Weather) (hashOrder fileIds folderIds : List Nat)
    (userId : Nat) (before : SharedDb) :
    Atomic (Effects (moveToTrash hashOrder fileIds folderIds userId)) before
      (runMoveToTrash weather hashOrder fileIds folderIds userId before) := by
  have atomic : Atomic (Effects (moveToTrash hashOrder fileIds folderIds userId)) before
      (run weather databaseError (Callbacks.moveToTrash hashOrder fileIds folderIds userId) before) :=
    run_atomic (Callbacks.moveToTrash_realizes _ _ _ _)
  unfold runMoveToTrash
  dsimp only
  split
  · exact atomic
  · split
    · exact atomic
    · refine ⟨atomic.whole, ?_⟩
      intro value wrong
      cases wrong

/-- A move is atomic. -/
theorem runMove_atomic (weather : Weather) (hashOrder : List Nat) (location : FolderLocation)
    (request : MoveRequest) (before : Db) :
    Atomic (Effects (move hashOrder location request)) before
      (runMove weather hashOrder (.ok location) request before) :=
  run_atomic (Drive.Callbacks.move_realizes _ _ _)

/-- A restored file comes back under one of its candidate names. -/
theorem runRestoreFile_atomic (weather : Nat → Weather) (trashId userId : Nat) (before : Db) :
    Atomic (fun first fileId last => ∃ candidateIndex ≤ maxCandidateIndex,
        Effects (restoreFile trashId userId candidateIndex) first fileId last) before
      (runRestoreFile weather trashId userId before) := by
  have attempts : Atomic (fun first fileId last => ∃ candidateIndex < 0 + (maxCandidateIndex + 1),
      Effects (restoreFile trashId userId candidateIndex) first fileId last) before
      (runRestoreFile weather trashId userId before) := by
    apply restoreAttempts_atomic
    · intro candidateIndex db
      exact run_atomic (Drive.Callbacks.restoreFile_realizes _ _ _)
    · intro candidateIndex db
      apply run_refused
      decide
  apply attempts.mono
  rintro fileId last ⟨candidateIndex, below, made⟩
  exact ⟨candidateIndex, by omega, made⟩

/-- A restored folder comes back under one of its candidate names. -/
theorem runRestoreFolder_atomic (weather : Nat → Weather) (trashId userId : Nat) (before : Db) :
    Atomic (fun first folderId last => ∃ candidateIndex ≤ maxCandidateIndex,
        Effects (restoreFolder trashId userId candidateIndex) first folderId last) before
      (runRestoreFolder weather trashId userId before) := by
  have attempts : Atomic (fun first folderId last => ∃ candidateIndex < 0 + (maxCandidateIndex + 1),
      Effects (restoreFolder trashId userId candidateIndex) first folderId last) before
      (runRestoreFolder weather trashId userId before) := by
    apply restoreAttempts_atomic
    · intro candidateIndex db
      exact run_atomic (Drive.Callbacks.restoreFolder_realizes _ _ _)
    · intro candidateIndex db
      apply run_refused
      decide
  apply attempts.mono
  rintro folderId last ⟨candidateIndex, below, made⟩
  exact ⟨candidateIndex, by omega, made⟩

/-- A batch that deletes something is atomic. -/
theorem permanentlyDeleteTrashItems_atomic (weather : Weather) {items : List Trash}
    {requireValidFileContent : Bool} (before : Db)
    (something : collectDeletions requireValidFileContent items ≠ .ok []) :
    Atomic (Effects (permanentlyDeleteTrashItems items requireValidFileContent)) before
      (Drive.Callbacks.permanentlyDeleteTrashItems weather items requireValidFileContent before) := by
  unfold Drive.Callbacks.permanentlyDeleteTrashItems
  split
  · rename_i none
    rw [none] at something
    exact absurd rfl something
  · split
    · rename_i error collected
      apply run_atomic
      unfold permanentlyDeleteTrashItems
      rw [collected]
      exact realizes_exception _
    · rename_i collected
      exact absurd collected something
    · rename_i deletions others collected
      apply run_atomic
      apply Drive.Callbacks.deleteBatch_realizes collected
      exact others

/-- A batch that skips every item changes nothing and reports that it has deleted nothing. -/
theorem permanentlyDeleteTrashItems_skipped (weather : Weather) {items : List Trash}
    {requireValidFileContent : Bool} (before : Db)
    (skipped : collectDeletions requireValidFileContent items = .ok []) :
    (Drive.Callbacks.permanentlyDeleteTrashItems weather items requireValidFileContent before).state =
        before ∧
      ∀ value, (Drive.Callbacks.permanentlyDeleteTrashItems weather items requireValidFileContent
        before).result = .ok value → value = ⟨0, 0⟩ := by
  unfold Drive.Callbacks.permanentlyDeleteTrashItems
  rw [skipped]
  dsimp only
  split
  · refine ⟨rfl, ?_⟩
    rintro value ⟨⟩
    rfl
  · refine ⟨rfl, ?_⟩
    intro value reported
    split at reported <;> cases reported
    rfl

/-- Every request ends with all of its effects or with none. A permanent delete that skips every item is
the one success without a commit. -/
structure NamespaceAtomic (shared : SharedDb) (weather : Nat → Weather) : Prop where
  moveToTrash : ∀ hashOrder fileIds folderIds userId,
    Atomic (Effects (moveToTrash hashOrder fileIds folderIds userId)) shared
      (runMoveToTrash (weather 0) hashOrder fileIds folderIds userId shared)
  move : ∀ hashOrder location request,
    Atomic (Effects (move hashOrder location request)) shared.drive
      (runMove (weather 0) hashOrder (.ok location) request shared.drive)
  moveNowhere : ∀ hashOrder error request,
    runMove (weather 0) hashOrder (.error error) request shared.drive =
      ⟨.error error, shared.drive, false⟩
  renameFile : ∀ fileId userId newName,
    Atomic (Effects (renameFile fileId userId newName)) shared.drive
      (runRenameFile (weather 0) fileId userId newName shared.drive)
  renameFolder : ∀ folderId userId newName,
    Atomic (Effects (renameFolder folderId userId newName)) shared.drive
      (runRenameFolder (weather 0) folderId userId newName shared.drive)
  createFolder : ∀ userId parentId name,
    Atomic (Effects (createFolder userId parentId name)) shared.drive
      (runCreateFolder (weather 0) userId parentId name shared.drive)
  restoreFile : ∀ trashId userId,
    Atomic (fun first fileId last => ∃ candidateIndex ≤ maxCandidateIndex,
        Effects (restoreFile trashId userId candidateIndex) first fileId last) shared.drive
      (runRestoreFile weather trashId userId shared.drive)
  restoreFolder : ∀ trashId userId,
    Atomic (fun first folderId last => ∃ candidateIndex ≤ maxCandidateIndex,
        Effects (restoreFolder trashId userId candidateIndex) first folderId last) shared.drive
      (runRestoreFolder weather trashId userId shared.drive)
  permanentDelete : ∀ items requireValidFileContent,
    collectDeletions requireValidFileContent items ≠ .ok [] →
      Atomic (Effects (permanentlyDeleteTrashItems items requireValidFileContent)) shared.drive
        (Drive.Callbacks.permanentlyDeleteTrashItems (weather 0) items requireValidFileContent
          shared.drive)
  skippedDelete : ∀ items requireValidFileContent,
    collectDeletions requireValidFileContent items = .ok [] →
      (Drive.Callbacks.permanentlyDeleteTrashItems (weather 0) items requireValidFileContent
          shared.drive).state = shared.drive ∧
        ∀ value, (Drive.Callbacks.permanentlyDeleteTrashItems (weather 0) items
          requireValidFileContent shared.drive).result = .ok value → value = ⟨0, 0⟩

/-- Every request on the namespace happens as a whole or not at all. -/
theorem namespace_requests_atomic (shared : SharedDb) (weather : Nat → Weather) :
    NamespaceAtomic shared weather where
  moveToTrash hashOrder fileIds folderIds userId :=
    runMoveToTrash_atomic (weather 0) hashOrder fileIds folderIds userId shared
  move hashOrder location request := runMove_atomic (weather 0) hashOrder location request shared.drive
  moveNowhere _ _ _ := rfl
  renameFile _ _ _ := run_atomic (Drive.Callbacks.renameFile_realizes _ _ _)
  renameFolder _ _ _ := run_atomic (Drive.Callbacks.renameFolder_realizes _ _ _)
  createFolder _ _ _ := run_atomic (Drive.Callbacks.createFolder_realizes _ _ _)
  restoreFile trashId userId := runRestoreFile_atomic weather trashId userId shared.drive
  restoreFolder trashId userId := runRestoreFolder_atomic weather trashId userId shared.drive
  permanentDelete _ _ something := permanentlyDeleteTrashItems_atomic (weather 0) shared.drive something
  skippedDelete _ _ skipped := permanentlyDeleteTrashItems_skipped (weather 0) shared.drive skipped

/-- A file of the trash from before the rows had contents. -/
def legacyTrashFile : Trash := ⟨1, 1, .file, 1, "a", 10, none, 0, "/a", .null⟩

def legacyTrashDb : Db :=
  { Db.empty with trash := ⟨⟨[legacyTrashFile], by decide⟩, 2, Nat.two_pos, by decide⟩ }

/-- The cleanup of a lone legacy file ends well, and it commits nothing. -/
theorem legacy_cleanup_uncommitted :
    ¬ ∀ (weather : Weather) (items : List Trash) (requireValidFileContent : Bool) (before : Db)
      (value : PermanentDeleteResult),
      (Drive.Callbacks.permanentlyDeleteTrashItems weather items requireValidFileContent before).result =
          .ok value →
        (Drive.Callbacks.permanentlyDeleteTrashItems weather items requireValidFileContent
          before).committed = true := by
  intro always
  have committed := always ⟨true, fun _ => false, .done⟩ [legacyTrashFile] false legacyTrashDb ⟨0, 0⟩ rfl
  cases committed

end Requests

end DiskServer.Shares
