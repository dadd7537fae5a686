import DiskServer.Construction.Drive.TrashCallbacks
import DiskServer.Construction.Shares.TrashService

/-
This file gives the requests that change the namespace, each with the transactions that it runs.
-/

namespace DiskServer.Shares

open Library Library.Callback Drive

abbrev SharedCallback (Value : Type) := Callback SharedDb ErrorInfo Value

namespace Callbacks

/-- The rows of the subtrees are locked as soon as they are found, and they are read again until no
other row turns up. Inside one transaction the second read finds the rows of the first one. -/
def lockPlans (hashOrder folderIds : List Nat) (userId : Nat) :
    SharedCallback (List (Nat × FolderDeletePlan)) := do
  let read := statement (onDrive (fetchBatchFolderDeletePlans hashOrder folderIds userId))
  let plans ← read
  let discovered := (filterCoveredFolderIds folderIds plans).flatMap fun folderId =>
    ((findPlan plans folderId).map fun plan => plan.folders.map Folder.id).getD []
  if discovered = [] then
    pure plans
  else
    query fun _ => ()
    read

def insertTrashRecords (userId : Nat) (items : List TrashInsertItem) : SharedCallback Bool :=
  swallowing false do
    statement (onDrive (items.forM (insertTrashRecord userId)))
    pure true

def deleteShareLinks (itemType : ShareItemType) (found : List Nat × Nat) (chunk : List Nat) :
    SharedCallback (List Nat × Nat) := do
  let select := fun link : ShareFile => link.itemType = itemType && chunk.contains link.itemId
  let linked ← query fun state => ((state.shareFiles.rows.filter select).map ShareFile.shareId).dedup
  let affectedRows ← statement do
    let state ← get
    set { state with shareFiles := state.shareFiles.remove select }
    pure (state.shareFiles.rows.filter select).length
  pure (found.1 ++ linked, found.2 + affectedRows)

def cleanupShareLinksForMovedItems (fileIds folderIds : List Nat) : SharedCallback ShareCleanupStats := do
  let fileLinks ← (chunkItems defaultBatchChunkSize fileIds).foldlM (deleteShareLinks .file) ([], 0)
  let folderLinks ← (chunkItems defaultBatchChunkSize folderIds).foldlM (deleteShareLinks .folder)
    (fileLinks.1, 0)
  let affectedShareIds := normalizeIds folderLinks.1
  let cancelledEmptyShares ← (chunkItems defaultBatchChunkSize affectedShareIds).foldlM
    (fun cancelledCount chunk => statement (cancelEmptyShares cancelledCount chunk)) 0
  pure ⟨fileLinks.2, folderLinks.2, cancelledEmptyShares⟩

def deleteByIds (ids : List Nat) (delete : List Nat → Tx Nat) : SharedCallback Nat :=
  if ids = [] then pure 0 else swallowing 0 (statement (onDrive (delete ids)))

def moveToTrash (hashOrder fileIds folderIds : List Nat) (userId : Nat) :
    SharedCallback MoveToTrashResult := do
  let requestedFileIds := normalizeIds fileIds
  let requestedFolderIds := normalizeIds folderIds
  let plans ← lockPlans hashOrder requestedFolderIds userId
  let selection ← query fun state =>
    selectForTrash state.drive userId requestedFileIds requestedFolderIds plans
  if selection.items.isEmpty then
    refuse ⟨.fileNotFound, "No deletable files or folders found for the given IDs"⟩
  else
    let inserted ← insertTrashRecords userId selection.items
    if !inserted then
      refuse deleteFailed
    else
      (normalizeIds selection.parentIds).forM fun parentId => do
        let updated ← statement (onDrive
          (applyItemCountDelta parentId userId (-(selection.parentIds.count parentId : Int))))
        if updated then pure () else refuse deleteFailed
      let _ ← cleanupShareLinksForMovedItems selection.fileIds selection.folderIds
      let deletedFileRows ← deleteByIds selection.fileIds deleteFilesByIds
      if deletedFileRows ≠ selection.fileIds.length then
        refuse deleteFailed
      else
        let deletedFolderRows ← deleteByIds selection.folderIds deleteFoldersByIds
        if deletedFolderRows ≠ selection.folderIds.length then
          refuse deleteFailed
        else
          pure ⟨selection.explicitFiles.length, selection.plans.length, selection.fileIds,
            selection.folderIds⟩

end Callbacks

section Requests

open Drive.Callbacks (restoreAttempts maxCandidateIndex restoreFilenameOccupied restoreFolderNameOccupied)

/-- An error other than the missing items is reported as a failed delete. -/
def runMoveToTrash (weather : Weather) (hashOrder fileIds folderIds : List Nat) (userId : Nat)
    (before : SharedDb) : Ended SharedDb ErrorInfo MoveToTrashResult :=
  let ended := run weather databaseError (Callbacks.moveToTrash hashOrder fileIds folderIds userId) before
  match ended.result with
  | .ok _ => ended
  | .error error => if error.code = .fileNotFound then ended else { ended with result := .error deleteFailed }

def runMove (weather : Weather) (hashOrder : List Nat) (target : Except ErrorInfo FolderLocation)
    (request : MoveRequest) (before : Db) : Ended Db ErrorInfo MoveResponse :=
  match target with
  | .error error => ⟨.error error, before, false⟩
  | .ok location => run weather moveFailed (Drive.Callbacks.move hashOrder location request) before

def runRenameFile (weather : Weather) (fileId userId : Nat) (newName : String) (before : Db) :
    Ended Db ErrorInfo Nat :=
  run weather ⟨.internalError, "Failed to rename file"⟩
    (Drive.Callbacks.renameFile fileId userId newName) before

def runRenameFolder (weather : Weather) (folderId userId : Nat) (newName : String) (before : Db) :
    Ended Db ErrorInfo String :=
  run weather renameFolderFailed (Drive.Callbacks.renameFolder folderId userId newName) before

def runCreateFolder (weather : Weather) (userId parentId : Nat) (name : String) (before : Db) :
    Ended Db ErrorInfo Nat :=
  run weather ⟨.internalError, "Failed to create folder, please try again later"⟩
    (Drive.Callbacks.createFolder userId parentId name) before

def runRestoreFile (weather : Nat → Weather) (trashId userId : Nat) (before : Db) :
    Ended Db ErrorInfo Nat :=
  restoreAttempts restoreFilenameOccupied restoreFileFailed
    (fun candidateIndex db => run (weather candidateIndex) restoreFileFailed
      (Drive.Callbacks.restoreFile trashId userId candidateIndex) db) (maxCandidateIndex + 1) 0 before

def runRestoreFolder (weather : Nat → Weather) (trashId userId : Nat) (before : Db) :
    Ended Db ErrorInfo Nat :=
  restoreAttempts restoreFolderNameOccupied restoreFolderFailed
    (fun candidateIndex db => run (weather candidateIndex) restoreFolderFailed
      (Drive.Callbacks.restoreFolder trashId userId candidateIndex) db) (maxCandidateIndex + 1) 0 before

end Requests

end DiskServer.Shares
