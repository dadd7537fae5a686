import DiskServer.Construction.Drive.FileMutationService
import DiskServer.Construction.Shares.ShareService

/-
This file gives the drive together with its shares and the delete that cleans the share links up.
-/

namespace DiskServer.Shares

open Library Drive

structure SharedDb where
  drive : Db
  shares : Serial Share Share.id
  shareFiles : Serial ShareFile ShareFile.id

abbrev SharedTx (Value : Type) := Transaction SharedDb ErrorInfo Value

def onDrive {Value : Type} (program : Tx Value) : SharedTx Value := do
  let state ← get
  match program.run state.drive with
  | .error failure => throw failure
  | .ok (value, drive) =>
      set { state with drive := drive }
      pure value

structure ShareCleanupStats where
  deletedFileShareLinks : Nat := 0
  deletedFolderShareLinks : Nat := 0
  cancelledEmptyShares : Nat := 0
  deriving Repr, DecidableEq

def deleteShareLinks (itemType : ShareItemType) (found : List Nat × Nat) (chunk : List Nat) :
    SharedTx (List Nat × Nat) := do
  let state ← get
  let select := fun link : ShareFile => link.itemType = itemType && chunk.contains link.itemId
  let linked := state.shareFiles.rows.filter select
  set { state with shareFiles := state.shareFiles.remove select }
  pure (found.1 ++ (linked.map ShareFile.shareId).dedup, found.2 + linked.length)

def hasLink (shareFiles : List ShareFile) (share : Share) : Bool :=
  shareFiles.any fun link => link.shareId = share.id

def Share.cancelled (share : Share) (now : Upload.Timestamp) : Share :=
  { share with status := ShareStatus.cancelled.toInt, updatedAt := now }

theorem Share.cancelled_id (share : Share) (now : Upload.Timestamp) :
    (share.cancelled now).id = share.id := rfl

def cancelEmptyShares (cancelledCount : Nat) (chunk : List Nat) : SharedTx Nat := do
  let state ← get
  let select := fun share : Share => share.status = ShareStatus.active.toInt &&
    chunk.contains share.id && !hasLink state.shareFiles.rows share
  set { state with
    shares := state.shares.update select (fun share => share.cancelled state.drive.now)
      fun share => share.cancelled_id state.drive.now }
  pure (cancelledCount + (state.shares.rows.filter select).length)

def cleanupShareLinksForMovedItems (fileIds folderIds : List Nat) : SharedTx ShareCleanupStats := do
  let fileLinks ← (chunkItems defaultBatchChunkSize fileIds).foldlM (deleteShareLinks .file) ([], 0)
  let folderLinks ← (chunkItems defaultBatchChunkSize folderIds).foldlM (deleteShareLinks .folder)
    (fileLinks.1, 0)
  let affectedShareIds := normalizeIds folderLinks.1
  let cancelledEmptyShares ←
    (chunkItems defaultBatchChunkSize affectedShareIds).foldlM cancelEmptyShares 0
  pure ⟨fileLinks.2, folderLinks.2, cancelledEmptyShares⟩

def moveToTrash (hashOrder fileIds folderIds : List Nat) (userId : Nat) :
    SharedTx MoveToTrashResult := do
  let requestedFileIds := normalizeIds fileIds
  let requestedFolderIds := normalizeIds folderIds
  let plans ← onDrive (fetchBatchFolderDeletePlans hashOrder requestedFolderIds userId)
  let state ← get
  let selection := selectForTrash state.drive userId requestedFileIds requestedFolderIds plans
  if selection.items.isEmpty then
    throw ⟨.fileNotFound, "No deletable files or folders found for the given IDs"⟩
  else
    onDrive (selection.items.forM (insertTrashRecord userId))
    onDrive ((normalizeIds selection.parentIds).forM fun parentId => do
      let updated ← applyItemCountDelta parentId userId (-(selection.parentIds.count parentId : Int))
      if updated then pure () else throw deleteFailed)
    let _ ← cleanupShareLinksForMovedItems selection.fileIds selection.folderIds
    let deletedFileRows ← onDrive (deleteFilesByIds selection.fileIds)
    if deletedFileRows ≠ selection.fileIds.length then
      throw deleteFailed
    else
      let deletedFolderRows ← onDrive (deleteFoldersByIds selection.folderIds)
      if deletedFolderRows ≠ selection.folderIds.length then
        throw deleteFailed
      else
        pure ⟨selection.explicitFiles.length, selection.plans.length, selection.fileIds,
          selection.folderIds⟩

end DiskServer.Shares
