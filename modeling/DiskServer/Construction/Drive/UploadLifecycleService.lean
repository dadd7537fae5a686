import DiskServer.Construction.Drive.ContentService
import DiskServer.Construction.Drive.QuotaService

/-
This file gives the transactions of the upload lifecycle service.
-/

namespace DiskServer.Drive

open Library Upload Jobs

structure InitUploadCommand where
  userId : Nat
  filename : String
  fileSize : Nat
  fileHash : String
  parentId : Nat
  chunkSize : Nat
  maxFileSize : Nat
  expirySeconds : UInt32
  uploadTaskCreationEnabled : Bool
  deriving Repr, DecidableEq

def totalChunks (fileSize chunkSize : Nat) : Nat := (fileSize - 1) / chunkSize + 1

/-- The upload paths ignore whether the count of the parent was updated. -/
def countNewItem (folderId userId : Nat) : Tx Unit :=
  if 0 < folderId then do
    let _ ← applyItemCountDelta folderId userId 1
    pure ()
  else
    pure ()

/-- The transaction of an instant upload charges the size that the client sent. -/
def instantUpload (command : InitUploadCommand) (content : FileContent) : Tx Nat := do
  let db ← get
  if fileNameExists db command.userId command.parentId command.filename then
    failCode .fileAlreadyExists
  else
    consumeUsedStorage command.userId command.fileSize
    incrementRefCount content.id 1
    let location ← resolveOwnedFolderLocation command.parentId command.userId
    let fileId ← insertFileRecord
      { userId := command.userId
        contentId := content.id
        folderId := command.parentId
        name := command.filename
        extension := extractFileExtension command.filename
        size := command.fileSize
        mimeType := content.mimeType
        path := buildFilePath location.path command.filename
        isFavorite := 0
        downloadCount := 0 }
    countNewItem command.parentId command.userId
    pure fileId

def findActiveByUserAndHash (db : Db) (userId : Nat) (fileHash : String) : Option UploadTask :=
  db.tasks.rows.find? fun task => task.userId = userId && task.fileHash = fileHash && task.active

structure StagingSession where
  uploadId : String
  backend : UploadStagingBackend
  stagingRoot : String
  deriving Repr, DecidableEq

def newUploadTask (command : InitUploadCommand) (session : StagingSession) : NewUploadTask where
  id := session.uploadId
  userId := command.userId
  folderId := command.parentId
  filename := command.filename
  fileSize := command.fileSize
  fileHash := command.fileHash
  totalChunks := totalChunks command.fileSize command.chunkSize
  reservedBytes := command.fileSize
  stagingBackend := session.backend
  stagingPrefix := session.stagingRoot
  expirySeconds := command.expirySeconds

def createUploadTask (command : InitUploadCommand) (session : StagingSession) : Tx (Option String) := do
  let db ← get
  match findActiveByUserAndHash db command.userId command.fileHash with
  | some _ => pure none
  | none =>
      reserveStorage command.userId command.fileSize
      let db ← get
      match db.tasks.insertNew (create db.now (newUploadTask command session)) with
      | none => failWith .internalError "Failed to create upload task"
      | some tasks =>
          set { db with tasks := tasks }
          pure (some session.uploadId)

def updateTask (taskId : String) (change : UploadTask → Option UploadTask) (keeps : Keeps change) :
    Tx (Option UploadTask) := do
  let db ← get
  match db.tasks.find? taskId with
  | none => pure none
  | some task =>
      match change task with
      | none => pure none
      | some next =>
          set { db with
            tasks := db.tasks.update (fun row => row.id = taskId) (fun row => (change row).getD row)
              fun row => by
                cases found : change row with
                | none => rfl
                | some other => exact (keeps row other found).id }
          pure (some next)

def deleteChunks (uploadId : String) : Tx Unit :=
  modify fun db => { db with chunks := db.chunks.filter fun chunk => chunk.1 ≠ uploadId }

def chunksOf (db : Db) (uploadId : String) : List UploadTaskChunk :=
  (db.chunks.filter fun chunk => chunk.1 = uploadId).map Prod.snd

structure FinalizeCommand where
  uploadId : String
  userId : Nat
  leaseOwner : String
  leaseDurationSeconds : UInt32
  stateVersion : Nat
  uploadTask : UploadTask
  finalHash : String
  finalSha256 : String
  finalStoragePath : String
  existingContentId : Option Nat
  deriving Repr, DecidableEq

def renewInTransaction (command : FinalizeCommand) : Tx Nat := do
  let db ← get
  match ← updateTask command.uploadId
      (renewFinalizeLease db.now command.userId command.leaseOwner command.stateVersion
        command.leaseDurationSeconds) (renewFinalizeLease_keeps _ _ _ _ _) with
  | none => failWith .resourceConflict "Upload finalization is owned by another lease; retry later"
  | some renewed => pure renewed.stateVersion

def markCompleted (command : FinalizeCommand) (stateVersion fileId : Nat) : Tx UploadTask := do
  let db ← get
  match ← updateTask command.uploadId
      (markCompletedIfLeaseOwned db.now command.userId command.leaseOwner stateVersion fileId)
      (markCompletedIfLeaseOwned_keeps _ _ _ _ _) with
  | none => failWith .resourceConflict "Upload finalization lease changed before commit"
  | some completed => pure completed

/-- The final transaction of `CompleteUpload`, in the order of its statements. -/
def completeUpload (command : FinalizeCommand) : Tx Nat := do
  let task := command.uploadTask
  let stateVersion ← renewInTransaction command
  let contentId ← acquireReference
    ⟨command.finalHash, command.finalSha256, task.fileSize, command.finalStoragePath, ""⟩
    command.existingContentId
  let location ← resolveOwnedFolderLocation task.folderId command.userId
  let fileId ← insertFileRecord
    { userId := command.userId
      contentId := contentId
      folderId := task.folderId
      name := task.filename
      extension := extractFileExtension task.filename
      size := task.fileSize
      mimeType := ""
      path := buildFilePath location.path task.filename
      isFavorite := 0
      downloadCount := 0 }
  countNewItem task.folderId command.userId
  commitReservedToUsed command.userId task.fileSize
  let completed ← markCompleted command stateVersion fileId
  let _ ← enqueue (stagingCleanupJob completed)
  deleteChunks command.uploadId
  pure fileId

def releaseTask (task : UploadTask) (userId : Nat) : Tx Unit := do
  releaseReservedStorageChecked userId task.reservedBytes
  let _ ← enqueue (stagingCleanupJob task)
  deleteChunks task.id

def cancelInProgressUpload (uploadId : String) (userId : Nat) : Tx (Option Nat) := do
  let db ← get
  match ← updateTask uploadId (markCancelledIfInProgress db.now userId "用户取消")
      (markCancelledIfInProgress_keeps _ _ _) with
  | none => pure none
  | some cancelled =>
      releaseTask cancelled userId
      pure (some cancelled.stateVersion)

def expireInProgressUpload (uploadId : String) : Tx (Option Nat) := do
  let db ← get
  match ← updateTask uploadId (markExpiredIfInProgress db.now "任务过期")
      (markExpiredIfInProgress_keeps _ _) with
  | none => pure none
  | some expired =>
      releaseTask expired expired.userId
      pure (some expired.stateVersion)

end DiskServer.Drive
