import DiskServer.Construction.Drive.FolderService
import DiskServer.Construction.Drive.ShareService
import DiskServer.Construction.Drive.StorageJobWorker
import DiskServer.Construction.Drive.UploadLifecycleService
import DiskServer.Library.Transition

/-
This file gives the drive as one system in which requests of all services interleave.
-/

namespace DiskServer.Drive

open Library Upload Jobs

/-- The committed state, the states before it, the running copies and the tasks whose reservation
has been released or converted. A read outside a transaction may see any committed state. -/
structure World where
  db : Db
  past : List Db
  copies : List CopyRun
  settled : List String

namespace World

def history (world : World) : List Db := world.db :: world.past

def read (world : World) (index : Nat) : Option Db := world.history[index]?

def readOptional (world : World) : Option Nat → Option (Option Db)
  | none => some none
  | some index => (world.read index).map some

def advance (world : World) (db : Db) : World :=
  { world with db := db, past := world.db :: world.past }

/-- A transaction that fails changes nothing, so only a successful one is a step. -/
def commit {Value : Type} (world : World) (program : Tx Value) : Option World :=
  match program.run world.db with
  | .ok (_, after) => some (world.advance after)
  | .error _ => none

def commitSettling (world : World) (uploadId : String) (program : Tx (Option Nat)) : Option World :=
  match program.run world.db with
  | .ok (some _, after) => some { world.advance after with settled := uploadId :: world.settled }
  | .ok (none, after) => some (world.advance after)
  | .error _ => none

end World

/-- What a `CompleteUpload` run holds before its final transaction.
The run has checked that the assembled object has the size and hash of the task. -/
structure FinalizeRequest where
  uploadId : String
  userId : Nat
  leaseOwner : String
  leaseDurationSeconds : UInt32
  stateVersion : Nat
  finalSha256 : String
  finalStoragePath : String
  existingContentId : Option Nat
  deriving Repr, DecidableEq

def FinalizeRequest.command (request : FinalizeRequest) (task : UploadTask) : FinalizeCommand where
  uploadId := request.uploadId
  userId := request.userId
  leaseOwner := request.leaseOwner
  leaseDurationSeconds := request.leaseDurationSeconds
  stateVersion := request.stateVersion
  uploadTask := task
  finalHash := task.fileHash
  finalSha256 := request.finalSha256
  finalStoragePath := request.finalStoragePath
  existingContentId := request.existingContentId

structure SaveFolderRead where
  folderId : Nat
  rootRead : Nat
  folderRead : Nat
  fileRead : Nat
  deriving Repr, DecidableEq

structure SaveRequest where
  userId : Nat
  targetFolderId : Nat
  targetRead : Nat
  fileReads : List (Nat × Nat)
  folderReads : List SaveFolderRead
  deriving Repr, DecidableEq

inductive TaskStatement where
  | claim (userId : Nat) (leaseOwner : String) (seconds : UInt32)
  | renew (userId : Nat) (leaseOwner : String) (stateVersion : Nat) (seconds : UInt32)
  | recordError (userId : Nat) (leaseOwner : String) (stateVersion : Nat) (errorCode : Int)
  | releaseLease (leaseOwner : String) (stateVersion : Nat)
  deriving Repr, DecidableEq

def TaskStatement.change (statement : TaskStatement) (db : Db) (uploadId : String) :
    UploadTask → Option UploadTask :=
  match statement with
  | .claim userId leaseOwner seconds =>
      claimFinalizeLease db.now userId leaseOwner seconds (chunksOf db uploadId)
  | .renew userId leaseOwner stateVersion seconds =>
      renewFinalizeLease db.now userId leaseOwner stateVersion seconds
  | .recordError userId leaseOwner stateVersion errorCode =>
      recordFinalizeErrorIfLeaseOwned db.now userId leaseOwner stateVersion errorCode
  | .releaseLease leaseOwner stateVersion => releaseUploadLease db.now leaseOwner stateVersion

theorem TaskStatement.change_keeps (statement : TaskStatement) (db : Db) (uploadId : String) :
    Keeps (statement.change db uploadId) := by
  cases statement with
  | claim => exact claimFinalizeLease_keeps _ _ _ _ _
  | renew => exact renewFinalizeLease_keeps _ _ _ _ _
  | recordError => exact recordFinalizeErrorIfLeaseOwned_keeps _ _ _ _ _
  | releaseLease => exact releaseUploadLease_keeps _ _ _

def runTaskStatement (statement : TaskStatement) (uploadId : String) : Tx (Option UploadTask) := do
  let db ← get
  updateTask uploadId (statement.change db uploadId) (statement.change_keeps db uploadId)

def recordChunk (uploadId : String) (userId chunkIndex sizeBytes : Nat)
    (hashMd5 objectKey etag : String) : Tx ChunkRecordDisposition := do
  let db ← get
  match db.tasks.find? uploadId with
  | none => pure .taskRejected
  | some task =>
      let (disposition, chunks) := recordChunkIfInProgress db.now userId chunkIndex sizeBytes hashMd5
        objectKey etag task (chunksOf db uploadId)
      set { db with
        chunks := (db.chunks.filter fun (stored : String × UploadTaskChunk) => stored.1 ≠ uploadId) ++
          chunks.map (Prod.mk uploadId) }
      pure disposition

inductive JobStatement where
  | bury
  | claim (instanceId : String) (seconds : UInt32)
  | renew (instanceId : String) (seconds : UInt32)
  | fail (instanceId boundedError : String) (retryable : Bool) (retryDelaySeconds : UInt32)
  | replay
  deriving Repr, DecidableEq

def JobStatement.change (statement : JobStatement) (now : Timestamp) :
    StorageJob → Option StorageJob :=
  match statement with
  | .bury => buryExhausted now
  | .claim instanceId seconds => claimReady now instanceId seconds
  | .renew instanceId seconds => renewLease now instanceId seconds
  | .fail instanceId boundedError retryable retryDelaySeconds =>
      markFailed now instanceId boundedError retryable retryDelaySeconds
  | .replay => Jobs.replay now

theorem JobStatement.change_dedupeKey (statement : JobStatement) (now : Timestamp)
    (job next : StorageJob) (changed : statement.change now job = some next) :
    next.dedupeKey = job.dedupeKey := by
  cases statement <;>
    simp only [change, buryExhausted, claimReady, renewLease, markFailed, Jobs.replay] at changed <;>
    split at changed <;> cases changed <;> rfl

def runJobStatement (statement : JobStatement) (dedupeKey : String) : Tx Bool := do
  let db ← get
  updateJob dedupeKey (statement.change db.now) (statement.change_dedupeKey db.now)

def registerUser (storageQuota : Nat) : Tx Unit :=
  modify fun db => { db with users := db.users.insert (fun id => ⟨id, storageQuota, 0, 0⟩) fun _ => rfl }

def tick (elapsed : Nat) : Tx Unit := modify fun db => { db with now := db.now + elapsed }

inductive DriveAction where
  | registerUser (storageQuota : Nat)
  | createFolder (userId parentId : Nat) (name : String)
  | instantUpload (command : InitUploadCommand) (contentRead : Nat)
  | createUploadTask (command : InitUploadCommand) (session : StagingSession)
  | recordChunk (uploadId : String) (userId chunkIndex sizeBytes : Nat) (hashMd5 objectKey etag : String)
  | taskStatement (statement : TaskStatement) (uploadId : String)
  | completeUpload (request : FinalizeRequest) (taskRead : Nat)
  | cancelUpload (uploadId : String) (userId : Nat)
  | expireUpload (uploadId : String)
  | moveToTrash (hashOrder fileIds folderIds : List Nat) (userId : Nat)
  | restoreFile (trashId userId candidateIndex : Nat)
  | restoreFolder (trashId userId candidateIndex : Nat)
  | permanentDelete (itemRead : Nat) (trashIds : List Nat) (requireValidFileContent : Bool)
  | saveToDrive (request : SaveRequest)
  | startCopy (targetRead planRead : Nat) (fileReads : List (Option Nat)) (hashOrder : List Nat)
      (request : CopyRequest)
  | copyBatch (slot : Nat) (namesRead existingRead : Option Nat) (fails : Bool)
  | copyRootNames (slot : Nat) (namesRead : Option Nat)
  | copyFolder (slot : Nat) (existingRead : Option Nat) (fails : Bool)
  | copyRelease (slot : Nat) (fails : Bool)
  | abandonCopy (slot : Nat)
  | jobStatement (statement : JobStatement) (dedupeKey : String)
  | executeBlobGc (contentId : Nat) (storagePath dedupeKey instanceId : String) (blobDeleted : Bool)
  | tick (elapsed : Nat)
  deriving Repr, DecidableEq

def InitUploadCommand.valid (command : InitUploadCommand) : Bool :=
  command.filename != "" && command.fileSize != 0

namespace World

def readSaveSelection (world : World) (request : SaveRequest) : Option SaveSelection := do
  let files ← request.fileReads.mapM fun (fileId, index) => do
    let seen ← world.read index
    seen.files.find? fileId
  let plans ← request.folderReads.mapM fun reads => do
    let rootRead ← world.read reads.rootRead
    let folderRead ← world.read reads.folderRead
    let fileRead ← world.read reads.fileRead
    readSavePlan rootRead folderRead fileRead reads.folderId
  pure ⟨files, plans⟩

def readSaveTarget (world : World) (request : SaveRequest) : Option FolderLocation := do
  let seen ← world.read request.targetRead
  match (resolveOwnedFolderLocation request.targetFolderId request.userId).run seen with
  | .ok (location, _) => some location
  | .error _ => none

def readCopy (world : World) (targetRead planRead : Nat) (fileReads : List (Option Nat)) :
    Option CopyReads := do
  let target ← world.read targetRead
  let plans ← world.read planRead
  let files ← fileReads.mapM world.readOptional
  pure ⟨target, plans, files⟩

def readyCopy (world : World) (slot : Nat) : Option CopyRun :=
  (world.copies[slot]?).filter fun run => run.running && run.owed == 0

def setCopy (world : World) (slot : Nat) (outcome : Db × CopyRun) : World :=
  { world.advance outcome.1 with copies := world.copies.set slot outcome.2 }

def stepCopyFolder (world : World) (run : CopyRun) (existingRead : Option Db) (fails : Bool) :
    Option (Db × CopyRun) :=
  match run.chunks, run.plans, run.occupiedRootNames with
  | [], plan :: rest, .failed => some (world.db, { run with plans := rest, owed := plan.itemSize })
  | [], plan :: rest, .read occupied =>
      some (run.stepFolder existingRead fails world.db occupied plan rest)
  | _, _, _ => none

def startCopy (world : World) (reads : CopyReads) (hashOrder : List Nat) (request : CopyRequest) :
    Option World :=
  match planCopy reads hashOrder request with
  | .error _ => none
  | .ok run =>
      match (reserveStorage run.userId run.totalCopySize).run world.db with
      | .error _ => none
      | .ok (_, after) => some { world.advance after with copies := world.copies ++ [run] }

def completeUpload (world : World) (request : FinalizeRequest) (task : UploadTask) : Option World :=
  world.commitSettling request.uploadId (some <$> Drive.completeUpload (request.command task))

def step (world : World) : DriveAction → Option World
  | .registerUser storageQuota => world.commit (Drive.registerUser storageQuota)
  | .createFolder userId parentId name =>
      if name = "" then none else world.commit (Drive.createFolder userId parentId name)
  | .instantUpload command contentRead => do
      let seen ← world.read contentRead
      let content ← findByMd5 seen command.fileHash
      if command.valid then world.commit (Drive.instantUpload command content) else none
  | .createUploadTask command session =>
      if command.valid then world.commit (Drive.createUploadTask command session) else none
  | .recordChunk uploadId userId chunkIndex sizeBytes hashMd5 objectKey etag =>
      world.commit (Drive.recordChunk uploadId userId chunkIndex sizeBytes hashMd5 objectKey etag)
  | .taskStatement statement uploadId => world.commit (runTaskStatement statement uploadId)
  | .completeUpload request taskRead => do
      let seen ← world.read taskRead
      let task ← seen.tasks.find? request.uploadId
      world.completeUpload request task
  | .cancelUpload uploadId userId =>
      world.commitSettling uploadId (cancelInProgressUpload uploadId userId)
  | .expireUpload uploadId => world.commitSettling uploadId (expireInProgressUpload uploadId)
  | .moveToTrash hashOrder fileIds folderIds userId =>
      world.commit (Drive.moveToTrash hashOrder fileIds folderIds userId)
  | .restoreFile trashId userId candidateIndex =>
      world.commit (Drive.restoreFile trashId userId candidateIndex)
  | .restoreFolder trashId userId candidateIndex =>
      world.commit (Drive.restoreFolder trashId userId candidateIndex)
  | .permanentDelete itemRead trashIds requireValidFileContent => do
      let seen ← world.read itemRead
      world.commit
        (permanentlyDeleteTrashItems (trashIds.filterMap seen.trash.find?) requireValidFileContent)
  | .saveToDrive request => do
      let location ← world.readSaveTarget request
      let selection ← world.readSaveSelection request
      world.commit (Drive.saveToDrive request.userId request.targetFolderId location selection)
  | .startCopy targetRead planRead fileReads hashOrder request => do
      let reads ← world.readCopy targetRead planRead fileReads
      world.startCopy reads hashOrder request
  | .copyBatch slot namesRead existingRead fails => do
      let run ← world.readyCopy slot
      let names ← world.readOptional namesRead
      let existing ← world.readOptional existingRead
      match run.chunks with
      | [] => none
      | chunk :: rest =>
          some (world.setCopy slot (run.stepBatch names existing fails world.db chunk rest))
  | .copyRootNames slot namesRead => do
      let run ← world.readyCopy slot
      let names ← world.readOptional namesRead
      if run.chunks = [] ∧ run.occupiedRootNames = .unread then
        some (world.setCopy slot (world.db, run.stepRootNames names))
      else
        none
  | .copyFolder slot existingRead fails => do
      let run ← world.readyCopy slot
      let existing ← world.readOptional existingRead
      let outcome ← world.stepCopyFolder run existing fails
      some (world.setCopy slot outcome)
  | .copyRelease slot fails => do
      let run ← (world.copies[slot]?).filter CopyRun.running
      some (world.setCopy slot (run.stepRelease fails world.db))
  | .abandonCopy slot => do
      let run ← world.copies[slot]?
      some (world.setCopy slot (world.db, { run with running := false }))
  | .jobStatement statement dedupeKey => world.commit (runJobStatement statement dedupeKey)
  | .executeBlobGc contentId storagePath dedupeKey instanceId blobDeleted =>
      world.commit (Drive.executeBlobGc contentId storagePath dedupeKey instanceId blobDeleted)
  | .tick elapsed => world.commit (Drive.tick elapsed)

def empty : World := ⟨Db.empty, [], [], []⟩

end World

def driveSystem : TransitionSystem World DriveAction where
  initial := fun world => world = World.empty
  step := World.step

end DiskServer.Drive
