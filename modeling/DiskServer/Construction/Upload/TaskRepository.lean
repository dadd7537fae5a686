import DiskServer.Construction.Upload.StateMachine

/-
This file gives each statement of the upload task repository as a function on the rows it touches.
A statement returns no row when its WHERE clause rejects the row.
-/

namespace DiskServer.Upload

abbrev Timestamp := Int

def second : Timestamp := 1000000

/-- The repository casts a `uint32_t` duration to `int32_t` before it reaches the database. -/
def leaseEnd (now : Timestamp) (seconds : UInt32) : Timestamp :=
  now + seconds.toBitVec.toInt * second

inductive UploadStagingBackend where
  | localDisk
  | s3
  deriving Repr, DecidableEq

structure UploadTask where
  id : String
  userId : Nat
  folderId : Nat
  filename : String
  fileSize : Nat
  fileHash : String
  totalChunks : Nat
  reservedBytes : Nat
  stagingBackend : UploadStagingBackend
  stagingPrefix : String
  status : UploadTaskStatus
  stateVersion : Nat
  leaseOwner : Option String
  leaseExpiresAt : Option Timestamp
  finalizeAttempts : Nat
  lastErrorCode : Option Int
  lastErrorAt : Option Timestamp
  completedFileId : Option Nat
  expiresAt : Timestamp
  finalizedAt : Option Timestamp
  failReason : Option String
  deriving Repr, DecidableEq

def UploadTask.active (task : UploadTask) : Bool :=
  task.status == .inProgress || task.status == .finalizing

structure UploadTaskChunk where
  chunkIndex : Nat
  sizeBytes : Option Nat
  hashMd5 : Option String
  objectKey : Option String
  etag : Option String
  deriving Repr, DecidableEq

structure NewUploadTask where
  id : String
  userId : Nat
  folderId : Nat
  filename : String
  fileSize : Nat
  fileHash : String
  totalChunks : Nat
  reservedBytes : Nat
  stagingBackend : UploadStagingBackend
  stagingPrefix : String
  expirySeconds : UInt32
  deriving Repr, DecidableEq

def create (now : Timestamp) (task : NewUploadTask) : UploadTask where
  id := task.id
  userId := task.userId
  folderId := task.folderId
  filename := task.filename
  fileSize := task.fileSize
  fileHash := task.fileHash
  totalChunks := task.totalChunks
  reservedBytes := task.reservedBytes
  stagingBackend := task.stagingBackend
  stagingPrefix := task.stagingPrefix
  status := .inProgress
  stateVersion := 0
  leaseOwner := none
  leaseExpiresAt := none
  finalizeAttempts := 0
  lastErrorCode := none
  lastErrorAt := none
  completedFileId := none
  expiresAt := leaseEnd now task.expirySeconds
  finalizedAt := none
  failReason := none

def maxLeaseOwnerLength : Nat := 128

def validLeaseArguments (leaseOwner : String) (seconds : UInt32) : Bool :=
  leaseOwner.utf8ByteSize != 0 && leaseOwner.utf8ByteSize ≤ maxLeaseOwnerLength && seconds != 0

def leaseExpired (now : Timestamp) (task : UploadTask) : Bool :=
  match task.leaseExpiresAt with
  | some leaseExpiresAt => leaseExpiresAt ≤ now
  | none => false

def leaseAlive (now : Timestamp) (task : UploadTask) : Bool :=
  match task.leaseExpiresAt with
  | some leaseExpiresAt => now < leaseExpiresAt
  | none => false

def chunksComplete (task : UploadTask) (chunks : List UploadTaskChunk) : Bool :=
  chunks.length == task.totalChunks &&
    chunks.foldl (fun largest chunk => max largest (chunk.chunkIndex : Int)) (-1) ==
      (task.totalChunks : Int) - 1

def claimFinalizeLease (now : Timestamp) (userId : Nat) (leaseOwner : String) (seconds : UInt32)
    (chunks : List UploadTaskChunk) (task : UploadTask) : Option UploadTask :=
  if task.userId = userId ∧
      ((task.status = .inProgress ∧ now ≤ task.expiresAt ∧ chunksComplete task chunks) ∨
        (task.status = .finalizing ∧ leaseExpired now task)) then
    some { task with
      status := .finalizing
      leaseOwner := some leaseOwner
      leaseExpiresAt := some (leaseEnd now seconds)
      stateVersion := task.stateVersion + 1
      finalizeAttempts := task.finalizeAttempts + 1
      lastErrorCode := none
      lastErrorAt := none }
  else
    none

def leaseOwned (now : Timestamp) (userId : Nat) (leaseOwner : String) (expectedStateVersion : Nat)
    (task : UploadTask) : Bool :=
  task.userId == userId && task.status == .finalizing && task.leaseOwner == some leaseOwner &&
    task.stateVersion == expectedStateVersion && leaseAlive now task

def renewFinalizeLease (now : Timestamp) (userId : Nat) (leaseOwner : String)
    (expectedStateVersion : Nat) (seconds : UInt32) (task : UploadTask) : Option UploadTask :=
  if leaseOwned now userId leaseOwner expectedStateVersion task then
    some { task with
      leaseExpiresAt := some (leaseEnd now seconds)
      stateVersion := task.stateVersion + 1 }
  else
    none

def markCompletedIfLeaseOwned (now : Timestamp) (userId : Nat) (leaseOwner : String)
    (expectedStateVersion completedFileId : Nat) (task : UploadTask) : Option UploadTask :=
  if leaseOwned now userId leaseOwner expectedStateVersion task then
    some { task with
      status := .completed
      completedFileId := some completedFileId
      finalizedAt := some now
      leaseOwner := none
      leaseExpiresAt := none
      stateVersion := task.stateVersion + 1 }
  else
    none

def recordFinalizeErrorIfLeaseOwned (now : Timestamp) (userId : Nat) (leaseOwner : String)
    (expectedStateVersion : Nat) (errorCode : Int) (task : UploadTask) : Option UploadTask :=
  if leaseOwned now userId leaseOwner expectedStateVersion task then
    some { task with lastErrorCode := some errorCode, lastErrorAt := some now }
  else
    none

def markCancelledIfInProgress (now : Timestamp) (userId : Nat) (failReason : String)
    (task : UploadTask) : Option UploadTask :=
  if task.userId = userId ∧ task.status = .inProgress ∧ now ≤ task.expiresAt then
    some { task with
      status := .cancelled
      finalizedAt := some now
      failReason := some failReason
      stateVersion := task.stateVersion + 1 }
  else
    none

def markExpiredIfInProgress (now : Timestamp) (failReason : String) (task : UploadTask) :
    Option UploadTask :=
  if task.status = .inProgress ∧ task.expiresAt < now then
    some { task with
      status := .expired
      finalizedAt := some now
      failReason := some failReason
      stateVersion := task.stateVersion + 1 }
  else
    none

def releaseUploadLease (now : Timestamp) (expectedLeaseOwner : String) (expectedStateVersion : Nat)
    (task : UploadTask) : Option UploadTask :=
  if task.status = .finalizing ∧ task.leaseOwner = some expectedLeaseOwner ∧
      task.stateVersion = expectedStateVersion ∧ leaseAlive now task then
    some { task with leaseExpiresAt := some now, stateVersion := task.stateVersion + 1 }
  else
    none

inductive ChunkRecordDisposition where
  | accepted
  | taskRejected
  | metadataConflict
  deriving Repr, DecidableEq

/-- SQL equality selects a row only when both sides are present. -/
def sqlEquals {α : Type} [DecidableEq α] : Option α → Option α → Bool
  | some left, some right => left == right
  | _, _ => false

def nullIfEmpty (text : String) : Option String :=
  if text = "" then none else some text

/-- The conflict clause keeps a stored value and fills a missing one. -/
def mergeChunk (stored excluded : UploadTaskChunk) : Option UploadTaskChunk :=
  if (stored.sizeBytes.isNone || sqlEquals stored.sizeBytes excluded.sizeBytes) &&
      (stored.hashMd5.isNone || sqlEquals stored.hashMd5 excluded.hashMd5) &&
      (stored.objectKey.isNone || sqlEquals stored.objectKey excluded.objectKey) &&
      (stored.etag.isNone || excluded.etag.isNone || sqlEquals stored.etag excluded.etag) then
    some { stored with
      sizeBytes := stored.sizeBytes <|> excluded.sizeBytes
      hashMd5 := stored.hashMd5 <|> excluded.hashMd5
      objectKey := stored.objectKey <|> excluded.objectKey
      etag := stored.etag <|> excluded.etag }
  else
    none

def recordChunkIfInProgress (now : Timestamp) (userId chunkIndex sizeBytes : Nat)
    (hashMd5 objectKey etag : String) (task : UploadTask) (chunks : List UploadTaskChunk) :
    ChunkRecordDisposition × List UploadTaskChunk :=
  if task.userId = userId ∧ task.status = .inProgress ∧ now ≤ task.expiresAt then
    let excluded : UploadTaskChunk :=
      ⟨chunkIndex, some sizeBytes, some hashMd5, nullIfEmpty objectKey, nullIfEmpty etag⟩
    match chunks.find? (fun chunk => chunk.chunkIndex = chunkIndex) with
    | none => (.accepted, chunks ++ [excluded])
    | some stored =>
        match mergeChunk stored excluded with
        | none => (.metadataConflict, chunks)
        | some merged =>
            (.accepted, chunks.map fun chunk => if chunk.chunkIndex = chunkIndex then merged else chunk)
  else
    (.taskRejected, chunks)

inductive FinalizeClaimDisposition where
  | acquired
  | incompleteChunks
  | leaseHeld
  | completedReplay
  | terminal
  | notFound
  deriving Repr, DecidableEq

structure FinalizeClaimResult where
  disposition : FinalizeClaimDisposition
  stateVersion : Nat
  completedFileId : Option Nat
  deriving Repr, DecidableEq

/-- The second read of `ClaimFinalizeLease` explains why the update took no row. -/
def explainClaim (now : Timestamp) (userId : Nat) (current : Option UploadTask) :
    FinalizeClaimResult :=
  match current with
  | none => ⟨.notFound, 0, none⟩
  | some task =>
      if task.userId = userId then
        let disposition : FinalizeClaimDisposition :=
          match decideFinalizeRequest (toStorageValue task.status) (leaseExpired now task) with
          | .claimLease => if task.expiresAt < now then .terminal else .incompleteChunks
          | .takeOverExpiredLease | .retryLater => .leaseHeld
          | .replayCompleted => .completedReplay
          | .rejectTerminal => .terminal
        ⟨disposition, task.stateVersion, task.completedFileId⟩
      else
        ⟨.notFound, 0, none⟩

structure SameTask (task next : UploadTask) : Prop where
  id : next.id = task.id
  userId : next.userId = task.userId
  folderId : next.folderId = task.folderId
  filename : next.filename = task.filename
  fileSize : next.fileSize = task.fileSize
  fileHash : next.fileHash = task.fileHash
  reservedBytes : next.reservedBytes = task.reservedBytes

def Keeps (change : UploadTask → Option UploadTask) : Prop :=
  ∀ task next, change task = some next → SameTask task next

theorem keeps_ite {select : UploadTask → Prop} [DecidablePred select]
    {change : UploadTask → UploadTask} (same : ∀ task, SameTask task (change task)) :
    Keeps fun task => if select task then some (change task) else none := by
  intro task next found
  simp only at found
  split at found
  · cases found
    exact same task
  · cases found

theorem claimFinalizeLease_keeps (now : Timestamp) (userId : Nat) (leaseOwner : String)
    (seconds : UInt32) (chunks : List UploadTaskChunk) :
    Keeps (claimFinalizeLease now userId leaseOwner seconds chunks) :=
  keeps_ite fun _ => ⟨rfl, rfl, rfl, rfl, rfl, rfl, rfl⟩

theorem renewFinalizeLease_keeps (now : Timestamp) (userId : Nat) (leaseOwner : String)
    (expectedStateVersion : Nat) (seconds : UInt32) :
    Keeps (renewFinalizeLease now userId leaseOwner expectedStateVersion seconds) :=
  keeps_ite fun _ => ⟨rfl, rfl, rfl, rfl, rfl, rfl, rfl⟩

theorem markCompletedIfLeaseOwned_keeps (now : Timestamp) (userId : Nat) (leaseOwner : String)
    (expectedStateVersion completedFileId : Nat) :
    Keeps (markCompletedIfLeaseOwned now userId leaseOwner expectedStateVersion completedFileId) :=
  keeps_ite fun _ => ⟨rfl, rfl, rfl, rfl, rfl, rfl, rfl⟩

theorem recordFinalizeErrorIfLeaseOwned_keeps (now : Timestamp) (userId : Nat) (leaseOwner : String)
    (expectedStateVersion : Nat) (errorCode : Int) :
    Keeps (recordFinalizeErrorIfLeaseOwned now userId leaseOwner expectedStateVersion errorCode) :=
  keeps_ite fun _ => ⟨rfl, rfl, rfl, rfl, rfl, rfl, rfl⟩

theorem markCancelledIfInProgress_keeps (now : Timestamp) (userId : Nat) (failReason : String) :
    Keeps (markCancelledIfInProgress now userId failReason) :=
  keeps_ite fun _ => ⟨rfl, rfl, rfl, rfl, rfl, rfl, rfl⟩

theorem markExpiredIfInProgress_keeps (now : Timestamp) (failReason : String) :
    Keeps (markExpiredIfInProgress now failReason) :=
  keeps_ite fun _ => ⟨rfl, rfl, rfl, rfl, rfl, rfl, rfl⟩

theorem releaseUploadLease_keeps (now : Timestamp) (expectedLeaseOwner : String)
    (expectedStateVersion : Nat) :
    Keeps (releaseUploadLease now expectedLeaseOwner expectedStateVersion) :=
  keeps_ite fun _ => ⟨rfl, rfl, rfl, rfl, rfl, rfl, rfl⟩

end DiskServer.Upload
