import DiskServer.Construction.ErrorCode
import DiskServer.Construction.Upload.TaskRepository
import DiskServer.Library.Transition

/-
This file runs the statements of any number of server instances on one upload task.
-/

namespace DiskServer.Upload.Finalization

open Library

structure CompleteRun where
  userId : Nat
  leaseOwner : String
  leaseDurationSeconds : UInt32
  stateVersion : Nat
  deriving Repr, DecidableEq

inductive Statement where
  | renewFinalizeLease
  | acquireReference
  | resolveOwnedFolderLocation
  | insertFileRecord
  | applyItemCountDelta
  | commitReservedToUsed
  | markCompletedIfLeaseOwned
  | markCancelledIfInProgress
  | markExpiredIfInProgress
  | releaseReservedStorageChecked
  | enqueueStagingCleanupJob
  | deleteChunks
  | releaseUploadLease
  | recordAudit
  deriving Repr, DecidableEq

inductive TransactionKind where
  | completeUpload (run : CompleteRun)
  | cancelInProgressUpload (userId : Nat)
  | expireInProgressUpload
  | releaseUploadLease (expectedLeaseOwner : String) (expectedStateVersion : Nat)
  deriving Repr, DecidableEq

def TransactionKind.statements : TransactionKind → List Statement
  | .completeUpload _ =>
      [.renewFinalizeLease, .acquireReference, .resolveOwnedFolderLocation, .insertFileRecord,
        .applyItemCountDelta, .commitReservedToUsed, .markCompletedIfLeaseOwned,
        .enqueueStagingCleanupJob, .deleteChunks]
  | .cancelInProgressUpload _ =>
      [.markCancelledIfInProgress, .releaseReservedStorageChecked, .enqueueStagingCleanupJob,
        .deleteChunks]
  | .expireInProgressUpload =>
      [.markExpiredIfInProgress, .releaseReservedStorageChecked, .enqueueStagingCleanupJob,
        .deleteChunks]
  | .releaseUploadLease _ _ => [.releaseUploadLease, .recordAudit]

structure CreatedFile where
  id : Nat
  userId : Nat
  folderId : Nat
  name : String
  size : Nat
  deriving Repr, DecidableEq

/-- An open transaction holds its own version of each row that it has written. -/
structure Transaction where
  kind : TransactionKind
  startedAt : Timestamp
  remaining : List Statement
  row : Option UploadTask
  stateVersion : Nat
  created : List CreatedFile
  chunksDeleted : Bool
  deriving Repr, DecidableEq

def Transaction.start (kind : TransactionKind) (now : Timestamp) : Transaction where
  kind := kind
  startedAt := now
  remaining := kind.statements
  row := none
  stateVersion := 0
  created := []
  chunksDeleted := false

/-- `files` keeps every files row ever committed for the task, and `deletedFiles` the ids of those that have
been deleted since. -/
structure State where
  now : Timestamp
  task : UploadTask
  chunks : List UploadTaskChunk
  files : List CreatedFile
  deletedFiles : List Nat
  nextFileId : Nat
  runs : Nat → Option CompleteRun
  transactions : Nat → Option Transaction
  lockedBy : Option Nat

/-- An autocommitted statement reads `NOW()` when it starts and may wait for the row after that. -/
inductive Action where
  | tick (elapsed : Nat)
  | recordChunk (startedAt : Timestamp) (userId chunkIndex sizeBytes : Nat)
      (hashMd5 objectKey etag : String)
  | claimFinalizeLease (slot : Nat) (startedAt : Timestamp) (userId : Nat) (leaseOwner : String)
      (leaseDurationSeconds : UInt32)
  | renewFinalizeLease (slot : Nat) (startedAt : Timestamp)
  | recordFinalizeError (startedAt : Timestamp) (userId : Nat) (leaseOwner : String)
      (expectedStateVersion : Nat) (errorCode : Int)
  | abandonRun (slot : Nat)
  | beginComplete (run slot : Nat)
  | beginCancel (slot userId : Nat)
  | beginExpire (slot : Nat)
  | beginRelease (slot : Nat) (expectedLeaseOwner : String) (expectedStateVersion : Nat)
  | execute (slot : Nat) (succeeds : Bool)
  | rollback (slot : Nat)
  | commit (slot : Nat)
  | deleteFile (fileId : Nat)
  deriving Repr, DecidableEq

/-- An autocommitted update writes the row only while no transaction has it locked. -/
def State.writeRow (state : State) (task : UploadTask) : Option State :=
  if state.lockedBy = none then some { state with task := task } else none

def State.begin (state : State) (slot : Nat) (kind : TransactionKind) : Option State :=
  if state.transactions slot = none then
    some { state with
      transactions :=
        Function.update state.transactions slot (some (Transaction.start kind state.now)) }
  else
    none

def State.close (state : State) (slot : Nat) : State :=
  { state with
    transactions := Function.update state.transactions slot none
    lockedBy := if state.lockedBy = some slot then none else state.lockedBy }

def State.put (state : State) (slot : Nat) (transaction : Transaction) : State :=
  { state with transactions := Function.update state.transactions slot (some transaction) }

/-- An update inside a transaction waits for the row and keeps its lock until the end. -/
def State.lockRow (state : State) (slot : Nat) (transaction : Transaction) : Option State :=
  if state.lockedBy = none ∨ state.lockedBy = some slot then
    some { state.put slot transaction with lockedBy := some slot }
  else
    none

/-- A statement on another table only succeeds or fails here, and a failure rolls back. -/
def State.advance (state : State) (slot : Nat) (succeeds : Bool) (transaction : Transaction) :
    Option State :=
  if succeeds then some (state.put slot transaction) else some (state.close slot)

def State.executeStatement (state : State) (slot : Nat) (transaction : Transaction)
    (statement : Statement) (rest : List Statement) (succeeds : Bool) : Option State :=
  let row := transaction.row.getD state.task
  let next := { transaction with remaining := rest }
  match statement, transaction.kind with
  | .renewFinalizeLease, .completeUpload run =>
      match Upload.renewFinalizeLease transaction.startedAt run.userId run.leaseOwner run.stateVersion
          run.leaseDurationSeconds row with
      | none => some (state.close slot)
      | some renewed =>
          state.lockRow slot { next with row := some renewed, stateVersion := renewed.stateVersion }
  | .insertFileRecord, .completeUpload run =>
      let file : CreatedFile := ⟨state.nextFileId, run.userId, row.folderId, row.filename, row.fileSize⟩
      ({ state with nextFileId := state.nextFileId + 1 } : State).advance slot succeeds
        { next with created := transaction.created ++ [file] }
  | .markCompletedIfLeaseOwned, .completeUpload run =>
      match transaction.created.getLast? with
      | none => some (state.close slot)
      | some file =>
          match Upload.markCompletedIfLeaseOwned transaction.startedAt run.userId run.leaseOwner
              transaction.stateVersion file.id row with
          | none => some (state.close slot)
          | some completed => state.lockRow slot { next with row := some completed }
  | .markCancelledIfInProgress, .cancelInProgressUpload userId =>
      match Upload.markCancelledIfInProgress transaction.startedAt userId "用户取消" row with
      -- The source returns success here, and the transaction commits without a change.
      | none => some (state.put slot { next with remaining := [] })
      | some cancelled => state.lockRow slot { next with row := some cancelled }
  | .markExpiredIfInProgress, .expireInProgressUpload =>
      match Upload.markExpiredIfInProgress transaction.startedAt "任务过期" row with
      | none => some (state.put slot { next with remaining := [] })
      | some expired => state.lockRow slot { next with row := some expired }
  | .releaseUploadLease, .releaseUploadLease expectedLeaseOwner expectedStateVersion =>
      match Upload.releaseUploadLease transaction.startedAt expectedLeaseOwner expectedStateVersion
          row with
      | none => some (state.close slot)
      | some released => state.lockRow slot { next with row := some released }
  | .deleteChunks, _ => state.advance slot succeeds { next with chunksDeleted := true }
  | _, _ => state.advance slot succeeds next

def State.execute (state : State) (slot : Nat) (succeeds : Bool) : Option State :=
  match state.transactions slot with
  | none => none
  | some transaction =>
      match transaction.remaining with
      | [] => none
      | statement :: rest => state.executeStatement slot transaction statement rest succeeds

/-- A commit publishes the transaction's rows, and only after its last statement. -/
def State.commit (state : State) (slot : Nat) : Option State :=
  match state.transactions slot with
  | none => none
  | some transaction =>
      if transaction.remaining = [] then
        some { state.close slot with
          task := transaction.row.getD state.task
          files := state.files ++ transaction.created
          chunks := if transaction.chunksDeleted then [] else state.chunks }
      else
        none

def State.claim (state : State) (slot : Nat) (startedAt : Timestamp) (userId : Nat)
    (leaseOwner : String) (seconds : UInt32) : Option State :=
  if startedAt ≤ state.now ∧ validLeaseArguments leaseOwner seconds ∧ state.runs slot = none then
    match Upload.claimFinalizeLease startedAt userId leaseOwner seconds state.chunks state.task with
    | none => some state
    | some claimed =>
        (state.writeRow claimed).map fun written =>
          { written with
            runs := Function.update written.runs slot
              (some ⟨userId, leaseOwner, seconds, claimed.stateVersion⟩) }
  else
    none

/-- A failed renewal ends the run. -/
def State.renew (state : State) (slot : Nat) (startedAt : Timestamp) : Option State :=
  match state.runs slot with
  | none => none
  | some run =>
      if startedAt ≤ state.now then
        match Upload.renewFinalizeLease startedAt run.userId run.leaseOwner run.stateVersion
            run.leaseDurationSeconds state.task with
        | none => some { state with runs := Function.update state.runs slot none }
        | some renewed =>
            (state.writeRow renewed).map fun written =>
              { written with
                runs := Function.update written.runs slot
                  (some { run with stateVersion := renewed.stateVersion }) }
      else
        none

def State.recordChunk (state : State) (startedAt : Timestamp) (userId chunkIndex sizeBytes : Nat)
    (hashMd5 objectKey etag : String) : Option State :=
  let recorded := recordChunkIfInProgress startedAt userId chunkIndex sizeBytes hashMd5 objectKey etag
    state.task state.chunks
  if startedAt ≤ state.now then
    -- An eligible task is read `FOR UPDATE`, so the statement waits for the row.
    if recorded.1 = .taskRejected then some state
    else if state.lockedBy = none then some { state with chunks := recorded.2 }
    else none
  else
    none

def State.recordError (state : State) (startedAt : Timestamp) (userId : Nat) (leaseOwner : String)
    (expectedStateVersion : Nat) (errorCode : Int) : Option State :=
  if startedAt ≤ state.now then
    match recordFinalizeErrorIfLeaseOwned startedAt userId leaseOwner expectedStateVersion errorCode
        state.task with
    | none => some state
    | some recorded => state.writeRow recorded
  else
    none

/-- A files row leaves its table, and the foreign key empties the `completed_file_id` that refers to it. -/
def State.deleteFile (state : State) (fileId : Nat) : Option State :=
  if state.files.any fun file => file.id = fileId then
    (state.writeRow
      { state.task with
        completedFileId :=
          if state.task.completedFileId = some fileId then none else state.task.completedFileId }).map
      fun written => { written with deletedFiles := fileId :: state.deletedFiles }
  else
    none

def State.beginComplete (state : State) (run slot : Nat) : Option State :=
  match state.runs run with
  | none => none
  | some held =>
      ({ state with runs := Function.update state.runs run none } : State).begin slot
        (.completeUpload held)

def step (state : State) : Action → Option State
  | .tick elapsed => some { state with now := state.now + elapsed }
  | .recordChunk startedAt userId chunkIndex sizeBytes hashMd5 objectKey etag =>
      state.recordChunk startedAt userId chunkIndex sizeBytes hashMd5 objectKey etag
  | .claimFinalizeLease slot startedAt userId leaseOwner seconds =>
      state.claim slot startedAt userId leaseOwner seconds
  | .renewFinalizeLease slot startedAt => state.renew slot startedAt
  | .recordFinalizeError startedAt userId leaseOwner expectedStateVersion errorCode =>
      state.recordError startedAt userId leaseOwner expectedStateVersion errorCode
  | .abandonRun slot => some { state with runs := Function.update state.runs slot none }
  | .beginComplete run slot => state.beginComplete run slot
  | .beginCancel slot userId => state.begin slot (.cancelInProgressUpload userId)
  | .beginExpire slot => state.begin slot .expireInProgressUpload
  | .beginRelease slot expectedLeaseOwner expectedStateVersion =>
      state.begin slot (.releaseUploadLease expectedLeaseOwner expectedStateVersion)
  | .execute slot succeeds => state.execute slot succeeds
  | .rollback slot => if (state.transactions slot).isSome then some (state.close slot) else none
  | .commit slot => state.commit slot
  | .deleteFile fileId => state.deleteFile fileId

/-- A run starts from the row that `Create` inserted, before any statement on it. -/
def initial (state : State) : Prop :=
  (∃ now task, state.task = create now task) ∧ state.chunks = [] ∧ state.files = [] ∧
    (∀ slot, state.runs slot = none) ∧ (∀ slot, state.transactions slot = none) ∧
    state.lockedBy = none ∧ state.deletedFiles = []

def system : TransitionSystem State Action := ⟨initial, step⟩

def State.Holds (state : State) (run : CompleteRun) : Prop :=
  (∃ slot, state.runs slot = some run) ∨
    ∃ slot transaction, state.transactions slot = some transaction ∧
      transaction.kind = .completeUpload run

def State.findCompletedFile (state : State) (userId fileId : Nat) : Option CreatedFile :=
  state.files.find? fun file =>
    file.id = fileId && file.userId = userId && !state.deletedFiles.contains fileId

def completedResultUnavailable : ErrorInfo := ⟨.internalError, "Completed upload result is unavailable"⟩

/-- What `CompleteUpload` answers to a claim that finds the task completed. -/
def replayCompleted (claim : FinalizeClaimResult) (findCompletedFile : Nat → Option CreatedFile) :
    Except ErrorInfo CreatedFile :=
  match claim.completedFileId with
  | none => .error completedResultUnavailable
  | some fileId =>
      match findCompletedFile fileId with
      | none => .error completedResultUnavailable
      | some file => .ok file

end DiskServer.Upload.Finalization
