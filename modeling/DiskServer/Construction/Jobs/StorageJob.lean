import DiskServer.Construction.Json
import DiskServer.Construction.Upload.TaskRepository

/-
This file gives the durable storage jobs and the row updates of their repository.
-/

namespace DiskServer.Jobs

open Upload (Timestamp leaseEnd)

inductive StorageJobStatus where
  | pending
  | running
  | retry
  | succeeded
  | deadLetter
  deriving Repr, DecidableEq

structure StorageJob where
  id : Nat
  jobType : String
  aggregateId : String
  dedupeKey : String
  payload : Json
  status : StorageJobStatus
  attempts : Nat
  maxAttempts : Nat
  availableAt : Timestamp
  lockedBy : Option String
  lockedUntil : Option Timestamp
  lastError : Option String

structure NewStorageJob where
  jobType : String
  aggregateId : String
  dedupeKey : String
  payload : Json
  maxAttempts : Nat

def blobGcJobType : String := "blob_gc"

def stagingCleanupJobType : String := "staging_cleanup"

def blobGcDedupeKey (contentId : Nat) : String := "blob-gc:" ++ toString contentId

def blobGcJob (contentId : Nat) (storagePath : String) : NewStorageJob where
  jobType := blobGcJobType
  aggregateId := toString contentId
  dedupeKey := blobGcDedupeKey contentId
  payload := .object [("content_id", .number contentId), ("storage_path", .string storagePath)]
  maxAttempts := 8

def stagingCleanupJob (task : Upload.UploadTask) : NewStorageJob where
  jobType := stagingCleanupJobType
  aggregateId := task.id
  dedupeKey := "staging-cleanup:" ++ task.id
  payload := .object [("upload_id", .string task.id),
    ("backend", .string (match task.stagingBackend with | .localDisk => "local" | .s3 => "s3")),
    ("prefix", .string task.stagingPrefix)]
  maxAttempts := 8

def NewStorageJob.row (job : NewStorageJob) (now : Timestamp) (id : Nat) : StorageJob where
  id := id
  jobType := job.jobType
  aggregateId := job.aggregateId
  dedupeKey := job.dedupeKey
  payload := job.payload
  status := .pending
  attempts := 0
  maxAttempts := job.maxAttempts
  availableAt := now
  lockedBy := none
  lockedUntil := none
  lastError := none

def rearmSucceeded (now : Timestamp) (job : NewStorageJob) (stored : StorageJob) : Option StorageJob :=
  if stored.status = .succeeded ∧ stored.jobType = job.jobType ∧
      stored.aggregateId = job.aggregateId then
    some { stored with
      payload := job.payload
      status := .pending
      attempts := 0
      maxAttempts := job.maxAttempts
      availableAt := now
      lockedBy := none
      lockedUntil := none
      lastError := none }
  else
    none

inductive BlobGcReferenceGate where
  | allowed
  | blocked
  deriving Repr, DecidableEq

/-- A gate without a reading means that the key belongs to another kind of job. -/
def checkBlobGcReferenceGate (contentId : Nat) : Option StorageJob → Option BlobGcReferenceGate
  | none => some .allowed
  | some job =>
      if job.jobType = blobGcJobType ∧ job.aggregateId = toString contentId then
        some (if job.status = .succeeded then .allowed else .blocked)
      else
        none

def buryExhausted (now : Timestamp) (job : StorageJob) : Option StorageJob :=
  if job.maxAttempts ≤ job.attempts ∧
      (job.status = .pending ∨ job.status = .retry ∨
        (job.status = .running ∧ job.lockedUntil.any (· ≤ now))) then
    some { job with
      status := .deadLetter
      lockedBy := none
      lockedUntil := none
      lastError := job.lastError <|> some "Worker lease expired after final attempt" }
  else
    none

def claimReady (now : Timestamp) (instanceId : String) (seconds : UInt32) (job : StorageJob) :
    Option StorageJob :=
  if job.attempts < job.maxAttempts ∧
      (((job.status = .pending ∨ job.status = .retry) ∧ job.availableAt ≤ now) ∨
        (job.status = .running ∧ job.lockedUntil.any (· ≤ now))) then
    some { job with
      status := .running
      attempts := job.attempts + 1
      lockedBy := some instanceId
      lockedUntil := some (leaseEnd now seconds) }
  else
    none

def renewLease (now : Timestamp) (instanceId : String) (seconds : UInt32) (job : StorageJob) :
    Option StorageJob :=
  if job.status = .running ∧ job.lockedBy = some instanceId ∧ job.lockedUntil.any (now < ·) then
    some { job with lockedUntil := some (leaseEnd now seconds) }
  else
    none

def markSucceeded (instanceId : String) (job : StorageJob) : Option StorageJob :=
  if job.status = .running ∧ job.lockedBy = some instanceId then
    some { job with status := .succeeded, lockedBy := none, lockedUntil := none, lastError := none }
  else
    none

def markFailed (now : Timestamp) (instanceId boundedError : String) (retryable : Bool)
    (retryDelaySeconds : UInt32) (job : StorageJob) : Option StorageJob :=
  if job.status = .running ∧ job.lockedBy = some instanceId then
    let again := retryable ∧ job.attempts < job.maxAttempts
    some { job with
      status := if again then .retry else .deadLetter
      availableAt := if again then leaseEnd now retryDelaySeconds else job.availableAt
      lockedBy := none
      lockedUntil := none
      lastError := some boundedError }
  else
    none

def replay (now : Timestamp) (job : StorageJob) : Option StorageJob :=
  if job.status = .deadLetter then
    some { job with
      status := .pending
      attempts := 0
      availableAt := now
      lockedBy := none
      lockedUntil := none
      lastError := none }
  else
    none

end DiskServer.Jobs
