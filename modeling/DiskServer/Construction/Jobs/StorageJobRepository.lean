import DiskServer.Construction.Jobs.MultipartUploadJournal
import Mathlib.Data.List.Sort

/-
This file gives the statements of the storage job repository on the whole job table.
-/

namespace DiskServer.Jobs

open Upload (Timestamp leaseEnd)

def maxJobTypeLength : Nat := 64

def maxAggregateIdLength : Nat := 128

def maxDedupeKeyLength : Nat := 255

def maxInstanceIdLength : Nat := 128

def maxClaimBatchSize : Nat := 1000

def validateBoundedValue (value : String) (maximumLength : Nat) (fieldName : String) :
    Except String Unit :=
  if value = "" ∨ maximumLength < value.utf8ByteSize then
    .error (fieldName ++ " must contain 1 to " ++ toString maximumLength ++ " characters")
  else
    .ok ()

def validateNewJob (job : NewStorageJob) : Except String Unit := do
  validateBoundedValue job.jobType maxJobTypeLength "Storage job type"
  validateBoundedValue job.aggregateId maxAggregateIdLength "Storage job aggregate ID"
  validateBoundedValue job.dedupeKey maxDedupeKeyLength "Storage job dedupe key"
  if job.maxAttempts = 0 then
    .error "Storage job max attempts must be positive"
  else
    .ok ()

def validateLeaseArguments (instanceId : String) (leaseDurationSeconds : UInt32) : Except String Unit := do
  validateBoundedValue instanceId maxInstanceIdLength "Storage job instance ID"
  if leaseDurationSeconds = 0 then
    .error "Storage job lease duration must be positive"
  else
    .ok ()

def checkAttempts (maxAttempts : Nat) : Except String Unit :=
  if 2147483648 ≤ maxAttempts then .error "ck_storage_jobs_attempts" else .ok ()

structure JobTable where
  rows : List StorageJob
  next : Nat

def atId (jobId : Nat) (change : StorageJob → Option StorageJob) (job : StorageJob) : Option StorageJob :=
  if job.id = jobId then change job else none

namespace JobTable

variable (table : JobTable)

def empty : JobTable := ⟨[], 1⟩

def find? (dedupeKey : String) : Option StorageJob :=
  table.rows.find? fun job => job.dedupeKey = dedupeKey

def insert (build : Nat → StorageJob) : JobTable := ⟨table.rows ++ [build table.next], table.next + 1⟩

def update (change : StorageJob → Option StorageJob) : JobTable :=
  { table with rows := table.rows.map fun job => (change job).getD job }

def affects (change : StorageJob → Option StorageJob) : Bool :=
  table.rows.any fun job => (change job).isSome

def enqueue (now : Timestamp) (job : NewStorageJob) : Except String (Bool × JobTable) := do
  validateNewJob job
  checkAttempts job.maxAttempts
  match table.find? job.dedupeKey with
  | some _ => .ok (false, table)
  | none => .ok (true, table.insert (job.row now))

def enqueueOrRearmSucceeded (now : Timestamp) (job : NewStorageJob) : Except String (Bool × JobTable) := do
  validateNewJob job
  checkAttempts job.maxAttempts
  match table.find? job.dedupeKey with
  | none => .ok (true, table.insert (job.row now))
  | some stored =>
      if (rearmSucceeded now job stored).isSome then
        .ok (true, table.update fun row =>
          if row.dedupeKey = job.dedupeKey then rearmSucceeded now job row else none)
      else if stored.jobType ≠ job.jobType ∨ stored.aggregateId ≠ job.aggregateId then
        .error "Storage job dedupe key is owned by another aggregate"
      else
        .ok (false, table)

/-- The first statement of `ClaimReadyBatch`. It misses a row that another transaction changes
between the statement's snapshot and its update of the row. -/
def buryExhausted (now : Timestamp) (missed : List Nat) : JobTable :=
  table.update fun job => if missed.contains job.id then none else Jobs.buryExhausted now job

def claimBefore (first second : StorageJob) : Prop :=
  let key (job : StorageJob) := job.lockedUntil.getD job.availableAt
  key first < key second ∨ (key first = key second ∧ first.id ≤ second.id)

instance : DecidableRel claimBefore := fun _ _ => inferInstanceAs (Decidable (_ ∨ _))

def claimCandidates (now : Timestamp) (instanceId : String) (limit : Nat) (seconds : UInt32)
    (skipped : List Nat) : List StorageJob :=
  ((table.rows.filter fun job =>
      (claimReady now instanceId seconds job).isSome && !skipped.contains job.id).insertionSort
    claimBefore).take (min limit maxClaimBatchSize)

def claim (now : Timestamp) (instanceId : String) (limit : Nat) (seconds : UInt32)
    (skipped : List Nat) : List StorageJob × JobTable :=
  let candidates := table.claimCandidates now instanceId limit seconds skipped
  (candidates, table.update fun job =>
    if candidates.any fun candidate => candidate.id = job.id then
      claimReady now instanceId seconds job
    else
      none)

def writeOne (change : StorageJob → Option StorageJob) : Bool × JobTable :=
  (table.affects change, table.update change)

def renewLease (now : Timestamp) (jobId : Nat) (instanceId : String) (seconds : UInt32) :
    Except String (Bool × JobTable) := do
  validateLeaseArguments instanceId seconds
  .ok (table.writeOne (atId jobId (Jobs.renewLease now instanceId seconds)))

def markSucceeded (jobId : Nat) (instanceId : String) : Except String (Bool × JobTable) := do
  validateBoundedValue instanceId maxInstanceIdLength "Storage job instance ID"
  .ok (table.writeOne (atId jobId (Jobs.markSucceeded instanceId)))

def markFailed (now : Timestamp) (jobId : Nat) (instanceId error : String) (retryable : Bool)
    (retryDelaySeconds : UInt32) : Except String (Bool × JobTable) := do
  validateBoundedValue instanceId maxInstanceIdLength "Storage job instance ID"
  .ok (table.writeOne (atId jobId
    (Jobs.markFailed now instanceId (substr error maxErrorLength) retryable retryDelaySeconds)))

def replay (now : Timestamp) (jobId : Nat) : Except String JobTable :=
  match table.rows.find? fun job => job.id = jobId with
  | none => .error "Storage job not found"
  | some current =>
      if current.status ≠ .deadLetter then
        .error "Storage job is not in dead-letter state"
      else
        .ok (table.update (atId jobId (Jobs.replay now)))

section Journal

variable (sha256 : String → String) (instanceId : String) (descriptor : MultipartUploadDescriptor)

def invalidDescriptor : String := "Invalid multipart upload descriptor"

def ownershipLost : String := "Multipart recovery task ownership was lost"

def track (now : Timestamp) (seconds : UInt32) : Except String JobTable :=
  if !validateDescriptor descriptor then
    .error invalidDescriptor
  else if (table.find? (buildMultipartUploadRecoveryDedupeKey sha256 descriptor)).isSome then
    .error "Multipart recovery task already exists"
  else
    .ok (table.insert (trackedJob sha256 now instanceId seconds descriptor))

def requireOne (change : StorageJob → Option StorageJob) (failure : String) : Except String JobTable :=
  if table.affects change then .ok (table.update change) else .error failure

def renew (now : Timestamp) (seconds : UInt32) : Except String JobTable :=
  if !validateDescriptor descriptor then
    .error invalidDescriptor
  else
    table.requireOne (journalRenew sha256 now instanceId seconds descriptor)
      "Multipart recovery lease ownership was lost"

def resolve : Except String JobTable :=
  let change := journalResolve sha256 instanceId descriptor
  if !validateDescriptor descriptor then
    .error invalidDescriptor
  else if table.affects change then
    .ok (table.update change)
  else if table.rows.any fun job => job.jobType = multipartAbortJobType &&
      job.aggregateId = buildMultipartUploadRecoveryId sha256 descriptor &&
      job.dedupeKey = buildMultipartUploadRecoveryDedupeKey sha256 descriptor &&
      job.status = .succeeded then
    .ok table
  else
    .error ownershipLost

def releaseForRetry (now : Timestamp) (error : String) : Except String JobTable :=
  if !validateDescriptor descriptor then
    .error invalidDescriptor
  else
    table.requireOne (journalReleaseForRetry sha256 now instanceId descriptor error) ownershipLost

end Journal

end JobTable

end DiskServer.Jobs
