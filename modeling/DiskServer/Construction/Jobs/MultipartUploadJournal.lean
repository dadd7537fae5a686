import DiskServer.Construction.Jobs.StorageJob

/-
This file gives the journal that lets a worker abort a multipart upload which its request left open.
-/

namespace DiskServer.Jobs

open Upload (Timestamp leaseEnd)

structure MultipartUploadDescriptor where
  key : String
  uploadId : String
  deriving Repr, DecidableEq

def multipartAbortJobType : String := "multipart_abort"

def multipartAbortMaxAttempts : Nat := 8

def maxObjectKeyLength : Nat := 1024

def maxUploadIdLength : Nat := 4096

def maxErrorLength : Nat := 2048

def ownerInstancePrefixLength : Nat := 59

def substr (text : String) (length : Nat) : String := String.ofList (text.toList.take length)

def validateDescriptor (descriptor : MultipartUploadDescriptor) : Bool :=
  descriptor.key ≠ "" && descriptor.key.utf8ByteSize ≤ maxObjectKeyLength &&
    descriptor.uploadId ≠ "" && descriptor.uploadId.utf8ByteSize ≤ maxUploadIdLength

section Journal

variable (sha256 : String → String)

def buildMultipartUploadRecoveryId (descriptor : MultipartUploadDescriptor) : String :=
  sha256 (descriptor.key ++ "\n" ++ descriptor.uploadId)

def buildMultipartUploadRecoveryDedupeKey (descriptor : MultipartUploadDescriptor) : String :=
  "multipart-abort:" ++ buildMultipartUploadRecoveryId sha256 descriptor

def ownerFor (instanceId : String) (descriptor : MultipartUploadDescriptor) : String :=
  substr instanceId ownerInstancePrefixLength ++ ":mp:" ++
    buildMultipartUploadRecoveryId sha256 descriptor

def multipartPayload (descriptor : MultipartUploadDescriptor) : Json :=
  .object [("backend", .string "s3"), ("key", .string descriptor.key),
    ("upload_id", .string descriptor.uploadId)]

def trackedJob (now : Timestamp) (instanceId : String) (seconds : UInt32)
    (descriptor : MultipartUploadDescriptor) (id : Nat) : StorageJob where
  id := id
  jobType := multipartAbortJobType
  aggregateId := buildMultipartUploadRecoveryId sha256 descriptor
  dedupeKey := buildMultipartUploadRecoveryDedupeKey sha256 descriptor
  payload := multipartPayload descriptor
  status := .running
  attempts := 0
  maxAttempts := multipartAbortMaxAttempts
  availableAt := now
  lockedBy := some (ownerFor sha256 instanceId descriptor)
  lockedUntil := some (leaseEnd now seconds)
  lastError := none

def journalOwns (instanceId : String) (descriptor : MultipartUploadDescriptor) (job : StorageJob) : Bool :=
  job.jobType = multipartAbortJobType &&
    job.aggregateId = buildMultipartUploadRecoveryId sha256 descriptor &&
    job.dedupeKey = buildMultipartUploadRecoveryDedupeKey sha256 descriptor &&
    job.status = .running && job.lockedBy = some (ownerFor sha256 instanceId descriptor)

def journalRenew (now : Timestamp) (instanceId : String) (seconds : UInt32)
    (descriptor : MultipartUploadDescriptor) (job : StorageJob) : Option StorageJob :=
  if journalOwns sha256 instanceId descriptor job ∧ job.lockedUntil.any (now < ·) then
    some { job with lockedUntil := some (leaseEnd now seconds) }
  else
    none

def journalResolve (instanceId : String) (descriptor : MultipartUploadDescriptor) (job : StorageJob) :
    Option StorageJob :=
  if journalOwns sha256 instanceId descriptor job then
    some { job with status := .succeeded, lockedBy := none, lockedUntil := none, lastError := none }
  else
    none

def journalReleaseForRetry (now : Timestamp) (instanceId : String)
    (descriptor : MultipartUploadDescriptor) (error : String) (job : StorageJob) : Option StorageJob :=
  if journalOwns sha256 instanceId descriptor job then
    some { job with
      status := .retry
      availableAt := now
      lockedBy := none
      lockedUntil := none
      lastError := some (substr error maxErrorLength) }
  else
    none

end Journal

end DiskServer.Jobs
