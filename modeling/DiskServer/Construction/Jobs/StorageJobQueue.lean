import DiskServer.Construction.Jobs.StorageJobRepository
import DiskServer.Library.Transition

/-
This file gives the job queue as a transition system of worker instances, producers, administrators
and multipart uploads that fire one statement at a time.
-/

namespace DiskServer.Jobs

open Library
open Upload (Timestamp)

/-- One row that an instance has claimed, numbered among all claims of the row. -/
structure Claim where
  jobId : Nat
  generation : Nat
  deriving Repr, DecidableEq

inductive WorkerPhase where
  | idle
  | claiming (limit : Nat) (seconds : UInt32)
  | working (batch : List Claim)
  deriving Repr, DecidableEq

def WorkerPhase.outstanding : WorkerPhase → List Claim
  | .working batch => batch
  | _ => []

/-- The last two fields only record history: who claimed each job, the latest first, and how many
claims the job had when it was last armed. -/
structure Queue where
  table : JobTable
  workers : String → WorkerPhase
  claimedBy : Nat → List String
  armedAfter : Nat → Nat

inductive QueueAction where
  | enqueue (now : Timestamp) (job : NewStorageJob)
  | enqueueOrRearmSucceeded (now : Timestamp) (job : NewStorageJob)
  | beginClaim (instanceId : String) (now : Timestamp) (limit : Nat) (seconds : UInt32)
      (missed : List Nat)
  | claim (instanceId : String) (now : Timestamp) (skipped : List Nat)
  | renewLease (instanceId : String) (now : Timestamp) (jobId : Nat) (seconds : UInt32)
  | markSucceeded (instanceId : String)
  | markFailed (instanceId : String) (now : Timestamp) (error : String) (retryable : Bool)
      (retryDelaySeconds : UInt32)
  | abandon (instanceId : String)
  | finishBatch (instanceId : String)
  | crash (instanceId : String)
  | replay (now : Timestamp) (jobId : Nat)
  | track (instanceId : String) (now : Timestamp) (seconds : UInt32)
      (descriptor : MultipartUploadDescriptor)
  | renew (instanceId : String) (now : Timestamp) (seconds : UInt32)
      (descriptor : MultipartUploadDescriptor)
  | resolve (instanceId : String) (descriptor : MultipartUploadDescriptor)
  | releaseForRetry (instanceId : String) (now : Timestamp) (descriptor : MultipartUploadDescriptor)
      (error : String)

namespace Queue

def empty : Queue where
  table := JobTable.empty
  workers := fun _ => .idle
  claimedBy := fun _ => []
  armedAfter := fun _ => 0

def setPhase (queue : Queue) (instanceId : String) (phase : WorkerPhase) : Queue :=
  { queue with workers := Function.update queue.workers instanceId phase }

def write (queue : Queue) : Except String JobTable → Option Queue
  | .ok table => some { queue with table := table }
  | .error _ => none

/-- The jobs that the test selects are armed: their later claims count from here. -/
def arm (queue : Queue) (armed : Nat → Bool) : Queue :=
  { queue with
    armedAfter := fun id => if armed id then (queue.claimedBy id).length else queue.armedAfter id }

def mark (queue : Queue) (instanceId : String)
    (statement : Nat → Except String (Bool × JobTable)) : Option Queue :=
  match queue.workers instanceId with
  | .working (claim :: rest) =>
      (queue.write ((statement claim.jobId).map Prod.snd)).map fun written =>
        written.setPhase instanceId (.working rest)
  | _ => none

def claim (queue : Queue) (instanceId : String) (now : Timestamp) (limit : Nat) (seconds : UInt32)
    (skipped : List Nat) : Queue :=
  let (candidates, table) := queue.table.claim now instanceId limit seconds skipped
  { table := table
    workers := Function.update queue.workers instanceId (.working (candidates.map fun job =>
      ⟨job.id, (queue.claimedBy job.id).length + 1⟩))
    claimedBy := fun id =>
      if candidates.any fun job => job.id = id then
        instanceId :: queue.claimedBy id
      else
        queue.claimedBy id
    armedAfter := queue.armedAfter }

variable (sha256 : String → String)

def step (queue : Queue) : QueueAction → Option Queue
  | .enqueue now job => queue.write ((queue.table.enqueue now job).map Prod.snd)
  | .enqueueOrRearmSucceeded now job =>
      match queue.table.enqueueOrRearmSucceeded now job with
      | .error _ => none
      | .ok (armed, table) =>
          some ({ queue with table := table }.arm fun id =>
            armed && queue.table.rows.any fun row => row.id = id && row.dedupeKey = job.dedupeKey)
  | .beginClaim instanceId now limit seconds missed =>
      match queue.workers instanceId, validateLeaseArguments instanceId seconds with
      | .idle, .ok () =>
          if limit = 0 then
            none
          else
            some ({ queue with table := queue.table.buryExhausted now missed }.setPhase instanceId
              (.claiming limit seconds))
      | _, _ => none
  | .claim instanceId now skipped =>
      match queue.workers instanceId with
      | .claiming limit seconds => some (queue.claim instanceId now limit seconds skipped)
      | _ => none
  | .renewLease instanceId now jobId seconds =>
      queue.write ((queue.table.renewLease now jobId instanceId seconds).map Prod.snd)
  | .markSucceeded instanceId =>
      queue.mark instanceId fun jobId => queue.table.markSucceeded jobId instanceId
  | .markFailed instanceId now error retryable retryDelaySeconds =>
      queue.mark instanceId fun jobId =>
        queue.table.markFailed now jobId instanceId error retryable retryDelaySeconds
  | .abandon instanceId =>
      match queue.workers instanceId with
      | .working (_ :: rest) => some (queue.setPhase instanceId (.working rest))
      | _ => none
  | .finishBatch instanceId =>
      if queue.workers instanceId = .working [] then some (queue.setPhase instanceId .idle) else none
  | .crash instanceId => some (queue.setPhase instanceId .idle)
  | .replay now jobId =>
      (queue.write (queue.table.replay now jobId)).map fun written => written.arm fun id => id = jobId
  | .track instanceId now seconds descriptor =>
      queue.write (queue.table.track sha256 instanceId descriptor now seconds)
  | .renew instanceId now seconds descriptor =>
      queue.write (queue.table.renew sha256 instanceId descriptor now seconds)
  | .resolve instanceId descriptor => queue.write (queue.table.resolve sha256 instanceId descriptor)
  | .releaseForRetry instanceId now descriptor error =>
      queue.write (queue.table.releaseForRetry sha256 instanceId descriptor now error)

end Queue

def queueSystem (sha256 : String → String) : TransitionSystem Queue QueueAction where
  initial queue := queue = Queue.empty
  step := Queue.step sha256

end DiskServer.Jobs
