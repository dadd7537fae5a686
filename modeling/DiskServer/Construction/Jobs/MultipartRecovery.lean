import DiskServer.Construction.Jobs.MultipartUploadJournal
import DiskServer.Library.Transition

/-
This file gives one multipart upload as a transition system of the request that assembles it, the
object store, the journal's job and the workers that abort it.
-/

namespace DiskServer.Jobs

open Library
open Upload (Timestamp)

/-- The names of the workers are configured before the upload gets the id that its owner contains. -/
structure MultipartSetup where
  sha256 : String → String
  instanceId : String
  descriptor : MultipartUploadDescriptor
  leaseSeconds : UInt32
  workers : List String
  distinct : ownerFor sha256 instanceId descriptor ∉ workers

inductive StoredUpload where
  | opened
  | completed
  | aborted
  deriving Repr, DecidableEq

inductive ForegroundPhase where
  | created
  | streaming (parts : Nat)
  | renewedPart (parts : Nat)
  | uploadingPart (parts : Nat)
  | renewedComplete
  | completing
  | released
  | unwinding (tracked : Bool)
  | aborting (tracked : Bool)
  | abortAccepted (tracked : Bool)
  | abortFailed (tracked : Bool)
  | ended
  deriving Repr, DecidableEq

def ForegroundPhase.renewed : ForegroundPhase → Bool
  | .renewedPart _ => true
  | .renewedComplete => true
  | _ => false

inductive AbortPhase where
  | idle
  | claimed
  | aborting
  | succeeded
  | failed (retryable : Bool)
  deriving Repr, DecidableEq

/-- A request to the store stays in flight and may be accepted after its answer is lost. The last
two fields only record history: the phase of the request when a worker first claimed the job, and
how many calls for a part or for completion it has started since. -/
structure MultipartState where
  store : StoredUpload
  completeSent : Bool
  abortSent : Bool
  job : Option StorageJob
  foreground : ForegroundPhase
  workers : String → AbortPhase
  takenOver : Option ForegroundPhase
  callsSince : Nat

inductive MultipartAction where
  | track (now : Timestamp) (answered : Bool)
  | failRead
  | renewPart (now : Timestamp) (answered : Bool)
  | startPart
  | finishPart (uploaded : Bool)
  | renewComplete (now : Timestamp) (answered : Bool)
  | startComplete
  | completeAnswered (accepted : Bool)
  | startAbort
  | abortAnswered (accepted : Bool)
  | resolve (executed : Bool)
  | releaseForRetry (now : Timestamp) (error : String) (executed : Bool)
  | crash
  | storeAcceptsComplete
  | storeAcceptsAbort
  | bury (now : Timestamp)
  | claim (instanceId : String) (now : Timestamp) (seconds : UInt32)
  | heartbeat (instanceId : String) (now : Timestamp) (seconds : UInt32)
  | workerAbort (instanceId : String)
  | workerAnswered (instanceId : String) (accepted retryable : Bool)
  | workerSucceeds (instanceId : String)
  | workerFails (instanceId : String) (now : Timestamp) (retryDelaySeconds : UInt32)
  | workerLeaves (instanceId : String)
  | replay (now : Timestamp)
  deriving Repr, DecidableEq

def maxMultipartParts : Nat := 10000

namespace MultipartState

def start : MultipartState where
  store := .opened
  completeSent := false
  abortSent := false
  job := none
  foreground := .created
  workers := fun _ => .idle
  takenOver := none
  callsSince := 0

def accepts (state : MultipartState) (change : StorageJob → Option StorageJob) : Bool :=
  state.job.any fun job => (change job).isSome

def writeJob (state : MultipartState) (change : StorageJob → Option StorageJob) : MultipartState :=
  { state with job := state.job.map fun job => (change job).getD job }

def enter (state : MultipartState) (phase : ForegroundPhase) : MultipartState :=
  { state with foreground := phase }

def setWorker (state : MultipartState) (instanceId : String) (phase : AbortPhase) : MultipartState :=
  { state with workers := Function.update state.workers instanceId phase }

def countCall (state : MultipartState) : MultipartState :=
  if state.takenOver.isSome then { state with callsSince := state.callsSince + 1 } else state

variable (setup : MultipartSetup)

def renew (state : MultipartState) (now : Timestamp) (answered : Bool) (next : ForegroundPhase) :
    MultipartState :=
  let change := journalRenew setup.sha256 now setup.instanceId setup.leaseSeconds setup.descriptor
  (state.writeJob change).enter
    (if answered && state.accepts change then next else .unwinding true)

def track (state : MultipartState) (now : Timestamp) (answered : Bool) : MultipartState :=
  if validateDescriptor setup.descriptor then
    { state with
      job := some (trackedJob setup.sha256 now setup.instanceId setup.leaseSeconds setup.descriptor 1)
      foreground := if answered then .streaming 0 else .unwinding false }
  else
    state.enter (.unwinding false)

def foregroundStep (state : MultipartState) : MultipartAction → Option MultipartState
  | .track now answered =>
      if state.foreground = .created then some (state.track setup now answered) else none
  | .failRead =>
      match state.foreground with
      | .streaming _ => some (state.enter (.unwinding true))
      | _ => none
  | .renewPart now answered =>
      match state.foreground with
      | .streaming parts =>
          if parts < maxMultipartParts then
            some (state.renew setup now answered (.renewedPart parts))
          else
            none
      | _ => none
  | .startPart =>
      match state.foreground with
      | .renewedPart parts => some (state.countCall.enter (.uploadingPart parts))
      | _ => none
  | .finishPart uploaded =>
      match state.foreground with
      | .uploadingPart parts =>
          some (state.enter (if uploaded then .streaming (parts + 1) else .unwinding true))
      | _ => none
  | .renewComplete now answered =>
      match state.foreground with
      | .streaming parts =>
          if 0 < parts then some (state.renew setup now answered .renewedComplete) else none
      | _ => none
  | .startComplete =>
      if state.foreground = .renewedComplete then
        some { state.countCall with foreground := .completing, completeSent := true }
      else
        none
  | .completeAnswered accepted =>
      if state.foreground = .completing then
        if accepted then
          if state.store = .completed then some (state.enter .released) else none
        else
          some (state.enter (.unwinding true))
      else
        none
  | .startAbort =>
      match state.foreground with
      | .unwinding tracked => some { state with foreground := .aborting tracked, abortSent := true }
      | _ => none
  | .abortAnswered accepted =>
      match state.foreground with
      | .aborting tracked =>
          if accepted then
            if state.store = .opened then none else some (state.enter (.abortAccepted tracked))
          else
            some (state.enter (.abortFailed tracked))
      | _ => none
  | .resolve executed =>
      if state.foreground = .released ∨ state.foreground = .abortAccepted true then
        let change := journalResolve setup.sha256 setup.instanceId setup.descriptor
        some ((if executed then state.writeJob change else state).enter .ended)
      else
        none
  | .releaseForRetry now error executed =>
      if state.foreground = .abortFailed true then
        let change := journalReleaseForRetry setup.sha256 now setup.instanceId setup.descriptor error
        some ((if executed then state.writeJob change else state).enter .ended)
      else
        none
  | .crash => some (state.enter .ended)
  | _ => none

def storeStep (state : MultipartState) : MultipartAction → Option MultipartState
  | .storeAcceptsComplete =>
      if state.completeSent ∧ state.store = .opened then
        some { state with store := .completed }
      else
        none
  | .storeAcceptsAbort =>
      if state.abortSent ∧ state.store = .opened then some { state with store := .aborted } else none
  | _ => none

def workerStep (state : MultipartState) : MultipartAction → Option MultipartState
  | .bury now => some (state.writeJob (buryExhausted now))
  | .claim instanceId now seconds =>
      let change := claimReady now instanceId seconds
      if instanceId ∈ setup.workers ∧ state.workers instanceId = .idle ∧ state.accepts change then
        some { (state.writeJob change).setWorker instanceId .claimed with
          takenOver := state.takenOver <|> some state.foreground }
      else
        none
  | .heartbeat instanceId now seconds =>
      if instanceId ∈ setup.workers then
        some (state.writeJob (renewLease now instanceId seconds))
      else
        none
  | .workerAbort instanceId =>
      if state.workers instanceId = .claimed then
        some { state.setWorker instanceId .aborting with abortSent := true }
      else
        none
  | .workerAnswered instanceId accepted retryable =>
      if state.workers instanceId = .aborting then
        if accepted then
          if state.store = .opened then none else some (state.setWorker instanceId .succeeded)
        else
          some (state.setWorker instanceId (.failed retryable))
      else
        none
  | .workerSucceeds instanceId =>
      if state.workers instanceId = .succeeded then
        some ((state.writeJob (markSucceeded instanceId)).setWorker instanceId .idle)
      else
        none
  | .workerFails instanceId now retryDelaySeconds =>
      match state.workers instanceId with
      | .failed retryable =>
          some ((state.writeJob (markFailed now instanceId "multipart_abort failed" retryable
            retryDelaySeconds)).setWorker instanceId .idle)
      | _ => none
  | .workerLeaves instanceId => some (state.setWorker instanceId .idle)
  | .replay now => some (state.writeJob (Jobs.replay now))
  | _ => none

def step (state : MultipartState) (action : MultipartAction) : Option MultipartState :=
  state.foregroundStep setup action <|> state.storeStep action <|> state.workerStep setup action

end MultipartState

def multipartSystem (setup : MultipartSetup) : TransitionSystem MultipartState MultipartAction where
  initial state := state = MultipartState.start
  step := MultipartState.step setup

end DiskServer.Jobs
