import DiskServer.Construction.Clients.ChunkUpload
import DiskServer.Construction.Clients.ErrorEnvelope
import DiskServer.Library.Exchange
import DiskServer.Library.Transition

/-
This file gives one upload task of the desktop client: its status, its request, its timers and what its
user does.
-/

namespace DiskServer.Clients

open Library

section Errors

structure ReplyFailure where
  head : Reply
  network : Option NetworkError

def operationCanceled : NetworkError := .unknownServer

def ReplyFailure.uploadReaction (failure : ReplyFailure) : UploadReaction :=
  match failure.network with
  | none => handleUploadError failure.head
  | some error => .retryOrFail (errorFromNetworkError error)

def ReplyFailure.transferError (failure : ReplyFailure) : ApiError :=
  match failure.network with
  | none => handleTransferError failure.head
  | some error => errorFromNetworkError error

def parseError (message : String) : ApiError := ⟨0, "general", "ParseError", message, true, "retry"⟩

end Errors

namespace DesktopUpload

section Manager

inductive UploadStatus where
  | hashing
  | initializing
  | uploading
  | completing
  | cancelling
  | completed
  | cancelled
  | expired
  | failed
  | retrying
  deriving DecidableEq, Repr

inductive UploadRequest where
  | init
  | chunk (index : Nat)
  | complete
  | cancel
  deriving DecidableEq, Repr

/-- A retry is counted unless a rate limit has caused it. -/
inductive UploadTimer where
  | retry (counted : Bool)
  | cancelRetry
  deriving DecidableEq, Repr

structure ActiveUpload where
  reply : Option Nat
  retryCount : Nat
  deriving DecidableEq, Repr

/-- The last fields are the pending timers, the requests in flight, all requests that were sent, the
replies that were handled with the request of their handler, how many retries have been made since the
user acted, and whether the process has ended. -/
structure UploadManager where
  status : UploadStatus
  uploadId : Option String
  chunks : Option DesktopTask
  fileReadable : Bool
  hashWatcher : Bool
  activeUpload : Option ActiveUpload
  timers : List UploadTimer
  inFlight : List (Nat × UploadRequest)
  sent : List (Nat × UploadRequest)
  handled : List (Nat × UploadRequest)
  retriesMade : Nat
  crashed : Bool
  deriving DecidableEq, Repr

def UploadManager.started : UploadManager where
  status := .hashing
  uploadId := none
  chunks := none
  fileReadable := true
  hashWatcher := true
  activeUpload := none
  timers := []
  inFlight := []
  sent := []
  handled := []
  retriesMade := 0
  crashed := false

variable (manager : UploadManager)

def setUploadState (status : UploadStatus) : UploadManager := { manager with status := status }

def post (request : UploadRequest) : UploadManager :=
  { manager with
    inFlight := manager.inFlight ++ [(manager.sent.length, request)]
    sent := manager.sent ++ [(manager.sent.length, request)] }

def setReply (reply : Nat) : UploadManager :=
  { manager with activeUpload := some { manager.activeUpload.getD ⟨none, 0⟩ with reply := some reply } }

def failUpload : UploadManager := { manager with status := .failed, activeUpload := none }

def expireUpload : UploadManager :=
  { manager with status := .expired, uploadId := none, activeUpload := none }

def startUploadInit : UploadManager :=
  if manager.status ≠ .hashing ∧ manager.status ≠ .retrying then manager
  else
    { post (setUploadState manager .initializing) .init with
      activeUpload := some ⟨some manager.sent.length, 0⟩ }

def startChunkUpload (chunkIndex : Nat) : UploadManager :=
  if manager.uploadId.isNone ∨ manager.chunks.isNone then manager
  else if !manager.fileReadable then failUpload manager
  else setReply (post manager (.chunk chunkIndex)) manager.sent.length

def startUploadComplete : UploadManager :=
  let completing := setUploadState manager .completing
  if manager.uploadId.isNone then failUpload completing
  else setReply (post completing .complete) manager.sent.length

def advanceToNextChunk : UploadManager :=
  match manager.chunks with
  | none => manager
  | some task =>
      match task.nextChunk with
      | none => startUploadComplete manager
      | some chunkIndex => startChunkUpload manager chunkIndex

def startUploadCancel : UploadManager :=
  if manager.status ≠ .cancelling then manager
  else if manager.uploadId.isNone then
    { setUploadState manager .cancelled with activeUpload := none }
  else setReply (post manager .cancel) manager.sent.length

/-- The delay of the timer does not matter, because a timer runs out at any time. -/
def retryOrFail (error : ApiError) (reply : Option Reply) : UploadManager :=
  match manager.activeUpload with
  | none => failUpload manager
  | some active =>
      match retryOrFailUpload error reply active.retryCount 0 with
      | .failed _ => failUpload manager
      | .retrying _ retryCount _ =>
          { manager with
            status := .retrying
            activeUpload := some { active with retryCount := retryCount }
            timers := manager.timers ++ [.retry (decide (retryCount ≠ active.retryCount))] }

def react (failure : ReplyFailure) : UploadManager :=
  match failure.uploadReaction with
  | .expire => expireUpload manager
  | .fail _ => failUpload manager
  | .retryOrFail error => retryOrFail manager error (some failure.head)

end Manager

section Handlers

inductive UploadReply where
  | failure (failure : ReplyFailure)
  | malformed
  | instant
  | created (uploadId : String) (task : DesktopTask)
  | success

def UploadReply.fits : UploadReply → UploadRequest → Bool
  | .failure _, _ => true
  | .success, .init => false
  | .success, _ => true
  | _, .init => true
  | _, _ => false

def unfinished : UploadRequest → UploadReply
  | .init => .malformed
  | _ => .success

variable (manager : UploadManager)

def handleInitResponse : UploadReply → UploadManager
  | .failure failure => react manager failure
  | .instant => { manager with status := .completed, activeUpload := none }
  | .created uploadId task =>
      advanceToNextChunk
        { manager with uploadId := some uploadId, chunks := some task, status := .uploading }
  | _ => retryOrFail manager (parseError "无效的初始化响应") none

def handleChunkResponse (chunkIndex : Nat) : UploadReply → UploadManager
  | .failure failure => react manager failure
  | _ =>
      advanceToNextChunk { manager with chunks := manager.chunks.map (·.handleChunkResponse chunkIndex) }

def handleCompleteResponse : UploadReply → UploadManager
  | .failure failure => react manager failure
  | _ => { manager with status := .completed, activeUpload := none }

def handleCancelResponse : UploadReply → UploadManager
  | .failure failure =>
      let done := { manager with status := .cancelled, activeUpload := none }
      if failure.head.status = 404 then done
      else
        match manager.activeUpload with
        | some active =>
            if active.retryCount < maxRetryCount then
              { manager with
                activeUpload := some { active with retryCount := active.retryCount + 1 }
                timers := manager.timers ++ [.cancelRetry] }
            else done
        | none => done
  | _ => { manager with status := .cancelled, activeUpload := none }

def handleReply (request : UploadRequest) (reply : UploadReply) : UploadManager :=
  match request with
  | .init => handleInitResponse manager reply
  | .chunk chunkIndex => handleChunkResponse manager chunkIndex reply
  | .complete => handleCompleteResponse manager reply
  | .cancel => handleCancelResponse manager reply

def takeReply (reply : Nat) (request : UploadRequest) : UploadManager :=
  { manager with
    activeUpload := manager.activeUpload.map fun active => { active with reply := none }
    inFlight := manager.inFlight.filter fun other => other.1 ≠ reply
    handled := manager.handled ++ [(reply, request)] }

def finished (reply : Nat) (request : UploadRequest) (seen : UploadReply) : UploadManager :=
  let rest := { manager with inFlight := manager.inFlight.filter fun other => other.1 ≠ reply }
  match manager.activeUpload.bind ActiveUpload.reply with
  | none => rest
  | some registered =>
      handleReply (takeReply rest registered request) request
        (if registered = reply then seen else unfinished request)

/-- An abort finishes the reply at once. Then the entry has no reply any more, and the member call on a
null pointer returns or ends the process. -/
def abortActiveUpload (head : Reply) (returns : Bool) : UploadManager :=
  match manager.activeUpload.bind ActiveUpload.reply with
  | none => manager
  | some registered =>
      match manager.inFlight.find? fun other => other.1 = registered with
      | none => manager
      | some (_, request) =>
          { finished manager registered request (.failure ⟨head, some operationCanceled⟩) with
            crashed := !returns }

end Handlers

section System

inductive UploadAction where
  | retryUpload
  | cancelUpload (head : Reply) (returns : Bool)
  | shutdownOwnerTransfers (head : Reply) (returns : Bool)
  | setReadable (readable : Bool)
  | hashed (succeeded : Bool)
  | finish (reply : Nat) (seen : UploadReply)
  | timeout (index : Nat)

def UploadAction.byUser : UploadAction → Bool
  | .retryUpload | .cancelUpload _ _ | .shutdownOwnerTransfers _ _ => true
  | _ => false

variable (manager : UploadManager)

def retryUpload : UploadManager :=
  if manager.status ≠ .failed ∧ manager.status ≠ .expired then manager
  else
    { manager with
      status := .hashing
      uploadId := none
      chunks := manager.chunks.map fun task => { task with uploadedChunkIndices := [] }
      hashWatcher := true
      activeUpload := manager.activeUpload.map fun active => { active with retryCount := 0 } }

def cancelUpload (head : Reply) (returns : Bool) : UploadManager :=
  if manager.status ≠ .uploading ∧ manager.status ≠ .completing ∧ manager.status ≠ .initializing ∧
      manager.status ≠ .hashing then manager
  else
    let aborted := abortActiveUpload manager head returns
    if aborted.crashed then aborted
    else
      let pending := { aborted with hashWatcher := false, status := .cancelling }
      if manager.uploadId.isSome then startUploadCancel pending
      else { pending with status := .cancelled, activeUpload := none }

def shutdownOwnerTransfers (head : Reply) (returns : Bool) : UploadManager :=
  if manager.status = .completed ∨ manager.status = .cancelled ∨ manager.status = .expired ∨
      manager.status = .failed then manager
  else
    let aborted := abortActiveUpload manager head returns
    if aborted.crashed then aborted
    else { aborted with status := .cancelled, uploadId := none, chunks := none, activeUpload := none }

def hashFinished (succeeded : Bool) : UploadManager :=
  let ended := { manager with hashWatcher := false }
  if manager.status ≠ .hashing then ended
  else if succeeded then startUploadInit ended
  else failUpload ended

def retryTimeout (counted : Bool) : UploadManager :=
  if manager.status ≠ .retrying then manager
  else
    let made := { manager with retriesMade := manager.retriesMade + if counted then 1 else 0 }
    match manager.uploadId, manager.chunks with
    | none, _ => startUploadInit made
    | some _, none => made
    | some _, some task =>
        if task.totalChunks ≤ task.uploadedChunkIndices.length then startUploadComplete made
        else advanceToNextChunk made

def cancelTimeout : UploadManager :=
  if manager.status ≠ .cancelling then manager
  else startUploadCancel { manager with retriesMade := manager.retriesMade + 1 }

def moveUpload : UploadAction → Option UploadManager
  | .retryUpload => some (retryUpload { manager with retriesMade := 0 })
  | .cancelUpload head returns => some (cancelUpload { manager with retriesMade := 0 } head returns)
  | .shutdownOwnerTransfers head returns =>
      some (shutdownOwnerTransfers { manager with retriesMade := 0 } head returns)
  | .setReadable readable => some { manager with fileReadable := readable }
  | .hashed succeeded => if manager.hashWatcher then some (hashFinished manager succeeded) else none
  | .finish reply seen =>
      match manager.inFlight.find? fun other => other.1 = reply with
      | none => none
      | some (_, request) => if seen.fits request then some (finished manager reply request seen) else none
  | .timeout index =>
      match manager.timers[index]? with
      | none => none
      | some (.retry counted) =>
          some (retryTimeout { manager with timers := manager.timers.eraseIdx index } counted)
      | some .cancelRetry => some (cancelTimeout { manager with timers := manager.timers.eraseIdx index })

def uploadSystem : TransitionSystem UploadManager UploadAction where
  initial := fun manager => manager = .started
  step := fun manager action => if manager.crashed then none else moveUpload manager action

end System

section Promise

/-- A request is in flight, or a timer will send one. -/
def Busy (manager : UploadManager) : Prop :=
  manager.inFlight ≠ [] ∨
    manager.status = .retrying ∧ (∃ counted, .retry counted ∈ manager.timers) ∨
    manager.status = .cancelling ∧ .cancelRetry ∈ manager.timers

variable (allowed : UploadManager → UploadAction → Prop)

def Automatic (manager : UploadManager) (action : UploadAction) : Prop :=
  allowed manager action ∧ action.byUser = false

/-- What the client promises about one upload task. -/
structure UploadSafe (manager : UploadManager) : Prop where
  single : manager.inFlight.length ≤ 1
  traced : Traced manager.inFlight manager.sent manager.handled
  silent : manager.status = .cancelled → ∀ after, uploadSystem.ReachesWhen (Automatic allowed) manager after →
    ∀ entry ∈ after.sent, entry ∈ manager.sent ∨ entry.2 = .cancel
  cancels : Busy manager → ∀ head returns after, allowed manager (.cancelUpload head returns) →
    uploadSystem.step manager (.cancelUpload head returns) = some after →
    after.crashed = false ∧ (after.status = .cancelling ∨ after.status = .cancelled)
  budget : manager.retriesMade ≤ maxRetryCount

end Promise

end DesktopUpload

end DiskServer.Clients
