import DiskServer.Construction.Clients.DesktopUpload

/-
This file gives the download tasks of the desktop client for one target path: the partial file, the
resume state, the request and the timers.
-/

namespace DiskServer.Clients.DesktopDownload

open Library

section Task

inductive AuthDomain where
  | owner
  | visitor
  deriving DecidableEq, Repr

structure RemoteFile where
  authDomain : AuthDomain
  shareId : String
  fileId : Nat
  deriving DecidableEq, Repr

structure RemoteIdentity where
  file : RemoteFile
  fileSize : Nat
  fileHash : String
  deriving DecidableEq, Repr

inductive DownloadStatus where
  | idle
  | fetchingMetadata
  | ready
  | downloading
  | paused
  | retryWaiting
  | completed
  | cancelled
  | failed
  deriving DecidableEq, Repr

inductive TransferMode where
  | full
  | range
  deriving DecidableEq, Repr

structure DownloadTask where
  file : RemoteFile
  status : DownloadStatus
  transferMode : TransferMode
  rangeStart : Option Nat
  supportsRange : Bool
  fileSize : Nat
  receivedBytes : Nat
  localPartialSize : Nat
  expectedSize : Nat
  fileHash : Option String
  integrityHash : Option String
  remoteIdentity : Option RemoteIdentity
  deriving DecidableEq, Repr

def createDownloadTask (file : RemoteFile) (fileSize : Nat) : DownloadTask where
  file := file
  status := .fetchingMetadata
  transferMode := .full
  rangeStart := none
  supportsRange := false
  fileSize := fileSize
  receivedBytes := 0
  localPartialSize := 0
  expectedSize := 0
  fileHash := none
  integrityHash := none
  remoteIdentity := none

def buildRemoteIdentity (task : DownloadTask) : RemoteIdentity :=
  ⟨task.file, task.fileSize, task.fileHash.getD ""⟩

def sharedTask (file : RemoteFile) (fileSize : Nat) (fileHash : String) : DownloadTask :=
  let hash := if fileHash = "" then none else some fileHash
  let task :=
    { createDownloadTask file fileSize with
      fileHash := hash, integrityHash := hash, expectedSize := fileSize, supportsRange := true }
  { task with remoteIdentity := some (buildRemoteIdentity task) }

structure ResumeState where
  remoteIdentity : Option RemoteIdentity
  expectedSize : Nat
  localPartialSize : Nat
  integrityHash : String
  deriving DecidableEq, Repr

def persistedStateMatches (saved : ResumeState) (task : DownloadTask) (localSize : Nat) : Bool :=
  saved.remoteIdentity = task.remoteIdentity && saved.expectedSize = task.expectedSize &&
    saved.localPartialSize = localSize && saved.integrityHash = task.integrityHash.getD ""

end Task

section Manager

inductive DownloadRequest where
  | metadata
  | download (rangeStart : Option Nat)
  deriving DecidableEq, Repr

/-- A reply in flight. The status is zero before its headers, and the last bytes that were delivered
may not have been read. -/
structure Transfer where
  number : Nat
  request : DownloadRequest
  status : Nat
  delivered : List UInt8
  unread : List UInt8
  deriving DecidableEq, Repr

def Transfer.deliver (transfer : Transfer) (bytes : List UInt8) : Transfer :=
  { transfer with delivered := transfer.delivered ++ bytes, unread := transfer.unread ++ bytes }

def Transfer.readAll (transfer : Transfer) : Transfer := { transfer with unread := [] }

/-- The file holds the bytes that have not been flushed. -/
structure ActiveDownload where
  reply : Option Nat
  file : Option (List UInt8)
  retryCount : Nat
  deriving DecidableEq, Repr

/-- The target and the resume state are on the disk. The fields after the requests in flight are all
requests that were sent, the replies that were handled with the request of their handler, how many
retries have been made since the user acted, whether the task has been completed, and whether the
process has ended. A retry is counted unless a rate limit was the last failure. -/
structure DownloadManager where
  target : Option (List UInt8)
  resumeState : Option ResumeState
  task : DownloadTask
  activeDownload : Option ActiveDownload
  timers : Nat
  rateLimited : Bool
  inFlight : List Transfer
  sent : List (Nat × DownloadRequest)
  handled : List (Nat × DownloadRequest)
  retriesMade : Nat
  wasCompleted : Bool
  crashed : Bool
  deriving DecidableEq, Repr

def DownloadManager.launched (target : Option (List UInt8)) : DownloadManager where
  target := target
  resumeState := none
  task := { createDownloadTask ⟨.owner, "", 0⟩ 0 with status := .idle }
  activeDownload := none
  timers := 0
  rateLimited := false
  inFlight := []
  sent := []
  handled := []
  retriesMade := 0
  wasCompleted := false
  crashed := false

variable (manager : DownloadManager)

def DownloadManager.bytes : List UInt8 := manager.target.getD []

def DownloadManager.buffer : List UInt8 := ((manager.activeDownload.bind ActiveDownload.file).getD [])

def setDownloadState (status : DownloadStatus) : DownloadManager :=
  { manager with task := { manager.task with status := status } }

def persistResumeState : DownloadManager :=
  { manager with
    resumeState := some
      ⟨manager.task.remoteIdentity, manager.task.expectedSize, manager.task.localPartialSize,
        manager.task.integrityHash.getD ""⟩ }

def removeResumeState : DownloadManager := { manager with resumeState := none }

def closeFile : DownloadManager :=
  match manager.activeDownload with
  | some ⟨reply, some unflushed, retryCount⟩ =>
      { manager with
        target := some (manager.bytes ++ unflushed)
        activeDownload := some ⟨reply, none, retryCount⟩ }
  | _ => manager

/-- The number of a reply is its place among all requests. -/
def post (request : DownloadRequest) : DownloadManager :=
  { manager with
    inFlight := manager.inFlight ++ [⟨manager.sent.length, request, 0, [], []⟩]
    sent := manager.sent ++ [(manager.sent.length, request)] }

def failDownload : DownloadManager :=
  { setDownloadState (closeFile manager) .failed with activeDownload := none }

def restartDownload : DownloadManager :=
  persistResumeState
    { manager with
      target := none
      task :=
        { manager.task with
          transferMode := .full, rangeStart := none, receivedBytes := 0, localPartialSize := 0 } }

def retryOrFailDownload (error : ApiError) (limited : Bool) : DownloadManager :=
  let closed := closeFile manager
  match closed.activeDownload with
  | none => failDownload closed
  | some active =>
      if active.retryCount < maxRetryCount ∧ error.retryable then
        { setDownloadState closed .retryWaiting with
          activeDownload := some { active with reply := none, retryCount := active.retryCount + 1 }
          timers := closed.timers + 1
          rateLimited := limited }
      else failDownload closed

def fetchDownloadMetadata : DownloadManager :=
  { post manager .metadata with activeDownload := some ⟨some manager.sent.length, none, 0⟩ }

def startDownloadTransfer : DownloadManager :=
  let request := if manager.task.transferMode = .range then manager.task.rangeStart else none
  { setDownloadState (post manager (.download request)) .downloading with
    target := if manager.task.transferMode = .range then some manager.bytes else some []
    activeDownload :=
      some ⟨some manager.sent.length, some [], (manager.activeDownload.map (·.retryCount)).getD 0⟩ }

def preparedTask (task : DownloadTask) : DownloadTask :=
  { task with
    expectedSize := if task.expectedSize = 0 then task.fileSize else task.expectedSize
    remoteIdentity := some (task.remoteIdentity.getD (buildRemoteIdentity task))
    integrityHash := task.integrityHash <|> task.fileHash }

def preparePartialFileForRange : DownloadManager :=
  let task := preparedTask manager.task
  let localSize := manager.bytes.length
  if localSize = 0 then
    persistResumeState
      { manager with
        task :=
          { task with transferMode := .full, rangeStart := none, receivedBytes := 0, localPartialSize := 0 } }
  else if 0 < task.expectedSize ∧ task.expectedSize < localSize then restartDownload manager
  else if task.supportsRange ∧ localSize < task.expectedSize ∧
      manager.resumeState.any (fun saved => persistedStateMatches saved task localSize) then
    persistResumeState
      { manager with
        task :=
          { task with
            transferMode := .range
            rangeStart := some localSize
            receivedBytes := localSize
            localPartialSize := localSize } }
  else restartDownload manager

def continueDownload : DownloadManager :=
  let fetching := setDownloadState manager .fetchingMetadata
  match fetching.task.file.authDomain with
  | .owner => fetchDownloadMetadata fetching
  | .visitor => startDownloadTransfer (setDownloadState (preparePartialFileForRange fetching) .ready)

end Manager

section Handlers

inductive DownloadReply where
  | failure (failure : ReplyFailure)
  | malformed
  | described (fileSize : Nat) (fileHash : String) (supportsRange : Bool)
  | failed (error : NetworkError)
  | success

def unfinished : DownloadRequest → DownloadReply
  | .metadata => .malformed
  | .download _ => .success

def isRateLimited (failure : ReplyFailure) : Bool :=
  failure.head.status = 429 || failure.transferError.code = 10005

variable (manager : DownloadManager)

def transferOf (number : Nat) : Option Transfer :=
  manager.inFlight.find? fun transfer => transfer.number = number

def setTransfer (number : Nat) (change : Transfer → Transfer) : DownloadManager :=
  { manager with
    inFlight := manager.inFlight.map fun other => if other.number = number then change other else other }

def registered : Option Nat := manager.activeDownload.bind ActiveDownload.reply

def handleDownloadData : DownloadManager :=
  match manager.activeDownload with
  | some ⟨some reply, some unflushed, retryCount⟩ =>
      match transferOf manager reply with
      | none => manager
      | some transfer =>
          if transfer.unread = [] then manager
          else
            let received := manager.task.receivedBytes + transfer.unread.length
            persistResumeState
              { setTransfer manager reply Transfer.readAll with
                task := { manager.task with receivedBytes := received, localPartialSize := received }
                activeDownload := some ⟨some reply, some (unflushed ++ transfer.unread), retryCount⟩ }
  | _ => manager

def takeReply (reply : Nat) (request : DownloadRequest) : DownloadManager :=
  { manager with
    activeDownload := manager.activeDownload.map fun active => { active with reply := none }
    inFlight := manager.inFlight.filter fun transfer => transfer.number ≠ reply
    handled := manager.handled ++ [(reply, request)] }

def describedTask (task : DownloadTask) (fileSize : Nat) (fileHash : String) (supportsRange : Bool) :
    DownloadTask :=
  let described :=
    { task with
      fileSize := fileSize
      fileHash := some fileHash
      supportsRange := supportsRange
      expectedSize := fileSize
      integrityHash := some fileHash }
  { described with remoteIdentity := some (buildRemoteIdentity described) }

def handleMetadataResponse : DownloadReply → DownloadManager
  | .failure failure => retryOrFailDownload manager failure.transferError (isRateLimited failure)
  | .described fileSize fileHash supportsRange =>
      startDownloadTransfer
        (setDownloadState
          (preparePartialFileForRange
            { manager with task := describedTask manager.task fileSize fileHash supportsRange })
          .ready)
  | _ => retryOrFailDownload manager (parseError "无效的元数据响应") false

variable (computeFileMd5 : List UInt8 → String)

def verifyCompletedDownload : Bool :=
  let expectedSize :=
    if 0 < manager.task.expectedSize then manager.task.expectedSize else manager.task.fileSize
  if 0 < expectedSize ∧ manager.bytes.length ≠ expectedSize then false
  else
    match manager.task.integrityHash with
    | none => true
    | some hash =>
        hash = "" || ((manager.target.map computeFileMd5).getD "").toLower = hash.toLower

def completeDownload : DownloadManager :=
  let size := manager.bytes.length
  let counted :=
    { manager with task := { manager.task with receivedBytes := size, localPartialSize := size } }
  if verifyCompletedDownload manager computeFileMd5 then
    { setDownloadState (removeResumeState counted) .completed with
      activeDownload := none
      wasCompleted := true }
  else failDownload counted

/-- The body of an error has been written to the file and is not read as JSON. -/
def endDownload (status : Nat) (seen : DownloadReply) : DownloadManager :=
  if status = 416 ∧ manager.task.transferMode = .full then failDownload manager
  else if manager.task.transferMode = .range ∧ 0 < status ∧ status ≠ 206 then
    startDownloadTransfer (setDownloadState (restartDownload manager) .ready)
  else
    match seen with
    | .failed error => retryOrFailDownload manager (errorFromNetworkError error) (status = 429)
    | _ => completeDownload manager computeFileMd5

def handleDownloadFinished (request : DownloadRequest) (seen : Nat → DownloadReply) : DownloadManager :=
  let read := handleDownloadData manager
  match registered read with
  | none => closeFile read
  | some reply =>
      let status := ((transferOf read reply).map (·.status)).getD 0
      endDownload (closeFile (takeReply read reply request)) computeFileMd5 status (seen reply)

def finished (transfer : Transfer) (seen : DownloadReply) : DownloadManager :=
  let result := fun reply => if reply = transfer.number then seen else unfinished transfer.request
  let rest := fun manager : DownloadManager =>
    { manager with inFlight := manager.inFlight.filter fun other => other.number ≠ transfer.number }
  match manager.activeDownload with
  | none => rest manager
  | some _ =>
      match transfer.request with
      | .metadata =>
          match registered manager with
          | none => rest manager
          | some reply => handleMetadataResponse (takeReply (rest manager) reply .metadata) (result reply)
      | .download start => rest (handleDownloadFinished manager computeFileMd5 (.download start) result)

def canceled (transfer : Transfer) : DownloadReply :=
  match transfer.request with
  | .metadata =>
      .failure ⟨⟨transfer.status, "", "", none, none, none⟩, some operationCanceled⟩
  | .download _ => .failed operationCanceled

/-- An abort finishes the reply at once. Then the entry has no reply any more, or a reply that the
handler has asked for, which is deleted. The member call on a null pointer returns or ends the process. -/
def abortActiveDownload (returns : Bool) : DownloadManager :=
  match (registered manager).bind (transferOf manager) with
  | none => closeFile manager
  | some transfer =>
      let aborted := finished manager computeFileMd5 transfer (canceled transfer)
      match aborted.activeDownload with
      | some ⟨some reply, unflushed, retryCount⟩ =>
          closeFile
            { aborted with
              activeDownload := some ⟨none, unflushed, retryCount⟩
              inFlight := aborted.inFlight.filter fun other => other.number ≠ reply }
      | _ => { closeFile aborted with crashed := !returns }

end Handlers

section System

variable (content : RemoteFile → List UInt8) (computeFileMd5 : List UInt8 → String)

/-- The user acts on the task or restarts the application, and the rest happens by itself. Another task
of the path leaves any file and any resume state behind. -/
inductive DownloadAction where
  | startDownload (fileId : Nat)
  | startShareDownload (shareId : String) (fileId : Nat) (fileHash : String)
  | pauseDownload (returns : Bool)
  | resumeDownload
  | retryDownload
  | cancelDownload (returns : Bool)
  | shutdownOwnerTransfers (returns : Bool)
  | restart (flushed : Nat)
  | headers (number : Nat) (status : Nat)
  | block (number : Nat) (bytes : List UInt8)
  | finish (number : Nat) (seen : DownloadReply)
  | flush (count : Nat)
  | timeout
  | otherTask (target : Option (List UInt8)) (resumeState : Option ResumeState)

def DownloadAction.byUser : DownloadAction → Bool
  | .headers _ _ | .block _ _ | .finish _ _ | .flush _ | .timeout | .otherTask _ _ => false
  | _ => true

/-- A reply brings the bytes that its status announces, and a part is only sent on request. -/
def announcedBytes (file : RemoteFile) (transfer : Transfer) : Option (List UInt8) :=
  match transfer.request with
  | .metadata => none
  | .download start =>
      if transfer.status = 200 then some (content file)
      else if transfer.status = 206 then some ((content file).drop (start.getD 0))
      else none

variable (manager : DownloadManager)

def isUnfinished : Bool :=
  manager.task.status ≠ .idle && manager.task.status ≠ .completed && manager.task.status ≠ .cancelled &&
    manager.task.status ≠ .failed

/-- A task of its own identifier finds no entry, and no reply or timer of an earlier task finds it. What
an earlier task still does to the file of the path is the act of another task. -/
def createTask (task : DownloadTask) : DownloadManager :=
  { manager with
    task := task
    activeDownload := none
    timers := 0
    rateLimited := false
    inFlight := []
    wasCompleted := false }

def startDownload (fileId : Nat) : DownloadManager :=
  fetchDownloadMetadata (createTask manager (createDownloadTask ⟨.owner, "", fileId⟩ 0))

def startShareDownload (shareId : String) (fileId : Nat) (fileHash : String) : DownloadManager :=
  let task := sharedTask ⟨.visitor, shareId, fileId⟩ (content ⟨.visitor, shareId, fileId⟩).length fileHash
  startDownloadTransfer (setDownloadState (preparePartialFileForRange (createTask manager task)) .ready)

def pauseDownload (returns : Bool) : DownloadManager :=
  if manager.task.status ≠ .downloading then manager
  else
    let aborted := abortActiveDownload manager computeFileMd5 returns
    if aborted.crashed then aborted else setDownloadState aborted .paused

def resumeDownload : DownloadManager :=
  if manager.task.status ≠ .paused then manager else continueDownload manager

def retryDownload : DownloadManager :=
  if manager.task.status ≠ .failed then manager
  else
    continueDownload
      { manager with
        activeDownload := manager.activeDownload.map fun active => { active with retryCount := 0 } }

def cancelDownload (returns : Bool) : DownloadManager :=
  if manager.task.status = .idle then manager
  else
    let aborted := abortActiveDownload manager computeFileMd5 returns
    if aborted.crashed then aborted
    else
      { setDownloadState (removeResumeState { aborted with target := none }) .cancelled with
        activeDownload := none }

def shutdownOwnerTransfers (returns : Bool) : DownloadManager :=
  if manager.task.file.authDomain = .visitor ∨ !isUnfinished manager then manager
  else
    let aborted := abortActiveDownload manager computeFileMd5 returns
    if aborted.crashed then aborted
    else
      { aborted with
        target := none
        task :=
          { aborted.task with
            status := .cancelled, transferMode := .full, rangeStart := none, receivedBytes := 0 }
        activeDownload := none }

/-- The process ends at any point of the flushing, and the next one has no task. -/
def restart (flushed : Nat) : DownloadManager :=
  { DownloadManager.launched
      (match manager.activeDownload.bind ActiveDownload.file with
        | none => manager.target
        | some unflushed => some (manager.bytes ++ unflushed.take flushed)) with
    resumeState := manager.resumeState
    sent := manager.sent
    handled := manager.handled }

def flush (count : Nat) : DownloadManager :=
  match manager.activeDownload with
  | some ⟨reply, some unflushed, retryCount⟩ =>
      { manager with
        target := some (manager.bytes ++ unflushed.take count)
        activeDownload := some ⟨reply, some (unflushed.drop count), retryCount⟩ }
  | _ => manager

/-- The timer of a retry looks only for an entry. -/
def retryTimeout : DownloadManager :=
  let expired := { manager with timers := manager.timers - 1 }
  match manager.activeDownload with
  | none => expired
  | some _ =>
      continueDownload
        { expired with retriesMade := manager.retriesMade + if manager.rateLimited then 0 else 1 }

def DownloadReply.fits (transfer : Transfer) : DownloadReply → Bool
  | .failure _ | .malformed => transfer.request = .metadata
  | .described fileSize _ _ => transfer.request = .metadata ∧ fileSize = (content manager.task.file).length
  | .failed _ => transfer.request ≠ .metadata
  | .success => announcedBytes content manager.task.file transfer = some transfer.delivered

def moveDownload : DownloadAction → Option DownloadManager
  | .startDownload fileId => some (startDownload { manager with retriesMade := 0 } fileId)
  | .startShareDownload shareId fileId fileHash =>
      some (startShareDownload content { manager with retriesMade := 0 } shareId fileId fileHash)
  | .pauseDownload returns => some (pauseDownload computeFileMd5 { manager with retriesMade := 0 } returns)
  | .resumeDownload => some (resumeDownload { manager with retriesMade := 0 })
  | .retryDownload => some (retryDownload { manager with retriesMade := 0 })
  | .cancelDownload returns => some (cancelDownload computeFileMd5 { manager with retriesMade := 0 } returns)
  | .shutdownOwnerTransfers returns =>
      some (shutdownOwnerTransfers computeFileMd5 { manager with retriesMade := 0 } returns)
  | .restart flushed => some (restart manager flushed)
  | .headers number status =>
      match transferOf manager number with
      | none => none
      | some transfer =>
          if transfer.request ≠ .metadata ∧ transfer.status = 0 ∧ 0 < status ∧
              (status = 206 → transfer.request ≠ .download none) then
            some (setTransfer manager number fun other => { other with status := status })
          else none
  | .block number bytes =>
      match transferOf manager number with
      | none => none
      | some transfer =>
          if 0 < transfer.status ∧
              (announcedBytes content manager.task.file transfer).all
                (fun announced => (transfer.delivered ++ bytes).isPrefixOf announced) then
            some (handleDownloadData (setTransfer manager number fun other => other.deliver bytes))
          else none
  | .finish number seen =>
      match transferOf manager number with
      | none => none
      | some transfer =>
          if seen.fits content manager transfer then some (finished manager computeFileMd5 transfer seen)
          else none
  | .flush count => some (flush manager count)
  | .timeout => if 0 < manager.timers then some (retryTimeout manager) else none
  | .otherTask target resumeState => some { manager with target := target, resumeState := resumeState }

def downloadSystem : TransitionSystem DownloadManager DownloadAction where
  initial := fun manager => ∃ target, manager = .launched target
  step := fun manager action =>
    if manager.crashed then
      match action with
      | .restart flushed => some (restart manager flushed)
      | _ => none
    else moveDownload content computeFileMd5 manager action

end System

section Promise

variable (content : RemoteFile → List UInt8) (computeFileMd5 : List UInt8 → String)
  (allowed : DownloadManager → DownloadAction → Prop)

/-- A step that nobody asked for. -/
def Automatic (manager : DownloadManager) (action : DownloadAction) : Prop :=
  allowed manager action ∧ action.byUser = false

def numbered (transfer : Transfer) : Nat × DownloadRequest := (transfer.number, transfer.request)

/-- What the client promises about the requests of a download task. -/
structure DownloadSafe (manager : DownloadManager) : Prop where
  single : manager.inFlight.length ≤ 1
  traced : Traced (manager.inFlight.map numbered) manager.sent manager.handled
  silent : manager.task.status = .cancelled →
    ∀ after, (downloadSystem content computeFileMd5).ReachesWhen (Automatic allowed) manager after →
      after.sent = manager.sent
  budget : manager.retriesMade ≤ maxRetryCount

/-- What the client promises about the target file. -/
structure DownloadIntact (manager : DownloadManager) : Prop where
  resumable : ∀ saved ∈ manager.resumeState, ∀ task : DownloadTask,
    task.remoteIdentity = some (buildRemoteIdentity task) →
    persistedStateMatches saved task manager.bytes.length = true →
    manager.bytes.length = saved.localPartialSize ∧ manager.bytes <+: content task.file
  completed : manager.task.status = .completed ∨ manager.wasCompleted = true →
    manager.target = some (content manager.task.file)

end Promise

end DiskServer.Clients.DesktopDownload
