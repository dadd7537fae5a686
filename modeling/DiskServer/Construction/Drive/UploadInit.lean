import DiskServer.Construction.Drive.System
import DiskServer.Library.Locks

/-
This file gives `InitializeUpload` as sessions whose statements interleave with the whole drive.
-/

namespace DiskServer.Drive

open Library Upload

inductive InitDecision where
  | instantUpload
  | resumeUpload (uploadId : String)
  | startNewUpload
  deriving Repr, DecidableEq

def decideInitFlow (hasExistingContent : Bool) (existingTaskId : String) : InitDecision :=
  if hasExistingContent then
    .instantUpload
  else if existingTaskId ≠ "" then
    .resumeUpload existingTaskId
  else
    .startNewUpload

inductive InitBranch where
  | instant
  | resumed
  | reused
  | created
  deriving Repr, DecidableEq

structure InitReply where
  command : InitUploadCommand
  branch : InitBranch
  uploadId : String
  totalChunks : Nat
  uploadedChunks : List Nat
  fileId : Option Nat
  deriving Repr, DecidableEq

inductive InitPhase where
  | checkTarget
  | findContent
  | findTask (content : Option FileContent)
  | instantUpload (content : FileContent)
  | expire (task : UploadTask)
  | listResumed (task : UploadTask)
  | prepare
  | acquireLock (staging : StagingSession)
  | findConcurrent (staging : StagingSession)
  | createTask (staging : StagingSession)
  | listReused (task : UploadTask)
  | answer (reply : InitReply)
  deriving Repr, DecidableEq

structure InitSession where
  command : InitUploadCommand
  phase : InitPhase
  deriving Repr, DecidableEq

/-- The drive, the running requests with their advisory locks, the request that created each task
and the responses that have been sent. -/
structure InitState where
  world : World
  sessions : Nat → Option InitSession
  locks : Locks Int
  creators : List (String × InitUploadCommand)
  replies : List InitReply

inductive InitAction where
  | drive (action : DriveAction)
  | begin (slot : Nat) (command : InitUploadCommand)
  | advance (slot : Nat) (staging : StagingSession)
  | abandon (slot : Nat)
  deriving Repr, DecidableEq

def targetRejected (db : Db) (command : InitUploadCommand) : Bool :=
  command.maxFileSize < command.fileSize ||
    (command.parentId ≠ 0 &&
      !(db.folders.rows.any fun folder => folder.owned command.parentId command.userId)) ||
    fileNameExists db command.userId command.parentId command.filename

def creationRejected (command : InitUploadCommand) : Bool :=
  !command.uploadTaskCreationEnabled || command.chunkSize = 0 ||
    UInt32.size ≤ totalChunks command.fileSize command.chunkSize

def phaseAfterReads (content : Option FileContent) (task : Option UploadTask) : InitPhase :=
  match decideInitFlow content.isSome ((task.map UploadTask.id).getD ""), content, task with
  | .instantUpload, some content, _ => .instantUpload content
  | .resumeUpload _, _, some task => .expire task
  | _, _, _ => .prepare

def listUploadedChunkIndices (db : Db) (uploadId : String) : List Nat :=
  ((chunksOf db uploadId).map UploadTaskChunk.chunkIndex).insertionSort (· ≤ ·)

def initLockKey (userId : Nat) (fileHash : String) : String :=
  "upload-init:" ++ toString userId ++ ":" ++ fileHash

def insertUploadTask (command : InitUploadCommand) (staging : StagingSession) : Tx UploadTask := do
  reserveStorage command.userId command.fileSize
  let db ← get
  let task := create db.now (newUploadTask command staging)
  match db.tasks.insertNew task with
  | none => failWith .internalError "Failed to create upload task"
  | some tasks =>
      set { db with tasks := tasks }
      pure task

def taskReply (command : InitUploadCommand) (branch : InitBranch) (task : UploadTask)
    (uploadedChunks : List Nat) : InitReply where
  command := command
  branch := branch
  uploadId := task.id
  totalChunks := task.totalChunks
  uploadedChunks := uploadedChunks
  fileId := none

def instantReply (command : InitUploadCommand) (fileId : Nat) : InitReply where
  command := command
  branch := .instant
  uploadId := ""
  totalChunks := 0
  uploadedChunks := []
  fileId := some fileId

/-- The tasks of the drive come from the requests, so the drive itself creates none. -/
def DriveAction.createsTask : DriveAction → Bool
  | .createUploadTask .. => true
  | _ => false

namespace InitState

def empty : InitState := ⟨World.empty, fun _ => none, Locks.none, [], []⟩

def goto (state : InitState) (slot : Nat) (session : InitSession) (phase : InitPhase) : InitState :=
  { state with sessions := Function.update state.sessions slot (some { session with phase := phase }) }

def unlock (state : InitState) (slot : Nat) : InitState :=
  { state with locks := state.locks.release slot }

def finish (state : InitState) (slot : Nat) : InitState :=
  { state.unlock slot with sessions := Function.update state.sessions slot none }

def send (state : InitState) (slot : Nat) (reply : InitReply) : InitState :=
  { state.finish slot with replies := reply :: state.replies }

def setWorld (state : InitState) (world : World) : InitState := { state with world := world }

def stepInstant (state : InitState) (slot : Nat) (session : InitSession) (content : FileContent) :
    InitState :=
  match (Drive.instantUpload session.command content).run state.world.db with
  | .error _ => state.finish slot
  | .ok (fileId, after) =>
      (state.setWorld (state.world.advance after)).goto slot session
        (.answer (instantReply session.command fileId))

def stepExpire (state : InitState) (slot : Nat) (session : InitSession) (task : UploadTask) :
    InitState :=
  match (expireInProgressUpload task.id).run state.world.db,
      state.world.commitSettling task.id (expireInProgressUpload task.id) with
  | .ok (some _, _), some world => (state.setWorld world).goto slot session .prepare
  | .ok (none, _), some world => (state.setWorld world).goto slot session (.listResumed task)
  | _, _ => state.finish slot

def stepCreate (state : InitState) (slot : Nat) (session : InitSession) (staging : StagingSession) :
    InitState :=
  match (insertUploadTask session.command staging).run state.world.db with
  | .error _ => state.finish slot
  | .ok (task, after) =>
      let created := (state.setWorld (state.world.advance after)).unlock slot
      { created with creators := (task.id, session.command) :: state.creators }.goto slot session
        (.answer (taskReply session.command .created task []))

def advance (hashtextextended : String → Int) (state : InitState) (slot : Nat)
    (staging : StagingSession) : Option InitState := do
  let session ← state.sessions slot
  let command := session.command
  let db := state.world.db
  match session.phase with
  | .checkTarget =>
      if targetRejected db command then some (state.finish slot)
      else some (state.goto slot session .findContent)
  | .findContent => some (state.goto slot session (.findTask (findByMd5 db command.fileHash)))
  | .findTask content =>
      some (state.goto slot session
        (phaseAfterReads content (findActiveByUserAndHash db command.userId command.fileHash)))
  | .instantUpload content => some (state.stepInstant slot session content)
  | .expire task => some (state.stepExpire slot session task)
  | .listResumed task =>
      some (state.send slot
        (taskReply command .resumed task (listUploadedChunkIndices db task.id)))
  | .prepare =>
      if creationRejected command then some (state.finish slot)
      else some (state.goto slot session (.acquireLock staging))
  | .acquireLock drawn =>
      let key := hashtextextended (initLockKey command.userId command.fileHash)
      if state.locks.free slot key then
        some ({ state with locks := state.locks.acquire slot [key] }.goto slot session
          (.findConcurrent drawn))
      else
        none
  | .findConcurrent drawn =>
      match findActiveByUserAndHash db command.userId command.fileHash with
      | some task => some ((state.unlock slot).goto slot session (.listReused task))
      | none => some (state.goto slot session (.createTask drawn))
  | .createTask drawn => some (state.stepCreate slot session drawn)
  | .listReused task =>
      some (state.send slot
        (taskReply command .reused task (listUploadedChunkIndices db task.id)))
  | .answer reply => some (state.send slot reply)

def step (hashtextextended : String → Int) (state : InitState) : InitAction → Option InitState
  | .drive action =>
      if action.createsTask then none else (state.world.step action).map state.setWorld
  | .begin slot command =>
      if command.valid ∧ (state.sessions slot).isNone then
        some (state.goto slot ⟨command, .checkTarget⟩ .checkTarget)
      else
        none
  | .advance slot staging => state.advance hashtextextended slot staging
  | .abandon slot => (state.sessions slot).map fun _ => state.finish slot

end InitState

def initSystem (hashtextextended : String → Int) : TransitionSystem InitState InitAction where
  initial := fun state => state = InitState.empty
  step := InitState.step hashtextextended

end DiskServer.Drive
