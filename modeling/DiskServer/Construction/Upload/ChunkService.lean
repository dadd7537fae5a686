import DiskServer.Construction.Storage.LocalFileStorage
import DiskServer.Construction.Upload.Finalization
import DiskServer.Construction.Upload.Geometry

/-
This file runs any number of chunk uploads of several servers beside the statements on their task.
-/

namespace DiskServer.Upload.ChunkService

open Library Storage Utils Jobs

structure UploadTaskCacheEntry where
  userId : Nat
  fileSize : UInt64
  chunkSize : UInt32
  totalChunks : UInt32
  stagingSession : UploadStagingSession
  deriving Repr, DecidableEq

structure ChunkCall where
  server : String
  userId : Nat
  chunkIndex : UInt32
  chunkHash : String
  chunkData : List UInt8
  deriving Repr, DecidableEq

structure UploadChunkResponse where
  chunkIndex : UInt32
  uploaded : Bool
  deriving Repr, DecidableEq

inductive ChunkPhase where
  | received
  | taskFound (fileSize : UInt64) (totalChunks : UInt32)
  | admitted (entry : UploadTaskCacheEntry)
  | written (chunk : UploadStagingChunk)
  | finished (result : Except CallFailure UploadChunkResponse)

structure ChunkRequest where
  call : ChunkCall
  phase : ChunkPhase

structure ServiceState where
  upload : Finalization.State
  caches : String → Option UploadTaskCacheEntry
  requests : Nat → Option ChunkRequest

/-- The storage and the column of the task that no statement changes. -/
structure ServiceSetup (World Stream : Type) where
  storage : StagingStorage World Stream
  chunkSize : UInt32

/-- A write runs in any world, since other requests change the stores between its calls. A statement
of a record may be executed without an answer, or it may not be executed at all. -/
inductive ServiceAction (World : Type) where
  | receive (slot : Nat) (call : ChunkCall)
  | lookUp (slot : Nat)
  | findTask (slot : Nat) (startedAt : Timestamp)
  | findSession (slot : Nat) (answered : Bool)
  | write (slot : Nat) (uuid : String) (world : World)
  | record (slot : Nat) (startedAt : Timestamp) (answered : Bool)
  | recordFails (slot : Nat)
  | abandon (slot : Nat)
  | evict (server : String)
  | task (action : Finalization.Action)

section Steps

variable {World Stream : Type} (setup : ServiceSetup World Stream)

def ServiceState.put (state : ServiceState) (slot : Nat) (request : ChunkRequest) : ServiceState :=
  { state with requests := Function.update state.requests slot (some request) }

def ServiceState.goto (state : ServiceState) (slot : Nat) (request : ChunkRequest) (phase : ChunkPhase) :
    ServiceState := state.put slot { request with phase := phase }

def ServiceState.fail (state : ServiceState) (slot : Nat) (request : ChunkRequest) (code : ErrorCode)
    (message : String) : ServiceState :=
  state.goto slot request (.finished (.error (.error ⟨code, message⟩)))

def ServiceState.lookUp (state : ServiceState) (slot : Nat) (request : ChunkRequest) :
    Option ServiceState :=
  match (state.caches request.call.server).filter fun entry => entry.userId = request.call.userId with
  | none => none
  | some entry => some (state.goto slot request (.admitted entry))

def ServiceState.findTask (state : ServiceState) (slot : Nat) (request : ChunkRequest)
    (startedAt : Timestamp) : Option ServiceState :=
  let task := state.upload.task
  if state.upload.now < startedAt then none
  else if task.userId ≠ request.call.userId ∨ task.expiresAt < startedAt then
    some (state.goto slot request (.finished (.error (.error (ErrorInfo.ofCode .uploadTaskNotFound)))))
  else if task.status ≠ .inProgress then
    some (state.fail slot request .resourceConflict "Upload task no longer accepts chunks")
  else
    some (state.goto slot request (.taskFound (.ofNat task.fileSize) (.ofNat task.totalChunks)))

def ServiceState.findSession (state : ServiceState) (slot : Nat) (request : ChunkRequest)
    (fileSize : UInt64) (totalChunks : UInt32) (answered : Bool) : ServiceState :=
  let task := state.upload.task
  if answered then
    let entry : UploadTaskCacheEntry :=
      ⟨task.userId, fileSize, setup.chunkSize, totalChunks,
        ⟨task.id, task.stagingBackend, task.stagingPrefix⟩⟩
    { state.goto slot request (.admitted entry) with
      caches := Function.update state.caches request.call.server (some entry) }
  else
    state.fail slot request .internalError "Failed to load upload staging session"

def ServiceState.write (state : ServiceState) (slot : Nat) (request : ChunkRequest)
    (entry : UploadTaskCacheEntry) (uuid : String) (world : World) : ServiceState :=
  let call := request.call
  match validateChunkAcceptance call.chunkIndex (.ofNat call.chunkData.length) entry.fileSize
      entry.chunkSize entry.totalChunks with
  | .error refused => state.goto slot request (.finished (.error (.error refused.error)))
  | .ok _ =>
      if hashMd5 call.chunkData ≠ call.chunkHash then
        state.fail slot request .chunkVerifyFailed "Chunk hash mismatch"
      else
        match setup.storage.writeChunk uuid entry.stagingSession call.chunkIndex
            (hashMd5 call.chunkData) call.chunkData world with
        | .error failure => state.goto slot request (.finished (.error failure))
        | .ok chunk => state.goto slot request (.written chunk)

def ChunkCall.reply (call : ChunkCall) : ChunkRecordDisposition → Except CallFailure UploadChunkResponse
  | .accepted => .ok ⟨call.chunkIndex, true⟩
  | .taskRejected => .error (.error ⟨.resourceConflict, "Upload task no longer accepts chunks"⟩)
  | .metadataConflict =>
      .error (.error ⟨.resourceConflict, "Chunk index already contains different content"⟩)

def recordFailed : CallFailure := .error ⟨.internalError, "Failed to record chunk upload"⟩

def ServiceState.record (state : ServiceState) (slot : Nat) (request : ChunkRequest)
    (chunk : UploadStagingChunk) (startedAt : Timestamp) (answered : Bool) : Option ServiceState :=
  let call := request.call
  let disposition := (recordChunkIfInProgress startedAt call.userId call.chunkIndex.toNat
    chunk.sizeBytes.toNat chunk.md5Hash chunk.objectKey chunk.etag state.upload.task
    state.upload.chunks).1
  match state.upload.recordChunk startedAt call.userId call.chunkIndex.toNat chunk.sizeBytes.toNat
      chunk.md5Hash chunk.objectKey chunk.etag with
  | none => none
  | some upload =>
      let recorded := { state with upload := upload }
      if answered then
        let replied := recorded.goto slot request (.finished (call.reply disposition))
        if disposition = .taskRejected then
          some { replied with caches := Function.update replied.caches call.server none }
        else some replied
      else some (recorded.goto slot request (.finished (.error recordFailed)))

def step (state : ServiceState) : ServiceAction World → Option ServiceState
  | .receive slot call =>
      if (state.requests slot).isNone then some (state.put slot ⟨call, .received⟩) else none
  | .lookUp slot =>
      match state.requests slot with
      | some request@⟨_, .received⟩ => state.lookUp slot request
      | _ => none
  | .findTask slot startedAt =>
      match state.requests slot with
      | some request@⟨_, .received⟩ => state.findTask slot request startedAt
      | _ => none
  | .findSession slot answered =>
      match state.requests slot with
      | some request@⟨_, .taskFound fileSize totalChunks⟩ =>
          some (state.findSession setup slot request fileSize totalChunks answered)
      | _ => none
  | .write slot uuid world =>
      match state.requests slot with
      | some request@⟨_, .admitted entry⟩ => some (state.write setup slot request entry uuid world)
      | _ => none
  | .record slot startedAt answered =>
      match state.requests slot with
      | some request@⟨_, .written chunk⟩ => state.record slot request chunk startedAt answered
      | _ => none
  | .recordFails slot =>
      match state.requests slot with
      | some request@⟨_, .written _⟩ => some (state.goto slot request (.finished (.error recordFailed)))
      | _ => none
  | .abandon slot => some { state with requests := Function.update state.requests slot none }
  | .evict server => some { state with caches := Function.update state.caches server none }
  | .task (.recordChunk _ _ _ _ _ _ _) => none
  | .task action =>
      match Finalization.step state.upload action with
      | none => none
      | some upload => some { state with upload := upload }

/-- The chunk rows of a task that begins may come from an earlier version of the server. -/
def initial (state : ServiceState) : Prop :=
  Finalization.initial { state.upload with chunks := [] } ∧
    (state.upload.chunks.map UploadTaskChunk.chunkIndex).Nodup ∧
    (∀ server, state.caches server = none) ∧ ∀ slot, state.requests slot = none

def system : TransitionSystem ServiceState (ServiceAction World) := ⟨initial, step setup⟩

end Steps

end DiskServer.Upload.ChunkService
