import DiskServer.Construction.Storage.S3ObjectStorage

/-
This file gives the chunk writes of the local staging storage and of the storage that owns it.
-/

namespace DiskServer.Storage

open Library Library.Autocommit Utils Jobs

structure LocalFiles (World : Type) where
  createDirectories : String → World → Option Unit × World
  fileExists : String → World → Option Bool × World
  fileSize : String → World → Option Nat × World
  readFile : String → World → Option (List UInt8) × World
  openForWriting : String → World → Option Unit × World
  writeFile : String → List UInt8 → World → Option Unit × World
  rename : String → String → World → Option Unit × World
  remove : String → World → Option Unit × World

abbrev LocalTask (World Value : Type) := Autocommit World ErrorInfo Value

section WriteChunk

variable {World Value : Type} (files : LocalFiles World)

def call (answer : World → Option Value × World) : LocalTask World (Option Value) :=
  ExceptT.mk fun world => (.ok (answer world).1, (answer world).2)

def required (answer : World → Option Value × World) (failure : ErrorInfo) : LocalTask World Value := do
  match ← call answer with
  | none => throw failure
  | some value => pure value

def isLowerHexMd5 (value : String) : Bool := isLowerHex value 32

def getChunkObjectKey (uploadId : String) (chunkIndex : UInt32) (md5Hash : String) : String :=
  uploadId ++ "/chunks/" ++ toString chunkIndex.toNat ++ "-" ++ md5Hash ++ ".part"

def validateLocalSession (session : UploadStagingSession) : Bool :=
  session.backend = .localDisk && isSafeObjectComponent session.uploadId && session.stagingPrefix ≠ ""

def hashFileBufferBytes : Nat := 65536

def fileBuffers : Nat → List UInt8 → List (List UInt8)
  | 0, _ => []
  | rounds + 1, content =>
      if content = [] then []
      else content.take hashFileBufferBytes :: fileBuffers rounds (content.drop hashFileBufferBytes)

def hashFileMd5 (content : List UInt8) : String :=
  bytesToHex (md5Digest (fileBuffers content.length content))

def verifyExistingObject (chunkPath md5Hash : String) (data : List UInt8) : LocalTask World Unit := do
  let size ← call (files.fileSize chunkPath)
  if size ≠ some data.length then
    throw ⟨.chunkVerifyFailed, "Staging chunk size mismatch"⟩
  else
    let content ← call (files.readFile chunkPath)
    if content.map hashFileMd5 ≠ some md5Hash then
      throw ⟨.chunkVerifyFailed, "Staging chunk hash mismatch"⟩
    else pure ()

/-- The blocking part of `WriteChunk` publishes a new file with a rename. -/
def publishChunk (chunkDirectory chunkPath writingPath md5Hash : String) (data : List UInt8) :
    LocalTask World Unit := do
  required (files.createDirectories chunkDirectory)
    ⟨.internalError, "Failed to create temp upload directory"⟩
  let chunkExists ← required (files.fileExists chunkPath)
    ⟨.internalError, "Failed to inspect staging chunk"⟩
  if chunkExists then
    verifyExistingObject files chunkPath md5Hash data
  else
    required (files.openForWriting writingPath) ⟨.internalError, "Failed to open chunk file"⟩
    match ← call (files.writeFile writingPath data) with
    | none =>
        let _ ← call (files.remove writingPath)
        throw ⟨.internalError, "Failed to write chunk file"⟩
    | some () =>
        match ← call (files.rename writingPath chunkPath) with
        | some () => pure ()
        | none =>
            match ← call (files.fileExists chunkPath) with
            | some true =>
                tryCatch (verifyExistingObject files chunkPath md5Hash data) fun failure => do
                  let _ ← call (files.remove writingPath)
                  throw failure
                let _ ← call (files.remove writingPath)
                pure ()
            | _ =>
                let _ ← call (files.remove writingPath)
                throw ⟨.internalError, "Failed to publish immutable staging chunk"⟩

def writeLocalChunk (tempUploadPath uuid : String) (session : UploadStagingSession)
    (chunkIndex : UInt32) (md5Hash : String) (data : List UInt8) : LocalTask World UploadStagingChunk :=
  if !validateLocalSession session || !isLowerHexMd5 md5Hash then
    throw ⟨.validationFailed, "Invalid upload staging object identity"⟩
  else do
    let objectKey := getChunkObjectKey session.uploadId chunkIndex md5Hash
    let chunkPath := tempUploadPath ++ "/" ++ objectKey
    publishChunk files (tempUploadPath ++ "/" ++ session.uploadId ++ "/chunks") chunkPath
      (chunkPath ++ ".writing-" ++ uuid) md5Hash data
    pure ⟨chunkIndex, .ofNat data.length, md5Hash, objectKey, ""⟩

/-- The configured staging storage: the local disk alone, or a store that keeps local sessions too. -/
structure StagingStorage (World Stream : Type) where
  files : LocalFiles World
  client : Option (S3Client World Stream)
  tempUploadPath : String
  stagingPrefix : String
  assembleBufferSizeBytes : UInt32

/-- `WriteChunk` of the configured storage, run in one world. An exception leaves it without a result. -/
def StagingStorage.writeChunk {Stream : Type} (storage : StagingStorage World Stream) (uuid : String)
    (session : UploadStagingSession) (chunkIndex : UInt32) (md5Hash : String) (data : List UInt8)
    (world : World) : Except CallFailure UploadStagingChunk :=
  match storage.client, session.backend with
  | some client, .s3 =>
      (outcome (writeS3Chunk client (resolveS3ReadBufferSize storage.assembleBufferSizeBytes) session
        storage.stagingPrefix chunkIndex md5Hash data) ⟨world, []⟩).1
  | _, _ =>
      (outcome (writeLocalChunk storage.files storage.tempUploadPath uuid session chunkIndex md5Hash
        data) world).1.mapError .error

end WriteChunk

end DiskServer.Storage
