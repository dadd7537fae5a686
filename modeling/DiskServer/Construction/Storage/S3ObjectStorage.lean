import DiskServer.Construction.Jobs.StorageJobContract
import DiskServer.Construction.Utils.FileHashUtil
import DiskServer.Library.Autocommit
import DiskServer.Library.BlockStream

/-
This file gives the multipart uploads that assemble the chunks of an upload and that publish it.
-/

namespace DiskServer.Storage

open Library Library.Autocommit Utils Jobs
open Upload (UploadStagingBackend)

def s3MultipartPartSizeBytes : Nat := 5 * 1024 * 1024

def s3MaxMultipartParts : Nat := 10000

def s3MinReadBufferBytes : Nat := 64 * 1024

def s3MaxReadBufferBytes : Nat := 1024 * 1024

def maxUInt64 : Nat := 18446744073709551615

/-- A call ends with an error that the code passes on, or it throws. -/
inductive CallFailure where
  | error (error : ErrorInfo)
  | thrown
  deriving Repr, DecidableEq

structure S3HeadObjectResult where
  present : Bool
  size : UInt64
  etag : String
  deriving Repr, DecidableEq

structure S3PutObjectResult where
  etag : String
  created : Bool
  deriving Repr, DecidableEq

structure S3CompletedPart where
  partNumber : Nat
  etag : String
  deriving Repr, DecidableEq

structure UploadStagingChunk where
  chunkIndex : UInt32
  sizeBytes : UInt64
  md5Hash : String
  objectKey : String
  etag : String
  deriving Repr, DecidableEq

structure UploadStagingAssembly where
  backend : UploadStagingBackend
  locator : String
  sizeBytes : UInt64
  md5Hash : String
  sha256Hash : String
  deriving Repr, DecidableEq

structure BlobPromoteResult where
  path : String
  created : Bool
  deriving Repr, DecidableEq

abbrev Answer (World Value : Type) := World → Except CallFailure Value × World

structure S3Client (World Stream : Type) where
  headObject : String → Answer World S3HeadObjectResult
  putObjectIfAbsent : String → List UInt8 → Answer World S3PutObjectResult
  putObjectFromFileIfAbsent : String → String → Answer World S3PutObjectResult
  getObjectRange : String → Nat → Nat → Answer World (Option Stream)
  createMultipartUpload : String → Answer World String
  uploadPart : String → String → Nat → List UInt8 → Answer World String
  uploadPartCopy : String → String → String → Nat → Nat → Nat → Answer World String
  completeMultipartUpload : String → String → List S3CompletedPart → Bool → Answer World Bool
  abortMultipartUpload : String → String → Answer World Unit
  stream : ReadStream UInt8 Stream

structure MultipartUploadJournal (World : Type) where
  track : MultipartUploadDescriptor → Answer World Unit
  renew : MultipartUploadDescriptor → Answer World Unit
  resolve : MultipartUploadDescriptor → Answer World Unit
  releaseForRetry : MultipartUploadDescriptor → String → Answer World Unit

/-- The streaming hash of the library hashes the pieces that it is given as one message. -/
structure CryptoHashSha256 where
  State : Type
  init : State
  update : State → List UInt8 → State
  final : State → List UInt8
  digest : List UInt8 → List UInt8
  streams : ∀ pieces : List (List UInt8), final (pieces.foldl update init) = digest pieces.flatten

inductive S3Request where
  | putObjectIfAbsent (key : String) (data : List UInt8)
  | putObjectFromFileIfAbsent (key path : String)
  | createMultipartUpload (key : String)
  | uploadPart (key uploadId : String) (partNumber : Nat) (data : List UInt8)
  | uploadPartCopy (sourceKey key uploadId : String) (partNumber start length : Nat)
  | completeMultipartUpload (key uploadId : String) (parts : List S3CompletedPart) (onlyIfAbsent : Bool)
  | abortMultipartUpload (key uploadId : String)
  deriving Repr, DecidableEq

structure S3Run (World : Type) where
  world : World
  requests : List S3Request

abbrev S3Task (World Value : Type) := Autocommit (S3Run World) CallFailure Value

section Calls

variable {World Value : Type}

def ask (answer : Answer World Value) : S3Task World Value :=
  ExceptT.mk fun run => ((answer run.world).1, { run with world := (answer run.world).2 })

def send (request : S3Request) (answer : Answer World Value) : S3Task World Value := do
  modify fun run => { run with requests := run.requests ++ [request] }
  ask answer

def fail (code : ErrorCode) (message : String) : S3Task World Value := throw (.error ⟨code, message⟩)

def recovered (message : String) (answer : Answer World Unit) : Answer World Unit := fun world =>
  match answer world with
  | (.error .thrown, next) => (.error (.error ⟨.internalError, message⟩), next)
  | other => other

end Calls

section Guard

variable {World Stream : Type} (client : S3Client World Stream) (journal : MultipartUploadJournal World)
  (descriptor : MultipartUploadDescriptor)

def track : S3Task World Unit :=
  ask (recovered "Failed to track multipart recovery task" (journal.track descriptor))

def renew : S3Task World Unit :=
  ask (recovered "Failed to renew multipart recovery task" (journal.renew descriptor))

/-- A failure of the journal is only logged. -/
def resolveTracked (run : S3Run World) : S3Run World :=
  { run with world := (journal.resolve descriptor run.world).2 }

/-- The destructor of a guard that was not released. -/
def abortUpload (tracked : Bool) (run : S3Run World) : S3Run World :=
  let request := S3Request.abortMultipartUpload descriptor.key descriptor.uploadId
  let aborted := client.abortMultipartUpload descriptor.key descriptor.uploadId run.world
  let sent : S3Run World := ⟨aborted.2, run.requests ++ [request]⟩
  match aborted.1 with
  | .ok () => if tracked then resolveTracked journal descriptor sent else sent
  | .error (.error error) =>
      if tracked then
        { sent with world := (journal.releaseForRetry descriptor error.message sent.world).2 }
      else sent
  | .error .thrown => sent

end Guard

section Assembly

variable {World Stream : Type} (client : S3Client World Stream) (journal : MultipartUploadJournal World)
  (hash : CryptoHashSha256) (descriptor : MultipartUploadDescriptor) (readBufferSize : Nat)

structure AssemblyProgress where
  partBuffer : List UInt8
  completedParts : List S3CompletedPart
  totalSizeBytes : Nat
  nextPartNumber : Nat
  fullMd5 : Md5Context Md5State
  fullSha256 : hash.State

structure ChunkReading (Source : Type) extends AssemblyProgress hash where
  stream : Source
  chunkMd5 : Md5Context Md5State
  chunkSizeBytes : Nat

variable {hash}

def emptyProgress : AssemblyProgress hash where
  partBuffer := []
  completedParts := []
  totalSizeBytes := 0
  nextPartNumber := 1
  fullMd5 := md5Init md5Start
  fullSha256 := hash.init

def uploadPart (progress : AssemblyProgress hash) : S3Task World (AssemblyProgress hash) :=
  if progress.partBuffer = [] then
    pure progress
  else if s3MaxMultipartParts < progress.nextPartNumber then
    fail .validationFailed "S3 staging multipart exceeds 10000 parts"
  else do
    renew journal descriptor
    let etag ← send
      (.uploadPart descriptor.key descriptor.uploadId progress.nextPartNumber progress.partBuffer)
      (client.uploadPart descriptor.key descriptor.uploadId progress.nextPartNumber progress.partBuffer)
    pure { progress with
      completedParts := progress.completedParts ++ [⟨progress.nextPartNumber, etag⟩]
      nextPartNumber := progress.nextPartNumber + 1
      partBuffer := [] }

def AssemblyProgress.append (progress : AssemblyProgress hash) (bytes : List UInt8) :
    AssemblyProgress hash :=
  { progress with
    partBuffer := progress.partBuffer ++ bytes
    totalSizeBytes := progress.totalSizeBytes + bytes.length
    fullMd5 := md5Update md5Transform progress.fullMd5 bytes
    fullSha256 := hash.update progress.fullSha256 bytes }

def uploadFullPart (progress : AssemblyProgress hash) : S3Task World (AssemblyProgress hash) :=
  if progress.partBuffer.length = s3MultipartPartSizeBytes then
    uploadPart client journal descriptor progress
  else pure progress

def requestedBytes (chunk : UploadStagingChunk) (reading : ChunkReading hash Stream) : Nat :=
  min (min (chunk.sizeBytes.toNat - reading.chunkSizeBytes)
    (s3MultipartPartSizeBytes - reading.partBuffer.length)) readBufferSize

def readOnce (chunk : UploadStagingChunk) (reading : ChunkReading hash Stream) :
    S3Task World (ChunkReading hash Stream) :=
  match client.stream.read reading.stream (requestedBytes readBufferSize chunk reading) with
  | (none, _) => throw .thrown
  | (some bytes, stream) =>
      if bytes = [] ∨ requestedBytes readBufferSize chunk reading < bytes.length then
        fail .chunkVerifyFailed "S3 staging chunk range is incomplete"
      else if maxUInt64 - bytes.length < reading.totalSizeBytes then
        fail .validationFailed "S3 staging assembly size overflow"
      else do
        let progress ← uploadFullPart client journal descriptor
          (reading.toAssemblyProgress.append bytes)
        pure {
          toAssemblyProgress := progress
          stream := stream
          chunkMd5 := md5Update md5Transform reading.chunkMd5 bytes
          chunkSizeBytes := reading.chunkSizeBytes + bytes.length }

/-- Every round reads at least one byte, so a chunk needs at most as many rounds as it has bytes. -/
def readChunk (chunk : UploadStagingChunk) : Nat → ChunkReading hash Stream →
    S3Task World (ChunkReading hash Stream)
  | 0, reading => pure reading
  | rounds + 1, reading =>
      if reading.chunkSizeBytes < chunk.sizeBytes.toNat then do
        let next ← readOnce client journal descriptor readBufferSize chunk reading
        readChunk chunk rounds next
      else pure reading

def md5Hex (context : Md5Context Md5State) : String :=
  bytesToHex (md5Final md5Transform context).state.digest

def assembleChunk (progress : AssemblyProgress hash) (chunk : UploadStagingChunk) :
    S3Task World (AssemblyProgress hash) := do
  let head ← ask (client.headObject chunk.objectKey)
  if !head.present || head.size ≠ chunk.sizeBytes || head.etag ≠ chunk.etag then
    fail .chunkVerifyFailed "S3 staging chunk metadata mismatch"
  else
    let opened ← ask (client.getObjectRange chunk.objectKey 0 chunk.sizeBytes.toNat)
    match opened with
    | none => fail .fileReadError "S3 staging chunk stream is unavailable"
    | some stream =>
        let reading ← readChunk client journal descriptor readBufferSize chunk chunk.sizeBytes.toNat
          ⟨progress, stream, md5Init md5Start, 0⟩
        if md5Hex reading.chunkMd5 ≠ chunk.md5Hash then
          fail .chunkVerifyFailed "S3 staging chunk hash mismatch"
        else pure reading.toAssemblyProgress

def assembleParts (chunks : List UploadStagingChunk) : S3Task World (AssemblyProgress hash) := do
  let progress ← chunks.foldlM (assembleChunk client journal descriptor readBufferSize) emptyProgress
  let progress ← uploadPart client journal descriptor progress
  if progress.completedParts = [] then
    fail .chunkVerifyFailed "S3 staging assembly is empty"
  else
    renew journal descriptor
    let _ ← send
      (.completeMultipartUpload descriptor.key descriptor.uploadId progress.completedParts false)
      (client.completeMultipartUpload descriptor.key descriptor.uploadId progress.completedParts false)
    pure progress

variable (hash)

def assembleS3ChunksBlocking (recovery : Option (MultipartUploadJournal World))
    (session : UploadStagingSession) (stateVersion : Nat) (chunks : List UploadStagingChunk) :
    S3Task World UploadStagingAssembly :=
  match recovery with
  | none => fail .internalError "S3 multipart recovery journal is not configured"
  | some journal => do
      let assemblyKey := buildS3AssemblyKey session stateVersion
      let uploadId ← send (.createMultipartUpload assemblyKey) (client.createMultipartUpload assemblyKey)
      let descriptor : MultipartUploadDescriptor := ⟨assemblyKey, uploadId⟩
      guarded (abortUpload client journal descriptor false) (track journal descriptor)
      let (progress : AssemblyProgress hash) ← guarded (abortUpload client journal descriptor true)
        (assembleParts client journal descriptor readBufferSize chunks)
      modify (resolveTracked journal descriptor)
      let head ← ask (client.headObject assemblyKey)
      if !head.present || head.size.toNat ≠ progress.totalSizeBytes then
        fail .chunkVerifyFailed "S3 assembled object metadata mismatch"
      else
        pure ⟨.s3, assemblyKey, .ofNat progress.totalSizeBytes, md5Hex progress.fullMd5,
          bytesToHex (hash.final progress.fullSha256)⟩

end Assembly

section AssembleChunks

variable {World Stream : Type} (client : S3Client World Stream)
  (recovery : Option (MultipartUploadJournal World)) (hash : CryptoHashSha256)

def isSafeObjectComponent (value : String) : Bool :=
  value ≠ "" && value.toList.all fun character =>
    character.isAlphanum || character = '-' || character = '_'

def validateS3Session (session : UploadStagingSession) (configuredStagingPrefix : String) : Bool :=
  session.backend = .s3 && isSafeObjectComponent session.uploadId &&
    isSafeObjectPrefix session.stagingPrefix &&
    session.stagingPrefix = configuredStagingPrefix ++ "/" ++ session.uploadId

def buildS3ChunkKey (session : UploadStagingSession) (chunkIndex : UInt32) (md5Hash : String) : String :=
  session.stagingPrefix ++ "/chunks/" ++ toString chunkIndex.toNat ++ "-" ++ md5Hash ++ ".part"

def validateS3ChunkDescriptor (session : UploadStagingSession) (expectedPosition : Nat)
    (chunk : UploadStagingChunk) : Bool :=
  chunk.chunkIndex.toNat = expectedPosition && isLowerHex chunk.md5Hash 32 &&
    chunk.objectKey = buildS3ChunkKey session chunk.chunkIndex chunk.md5Hash && chunk.etag ≠ ""

def resolveS3ReadBufferSize (configuredSize : UInt32) : Nat :=
  min (max configuredSize.toNat s3MinReadBufferBytes) s3MaxReadBufferBytes

def assembleChunks (localAssembleChunks : S3Task World UploadStagingAssembly)
    (configuredStagingPrefix : String) (assembleBufferSizeBytes : UInt32) (slotFree : Bool)
    (session : UploadStagingSession) (stateVersion expectedChunkCount : Nat)
    (chunks : List UploadStagingChunk) : S3Task World UploadStagingAssembly :=
  if session.backend = .localDisk then
    localAssembleChunks
  else if !validateS3Session session configuredStagingPrefix then
    fail .validationFailed "Invalid S3 upload staging session"
  else if stateVersion = 0 || chunks.length ≠ expectedChunkCount then
    fail .chunkVerifyFailed "Upload chunk descriptor count mismatch"
  else if !chunks.zipIdx.all fun (chunk, position) => validateS3ChunkDescriptor session position chunk then
    fail .chunkVerifyFailed "Invalid S3 staging chunk descriptor"
  else if !slotFree then
    fail .tooManyRequests "Too many concurrent assembly operations, please retry later"
  else
    assembleS3ChunksBlocking client hash (resolveS3ReadBufferSize assembleBufferSizeBytes) recovery
      session stateVersion chunks

end AssembleChunks

section WriteChunk

variable {World Stream : Type} (client : S3Client World Stream) (readBufferSize : Nat)

def hashChunk (size : Nat) : Nat → Stream → Nat → Md5Context Md5State →
    S3Task World (Md5Context Md5State)
  | 0, _, _, context => pure context
  | rounds + 1, stream, totalRead, context =>
      if totalRead < size then
        match client.stream.read stream (min (size - totalRead) readBufferSize) with
        | (none, _) => throw .thrown
        | (some bytes, next) =>
            if bytes = [] ∨ min (size - totalRead) readBufferSize < bytes.length then
              fail .chunkVerifyFailed "S3 staging chunk range is incomplete"
            else
              hashChunk size rounds next (totalRead + bytes.length)
                (md5Update md5Transform context bytes)
      else pure context

def verifyS3ChunkObject (chunk : UploadStagingChunk) (verifyEtag : Bool) :
    S3Task World S3HeadObjectResult := do
  let head ← ask (client.headObject chunk.objectKey)
  if !head.present then
    fail .chunkVerifyFailed "S3 staging chunk object is missing"
  else if head.etag = "" then
    fail .chunkVerifyFailed "S3 staging chunk ETag is empty"
  else if head.size ≠ chunk.sizeBytes || verifyEtag && head.etag ≠ chunk.etag then
    fail .chunkVerifyFailed "S3 staging chunk metadata mismatch"
  else
    let opened ← ask (client.getObjectRange chunk.objectKey 0 chunk.sizeBytes.toNat)
    match opened with
    | none => fail .fileReadError "S3 staging chunk stream is unavailable"
    | some stream =>
        let context ← hashChunk client readBufferSize chunk.sizeBytes.toNat chunk.sizeBytes.toNat stream
          0 (md5Init md5Start)
        if md5Hex context ≠ chunk.md5Hash then
          fail .chunkVerifyFailed "S3 staging chunk hash mismatch"
        else pure head

def writeS3Chunk (session : UploadStagingSession) (configuredStagingPrefix : String)
    (chunkIndex : UInt32) (md5Hash : String) (data : List UInt8) : S3Task World UploadStagingChunk :=
  if !validateS3Session session configuredStagingPrefix then
    fail .validationFailed "Invalid S3 upload staging session"
  else if !isLowerHex md5Hash 32 then
    fail .chunkVerifyFailed "Invalid S3 staging chunk hash"
  else if hashMd5 data ≠ md5Hash then
    fail .chunkVerifyFailed "S3 staging chunk hash mismatch"
  else do
    let key := buildS3ChunkKey session chunkIndex md5Hash
    let sizeBytes := UInt64.ofNat data.length
    let put ← send (.putObjectIfAbsent key data) (client.putObjectIfAbsent key data)
    let chunk : UploadStagingChunk := ⟨chunkIndex, sizeBytes, md5Hash, key, put.etag⟩
    if !put.created then
      let head ← verifyS3ChunkObject client readBufferSize chunk false
      pure { chunk with etag := head.etag }
    else
      let head ← ask (client.headObject key)
      if !head.present || head.size ≠ sizeBytes || put.etag ≠ "" && head.etag ≠ put.etag then
        fail .chunkVerifyFailed "S3 staging chunk metadata mismatch"
      else if head.etag = "" then
        fail .chunkVerifyFailed "S3 staging chunk ETag is empty"
      else pure { chunk with etag := head.etag }

end WriteChunk

section PromoteToFinal

variable {World Stream : Type} (client : S3Client World Stream)

def verifyFinalObjectSize (key : String) (expectedSize : UInt64) : S3Task World Unit := do
  let head ← ask (client.headObject key)
  if !head.present || head.size ≠ expectedSize then
    fail .chunkVerifyFailed "S3 final object size mismatch"
  else pure ()

structure CopyProgress where
  offset : Nat
  completedParts : List S3CompletedPart

def copyPart (journal : MultipartUploadJournal World) (descriptor : MultipartUploadDescriptor)
    (sourceKey : String) (expectedSize : Nat) (progress : CopyProgress) (partIndex : Nat) :
    S3Task World CopyProgress := do
  renew journal descriptor
  let length := min s3MultipartPartSizeBytes (expectedSize - progress.offset)
  let etag ← send
    (.uploadPartCopy sourceKey descriptor.key descriptor.uploadId (partIndex + 1) progress.offset length)
    (client.uploadPartCopy sourceKey descriptor.key descriptor.uploadId (partIndex + 1) progress.offset
      length)
  pure ⟨progress.offset + length, progress.completedParts ++ [⟨partIndex + 1, etag⟩]⟩

def copyPartCount (expectedSize : Nat) : Nat := 1 + (expectedSize - 1) / s3MultipartPartSizeBytes

def copyParts (journal : MultipartUploadJournal World) (descriptor : MultipartUploadDescriptor)
    (sourceKey : String) (expectedSize : Nat) : S3Task World Bool := do
  let progress ← (List.range (copyPartCount expectedSize)).foldlM
    (copyPart client journal descriptor sourceKey expectedSize) ⟨0, []⟩
  renew journal descriptor
  send (.completeMultipartUpload descriptor.key descriptor.uploadId progress.completedParts true)
    (client.completeMultipartUpload descriptor.key descriptor.uploadId progress.completedParts true)

/-- The upload of a final object that already existed is aborted when the task ends. -/
def copyToFinal (journal : MultipartUploadJournal World) (sourceKey key : String)
    (expectedSize : UInt64) : S3Task World BlobPromoteResult := do
  let uploadId ← send (.createMultipartUpload key) (client.createMultipartUpload key)
  let descriptor : MultipartUploadDescriptor := ⟨key, uploadId⟩
  guarded (abortUpload client journal descriptor false) (track journal descriptor)
  let created ← guarded (abortUpload client journal descriptor true)
    (copyParts client journal descriptor sourceKey expectedSize.toNat)
  if created then
    modify (resolveTracked journal descriptor)
    verifyFinalObjectSize client key expectedSize
  else
    guarded (abortUpload client journal descriptor true) (verifyFinalObjectSize client key expectedSize)
    modify (abortUpload client journal descriptor true)
  pure ⟨key, created⟩

def textBetween (first last text : List Char) : Option (List Char) :=
  if first.isPrefixOf text && last.isSuffixOf text && first.length + last.length < text.length then
    some ((text.drop first.length).take (text.length - first.length - last.length))
  else
    none

def isAssemblyKeyForSession (session : UploadStagingSession) (key : String) : Bool :=
  match textBetween (session.stagingPrefix ++ "/assembled/").toList ".bin".toList key.toList with
  | none => false
  | some text =>
      match (String.ofList text).toNat? with
      | none => false
      | some stateVersion =>
          stateVersion ≤ maxUInt64 && 0 < stateVersion && toString stateVersion = String.ofList text

def validateS3AssemblyLocator (assembly : UploadStagingAssembly) (configuredStagingPrefix : String) :
    Bool :=
  let sessionRoot := configuredStagingPrefix ++ "/"
  let inside := assembly.locator.toList.drop sessionRoot.length
  let uploadId := String.ofList (inside.takeWhile (· ≠ '/'))
  let session : UploadStagingSession := ⟨uploadId, .s3, sessionRoot ++ uploadId⟩
  assembly.backend = .s3 && sessionRoot.toList.isPrefixOf assembly.locator.toList &&
    inside.contains '/' && validateS3Session session configuredStagingPrefix &&
    isAssemblyKeyForSession session assembly.locator

def promoteBlocking (recovery : Option (MultipartUploadJournal World))
    (localFileSize : String → Option UInt64) (assembly : UploadStagingAssembly) (key : String) :
    S3Task World BlobPromoteResult := do
  let expectedSize := assembly.sizeBytes
  let head ← ask (client.headObject key)
  if head.present then
    if head.size ≠ expectedSize then
      fail .chunkVerifyFailed "Existing S3 final object size mismatch"
    else pure ⟨key, false⟩
  else if assembly.backend = .localDisk then
    if localFileSize assembly.locator ≠ some expectedSize then
      fail .chunkVerifyFailed "Local assembled blob size mismatch"
    else
      let put ← send (.putObjectFromFileIfAbsent key assembly.locator)
        (client.putObjectFromFileIfAbsent key assembly.locator)
      verifyFinalObjectSize client key expectedSize
      pure ⟨key, put.created⟩
  else
    let sourceHead ← ask (client.headObject assembly.locator)
    if !sourceHead.present || sourceHead.size ≠ expectedSize then
      fail .chunkVerifyFailed "S3 assembled source size mismatch"
    else if expectedSize = 0 then
      let put ← send (.putObjectIfAbsent key []) (client.putObjectIfAbsent key [])
      verifyFinalObjectSize client key expectedSize
      pure ⟨key, put.created⟩
    else if s3MaxMultipartParts < copyPartCount expectedSize.toNat then
      fail .validationFailed "S3 final copy exceeds multipart part limit"
    else
      match recovery with
      | none => fail .internalError "S3 multipart recovery journal is not configured"
      | some journal => copyToFinal client journal assembly.locator key expectedSize

def promoteToFinal (recovery : Option (MultipartUploadJournal World))
    (localFileSize : String → Option UInt64) (configuredStagingPrefix configuredObjectPrefix : String)
    (assembly : UploadStagingAssembly) (sha256Hash : String) : S3Task World BlobPromoteResult :=
  if !isLowerHex sha256Hash 64 || assembly.sha256Hash ≠ sha256Hash || assembly.locator = "" then
    fail .validationFailed "Invalid SHA-256 S3 blob promotion request"
  else if assembly.backend = .s3 && !validateS3AssemblyLocator assembly configuredStagingPrefix then
    fail .validationFailed "Invalid S3 assembled object locator"
  else
    promoteBlocking client recovery localFileSize assembly
      (finalObjectKey configuredObjectPrefix sha256Hash)

end PromoteToFinal

end DiskServer.Storage
