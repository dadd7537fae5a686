import DiskServer.Construction.Storage.S3ObjectStorage

/-
This file gives the object prefixes that the configuration accepts, the staging session of an upload, and
the cleanup that deletes what a session has staged.
-/

namespace DiskServer.Storage

open Library Jobs
open Upload (UploadStagingBackend)

def startsWith (text start : String) : Bool := start.toList.isPrefixOf text.toList

section Configuration

def prefixesOverlap (left right : String) : Bool :=
  left = right ||
    (left.utf8ByteSize < right.utf8ByteSize && startsWith right left &&
      right.toList[left.length]? = some '/') ||
    (right.utf8ByteSize < left.utf8ByteSize && startsWith left right &&
      left.toList[right.length]? = some '/')

structure S3Prefixes where
  objectPrefix : String
  stagingPrefix : String
  deriving Repr, DecidableEq

def loadPrefixes (objectPrefix stagingPrefix : String) : Except String S3Prefixes := do
  let objectPrefix ← normalizeObjectPrefix objectPrefix "objects" "s3.object_prefix"
  let stagingPrefix ← normalizeObjectPrefix stagingPrefix "staging" "s3.staging_prefix"
  if prefixesOverlap objectPrefix stagingPrefix then
    throw "S3 object and staging prefixes must not overlap"
  else pure ⟨objectPrefix, stagingPrefix⟩

end Configuration

section Sessions

def stagingSession (stagingPrefix uploadId : String) : UploadStagingSession :=
  ⟨uploadId, .s3, stagingPrefix ++ "/" ++ uploadId⟩

def validateS3ChunkIdentity (session : UploadStagingSession) (chunk : UploadStagingChunk) : Bool :=
  isLowerHex chunk.md5Hash 32 &&
    chunk.objectKey = buildS3ChunkKey session chunk.chunkIndex chunk.md5Hash

def resolveFinalObjectKey (storagePath configuredObjectPrefix : String) : Except ErrorInfo String :=
  if !startsWith storagePath (configuredObjectPrefix ++ "/") || !isSafeObjectPrefix storagePath then
    .error ⟨.validationFailed, "Invalid S3 final object key"⟩
  else .ok storagePath

def cleanupPrefix (session : UploadStagingSession) : String := session.stagingPrefix ++ "/"

structure S3ListResult where
  keys : List String
  isTruncated : Bool
  continuationToken : String
  deriving Repr, DecidableEq

structure CleanupAnswer where
  listed : Except ErrorInfo S3ListResult
  deleted : Except ErrorInfo Unit

structure CleanupRun where
  deletes : List String
  result : Option (Except ErrorInfo Unit)

def cleanupFailed (message : String) : Except ErrorInfo Unit := .error ⟨.internalError, message⟩

def cleanupLoop (cleanupPrefix : String) : String → List CleanupAnswer → CleanupRun
  | _, [] => ⟨[], none⟩
  | continuationToken, answer :: answers =>
      match answer.listed with
      | .error error => ⟨[], some (.error error)⟩
      | .ok page =>
          if !page.keys.all fun key => startsWith key cleanupPrefix then
            ⟨[], some (cleanupFailed "S3 cleanup listed an object outside the upload session")⟩
          else
            match if page.keys = [] then .ok () else answer.deleted with
            | .error error => ⟨page.keys, some (.error error)⟩
            | .ok () =>
                if !page.isTruncated then ⟨page.keys, some (.ok ())⟩
                else if page.continuationToken = "" ∨ page.continuationToken = continuationToken then
                  ⟨page.keys, some (cleanupFailed "S3 cleanup pagination did not advance")⟩
                else
                  let later := cleanupLoop cleanupPrefix page.continuationToken answers
                  ⟨page.keys ++ later.deletes, later.result⟩

def cleanupSession (configuredStagingPrefix : String) (session : UploadStagingSession)
    (answers : List CleanupAnswer) : CleanupRun :=
  if !validateS3Session session configuredStagingPrefix then
    ⟨[], some (.error ⟨.validationFailed, "Invalid S3 upload staging session"⟩)⟩
  else cleanupLoop (cleanupPrefix session) "" answers

end Sessions

end DiskServer.Storage
