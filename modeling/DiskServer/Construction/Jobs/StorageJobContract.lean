import DiskServer.Construction.ErrorCode
import DiskServer.Construction.Jobs.MultipartUploadJournal

/-
This file gives the builders and the parsers of the six kinds of storage jobs.
-/

namespace DiskServer.Jobs

open Upload (UploadStagingBackend)

def expireUploadsJobType : String := "expire_uploads"

def expireTrashJobType : String := "expire_trash"

def storageReconcileJobType : String := "storage_reconcile"

def defaultMaxAttempts : Nat := 8

def isSafeScanId (scanId : String) : Bool :=
  scanId ≠ "" && scanId.utf8ByteSize ≤ 64 && scanId.toList.all fun character =>
    character.isAlphanum || character = '.' || character = '_' || character = ':' || character = '-'

def rejectIf (condition : Prop) [Decidable condition] (error : String) : Except String Unit :=
  if condition then .error error else .ok ()

def validateObjectShape (payload : Json) (expectedFields : Nat) (jobType : String) :
    Except String Unit :=
  rejectIf (payload.isObject = false ∨ payload.size ≠ expectedFields)
    (jobType ++ " payload has an invalid object shape")

section Pages

structure ScanPage where
  scanId : String
  cursor : UInt64
  limit : UInt64
  deriving Repr, DecidableEq

structure ScanContract where
  jobType : String
  cursorField : String
  keyStart : String
  cursorError : String
  maxPageSize : UInt64

def ScanContract.validate (contract : ScanContract) (page : ScanPage) : Except String Unit :=
  if isSafeScanId page.scanId = false then
    .error (contract.jobType ++ " scan_id is invalid")
  else if page.cursor = 18446744073709551615 then
    .error (contract.jobType ++ contract.cursorError)
  else if page.limit = 0 ∨ contract.maxPageSize < page.limit then
    .error (contract.jobType ++ " limit must be in range 1-500")
  else
    .ok ()

def ScanContract.job (contract : ScanContract) (page : ScanPage) : NewStorageJob where
  jobType := contract.jobType
  aggregateId := page.scanId
  dedupeKey := contract.keyStart ++ page.scanId ++ ":" ++ toString page.cursor.toNat
  payload := .object [("scan_id", .string page.scanId),
    (contract.cursorField, .number page.cursor.toNat), ("limit", .number page.limit.toNat)]
  maxAttempts := defaultMaxAttempts

def ScanContract.build (contract : ScanContract) (page : ScanPage) : Except String NewStorageJob := do
  contract.validate page
  pure (contract.job page)

def ScanContract.parse (contract : ScanContract) (job : StorageJob) : Except String ScanPage := do
  rejectIf (job.jobType ≠ contract.jobType)
    (contract.jobType ++ " job type does not match parser")
  validateObjectShape job.payload 3 contract.jobType
  match (job.payload.field "scan_id").string?, (job.payload.field contract.cursorField).uint64?,
      (job.payload.field "limit").uint64? with
  | some scanId, some cursor, some limit =>
      let expected ← contract.build ⟨scanId, cursor, limit⟩
      rejectIf (job.aggregateId ≠ expected.aggregateId)
        (contract.jobType ++ " aggregate_id does not match scan_id")
      rejectIf (job.dedupeKey ≠ expected.dedupeKey)
        (contract.jobType ++ " dedupe_key does not match payload")
      pure ⟨scanId, cursor, limit⟩
  | _, _, _ => throw (contract.jobType ++ " payload field types are invalid")

end Pages

def defaultExpireUploadsPageSize : UInt64 := 100

def maxExpireUploadsPageSize : UInt64 := 500

def expireUploadsContract : ScanContract where
  jobType := expireUploadsJobType
  cursorField := "page"
  keyStart := "periodic:expire-uploads:"
  cursorError := " page cannot be incremented"
  maxPageSize := maxExpireUploadsPageSize

structure ExpireUploadsPageRequest where
  scanId : String
  page : UInt64 := 0
  limit : UInt64 := defaultExpireUploadsPageSize
  deriving Repr, DecidableEq

def ExpireUploadsPageRequest.scanPage (request : ExpireUploadsPageRequest) : ScanPage :=
  ⟨request.scanId, request.page, request.limit⟩

def validateExpireUploadsPageRequest (request : ExpireUploadsPageRequest) : Except String Unit :=
  expireUploadsContract.validate request.scanPage

def buildExpireUploadsJob (request : ExpireUploadsPageRequest) : Except String NewStorageJob :=
  expireUploadsContract.build request.scanPage

def parseExpireUploadsJob (job : StorageJob) : Except String ExpireUploadsPageRequest :=
  (expireUploadsContract.parse job).map fun page => ⟨page.scanId, page.cursor, page.limit⟩

def defaultExpireTrashPageSize : UInt64 := 100

def maxExpireTrashPageSize : UInt64 := 500

def expireTrashContract : ScanContract where
  jobType := expireTrashJobType
  cursorField := "after_id"
  keyStart := "periodic:expire-trash:"
  cursorError := " after_id cannot advance"
  maxPageSize := maxExpireTrashPageSize

structure ExpireTrashPageRequest where
  scanId : String
  afterId : UInt64 := 0
  limit : UInt64 := defaultExpireTrashPageSize
  deriving Repr, DecidableEq

def ExpireTrashPageRequest.scanPage (request : ExpireTrashPageRequest) : ScanPage :=
  ⟨request.scanId, request.afterId, request.limit⟩

def validateExpireTrashPageRequest (request : ExpireTrashPageRequest) : Except String Unit :=
  expireTrashContract.validate request.scanPage

def buildExpireTrashJob (request : ExpireTrashPageRequest) : Except String NewStorageJob :=
  expireTrashContract.build request.scanPage

def parseExpireTrashJob (job : StorageJob) : Except String ExpireTrashPageRequest :=
  (expireTrashContract.parse job).map fun page => ⟨page.scanId, page.cursor, page.limit⟩

section Reconciliation

inductive ReconciliationScope where
  | contents
  | users
  | staging
  | final
  deriving Repr, DecidableEq

def ReconciliationScope.toStorageValue : ReconciliationScope → String
  | .contents => "contents"
  | .users => "users"
  | .staging => "staging"
  | .final => "final"

def parseReconciliationScope (value : String) : Option ReconciliationScope :=
  if value = "contents" then some .contents
  else if value = "users" then some .users
  else if value = "staging" then some .staging
  else if value = "final" then some .final
  else none

structure ReconciliationPageRequest where
  scanId : String
  scope : ReconciliationScope := .contents
  afterId : UInt64 := 0
  continuationToken : String
  limit : UInt64 := 100
  deriving Repr, DecidableEq

def maxDatabaseReconciliationPageSize : UInt64 := 500

def maxObjectReconciliationPageSize : UInt64 := 1000

def isDatabaseScope (scope : ReconciliationScope) : Bool := scope = .contents || scope = .users

def maximumPageSize (scope : ReconciliationScope) : UInt64 :=
  if isDatabaseScope scope then maxDatabaseReconciliationPageSize else maxObjectReconciliationPageSize

def validateReconciliationPageRequest (request : ReconciliationPageRequest) : Except ErrorInfo Unit :=
  if isSafeScanId request.scanId = false then
    .error ⟨.validationFailed, "Invalid reconciliation scan ID"⟩
  else if request.limit = 0 ∨ maximumPageSize request.scope < request.limit then
    .error ⟨.validationFailed, "Invalid reconciliation page size"⟩
  else if isDatabaseScope request.scope = true ∧ request.continuationToken ≠ "" then
    .error ⟨.validationFailed, "Database reconciliation cannot use an object cursor"⟩
  else if isDatabaseScope request.scope = false ∧ request.afterId ≠ 0 then
    .error ⟨.validationFailed, "Object reconciliation cannot use a database cursor"⟩
  else if 4096 < request.continuationToken.utf8ByteSize then
    .error ⟨.validationFailed, "Reconciliation continuation token is too long"⟩
  else
    .ok ()

variable (sha256 : String → String)

def ReconciliationPageRequest.cursorText (request : ReconciliationPageRequest) : String :=
  request.scope.toStorageValue ++ "\n" ++ toString request.afterId.toNat ++ "\n" ++
    request.continuationToken

def buildReconciliationCursorDigest (request : ReconciliationPageRequest) : String :=
  sha256 request.cursorText

def storageReconcileJob (request : ReconciliationPageRequest) : NewStorageJob where
  jobType := storageReconcileJobType
  aggregateId := request.scanId
  dedupeKey := "periodic:storage-reconcile:" ++ request.scanId ++ ":" ++
    request.scope.toStorageValue ++ ":" ++ buildReconciliationCursorDigest sha256 request
  payload := .object [("scan_id", .string request.scanId),
    ("scope", .string request.scope.toStorageValue),
    ("after_id", .number request.afterId.toNat),
    ("continuation_token", .string request.continuationToken),
    ("limit", .number request.limit.toNat)]
  maxAttempts := defaultMaxAttempts

def buildStorageReconcileJob (request : ReconciliationPageRequest) : Except String NewStorageJob :=
  match validateReconciliationPageRequest request with
  | .error error => .error error.message
  | .ok () => .ok (storageReconcileJob sha256 request)

def parseStorageReconcileJob (job : StorageJob) : Except String ReconciliationPageRequest := do
  rejectIf (job.jobType ≠ storageReconcileJobType) "storage_reconcile job type does not match parser"
  validateObjectShape job.payload 5 storageReconcileJobType
  match (job.payload.field "scan_id").string?, (job.payload.field "scope").string?,
      (job.payload.field "after_id").uint64?, (job.payload.field "continuation_token").string?,
      (job.payload.field "limit").uint64? with
  | some scanId, some scopeName, some afterId, some continuationToken, some limit =>
      match parseReconciliationScope scopeName with
      | none => throw "storage_reconcile scope is invalid"
      | some scope =>
          let expected ← buildStorageReconcileJob sha256 ⟨scanId, scope, afterId, continuationToken, limit⟩
          rejectIf (job.aggregateId ≠ expected.aggregateId)
            "storage_reconcile aggregate_id does not match scan_id"
          rejectIf (job.dedupeKey ≠ expected.dedupeKey)
            "storage_reconcile dedupe_key does not match payload"
          pure ⟨scanId, scope, afterId, continuationToken, limit⟩
  | _, _, _, _, _ => throw "storage_reconcile payload field types are invalid"

end Reconciliation

section Executors

def requireText (jobType : String) (payload : Json) (field : String) : Except String String :=
  match (payload.field field).string? with
  | some text =>
      if text = "" then .error (jobType ++ " payload requires non-empty string field: " ++ field)
      else .ok text
  | none => .error (jobType ++ " payload requires non-empty string field: " ++ field)

def stagingBackendToStorageValue : UploadStagingBackend → String
  | .localDisk => "local"
  | .s3 => "s3"

def parseUploadStagingBackend (value : String) : Option UploadStagingBackend :=
  if value = "local" then some .localDisk
  else if value = "s3" then some .s3
  else none

structure UploadStagingSession where
  uploadId : String
  backend : UploadStagingBackend
  stagingPrefix : String
  deriving Repr, DecidableEq

def buildStagingCleanupJob (session : UploadStagingSession) : NewStorageJob where
  jobType := stagingCleanupJobType
  aggregateId := session.uploadId
  dedupeKey := "staging-cleanup:" ++ session.uploadId
  payload := .object [("upload_id", .string session.uploadId),
    ("backend", .string (stagingBackendToStorageValue session.backend)),
    ("prefix", .string session.stagingPrefix)]
  maxAttempts := defaultMaxAttempts

def parseStagingSession (job : StorageJob) : Except String UploadStagingSession := do
  rejectIf (job.payload.isObject = false) "staging_cleanup payload must be a JSON object"
  let uploadId ← requireText stagingCleanupJobType job.payload "upload_id"
  let backendName ← requireText stagingCleanupJobType job.payload "backend"
  let stagingPrefix ← requireText stagingCleanupJobType job.payload "prefix"
  rejectIf (uploadId ≠ job.aggregateId) "staging_cleanup aggregate_id does not match upload_id"
  match parseUploadStagingBackend backendName with
  | none => throw "staging_cleanup payload contains an unsupported backend"
  | some backend => pure ⟨uploadId, backend, stagingPrefix⟩

def multipartAbortJob (sha256 : String → String) (descriptor : MultipartUploadDescriptor) :
    NewStorageJob where
  jobType := multipartAbortJobType
  aggregateId := buildMultipartUploadRecoveryId sha256 descriptor
  dedupeKey := buildMultipartUploadRecoveryDedupeKey sha256 descriptor
  payload := multipartPayload descriptor
  maxAttempts := multipartAbortMaxAttempts

def parseMultipartUpload (sha256 : String → String) (job : StorageJob) :
    Except String MultipartUploadDescriptor := do
  rejectIf (job.payload.isObject = false) "multipart_abort payload must be a JSON object"
  let backend ← requireText multipartAbortJobType job.payload "backend"
  let key ← requireText multipartAbortJobType job.payload "key"
  let uploadId ← requireText multipartAbortJobType job.payload "upload_id"
  rejectIf (backend ≠ "s3") "multipart_abort payload contains an unsupported backend"
  rejectIf (job.aggregateId ≠ buildMultipartUploadRecoveryId sha256 ⟨key, uploadId⟩)
    "multipart_abort aggregate_id does not match payload"
  rejectIf (job.dedupeKey ≠ buildMultipartUploadRecoveryDedupeKey sha256 ⟨key, uploadId⟩)
    "multipart_abort dedupe_key does not match payload"
  pure ⟨key, uploadId⟩

structure BlobGcCandidate where
  contentId : UInt64
  storagePath : String
  deriving Repr, DecidableEq

def BlobGcCandidate.job (candidate : BlobGcCandidate) : NewStorageJob :=
  blobGcJob candidate.contentId.toNat candidate.storagePath

def parseBlobGcCandidate (job : StorageJob) : Except String BlobGcCandidate := do
  rejectIf (job.payload.isObject = false) "blob_gc payload must be a JSON object"
  match (job.payload.field "content_id").uint64? with
  | none => throw "blob_gc payload requires a positive uint64 content_id"
  | some contentId =>
      rejectIf (contentId = 0) "blob_gc payload requires a positive uint64 content_id"
      match (job.payload.field "storage_path").string? with
      | none => throw "blob_gc payload requires a non-empty storage_path"
      | some storagePath =>
          rejectIf (storagePath = "") "blob_gc payload requires a non-empty storage_path"
          rejectIf (job.aggregateId ≠ toString contentId.toNat) "blob_gc aggregate_id does not match content_id"
          pure ⟨contentId, storagePath⟩

end Executors

section Keys

def segments : List Char → List (List Char)
  | [] => [[]]
  | character :: rest =>
      if character = '/' then [] :: segments rest
      else
        match segments rest with
        | [] => [[character]]
        | segment :: others => (character :: segment) :: others

def isSafeCharacter (character : Char) : Bool :=
  character.isAlphanum || character = '.' || character = '_' || character = '-'

def isDotSegment (segment : List Char) : Bool :=
  segment = [] || segment = ['.'] || segment = ['.', '.']

/-- The check excludes a leading and a trailing slash because they make an empty segment. -/
def isSafeObjectPrefix (key : String) : Bool :=
  key.utf8ByteSize ≤ 1024 &&
    (segments key.toList).all fun segment => !isDotSegment segment && segment.all isSafeCharacter

def trimSlashes (text : String) : String :=
  String.ofList ((text.toList.dropWhile (· = '/')).reverse.dropWhile (· = '/')).reverse

def normalizeObjectPrefix (text fallback fieldName : String) : Except String String :=
  let trimmed := trimSlashes text
  if trimmed = "" then
    .ok fallback
  else
    match (segments trimmed.toList).find? fun segment =>
        !segment.all isSafeCharacter || isDotSegment segment with
    | none => .ok trimmed
    | some segment =>
        if segment.all isSafeCharacter then
          .error ("Invalid " ++ fieldName ++ ": unsafe path segment")
        else
          .error ("Invalid " ++ fieldName ++ ": unsupported character")

def isLowerHex (value : String) (expectedSize : Nat) : Bool :=
  value.utf8ByteSize = expectedSize &&
    value.toList.all fun character => character.isDigit || ('a' ≤ character && character ≤ 'f')

def buildS3AssemblyKey (session : UploadStagingSession) (stateVersion : Nat) : String :=
  session.stagingPrefix ++ "/assembled/" ++ toString stateVersion ++ ".bin"

def finalObjectKey (objectPrefix sha256Hash : String) : String :=
  objectPrefix ++ "/sha256/" ++ substr sha256Hash 2 ++ "/" ++ sha256Hash ++ ".bin"

inductive BuiltKey : String → Prop where
  | assembled (session : UploadStagingSession) (stateVersion : Nat)
      (safe : isSafeObjectPrefix session.stagingPrefix = true) :
      BuiltKey (buildS3AssemblyKey session stateVersion)
  | promoted (configured objectPrefix sha256Hash : String)
      (normalized : normalizeObjectPrefix configured "objects" "s3.object_prefix" = .ok objectPrefix)
      (digest : isLowerHex sha256Hash 64 = true) :
      BuiltKey (finalObjectKey objectPrefix sha256Hash)

end Keys

inductive JobRequest where
  | expireUploads (request : ExpireUploadsPageRequest)
  | expireTrash (request : ExpireTrashPageRequest)
  | storageReconcile (request : ReconciliationPageRequest)
  | stagingCleanup (session : UploadStagingSession)
  | multipartAbort (descriptor : MultipartUploadDescriptor)
  | blobGc (candidate : BlobGcCandidate)
  deriving Repr, DecidableEq

inductive JobCursor where
  | none
  | page (page : UInt64)
  | afterId (afterId : UInt64)
  | reconciliation (scope : ReconciliationScope) (afterId : UInt64) (continuationToken : String)
  deriving Repr, DecidableEq

inductive JobAggregate where
  | scan (scanId : String)
  | upload (uploadId : String)
  | multipartUpload (descriptor : MultipartUploadDescriptor)
  | content (contentId : UInt64)
  deriving Repr, DecidableEq

namespace JobRequest

def cursor : JobRequest → JobCursor
  | .expireUploads request => .page request.page
  | .expireTrash request => .afterId request.afterId
  | .storageReconcile request =>
      .reconciliation request.scope request.afterId request.continuationToken
  | .stagingCleanup _ => .none
  | .multipartAbort _ => .none
  | .blobGc _ => .none

def aggregate : JobRequest → JobAggregate
  | .expireUploads request => .scan request.scanId
  | .expireTrash request => .scan request.scanId
  | .storageReconcile request => .scan request.scanId
  | .stagingCleanup session => .upload session.uploadId
  | .multipartAbort descriptor => .multipartUpload descriptor
  | .blobGc candidate => .content candidate.contentId

def digestTexts : JobRequest → List String
  | .storageReconcile request => [request.cursorText]
  | .multipartAbort descriptor => [descriptor.key ++ "\n" ++ descriptor.uploadId]
  | _ => []

def KeysBuilt : JobRequest → Prop
  | .multipartAbort descriptor => BuiltKey descriptor.key
  | _ => True

/-- The builder of a kind of job and the callers of the builder check these conditions. -/
def Valid : JobRequest → Prop
  | .expireUploads request => validateExpireUploadsPageRequest request = .ok ()
  | .expireTrash request => validateExpireTrashPageRequest request = .ok ()
  | .storageReconcile request => validateReconciliationPageRequest request = .ok ()
  | .stagingCleanup session => session.uploadId ≠ "" ∧ session.stagingPrefix ≠ ""
  | .multipartAbort descriptor => validateDescriptor descriptor = true
  | .blobGc candidate => candidate.contentId ≠ 0 ∧ candidate.storagePath ≠ ""

def texts : JobRequest → List String
  | .expireUploads request => [request.scanId]
  | .expireTrash request => [request.scanId]
  | .storageReconcile request => [request.scanId, request.continuationToken]
  | .stagingCleanup session => [session.uploadId, session.stagingPrefix]
  | .multipartAbort descriptor => [descriptor.key, descriptor.uploadId]
  | .blobGc candidate => [candidate.storagePath]

variable (sha256 : String → String)

def build : JobRequest → Except String NewStorageJob
  | .expireUploads request => buildExpireUploadsJob request
  | .expireTrash request => buildExpireTrashJob request
  | .storageReconcile request => buildStorageReconcileJob sha256 request
  | .stagingCleanup session => .ok (buildStagingCleanupJob session)
  | .multipartAbort descriptor =>
      if validateDescriptor descriptor then .ok (multipartAbortJob sha256 descriptor)
      else .error "Invalid multipart upload descriptor"
  | .blobGc candidate => .ok candidate.job

def parse (job : StorageJob) : Except String JobRequest :=
  if job.jobType = stagingCleanupJobType then (parseStagingSession job).map .stagingCleanup
  else if job.jobType = multipartAbortJobType then
    (parseMultipartUpload sha256 job).map .multipartAbort
  else if job.jobType = blobGcJobType then (parseBlobGcCandidate job).map .blobGc
  else if job.jobType = expireUploadsJobType then (parseExpireUploadsJob job).map .expireUploads
  else if job.jobType = expireTrashJobType then (parseExpireTrashJob job).map .expireTrash
  else if job.jobType = storageReconcileJobType then
    (parseStorageReconcileJob sha256 job).map .storageReconcile
  else .error "Unsupported storage job type"

end JobRequest

/-- The columns of a row after its payload went through the jsonb column. -/
structure NewStorageJob.StoredAs (job : NewStorageJob) (row : StorageJob) : Prop where
  jobType : row.jobType = job.jobType
  aggregateId : row.aggregateId = job.aggregateId
  dedupeKey : row.dedupeKey = job.dedupeKey
  payload : job.payload.stored = some row.payload

end DiskServer.Jobs
