import DiskServer.Construction.Jobs.StorageJobContract
import DiskServer.Construction.Utils.FileHashUtil
import DiskServer.Library.Separator
import DiskServer.Proof.Json

namespace DiskServer.Jobs

open Library Upload

/-- A checked step of a parser went through. -/
theorem bind_ok {Value Result : Type} {step : Except String Value} {next : Value → Except String Result}
    {result : Result} (ran : step >>= next = .ok result) :
    ∃ value, step = .ok value ∧ next value = .ok result := by
  cases step with
  | error => cases ran
  | ok value => exact ⟨value, rfl, ran⟩

theorem rejectIf_ok {condition : Prop} [Decidable condition] {error : String} {Result : Type}
    {next : Unit → Except String Result} {result : Result}
    (ran : rejectIf condition error >>= next = .ok result) :
    ¬ condition ∧ next () = .ok result := by
  unfold rejectIf at ran
  split at ran
  · cases ran
  · exact ⟨‹_›, ran⟩

theorem rejectIf_then {condition : Prop} [Decidable condition] {error : String} {Result : Type}
    {next : Unit → Except String Result} {result : Result} (passes : ¬ condition)
    (ran : next () = .ok result) : (rejectIf condition error >>= next) = .ok result := by
  rw [rejectIf, if_neg passes]
  exact ran

theorem bind_then {Value Result : Type} {step : Except String Value}
    {next : Value → Except String Result} {value : Value} {result : Result} (made : step = .ok value)
    (ran : next value = .ok result) : (step >>= next) = .ok result := by
  rw [made]
  exact ran

theorem not_shape {payload : Json} {expectedFields : Nat} (shape : payload.isObject = true)
    (size : payload.size = expectedFields) :
    ¬ (payload.isObject = false ∨ payload.size ≠ expectedFields) := by
  simp [shape, size]

theorem shape_of_not {payload : Json} {expectedFields : Nat}
    (passes : ¬ (payload.isObject = false ∨ payload.size ≠ expectedFields)) :
    payload.isObject = true ∧ payload.size = expectedFields := by
  rw [not_or, Bool.not_eq_false, not_not] at passes
  exact passes

section Pages

variable {contract : ScanContract} {page : ScanPage} {row : StorageJob}

theorem ScanContract.build_ok {job : NewStorageJob} (built : contract.build page = .ok job) :
    contract.validate page = .ok () ∧ job = contract.job page := by
  obtain ⟨_, valid, same⟩ := bind_ok built
  exact ⟨valid, (Except.ok.inj same).symm⟩

theorem ScanContract.build_of_valid (valid : contract.validate page = .ok ()) :
    contract.build page = .ok (contract.job page) := by
  rw [ScanContract.build, valid]
  rfl

/-- The fields of a page have three different names. -/
structure ScanContract.Named (contract : ScanContract) : Prop where
  scanId : contract.cursorField ≠ "scan_id"
  limit : contract.cursorField ≠ "limit"

theorem expireUploadsContract_named : expireUploadsContract.Named := ⟨by decide, by decide⟩

theorem expireTrashContract_named : expireTrashContract.Named := ⟨by decide, by decide⟩

def ScanContract.fields (contract : ScanContract) (page : ScanPage) : List (String × Json) :=
  [("scan_id", .string page.scanId), (contract.cursorField, .number page.cursor.toNat),
    ("limit", .number page.limit.toNat)]

theorem ScanContract.fields_distinct (named : contract.Named) :
    ((contract.fields page).map Prod.fst).Nodup := by
  simp [ScanContract.fields, named.scanId.symm, named.limit]

/-- What a stored page reads as. -/
structure ScanContract.Reads (contract : ScanContract) (page : ScanPage) (payload : Json) : Prop where
  shape : payload.isObject = true
  size : payload.size = 3
  scanId : payload.field "scan_id" = .string page.scanId
  cursor : payload.field contract.cursorField = .number page.cursor.toNat
  limit : payload.field "limit" = .number page.limit.toNat

theorem ScanContract.reads_stored (named : contract.Named)
    (stored : (contract.job page).StoredAs row) : contract.Reads page row.payload := by
  have distinct : ((contract.fields page).map Prod.fst).Nodup := ScanContract.fields_distinct named
  have accepted : (Json.object (contract.fields page)).stored = some row.payload := stored.payload
  have scalars : ∀ field ∈ contract.fields page, field.2.Scalar := by
    simp [ScanContract.fields, Json.Scalar]
  obtain ⟨shape, size, reads⟩ := Json.stored_object scalars distinct accepted
  have value : ∀ field ∈ contract.fields page, row.payload.field field.1 = field.2 :=
    fun field listed => (reads field.1).trans (Json.field_of_mem distinct listed)
  simp only [ScanContract.fields, List.forall_mem_cons] at value
  exact ⟨shape, size, value.1, value.2.1, value.2.2.1⟩

theorem ScanContract.parse_job (named : contract.Named) (valid : contract.validate page = .ok ())
    (stored : (contract.job page).StoredAs row) : contract.parse row = .ok page := by
  have reads := ScanContract.reads_stored named stored
  unfold ScanContract.parse
  refine rejectIf_then (not_not.mpr stored.jobType) ?_
  refine rejectIf_then (not_shape reads.shape reads.size) ?_
  rw [reads.scanId, reads.cursor, reads.limit, Json.uint64?_number, Json.uint64?_number]
  refine bind_then (ScanContract.build_of_valid valid) ?_
  refine rejectIf_then (not_not.mpr stored.aggregateId) ?_
  exact rejectIf_then (not_not.mpr stored.dedupeKey) rfl

theorem ScanContract.parse_ok (named : contract.Named) (read : contract.parse row = .ok page) :
    contract.validate page = .ok () ∧ row.jobType = (contract.job page).jobType ∧
      row.aggregateId = (contract.job page).aggregateId ∧
      row.dedupeKey = (contract.job page).dedupeKey ∧
      row.payload.SameObject (contract.job page).payload := by
  unfold ScanContract.parse at read
  obtain ⟨typed, read⟩ := rejectIf_ok read
  obtain ⟨shape, read⟩ := rejectIf_ok read
  obtain ⟨shape, size⟩ := shape_of_not shape
  split at read
  · next scanId cursor limit scanIdRead cursorRead limitRead =>
    obtain ⟨expected, built, read⟩ := bind_ok read
    obtain ⟨valid, rfl⟩ := ScanContract.build_ok built
    obtain ⟨aggregate, read⟩ := rejectIf_ok read
    obtain ⟨key, read⟩ := rejectIf_ok read
    obtain rfl := Except.ok.inj read
    refine ⟨valid, not_not.mp typed, not_not.mp aggregate, not_not.mp key, ?_⟩
    have distinct : ((contract.fields ⟨scanId, cursor, limit⟩).map Prod.fst).Nodup :=
      ScanContract.fields_distinct named
    refine Json.sameObject_of_size shape distinct size ?_ (by simp)
    simp [Json.string?_eq_some scanIdRead, Json.uint64?_eq_some cursorRead,
      Json.uint64?_eq_some limitRead]
  · cases read

theorem parseExpireUploadsJob_stored {request : ExpireUploadsPageRequest}
    (valid : validateExpireUploadsPageRequest request = .ok ())
    (stored : (expireUploadsContract.job request.scanPage).StoredAs row) :
    parseExpireUploadsJob row = .ok request := by
  rw [parseExpireUploadsJob, ScanContract.parse_job expireUploadsContract_named valid stored]
  rfl

theorem parseExpireTrashJob_stored {request : ExpireTrashPageRequest}
    (valid : validateExpireTrashPageRequest request = .ok ())
    (stored : (expireTrashContract.job request.scanPage).StoredAs row) :
    parseExpireTrashJob row = .ok request := by
  rw [parseExpireTrashJob, ScanContract.parse_job expireTrashContract_named valid stored]
  rfl

theorem map_ok {Value Result : Type} {read : Value → Result} {parsed : Except String Value}
    {result : Result} (ran : parsed.map read = .ok result) :
    ∃ value, parsed = .ok value ∧ read value = result := by
  cases parsed with
  | error => cases ran
  | ok value => exact ⟨value, rfl, Except.ok.inj ran⟩

end Pages

section Reconciliation

variable {sha256 : String → String} {request : ReconciliationPageRequest} {row : StorageJob}

theorem parseReconciliationScope_toStorageValue (scope : ReconciliationScope) :
    parseReconciliationScope scope.toStorageValue = some scope := by
  cases scope <;> decide

theorem toStorageValue_of_parse {name : String} {scope : ReconciliationScope}
    (parsed : parseReconciliationScope name = some scope) : scope.toStorageValue = name := by
  unfold parseReconciliationScope at parsed
  repeat' split at parsed
  all_goals cases parsed
  all_goals exact Eq.symm ‹_›

theorem buildStorageReconcileJob_ok {job : NewStorageJob}
    (built : buildStorageReconcileJob sha256 request = .ok job) :
    validateReconciliationPageRequest request = .ok () ∧ job = storageReconcileJob sha256 request := by
  unfold buildStorageReconcileJob at built
  split at built
  · cases built
  · exact ⟨‹_›, (Except.ok.inj built).symm⟩

theorem buildStorageReconcileJob_of_valid
    (valid : validateReconciliationPageRequest request = .ok ()) :
    buildStorageReconcileJob sha256 request = .ok (storageReconcileJob sha256 request) := by
  rw [buildStorageReconcileJob, valid]

def ReconciliationPageRequest.fields (request : ReconciliationPageRequest) : List (String × Json) :=
  [("scan_id", .string request.scanId), ("scope", .string request.scope.toStorageValue),
    ("after_id", .number request.afterId.toNat),
    ("continuation_token", .string request.continuationToken), ("limit", .number request.limit.toNat)]

theorem ReconciliationPageRequest.fields_distinct (request : ReconciliationPageRequest) :
    (request.fields.map Prod.fst).Nodup := by
  simp [ReconciliationPageRequest.fields]

theorem parseStorageReconcileJob_stored (valid : validateReconciliationPageRequest request = .ok ())
    (stored : (storageReconcileJob sha256 request).StoredAs row) :
    parseStorageReconcileJob sha256 row = .ok request := by
  have accepted : (Json.object request.fields).stored = some row.payload := stored.payload
  have scalars : ∀ field ∈ request.fields, field.2.Scalar := by
    simp [ReconciliationPageRequest.fields, Json.Scalar]
  obtain ⟨shape, size, reads⟩ := Json.stored_object scalars request.fields_distinct accepted
  have value : ∀ field ∈ request.fields, row.payload.field field.1 = field.2 :=
    fun field listed => (reads field.1).trans (Json.field_of_mem request.fields_distinct listed)
  simp only [ReconciliationPageRequest.fields, List.forall_mem_cons] at value
  obtain ⟨scanId, scope, afterId, continuationToken, limit, -⟩ := value
  unfold parseStorageReconcileJob
  refine rejectIf_then (not_not.mpr stored.jobType) ?_
  refine rejectIf_then (not_shape shape size) ?_
  rw [scanId, scope, afterId, continuationToken, limit, Json.uint64?_number, Json.uint64?_number]
  simp only [Json.string?, parseReconciliationScope_toStorageValue]
  refine bind_then (buildStorageReconcileJob_of_valid valid) ?_
  refine rejectIf_then (not_not.mpr stored.aggregateId) ?_
  exact rejectIf_then (not_not.mpr stored.dedupeKey) rfl

theorem parseStorageReconcileJob_ok (read : parseStorageReconcileJob sha256 row = .ok request) :
    validateReconciliationPageRequest request = .ok () ∧
      row.jobType = (storageReconcileJob sha256 request).jobType ∧
      row.aggregateId = (storageReconcileJob sha256 request).aggregateId ∧
      row.dedupeKey = (storageReconcileJob sha256 request).dedupeKey ∧
      row.payload.SameObject (storageReconcileJob sha256 request).payload := by
  unfold parseStorageReconcileJob at read
  obtain ⟨typed, read⟩ := rejectIf_ok read
  obtain ⟨shape, read⟩ := rejectIf_ok read
  obtain ⟨shape, size⟩ := shape_of_not shape
  split at read
  · next scanId scopeName afterId token limit scanIdRead scopeRead afterIdRead tokenRead limitRead =>
    split at read
    · cases read
    · next scope named =>
      obtain ⟨expected, built, read⟩ := bind_ok read
      obtain ⟨valid, rfl⟩ := buildStorageReconcileJob_ok built
      obtain ⟨aggregate, read⟩ := rejectIf_ok read
      obtain ⟨key, read⟩ := rejectIf_ok read
      obtain rfl := Except.ok.inj read
      refine ⟨valid, not_not.mp typed, not_not.mp aggregate, not_not.mp key, ?_⟩
      have distinct := ReconciliationPageRequest.fields_distinct ⟨scanId, scope, afterId, token, limit⟩
      refine Json.sameObject_of_size shape distinct size ?_ (by simp)
      simp [Json.string?_eq_some scanIdRead,
        Json.string?_eq_some scopeRead, toStorageValue_of_parse named,
        Json.uint64?_eq_some afterIdRead, Json.string?_eq_some tokenRead,
        Json.uint64?_eq_some limitRead]
  · cases read

end Reconciliation

section Executors

variable {row : StorageJob}

theorem requireText_of (jobType : String) {field text : String} {payload : Json}
    (read : payload.field field = .string text) (filled : text ≠ "") :
    requireText jobType payload field = .ok text := by
  rw [requireText, read]
  exact if_neg filled

theorem parseUploadStagingBackend_toStorageValue (backend : UploadStagingBackend) :
    parseUploadStagingBackend (stagingBackendToStorageValue backend) = some backend := by
  cases backend <;> decide

theorem parseStagingSession_stored {session : UploadStagingSession} (upload : session.uploadId ≠ "")
    (located : session.stagingPrefix ≠ "") (stored : (buildStagingCleanupJob session).StoredAs row) :
    parseStagingSession row = .ok session := by
  have scalars : ∀ field ∈ [("upload_id", Json.string session.uploadId),
      ("backend", .string (stagingBackendToStorageValue session.backend)),
      ("prefix", .string session.stagingPrefix)], field.2.Scalar := by simp [Json.Scalar]
  obtain ⟨shape, -, reads⟩ := Json.stored_object scalars (by simp) stored.payload
  have backend : stagingBackendToStorageValue session.backend ≠ "" := by
    cases session.backend <;> decide
  unfold parseStagingSession
  refine rejectIf_then (by simp [shape]) ?_
  refine bind_then (requireText_of _ (reads "upload_id") upload) ?_
  refine bind_then (requireText_of _ (reads "backend") backend) ?_
  refine bind_then (requireText_of _ (reads "prefix") located) ?_
  refine rejectIf_then (not_not.mpr stored.aggregateId.symm) ?_
  rw [parseUploadStagingBackend_toStorageValue]
  rfl

theorem parseStagingSession_ok {session : UploadStagingSession}
    (read : parseStagingSession row = .ok session) :
    row.aggregateId = (buildStagingCleanupJob session).aggregateId := by
  unfold parseStagingSession at read
  obtain ⟨-, read⟩ := rejectIf_ok read
  obtain ⟨uploadId, -, read⟩ := bind_ok read
  obtain ⟨backendName, -, read⟩ := bind_ok read
  obtain ⟨stagingPrefix, -, read⟩ := bind_ok read
  obtain ⟨same, read⟩ := rejectIf_ok read
  split at read
  · cases read
  · obtain rfl := Except.ok.inj read
    exact (not_not.mp same).symm

variable {sha256 : String → String}

theorem parseMultipartUpload_stored {descriptor : MultipartUploadDescriptor}
    (valid : validateDescriptor descriptor = true)
    (stored : (multipartAbortJob sha256 descriptor).StoredAs row) :
    parseMultipartUpload sha256 row = .ok descriptor := by
  have scalars : ∀ field ∈ [("backend", Json.string "s3"), ("key", .string descriptor.key),
      ("upload_id", .string descriptor.uploadId)], field.2.Scalar := by simp [Json.Scalar]
  obtain ⟨shape, -, reads⟩ := Json.stored_object scalars (by simp) stored.payload
  simp only [validateDescriptor, Bool.and_eq_true, decide_eq_true_eq] at valid
  obtain ⟨⟨⟨key, -⟩, uploadId⟩, -⟩ := valid
  unfold parseMultipartUpload
  refine rejectIf_then (by simp [shape]) ?_
  refine bind_then (requireText_of _ (reads "backend") (by decide)) ?_
  refine bind_then (requireText_of _ (reads "key") key) ?_
  refine bind_then (requireText_of _ (reads "upload_id") uploadId) ?_
  refine rejectIf_then (not_not.mpr rfl) ?_
  refine rejectIf_then (not_not.mpr stored.aggregateId) ?_
  exact rejectIf_then (not_not.mpr stored.dedupeKey) rfl

theorem parseMultipartUpload_ok {descriptor : MultipartUploadDescriptor}
    (read : parseMultipartUpload sha256 row = .ok descriptor) :
    row.aggregateId = (multipartAbortJob sha256 descriptor).aggregateId ∧
      row.dedupeKey = (multipartAbortJob sha256 descriptor).dedupeKey := by
  unfold parseMultipartUpload at read
  obtain ⟨-, read⟩ := rejectIf_ok read
  obtain ⟨backend, -, read⟩ := bind_ok read
  obtain ⟨key, -, read⟩ := bind_ok read
  obtain ⟨uploadId, -, read⟩ := bind_ok read
  obtain ⟨-, read⟩ := rejectIf_ok read
  obtain ⟨aggregate, read⟩ := rejectIf_ok read
  obtain ⟨dedupeKey, read⟩ := rejectIf_ok read
  obtain rfl := Except.ok.inj read
  exact ⟨not_not.mp aggregate, not_not.mp dedupeKey⟩

theorem parseBlobGcCandidate_stored {candidate : BlobGcCandidate} (positive : candidate.contentId ≠ 0)
    (located : candidate.storagePath ≠ "") (stored : candidate.job.StoredAs row) :
    parseBlobGcCandidate row = .ok candidate := by
  have scalars : ∀ field ∈ [("content_id", Json.number candidate.contentId.toNat),
      ("storage_path", .string candidate.storagePath)], field.2.Scalar := by simp [Json.Scalar]
  obtain ⟨shape, -, reads⟩ := Json.stored_object scalars (by simp) stored.payload
  have contentId : (row.payload.field "content_id").uint64? = some candidate.contentId := by
    have read : row.payload.field "content_id" = .number candidate.contentId.toNat := reads "content_id"
    rw [read, Json.uint64?_number]
  have storagePath : row.payload.field "storage_path" = .string candidate.storagePath :=
    reads "storage_path"
  unfold parseBlobGcCandidate
  refine rejectIf_then (by simp [shape]) ?_
  rw [contentId, storagePath]
  refine rejectIf_then positive ?_
  refine rejectIf_then located ?_
  exact rejectIf_then (not_not.mpr stored.aggregateId) rfl

theorem parseBlobGcCandidate_ok {candidate : BlobGcCandidate}
    (read : parseBlobGcCandidate row = .ok candidate) :
    row.aggregateId = candidate.job.aggregateId := by
  unfold parseBlobGcCandidate at read
  obtain ⟨-, read⟩ := rejectIf_ok read
  split at read
  · cases read
  · obtain ⟨-, read⟩ := rejectIf_ok read
    split at read
    · cases read
    · obtain ⟨-, read⟩ := rejectIf_ok read
      obtain ⟨same, read⟩ := rejectIf_ok read
      obtain rfl := Except.ok.inj read
      exact not_not.mp same

end Executors

section Keys

theorem digitChar_ne_colon {digit : Nat} (small : digit < 16) : Nat.digitChar digit ≠ ':' := by
  have digits : ∀ digit : Fin 16, Nat.digitChar digit.val ≠ ':' := by decide
  exact digits ⟨digit, small⟩

/-- A hexadecimal text contains no colon. -/
theorem colon_not_mem_bytesToHex (bytes : List UInt8) : ':' ∉ (Utils.bytesToHex bytes).toList := by
  rw [Utils.bytesToHex, String.toList_ofList, List.mem_flatMap]
  rintro ⟨byte, -, inside⟩
  have bound := byte.toNat_lt
  simp only [Utils.hexByte, List.mem_cons, List.not_mem_nil, or_false] at inside
  rcases inside with first | second
  · exact digitChar_ne_colon (by omega) first.symm
  · exact digitChar_ne_colon (by omega) second.symm

theorem mem_segments {character : Char} {key : List Char} (inside : character ∈ key)
    (inner : character ≠ '/') : ∃ segment ∈ segments key, character ∈ segment := by
  induction key with
  | nil => cases inside
  | cons head rest continues =>
      simp only [segments]
      split
      · next slash =>
        rcases List.mem_cons.mp inside with same | later
        · exact absurd (same.trans slash) inner
        · obtain ⟨segment, listed, there⟩ := continues later
          exact ⟨segment, List.mem_cons_of_mem _ listed, there⟩
      · split
        · next none =>
          rcases List.mem_cons.mp inside with rfl | later
          · exact ⟨_, List.mem_cons_self, List.mem_cons_self⟩
          · obtain ⟨segment, listed, -⟩ := continues later
            rw [none] at listed
            cases listed
        · next first others some =>
          rcases List.mem_cons.mp inside with rfl | later
          · exact ⟨_, List.mem_cons_self, List.mem_cons_self⟩
          · obtain ⟨segment, listed, there⟩ := continues later
            rw [some] at listed
            rcases List.mem_cons.mp listed with rfl | listed
            · exact ⟨_, List.mem_cons_self, List.mem_cons_of_mem _ there⟩
            · exact ⟨segment, List.mem_cons_of_mem _ listed, there⟩

/-- A key whose segments are safe has no line break. -/
theorem newline_not_mem_of_safe {key : List Char}
    (safe : ∀ segment ∈ segments key, segment.all isSafeCharacter = true) : '\n' ∉ key := by
  intro inside
  obtain ⟨segment, listed, there⟩ := mem_segments inside (by decide)
  have allowed := List.all_eq_true.mp (safe segment listed) _ there
  exact absurd allowed (by decide)

theorem newline_not_mem_of_isSafeObjectPrefix {key : String} (safe : isSafeObjectPrefix key = true) :
    '\n' ∉ key.toList := by
  simp only [isSafeObjectPrefix, Bool.and_eq_true, List.all_eq_true] at safe
  exact newline_not_mem_of_safe fun segment listed => List.all_eq_true.mpr (safe.2 segment listed).2

theorem newline_not_mem_of_normalized {configured fallback fieldName key : String}
    (plain : '\n' ∉ fallback.toList)
    (normalized : normalizeObjectPrefix configured fallback fieldName = .ok key) :
    '\n' ∉ key.toList := by
  simp only [normalizeObjectPrefix] at normalized
  split at normalized
  · obtain rfl := Except.ok.inj normalized
    exact plain
  · split at normalized
    · next none =>
      obtain rfl := Except.ok.inj normalized
      refine newline_not_mem_of_safe fun segment listed => ?_
      have passes := List.find?_eq_none.mp none segment listed
      simp only [Bool.or_eq_true, Bool.not_eq_true', not_or, Bool.not_eq_false] at passes
      exact passes.1
    · split at normalized <;> cases normalized

theorem newline_not_mem_of_isLowerHex {value : String} {size : Nat}
    (digest : isLowerHex value size = true) : '\n' ∉ value.toList := by
  simp only [isLowerHex, Bool.and_eq_true, List.all_eq_true] at digest
  intro inside
  exact absurd (digest.2 _ inside) (by decide)

/-- The storage code builds no key with a line break. -/
theorem BuiltKey.newline_not_mem {key : String} (built : BuiltKey key) : '\n' ∉ key.toList := by
  cases built with
  | assembled session stateVersion safe =>
      have version : '\n' ∉ (toString stateVersion).toList := not_mem_decimal (by decide) stateVersion
      have start := newline_not_mem_of_isSafeObjectPrefix safe
      simp only [buildS3AssemblyKey, String.toList_append, List.mem_append, not_or]
      exact ⟨⟨⟨start, by decide⟩, version⟩, by decide⟩
  | promoted configured objectPrefix sha256Hash normalized digest =>
      have start := newline_not_mem_of_normalized (by decide) normalized
      have hash := newline_not_mem_of_isLowerHex digest
      have first : '\n' ∉ (substr sha256Hash 2).toList := by
        rw [substr, String.toList_ofList]
        exact fun inside => hash (List.mem_of_mem_take inside)
      simp only [finalObjectKey, String.toList_append, List.mem_append, not_or]
      exact ⟨⟨⟨⟨⟨start, by decide⟩, first⟩, by decide⟩, hash⟩, by decide⟩

end Keys

namespace JobRequest

/-- The dedupe keys of one kind of job start alike. -/
def keyStart : JobRequest → String
  | .expireUploads _ => "periodic:expire-uploads:"
  | .expireTrash _ => "periodic:expire-trash:"
  | .storageReconcile _ => "periodic:storage-reconcile:"
  | .stagingCleanup _ => "staging-cleanup:"
  | .multipartAbort _ => "multipart-abort:"
  | .blobGc _ => "blob-gc:"

/-- The prefixes of the deduplication keys. -/
def keyStarts : List String :=
  ["periodic:expire-uploads:", "periodic:expire-trash:", "periodic:storage-reconcile:",
    "staging-cleanup:", "multipart-abort:", "blob-gc:"]

theorem keyStart_mem (request : JobRequest) : request.keyStart ∈ keyStarts := by
  cases request <;> simp [keyStart, keyStarts]

theorem keyStarts_free :
    ∀ one ∈ keyStarts, ∀ two ∈ keyStarts, one.toList <+: two.toList → one = two := by
  decide

/-- The part of a deduplication key after its prefix. -/
def keyRest (sha256 : String → String) : JobRequest → String
  | .expireUploads request => request.scanId ++ (String.singleton ':' ++ toString request.page.toNat)
  | .expireTrash request => request.scanId ++ (String.singleton ':' ++ toString request.afterId.toNat)
  | .storageReconcile request =>
      (request.scanId ++ (String.singleton ':' ++ request.scope.toStorageValue)) ++
        (String.singleton ':' ++ buildReconciliationCursorDigest sha256 request)
  | .stagingCleanup session => session.uploadId
  | .multipartAbort descriptor => buildMultipartUploadRecoveryId sha256 descriptor
  | .blobGc candidate => toString candidate.contentId.toNat

/-- The job that the builder makes of a valid request. -/
def job (sha256 : String → String) : JobRequest → NewStorageJob
  | .expireUploads request => expireUploadsContract.job request.scanPage
  | .expireTrash request => expireTrashContract.job request.scanPage
  | .storageReconcile request => storageReconcileJob sha256 request
  | .stagingCleanup session => buildStagingCleanupJob session
  | .multipartAbort descriptor => multipartAbortJob sha256 descriptor
  | .blobGc candidate => candidate.job

variable {sha256 : String → String}

/-- A valid request is built. -/
theorem build_of_valid {request : JobRequest} (valid : request.Valid) :
    request.build sha256 = .ok (request.job sha256) := by
  cases request with
  | expireUploads => exact ScanContract.build_of_valid valid
  | expireTrash => exact ScanContract.build_of_valid valid
  | storageReconcile => exact buildStorageReconcileJob_of_valid valid
  | stagingCleanup => rfl
  | multipartAbort => exact if_pos valid
  | blobGc => rfl

/-- What a builder builds is the job of its request. -/
theorem build_ok {request : JobRequest} {built : NewStorageJob}
    (made : request.build sha256 = .ok built) : built = request.job sha256 := by
  cases request with
  | expireUploads => exact (ScanContract.build_ok made).2
  | expireTrash => exact (ScanContract.build_ok made).2
  | storageReconcile => exact (buildStorageReconcileJob_ok made).2
  | stagingCleanup => exact (Except.ok.inj made).symm
  | multipartAbort =>
      simp only [build] at made
      split at made
      · exact (Except.ok.inj made).symm
      · cases made
  | blobGc => exact (Except.ok.inj made).symm

theorem job_dedupeKey (request : JobRequest) :
    (request.job sha256).dedupeKey = request.keyStart ++ request.keyRest sha256 := by
  have colon : ":" = String.singleton ':' := by decide
  cases request with
  | expireUploads | expireTrash | storageReconcile =>
      simp only [job, ScanContract.job, expireUploadsContract, expireTrashContract,
        ExpireUploadsPageRequest.scanPage, ExpireTrashPageRequest.scanPage, storageReconcileJob,
        keyStart, keyRest, colon, String.append_assoc]
  | stagingCleanup | multipartAbort | blobGc => rfl

/-- A stored job is read back as its request. -/
theorem parse_stored {request : JobRequest} {row : StorageJob} (valid : request.Valid)
    (stored : (request.job sha256).StoredAs row) : parse sha256 row = .ok request := by
  unfold parse
  rw [stored.jobType]
  cases request with
  | expireUploads request =>
      change (parseExpireUploadsJob row).map JobRequest.expireUploads = _
      rw [parseExpireUploadsJob_stored valid stored]
      rfl
  | expireTrash request =>
      change (parseExpireTrashJob row).map JobRequest.expireTrash = _
      rw [parseExpireTrashJob_stored valid stored]
      rfl
  | storageReconcile request =>
      change (parseStorageReconcileJob sha256 row).map JobRequest.storageReconcile = _
      rw [parseStorageReconcileJob_stored valid stored]
      rfl
  | stagingCleanup session =>
      change (parseStagingSession row).map JobRequest.stagingCleanup = _
      rw [parseStagingSession_stored valid.1 valid.2 stored]
      rfl
  | multipartAbort descriptor =>
      change (parseMultipartUpload sha256 row).map JobRequest.multipartAbort = _
      rw [parseMultipartUpload_stored valid stored]
      rfl
  | blobGc candidate =>
      change (parseBlobGcCandidate row).map JobRequest.blobGc = _
      rw [parseBlobGcCandidate_stored valid.1 valid.2 stored]
      rfl

/-- Plain texts are accepted by the column. -/
theorem stored_isSome {request : JobRequest}
    (plain : ∀ text ∈ request.texts, Json.storableText text = true) :
    ∃ payload, (request.job sha256).payload.stored = some payload := by
  have names : ∀ name ∈ ["scan_id", "page", "limit", "after_id", "scope", "continuation_token",
      "upload_id", "backend", "prefix", "key", "content_id", "storage_path"],
      Json.storableText name = true := by decide
  have words : ∀ word ∈ ["contents", "users", "staging", "final", "local", "s3"],
      Json.storableText word = true := by decide
  have scopes : ∀ scope : ReconciliationScope, Json.storableText scope.toStorageValue = true :=
    fun scope => words _ (by cases scope <;> decide)
  have backends : ∀ backend, Json.storableText (stagingBackendToStorageValue backend) = true :=
    fun backend => words _ (by cases backend <;> decide)
  simp only [List.forall_mem_cons] at names words
  cases request with
  | expireUploads request | expireTrash request | storageReconcile request | stagingCleanup request
  | multipartAbort request | blobGc request =>
      simp only [texts, List.forall_mem_cons] at plain
      refine Json.stored_object_isSome ?_ ?_
      all_goals
        simp [Json.stored, expireUploadsContract, expireTrashContract, ExpireUploadsPageRequest.scanPage,
          ExpireTrashPageRequest.scanPage, names, words, plain, scopes, backends]

section Collisions

variable {crypto : String → List UInt8}

/-- No two texts that the jobs hash have one digest. -/
def CollisionFree (crypto : String → List UInt8) (first second : JobRequest) : Prop :=
  ∀ text ∈ first.digestTexts, ∀ other ∈ second.digestTexts,
    Utils.hashSha256 crypto text = Utils.hashSha256 crypto other → text = other

theorem cursorText_injective {first second : ReconciliationPageRequest}
    (same : first.cursorText = second.cursorText) :
    first.scope = second.scope ∧ first.afterId = second.afterId ∧
      first.continuationToken = second.continuationToken := by
  have newline : "\n" = String.singleton '\n' := by decide
  have plain : ∀ scope : ReconciliationScope, '\n' ∉ scope.toStorageValue.toList := by
    intro scope
    cases scope <;> decide
  simp only [ReconciliationPageRequest.cursorText, newline, String.append_assoc] at same
  obtain ⟨scopes, rest⟩ := text_separator_left (plain _) (plain _) same
  obtain ⟨cursors, tokens⟩ := text_separator_left (not_mem_decimal (by decide) _)
    (not_mem_decimal (by decide) _) rest
  have parsed := congrArg parseReconciliationScope scopes
  rw [parseReconciliationScope_toStorageValue, parseReconciliationScope_toStorageValue] at parsed
  exact ⟨Option.some.inj parsed, UInt64.toNat_inj.mp (decimal_injective cursors), tokens⟩

/-- A page of a scan is found again in its key. -/
theorem page_injective {scanId otherId : String} {cursor other : UInt64}
    (same : scanId ++ (String.singleton ':' ++ toString cursor.toNat) =
      otherId ++ (String.singleton ':' ++ toString other.toNat)) :
    scanId = otherId ∧ cursor = other := by
  obtain ⟨scans, cursors⟩ := text_separator_right (not_mem_decimal (by decide) _)
    (not_mem_decimal (by decide) _) same
  exact ⟨scans, UInt64.toNat_inj.mp (decimal_injective cursors)⟩

theorem reconciliation_injective {first second : ReconciliationPageRequest}
    (distinct : CollisionFree crypto (.storageReconcile first) (.storageReconcile second))
    (same : keyRest (Utils.hashSha256 crypto) (.storageReconcile first) =
      keyRest (Utils.hashSha256 crypto) (.storageReconcile second)) :
    first.scanId = second.scanId ∧ first.scope = second.scope ∧ first.afterId = second.afterId ∧
      first.continuationToken = second.continuationToken := by
  have plain : ∀ scope : ReconciliationScope, ':' ∉ scope.toStorageValue.toList := by
    intro scope
    cases scope <;> decide
  obtain ⟨starts, digests⟩ := text_separator_right (colon_not_mem_bytesToHex _)
    (colon_not_mem_bytesToHex _) same
  obtain ⟨scans, -⟩ := text_separator_right (plain _) (plain _) starts
  have texts := distinct _ (List.mem_singleton.mpr rfl) _ (List.mem_singleton.mpr rfl) digests
  exact ⟨scans, cursorText_injective texts⟩

theorem multipart_injective {first second : MultipartUploadDescriptor} (one : BuiltKey first.key)
    (two : BuiltKey second.key)
    (distinct : CollisionFree crypto (.multipartAbort first) (.multipartAbort second))
    (same : keyRest (Utils.hashSha256 crypto) (.multipartAbort first) =
      keyRest (Utils.hashSha256 crypto) (.multipartAbort second)) : first = second := by
  have newline : "\n" = String.singleton '\n' := by decide
  have texts := distinct _ (List.mem_singleton.mpr rfl) _ (List.mem_singleton.mpr rfl) same
  rw [newline, String.append_assoc, String.append_assoc] at texts
  obtain ⟨keys, uploads⟩ := text_separator_left one.newline_not_mem two.newline_not_mem texts
  cases first
  cases second
  cases keys
  cases uploads
  rfl

/-- The dedupe key of a job determines the kind of the job, what it works on and its cursor. -/
theorem dedupeKey_injective {first second : JobRequest} (one : first.KeysBuilt) (two : second.KeysBuilt)
    (distinct : CollisionFree crypto first second)
    (same : (first.job (Utils.hashSha256 crypto)).dedupeKey =
      (second.job (Utils.hashSha256 crypto)).dedupeKey) :
    (first.job (Utils.hashSha256 crypto)).jobType = (second.job (Utils.hashSha256 crypto)).jobType ∧
      (first.job (Utils.hashSha256 crypto)).aggregateId =
        (second.job (Utils.hashSha256 crypto)).aggregateId ∧
      first.aggregate = second.aggregate ∧ first.cursor = second.cursor := by
  rw [job_dedupeKey, job_dedupeKey] at same
  have starts := text_prefix_free keyStarts_free first.keyStart_mem second.keyStart_mem same
  rw [starts] at same
  have rests := text_append_right_cancel same
  cases first with
  | expireUploads request =>
      cases second with
      | expireUploads other =>
          obtain ⟨scans, pages⟩ := page_injective rests
          exact ⟨rfl, scans, congrArg JobAggregate.scan scans, congrArg JobCursor.page pages⟩
      | _ => exact absurd starts (by simp [keyStart])
  | expireTrash request =>
      cases second with
      | expireTrash other =>
          obtain ⟨scans, cursors⟩ := page_injective rests
          exact ⟨rfl, scans, congrArg JobAggregate.scan scans, congrArg JobCursor.afterId cursors⟩
      | _ => exact absurd starts (by simp [keyStart])
  | storageReconcile request =>
      cases second with
      | storageReconcile other =>
          obtain ⟨scans, scopes, cursors, tokens⟩ := reconciliation_injective distinct rests
          refine ⟨rfl, scans, congrArg JobAggregate.scan scans, ?_⟩
          simp only [cursor, scopes, cursors, tokens]
      | _ => exact absurd starts (by simp [keyStart])
  | stagingCleanup session =>
      cases second with
      | stagingCleanup other => exact ⟨rfl, rests, congrArg JobAggregate.upload rests, rfl⟩
      | _ => exact absurd starts (by simp [keyStart])
  | multipartAbort descriptor =>
      cases second with
      | multipartAbort other =>
          obtain rfl := multipart_injective one two distinct rests
          exact ⟨rfl, rfl, rfl, rfl⟩
      | _ => exact absurd starts (by simp [keyStart])
  | blobGc candidate =>
      cases second with
      | blobGc other =>
          have contents := UInt64.toNat_inj.mp (decimal_injective rests)
          exact ⟨rfl, rests, congrArg JobAggregate.content contents, rfl⟩
      | _ => exact absurd starts (by simp [keyStart])

end Collisions

end JobRequest

/-- The columns of a row are the ones that the builder gives, its payload up to the order of the fields. -/
structure NewStorageJob.Describes (job : NewStorageJob) (row : StorageJob) : Prop where
  jobType : row.jobType = job.jobType
  aggregateId : row.aggregateId = job.aggregateId
  dedupeKey : row.dedupeKey = job.dedupeKey
  payload : row.payload.SameObject job.payload

theorem parseExpireUploadsJob_describes {request : ExpireUploadsPageRequest} {row : StorageJob}
    (read : parseExpireUploadsJob row = .ok request) :
    ∃ job, buildExpireUploadsJob request = .ok job ∧ job.Describes row := by
  obtain ⟨page, parsed, rfl⟩ := map_ok read
  obtain ⟨valid, jobType, aggregateId, dedupeKey, payload⟩ :=
    ScanContract.parse_ok expireUploadsContract_named parsed
  exact ⟨_, ScanContract.build_of_valid valid, ⟨jobType, aggregateId, dedupeKey, payload⟩⟩

theorem parseExpireTrashJob_describes {request : ExpireTrashPageRequest} {row : StorageJob}
    (read : parseExpireTrashJob row = .ok request) :
    ∃ job, buildExpireTrashJob request = .ok job ∧ job.Describes row := by
  obtain ⟨page, parsed, rfl⟩ := map_ok read
  obtain ⟨valid, jobType, aggregateId, dedupeKey, payload⟩ :=
    ScanContract.parse_ok expireTrashContract_named parsed
  exact ⟨_, ScanContract.build_of_valid valid, ⟨jobType, aggregateId, dedupeKey, payload⟩⟩

theorem parseStorageReconcileJob_describes {sha256 : String → String}
    {request : ReconciliationPageRequest} {row : StorageJob}
    (read : parseStorageReconcileJob sha256 row = .ok request) :
    ∃ job, buildStorageReconcileJob sha256 request = .ok job ∧ job.Describes row := by
  obtain ⟨valid, jobType, aggregateId, dedupeKey, payload⟩ := parseStorageReconcileJob_ok read
  exact ⟨_, buildStorageReconcileJob_of_valid valid, ⟨jobType, aggregateId, dedupeKey, payload⟩⟩

/-- The builders and the parsers of the six kinds of jobs agree, and no two jobs share a dedupe key by accident. -/
theorem storage_job_codec (crypto : String → List UInt8) :
    (∀ request : JobRequest, request.Valid →
      ∃ job, request.build (Utils.hashSha256 crypto) = .ok job ∧
        (∀ row, job.StoredAs row → JobRequest.parse (Utils.hashSha256 crypto) row = .ok request) ∧
        ((∀ text ∈ request.texts, Json.storableText text = true) →
          ∃ payload, job.payload.stored = some payload)) ∧
    (∀ row request, parseExpireUploadsJob row = .ok request →
      ∃ job, buildExpireUploadsJob request = .ok job ∧ job.Describes row) ∧
    (∀ row request, parseExpireTrashJob row = .ok request →
      ∃ job, buildExpireTrashJob request = .ok job ∧ job.Describes row) ∧
    (∀ row request, parseStorageReconcileJob (Utils.hashSha256 crypto) row = .ok request →
      ∃ job, buildStorageReconcileJob (Utils.hashSha256 crypto) request = .ok job ∧
        job.Describes row) ∧
    (∀ row descriptor, parseMultipartUpload (Utils.hashSha256 crypto) row = .ok descriptor →
      row.aggregateId = buildMultipartUploadRecoveryId (Utils.hashSha256 crypto) descriptor ∧
        row.dedupeKey =
          buildMultipartUploadRecoveryDedupeKey (Utils.hashSha256 crypto) descriptor) ∧
    (∀ row session, parseStagingSession row = .ok session →
      row.aggregateId = session.uploadId) ∧
    (∀ row candidate, parseBlobGcCandidate row = .ok candidate →
      row.aggregateId = toString candidate.contentId.toNat) ∧
    (∀ (first second : JobRequest) (one two : NewStorageJob),
      first.build (Utils.hashSha256 crypto) = .ok one →
      second.build (Utils.hashSha256 crypto) = .ok two →
      first.KeysBuilt → second.KeysBuilt → JobRequest.CollisionFree crypto first second →
      one.dedupeKey = two.dedupeKey →
      one.jobType = two.jobType ∧ one.aggregateId = two.aggregateId ∧
        first.aggregate = second.aggregate ∧ first.cursor = second.cursor) := by
  refine ⟨?_, ?_, ?_, ?_, ?_, ?_, ?_, ?_⟩
  · intro request valid
    exact ⟨_, JobRequest.build_of_valid valid, fun row => JobRequest.parse_stored valid,
      JobRequest.stored_isSome⟩
  · exact fun row request => parseExpireUploadsJob_describes
  · exact fun row request => parseExpireTrashJob_describes
  · exact fun row request => parseStorageReconcileJob_describes
  · exact fun row descriptor => parseMultipartUpload_ok
  · exact fun row session => parseStagingSession_ok
  · exact fun row candidate => parseBlobGcCandidate_ok
  · intro first second one two madeOne madeTwo keysOne keysTwo distinct same
    obtain rfl := JobRequest.build_ok madeOne
    obtain rfl := JobRequest.build_ok madeTwo
    exact JobRequest.dedupeKey_injective keysOne keysTwo distinct same

end DiskServer.Jobs
