import DiskServer.Construction.Drive.ContentService
import DiskServer.Construction.Drive.UserService
import DiskServer.Library.Autocommit

/-
This file gives the reconciliation of the stored contents with their references and blobs, and of the
counters of the users with their files, their trash and their uploads.
-/

namespace DiskServer.Drive

open Library Upload Jobs

inductive ReconciliationSeverity where
  | info
  | warning
  | critical
  deriving Repr, DecidableEq

inductive ResolutionStrategy where
  | autoGc
  | alert
  | manual
  deriving Repr, DecidableEq

structure ReconciliationFinding where
  findingType : String
  resourceId : String
  resourceLocator : Option String
  severity : ReconciliationSeverity
  resolutionStrategy : ResolutionStrategy
  details : Json

structure StoredFinding extends ReconciliationFinding where
  occurrences : Nat
  lastSeenAt : Timestamp
  resolvedAt : Option Timestamp

def StoredFinding.key (finding : StoredFinding) : String × String :=
  (finding.findingType, finding.resourceId)

abbrev FindingTable := Table StoredFinding StoredFinding.key

structure ReconciliationDb where
  db : Db
  findings : FindingTable

/-- The statements of a page commit one by one. -/
abbrev Scan (Value : Type) := Autocommit ReconciliationDb ErrorInfo Value

def contentRefCountMismatch : String := "content_ref_count_mismatch"

def zeroReferenceContent : String := "zero_reference_content"

def missingFinalBlob : String := "missing_final_blob"

def finalBlobSizeMismatch : String := "final_blob_size_mismatch"

def finalBlobReadInterrupted : String := "final_blob_read_interrupted"

def reconciliationFailed : ErrorInfo := ⟨.internalError, "Storage reconciliation failed"⟩

def ReconciliationFinding.valid (finding : ReconciliationFinding) : Bool :=
  finding.findingType ≠ "" && finding.findingType.utf8ByteSize ≤ 64 &&
    finding.resourceId ≠ "" && finding.resourceId.utf8ByteSize ≤ 128 &&
    finding.resourceLocator.all fun locator => locator.utf8ByteSize ≤ 1024

def ReconciliationFinding.stored (finding : ReconciliationFinding) (now : Timestamp) : StoredFinding where
  findingType := finding.findingType
  resourceId := finding.resourceId
  resourceLocator := finding.resourceLocator.filter fun locator => locator ≠ ""
  severity := finding.severity
  resolutionStrategy := finding.resolutionStrategy
  details := finding.details
  occurrences := 1
  lastSeenAt := now
  resolvedAt := none

def StoredFinding.seenAgain (old fresh : StoredFinding) : StoredFinding :=
  { old with
    resourceLocator := fresh.resourceLocator
    severity := fresh.severity
    resolutionStrategy := fresh.resolutionStrategy
    details := fresh.details
    occurrences := old.occurrences + 1
    lastSeenAt := fresh.lastSeenAt
    resolvedAt := none }

theorem StoredFinding.seenAgain_key (old fresh : StoredFinding) :
    (old.seenAgain fresh).key = old.key := rfl

def StoredFinding.resolved (row : StoredFinding) (now : Timestamp) : StoredFinding :=
  { row with resolvedAt := some now, lastSeenAt := now }

theorem StoredFinding.resolved_key (row : StoredFinding) (now : Timestamp) :
    (row.resolved now).key = row.key := rfl

def upsertFinding (findings : FindingTable) (fresh : StoredFinding) : FindingTable :=
  match findings.insertNew fresh with
  | some inserted => inserted
  | none =>
      findings.update (fun old => old.key = fresh.key) (fun old => old.seenAgain fresh)
        fun old => old.seenAgain_key fresh

def recordFinding (finding : ReconciliationFinding) : Scan Unit :=
  if finding.valid = true then
    modify fun state =>
      { state with findings := upsertFinding state.findings (finding.stored state.db.now) }
  else
    throw reconciliationFailed

def resolveFinding (findingType resourceId : String) : Scan Unit :=
  modify fun state =>
    { state with
      findings := state.findings.update
        (fun row => row.key = (findingType, resourceId) && row.resolvedAt.isNone)
        (fun row => row.resolved state.db.now) fun row => row.resolved_key state.db.now }

/-- A transaction of the drive is one statement of a page. -/
def driveStatement {Value : Type} (program : Tx Value) : Scan Value := do
  let state ← get
  match program.run state.db with
  | .error failure => throw failure
  | .ok (value, db) =>
      modify fun state => { state with db := db }
      pure value

structure BlobDescriptor where
  contentId : Nat
  hashMd5 : String
  storagePath : String
  size : Nat
  deriving Repr, DecidableEq

structure BlobStore where
  blobExists : BlobDescriptor → Except ErrorInfo Bool
  getBlobSize : BlobDescriptor → Except ErrorInfo Nat

structure ReconciliationPageResult where
  inspected : Nat := 0
  findingsRecorded : Nat := 0
  repairsEnqueued : Nat := 0
  nextAfterId : Nat := 0
  hasMore : Bool := false
  deriving Repr, DecidableEq

def ReconciliationPageResult.recorded (page : ReconciliationPageResult) : ReconciliationPageResult :=
  { page with findingsRecorded := page.findingsRecorded + 1 }

def shouldEnqueueBlobGc (storedRefCount : Int) (actualRefCount : Nat) : Bool :=
  storedRefCount = 0 && actualRefCount = 0

section Findings

variable (scanId : String) (content : FileContent)

def makeDetails (fields : List (String × Json)) : Json :=
  .object (("scan_id", .string scanId) :: fields)

def refCountFinding (actualRefCount : Nat) : ReconciliationFinding where
  findingType := contentRefCountMismatch
  resourceId := toString content.id
  resourceLocator := some ("file_contents/" ++ toString content.id)
  severity := .critical
  resolutionStrategy := .alert
  details := makeDetails scanId [("stored_ref_count", .number content.refCount),
    ("actual_ref_count", .number actualRefCount)]

def zeroReferenceFinding : ReconciliationFinding where
  findingType := zeroReferenceContent
  resourceId := toString content.id
  resourceLocator := some ("file_contents/" ++ toString content.id)
  severity := .warning
  resolutionStrategy := .autoGc
  details := makeDetails scanId [("storage_path", .string content.storagePath)]

def missingBlobFinding : ReconciliationFinding where
  findingType := missingFinalBlob
  resourceId := toString content.id
  resourceLocator := some content.storagePath
  severity := .critical
  resolutionStrategy := .manual
  details := makeDetails scanId [("expected_size", .number content.size)]

def blobSizeFinding (observedSize : Nat) : ReconciliationFinding where
  findingType := finalBlobSizeMismatch
  resourceId := toString content.id
  resourceLocator := some content.storagePath
  severity := .critical
  resolutionStrategy := .manual
  details := makeDetails scanId [("expected_size", .number content.size),
    ("observed_size", .number observedSize)]

end Findings

section Page

variable (store : Option BlobStore) (scanId : String)

def recordMissingBlob (content : FileContent) (page : ReconciliationPageResult) :
    Scan ReconciliationPageResult := do
  recordFinding (missingBlobFinding scanId content)
  resolveFinding finalBlobSizeMismatch (toString content.id)
  pure page.recorded

def inspectBlob (content : FileContent) (page : ReconciliationPageResult) :
    Scan ReconciliationPageResult :=
  match store with
  | none => throw ⟨.internalError, "Reconciliation Blob store is not configured"⟩
  | some store => do
      let blob : BlobDescriptor := ⟨content.id, content.hashMd5, content.storagePath, content.size⟩
      match store.blobExists blob with
      | .error failure => throw failure
      | .ok false => recordMissingBlob scanId content page
      | .ok true =>
          resolveFinding missingFinalBlob (toString content.id)
          match store.getBlobSize blob with
          | .error failure =>
              if failure.code = .fileNotFound then recordMissingBlob scanId content page
              else throw failure
          | .ok observedSize =>
              if observedSize ≠ content.size then
                recordFinding (blobSizeFinding scanId content observedSize)
                pure page.recorded
              else
                resolveFinding finalBlobSizeMismatch (toString content.id)
                resolveFinding finalBlobReadInterrupted (toString content.id)
                pure page

def checkRefCount (content : FileContent) (actualRefCount : Nat) (page : ReconciliationPageResult) :
    Scan ReconciliationPageResult :=
  if content.refCount ≠ (actualRefCount : Int) then do
    recordFinding (refCountFinding scanId content actualRefCount)
    pure page.recorded
  else do
    resolveFinding contentRefCountMismatch (toString content.id)
    pure page

def enqueueBlobGc (content : FileContent) (page : ReconciliationPageResult) :
    Scan ReconciliationPageResult := do
  recordFinding (zeroReferenceFinding scanId content)
  let enqueued ← driveStatement
    (enqueueOrRearmSucceeded (blobGcJob content.id content.storagePath) reconciliationFailed)
  pure { page.recorded with
    repairsEnqueued := if enqueued then page.repairsEnqueued + 1 else page.repairsEnqueued }

def repairContent (content : FileContent) (actualRefCount : Nat) (page : ReconciliationPageResult) :
    Scan ReconciliationPageResult :=
  if shouldEnqueueBlobGc content.refCount actualRefCount then
    enqueueBlobGc scanId content page
  else do
    resolveFinding zeroReferenceContent (toString content.id)
    if actualRefCount = 0 then
      pure page
    else
      inspectBlob store scanId content page

def scanContent (page : ReconciliationPageResult) (row : FileContent × Nat) :
    Scan ReconciliationPageResult := do
  let (content, actualRefCount) := row
  let checked ← checkRefCount scanId content actualRefCount { page with nextAfterId := content.id }
  repairContent store scanId content actualRefCount checked

def Db.actualRefCount (db : Db) (contentId : Nat) : Nat :=
  (db.files.rows.countP fun file => file.contentId = contentId) +
    db.trash.rows.countP fun row => row.contentId = some contentId ∧ row.itemType = .file

def Db.contentsAfter (db : Db) (afterId : Nat) : List FileContent :=
  (db.contents.rows.filter fun content => afterId < content.id).insertionSort
    fun first second => first.id ≤ second.id

def Db.contentPage (db : Db) (afterId limit : Nat) : List (FileContent × Nat) :=
  ((db.contentsAfter afterId).take limit).map fun content => (content, db.actualRefCount content.id)

def runContentPage (afterId limit : Nat) : Scan ReconciliationPageResult := do
  let state ← get
  let rows := state.db.contentPage afterId limit
  let page ← rows.foldlM (scanContent store scanId) { inspected := rows.length }
  pure { page with hasMore := rows.length = limit }

end Page

/-- A scan runs page after page while there are more rows and the cursor moves on. A page that
fails is tried again, and the clock moves between pages. -/
inductive ContentScan (store : Nat → Option BlobStore) (scanId : String) (limit : Nat) :
    Nat → Nat → ReconciliationDb → ReconciliationDb → Prop
  | retry {round afterId : Nat} {failure : ErrorInfo} {before middle after : ReconciliationDb}
      {later : Timestamp} :
      (runContentPage (store round) scanId afterId limit).outcome before = (.error failure, middle) →
      ContentScan store scanId limit (round + 1) afterId
        { middle with db := { middle.db with now := later } } after →
      ContentScan store scanId limit round afterId before after
  | last {round afterId : Nat} {page : ReconciliationPageResult} {before after : ReconciliationDb} :
      (runContentPage (store round) scanId afterId limit).outcome before = (.ok page, after) →
      page.hasMore = false → ContentScan store scanId limit round afterId before after
  | more {round afterId : Nat} {page : ReconciliationPageResult}
      {before middle after : ReconciliationDb} {later : Timestamp} :
      (runContentPage (store round) scanId afterId limit).outcome before = (.ok page, middle) →
      page.hasMore = true → afterId < page.nextAfterId →
      ContentScan store scanId limit (round + 1) page.nextAfterId
        { middle with db := { middle.db with now := later } } after →
      ContentScan store scanId limit round afterId before after

section Users

def quotaUsedMismatch : String := "quota_used_mismatch"

def quotaReservedMismatch : String := "quota_reserved_mismatch"

def settleFinding (wrong : Bool) (finding : ReconciliationFinding) (page : ReconciliationPageResult) :
    Scan ReconciliationPageResult :=
  if wrong then do
    recordFinding finding
    pure page.recorded
  else do
    resolveFinding finding.findingType finding.resourceId
    pure page

structure UserTotals where
  user : User
  activeFileBytes : Nat
  trashItemBytes : Nat
  activeUploadReservedBytes : Nat

def Db.activeFileBytes (db : Db) (userId : Nat) : Nat :=
  ((db.files.rows.filter fun file => file.userId = userId).map File.size).sum

def Db.trashItemBytes (db : Db) (userId : Nat) : Nat :=
  ((db.trash.rows.filter fun row => row.userId = userId).map Trash.itemSize).sum

/-- The query sums up the reservations of the uploads, and copies have no rows. -/
def Db.activeUploadReservedBytes (db : Db) (userId : Nat) : Nat :=
  ((db.tasks.rows.filter fun task => task.userId = userId && task.active).map UploadTask.reservedBytes).sum

def Db.userTotals (db : Db) (user : User) : UserTotals :=
  ⟨user, db.activeFileBytes user.id, db.trashItemBytes user.id, db.activeUploadReservedBytes user.id⟩

/-- A sum that is too large for its type throws when it is read. -/
def readTotal (total : Nat) : Scan Nat :=
  if total < 18446744073709551616 then pure total else throw reconciliationFailed

def addWithoutOverflow (left right : Nat) : Scan Nat :=
  if 18446744073709551615 - left < right then throw reconciliationFailed else pure (left + right)

section Findings

variable (scanId : String) (totals : UserTotals)

def quotaUsedFinding (expectedUsed : Nat) : ReconciliationFinding where
  findingType := quotaUsedMismatch
  resourceId := toString totals.user.id
  resourceLocator := some ("users/" ++ toString totals.user.id)
  severity := .warning
  resolutionStrategy := .alert
  details := makeDetails scanId [("storage_used", .number (asUInt64 totals.user.storageUsed)),
    ("expected_used", .number expectedUsed), ("active_file_bytes", .number totals.activeFileBytes),
    ("trash_item_bytes", .number totals.trashItemBytes)]

def quotaReservedFinding : ReconciliationFinding where
  findingType := quotaReservedMismatch
  resourceId := toString totals.user.id
  resourceLocator := some ("users/" ++ toString totals.user.id)
  severity := .warning
  resolutionStrategy := .alert
  details := makeDetails scanId [("storage_reserved", .number (asUInt64 totals.user.storageReserved)),
    ("active_upload_reserved_bytes", .number totals.activeUploadReservedBytes)]

end Findings

variable (scanId : String)

def scanUser (page : ReconciliationPageResult) (totals : UserTotals) : Scan ReconciliationPageResult := do
  let activeFileBytes ← readTotal totals.activeFileBytes
  let trashItemBytes ← readTotal totals.trashItemBytes
  let activeUploadReserved ← readTotal totals.activeUploadReservedBytes
  let expectedUsed ← addWithoutOverflow activeFileBytes trashItemBytes
  let checked ← settleFinding (asUInt64 totals.user.storageUsed ≠ expectedUsed)
    (quotaUsedFinding scanId totals expectedUsed) { page with nextAfterId := totals.user.id }
  settleFinding (asUInt64 totals.user.storageReserved ≠ activeUploadReserved)
    (quotaReservedFinding scanId totals) checked

def runUserPage (afterId limit : Nat) : Scan ReconciliationPageResult := do
  let state ← get
  let rows := ((state.db.users.rowsAfter afterId).take limit).map state.db.userTotals
  let page ← rows.foldlM (scanUser scanId) { inspected := rows.length }
  pure { page with hasMore := rows.length = limit }

def ReconciliationDb.atTime (state : ReconciliationDb) (later : Timestamp) : ReconciliationDb :=
  { state with db := { state.db with now := later } }

/-- A scan of the users runs page after page. A page whose end was not recorded is run again, and the
clock goes on between pages. -/
inductive UserScan (scanId : String) (limit : Nat) : Nat → ReconciliationDb → ReconciliationDb → Prop
  | again {afterId : Nat} {outcome : Except ErrorInfo ReconciliationPageResult}
      {before middle after : ReconciliationDb} {later : Timestamp} :
      (runUserPage scanId afterId limit).outcome before = (outcome, middle) → middle.db.now ≤ later →
      UserScan scanId limit afterId (middle.atTime later) after →
      UserScan scanId limit afterId before after
  | last {afterId : Nat} {page : ReconciliationPageResult} {before after : ReconciliationDb} :
      (runUserPage scanId afterId limit).outcome before = (.ok page, after) →
      page.hasMore = false → UserScan scanId limit afterId before after
  | more {afterId : Nat} {page : ReconciliationPageResult} {before middle after : ReconciliationDb}
      {later : Timestamp} :
      (runUserPage scanId afterId limit).outcome before = (.ok page, middle) →
      page.hasMore = true → middle.db.now ≤ later →
      UserScan scanId limit page.nextAfterId (middle.atTime later) after →
      UserScan scanId limit afterId before after

end Users

end DiskServer.Drive
