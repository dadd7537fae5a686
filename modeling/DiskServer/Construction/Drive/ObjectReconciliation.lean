import DiskServer.Construction.Drive.ShareService
import DiskServer.Construction.Drive.StorageReconciliation
import DiskServer.Construction.Storage.StagingKeys

/-
This file gives the listings of stored objects and the scans that report the objects without a row.
-/

namespace DiskServer.Drive

open Library Upload Jobs Storage

section Inventory

structure StorageInventoryObject where
  locator : String
  sizeBytes : Nat
  deriving Repr, DecidableEq

structure StorageInventoryPage where
  objects : List StorageInventoryObject := []
  continuationToken : String := ""
  hasMore : Bool := false
  deriving Repr, DecidableEq

abbrev Inventory := String → Nat → Except ErrorInfo StorageInventoryPage

def maxStorageInventoryPageSize : Nat := 1000

def isSafeContinuationToken (token : String) : Bool :=
  token = "" || token = "." ||
    ((segments token.toList).dropLast.all (fun segment => !isDotSegment segment) &&
      (segments token.toList).getLast?.all (fun segment => segment = [] || !isDotSegment segment))

structure LocalTree where
  files : List (String × Nat)
  distinct : (files.map Prod.fst).Nodup
  relative : ∀ file ∈ files, file.1 ≠ "" ∧ isSafeContinuationToken file.1 = true

inductive LocalInventoryLocator where
  | relativeToRoot
  | includeRoot
  deriving Repr, DecidableEq

def joinPath (root name : String) : String :=
  if root.toList.getLast? = some '/' then root ++ name else root ++ "/" ++ name

def LocalInventoryLocator.locator (mode : LocalInventoryLocator) (root name : String) : String :=
  match mode with
  | .relativeToRoot => name
  | .includeRoot => joinPath root name

def sortedEntries (tree : LocalTree) : List (String × Nat) :=
  tree.files.insertionSort fun first second => first.1 ≤ second.1

def listLocalStorageInventory (root : String) (walk : Except ErrorInfo (Option LocalTree))
    (mode : LocalInventoryLocator) : Inventory := fun continuationToken limit =>
  if root = "" ∨ limit = 0 ∨ maxStorageInventoryPageSize < limit ∨
      isSafeContinuationToken continuationToken = false then
    .error ⟨.validationFailed, "Invalid local storage inventory request"⟩
  else
    match walk with
    | .error failure => .error failure
    | .ok none => .ok {}
    | .ok (some tree) =>
        let remaining := (sortedEntries tree).dropWhile fun entry => entry.1 ≤ continuationToken
        let page := remaining.take limit
        let hasMore : Bool := page.length < remaining.length
        .ok
          { objects := page.map fun entry => ⟨mode.locator root entry.1, entry.2⟩
            hasMore := hasMore
            continuationToken := if hasMore then (page.getLast?.map Prod.fst).getD "" else "" }

def headObjects (headObject : String → Except ErrorInfo (Option Nat)) :
    List String → Except ErrorInfo (List StorageInventoryObject)
  | [] => .ok []
  | key :: rest => do
      let size ← headObject key
      let others ← headObjects headObject rest
      pure (size.toList.map (fun sizeBytes => ⟨key, sizeBytes⟩) ++ others)

def listS3Inventory (listObjects : String → String → Nat → Except ErrorInfo S3ListResult)
    (headObject : String → Except ErrorInfo (Option Nat)) (start : String) : Inventory :=
  fun continuationToken limit =>
    if limit = 0 ∨ maxStorageInventoryPageSize < limit ∨ start = "" then
      .error ⟨.validationFailed, "Invalid S3 inventory request"⟩
    else do
      let listed ← listObjects start continuationToken limit
      if (listed.keys.all fun key => startsWith key start) = false then
        throw ⟨.internalError, "S3 inventory returned an object outside its prefix"⟩
      else if listed.isTruncated = true ∧
          (listed.continuationToken = "" ∨ listed.continuationToken = continuationToken) then
        throw ⟨.internalError, "S3 inventory pagination did not advance"⟩
      else
        let objects ← headObjects headObject listed.keys
        pure
          { objects
            hasMore := listed.isTruncated
            continuationToken := if listed.isTruncated then listed.continuationToken else "" }

end Inventory

section References

variable (db : Db) (locator : String)

/-- The object of a recorded chunk. A local chunk without a key lies under its number. -/
def chunkMatches (task : UploadTask) (chunk : UploadTaskChunk) : Bool :=
  chunk.objectKey = some locator ||
    (task.stagingBackend = .localDisk && chunk.objectKey = none &&
      locator = task.id ++ "/" ++ toString chunk.chunkIndex ++ ".chunk")

def assemblyMatches (task : UploadTask) : Bool :=
  (task.stagingBackend = .s3 && sqlLike (task.stagingPrefix ++ "/assembled/%").toList locator.toList) ||
    (task.stagingBackend = .localDisk && locator = task.id ++ ".tmp")

def stagingReferenced : Bool :=
  (db.chunks.any fun row => db.tasks.rows.any fun task =>
    task.id = row.1 && task.active && chunkMatches locator task row.2) ||
    db.tasks.rows.any fun task => task.status = .finalizing && assemblyMatches locator task

def finalReferenced : Bool := db.contents.rows.any fun content => content.storagePath = locator

def objectReferenced (scope : ReconciliationScope) : Bool :=
  if scope = .staging then stagingReferenced db locator else finalReferenced db locator

end References

section Pages

def orphanStagingObject : String := "orphan_staging_object"

def orphanFinalBlob : String := "orphan_final_blob"

def orphanType (scope : ReconciliationScope) : String :=
  if scope = .staging then orphanStagingObject else orphanFinalBlob

structure ObjectPageResult extends ReconciliationPageResult where
  nextContinuationToken : String := ""
  deriving Repr, DecidableEq

structure ObjectServices where
  stagingStorage : Option Inventory
  blobStore : Option Inventory
  sha256 : String → String
  createdAt : Nat → Timestamp

def ObjectServices.inventory (services : ObjectServices) (scope : ReconciliationScope) : Option Inventory :=
  if scope = .staging then services.stagingStorage else services.blobStore

variable (services : ObjectServices) (request : ReconciliationPageRequest)

def buildObjectResourceId (locator : String) : String := services.sha256 locator

def orphanFinding (object : StorageInventoryObject) : ReconciliationFinding where
  findingType := orphanType request.scope
  resourceId := buildObjectResourceId services object.locator
  resourceLocator := some object.locator
  severity := if request.scope = .staging then .warning else .critical
  resolutionStrategy := if request.scope = .staging then .alert else .manual
  details := makeDetails request.scanId [("size_bytes", .number object.sizeBytes)]

def advanceClock (elapsed : Nat) : Scan Unit :=
  modify fun state => { state with db := { state.db with now := state.db.now + elapsed } }

def inspectObjects (referenced : String → Bool) (waits : Nat → Nat) :
    List StorageInventoryObject → ReconciliationPageResult → Scan ReconciliationPageResult
  | [], page => pure page
  | object :: rest, page => do
      advanceClock (waits rest.length)
      let checked ← settleFinding (!referenced object.locator) (orphanFinding services request object) page
      inspectObjects referenced waits rest checked

def scanStart (db : Db) (firstJob : NewStorageJob) : Option Timestamp :=
  ((db.jobs.find? firstJob.dedupeKey).filter fun job =>
    job.jobType = storageReconcileJobType && job.aggregateId = request.scanId &&
      (job.payload.field "scope").string? = some request.scope.toStorageValue).map fun job =>
        services.createdAt job.id

def firstPageRequest : ReconciliationPageRequest := { request with afterId := 0, continuationToken := "" }

def resolveSelected (findings : FindingTable) (select : StoredFinding → Bool) (now : Timestamp) : FindingTable :=
  findings.update select (fun row => row.resolved now) fun row => row.resolved_key now

/-- Findings that the scan has not seen again are resolved when they were seen before it began. -/
def resolveStaleObjectFindings (findingType : String) : Scan Unit :=
  match buildStorageReconcileJob services.sha256 (firstPageRequest request) with
  | .error _ => throw reconciliationFailed
  | .ok firstJob =>
      modify fun state =>
        match scanStart services request state.db firstJob with
        | none => state
        | some startedAt =>
            { state with
              findings := resolveSelected state.findings
                (fun row => row.findingType = findingType && row.resolvedAt.isNone &&
                  row.lastSeenAt < startedAt) state.db.now }

def listPage : Except ErrorInfo StorageInventoryPage :=
  match validateReconciliationPageRequest request with
  | .error failure => .error failure
  | .ok () =>
      match services.inventory request.scope with
      | none => .error ⟨.internalError, "Reconciliation inventory is not configured"⟩
      | some inventory => inventory request.continuationToken request.limit.toNat

def runObjectPage (waits : Nat → Nat) : Scan ObjectPageResult :=
  match listPage services request with
  | .error failure => throw failure
  | .ok inventory => do
      let state ← get
      let page ← inspectObjects services request (fun locator => objectReferenced state.db locator request.scope)
        waits inventory.objects { inspected := inventory.objects.length, hasMore := inventory.hasMore }
      if inventory.hasMore = false then
        resolveStaleObjectFindings services request (orphanType request.scope)
      pure { page with nextContinuationToken := inventory.continuationToken }

def interruptedPage (waits : Nat → Nat) (count : Nat) : Scan Unit :=
  match listPage services request with
  | .error failure => throw failure
  | .ok inventory => do
      let state ← get
      let _ ← inspectObjects services request (fun locator => objectReferenced state.db locator request.scope)
        waits (inventory.objects.take count) {}
      pure ()

end Pages

/-- A scan of stored objects runs page after page. A page that stops early, or whose end was not recorded,
is run again, and the clock never goes back. -/
inductive ObjectScan (services : ObjectServices) :
    ReconciliationPageRequest → ReconciliationDb → ReconciliationDb → Prop
  | interrupted {request : ReconciliationPageRequest} {waits : Nat → Nat} {count : Nat}
      {outcome : Except ErrorInfo Unit} {before middle after : ReconciliationDb} {later : Timestamp} :
      (interruptedPage services request waits count).outcome before = (outcome, middle) →
      middle.db.now ≤ later → ObjectScan services request (middle.atTime later) after →
      ObjectScan services request before after
  | again {request : ReconciliationPageRequest} {waits : Nat → Nat}
      {outcome : Except ErrorInfo ObjectPageResult} {before middle after : ReconciliationDb}
      {later : Timestamp} :
      (runObjectPage services request waits).outcome before = (outcome, middle) →
      middle.db.now ≤ later → ObjectScan services request (middle.atTime later) after →
      ObjectScan services request before after
  | last {request : ReconciliationPageRequest} {waits : Nat → Nat} {page : ObjectPageResult}
      {before after : ReconciliationDb} :
      (runObjectPage services request waits).outcome before = (.ok page, after) →
      page.hasMore = false → ObjectScan services request before after
  | more {request : ReconciliationPageRequest} {waits : Nat → Nat} {page : ObjectPageResult}
      {before middle after : ReconciliationDb} {later : Timestamp} :
      (runObjectPage services request waits).outcome before = (.ok page, middle) →
      page.hasMore = true → middle.db.now ≤ later →
      ObjectScan services { request with continuationToken := page.nextContinuationToken }
        (middle.atTime later) after →
      ObjectScan services request before after

end DiskServer.Drive
