import DiskServer.Construction.Drive.Repositories

/-
This file gives the content service, which counts the references to each stored content.
-/

namespace DiskServer.Drive

open Library Jobs

def enqueue (job : NewStorageJob) : Tx Bool := do
  let db ← get
  match db.jobs.insertNew (job.row db.now db.nextJobId) with
  | none => pure false
  | some jobs =>
      set { db with jobs := jobs, nextJobId := db.nextJobId + 1 }
      pure true

/-- An existing job is armed again only after it has succeeded. -/
def enqueueOrRearmSucceeded (job : NewStorageJob) (failure : ErrorInfo) : Tx Bool := do
  let db ← get
  match db.jobs.find? job.dedupeKey with
  | none => enqueue job
  | some stored =>
      if (rearmSucceeded db.now job stored).isSome then
        set { db with
          jobs := db.jobs.update (fun row => row.dedupeKey = job.dedupeKey)
            (fun row => (rearmSucceeded db.now job row).getD row)
            (fun row => by unfold rearmSucceeded; split <;> rfl) }
        pure true
      else if stored.jobType = job.jobType ∧ stored.aggregateId = job.aggregateId then
        pure false
      else
        throw failure

/-- `FindByMd5` returns a content only when exactly one row has the hash. -/
def findByMd5 (db : Db) (hashMd5 : String) : Option FileContent :=
  match db.contents.rows.filter fun content => content.hashMd5 = hashMd5 with
  | [content] => some content
  | _ => none

def findExistingIds (db : Db) (contentIds : List Nat) : List Nat :=
  contentIds.filter fun contentId => (db.contents.find? contentId).isSome

def checkReferenceGate (contentId : Nat) : Tx Unit := do
  let db ← get
  match checkBlobGcReferenceGate contentId (db.jobs.find? (blobGcDedupeKey contentId)) with
  | none => failWith .internalError "Failed to verify file content lifecycle"
  | some .blocked => failWith .resourceConflict "File content is pending garbage collection"
  | some .allowed => pure ()

structure NewContent where
  hashMd5 : String
  hashSha256 : String
  size : Nat
  storagePath : String
  mimeType : String
  deriving Repr, DecidableEq

def NewContent.row (content : NewContent) (id : Nat) : FileContent :=
  ⟨id, content.hashMd5, content.hashSha256, content.size, content.storagePath, content.mimeType, 1⟩

def findByHashes (db : Db) (content : NewContent) : Option FileContent :=
  db.contents.rows.find? fun row =>
    row.hashMd5 = content.hashMd5 && row.hashSha256 = content.hashSha256

def checkExpected (expected : Option Nat) (existing : Option FileContent) : Tx Unit :=
  match expected with
  | none => pure ()
  | some contentId =>
      if existing.any fun row => row.id = contentId then
        pure ()
      else
        failWith .resourceConflict "File content changed while finalizing upload"

def acquireReference (content : NewContent) (expected : Option Nat) : Tx Nat := do
  let db ← get
  let existing := findByHashes db content
  checkExpected expected existing
  match existing with
  | some row =>
      if row.size ≠ content.size then
        failWith .chunkVerifyFailed "Existing file content size does not match its hashes"
      else
        checkReferenceGate row.id
        modify fun db => { db with
          contents := db.contents.update (fun other => other.id = row.id)
            (fun other => { other with refCount := other.refCount + 1 }) fun _ => rfl }
        pure row.id
  | none =>
      modify fun db => { db with contents := db.contents.insert content.row fun _ => rfl }
      checkReferenceGate db.contents.next
      pure db.contents.next

def addReferences (contentIds : List Nat) (amount : Nat → Int) : Tx Unit :=
  modify fun db => { db with
    contents := db.contents.update (fun row => contentIds.contains row.id)
      (fun row => { row with refCount := row.refCount + amount row.id }) fun _ => rfl }

def incrementRefCount (contentId increment : Nat) : Tx Unit :=
  if increment = 0 then
    pure ()
  else do
    let db ← get
    if (db.contents.find? contentId).isNone then
      failWith .resourceConflict "File content changed while acquiring a reference"
    else
      checkReferenceGate contentId
      addReferences [contentId] fun _ => increment

def countOccurrences (contentIds : List Nat) : List (Nat × Nat) :=
  contentIds.dedup.map fun contentId => (contentId, contentIds.count contentId)

def amountOf (amounts : List (Nat × Nat)) (contentId : Nat) : Nat :=
  ((amounts.find? fun entry => entry.1 = contentId).map Prod.snd).getD 0

def incrementRefCountsChecked (increments : List (Nat × Nat)) (existingContentIds : List Nat) :
    Tx (List Nat) := do
  let valid := ((increments.filter fun entry =>
    entry.2 ≠ 0 && existingContentIds.contains entry.1).map Prod.fst).insertionSort (· ≤ ·)
  if valid = [] then
    pure []
  else
    let db ← get
    if (db.contents.rows.filter fun row => valid.contains row.id).length ≠ valid.length then
      failWith .resourceConflict "File content changed while copying"
    else
      valid.forM checkReferenceGate
      addReferences valid fun contentId => amountOf increments contentId
      pure valid

/-- The update clamps a count at zero, and every content left without references gets a job. -/
def decrementRefCountsAndEnqueueGc (decrements : List (Nat × Nat)) : Tx Unit := do
  let contentIds := (decrements.filter fun entry => entry.2 ≠ 0).map Prod.fst
  modify fun db => { db with
    contents := db.contents.update (fun row => contentIds.contains row.id)
      (fun row => { row with refCount := max (row.refCount - amountOf decrements row.id) 0 })
      fun _ => rfl }
  let db ← get
  let zero := db.contents.rows.filter fun row => row.refCount = 0 && contentIds.contains row.id
  zero.forM fun row => do
    let _ ← enqueueOrRearmSucceeded (blobGcJob row.id row.storagePath)
      ⟨.internalError, "Failed to enqueue Blob garbage collection"⟩
    pure ()

end DiskServer.Drive
