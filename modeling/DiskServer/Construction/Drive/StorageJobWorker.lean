import DiskServer.Construction.Drive.ContentService

/-
This file gives the blob collection of the storage job worker and the statements on its jobs.
-/

namespace DiskServer.Drive

open Library Upload Jobs

def updateJob (dedupeKey : String) (change : StorageJob → Option StorageJob)
    (keeps : ∀ job next, change job = some next → next.dedupeKey = job.dedupeKey) : Tx Bool := do
  let db ← get
  match db.jobs.find? dedupeKey with
  | none => pure false
  | some job =>
      if (change job).isSome then
        set { db with
          jobs := db.jobs.update (fun row => row.dedupeKey = dedupeKey)
            (fun row => (change row).getD row) fun row => by
              cases found : change row with
              | none => rfl
              | some other => exact keeps row other found }
        pure true
      else
        pure false

def completeBlobGc (dedupeKey instanceId : String) : Tx Unit := do
  let persisted ← updateJob dedupeKey (markSucceeded instanceId) fun job next found => by
    unfold markSucceeded at found
    split at found <;> cases found
    rfl
  if persisted then pure () else throw databaseError

def hasReferences (db : Db) (contentId : Nat) : Bool :=
  (db.files.rows.any fun file => file.contentId = contentId) ||
    db.trash.rows.any fun row => row.contentId = some contentId

/-- The collection deletes the row only at zero references, and then the job has succeeded.
The deletion of the blob itself lies between the check and the row deletion. -/
def executeBlobGc (contentId : Nat) (storagePath dedupeKey instanceId : String) (blobDeleted : Bool) :
    Tx Unit := do
  let db ← get
  match db.contents.find? contentId with
  | none => completeBlobGc dedupeKey instanceId
  | some content =>
      if content.storagePath ≠ storagePath then
        throw databaseError
      else if 0 < content.refCount then
        completeBlobGc dedupeKey instanceId
      else if content.refCount < 0 ∨ hasReferences db contentId then
        throw databaseError
      else if ¬ blobDeleted then
        throw databaseError
      else
        set { db with
          contents := db.contents.remove fun row =>
            row.id = contentId && row.refCount = 0 && !hasReferences db contentId }
        completeBlobGc dedupeKey instanceId

end DiskServer.Drive
