import DiskServer.Construction.Drive.System
import DiskServer.Library.Frame

namespace DiskServer.Drive

open Library Transaction Upload Jobs

/-- The rows that form the drives of all users. -/
def Db.rows (db : Db) : Serial Folder Folder.id × Serial File File.id × Serial Trash Trash.id :=
  (db.folders, db.files, db.trash)

/-- A part of the state that lies outside the users, the contents, the jobs and the clock. -/
class IgnoresAccounts {Frame : Type} (frame : Db → Frame) : Prop where
  users : ∀ db users, frame { db with users := users } = frame db
  contents : ∀ db contents, frame { db with contents := contents } = frame db
  jobs : ∀ db jobs nextJobId, frame { db with jobs := jobs, nextJobId := nextJobId } = frame db
  now : ∀ db now, frame { db with now := now } = frame db

/-- What a registration gives to a user for good. -/
def Db.quotas (db : Db) : List (Nat × Int) := db.users.rows.map fun user => (user.id, user.storageQuota)

/-- A part of the state that lies outside the counters of the users, the contents, the jobs and the clock. -/
class IgnoresCounters {Frame : Type} (frame : Db → Frame) : Prop where
  counters : ∀ db users, Db.quotas { db with users := users } = db.quotas →
    frame { db with users := users } = frame db
  contents : ∀ db contents, frame { db with contents := contents } = frame db
  jobs : ∀ db jobs nextJobId, frame { db with jobs := jobs, nextJobId := nextJobId } = frame db
  now : ∀ db now, frame { db with now := now } = frame db

instance {Frame : Type} {frame : Db → Frame} [IgnoresAccounts frame] : IgnoresCounters frame where
  counters := fun db users _ => IgnoresAccounts.users db users
  contents := IgnoresAccounts.contents
  jobs := IgnoresAccounts.jobs
  now := IgnoresAccounts.now

/-- A part of the state that lies outside the upload tasks and their chunks. -/
class IgnoresTasks {Frame : Type} (frame : Db → Frame) : Prop where
  tasks : ∀ db tasks, frame { db with tasks := tasks } = frame db
  chunks : ∀ db chunks, frame { db with chunks := chunks } = frame db

/-- A part of the state that lies outside the folders and the files. -/
class IgnoresRows {Frame : Type} (frame : Db → Frame) : Prop where
  folders : ∀ db folders, frame { db with folders := folders } = frame db
  files : ∀ db files, frame { db with files := files } = frame db

/-- A part of the state that lies outside the folders. -/
class IgnoresFolders {Frame : Type} (frame : Db → Frame) : Prop where
  folders : ∀ db folders, frame { db with folders := folders } = frame db

instance {Frame : Type} {frame : Db → Frame} [IgnoresRows frame] : IgnoresFolders frame where
  folders := IgnoresRows.folders

/-- A part of the state that lies outside the trash. -/
class IgnoresTrash {Frame : Type} (frame : Db → Frame) : Prop where
  trash : ∀ db trash, frame { db with trash := trash } = frame db

instance : IgnoresAccounts Db.rows where
  users := fun _ _ => rfl
  contents := fun _ _ => rfl
  jobs := fun _ _ _ => rfl
  now := fun _ _ => rfl

instance : IgnoresAccounts Db.trash where
  users := fun _ _ => rfl
  contents := fun _ _ => rfl
  jobs := fun _ _ _ => rfl
  now := fun _ _ => rfl

instance : IgnoresTasks Db.trash where
  tasks := fun _ _ => rfl
  chunks := fun _ _ => rfl

instance : IgnoresRows Db.trash where
  folders := fun _ _ => rfl
  files := fun _ _ => rfl

instance : IgnoresAccounts Db.tasks where
  users := fun _ _ => rfl
  contents := fun _ _ => rfl
  jobs := fun _ _ _ => rfl
  now := fun _ _ => rfl

instance : IgnoresRows Db.tasks where
  folders := fun _ _ => rfl
  files := fun _ _ => rfl

instance : IgnoresTrash Db.tasks where
  trash := fun _ _ => rfl

variable {userId bytes contentId : Nat} {Frame : Type} {frame : Db → Frame}

/-- A quota statement changes no part of the state that does not depend on the users. -/
theorem updateUserChecked_frame
    (same : ∀ db users, frame { db with users := users } = frame db)
    {evaluated : User → Int} {outOfRange rejected : ErrorInfo}
    {selected : User → Bool} {change : User → User} {keyed : ∀ user, (change user).id = user.id} :
    KeepsFrame frame
      (updateUserChecked userId evaluated outOfRange rejected selected change keyed) := by
  unfold updateUserChecked
  refine keepsFrame_get_bind fun before => ?_
  split
  · exact keepsFrame_throw _ _
  · split
    · exact keepsFrame_throw _ _
    · split
      · exact keepsFrame_modify (fun db => same db _) _
      · exact keepsFrame_throw _ _

theorem unlessZero_keeps {zero : Prop} [Decidable zero] {program : Tx Unit} (kept : KeepsFrame frame program) :
    KeepsFrame frame (if zero then pure () else program) := by
  split
  · exact keepsFrame_pure _
  · exact kept

theorem adjustUsedStorageChecked_frame {delta : Int}
    (same : ∀ db users, frame { db with users := users } = frame db) :
    KeepsFrame frame (adjustUsedStorageChecked userId delta) := by
  unfold adjustUsedStorageChecked
  split
  · exact keepsFrame_pure _
  · split <;> exact updateUserChecked_frame same

theorem checkReferenceGate_keeps : KeepsFrame frame (checkReferenceGate contentId) := by
  refine keepsFrame_get_bind fun before => ?_
  split
  · exact keepsFrame_throw _ _
  · exact keepsFrame_throw _ _
  · exact keepsFrame_pure _ _

theorem checkExpected_keeps {expected : Option Nat} {existing : Option FileContent} :
    KeepsFrame frame (checkExpected expected existing) := by
  unfold checkExpected
  split
  · exact keepsFrame_pure _
  · split
    · exact keepsFrame_pure _
    · exact keepsFrame_throw _

section Tasks

variable [IgnoresTasks frame] {uploadId : String}

theorem updateTask_keeps {change : UploadTask → Option UploadTask} {keeps : Keeps change} :
    KeepsFrame frame (updateTask uploadId change keeps) := by
  refine keepsFrame_get_bind fun before => ?_
  split
  · exact keepsFrame_pure _ _
  · split
    · exact keepsFrame_pure _ _
    · refine keepsFrameAt_bind (keepsFrameAt_set ?_) fun _ => keepsFrame_pure _
      exact IgnoresTasks.tasks before _

theorem deleteChunks_keeps : KeepsFrame frame (deleteChunks uploadId) :=
  keepsFrame_modify fun db => IgnoresTasks.chunks db _

theorem runTaskStatement_keeps {statement : TaskStatement} :
    KeepsFrame frame (runTaskStatement statement uploadId) :=
  keepsFrame_get_bind fun before => updateTask_keeps before

theorem renewInTransaction_keeps {command : FinalizeCommand} :
    KeepsFrame frame (renewInTransaction command) := by
  refine keepsFrame_get_bind fun before => ?_
  refine keepsFrameAt_bind (updateTask_keeps _) fun renewed => ?_
  split
  · exact keepsFrame_throw _
  · exact keepsFrame_pure _

theorem markCompleted_keeps {command : FinalizeCommand} {stateVersion fileId : Nat} :
    KeepsFrame frame (markCompleted command stateVersion fileId) := by
  refine keepsFrame_get_bind fun before => ?_
  refine keepsFrameAt_bind (updateTask_keeps _) fun completed => ?_
  split
  · exact keepsFrame_throw _
  · exact keepsFrame_pure _

theorem recordChunk_keeps {chunkIndex sizeBytes : Nat} {hashMd5 objectKey etag : String} :
    KeepsFrame frame (recordChunk uploadId userId chunkIndex sizeBytes hashMd5 objectKey etag) := by
  refine keepsFrame_get_bind fun before => ?_
  split
  · exact keepsFrame_pure _ _
  · refine keepsFrameAt_bind (keepsFrameAt_set ?_) fun _ => keepsFrame_pure _
    exact IgnoresTasks.chunks before _

end Tasks

variable [IgnoresCounters frame]

/-- An update of the counters of some users keeps what they have for good. -/
theorem quotas_update {db : Db} {selected : User → Bool} {change : User → User}
    {keyed : ∀ user, (change user).id = user.id} (same : ∀ user, (change user).storageQuota = user.storageQuota) :
    Db.quotas { db with users := db.users.update selected change keyed } = db.quotas := by
  unfold Db.quotas
  change (db.users.rows.map fun user => if selected user then change user else user).map _ = _
  rw [List.map_map]
  apply List.map_congr_left
  intro user _
  simp only [Function.comp_apply]
  split
  · rw [keyed, same]
  · rfl

theorem updateUserChecked_keeps {evaluated : User → Int} {outOfRange rejected : ErrorInfo}
    {selected : User → Bool} {change : User → User} {keyed : ∀ user, (change user).id = user.id}
    (same : ∀ user, (change user).storageQuota = user.storageQuota) :
    KeepsFrame frame
      (updateUserChecked userId evaluated outOfRange rejected selected change keyed) := by
  refine keepsFrame_get_bind fun before => ?_
  split
  · exact keepsFrame_throw _ _
  · split
    · exact keepsFrame_throw _ _
    · split
      · exact keepsFrame_modify (fun db => IgnoresCounters.counters db _ (quotas_update same)) _
      · exact keepsFrame_throw _ _

section Quota

theorem reserveStorage_keeps : KeepsFrame frame (reserveStorage userId bytes) :=
  unlessZero_keeps (updateUserChecked_keeps fun _ => rfl)

theorem releaseReservedStorageChecked_keeps :
    KeepsFrame frame (releaseReservedStorageChecked userId bytes) :=
  unlessZero_keeps (updateUserChecked_keeps fun _ => rfl)

theorem commitReservedToUsed_keeps : KeepsFrame frame (commitReservedToUsed userId bytes) :=
  unlessZero_keeps (updateUserChecked_keeps fun _ => rfl)

theorem consumeUsedStorage_keeps : KeepsFrame frame (consumeUsedStorage userId bytes) :=
  unlessZero_keeps (updateUserChecked_keeps fun _ => rfl)

theorem chargeSelection_keeps : KeepsFrame frame (chargeSelection userId bytes) :=
  unlessZero_keeps (updateUserChecked_keeps fun _ => rfl)

theorem adjustUsedStorageChecked_keeps {delta : Int} :
    KeepsFrame frame (adjustUsedStorageChecked userId delta) := by
  unfold adjustUsedStorageChecked
  split
  · exact keepsFrame_pure _
  · split
    · exact updateUserChecked_keeps fun _ => rfl
    · exact updateUserChecked_keeps fun _ => rfl

theorem refundSkipped_keeps {totalSize actualSize : Nat} :
    KeepsFrame frame (refundSkipped userId totalSize actualSize) := by
  unfold refundSkipped
  split
  · exact keepsFrame_modify fun db => IgnoresCounters.counters db _ (quotas_update fun _ => rfl)
  · exact keepsFrame_pure _

end Quota

section Contents

theorem addReferences_keeps {contentIds : List Nat} {amount : Nat → Int} :
    KeepsFrame frame (addReferences contentIds amount) :=
  keepsFrame_modify fun db => IgnoresCounters.contents db _

theorem incrementRefCount_keeps {increment : Nat} :
    KeepsFrame frame (incrementRefCount contentId increment) := by
  unfold incrementRefCount
  split
  · exact keepsFrame_pure _
  · refine keepsFrame_get_bind fun before => ?_
    split
    · exact keepsFrame_throw _ _
    · exact keepsFrame_bind checkReferenceGate_keeps (fun _ => addReferences_keeps) _

theorem incrementRefCountsChecked_keeps {increments : List (Nat × Nat)} {existing : List Nat} :
    KeepsFrame frame (incrementRefCountsChecked increments existing) := by
  unfold incrementRefCountsChecked
  simp only
  split
  · exact keepsFrame_pure _
  · refine keepsFrame_get_bind fun before => ?_
    split
    · exact keepsFrame_throw _ _
    · refine keepsFrame_bind (keepsFrame_forM fun _ _ => checkReferenceGate_keeps) (fun _ => ?_) _
      exact keepsFrame_bind addReferences_keeps fun _ => keepsFrame_pure _

theorem countCopiedContents_keeps {files : List File} {existing : List Nat} :
    KeepsFrame frame (countCopiedContents files existing) := by
  refine keepsFrame_bind incrementRefCountsChecked_keeps fun incremented => ?_
  split
  · exact keepsFrame_pure _
  · exact keepsFrame_throw _

theorem acquireReference_keeps {content : NewContent} {expected : Option Nat} :
    KeepsFrame frame (acquireReference content expected) := by
  refine keepsFrame_get_bind fun before => ?_
  refine keepsFrame_bind checkExpected_keeps (fun _ => ?_) _
  split
  · split
    · exact keepsFrame_throw _
    · refine keepsFrame_bind checkReferenceGate_keeps fun _ => ?_
      exact keepsFrame_bind (keepsFrame_modify fun db => IgnoresCounters.contents db _) fun _ =>
        keepsFrame_pure _
  · refine keepsFrame_bind (keepsFrame_modify fun db => IgnoresCounters.contents db _) fun _ => ?_
    exact keepsFrame_bind checkReferenceGate_keeps fun _ => keepsFrame_pure _

end Contents

section Jobs

variable {job : NewStorageJob}

theorem enqueue_keeps : KeepsFrame frame (enqueue job) := by
  refine keepsFrame_get_bind fun before => ?_
  split
  · exact keepsFrame_pure _ _
  · exact keepsFrameAt_bind (keepsFrameAt_set (IgnoresCounters.jobs before _ _)) fun _ => keepsFrame_pure _

theorem enqueueOrRearmSucceeded_keeps {failure : ErrorInfo} :
    KeepsFrame frame (enqueueOrRearmSucceeded job failure) := by
  refine keepsFrame_get_bind fun before => ?_
  split
  · exact enqueue_keeps _
  · split
    · refine keepsFrameAt_bind (keepsFrameAt_set ?_) fun _ => keepsFrame_pure _
      exact IgnoresCounters.jobs before _ before.nextJobId
    · split
      · exact keepsFrame_pure _ _
      · exact keepsFrame_throw _ _

theorem releaseContents_keeps {contentIds : List Nat} :
    KeepsFrame frame (releaseContents contentIds) := by
  unfold releaseContents
  split
  · exact keepsFrame_pure _
  · refine keepsFrame_bind (keepsFrame_modify fun db => IgnoresCounters.contents db _) fun _ => ?_
    refine keepsFrame_get_bind fun before => ?_
    refine keepsFrame_forM (fun row _ => ?_) _
    exact keepsFrame_bind enqueueOrRearmSucceeded_keeps fun _ => keepsFrame_pure _

theorem updateJob_keeps {dedupeKey : String} {change : StorageJob → Option StorageJob}
    {keeps : ∀ job next, change job = some next → next.dedupeKey = job.dedupeKey} :
    KeepsFrame frame (updateJob dedupeKey change keeps) := by
  refine keepsFrame_get_bind fun before => ?_
  split
  · exact keepsFrame_pure _ _
  · split
    · refine keepsFrameAt_bind (keepsFrameAt_set ?_) fun _ => keepsFrame_pure _
      exact IgnoresCounters.jobs before _ before.nextJobId
    · exact keepsFrame_pure _ _

theorem runJobStatement_keeps {statement : JobStatement} {dedupeKey : String} :
    KeepsFrame frame (runJobStatement statement dedupeKey) :=
  keepsFrame_get_bind fun before => updateJob_keeps before

theorem completeBlobGc_keeps {dedupeKey instanceId : String} :
    KeepsFrame frame (completeBlobGc dedupeKey instanceId) := by
  refine keepsFrame_bind updateJob_keeps fun persisted => ?_
  split
  · exact keepsFrame_pure _
  · exact keepsFrame_throw _

theorem executeBlobGc_keeps {storagePath dedupeKey instanceId : String} {blobDeleted : Bool} :
    KeepsFrame frame (executeBlobGc contentId storagePath dedupeKey instanceId blobDeleted) := by
  refine keepsFrame_get_bind fun before => ?_
  split
  · exact completeBlobGc_keeps _
  · split
    · exact keepsFrame_throw _ _
    · split
      · exact completeBlobGc_keeps _
      · split
        · exact keepsFrame_throw _ _
        · split
          · exact keepsFrame_throw _ _
          · refine keepsFrameAt_bind (keepsFrameAt_set ?_) fun _ => completeBlobGc_keeps
            exact IgnoresCounters.contents before _

end Jobs

section TaskEnds

variable [IgnoresTasks frame] {uploadId : String}

theorem releaseTask_keeps {task : UploadTask} : KeepsFrame frame (releaseTask task userId) := by
  refine keepsFrame_bind releaseReservedStorageChecked_keeps fun _ => ?_
  exact keepsFrame_bind enqueue_keeps fun _ => deleteChunks_keeps

theorem cancelInProgressUpload_keeps :
    KeepsFrame frame (cancelInProgressUpload uploadId userId) := by
  refine keepsFrame_get_bind fun before => ?_
  refine keepsFrameAt_bind (updateTask_keeps _) fun cancelled => ?_
  split
  · exact keepsFrame_pure _
  · exact keepsFrame_bind releaseTask_keeps fun _ => keepsFrame_pure _

theorem expireInProgressUpload_keeps : KeepsFrame frame (expireInProgressUpload uploadId) := by
  refine keepsFrame_get_bind fun before => ?_
  refine keepsFrameAt_bind (updateTask_keeps _) fun expired => ?_
  split
  · exact keepsFrame_pure _
  · exact keepsFrame_bind releaseTask_keeps fun _ => keepsFrame_pure _

theorem createUploadTask_keeps {command : InitUploadCommand} {session : StagingSession} :
    KeepsFrame frame (createUploadTask command session) := by
  refine keepsFrame_get_bind fun before => ?_
  split
  · exact keepsFrame_pure _ _
  · refine keepsFrameAt_bind (reserveStorage_keeps _) fun _ => ?_
    refine keepsFrame_get_bind fun reserved => ?_
    split
    · exact keepsFrame_throw _ _
    · refine keepsFrameAt_bind (keepsFrameAt_set ?_) fun _ => keepsFrame_pure _
      exact IgnoresTasks.tasks reserved _

end TaskEnds

theorem tick_keeps {elapsed : Nat} : KeepsFrame frame (tick elapsed) :=
  keepsFrame_modify fun db => IgnoresCounters.now db _

omit [IgnoresCounters frame] in
theorem registerUser_keeps [IgnoresAccounts frame] {storageQuota : Nat} :
    KeepsFrame frame (registerUser storageQuota) :=
  keepsFrame_modify fun db => IgnoresAccounts.users db _

end DiskServer.Drive
