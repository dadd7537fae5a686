import DiskServer.Proof.Drive.NamespaceFrame
import DiskServer.Proof.Drive.StepCases

namespace DiskServer.Drive

open Library Transaction Upload Jobs

/-- The trash and the rows that carry the counters of the drive. -/
def Db.others (db : Db) :
    Serial Trash Trash.id × Serial User User.id × Serial FileContent FileContent.id :=
  (db.trash, db.users, db.contents)

instance : IgnoresRows Db.others where
  folders := fun _ _ => rfl
  files := fun _ _ => rfl

variable {Frame : Type} {frame : Db → Frame}

section Reads

variable {folderId userId : Nat}

theorem findOwnedFolder_keeps : KeepsFrame frame (findOwnedFolder folderId userId) :=
  keepsFrame_get_bind fun before => keepsFrame_pure _ before

theorem resolveOwnedFolderLocation_keeps :
    KeepsFrame frame (resolveOwnedFolderLocation folderId userId) := by
  unfold resolveOwnedFolderLocation
  split
  · exact keepsFrame_pure _
  · refine keepsFrame_bind findOwnedFolder_keeps fun found => ?_
    split
    · exact keepsFrame_throw _
    · exact keepsFrame_pure _

theorem requireTarget_keeps : KeepsFrame frame (requireTarget folderId userId) := by
  unfold requireTarget
  split
  · refine keepsFrame_bind findOwnedFolder_keeps fun found => ?_
    split
    · exact keepsFrame_throw _
    · exact keepsFrame_pure _
  · exact keepsFrame_pure _

theorem restoreTarget_keeps : KeepsFrame frame (restoreTarget folderId userId) := by
  unfold restoreTarget
  split
  · exact keepsFrame_pure _
  · refine keepsFrame_bind findOwnedFolder_keeps fun found => ?_
    split <;> exact keepsFrame_pure _

theorem fetchLifecycleRow_keeps {trashId : Nat} {itemType : TrashItemType} :
    KeepsFrame frame (fetchLifecycleRow trashId userId itemType) := by
  refine keepsFrame_get_bind fun before => ?_
  split
  · exact keepsFrame_throw _ before
  · split
    · exact keepsFrame_pure _ before
    · exact keepsFrame_throw _ before

theorem liftDecoded_keeps {Value : Type} {failure : ErrorInfo} {decoded : Decoded Value} :
    KeepsFrame frame (liftDecoded failure decoded) := by
  cases decoded with
  | error => exact keepsFrame_throw _
  | ok => exact keepsFrame_pure _

theorem fetchBatchFolderDeletePlans_keeps {hashOrder folderIds : List Nat} :
    KeepsFrame frame (fetchBatchFolderDeletePlans hashOrder folderIds userId) := by
  refine keepsFrame_get_bind fun before => ?_
  split
  · exact keepsFrame_throw _ before
  · exact keepsFrame_pure _ before

end Reads

section Folders

variable [IgnoresFolders frame] {folderId userId : Nat}

theorem applyItemCountDelta_keeps {delta : Int} :
    KeepsFrame frame (applyItemCountDelta folderId userId delta) := by
  refine keepsFrame_get_bind fun before => ?_
  split
  · refine keepsFrame_bind ?_ (fun _ => keepsFrame_pure _) before
    exact keepsFrame_modify fun db => IgnoresFolders.folders db _
  · exact keepsFrame_pure _ before

theorem insertFolder_keeps {build : Nat → Folder} {keyed : ∀ id, (build id).id = id} :
    KeepsFrame frame (insertFolder build keyed) := by
  refine keepsFrame_get_bind fun before => ?_
  simp only
  split
  · exact keepsFrame_throw _ before
  · split
    · exact keepsFrame_throw _ before
    · refine keepsFrame_bind ?_ (fun _ => keepsFrame_pure _) before
      exact keepsFrame_modify fun db => IgnoresFolders.folders db _

theorem deleteFoldersByIds_keeps {folderIds : List Nat} :
    KeepsFrame frame (deleteFoldersByIds folderIds) := by
  refine keepsFrame_get_bind fun before => ?_
  refine keepsFrame_bind ?_ (fun _ => keepsFrame_pure _) before
  exact keepsFrame_modify fun db => IgnoresFolders.folders db _

/-- A count that must find its folder fails or changes that folder alone. -/
theorem countedOrFailed_keeps {delta : Int} {failure : ErrorInfo} :
    KeepsFrame frame (do
      let updated ← applyItemCountDelta folderId userId delta
      if updated then pure () else throw failure : Tx Unit) := by
  refine keepsFrame_bind applyItemCountDelta_keeps fun updated => ?_
  split
  · exact keepsFrame_pure _
  · exact keepsFrame_throw _

theorem countRestoredItem_keeps {failure : ErrorInfo} :
    KeepsFrame frame (countRestoredItem folderId userId failure) := by
  unfold countRestoredItem
  split
  · exact countedOrFailed_keeps
  · exact keepsFrame_pure _

theorem countCopiedItems_keeps {count : Nat} :
    KeepsFrame frame (countCopiedItems folderId userId count) := by
  unfold countCopiedItems
  split
  · exact countedOrFailed_keeps
  · exact keepsFrame_pure _

theorem countNewItem_keeps : KeepsFrame frame (countNewItem folderId userId) := by
  unfold countNewItem
  split
  · exact keepsFrame_bind applyItemCountDelta_keeps fun _ => keepsFrame_pure _
  · exact keepsFrame_pure _

theorem countSavedItems_keeps {count : Nat} :
    KeepsFrame frame (countSavedItems folderId userId count) := by
  unfold countSavedItems
  split
  · exact keepsFrame_bind applyItemCountDelta_keeps fun _ => keepsFrame_pure _
  · exact keepsFrame_pure _

theorem createFolder_keeps {parentId : Nat} {name : String} :
    KeepsFrame frame (createFolder userId parentId name) := by
  refine keepsFrame_bind ?_ fun location => keepsFrame_get_bind fun before => ?_
  · unfold raiseParent
    split
    · refine keepsFrame_bind applyItemCountDelta_keeps fun updated => ?_
      split
      · refine keepsFrame_bind findOwnedFolder_keeps fun found => ?_
        split
        · exact keepsFrame_throw _
        · exact keepsFrame_pure _
      · exact keepsFrame_throw _
    · exact keepsFrame_pure _
  · split
    · exact keepsFrame_throw _ before
    · exact insertFolder_keeps before

variable {rootDepth oldRootDepth : Nat}

theorem restorePass_keeps (pending : List SnapshotFolder) (folders : FolderMap) :
    KeepsFrame frame (restorePass userId rootDepth oldRootDepth pending folders) := by
  induction pending generalizing folders with
  | nil => exact keepsFrame_pure _
  | cons folder rest ih =>
      unfold restorePass
      split
      · exact keepsFrame_bind (ih folders) fun _ => keepsFrame_pure _
      · exact keepsFrame_bind insertFolder_keeps fun _ => ih _

theorem restoreFolders_keeps (fuel : Nat) (pending : List SnapshotFolder) (folders : FolderMap) :
    KeepsFrame frame (restoreFolders userId rootDepth oldRootDepth fuel pending folders) := by
  induction fuel generalizing pending folders with
  | zero =>
      cases pending with
      | nil => exact keepsFrame_pure _
      | cons => exact keepsFrame_throw _
  | succ fuel ih =>
      cases pending with
      | nil => exact keepsFrame_pure _
      | cons folder rest =>
          refine keepsFrame_bind (restorePass_keeps (folder :: rest) folders) fun passed => ?_
          obtain ⟨left, restored⟩ := passed
          simp only
          split
          · exact keepsFrame_throw _
          · exact ih _ _

end Folders

variable [IgnoresRows frame]

section Rows

variable {folderId userId : Nat}

theorem insertFile_keeps {build : Nat → File} {keyed : ∀ id, (build id).id = id} :
    KeepsFrame frame (insertFile build keyed) := by
  refine keepsFrame_get_bind fun before => ?_
  simp only
  split
  · exact keepsFrame_throw _ before
  · split
    · exact keepsFrame_throw _ before
    · split
      · exact keepsFrame_throw _ before
      · refine keepsFrame_bind ?_ (fun _ => keepsFrame_pure _) before
        exact keepsFrame_modify fun db => IgnoresRows.files db _

theorem insertFileRecord_keeps {file : NewFile} : KeepsFrame frame (insertFileRecord file) := by
  refine keepsFrame_get_bind fun before => ?_
  split
  · exact keepsFrame_throw _ before
  · exact insertFile_keeps before

theorem deleteFilesByIds_keeps {fileIds : List Nat} :
    KeepsFrame frame (deleteFilesByIds fileIds) := by
  refine keepsFrame_get_bind fun before => ?_
  refine keepsFrame_bind ?_ (fun _ => keepsFrame_pure _) before
  exact keepsFrame_modify fun db => IgnoresRows.files db _

end Rows

section Trees

variable {userId rootDepth oldRootDepth : Nat}

theorem restoreSnapshotFile_keeps {folders : FolderMap} {file : SnapshotFile} :
    KeepsFrame frame (restoreSnapshotFile userId folders file) := by
  unfold restoreSnapshotFile
  split
  · exact keepsFrame_throw _
  · exact keepsFrame_bind insertFile_keeps fun _ => keepsFrame_pure _

theorem restoreTree_keeps {rootId : Nat} {rootPath : String} {snapshot : Option FolderTreeSnapshot} :
    KeepsFrame frame (restoreTree userId rootDepth rootId rootPath snapshot) := by
  cases snapshot with
  | none => exact keepsFrame_pure _
  | some snapshot =>
      refine keepsFrame_bind (restoreFolders_keeps _ _ _) fun folders => ?_
      exact keepsFrame_forM fun _ _ => restoreSnapshotFile_keeps

theorem copyTree_keeps {run : CopyRun} {location : FolderLocation} {plan : FolderDeletePlan} :
    KeepsFrame frame (copyTree run location plan) := by
  refine keepsFrame_bind insertFolder_keeps fun rootId => ?_
  refine keepsFrame_bind (keepsFrame_foldlM (fun folder _ folders => ?_) _) fun folders => ?_
  · unfold copyFolderNode
    split
    · exact keepsFrame_throw _
    · exact keepsFrame_bind insertFolder_keeps fun _ => keepsFrame_pure _
  · refine keepsFrame_forM fun file _ => ?_
    unfold copyTreeFile
    split
    · exact keepsFrame_throw _
    · exact keepsFrame_bind insertFile_keeps fun _ => keepsFrame_pure _

end Trees

theorem insertCopiedFiles_keeps {userId targetFolderId : Nat} {files : List File} :
    KeepsFrame frame (insertCopiedFiles userId targetFolderId files) := by
  unfold insertCopiedFiles
  split
  · exact keepsFrame_pure _
  · refine keepsFrame_bind resolveOwnedFolderLocation_keeps fun location => ?_
    refine keepsFrame_forM fun file _ => ?_
    exact keepsFrame_bind insertFile_keeps fun _ => keepsFrame_pure _

section Requests

variable [IgnoresCounters frame]

theorem instantUpload_keeps {command : InitUploadCommand} {content : FileContent} :
    KeepsFrame frame (instantUpload command content) := by
  refine keepsFrame_get_bind fun before => ?_
  split
  · exact keepsFrame_throw _ before
  · refine keepsFrame_bind consumeUsedStorage_keeps (fun _ => ?_) before
    refine keepsFrame_bind incrementRefCount_keeps fun _ => ?_
    refine keepsFrame_bind resolveOwnedFolderLocation_keeps fun location => ?_
    refine keepsFrame_bind insertFileRecord_keeps fun _ => ?_
    exact keepsFrame_bind countNewItem_keeps fun _ => keepsFrame_pure _

theorem completeUpload_keeps [IgnoresTasks frame] {command : FinalizeCommand} :
    KeepsFrame frame (completeUpload command) := by
  refine keepsFrame_bind renewInTransaction_keeps fun stateVersion => ?_
  refine keepsFrame_bind acquireReference_keeps fun contentId => ?_
  refine keepsFrame_bind resolveOwnedFolderLocation_keeps fun location => ?_
  refine keepsFrame_bind insertFileRecord_keeps fun fileId => ?_
  refine keepsFrame_bind countNewItem_keeps fun _ => ?_
  refine keepsFrame_bind commitReservedToUsed_keeps fun _ => ?_
  refine keepsFrame_bind markCompleted_keeps fun completed => ?_
  refine keepsFrame_bind enqueue_keeps fun _ => ?_
  exact keepsFrame_bind deleteChunks_keeps fun _ => keepsFrame_pure _

variable {userId targetFolderId : Nat}

theorem saveFile_keeps {folderId : Nat} {folderPath : String} {file : File} :
    KeepsFrame frame (saveFile userId folderId folderPath file) := by
  refine keepsFrame_bind incrementRefCount_keeps fun _ => ?_
  exact keepsFrame_bind insertFile_keeps fun _ => keepsFrame_pure _

theorem saveTree_keeps {location : FolderLocation} {saved : Nat × Nat} {plan : SavePlan} :
    KeepsFrame frame (saveTree userId targetFolderId location saved plan) := by
  refine keepsFrame_get_bind fun before => ?_
  split
  · exact keepsFrame_pure _ before
  · refine keepsFrame_bind insertFolder_keeps (fun rootId => ?_) before
    refine keepsFrame_bind (keepsFrame_foldlM (fun folder _ folders => ?_) _) fun folders => ?_
    · unfold saveFolderNode
      split
      · exact keepsFrame_pure _
      · exact keepsFrame_bind insertFolder_keeps fun _ => keepsFrame_pure _
    · refine keepsFrame_bind (keepsFrame_foldlM (fun file _ size => ?_) _) fun _ => keepsFrame_pure _
      unfold saveTreeFile
      split
      · exact keepsFrame_pure _
      · exact keepsFrame_bind saveFile_keeps fun _ => keepsFrame_pure _

theorem saveToDrive_keeps {location : FolderLocation} {selection : SaveSelection} :
    KeepsFrame frame (saveToDrive userId targetFolderId location selection) := by
  refine keepsFrame_bind chargeSelection_keeps fun _ => ?_
  refine keepsFrame_bind (keepsFrame_foldlM (fun file _ saved => ?_) _) fun savedFiles => ?_
  · refine keepsFrame_get_bind fun before => ?_
    split
    · exact keepsFrame_pure _ before
    · exact keepsFrame_bind saveFile_keeps (fun _ => keepsFrame_pure _) before
  · refine keepsFrame_bind (keepsFrame_foldlM (fun _ _ _ => saveTree_keeps) _) fun saved => ?_
    refine keepsFrame_bind countSavedItems_keeps fun _ => ?_
    exact keepsFrame_bind refundSkipped_keeps fun _ => keepsFrame_pure _

theorem copyFileBatch_keeps {run : CopyRun} {validItems : List File} {existing : List Nat} :
    KeepsFrame frame (copyFileBatch run validItems existing) := by
  refine keepsFrame_bind requireTarget_keeps fun _ => keepsFrame_get_bind fun before => ?_
  simp only
  refine keepsFrame_bind countCopiedContents_keeps (fun _ => ?_) before
  refine keepsFrame_bind insertCopiedFiles_keeps fun _ => ?_
  refine keepsFrame_bind countCopiedItems_keeps fun _ => ?_
  refine keepsFrame_bind commitReservedToUsed_keeps fun _ => ?_
  exact keepsFrame_bind releaseReservedStorageChecked_keeps fun _ => keepsFrame_pure _

theorem copyFolder_keeps {run : CopyRun} {plan : FolderDeletePlan} {existing : List Nat} :
    KeepsFrame frame (copyFolder run plan existing) := by
  refine keepsFrame_bind requireTarget_keeps fun target => keepsFrame_get_bind fun before => ?_
  split
  · exact keepsFrame_bind releaseReservedStorageChecked_keeps
      (fun _ => keepsFrame_pure _) before
  · refine keepsFrame_bind countCopiedContents_keeps (fun _ => ?_) before
    refine keepsFrame_bind copyTree_keeps fun _ => ?_
    refine keepsFrame_bind countCopiedItems_keeps fun _ => ?_
    exact keepsFrame_bind commitReservedToUsed_keeps fun _ => keepsFrame_pure _

end Requests

section Trash

variable [IgnoresTrash frame] {trashId userId candidateIndex : Nat}

omit [IgnoresRows frame] in
theorem insertTrashRecord_keeps {item : TrashInsertItem} :
    KeepsFrame frame (insertTrashRecord userId item) := by
  refine keepsFrame_get_bind fun before => ?_
  split
  · exact keepsFrame_throw _ before
  · split
    · exact keepsFrame_throw _ before
    · exact keepsFrameAt_set (IgnoresTrash.trash before _)

omit [IgnoresRows frame] in
theorem deleteTrashRow_keeps {itemType : TrashItemType} {failure : ErrorInfo} :
    KeepsFrame frame (deleteTrashRow trashId userId itemType failure) := by
  refine keepsFrame_get_bind fun before => ?_
  simp only
  split
  · exact keepsFrame_throw _ before
  · exact keepsFrameAt_set (IgnoresTrash.trash before _)

omit [IgnoresRows frame] in
theorem deleteTrashByIds_keeps {trashIds : List Nat} : KeepsFrame frame (deleteTrashByIds trashIds) := by
  refine keepsFrame_get_bind fun before => ?_
  exact keepsFrameAt_bind (keepsFrameAt_set (IgnoresTrash.trash before _)) fun _ => keepsFrame_pure _

theorem moveToTrash_keeps {hashOrder fileIds folderIds : List Nat} :
    KeepsFrame frame (moveToTrash hashOrder fileIds folderIds userId) := by
  refine keepsFrame_bind fetchBatchFolderDeletePlans_keeps fun plans => ?_
  refine keepsFrame_get_bind fun before => ?_
  simp only
  split
  · exact keepsFrame_throw _ before
  · refine keepsFrame_bind (keepsFrame_forM fun _ _ => insertTrashRecord_keeps) (fun _ => ?_) before
    refine keepsFrame_bind (keepsFrame_forM fun _ _ => countedOrFailed_keeps) fun _ => ?_
    refine keepsFrame_bind deleteFilesByIds_keeps fun fileRows => ?_
    split
    · exact keepsFrame_throw _
    · refine keepsFrame_bind deleteFoldersByIds_keeps fun folderRows => ?_
      split
      · exact keepsFrame_throw _
      · exact keepsFrame_pure _

theorem restoreFile_keeps : KeepsFrame frame (restoreFile trashId userId candidateIndex) := by
  refine keepsFrame_bind fetchLifecycleRow_keeps fun item => ?_
  split
  · exact keepsFrame_throw _
  · simp only
    refine keepsFrame_bind restoreTarget_keeps fun target => keepsFrame_get_bind fun before => ?_
    split
    · exact keepsFrame_throw _ before
    · refine keepsFrame_bind liftDecoded_keeps (fun mimeType => ?_) before
      refine keepsFrame_bind insertFile_keeps fun fileId => ?_
      refine keepsFrame_bind countRestoredItem_keeps fun _ => ?_
      exact keepsFrame_bind deleteTrashRow_keeps fun _ => keepsFrame_pure _

theorem restoreFolder_keeps : KeepsFrame frame (restoreFolder trashId userId candidateIndex) := by
  refine keepsFrame_bind fetchLifecycleRow_keeps fun item => ?_
  refine keepsFrame_bind liftDecoded_keeps fun snapshot => ?_
  simp only
  refine keepsFrame_bind restoreTarget_keeps fun target => keepsFrame_get_bind fun before => ?_
  split
  · exact keepsFrame_throw _ before
  · refine keepsFrame_bind insertFolder_keeps (fun rootId => ?_) before
    refine keepsFrame_bind restoreTree_keeps fun _ => ?_
    refine keepsFrame_bind countRestoredItem_keeps fun _ => ?_
    exact keepsFrame_bind deleteTrashRow_keeps fun _ => keepsFrame_pure _

omit [IgnoresRows frame] in
theorem permanentlyDeleteTrashItems_keeps [IgnoresCounters frame] {items : List Trash}
    {requireValid : Bool} : KeepsFrame frame (permanentlyDeleteTrashItems items requireValid) := by
  unfold permanentlyDeleteTrashItems
  split
  · exact keepsFrame_throw _
  · split
    · exact keepsFrame_pure _
    · refine keepsFrame_bind releaseContents_keeps fun _ => ?_
      refine keepsFrame_bind deleteTrashByIds_keeps fun deleted => ?_
      split
      · exact keepsFrame_throw _
      · refine keepsFrame_bind (keepsFrame_forM fun _ _ => adjustUsedStorageChecked_keeps) fun _ => ?_
        exact keepsFrame_pure _

end Trash

namespace CopyRun

variable {run : CopyRun} {db : Db} [IgnoresCounters frame]

omit [IgnoresCounters frame] [IgnoresRows frame] in
theorem settle_keeps {staged : Except ErrorInfo ((Nat × Nat) × Db)} {unit skippedBefore : Nat}
    (kept : ∀ amounts after, staged = .ok (amounts, after) → frame after = frame db) :
    frame (run.settle staged db unit skippedBefore).1 = frame db := by
  cases staged with
  | error => rfl
  | ok pair => exact kept pair.1 pair.2 rfl

theorem stepBatch_keeps {namesRead existingRead : Option Db} {fails : Bool} {chunk : List File}
    {rest : List (List File)} :
    frame (run.stepBatch namesRead existingRead fails db chunk rest).1 = frame db := by
  unfold stepBatch
  simp only
  split
  · rfl
  · split
    · rfl
    · apply settle_keeps
      intro amounts after staged
      split at staged
      · cases staged
      · exact copyFileBatch_keeps _ _ _ staged

theorem stepFolder_keeps {existingRead : Option Db} {fails : Bool} {occupied : List String}
    {plan : FolderDeletePlan} {rest : List FolderDeletePlan} :
    frame (run.stepFolder existingRead fails db occupied plan rest).1 = frame db := by
  unfold stepFolder
  simp only
  split
  · rfl
  · split
    · rfl
    · split
      · rfl
      · apply settle_keeps
        intro amounts after staged
        split at staged
        · cases staged
        · exact copyFolder_keeps _ _ _ staged

omit [IgnoresRows frame] in
theorem stepRelease_keeps {fails : Bool} : frame (run.stepRelease fails db).1 = frame db := by
  unfold stepRelease
  split
  · rfl
  · rename_i value after staged
    split at staged
    · cases staged
    · exact releaseReservedStorageChecked_keeps _ _ _ staged

end CopyRun

/-- The requests that write trash rows. -/
def DriveAction.writesTrash : DriveAction → Bool
  | .moveToTrash .. | .restoreFile .. | .restoreFolder .. | .permanentDelete .. => true
  | _ => false

def DriveAction.registers : DriveAction → Bool
  | .registerUser .. => true
  | _ => false

/-- The statements that write upload tasks or their chunks. -/
def DriveAction.writesTasks : DriveAction → Bool
  | .createUploadTask .. | .recordChunk .. | .taskStatement .. | .completeUpload ..
  | .cancelUpload .. | .expireUpload .. => true
  | _ => false

namespace World

variable {world next : World}

section Commit

variable {Value : Type} {program : Tx Value}

omit [IgnoresRows frame] in
theorem commit_keeps (kept : KeepsFrame frame program) (moved : world.commit program = some next) :
    frame next.db = frame world.db := by
  unfold commit at moved
  split at moved
  · rename_i value after ran
    cases moved
    exact kept _ _ _ ran
  · cases moved

omit [IgnoresRows frame] in
theorem commitSettling_keeps {uploadId : String} {program : Tx (Option Nat)}
    (kept : KeepsFrame frame program) (moved : world.commitSettling uploadId program = some next) :
    frame next.db = frame world.db := by
  unfold commitSettling at moved
  split at moved
  · rename_i version after ran
    cases moved
    exact kept _ _ _ ran
  · rename_i after ran
    cases moved
    exact kept _ _ _ ran
  · cases moved

end Commit

variable [IgnoresCounters frame]

theorem stepCopyFolder_keeps {run : CopyRun} {existing : Option Db} {fails : Bool}
    {outcome : Db × CopyRun} (stepped : world.stepCopyFolder run existing fails = some outcome) :
    frame outcome.1 = frame world.db := by
  unfold stepCopyFolder at stepped
  split at stepped
  · cases stepped
    rfl
  · cases stepped
    exact CopyRun.stepFolder_keeps
  · cases stepped

/-- A step keeps every part of the state that lies outside the tables and the columns that its action writes. -/
theorem step_keeps_part {action : DriveAction} (users : action.registers = false ∨ IgnoresAccounts frame)
    (trash : action.writesTrash = false ∨ IgnoresTrash frame)
    (tasks : action.writesTasks = false ∨ IgnoresTasks frame)
    (moved : world.step action = some next) : frame next.db = frame world.db := by
  cases moved_of_step moved with
  | commits issued moved =>
      refine commit_keeps ?_ moved
      cases issued with
      | registerUser =>
          have := users.resolve_left Bool.true_eq_false.mp
          exact registerUser_keeps
      | createFolder => exact createFolder_keeps
      | instantUpload => exact instantUpload_keeps
      | createUploadTask =>
          have := tasks.resolve_left Bool.true_eq_false.mp
          exact createUploadTask_keeps
      | recordChunk =>
          have := tasks.resolve_left Bool.true_eq_false.mp
          exact recordChunk_keeps
      | taskStatement =>
          have := tasks.resolve_left Bool.true_eq_false.mp
          exact runTaskStatement_keeps
      | moveToTrash =>
          have := trash.resolve_left Bool.true_eq_false.mp
          exact moveToTrash_keeps
      | restoreFile =>
          have := trash.resolve_left Bool.true_eq_false.mp
          exact restoreFile_keeps
      | restoreFolder =>
          have := trash.resolve_left Bool.true_eq_false.mp
          exact restoreFolder_keeps
      | permanentDelete =>
          have := trash.resolve_left Bool.true_eq_false.mp
          exact permanentlyDeleteTrashItems_keeps
      | saveToDrive => exact saveToDrive_keeps
      | jobStatement => exact runJobStatement_keeps
      | executeBlobGc => exact executeBlobGc_keeps
      | tick => exact tick_keeps
  | settles settled moved =>
      refine commitSettling_keeps ?_ moved
      have := tasks.resolve_left (by cases settled <;> exact Bool.true_eq_false.mp)
      cases settled with
      | completeUpload => exact keepsFrame_map completeUpload_keeps
      | cancelUpload => exact cancelInProgressUpload_keeps
      | expireUpload => exact expireInProgressUpload_keeps
  | starts _ _ moved =>
      unfold World.startCopy at moved
      split at moved
      · cases moved
      · split at moved
        · cases moved
        · rename_i value after ran
          cases moved
          exact reserveStorage_keeps _ _ _ ran
  | copies _ continued same =>
      subst same
      cases continued with
      | batch => exact CopyRun.stepBatch_keeps
      | folder _ stepped => exact stepCopyFolder_keeps stepped
      | release => exact CopyRun.stepRelease_keeps
      | rootNames | abandon => rfl

omit [IgnoresCounters frame] in
/-- A step keeps every part of the state that lies outside the tables that its action writes. -/
theorem step_keeps [IgnoresAccounts frame] {action : DriveAction}
    (trash : action.writesTrash = false ∨ IgnoresTrash frame)
    (tasks : action.writesTasks = false ∨ IgnoresTasks frame)
    (moved : world.step action = some next) : frame next.db = frame world.db :=
  step_keeps_part (.inr inferInstance) trash tasks moved

end World

end DiskServer.Drive
