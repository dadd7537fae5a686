import DiskServer.Construction.Drive.System

namespace DiskServer.Drive.World

variable {world next : World}

/-- The transaction that an action commits, and what the action has read before. -/
inductive Issues (world : World) : {Value : Type} → DriveAction → Tx Value → Prop
  | registerUser {storageQuota} : Issues world (.registerUser storageQuota) (Drive.registerUser storageQuota)
  | createFolder {userId parentId name} (named : name ≠ "") :
      Issues world (.createFolder userId parentId name) (Drive.createFolder userId parentId name)
  | instantUpload {command contentRead seen content} (read : world.read contentRead = some seen)
      (found : findByMd5 seen command.fileHash = some content) (valid : command.valid) :
      Issues world (.instantUpload command contentRead) (Drive.instantUpload command content)
  | createUploadTask {command session} (valid : command.valid) :
      Issues world (.createUploadTask command session) (Drive.createUploadTask command session)
  | recordChunk {uploadId userId chunkIndex sizeBytes hashMd5 objectKey etag} :
      Issues world (.recordChunk uploadId userId chunkIndex sizeBytes hashMd5 objectKey etag)
        (Drive.recordChunk uploadId userId chunkIndex sizeBytes hashMd5 objectKey etag)
  | taskStatement {statement uploadId} :
      Issues world (.taskStatement statement uploadId) (runTaskStatement statement uploadId)
  | moveToTrash {hashOrder fileIds folderIds userId} :
      Issues world (.moveToTrash hashOrder fileIds folderIds userId)
        (Drive.moveToTrash hashOrder fileIds folderIds userId)
  | restoreFile {trashId userId candidateIndex} :
      Issues world (.restoreFile trashId userId candidateIndex) (Drive.restoreFile trashId userId candidateIndex)
  | restoreFolder {trashId userId candidateIndex} :
      Issues world (.restoreFolder trashId userId candidateIndex) (Drive.restoreFolder trashId userId candidateIndex)
  | permanentDelete {itemRead trashIds requireValid seen} (read : world.read itemRead = some seen) :
      Issues world (.permanentDelete itemRead trashIds requireValid)
        (permanentlyDeleteTrashItems (trashIds.filterMap seen.trash.find?) requireValid)
  | saveToDrive {request location selection} (read : world.readSaveSelection request = some selection) :
      Issues world (.saveToDrive request)
        (Drive.saveToDrive request.userId request.targetFolderId location selection)
  | jobStatement {statement dedupeKey} :
      Issues world (.jobStatement statement dedupeKey) (runJobStatement statement dedupeKey)
  | executeBlobGc {contentId storagePath dedupeKey instanceId blobDeleted} :
      Issues world (.executeBlobGc contentId storagePath dedupeKey instanceId blobDeleted)
        (Drive.executeBlobGc contentId storagePath dedupeKey instanceId blobDeleted)
  | tick {elapsed} : Issues world (.tick elapsed) (Drive.tick elapsed)

/-- The transaction with which an action ends an upload task. -/
inductive Settles (world : World) : DriveAction → String → Tx (Option Nat) → Prop
  | completeUpload {request taskRead seen task} (read : world.read taskRead = some seen)
      (found : seen.tasks.find? request.uploadId = some task) :
      Settles world (.completeUpload request taskRead) request.uploadId
        (some <$> Drive.completeUpload (request.command task))
  | cancelUpload {uploadId userId} :
      Settles world (.cancelUpload uploadId userId) uploadId (cancelInProgressUpload uploadId userId)
  | expireUpload {uploadId} : Settles world (.expireUpload uploadId) uploadId (expireInProgressUpload uploadId)

/-- What an action makes of the run of a copy and of the state. -/
inductive Continues (world : World) (slot : Nat) (run : CopyRun) : DriveAction → Db × CopyRun → Prop
  | batch {namesRead existingRead fails names existing chunk rest} (idle : run.owed = 0)
      (chunks : run.chunks = chunk :: rest) : Continues world slot run (.copyBatch slot namesRead existingRead fails)
        (run.stepBatch names existing fails world.db chunk rest)
  | rootNames {namesRead names} :
      Continues world slot run (.copyRootNames slot namesRead) (world.db, run.stepRootNames names)
  | folder {existingRead fails existing outcome} (idle : run.owed = 0)
      (stepped : world.stepCopyFolder run existing fails = some outcome) :
      Continues world slot run (.copyFolder slot existingRead fails) outcome
  | release {fails} : Continues world slot run (.copyRelease slot fails) (run.stepRelease fails world.db)
  | abandon : Continues world slot run (.abandonCopy slot) (world.db, { run with running := false })

/-- A step commits a transaction, ends a task, starts a copy or takes one on. -/
inductive Moved (world next : World) (action : DriveAction) : Prop
  | commits {Value : Type} {program : Tx Value} (issued : world.Issues action program)
      (moved : world.commit program = some next)
  | settles {uploadId program} (settled : world.Settles action uploadId program)
      (moved : world.commitSettling uploadId program = some next)
  | starts {targetRead planRead fileReads hashOrder request reads}
      (same : action = .startCopy targetRead planRead fileReads hashOrder request)
      (read : world.readCopy targetRead planRead fileReads = some reads)
      (moved : world.startCopy reads hashOrder request = some next)
  | copies {slot run outcome} (found : world.copies[slot]? = some run)
      (continued : world.Continues slot run action outcome) (same : next = world.setCopy slot outcome)

theorem readyCopy_some {slot : Nat} {run : CopyRun} (ready : world.readyCopy slot = some run) :
    world.copies[slot]? = some run ∧ run.owed = 0 := by
  obtain ⟨found, idle⟩ := Option.filter_eq_some_iff.mp ready
  simp only [Bool.and_eq_true, beq_iff_eq] at idle
  exact ⟨found, idle.2⟩

theorem moved_of_step {action : DriveAction} (moved : world.step action = some next) : Moved world next action := by
  cases action with
  | registerUser => exact .commits .registerUser moved
  | createFolder userId parentId name =>
      obtain ⟨named, moved⟩ := Option.ite_none_left_eq_some.mp moved
      exact .commits (.createFolder named) moved
  | instantUpload command contentRead =>
      obtain ⟨seen, read, moved⟩ := Option.bind_eq_some_iff.mp moved
      obtain ⟨content, found, moved⟩ := Option.bind_eq_some_iff.mp moved
      obtain ⟨valid, moved⟩ := Option.ite_none_right_eq_some.mp moved
      exact .commits (.instantUpload read found valid) moved
  | createUploadTask command session =>
      obtain ⟨valid, moved⟩ := Option.ite_none_right_eq_some.mp moved
      exact .commits (.createUploadTask valid) moved
  | recordChunk => exact .commits .recordChunk moved
  | taskStatement => exact .commits .taskStatement moved
  | completeUpload request taskRead =>
      obtain ⟨seen, read, moved⟩ := Option.bind_eq_some_iff.mp moved
      obtain ⟨task, found, moved⟩ := Option.bind_eq_some_iff.mp moved
      exact .settles (.completeUpload read found) moved
  | cancelUpload => exact .settles .cancelUpload moved
  | expireUpload => exact .settles .expireUpload moved
  | moveToTrash => exact .commits .moveToTrash moved
  | restoreFile => exact .commits .restoreFile moved
  | restoreFolder => exact .commits .restoreFolder moved
  | permanentDelete itemRead trashIds requireValid =>
      obtain ⟨seen, read, moved⟩ := Option.bind_eq_some_iff.mp moved
      exact .commits (.permanentDelete read) moved
  | saveToDrive request =>
      obtain ⟨location, -, moved⟩ := Option.bind_eq_some_iff.mp moved
      obtain ⟨selection, read, moved⟩ := Option.bind_eq_some_iff.mp moved
      exact .commits (.saveToDrive read) moved
  | startCopy targetRead planRead fileReads hashOrder request =>
      obtain ⟨reads, read, moved⟩ := Option.bind_eq_some_iff.mp moved
      exact .starts rfl read moved
  | copyBatch slot namesRead existingRead fails =>
      obtain ⟨run, ready, moved⟩ := Option.bind_eq_some_iff.mp moved
      obtain ⟨names, -, moved⟩ := Option.bind_eq_some_iff.mp moved
      obtain ⟨existing, -, moved⟩ := Option.bind_eq_some_iff.mp moved
      obtain ⟨found, idle⟩ := readyCopy_some ready
      split at moved
      · cases moved
      · rename_i chunk rest chunks
        exact .copies found (.batch idle chunks) (Option.some.inj moved).symm
  | copyRootNames slot namesRead =>
      obtain ⟨run, ready, moved⟩ := Option.bind_eq_some_iff.mp moved
      obtain ⟨names, -, moved⟩ := Option.bind_eq_some_iff.mp moved
      obtain ⟨-, same⟩ := Option.ite_none_right_eq_some.mp moved
      exact .copies (readyCopy_some ready).1 .rootNames (Option.some.inj same).symm
  | copyFolder slot existingRead fails =>
      obtain ⟨run, ready, moved⟩ := Option.bind_eq_some_iff.mp moved
      obtain ⟨existing, -, moved⟩ := Option.bind_eq_some_iff.mp moved
      obtain ⟨outcome, stepped, same⟩ := Option.bind_eq_some_iff.mp moved
      obtain ⟨found, idle⟩ := readyCopy_some ready
      exact .copies found (.folder idle stepped) (Option.some.inj same).symm
  | copyRelease slot fails =>
      obtain ⟨run, running, same⟩ := Option.bind_eq_some_iff.mp moved
      obtain ⟨found, -⟩ := Option.filter_eq_some_iff.mp running
      exact .copies found .release (Option.some.inj same).symm
  | abandonCopy slot =>
      obtain ⟨run, found, same⟩ := Option.bind_eq_some_iff.mp moved
      exact .copies found .abandon (Option.some.inj same).symm
  | jobStatement => exact .commits .jobStatement moved
  | executeBlobGc => exact .commits .executeBlobGc moved
  | tick => exact .commits .tick moved

end DiskServer.Drive.World
