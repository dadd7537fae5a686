import DiskServer.Construction.Drive.TrashService

/-
This file gives the copy operation, which runs as a sequence of separate transactions.
-/

namespace DiskServer.Drive

open Library

def defaultBatchChunkSize : Nat := 500

def chunkItems {Item : Type} (size : Nat) (items : List Item) : List (List Item) :=
  (List.range ((items.length + size - 1) / size)).map fun index =>
    (items.drop (index * size)).take size

/-- The names of the folders in the target, which the copy reads after its file batches. -/
inductive RootNames where
  | unread
  | failed
  | read (names : List String)
  deriving Repr, DecidableEq

/-- What is left of a running copy. `owed` is the release that the copy runs next. -/
structure CopyRun where
  userId : Nat
  targetFolderId : Nat
  targetLocation : FolderLocation
  chunks : List (List File)
  plans : List FolderDeletePlan
  occupiedRootNames : RootNames
  totalCopySize : Nat
  actualCopySize : Nat
  releasedCopySize : Nat
  owed : Nat
  running : Bool
  deriving Repr, DecidableEq

def CopyRun.outstanding (run : CopyRun) : Int :=
  (run.totalCopySize : Int) - run.actualCopySize - run.releasedCopySize

def sizeOf (files : List File) : Nat := (files.map File.size).sum

structure CopyRequest where
  userId : Nat
  fileIds : List Nat
  folderIds : List Nat
  targetFolderId : Nat
  deriving Repr, DecidableEq

/-- The unlocked reads of a copy each see a committed state of their own.
A missing file read is a query that failed, and its chunk is skipped. -/
structure CopyReads where
  target : Db
  plans : Db
  files : List (Option Db)

def readCopyChunk (read : Option Db) (userId : Nat) (fileIds : List Nat) : List File :=
  match read with
  | none => []
  | some db => fileIds.filterMap fun fileId =>
      (db.files.find? fileId).filter fun file => file.userId = userId

def planCopy (reads : CopyReads) (hashOrder : List Nat) (request : CopyRequest) :
    Except ErrorInfo CopyRun := do
  let requestedFileIds := normalizeIds request.fileIds
  let requestedFolderIds := normalizeIds request.folderIds
  let (location, _) ← (resolveOwnedFolderLocation request.targetFolderId request.userId).run reads.target
  let (plans, _) ← (fetchBatchFolderDeletePlans hashOrder requestedFolderIds request.userId).run reads.plans
  let topLevelFolderIds := filterCoveredFolderIds requestedFolderIds plans
  let covered := collectCoveredFileIds topLevelFolderIds plans
  let explicitFileIds := requestedFileIds.filter fun fileId => !covered.contains fileId
  let idChunks := chunkItems defaultBatchChunkSize explicitFileIds
  let filesToCopy := (idChunks.zip reads.files).flatMap fun (chunk, read) =>
    readCopyChunk read request.userId chunk
  let topLevel := topLevelFolderIds.filterMap (findPlan plans)
  pure
    { userId := request.userId
      targetFolderId := request.targetFolderId
      targetLocation := location
      chunks := chunkItems defaultBatchChunkSize filesToCopy
      plans := topLevel
      occupiedRootNames := .unread
      totalCopySize := sizeOf filesToCopy + (topLevel.map FolderDeletePlan.itemSize).sum
      actualCopySize := 0
      releasedCopySize := 0
      owed := 0
      running := true }

def queryOccupiedNames (db : Db) (folderId userId : Nat) (names : List String) : List String :=
  names.filter (fileNameExists db userId folderId)

def queryOccupiedFolderNames (db : Db) (parentId userId : Nat) (names : List String) : List String :=
  names.filter (folderNameExists db userId parentId)

def splitByName (occupied : List String) : List File → List File × List File
  | [] => ([], [])
  | file :: rest =>
      if occupied.contains file.name then
        let (accepted, skipped) := splitByName occupied rest
        (accepted, file :: skipped)
      else
        let (accepted, skipped) := splitByName (file.name :: occupied) rest
        (file :: accepted, skipped)

def requireTarget (targetFolderId userId : Nat) : Tx (Option Folder) :=
  if 0 < targetFolderId then do
    match ← findOwnedFolder targetFolderId userId with
    | none => failCode .folderNotFound
    | some folder => pure (some folder)
  else
    pure none

def incrementsFailed : ErrorInfo :=
  ⟨.internalError, "Failed to update file content reference counts"⟩

def countCopiedContents (files : List File) (existingContentIds : List Nat) : Tx Unit := do
  let incremented ← incrementRefCountsChecked (countOccurrences (files.map File.contentId))
    existingContentIds
  if files.all fun file => incremented.contains file.contentId then pure () else throw incrementsFailed

def copiedFile (userId folderId : Nat) (folderPath : String) (file : File) : NewFile where
  userId := userId
  contentId := file.contentId
  folderId := folderId
  name := file.name
  extension := file.extension
  size := file.size
  mimeType := file.mimeType
  path := buildFilePath folderPath file.name
  isFavorite := 0
  downloadCount := 0

def insertCopiedFiles (userId targetFolderId : Nat) (files : List File) : Tx Unit :=
  if files = [] then
    pure ()
  else do
    let location ← resolveOwnedFolderLocation targetFolderId userId
    files.forM fun file => do
      let _ ← insertFile (copiedFile userId targetFolderId location.path file).row fun _ => rfl
      pure ()

def countCopiedItems (targetFolderId userId count : Nat) : Tx Unit :=
  if 0 < targetFolderId ∧ 0 < count then do
    let updated ← applyItemCountDelta targetFolderId userId count
    if updated then pure ()
    else failWith .internalError "Failed to update target folder item count"
  else
    pure ()

def copyFileBatch (run : CopyRun) (validItems : List File) (existingContentIds : List Nat) :
    Tx (Nat × Nat) := do
  let _ ← requireTarget run.targetFolderId run.userId
  let db ← get
  let occupied := queryOccupiedNames db run.targetFolderId run.userId (validItems.map File.name)
  let (items, skipped) := splitByName occupied validItems
  countCopiedContents items existingContentIds
  insertCopiedFiles run.userId run.targetFolderId items
  countCopiedItems run.targetFolderId run.userId items.length
  commitReservedToUsed run.userId (sizeOf items)
  releaseReservedStorageChecked run.userId (sizeOf skipped)
  pure (sizeOf items, sizeOf skipped)

def copyFolderNode (userId rootDepth oldRootDepth : Nat) (folders : FolderMap) (folder : Folder) :
    Tx FolderMap := do
  match folders.lookup folder.parentId with
  | none => throw databaseError
  | some (parentId, parentPath) =>
      let folderPath := buildFolderPath parentPath folder.name
      let folderId ← insertNewFolder
        { userId := userId
          parentId := parentId
          name := folder.name
          path := folderPath
          depth := rebasedDepth rootDepth oldRootDepth folder.depth
          itemCount := folder.itemCount }
      pure ((folder.id, folderId, folderPath) :: folders)

def copyTreeFile (userId : Nat) (folders : FolderMap) (file : File) : Tx Unit := do
  match folders.lookup file.folderId with
  | none => throw databaseError
  | some (folderId, folderPath) =>
      let _ ← insertFile (copiedFile userId folderId folderPath file).row fun _ => rfl
      pure ()

def copyTree (run : CopyRun) (location : FolderLocation) (plan : FolderDeletePlan) : Tx Unit := do
  let rootPath := buildFolderPath location.path plan.root.name
  let rootDepth := location.depth + 1
  let rootId ← insertNewFolder
    { userId := run.userId
      parentId := run.targetFolderId
      name := plan.root.name
      path := rootPath
      depth := rootDepth
      itemCount := plan.root.itemCount }
  let folders ← (plan.folders.filter fun folder => folder.id ≠ plan.root.id).foldlM
    (copyFolderNode run.userId rootDepth plan.root.depth) [(plan.root.id, rootId, rootPath)]
  plan.files.forM (copyTreeFile run.userId folders)

def copyLocation (run : CopyRun) (target : Option Folder) : FolderLocation :=
  match target with
  | some folder => ⟨folder.path, folder.depth⟩
  | none => run.targetLocation

def copyFolder (run : CopyRun) (plan : FolderDeletePlan) (existingContentIds : List Nat) :
    Tx (Nat × Nat) := do
  let target ← requireTarget run.targetFolderId run.userId
  let db ← get
  if folderNameExists db run.userId run.targetFolderId plan.root.name then
    releaseReservedStorageChecked run.userId plan.itemSize
    pure (0, plan.itemSize)
  else
    countCopiedContents plan.files existingContentIds
    copyTree run (copyLocation run target) plan
    countCopiedItems run.targetFolderId run.userId 1
    commitReservedToUsed run.userId plan.itemSize
    pure (sizeOf plan.files, 0)

/-- A failed step of the copy owes the whole reservation of its unit. -/
def CopyRun.settle (run : CopyRun) (staged : Except ErrorInfo ((Nat × Nat) × Db)) (db : Db)
    (unit skippedBefore : Nat) : Db × CopyRun :=
  match staged with
  | .error _ => (db, { run with owed := unit })
  | .ok ((copied, released), after) =>
      (after, { run with
        actualCopySize := run.actualCopySize + copied
        releasedCopySize := run.releasedCopySize + released
        owed := skippedBefore })

/-- A failed content query finds nothing, so the whole unit is given up. -/
def existingContents (read : Option Db) (files : List File) : List Nat :=
  match read with
  | none => []
  | some seen => findExistingIds seen (files.map File.contentId).dedup

def CopyRun.stepBatch (run : CopyRun) (namesRead existingRead : Option Db) (fails : Bool) (db : Db)
    (chunk : List File) (rest : List (List File)) : Db × CopyRun :=
  let next := { run with chunks := rest }
  match namesRead with
  | none => (db, { next with owed := sizeOf chunk })
  | some seen =>
      let occupied := queryOccupiedNames seen run.targetFolderId run.userId (chunk.map File.name)
      let (pending, skipped) := splitByName occupied chunk
      let existing := existingContents existingRead pending
      let valid := pending.filter fun file => existing.contains file.contentId
      let missing := pending.filter fun file => !existing.contains file.contentId
      if valid = [] then
        (db, { next with owed := sizeOf chunk })
      else
        let staged := if fails then .error databaseError else (copyFileBatch run valid existing).run db
        next.settle staged db (sizeOf chunk) (sizeOf skipped + sizeOf missing)

def CopyRun.stepRootNames (run : CopyRun) (namesRead : Option Db) : CopyRun :=
  match namesRead with
  | none => { run with occupiedRootNames := .failed }
  | some seen =>
      let names := run.plans.map fun plan => plan.root.name
      { run with
        occupiedRootNames :=
          .read (queryOccupiedFolderNames seen run.targetFolderId run.userId names) }

/-- A folder is skipped when the target lies inside it, its name is taken or a content is gone. -/
def CopyRun.stepFolder (run : CopyRun) (existingRead : Option Db) (fails : Bool) (db : Db)
    (occupied : List String) (plan : FolderDeletePlan) (rest : List FolderDeletePlan) : Db × CopyRun :=
  let next := { run with plans := rest }
  if plan.folders.any fun folder => folder.id = run.targetFolderId then
    (db, { next with owed := plan.itemSize })
  else if occupied.contains plan.root.name then
    (db, { next with owed := plan.itemSize })
  else
    let taken := { next with occupiedRootNames := .read (plan.root.name :: occupied) }
    let existing := existingContents existingRead plan.files
    if plan.files.any fun file => !existing.contains file.contentId then
      (db, { taken with owed := plan.itemSize })
    else
      let staged := if fails then .error databaseError else (copyFolder run plan existing).run db
      taken.settle staged db plan.itemSize 0

/-- A release that fails ends the copy and leaves its reservation behind. -/
def CopyRun.stepRelease (run : CopyRun) (fails : Bool) (db : Db) : Db × CopyRun :=
  match if fails then .error databaseError
      else (releaseReservedStorageChecked run.userId run.owed).run db with
  | .error _ => (db, { run with running := false })
  | .ok (_, after) =>
      (after, { run with releasedCopySize := run.releasedCopySize + run.owed, owed := 0 })

end DiskServer.Drive
