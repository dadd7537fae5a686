import DiskServer.Construction.Drive.ContentService
import DiskServer.Construction.Drive.QuotaService

/-
This file gives the transactions of the trash service and the snapshots that they store.
-/

namespace DiskServer.Drive

open Library

def folderValue (folder : Folder) : Json :=
  .object [("id", .number folder.id), ("parent_id", .number folder.parentId),
    ("name", .string folder.name), ("path", .string folder.path), ("depth", .number folder.depth),
    ("item_count", .number folder.itemCount)]

def fileValue (file : File) : Json :=
  .object [("id", .number file.id), ("folder_id", .number file.folderId),
    ("content_id", .number file.contentId), ("name", .string file.name),
    ("extension", .string file.extension), ("size", .number file.size),
    ("mime_type", .string file.mimeType), ("path", .string file.path),
    ("is_favorite", .number file.isFavorite), ("download_count", .number file.downloadCount)]

def buildFolderSnapshot (plan : FolderDeletePlan) : Json :=
  .object [("type", .string "folder_tree"), ("version", .number 1), ("root", folderValue plan.root),
    ("folders", .array
      ((plan.folders.filter fun folder => folder.id ≠ plan.root.id).map folderValue)),
    ("files", .array (plan.files.map fileValue))]

structure SnapshotFolder where
  id : Nat
  parentId : Nat
  name : String
  itemCount : Nat
  depth : Nat
  deriving Repr, DecidableEq

structure SnapshotFile where
  id : Nat
  folderId : Nat
  contentId : Nat
  name : String
  extension : String
  size : Nat
  mimeType : String
  isFavorite : Bool
  downloadCount : Nat
  deriving Repr, DecidableEq

structure FolderTreeSnapshot where
  root : SnapshotFolder
  folders : List SnapshotFolder
  files : List SnapshotFile
  deriving Repr, DecidableEq

abbrev Decoded (Value : Type) := Except Json.ConversionError Value

def readSnapshotFolder (value : Json) : Decoded SnapshotFolder := do
  let id ← (value.get "id" (.number 0)).asUInt64
  let parentId ← (value.get "parent_id" (.number 0)).asUInt64
  let name ← (value.get "name" (.string "")).asString
  let itemCount ← (value.get "item_count" (.number 0)).asUInt64
  let depth ← (value.get "depth" (.number 0)).asUInt64
  pure ⟨id, parentId, name, itemCount, depth⟩

def readSnapshotFile (value : Json) : Decoded SnapshotFile := do
  let id ← (value.get "id" (.number 0)).asUInt64
  let folderId ← (value.get "folder_id" (.number 0)).asUInt64
  let contentId ← (value.field "content_id").asUInt64
  let name ← (value.get "name" (.string "")).asString
  let extension ← (value.get "extension" (.string "")).asString
  let size ← (value.get "size" (.number 0)).asUInt64
  let mimeType ← (value.get "mime_type" (.string "application/octet-stream")).asString
  let isFavorite ← (value.get "is_favorite" (.number 0)).asBool
  let downloadCount ← (value.get "download_count" (.number 0)).asUInt64
  pure ⟨id, folderId, contentId, name, extension, size, mimeType, isFavorite, downloadCount⟩

/-- The parser drops a folder entry without an id or a name. -/
def SnapshotFolder.kept (folder : SnapshotFolder) : Bool := 0 < folder.id && folder.name != ""

def SnapshotFile.kept (file : SnapshotFile) : Bool :=
  0 < file.id && 0 < file.folderId && 0 < file.contentId && file.name != ""

def parseFolderTreeSnapshot (itemData : Json) : Decoded (Option FolderTreeSnapshot) := do
  let type ← (itemData.get "type" (.string "")).asString
  let root := itemData.field "root"
  if type ≠ "folder_tree" ∨ ¬ root.isObject ∨ ¬ root.isMember "id" then
    pure none
  else
    let rootFolder ← readSnapshotFolder root
    let folders ← (itemData.field "folders").elements.mapM readSnapshotFolder
    let files ← ((itemData.field "files").elements.filter (Json.isMember "content_id")).mapM
      readSnapshotFile
    if rootFolder.id = 0 ∨ rootFolder.name = "" then
      pure none
    else
      pure (some
        { root := rootFolder
          folders := (folders.filter SnapshotFolder.kept).insertionSort
            fun first second => first.id ≤ second.id
          files := files.filter SnapshotFile.kept })

def extractSnapshotContentIds (itemData : Json) : Decoded (List Nat) := do
  match ← parseFolderTreeSnapshot itemData with
  | none => pure []
  | some snapshot => pure (snapshot.files.map SnapshotFile.contentId)

inductive ContentIdSource where
  | column
  | itemData
  deriving Repr, DecidableEq

def missingContentId : ErrorInfo := ⟨.validationFailed, "Trash item is missing valid content_id"⟩

def resolveRequiredContentId (columnContentId : Option Nat) (itemData : Json) :
    Except ErrorInfo (Nat × ContentIdSource) :=
  match columnContentId with
  | some (contentId + 1) => .ok (contentId + 1, .column)
  | _ =>
      let legacy := itemData.field "content_id"
      if itemData.isObject ∧ legacy.isUInt64 then
        match legacy.asUInt64 with
        | .ok (contentId + 1) => .ok (contentId + 1, .itemData)
        | _ => .error missingContentId
      else
        .error missingContentId

structure TrashInsertItem where
  itemType : TrashItemType
  itemId : Nat
  itemName : String
  itemSize : Nat
  originalFolderId : Nat
  originalPath : String
  contentId : Option Nat
  itemData : Json

def TrashInsertItem.row (item : TrashInsertItem) (userId id : Nat) : Trash :=
  ⟨id, userId, item.itemType, item.itemId, item.itemName, item.itemSize, item.contentId,
    item.originalFolderId, item.originalPath, item.itemData⟩

def deleteFailed : ErrorInfo := ⟨.internalError, "Failed to delete items"⟩

def insertTrashRecord (userId : Nat) (item : TrashInsertItem) : Tx Unit := do
  let db ← get
  if (db.users.find? userId).isNone then
    throw deleteFailed
  else if item.contentId.any fun contentId => (db.contents.find? contentId).isNone then
    throw deleteFailed
  else
    set { db with trash := db.trash.insert (item.row userId) fun _ => rfl }

def fileTrashItem (file : File) : TrashInsertItem where
  itemType := .file
  itemId := file.id
  itemName := file.name
  itemSize := file.size
  originalFolderId := file.folderId
  originalPath := file.path
  contentId := some file.contentId
  itemData := .object [("content_id", .number file.contentId), ("mime_type", .string file.mimeType)]

def folderTrashItem (plan : FolderDeletePlan) : TrashInsertItem where
  itemType := .folder
  itemId := plan.root.id
  itemName := plan.root.name
  itemSize := plan.itemSize
  originalFolderId := plan.root.parentId
  originalPath := plan.root.path
  contentId := none
  itemData := buildFolderSnapshot plan

def relockPlan (lockedFiles : List File) (plan : FolderDeletePlan) : FolderDeletePlan :=
  let files := lockedFiles.filter fun file => plan.folders.any fun folder => folder.id = file.folderId
  { plan with files := files, itemSize := (files.map File.size).sum }

structure TrashSelection where
  explicitFiles : List File
  plans : List FolderDeletePlan
  deriving Repr, DecidableEq

/-- The locked files contain every requested file and every file that a plan was matched with. -/
def selectForTrash (db : Db) (userId : Nat) (requestedFileIds requestedFolderIds : List Nat)
    (plans : List (Nat × FolderDeletePlan)) : TrashSelection :=
  let topLevelFolderIds := filterCoveredFolderIds requestedFolderIds plans
  let lockedFiles := fetchOwnedFilesByIds db
    (requestedFileIds ++ collectCoveredFileIds topLevelFolderIds plans) userId
  let relocked := topLevelFolderIds.filterMap fun folderId =>
    (findPlan plans folderId).map (relockPlan lockedFiles)
  let covered := relocked.flatMap fun plan => plan.files.map File.id
  { explicitFiles := (requestedFileIds.filter fun fileId => !covered.contains fileId).filterMap
      fun fileId => lockedFiles.find? fun file => file.id = fileId
    plans := relocked }

def TrashSelection.items (selection : TrashSelection) : List TrashInsertItem :=
  selection.explicitFiles.map fileTrashItem ++ selection.plans.map folderTrashItem

def TrashSelection.fileIds (selection : TrashSelection) : List Nat :=
  normalizeIds (selection.explicitFiles.map File.id ++
    selection.plans.flatMap fun plan => plan.files.map File.id)

def TrashSelection.folderIds (selection : TrashSelection) : List Nat :=
  normalizeIds (selection.plans.flatMap fun plan => plan.folders.map Folder.id)

def TrashSelection.parentIds (selection : TrashSelection) : List Nat :=
  (selection.explicitFiles.map File.folderId ++
    selection.plans.map fun plan => plan.root.parentId).filter (0 < ·)

structure MoveToTrashResult where
  deletedFileCount : Nat
  deletedFolderCount : Nat
  removedFileIds : List Nat
  removedFolderIds : List Nat
  deriving Repr, DecidableEq

/-- The transaction of `MoveToTrash`. The loop that locks the subtrees reads them once here, since
a second read in one atomic transaction finds no new folder. -/
def moveToTrash (hashOrder fileIds folderIds : List Nat) (userId : Nat) : Tx MoveToTrashResult := do
  let requestedFileIds := normalizeIds fileIds
  let requestedFolderIds := normalizeIds folderIds
  let plans ← fetchBatchFolderDeletePlans hashOrder requestedFolderIds userId
  let db ← get
  let selection := selectForTrash db userId requestedFileIds requestedFolderIds plans
  if selection.items.isEmpty then
    failWith .fileNotFound "No deletable files or folders found for the given IDs"
  else
    selection.items.forM (insertTrashRecord userId)
    (normalizeIds selection.parentIds).forM fun parentId => do
      let updated ← applyItemCountDelta parentId userId (-(selection.parentIds.count parentId : Int))
      if updated then pure () else throw deleteFailed
    let deletedFileRows ← deleteFilesByIds selection.fileIds
    if deletedFileRows ≠ selection.fileIds.length then
      throw deleteFailed
    else
      let deletedFolderRows ← deleteFoldersByIds selection.folderIds
      if deletedFolderRows ≠ selection.folderIds.length then
        throw deleteFailed
      else
        pure ⟨selection.explicitFiles.length, selection.plans.length, selection.fileIds,
          selection.folderIds⟩

/-- A dot before the last opening parenthesis does not start an extension here. -/
def dotBeforeParenthesis (filename : String) (position : Nat) : Bool :=
  (rfind " (" filename).any fun parenthesis => parenthesis < position

def extractExtension (filename : String) : String :=
  match rfind "." filename with
  | none => ""
  | some position =>
      if position = 0 ∨ position = filename.length - 1 ∨ dotBeforeParenthesis filename position then ""
      else substrFrom filename (position + 1)

def extractBaseName (filename : String) : String :=
  match rfind "." filename with
  | none => filename
  | some position =>
      if position = 0 ∨ dotBeforeParenthesis filename position then filename
      else String.ofList (filename.toList.take position)

def restoredFileName (itemName : String) (candidateIndex : Nat) : String :=
  if candidateIndex = 0 then
    itemName
  else
    let numbered := extractBaseName itemName ++ " (" ++ toString candidateIndex ++ ")"
    let extension := extractExtension itemName
    if extension = "" then numbered else numbered ++ "." ++ extension

def restoredFolderName (itemName : String) (candidateIndex : Nat) : String :=
  if candidateIndex = 0 then itemName else itemName ++ " (" ++ toString candidateIndex ++ ")"

def fetchLifecycleRow (trashId userId : Nat) (itemType : TrashItemType) : Tx Trash := do
  let db ← get
  match (db.trash.find? trashId).filter fun row => row.userId = userId with
  | none => failWith .resourceNotFound "Trash item not found"
  | some row =>
      if row.itemType = itemType then pure row
      else failWith .resourceNotFound "Trash item not found"

/-- An item returns to the root when its old folder is gone. -/
def restoreTarget (originalFolderId userId : Nat) : Tx (Nat × FolderLocation) := do
  if originalFolderId = 0 then
    pure (0, {})
  else
    match ← findOwnedFolder originalFolderId userId with
    | none => pure (0, {})
    | some folder => pure (folder.id, ⟨folder.path, folder.depth⟩)

def liftDecoded {Value : Type} (failure : ErrorInfo) : Decoded Value → Tx Value
  | .ok value => pure value
  | .error _ => throw failure

def restoreFileFailed : ErrorInfo := ⟨.internalError, "Failed to restore file"⟩

def restoreFolderFailed : ErrorInfo := ⟨.internalError, "Failed to restore folder"⟩

def deleteTrashRow (trashId userId : Nat) (itemType : TrashItemType) (failure : ErrorInfo) :
    Tx Unit := do
  let db ← get
  let select := fun row : Trash => row.id = trashId && row.userId = userId && row.itemType = itemType
  if (db.trash.rows.filter select).length ≠ 1 then
    throw failure
  else
    set { db with trash := db.trash.remove select }

def countRestoredItem (targetId userId : Nat) (failure : ErrorInfo) : Tx Unit :=
  if 0 < targetId then do
    let updated ← applyItemCountDelta targetId userId 1
    if updated then pure () else throw failure
  else
    pure ()

def restoreFile (trashId userId candidateIndex : Nat) : Tx Nat := do
  let item ← fetchLifecycleRow trashId userId .file
  match resolveRequiredContentId item.contentId item.itemData with
  | .error error => throw error
  | .ok (contentId, _) =>
      let restoredName := restoredFileName item.itemName candidateIndex
      let (targetFolderId, location) ← restoreTarget item.originalFolderId userId
      let db ← get
      if fileNameExists db userId targetFolderId restoredName then
        failWith .resourceConflict "Restore filename occupied"
      else
        let mimeType ← liftDecoded restoreFileFailed
          (item.itemData.get "mime_type" (.string "application/octet-stream")).asString
        let fileId ← insertFile (NewFile.row
          { userId := userId
            contentId := contentId
            folderId := targetFolderId
            name := restoredName
            extension := extractExtension restoredName
            size := item.itemSize
            mimeType := mimeType
            path := location.path ++ restoredName
            isFavorite := 0
            downloadCount := 0 }) fun _ => rfl
        countRestoredItem targetFolderId userId restoreFileFailed
        deleteTrashRow item.id userId .file restoreFileFailed
        pure fileId

abbrev FolderMap := List (Nat × Nat × String)

def FolderMap.lookup (folders : FolderMap) (oldId : Nat) : Option (Nat × String) :=
  (folders.find? fun entry => entry.1 = oldId).map Prod.snd

def rebasedDepth (rootDepth oldRootDepth oldDepth : Nat) : Nat :=
  rootDepth + (if oldRootDepth < oldDepth then oldDepth - oldRootDepth else 1)

def restorePass (userId rootDepth oldRootDepth : Nat) :
    List SnapshotFolder → FolderMap → Tx (List SnapshotFolder × FolderMap)
  | [], folders => pure ([], folders)
  | folder :: rest, folders => do
      match folders.lookup folder.parentId with
      | none =>
          let (left, restored) ← restorePass userId rootDepth oldRootDepth rest folders
          pure (folder :: left, restored)
      | some (parentId, parentPath) =>
          let childPath := parentPath ++ folder.name ++ "/"
          let folderId ← insertNewFolder
            { userId := userId
              parentId := parentId
              name := folder.name
              path := childPath
              depth := rebasedDepth rootDepth oldRootDepth folder.depth
              itemCount := folder.itemCount }
          restorePass userId rootDepth oldRootDepth rest ((folder.id, folderId, childPath) :: folders)

def restoreFolders (userId rootDepth oldRootDepth : Nat) :
    Nat → List SnapshotFolder → FolderMap → Tx FolderMap
  | _, [], folders => pure folders
  | 0, _ :: _, _ => throw restoreFolderFailed
  | fuel + 1, folder :: rest, folders => do
      let (left, restored) ← restorePass userId rootDepth oldRootDepth (folder :: rest) folders
      if left.length = (folder :: rest).length then
        throw restoreFolderFailed
      else
        restoreFolders userId rootDepth oldRootDepth fuel left restored

def restoreSnapshotFile (userId : Nat) (folders : FolderMap) (file : SnapshotFile) : Tx Unit := do
  match folders.lookup file.folderId with
  | none => throw restoreFolderFailed
  | some (folderId, folderPath) =>
      let _ ← insertFile (NewFile.row
        { userId := userId
          contentId := file.contentId
          folderId := folderId
          name := file.name
          extension := file.extension
          size := file.size
          mimeType := file.mimeType
          path := folderPath ++ file.name
          isFavorite := file.isFavorite.toNat
          downloadCount := file.downloadCount }) fun _ => rfl
      pure ()

def restoreTree (userId rootDepth rootId : Nat) (rootPath : String) :
    Option FolderTreeSnapshot → Tx Unit
  | none => pure ()
  | some snapshot => do
      let folders ← restoreFolders userId rootDepth snapshot.root.depth snapshot.folders.length
        snapshot.folders [(snapshot.root.id, rootId, rootPath)]
      snapshot.files.forM (restoreSnapshotFile userId folders)

def restoreFolder (trashId userId candidateIndex : Nat) : Tx Nat := do
  let item ← fetchLifecycleRow trashId userId .folder
  let snapshot ← liftDecoded restoreFolderFailed (parseFolderTreeSnapshot item.itemData)
  let restoredName := restoredFolderName item.itemName candidateIndex
  let (targetParentId, location) ← restoreTarget item.originalFolderId userId
  let db ← get
  if folderNameExists db userId targetParentId restoredName then
    failWith .resourceConflict "Restore folder name occupied"
  else
    let restoredPath := location.path ++ restoredName ++ "/"
    let folderDepth := location.depth + 1
    let rootId ← insertNewFolder
      { userId := userId
        parentId := targetParentId
        name := restoredName
        path := restoredPath
        depth := folderDepth
        itemCount := (snapshot.map fun tree => tree.root.itemCount).getD 0 }
    restoreTree userId folderDepth rootId restoredPath snapshot
    countRestoredItem targetParentId userId restoreFolderFailed
    deleteTrashRow item.id userId .folder restoreFolderFailed
    pure rootId

def trashContentIds (item : Trash) : Except ErrorInfo (List Nat) :=
  match item.itemType with
  | .file =>
      match resolveRequiredContentId item.contentId item.itemData with
      | .ok (contentId, _) => .ok [contentId]
      | .error error => .error error
  | .folder =>
      match extractSnapshotContentIds item.itemData with
      | .ok contentIds => .ok contentIds
      | .error _ => .error databaseError

/-- A file row without a content is skipped unless the caller requires one. -/
def collectDeletions (requireValidFileContent : Bool) : List Trash → Except ErrorInfo (List (Trash × List Nat))
  | [] => .ok []
  | item :: rest =>
      match trashContentIds item with
      | .error error =>
          if item.itemType = .file ∧ requireValidFileContent = false then
            collectDeletions requireValidFileContent rest
          else
            .error error
      | .ok contentIds =>
          match collectDeletions requireValidFileContent rest with
          | .error error => .error error
          | .ok others => .ok ((item, contentIds) :: others)

structure PermanentDeleteResult where
  deletedCount : Nat
  freedSpace : Nat
  deriving Repr, DecidableEq

def deleteTrashByIds (trashIds : List Nat) : Tx Nat := do
  let db ← get
  set { db with trash := db.trash.remove fun row => trashIds.contains row.id }
  pure (db.trash.rows.filter fun row => trashIds.contains row.id).length

def releaseContents (contentIds : List Nat) : Tx Unit :=
  if contentIds = [] then pure () else decrementRefCountsAndEnqueueGc (countOccurrences contentIds)

def freedBytes (deletions : List (Trash × List Nat)) (userId : Nat) : Nat :=
  ((deletions.filter fun deletion => deletion.1.userId = userId).map fun deletion =>
    deletion.1.itemSize).sum

/-- The items come from an earlier read, so the row count decides whether they are still there. -/
def permanentlyDeleteTrashItems (items : List Trash) (requireValidFileContent : Bool) :
    Tx PermanentDeleteResult :=
  match collectDeletions requireValidFileContent items with
  | .error error => throw error
  | .ok deletions =>
      if deletions.isEmpty then
        pure ⟨0, 0⟩
      else do
        releaseContents (deletions.flatMap Prod.snd)
        let trashIds := deletions.map fun deletion => deletion.1.id
        let deleted ← deleteTrashByIds trashIds
        if deleted ≠ trashIds.length then
          throw databaseError
        else
          (deletions.map fun deletion => deletion.1.userId).dedup.forM fun userId =>
            adjustUsedStorageChecked userId (-(freedBytes deletions userId : Int))
          pure ⟨trashIds.length, (deletions.map fun deletion => deletion.1.itemSize).sum⟩

end DiskServer.Drive
