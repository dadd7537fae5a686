import DiskServer.Construction.Drive.Callbacks

/-
This file gives the restores and the permanent delete of the trash statement by statement.
-/

namespace DiskServer.Drive.Callbacks

open Library Library.Callback Jobs

section Restore

def fetchLifecycleRow (trashId userId : Nat) (itemType : TrashItemType) : DriveCallback Trash := do
  match ← query fun db => (db.trash.find? trashId).filter fun row => row.userId = userId with
  | none => refuse ⟨.resourceNotFound, "Trash item not found"⟩
  | some row =>
      if row.itemType = itemType then pure row
      else refuse ⟨.resourceNotFound, "Trash item not found"⟩

def lockRestoreTarget (originalFolderId userId : Nat) : DriveCallback (Nat × FolderLocation) := do
  acquireNameLock
  match ← findOwnedFolder originalFolderId userId with
  | some parent => pure (originalFolderId, ⟨parent.path, parent.depth⟩)
  | none =>
      acquireNameLock
      pure (0, {})

def restoreTarget (originalFolderId userId : Nat) : DriveCallback (Nat × FolderLocation) :=
  if originalFolderId = 0 then do
    acquireNameLock
    pure (0, {})
  else do
    match ← findOwnedFolder originalFolderId userId with
    | some _ => lockRestoreTarget originalFolderId userId
    | none =>
        acquireNameLock
        pure (0, {})

def convert {Value : Type} : Decoded Value → DriveCallback Value
  | .ok value => pure value
  | .error _ => exception

def countRestoredItem (targetId userId : Nat) (failure : ErrorInfo) : DriveCallback Unit :=
  if 0 < targetId then do
    let updated ← statement (applyItemCountDelta targetId userId 1)
    if updated then pure () else refuse failure
  else
    pure ()

def selectsTrash (trashId userId : Nat) (itemType : TrashItemType) (row : Trash) : Bool :=
  row.id = trashId && row.userId = userId && row.itemType = itemType

def deleteTrash (select : Trash → Bool) : Tx Nat := do
  let db ← get
  set { db with trash := db.trash.remove select }
  pure (db.trash.rows.filter select).length

def deleteTrashRow (trashId userId : Nat) (itemType : TrashItemType) (failure : ErrorInfo) :
    DriveCallback Unit := do
  let affectedRows ← statement (deleteTrash (selectsTrash trashId userId itemType))
  if affectedRows ≠ 1 then refuse failure else pure ()

def restoreFilenameOccupied : ErrorInfo := ⟨.resourceConflict, "Restore filename occupied"⟩

def restoreFolderNameOccupied : ErrorInfo := ⟨.resourceConflict, "Restore folder name occupied"⟩

def restoreFile (trashId userId candidateIndex : Nat) : DriveCallback Nat := do
  let item ← fetchLifecycleRow trashId userId .file
  match resolveRequiredContentId item.contentId item.itemData with
  | .error error => refuse error
  | .ok (contentId, _) =>
      let restoredName := restoredFileName item.itemName candidateIndex
      let (targetFolderId, location) ← restoreTarget item.originalFolderId userId
      let taken ← query fun db => fileNameExistsExcluding db userId targetFolderId restoredName 0
      if taken then
        refuse restoreFilenameOccupied
      else
        let mimeType ← convert
          (item.itemData.get "mime_type" (.string "application/octet-stream")).asString
        let file : NewFile :=
          { userId := userId
            contentId := contentId
            folderId := targetFolderId
            name := restoredName
            extension := extractExtension restoredName
            size := item.itemSize
            mimeType := mimeType
            path := location.path ++ restoredName
            isFavorite := 0
            downloadCount := 0 }
        let fileId ← statement (insertFile file.row file.row_id)
        countRestoredItem targetFolderId userId restoreFileFailed
        deleteTrashRow item.id userId .file restoreFileFailed
        pure fileId

def restorePass (userId rootDepth oldRootDepth : Nat) :
    List SnapshotFolder → FolderMap → DriveCallback (List SnapshotFolder × FolderMap)
  | [], folders => pure ([], folders)
  | folder :: rest, folders => do
      match folders.lookup folder.parentId with
      | none =>
          let (left, restored) ← restorePass userId rootDepth oldRootDepth rest folders
          pure (folder :: left, restored)
      | some (parentId, parentPath) =>
          let childPath := parentPath ++ folder.name ++ "/"
          let folderId ← statement (insertNewFolder
            { userId := userId
              parentId := parentId
              name := folder.name
              path := childPath
              depth := rebasedDepth rootDepth oldRootDepth folder.depth
              itemCount := folder.itemCount })
          restorePass userId rootDepth oldRootDepth rest ((folder.id, folderId, childPath) :: folders)

def restoreFolders (userId rootDepth oldRootDepth : Nat) :
    Nat → List SnapshotFolder → FolderMap → DriveCallback FolderMap
  | _, [], folders => pure folders
  | 0, _ :: _, _ => refuse restoreFolderFailed
  | rounds + 1, folder :: rest, folders => do
      let (left, restored) ← restorePass userId rootDepth oldRootDepth (folder :: rest) folders
      if left.length = (folder :: rest).length then
        refuse restoreFolderFailed
      else
        restoreFolders userId rootDepth oldRootDepth rounds left restored

def restoreSnapshotFile (userId : Nat) (folders : FolderMap) (file : SnapshotFile) :
    DriveCallback Unit := do
  match folders.lookup file.folderId with
  | none => refuse restoreFolderFailed
  | some (folderId, folderPath) =>
      let restored : NewFile :=
        { userId := userId
          contentId := file.contentId
          folderId := folderId
          name := file.name
          extension := file.extension
          size := file.size
          mimeType := file.mimeType
          path := folderPath ++ file.name
          isFavorite := file.isFavorite.toNat
          downloadCount := file.downloadCount }
      let _ ← statement (insertFile restored.row restored.row_id)
      pure ()

def restoreTree (userId rootDepth rootId : Nat) (rootPath : String) :
    Option FolderTreeSnapshot → DriveCallback Unit
  | none => pure ()
  | some snapshot => do
      let folders ← restoreFolders userId rootDepth snapshot.root.depth snapshot.folders.length
        snapshot.folders [(snapshot.root.id, rootId, rootPath)]
      snapshot.files.forM (restoreSnapshotFile userId folders)

def restoreFolder (trashId userId candidateIndex : Nat) : DriveCallback Nat := do
  let item ← fetchLifecycleRow trashId userId .folder
  let snapshot ← convert (parseFolderTreeSnapshot item.itemData)
  let restoredName := restoredFolderName item.itemName candidateIndex
  let (targetParentId, location) ← restoreTarget item.originalFolderId userId
  let taken ← query fun db => folderNameExistsExcluding db userId targetParentId restoredName 0
  if taken then
    refuse restoreFolderNameOccupied
  else
    let restoredPath := location.path ++ restoredName ++ "/"
    let folderDepth := location.depth + 1
    let rootId ← statement (insertNewFolder
      { userId := userId
        parentId := targetParentId
        name := restoredName
        path := restoredPath
        depth := folderDepth
        itemCount := (snapshot.map fun tree => tree.root.itemCount).getD 0 })
    restoreTree userId folderDepth rootId restoredPath snapshot
    countRestoredItem targetParentId userId restoreFolderFailed
    deleteTrashRow item.id userId .folder restoreFolderFailed
    pure rootId

def restoreAttempts (occupied failed : ErrorInfo) (attempt : Nat → Db → Ended Db ErrorInfo Nat) :
    Nat → Nat → Db → Ended Db ErrorInfo Nat
  | 0, _, db => ⟨.error failed, db, false⟩
  | rounds + 1, candidateIndex, db =>
      let ended := attempt candidateIndex db
      match ended.result with
      | .ok _ => ended
      | .error error =>
          if error = occupied then
            restoreAttempts occupied failed attempt rounds (candidateIndex + 1) ended.state
          else ended

def maxCandidateIndex : Nat := 1000

end Restore

section PermanentDelete

theorem adjusted_id (delta : Int) (row : User) :
    { row with storageUsed := max (row.storageUsed + delta) 0 }.id = row.id := rfl

def adjustUsedStorage (userId : Nat) (delta : Int) : Tx Bool := do
  let db ← get
  match db.users.find? userId with
  | none => pure false
  | some user =>
      if bigintMax < user.storageUsed + delta then
        throw databaseError
      else
        set { db with
          users := db.users.update (fun row => row.id = userId)
            (fun row => { row with storageUsed := max (row.storageUsed + delta) 0 }) (adjusted_id delta) }
        pure true

def adjustFailed : ErrorInfo := ⟨.internalError, "Failed to update storage usage"⟩

/-- The batch gives bytes back, so the delta is negative or zero here. -/
def adjustUsedStorageChecked (userId freed : Nat) : DriveCallback Unit :=
  if freed = 0 then
    pure ()
  else
    converting adjustFailed do
      let updated ← statement (adjustUsedStorage userId (-(freed : Int)))
      if updated then pure () else refuse adjustFailed

theorem lowered_id (decrements : List (Nat × Nat)) (row : FileContent) :
    { row with refCount := max (row.refCount - amountOf decrements row.id) 0 }.id = row.id := rfl

def lowerRefCounts (decrements : List (Nat × Nat)) : Tx Unit :=
  modify fun db => { db with
    contents := db.contents.update
      (fun row => ((decrements.filter fun entry => entry.2 ≠ 0).map Prod.fst).contains row.id)
      (fun row => { row with refCount := max (row.refCount - amountOf decrements row.id) 0 })
      (lowered_id decrements) }

/-- An exception inside the helper becomes its error, which the batch throws again. -/
def decrementRefCountsAndEnqueueGc (decrements : List (Nat × Nat)) : DriveCallback Unit :=
  converting ⟨.internalError, "Failed to update file content references"⟩ do
    let contentIds := (decrements.filter fun entry => entry.2 ≠ 0).map Prod.fst
    statement (lowerRefCounts decrements)
    let zero ← query fun db =>
      db.contents.rows.filter fun row => row.refCount = 0 && contentIds.contains row.id
    zero.forM fun row => do
      let _ ← statement (enqueueOrRearmSucceeded (blobGcJob row.id row.storagePath)
        ⟨.internalError, "Failed to enqueue Blob garbage collection"⟩)
      pure ()

def releaseContents (contentIds : List Nat) : DriveCallback Unit :=
  if contentIds = [] then pure () else decrementRefCountsAndEnqueueGc (countOccurrences contentIds)

def deleteBatch (deletions : List (Trash × List Nat)) : DriveCallback PermanentDeleteResult := do
  releaseContents (deletions.flatMap Prod.snd)
  let trashIds := deletions.map fun deletion => deletion.1.id
  let affectedRows ← statement (deleteTrashByIds trashIds)
  if affectedRows ≠ trashIds.length then
    exception
  else
    (deletions.map fun deletion => deletion.1.userId).dedup.forM fun userId =>
      adjustUsedStorageChecked userId (freedBytes deletions userId)
    pure ⟨trashIds.length, (deletions.map fun deletion => deletion.1.itemSize).sum⟩

/-- The batch opens its own transaction, and it rolls back when every item is skipped. -/
def permanentlyDeleteTrashItems (weather : Weather) (items : List Trash)
    (requireValidFileContent : Bool) (before : Db) : Ended Db ErrorInfo PermanentDeleteResult :=
  if items = [] then
    ⟨.ok ⟨0, 0⟩, before, false⟩
  else
    match collectDeletions requireValidFileContent items with
    | .error _ => run weather databaseError exception before
    | .ok [] => ⟨if weather.begins then .ok ⟨0, 0⟩ else .error databaseError, before, false⟩
    | .ok deletions => run weather databaseError (deleteBatch deletions) before

end PermanentDelete

end DiskServer.Drive.Callbacks
