import DiskServer.Construction.Drive.MoveService
import DiskServer.Library.Session

/-
This file gives the transactions of the namespace statement by statement, as their runner sees them.
-/

namespace DiskServer.Drive

open Library Library.Callback

abbrev DriveCallback (Value : Type) := Callback Db ErrorInfo Value

namespace Callbacks

def refuseCode {Value : Type} (code : ErrorCode) : DriveCallback Value := refuse (ErrorInfo.ofCode code)

/-- The advisory lock of a name changes no row. -/
def acquireNameLock : DriveCallback Unit := query fun _ => ()

def findOwnedFolder (folderId userId : Nat) : DriveCallback (Option Folder) :=
  query fun db => db.folders.rows.find? fun folder => folder.owned folderId userId

/-- A failed lookup looks like a folder that is not there. -/
def resolveOwnedFolderLocation (folderId userId : Nat) : DriveCallback FolderLocation :=
  if folderId = 0 then
    pure {}
  else
    converting (ErrorInfo.ofCode .folderNotFound) do
      match ← findOwnedFolder folderId userId with
      | none => refuseCode .folderNotFound
      | some folder => pure ⟨folder.path, folder.depth⟩

def requireUpdated (failure : ErrorInfo) (update : Tx Bool) : DriveCallback Unit := do
  let updated ← statement update
  if updated then pure () else refuse failure

def nameTaken (differs : Prop) [Decidable differs] (read : Db → Bool) : DriveCallback Bool :=
  if differs then query read else pure false

def renameFile (fileId userId : Nat) (newName : String) : DriveCallback Nat := do
  match ← query fun db => (db.files.find? fileId).filter fun file => file.userId = userId with
  | none => refuseCode .fileNotFound
  | some file =>
      acquireNameLock
      let taken ← nameTaken (file.name ≠ newName) fun db =>
        fileNameExistsExcluding db userId file.folderId newName fileId
      if taken then
        refuseCode .fileAlreadyExists
      else
        let location ← resolveOwnedFolderLocation file.folderId userId
        let updated ← statement (renameOwnedFile fileId userId newName (extractFileExtension newName)
          (buildFilePath location.path newName))
        if updated then pure file.id else refuseCode .fileNotFound

section CreateFolder

def raiseParent (userId parentId : Nat) : DriveCallback FolderLocation :=
  if 0 < parentId then do
    let updated ← statement (applyItemCountDelta parentId userId 1)
    if updated then
      match ← findOwnedFolder parentId userId with
      | none => refuseCode .folderNotFound
      | some parent => pure ⟨parent.path, parent.depth⟩
    else
      refuseCode .folderNotFound
  else
    pure {}

def insertIfNameAvailable (folder : NewFolder) : Tx (Option Nat) := do
  let db ← get
  if folderNameExists db folder.userId folder.parentId folder.name then
    pure none
  else
    let folderId ← insertNewFolder folder
    pure (some folderId)

def createFolder (userId parentId : Nat) (name : String) : DriveCallback Nat := do
  acquireNameLock
  let location ← raiseParent userId parentId
  let inserted ← statement (insertIfNameAvailable
    { userId := userId
      parentId := parentId
      name := name
      path := buildFolderPath location.path name
      depth := location.depth + 1
      itemCount := 0 })
  match inserted with
  | none => refuseCode .folderAlreadyExists
  | some folderId => pure folderId

end CreateFolder

section RenameFolder

/-- The recursive query does not end on a cycle of folders. -/
def fetchFolderSubtree (folder : Folder) (userId : Nat) : Tx (List Folder) := do
  let db ← get
  match Drive.fetchFolderSubtree db folder userId with
  | none => throw renameFolderFailed
  | some folders => pure folders

def renameParentPath (parentId userId : Nat) : DriveCallback String :=
  if 0 < parentId then do
    match ← findOwnedFolder parentId userId with
    | none => refuseCode .folderNotFound
    | some parent => pure parent.path
  else
    pure "/"

/-- A path that is shorter than the old prefix is an exception of the string. -/
def renameTreeFolder (folderId userId : Nat) (newName newPrefix oldPrefix : String) (item : Folder) :
    DriveCallback Unit :=
  match rebasePath newPrefix oldPrefix item.path with
  | none => exception
  | some newPath =>
      requireUpdated renameFolderFailed
        (if item.id = folderId then renameFolderPath item.id userId newName newPath
        else updateFolderPath item.id userId newPath)

def rebaseFile (userId : Nat) (newPrefix oldPrefix : String) (folders : List Folder)
    (failure : ErrorInfo) (file : File) : DriveCallback Unit :=
  match folders.find? fun folder => folder.id = file.folderId with
  | none => pure ()
  | some folder =>
      match rebasePath newPrefix oldPrefix folder.path with
      | none => exception
      | some folderPath =>
          requireUpdated failure
            (updateFilePath file.id userId (buildFilePath folderPath file.name))

def renameFolder (folderId userId : Nat) (newName : String) : DriveCallback String := do
  match ← findOwnedFolder folderId userId with
  | none => refuseCode .folderNotFound
  | some folder =>
      acquireNameLock
      let taken ← nameTaken (folder.name ≠ newName) fun db =>
        folderNameExistsExcluding db userId folder.parentId newName folderId
      if taken then
        refuseCode .folderAlreadyExists
      else
        let parentPath ← renameParentPath folder.parentId userId
        let oldPrefix := folder.path
        let newPrefix := buildFolderPath parentPath newName
        let subtree ← statement (fetchFolderSubtree folder userId)
        if subtree = [] then
          refuseCode .folderNotFound
        else
          subtree.forM (renameTreeFolder folderId userId newName newPrefix oldPrefix)
          let files ← query fun db => fetchFilesInFolders db (subtree.map Folder.id) userId
          files.forM (rebaseFile userId newPrefix oldPrefix subtree renameFolderFailed)
          pure newPrefix

end RenameFolder

section Move

def acquireNameLocks (names : List String) : DriveCallback Unit :=
  (names.dedup.insertionSort (· ≤ ·)).forM fun _ => acquireNameLock

def moveFile (files : List File) (location : FolderLocation) (request : MoveRequest)
    (moves : FileMoves) (fileId : Nat) : DriveCallback FileMoves :=
  match files.find? fun file => file.id = fileId with
  | none => pure moves
  | some file =>
      if file.folderId = request.targetFolderId then
        pure { moves with moved := moves.moved + 1 }
      else if moves.occupied.contains file.name then
        pure moves
      else do
        requireUpdated moveFailed (updateFileLocation fileId request.userId request.targetFolderId
          (buildFilePath location.path file.name))
        pure
          { occupied := file.name :: moves.occupied
            deltas := moves.deltas ++ countedDelta file.folderId (-1) ++
              countedDelta request.targetFolderId 1
            moved := moves.moved + 1 }

def applyNetDeltas (userId : Nat) (deltas : List (Nat × Int)) : DriveCallback Unit :=
  (deltas.map Prod.fst).dedup.forM fun folderId =>
    if netDelta deltas folderId = 0 then
      pure ()
    else
      requireUpdated moveFailed (applyItemCountDelta folderId userId (netDelta deltas folderId))

def occupiedNames (names : List String) (read : Db → List String) : DriveCallback (List String) :=
  if names = [] then pure [] else query read

def moveFileChunk (files : List File) (location : FolderLocation) (request : MoveRequest)
    (moved : Nat) (chunk : List Nat) : DriveCallback Nat := do
  let candidates := (chunk.filterMap fun fileId => files.find? fun file => file.id = fileId).filter
    fun file => file.folderId ≠ request.targetFolderId
  let names := candidates.map File.name
  let occupied ← occupiedNames names fun db =>
    queryOccupiedNames db request.targetFolderId request.userId names
  let moves ← chunk.foldlM (moveFile files location request) ⟨occupied, [], moved⟩
  applyNetDeltas request.userId moves.deltas
  pure moves.moved

def moveFiles (location : FolderLocation) (request : MoveRequest) : DriveCallback Nat :=
  let fileIds := normalizeIds request.fileIds
  if fileIds = [] then
    pure 0
  else do
    let files ← query fun db => fetchOwnedFilesByIds db fileIds request.userId
    acquireNameLocks ((files.filter fun file => file.folderId ≠ request.targetFolderId).map File.name)
    (chunkItems defaultBatchChunkSize fileIds).foldlM (moveFileChunk files location request) 0

def moveTreeFolder (request : MoveRequest) (root : Folder) (newPrefix : String) (depthDelta : Int)
    (item : Folder) : DriveCallback Unit :=
  match rebasePath newPrefix root.path item.path with
  | none => exception
  | some newPath =>
      requireUpdated moveFailed
        (if item.id = root.id then
          updateFolderLocationForMove item.id request.userId request.targetFolderId newPath depthDelta
        else
          updateFolderPathForMove item.id request.userId newPath depthDelta)

def countMovedItem (folderId userId : Nat) (delta : Int) : DriveCallback Unit :=
  if 0 < folderId then
    requireUpdated moveFailed (applyItemCountDelta folderId userId delta)
  else
    pure ()

def moveTree (location : FolderLocation) (request : MoveRequest) (plan : FolderDeletePlan) :
    DriveCallback Unit := do
  let newPrefix := buildFolderPath location.path plan.root.name
  let depthDelta := (location.depth : Int) + 1 - plan.root.depth
  plan.folders.forM (moveTreeFolder request plan.root newPrefix depthDelta)
  plan.files.forM
    (rebaseFile request.userId newPrefix plan.root.path plan.folders moveFailed)
  countMovedItem plan.root.parentId request.userId (-1)
  countMovedItem request.targetFolderId request.userId 1

def moveFolder (plans : List (Nat × FolderDeletePlan)) (location : FolderLocation)
    (request : MoveRequest) (moves : List String × Nat) (folderId : Nat) :
    DriveCallback (List String × Nat) :=
  match findPlan plans folderId with
  | none => pure moves
  | some plan =>
      if plan.folders.any fun folder => folder.id = request.targetFolderId then
        refuse ⟨.validationFailed, "Cannot move a folder into itself or its descendant"⟩
      else if plan.root.parentId = request.targetFolderId then
        pure (moves.1, moves.2 + 1)
      else if moves.1.contains plan.root.name then
        pure moves
      else do
        moveTree location request plan
        pure (plan.root.name :: moves.1, moves.2 + 1)

def moveFolders (hashOrder : List Nat) (location : FolderLocation) (request : MoveRequest) :
    DriveCallback Nat := do
  let folderIds := normalizeIds request.folderIds
  folderIds.forM fun folderId => do
    let _ ← findOwnedFolder folderId request.userId
    pure ()
  let plans ← statement (fetchBatchFolderDeletePlans hashOrder folderIds request.userId)
  let topLevelFolderIds := filterCoveredFolderIds folderIds plans
  let candidates := (topLevelFolderIds.filterMap (findPlan plans)).filter
    fun plan => plan.root.parentId ≠ request.targetFolderId
  let names := candidates.map fun plan => plan.root.name
  acquireNameLocks names
  let occupied ← occupiedNames names fun db =>
    queryOccupiedFolderNames db request.targetFolderId request.userId names
  let moves ← topLevelFolderIds.foldlM (moveFolder plans location request) (occupied, 0)
  pure moves.2

def move (hashOrder : List Nat) (location : FolderLocation) (request : MoveRequest) :
    DriveCallback MoveResponse := do
  let movedFileCount ← moveFiles location request
  let movedFolderCount ← moveFolders hashOrder location request
  pure ⟨movedFileCount, movedFolderCount⟩

end Move

end Callbacks

end DiskServer.Drive
