import DiskServer.Construction.Drive.FileMutationService
import DiskServer.Construction.Drive.FolderService

/-
This file gives the transactions that rename a file and that move files and folders.
-/

namespace DiskServer.Drive

open Library

def fileNameExistsExcluding (db : Db) (userId folderId : Nat) (name : String) (fileId : Nat) : Bool :=
  db.files.rows.any fun file =>
    file.userId = userId && file.folderId = folderId && file.name = name && file.id ≠ fileId

def renameOwnedFile (fileId userId : Nat) (newName extension newPath : String) : Tx Bool :=
  updateFileRow fileId userId
    (fun file => { file with name := newName, extension := extension, path := newPath }) fun _ => rfl

def renameFile (fileId userId : Nat) (newName : String) : Tx Nat := do
  let db ← get
  match (db.files.find? fileId).filter fun file => file.userId = userId with
  | none => failCode .fileNotFound
  | some file =>
      if file.name ≠ newName ∧ fileNameExistsExcluding db userId file.folderId newName fileId then
        failCode .fileAlreadyExists
      else
        let location ← resolveOwnedFolderLocation file.folderId userId
        let updated ← renameOwnedFile fileId userId newName (extractFileExtension newName)
          (buildFilePath location.path newName)
        if updated then pure file.id else failCode .fileNotFound

structure MoveRequest where
  userId : Nat
  fileIds : List Nat
  folderIds : List Nat
  targetFolderId : Nat
  deriving Repr, DecidableEq

structure MoveResponse where
  movedFileCount : Nat
  movedFolderCount : Nat
  deriving Repr, DecidableEq

def moveFailed : ErrorInfo := ⟨.internalError, "Failed to move items"⟩

def updateFileLocation (fileId userId folderId : Nat) (newPath : String) : Tx Bool :=
  updateFileRow fileId userId (fun file => { file with folderId := folderId, path := newPath })
    fun _ => rfl

structure FileMoves where
  occupied : List String
  deltas : List (Nat × Int)
  moved : Nat
  deriving Repr, DecidableEq

def countedDelta (folderId : Nat) (delta : Int) : List (Nat × Int) :=
  if 0 < folderId then [(folderId, delta)] else []

def moveFile (files : List File) (location : FolderLocation) (request : MoveRequest)
    (moves : FileMoves) (fileId : Nat) : Tx FileMoves :=
  match files.find? fun file => file.id = fileId with
  | none => pure moves
  | some file =>
      if file.folderId = request.targetFolderId then
        pure { moves with moved := moves.moved + 1 }
      else if moves.occupied.contains file.name then
        pure moves
      else do
        requireUpdated moveFailed (updateFileLocation fileId request.userId request.targetFolderId
          (buildFilePath location.path file.name))
        pure
          { occupied := file.name :: moves.occupied
            deltas := moves.deltas ++ countedDelta file.folderId (-1) ++
              countedDelta request.targetFolderId 1
            moved := moves.moved + 1 }

def netDelta (deltas : List (Nat × Int)) (folderId : Nat) : Int :=
  ((deltas.filter fun delta => delta.1 = folderId).map Prod.snd).sum

def applyNetDeltas (userId : Nat) (deltas : List (Nat × Int)) : Tx Unit :=
  (deltas.map Prod.fst).dedup.forM fun folderId =>
    if netDelta deltas folderId = 0 then
      pure ()
    else
      requireUpdated moveFailed (applyItemCountDelta folderId userId (netDelta deltas folderId))

def moveFileChunk (files : List File) (location : FolderLocation) (request : MoveRequest)
    (moved : Nat) (chunk : List Nat) : Tx Nat := do
  let db ← get
  let candidates := (chunk.filterMap fun fileId => files.find? fun file => file.id = fileId).filter
    fun file => file.folderId ≠ request.targetFolderId
  let occupied := queryOccupiedNames db request.targetFolderId request.userId
    (candidates.map File.name)
  let moves ← chunk.foldlM (moveFile files location request) ⟨occupied, [], moved⟩
  applyNetDeltas request.userId moves.deltas
  pure moves.moved

def moveTreeFolder (request : MoveRequest) (root : Folder) (newPrefix : String) (depthDelta : Int)
    (item : Folder) : Tx Unit :=
  match rebasePath newPrefix root.path item.path with
  | none => throw moveFailed
  | some newPath =>
      requireUpdated moveFailed
        (if item.id = root.id then
          updateFolderLocationForMove item.id request.userId request.targetFolderId newPath depthDelta
        else
          updateFolderPathForMove item.id request.userId newPath depthDelta)

/-- The root of the drive has no item count to change. -/
def countMovedItem (folderId userId : Nat) (delta : Int) : Tx Unit :=
  if 0 < folderId then
    requireUpdated moveFailed (applyItemCountDelta folderId userId delta)
  else
    pure ()

def moveTree (location : FolderLocation) (request : MoveRequest) (plan : FolderDeletePlan) : Tx Unit := do
  let newPrefix := buildFolderPath location.path plan.root.name
  let depthDelta := (location.depth : Int) + 1 - plan.root.depth
  plan.folders.forM (moveTreeFolder request plan.root newPrefix depthDelta)
  plan.files.forM
    (rebaseFile request.userId newPrefix plan.root.path plan.folders moveFailed)
  countMovedItem plan.root.parentId request.userId (-1)
  countMovedItem request.targetFolderId request.userId 1

def moveFolder (plans : List (Nat × FolderDeletePlan)) (location : FolderLocation)
    (request : MoveRequest) (moves : List String × Nat) (folderId : Nat) : Tx (List String × Nat) :=
  match findPlan plans folderId with
  | none => pure moves
  | some plan =>
      if plan.folders.any fun folder => folder.id = request.targetFolderId then
        failWith .validationFailed "Cannot move a folder into itself or its descendant"
      else if plan.root.parentId = request.targetFolderId then
        pure (moves.1, moves.2 + 1)
      else if moves.1.contains plan.root.name then
        pure moves
      else do
        moveTree location request plan
        pure (plan.root.name :: moves.1, moves.2 + 1)

def moveFiles (location : FolderLocation) (request : MoveRequest) : Tx Nat := do
  let db ← get
  let fileIds := normalizeIds request.fileIds
  let files := fetchOwnedFilesByIds db fileIds request.userId
  (chunkItems defaultBatchChunkSize fileIds).foldlM (moveFileChunk files location request) 0

def moveFolders (hashOrder : List Nat) (location : FolderLocation) (request : MoveRequest) : Tx Nat := do
  let folderIds := normalizeIds request.folderIds
  let plans ← fetchBatchFolderDeletePlans hashOrder folderIds request.userId
  let topLevelFolderIds := filterCoveredFolderIds folderIds plans
  let db ← get
  let candidates := (topLevelFolderIds.filterMap (findPlan plans)).filter
    fun plan => plan.root.parentId ≠ request.targetFolderId
  let occupied := queryOccupiedFolderNames db request.targetFolderId request.userId
    (candidates.map fun plan => plan.root.name)
  let moves ← topLevelFolderIds.foldlM (moveFolder plans location request) (occupied, 0)
  pure moves.2

/-- The transaction of `Move`. The location of the target comes from a read before it. -/
def move (hashOrder : List Nat) (location : FolderLocation) (request : MoveRequest) : Tx MoveResponse := do
  let movedFileCount ← moveFiles location request
  let movedFolderCount ← moveFolders hashOrder location request
  pure ⟨movedFileCount, movedFolderCount⟩

end DiskServer.Drive
