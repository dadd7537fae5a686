import DiskServer.Construction.Drive.FileMutationService

/-
This file gives the transaction that saves shared items to the drive of another user.
-/

namespace DiskServer.Drive

open Library

structure SavePlan where
  root : Folder
  folders : List Folder
  files : List File
  deriving Repr, DecidableEq

structure SaveSelection where
  files : List File
  plans : List SavePlan
  deriving Repr, DecidableEq

def sqlLike : List Char → List Char → Bool
  | [], [] => true
  | [], _ :: _ => false
  | '%' :: pattern, text => text.tails.any (sqlLike pattern)
  | _ :: _, [] => false
  | '_' :: pattern, _ :: text => sqlLike pattern text
  | '\\' :: wanted :: pattern, char :: text => wanted == char && sqlLike pattern text
  | wanted :: pattern, char :: text => wanted == char && sqlLike pattern text

def pathBelow (rootPath path : String) : Bool := sqlLike (rootPath ++ "%").toList path.toList

def readSharedFolders (db : Db) (root : Folder) : List Folder :=
  (db.folders.rows.filter fun folder =>
    folder.userId = root.userId && pathBelow root.path folder.path).insertionSort
      fun first second => first.depth < second.depth ∨
        (first.depth = second.depth ∧ first.id ≤ second.id)

def readSharedFiles (db : Db) (root : Folder) : List File :=
  ((db.files.rows.flatMap fun file =>
    (db.folders.rows.filter fun folder =>
      file.folderId = folder.id && file.userId = root.userId && folder.userId = root.userId &&
        pathBelow root.path folder.path).map fun folder => (folder.depth, file)).insertionSort
      fun first second => first.1 < second.1 ∨
        (first.1 = second.1 ∧ first.2.id ≤ second.2.id)).map Prod.snd

/-- The three queries of one shared folder each see a committed state of their own. -/
def readSavePlan (rootRead folderRead fileRead : Db) (folderId : Nat) : Option SavePlan :=
  (rootRead.folders.find? folderId).map fun root =>
    ⟨root, readSharedFolders folderRead root, readSharedFiles fileRead root⟩

def SaveSelection.totalSize (selection : SaveSelection) : Nat :=
  sizeOf selection.files + (selection.plans.map fun plan => sizeOf plan.files).sum

def saveFile (userId folderId : Nat) (folderPath : String) (file : File) : Tx Unit := do
  incrementRefCount file.contentId 1
  let _ ← insertFile (copiedFile userId folderId folderPath file).row fun _ => rfl
  pure ()

def saveTopFile (userId targetFolderId : Nat) (targetPath : String) (saved : Nat × Nat) (file : File) :
    Tx (Nat × Nat) := do
  let db ← get
  if fileNameExists db userId targetFolderId file.name then
    pure saved
  else
    saveFile userId targetFolderId targetPath file
    pure (saved.1 + 1, saved.2 + file.size)

def saveFolderNode (userId rootDepth oldRootDepth : Nat) (folders : FolderMap) (folder : Folder) :
    Tx FolderMap := do
  match folders.lookup folder.parentId with
  | none => pure folders
  | some (parentId, parentPath) =>
      let folderPath := buildFolderPath parentPath folder.name
      let folderId ← insertNewFolder
        { userId := userId
          parentId := parentId
          name := folder.name
          path := folderPath
          depth := rebasedDepth rootDepth oldRootDepth folder.depth
          itemCount := folder.itemCount }
      pure ((folder.id, folderId, folderPath) :: folders)

def saveTreeFile (userId : Nat) (folders : FolderMap) (saved : Nat) (file : File) : Tx Nat := do
  match folders.lookup file.folderId with
  | none => pure saved
  | some (folderId, folderPath) =>
      saveFile userId folderId folderPath file
      pure (saved + file.size)

def saveTree (userId targetFolderId : Nat) (location : FolderLocation) (saved : Nat × Nat)
    (plan : SavePlan) : Tx (Nat × Nat) := do
  let db ← get
  if folderNameExists db userId targetFolderId plan.root.name then
    pure saved
  else
    let rootPath := buildFolderPath location.path plan.root.name
    let rootDepth := location.depth + 1
    let rootId ← insertNewFolder
      { userId := userId
        parentId := targetFolderId
        name := plan.root.name
        path := rootPath
        depth := rootDepth
        itemCount := plan.root.itemCount }
    let folders ← (plan.folders.filter fun folder => folder.id ≠ plan.root.id).foldlM
      (saveFolderNode userId rootDepth plan.root.depth) [(plan.root.id, rootId, rootPath)]
    let size ← plan.files.foldlM (saveTreeFile userId folders) saved.2
    pure (saved.1 + 1, size)

def countSavedItems (targetFolderId userId count : Nat) : Tx Unit :=
  if 0 < targetFolderId ∧ 0 < count then do
    let _ ← applyItemCountDelta targetFolderId userId count
    pure ()
  else
    pure ()

def saveToDrive (userId targetFolderId : Nat) (location : FolderLocation) (selection : SaveSelection) :
    Tx Nat := do
  chargeSelection userId selection.totalSize
  let savedFiles ← selection.files.foldlM (saveTopFile userId targetFolderId location.path) (0, 0)
  let saved ← selection.plans.foldlM (saveTree userId targetFolderId location) savedFiles
  countSavedItems targetFolderId userId saved.1
  refundSkipped userId selection.totalSize saved.2
  pure saved.2

end DiskServer.Drive
