import DiskServer.Construction.Drive.Repositories

/-
This file gives the transactions that create and rename folders.
-/

namespace DiskServer.Drive

open Library

def raiseParent (userId parentId : Nat) : Tx FolderLocation :=
  if 0 < parentId then do
    let updated ← applyItemCountDelta parentId userId 1
    if updated then
      match ← findOwnedFolder parentId userId with
      | none => failCode .folderNotFound
      | some parent => pure ⟨parent.path, parent.depth⟩
    else
      failCode .folderNotFound
  else
    pure {}

def createFolder (userId parentId : Nat) (name : String) : Tx Nat := do
  let location ← raiseParent userId parentId
  let db ← get
  if folderNameExists db userId parentId name then
    failCode .folderAlreadyExists
  else
    insertNewFolder
      { userId := userId
        parentId := parentId
        name := name
        path := buildFolderPath location.path name
        depth := location.depth + 1
        itemCount := 0 }

def updateFolderRow (folderId userId : Nat) (change : Folder → Folder)
    (keyed : ∀ folder, (change folder).id = folder.id) : Tx Bool := do
  let db ← get
  match db.folders.rows.find? fun folder => folder.owned folderId userId with
  | none => pure false
  | some folder =>
      let changed := change folder
      if db.folders.rows.any fun other => other.id ≠ folderId && other.userId = changed.userId &&
          other.parentId = changed.parentId && other.name = changed.name then
        throw databaseError
      else
        set { db with
          folders := db.folders.update (fun row => row.owned folderId userId) change keyed }
        pure true

def renameFolderPath (folderId userId : Nat) (newName newPath : String) : Tx Bool :=
  updateFolderRow folderId userId (fun folder => { folder with name := newName, path := newPath })
    fun _ => rfl

def updateFolderPath (folderId userId : Nat) (newPath : String) : Tx Bool :=
  updateFolderRow folderId userId (fun folder => { folder with path := newPath }) fun _ => rfl

def shiftedDepth (depth : Nat) (depthDelta : Int) : Nat := ((depth : Int) + depthDelta).toNat

def updateFolderLocationForMove (folderId userId parentId : Nat) (newPath : String)
    (depthDelta : Int) : Tx Bool :=
  updateFolderRow folderId userId
    (fun folder => { folder with
      parentId := parentId, path := newPath, depth := shiftedDepth folder.depth depthDelta })
    fun _ => rfl

def updateFolderPathForMove (folderId userId : Nat) (newPath : String) (depthDelta : Int) : Tx Bool :=
  updateFolderRow folderId userId
    (fun folder => { folder with path := newPath, depth := shiftedDepth folder.depth depthDelta })
    fun _ => rfl

def updateFileRow (fileId userId : Nat) (change : File → File)
    (keyed : ∀ file, (change file).id = file.id) : Tx Bool := do
  let db ← get
  match db.files.rows.find? fun file => file.id = fileId && file.userId = userId with
  | none => pure false
  | some file =>
      let changed := change file
      if db.files.rows.any fun other => other.id ≠ fileId && other.userId = changed.userId &&
          other.folderId = changed.folderId && other.name = changed.name then
        throw databaseError
      else
        set { db with
          files := db.files.update (fun row => row.id = fileId && row.userId = userId) change keyed }
        pure true

def updateFilePath (fileId userId : Nat) (newPath : String) : Tx Bool :=
  updateFileRow fileId userId (fun file => { file with path := newPath }) fun _ => rfl

def rebasePath (newPrefix oldPrefix oldPath : String) : Option String :=
  if oldPrefix.length ≤ oldPath.length then
    some (newPrefix ++ substrFrom oldPath oldPrefix.length)
  else
    none

def folderNameExistsExcluding (db : Db) (userId parentId : Nat) (name : String) (folderId : Nat) : Bool :=
  db.folders.rows.any fun folder =>
    folder.userId = userId && folder.parentId = parentId && folder.name = name && folder.id ≠ folderId

def renameParentPath (parentId userId : Nat) : Tx String :=
  if 0 < parentId then do
    match ← findOwnedFolder parentId userId with
    | none => failCode .folderNotFound
    | some parent => pure parent.path
  else
    pure "/"

def renameFolderFailed : ErrorInfo := ⟨.internalError, "Failed to rename folder"⟩

def requireUpdated (failure : ErrorInfo) (update : Tx Bool) : Tx Unit := do
  let updated ← update
  if updated then pure () else throw failure

def renameTreeFolder (folderId userId : Nat) (newName newPrefix oldPrefix : String) (item : Folder) :
    Tx Unit :=
  match rebasePath newPrefix oldPrefix item.path with
  | none => throw renameFolderFailed
  | some newPath =>
      requireUpdated renameFolderFailed
        (if item.id = folderId then renameFolderPath item.id userId newName newPath
        else updateFolderPath item.id userId newPath)

def rebaseFile (userId : Nat) (newPrefix oldPrefix : String) (folders : List Folder)
    (failure : ErrorInfo) (file : File) : Tx Unit :=
  match folders.find? fun folder => folder.id = file.folderId with
  | none => pure ()
  | some folder =>
      match rebasePath newPrefix oldPrefix folder.path with
      | none => throw failure
      | some folderPath =>
          requireUpdated failure
            (updateFilePath file.id userId (buildFilePath folderPath file.name))

def renameFolder (folderId userId : Nat) (newName : String) : Tx String := do
  match ← findOwnedFolder folderId userId with
  | none => failCode .folderNotFound
  | some folder =>
      let db ← get
      if folder.name ≠ newName ∧
          folderNameExistsExcluding db userId folder.parentId newName folderId then
        failCode .folderAlreadyExists
      else
        let parentPath ← renameParentPath folder.parentId userId
        let oldPrefix := folder.path
        let newPrefix := buildFolderPath parentPath newName
        match fetchFolderSubtree db folder userId with
        | none => throw renameFolderFailed
        | some subtree =>
            subtree.forM (renameTreeFolder folderId userId newName newPrefix oldPrefix)
            let db ← get
            (fetchFilesInFolders db (subtree.map Folder.id) userId).forM
              (rebaseFile userId newPrefix oldPrefix subtree renameFolderFailed)
            pure newPrefix

end DiskServer.Drive
