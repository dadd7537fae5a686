import DiskServer.Construction.Drive.Schema

/-
This file gives the file and folder repositories and the helpers that their services share.
-/

namespace DiskServer.Drive

open Library

def buildFilePath (folderPath filename : String) : String :=
  if folderPath = "/" then "/" ++ filename else folderPath ++ filename

def buildFolderPath (parentPath name : String) : String :=
  if parentPath = "/" then "/" ++ name ++ "/" else parentPath ++ name ++ "/"

def rfind (pattern text : String) : Option Nat :=
  (List.range (text.length + 1)).reverse.find? fun position =>
    pattern.toList.isPrefixOf (text.toList.drop position)

def substrFrom (text : String) (position : Nat) : String := String.ofList (text.toList.drop position)

def extractFileExtension (filename : String) : String :=
  match rfind "." filename with
  | none => ""
  | some position =>
      if position = filename.length - 1 then "" else substrFrom filename (position + 1)

/-- The services sort the requested ids and drop repetitions. -/
def normalizeIds (ids : List Nat) : List Nat := ids.dedup.insertionSort (· ≤ ·)

structure FolderLocation where
  path : String := "/"
  depth : Nat := 0
  deriving Repr, DecidableEq

structure FolderDeletePlan where
  root : Folder
  folders : List Folder
  files : List File
  itemSize : Nat
  deriving Repr, DecidableEq

def Folder.owned (folder : Folder) (folderId userId : Nat) : Bool :=
  folder.id == folderId && folder.userId == userId

def findOwnedFolder (folderId userId : Nat) : Tx (Option Folder) := do
  let db ← get
  pure (db.folders.rows.find? fun folder => folder.owned folderId userId)

def resolveOwnedFolderLocation (folderId userId : Nat) : Tx FolderLocation :=
  if folderId = 0 then
    pure {}
  else do
    match ← findOwnedFolder folderId userId with
    | none => failCode .folderNotFound
    | some folder => pure ⟨folder.path, folder.depth⟩

def folderNameExists (db : Db) (userId parentId : Nat) (name : String) : Bool :=
  db.folders.rows.any fun folder =>
    folder.userId = userId && folder.parentId = parentId && folder.name = name

def fileNameExists (db : Db) (userId folderId : Nat) (name : String) : Bool :=
  db.files.rows.any fun file => file.userId = userId && file.folderId = folderId && file.name = name

def applyItemCountDelta (folderId userId : Nat) (delta : Int) : Tx Bool := do
  let db ← get
  if db.folders.rows.any fun folder => folder.owned folderId userId then
    modify fun db => { db with
      folders := db.folders.update (fun folder => folder.owned folderId userId)
        (fun folder => { folder with itemCount := ((folder.itemCount : Int) + delta).toNat })
        fun _ => rfl }
    pure true
  else
    pure false

def insertFolder (build : Nat → Folder) (keyed : ∀ id, (build id).id = id) : Tx Nat := do
  let db ← get
  let folder := build db.folders.next
  if folderNameExists db folder.userId folder.parentId folder.name then
    throw databaseError
  else if (db.users.find? folder.userId).isNone then
    throw databaseError
  else
    modify fun db => { db with folders := db.folders.insert build keyed }
    pure folder.id

def insertFile (build : Nat → File) (keyed : ∀ id, (build id).id = id) : Tx Nat := do
  let db ← get
  let file := build db.files.next
  if fileNameExists db file.userId file.folderId file.name then
    throw databaseError
  else if (db.users.find? file.userId).isNone then
    throw databaseError
  else if (db.contents.find? file.contentId).isNone then
    throw databaseError
  else
    modify fun db => { db with files := db.files.insert build keyed }
    pure file.id

structure NewFile where
  userId : Nat
  contentId : Nat
  folderId : Nat
  name : String
  extension : String
  size : Nat
  mimeType : String
  path : String
  isFavorite : Nat
  downloadCount : Nat
  deriving Repr, DecidableEq

def NewFile.row (file : NewFile) (id : Nat) : File :=
  ⟨id, file.userId, file.contentId, file.folderId, file.name, file.extension, file.size,
    file.mimeType, file.path, file.isFavorite, file.downloadCount⟩

theorem NewFile.row_id (file : NewFile) (id : Nat) : (file.row id).id = id := rfl

structure NewFolder where
  userId : Nat
  parentId : Nat
  name : String
  path : String
  depth : Nat
  itemCount : Nat
  deriving Repr, DecidableEq

def NewFolder.row (folder : NewFolder) (id : Nat) : Folder :=
  ⟨id, folder.userId, folder.parentId, folder.name, folder.path, folder.depth, folder.itemCount⟩

theorem NewFolder.row_id (folder : NewFolder) (id : Nat) : (folder.row id).id = id := rfl

def insertNewFolder (folder : NewFolder) : Tx Nat :=
  insertFolder folder.row folder.row_id

def insertFileRecord (file : NewFile) : Tx Nat := do
  let db ← get
  if fileNameExists db file.userId file.folderId file.name then
    failCode .fileAlreadyExists
  else
    insertFile file.row fun _ => rfl

def fetchOwnedFilesByIds (db : Db) (fileIds : List Nat) (userId : Nat) : List File :=
  (normalizeIds fileIds).filterMap fun fileId =>
    (db.files.find? fileId).filter fun file => file.userId = userId

def fetchFilesInFolders (db : Db) (folderIds : List Nat) (userId : Nat) : List File :=
  (db.files.rows.filter fun file => file.userId = userId && folderIds.contains file.folderId).insertionSort
    fun first second => first.folderId < second.folderId ∨
      (first.folderId = second.folderId ∧ first.id ≤ second.id)

def childrenOf (folders : List Folder) (userId : Nat) (level : List Folder) : List Folder :=
  level.flatMap fun parent =>
    folders.filter fun folder => folder.parentId = parent.id && folder.userId = userId

/-- The recursive query unites its rounds until one is empty, and it does not end on a cycle. -/
def folderTree (folders : List Folder) (userId : Nat) : Nat → List Folder → Option (List Folder)
  | _, [] => some []
  | 0, _ :: _ => none
  | fuel + 1, folder :: level =>
      (folderTree folders userId fuel (childrenOf folders userId (folder :: level))).map
        ((folder :: level) ++ ·)

/-- An acyclic tree has fewer rounds than rows, so this many rounds decide whether the query ends. -/
def fetchFolderSubtree (db : Db) (root : Folder) (userId : Nat) : Option (List Folder) :=
  (folderTree db.folders.rows userId (db.folders.rows.length + 1) [root]).map fun folders =>
    folders.insertionSort fun first second => first.depth < second.depth ∨
      (first.depth = second.depth ∧ first.id ≤ second.id)

/-- A hash map may list its keys in any order. -/
def iterationOrder (hashOrder keys : List Nat) : List Nat :=
  if hashOrder.Perm keys then hashOrder else keys

/-- Each file goes to the first root, in the order of the hash map, whose tree holds its folder. -/
def matchedRoot (trees : List (Nat × List Folder)) (file : File) : Option Nat :=
  (trees.find? fun tree => tree.2.any fun folder => folder.id = file.folderId).map Prod.fst

def buildDeletePlan (trees : List (Nat × List Folder)) (files : List File) (root : Folder)
    (tree : Nat × List Folder) : Nat × FolderDeletePlan :=
  let matched := files.filter fun file => matchedRoot trees file = some tree.1
  (tree.1,
    { root := tree.2.headD root
      folders := tree.2
      files := matched
      itemSize := (matched.map File.size).sum })

def fetchFolderTrees (db : Db) (hashOrder folderIds : List Nat) (userId : Nat) :
    Option (List (Folder × List Folder)) :=
  let roots := (normalizeIds folderIds).filterMap fun folderId =>
    (db.folders.find? folderId).filter fun folder => folder.userId = userId
  let ordered := (iterationOrder hashOrder (roots.map Folder.id)).filterMap fun rootId =>
    roots.find? fun folder => folder.id = rootId
  ordered.mapM fun root => (fetchFolderSubtree db root userId).map fun folders => (root, folders)

def fetchBatchFolderDeletePlans (hashOrder folderIds : List Nat) (userId : Nat) :
    Tx (List (Nat × FolderDeletePlan)) := do
  let db ← get
  match fetchFolderTrees db hashOrder folderIds userId with
  | none => throw databaseError
  | some trees =>
      let keyed := trees.map fun tree => (tree.1.id, tree.2)
      let files := fetchFilesInFolders db ((trees.flatMap Prod.snd).map Folder.id) userId
      pure (trees.map fun tree => buildDeletePlan keyed files tree.1 (tree.1.id, tree.2))

def filterCoveredFolderIds (requestedFolderIds : List Nat) (plans : List (Nat × FolderDeletePlan)) :
    List Nat :=
  requestedFolderIds.filter fun folderId =>
    (plans.any fun plan => plan.1 = folderId) &&
      !(plans.any fun plan => plan.1 ≠ folderId && plan.2.folders.any fun folder =>
        folder.id = folderId)

def findPlan (plans : List (Nat × FolderDeletePlan)) (folderId : Nat) : Option FolderDeletePlan :=
  (plans.find? fun plan => plan.1 = folderId).map Prod.snd

def collectCoveredFileIds (topLevelFolderIds : List Nat) (plans : List (Nat × FolderDeletePlan)) :
    List Nat :=
  topLevelFolderIds.flatMap fun folderId =>
    match findPlan plans folderId with
    | none => []
    | some plan => plan.files.map File.id

def deleteFilesByIds (fileIds : List Nat) : Tx Nat := do
  let db ← get
  modify fun db => { db with files := db.files.remove fun file => fileIds.contains file.id }
  pure (db.files.rows.filter fun file => fileIds.contains file.id).length

def deleteFoldersByIds (folderIds : List Nat) : Tx Nat := do
  let db ← get
  modify fun db => { db with folders := db.folders.remove fun folder => folderIds.contains folder.id }
  pure (db.folders.rows.filter fun folder => folderIds.contains folder.id).length

end DiskServer.Drive
