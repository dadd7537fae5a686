import DiskServer.Construction.Drive.TrashCallbacks

/-
This file gives the restore of a file with the widths of the columns that it writes.
-/

namespace DiskServer.Drive.RestoreNames

open Library Library.Callback

def fitsColumn (width : Nat) (text : String) : Bool := (text.toList.drop width).all (· = ' ')

def columnText (width : Nat) (text : String) : String := String.ofList (text.toList.take width)

def nameWidth : Nat := 255

def extensionWidth : Nat := 32

def mimeTypeWidth : Nat := 128

def pathWidth : Nat := 4096

def fitsFiles (file : File) : Bool :=
  fitsColumn nameWidth file.name && fitsColumn extensionWidth file.extension &&
    fitsColumn mimeTypeWidth file.mimeType && fitsColumn pathWidth file.path

def filesRow (file : File) : File :=
  { file with
    name := columnText nameWidth file.name
    extension := columnText extensionWidth file.extension
    mimeType := columnText mimeTypeWidth file.mimeType
    path := columnText pathWidth file.path }

def insertFile (build : Nat → File) (keyed : ∀ id, (build id).id = id) : Tx Nat := do
  let db ← get
  if fitsFiles (build db.files.next) then
    Drive.insertFile (fun id => filesRow (build id)) keyed
  else
    throw databaseError

def restoredFile (item : Trash) (contentId targetFolderId : Nat) (location : FolderLocation)
    (mimeType : String) (candidateIndex : Nat) : NewFile :=
  let restoredName := restoredFileName item.itemName candidateIndex
  { userId := item.userId
    contentId := contentId
    folderId := targetFolderId
    name := restoredName
    extension := extractExtension restoredName
    size := item.itemSize
    mimeType := mimeType
    path := location.path ++ restoredName
    isFavorite := 0
    downloadCount := 0 }

def mimeTypeOf (item : Trash) : Decoded String :=
  (item.itemData.get "mime_type" (.string "application/octet-stream")).asString

def restoreFile (trashId userId candidateIndex : Nat) : DriveCallback Nat := do
  let item ← Callbacks.fetchLifecycleRow trashId userId .file
  match resolveRequiredContentId item.contentId item.itemData with
  | .error error => refuse error
  | .ok (contentId, _) =>
      let (targetFolderId, location) ← Callbacks.restoreTarget item.originalFolderId userId
      let taken ← query fun db => fileNameExistsExcluding db userId targetFolderId
        (restoredFileName item.itemName candidateIndex) 0
      if taken then
        refuse Callbacks.restoreFilenameOccupied
      else
        let mimeType ← Callbacks.convert (mimeTypeOf item)
        let file := restoredFile item contentId targetFolderId location mimeType candidateIndex
        let fileId ← statement (insertFile file.row file.row_id)
        Callbacks.countRestoredItem targetFolderId userId restoreFileFailed
        Callbacks.deleteTrashRow item.id userId .file restoreFileFailed
        pure fileId

def runRestoreFile (weather : Nat → Weather) (trashId userId : Nat) (before : Db) :
    Ended Db ErrorInfo Nat :=
  Callbacks.restoreAttempts Callbacks.restoreFilenameOccupied restoreFileFailed
    (fun candidateIndex db => run (weather candidateIndex) restoreFileFailed
      (restoreFile trashId userId candidateIndex) db) (Callbacks.maxCandidateIndex + 1) 0 before

end DiskServer.Drive.RestoreNames
