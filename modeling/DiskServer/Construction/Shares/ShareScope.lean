import DiskServer.Construction.Drive.ShareService
import DiskServer.Construction.Shares.ShareService

/-
This file gives the conditions by which the queries of a share admit folders and files.
-/

namespace DiskServer.Shares

open Drive

variable (db : Db) (shareFiles : List ShareFile) (shareId : Nat)

def sharedFolderAccess (folder : Folder) : Bool :=
  shareFiles.any fun link => db.folders.rows.any fun sharedRoot =>
    link.itemId = sharedRoot.id && link.shareId = shareId && link.itemType = .folder &&
      folder.userId = sharedRoot.userId &&
      (folder.id = sharedRoot.id || pathBelow sharedRoot.path folder.path)

def sharedFileAccess (file : File) : Bool :=
  (shareFiles.any fun link => link.shareId = shareId && link.itemType = .file && link.itemId = file.id) ||
    shareFiles.any fun link => db.folders.rows.any fun sharedRoot => db.folders.rows.any fun parentFolder =>
      link.itemId = sharedRoot.id && parentFolder.id = file.folderId && link.shareId = shareId &&
        link.itemType = .folder && parentFolder.userId = sharedRoot.userId &&
        pathBelow sharedRoot.path parentFolder.path

def findSharedFolder (folderId : Nat) : Option Folder :=
  (db.folders.find? folderId).filter (sharedFolderAccess db shareFiles shareId)

def findSharedFile (fileId : Nat) : Option File :=
  (db.files.find? fileId).filter (sharedFileAccess db shareFiles shareId)

end DiskServer.Shares
