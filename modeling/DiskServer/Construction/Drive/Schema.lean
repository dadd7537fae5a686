import DiskServer.Construction.ErrorCode
import DiskServer.Construction.Jobs.StorageJob
import DiskServer.Library.Table
import DiskServer.Library.Transaction

/-
This file gives the tables of the drive and the transactions that run on them.
-/

namespace DiskServer.Drive

open Library Upload Jobs

structure User where
  id : Nat
  storageQuota : Int
  storageUsed : Int
  storageReserved : Int
  deriving Repr, DecidableEq

structure FileContent where
  id : Nat
  hashMd5 : String
  hashSha256 : String
  size : Nat
  storagePath : String
  mimeType : String
  refCount : Int
  deriving Repr, DecidableEq

/-- A parent id of zero is the root of the user's drive. -/
structure Folder where
  id : Nat
  userId : Nat
  parentId : Nat
  name : String
  path : String
  depth : Nat
  itemCount : Nat
  deriving Repr, DecidableEq

structure File where
  id : Nat
  userId : Nat
  contentId : Nat
  folderId : Nat
  name : String
  extension : String
  size : Nat
  mimeType : String
  path : String
  isFavorite : Nat
  downloadCount : Nat
  deriving Repr, DecidableEq

inductive TrashItemType where
  | file
  | folder
  deriving Repr, DecidableEq

structure Trash where
  id : Nat
  userId : Nat
  itemType : TrashItemType
  itemId : Nat
  itemName : String
  itemSize : Nat
  contentId : Option Nat
  originalFolderId : Nat
  originalPath : String
  itemData : Json

structure Db where
  users : Serial User User.id
  contents : Serial FileContent FileContent.id
  folders : Serial Folder Folder.id
  files : Serial File File.id
  trash : Serial Trash Trash.id
  tasks : Table UploadTask UploadTask.id
  chunks : List (String × UploadTaskChunk)
  jobs : Table StorageJob StorageJob.dedupeKey
  nextJobId : Nat
  now : Timestamp

def Db.empty : Db where
  users := Serial.empty
  contents := Serial.empty
  folders := Serial.empty
  files := Serial.empty
  trash := Serial.empty
  tasks := Table.empty
  chunks := []
  jobs := Table.empty
  nextJobId := 1
  now := 0

abbrev Tx (Value : Type) := Transaction Db ErrorInfo Value

def failWith {Value : Type} (code : ErrorCode) (message : String) : Tx Value :=
  throw ⟨code, message⟩

def failCode {Value : Type} (code : ErrorCode) : Tx Value := throw (ErrorInfo.ofCode code)

/-- A runner maps every exception of its callback to its default error. -/
def databaseError : ErrorInfo := ErrorInfo.ofCode .internalError

end DiskServer.Drive
