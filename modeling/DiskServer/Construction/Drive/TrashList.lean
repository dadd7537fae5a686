import DiskServer.Construction.Drive.Schema
import DiskServer.Construction.Utils.DtoBase
import DiskServer.Library.Paging

/-
This file gives the list of the trash of a user.
-/

namespace DiskServer.Drive

open Library Utils

section Requests

structure TrashListRequest where
  page : Int32
  pageSize : Int32
  deriving Repr, DecidableEq

def TrashListRequest.fromRequest (getParameter : String → List Char) : Parsed TrashListRequest := do
  let page ← queryPositiveInt (getParameter "page") "page" 1 intMax
  let pageSize ← queryPositiveInt (getParameter "page_size") "page_size" 1 100
  pure ⟨Int32.ofInt (page.getD 1), Int32.ofInt (pageSize.getD 20)⟩

end Requests

section Queries

structure DatedTrash extends Trash where
  deletedAt : Int
  expiresAt : Int

def TrashItemType.text : TrashItemType → String
  | .file => "file"
  | .folder => "folder"

variable (trash : Table DatedTrash fun row => row.id) (userId : Nat)

def trashOf : List DatedTrash := trash.rows.filter fun row => row.userId = userId

/-- The database refuses a negative offset. -/
def fetchListPageForUser (order : Arrangement (Descending DatedTrash.deletedAt)) (limit offset : Int32) :
    Option (List DatedTrash) :=
  if offset < 0 then none else some (cut limit.toInt.toNat offset.toInt.toNat (order.sort (trashOf trash userId)))

/-- The count is converted from a text and throws beyond its type. -/
def countForUser : Option Int32 :=
  if (trashOf trash userId).length < 2147483648 then some (Int32.ofNat (trashOf trash userId).length) else none

end Queries

section Service

structure TrashItemResponse where
  id : Nat
  type : String
  originalId : Nat
  name : String
  size : Nat
  originalPath : String
  deletedAt : String
  expiresAt : String
  deriving Repr, DecidableEq

structure Pagination where
  page : Int32
  pageSize : Int32
  total : Int32
  totalPages : Int32
  deriving Repr, DecidableEq

def Pagination.create (page pageSize total : Int32) : Pagination := ⟨page, pageSize, total, totalPages32 total pageSize⟩

structure TrashListResponse where
  items : List TrashItemResponse
  pagination : Pagination
  deriving Repr, DecidableEq

variable (timestamp : Int → String)

def DatedTrash.response (row : DatedTrash) : TrashItemResponse where
  id := row.id
  type := row.itemType.text
  originalId := row.itemId
  name := row.itemName
  size := row.itemSize
  originalPath := row.originalPath
  deletedAt := timestamp row.deletedAt
  expiresAt := timestamp row.expiresAt

variable (trash : Table DatedTrash fun row => row.id) (userId : Nat)

def trashServiceList (order : Arrangement (Descending DatedTrash.deletedAt)) (page pageSize : Int32) :
    Except ErrorInfo (List TrashItemResponse) :=
  match fetchListPageForUser trash userId order pageSize (offset32 page pageSize) with
  | none => .error ⟨.internalError, "Failed to fetch trash list, please try again later"⟩
  | some rows => .ok (rows.map (DatedTrash.response timestamp))

def listTrash (order : Arrangement (Descending DatedTrash.deletedAt)) (request : TrashListRequest) :
    Parsed TrashListResponse :=
  match trashServiceList timestamp trash userId order request.page request.pageSize with
  | .error error => .error error
  | .ok items =>
      match countForUser trash userId with
      | none => .raised
      | some total => .value ⟨items, Pagination.create request.page request.pageSize total⟩

end Service

end DiskServer.Drive
