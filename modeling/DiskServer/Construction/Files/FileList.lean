import DiskServer.Construction.ErrorCode
import DiskServer.Construction.Json
import DiskServer.Library.Paging

/-
This file gives the listing of a folder, the queries that compute it and its form in the cache.
-/

namespace DiskServer.Files

open Library

section Requests

inductive SortBy where
  | name
  | size
  | createdAt
  | updatedAt
  deriving Repr, DecidableEq

def SortBy.text : SortBy → String
  | .name => "name"
  | .size => "size"
  | .createdAt => "created_at"
  | .updatedAt => "updated_at"

inductive SortOrder where
  | asc
  | desc
  deriving Repr, DecidableEq

def SortOrder.text : SortOrder → String
  | .asc => "asc"
  | .desc => "desc"

inductive ItemFilter where
  | all
  | file
  | folder
  deriving Repr, DecidableEq

def ItemFilter.text : ItemFilter → String
  | .all => "all"
  | .file => "file"
  | .folder => "folder"

structure FileListQueryParams where
  parentId : UInt64
  page : Int32
  pageSize : Int32
  sortBy : SortBy
  sortOrder : SortOrder
  type : ItemFilter
  deriving Repr, DecidableEq

def FileListQueryParams.offset (query : FileListQueryParams) : Nat :=
  ((query.page.toInt - 1) * query.pageSize.toInt).toNat

end Requests

section Responses

structure FileListItem where
  id : UInt64
  name : String
  type : String
  size : UInt64
  mimeType : String
  hash : String
  itemCount : Int32
  createdAt : String
  updatedAt : String
  deriving Repr, DecidableEq

structure Pagination where
  page : Int32
  pageSize : Int32
  total : Int32
  totalPages : Int32
  deriving Repr, DecidableEq

structure FileListResponse where
  items : List FileListItem
  pagination : Pagination
  deriving Repr, DecidableEq

def FileListItem.toJson (item : FileListItem) : Json :=
  .object
    ([("id", .number item.id.toNat), ("name", .string item.name), ("type", .string item.type)] ++
      (if item.type = "file" then
        [("size", .number item.size.toNat), ("mime_type", .string item.mimeType),
          ("hash", .string item.hash)]
      else
        [("item_count", .number item.itemCount.toInt)]) ++
      [("created_at", .string item.createdAt), ("updated_at", .string item.updatedAt)])

def Pagination.toJson (pagination : Pagination) : Json :=
  .object
    [("page", .number pagination.page.toInt), ("page_size", .number pagination.pageSize.toInt),
      ("total", .number pagination.total.toInt),
      ("total_pages", .number pagination.totalPages.toInt)]

def FileListResponse.toJson (response : FileListResponse) : Json :=
  .object
    [("items", .array (response.items.map FileListItem.toJson)),
      ("pagination", response.pagination.toJson)]

def asInt : Json → Except Json.ConversionError Int32
  | .null => .ok 0
  | .bool value => .ok (if value then 1 else 0)
  | .number value =>
      if -2147483648 ≤ value ∧ value ≤ 2147483647 then .ok (Int32.ofInt value)
      else .error .notConvertible
  | _ => .error .notConvertible

def FileListItem.fromJson (item : Json) : Except Json.ConversionError FileListItem := do
  let id ← (item.get "id" (.number 0)).asUInt64
  let name ← (item.get "name" (.string "")).asString
  let type ← (item.get "type" (.string "file")).asString
  let size ← (item.get "size" (.number 0)).asUInt64
  let mimeType ← (item.get "mime_type" (.string "")).asString
  let hash ← (item.get "hash" (.string "")).asString
  let itemCount ← asInt (item.get "item_count" (.number 0))
  let createdAt ← (item.get "created_at" (.string "")).asString
  let updatedAt ← (item.get "updated_at" (.string "")).asString
  pure ⟨UInt64.ofNat id, name, type, UInt64.ofNat size, mimeType, hash, itemCount, createdAt, updatedAt⟩

def Pagination.fromJson (json : Json) : Except Json.ConversionError Pagination := do
  if json.isMember "pagination" && (json.field "pagination").isObject then
    let page ← asInt ((json.field "pagination").get "page" (.number 1))
    let pageSize ← asInt ((json.field "pagination").get "page_size" (.number 20))
    let total ← asInt ((json.field "pagination").get "total" (.number 0))
    let totalPages ← asInt ((json.field "pagination").get "total_pages" (.number 0))
    pure ⟨page, pageSize, total, totalPages⟩
  else
    pure ⟨1, 20, 0, 0⟩

def FileListResponse.fromJson (json : Json) : Except Json.ConversionError FileListResponse := do
  let pagination ← Pagination.fromJson json
  let items ← (json.field "items").elements.mapM FileListItem.fromJson
  pure ⟨items, pagination⟩

end Responses

section Queries

structure FileRow where
  id : UInt64
  userId : UInt64
  contentId : UInt64
  folderId : UInt64
  name : String
  size : UInt64
  mimeType : Option String
  createdAt : Int
  updatedAt : Int
  deriving Repr, DecidableEq

structure FolderRow where
  id : UInt64
  userId : UInt64
  parentId : UInt64
  name : String
  itemCount : Int32
  createdAt : Int
  updatedAt : Int
  deriving Repr, DecidableEq

structure ContentRow where
  id : UInt64
  hashMd5 : String
  deriving Repr, DecidableEq

structure ListingDb where
  files : List FileRow
  folders : List FolderRow
  contents : List ContentRow
  deriving Repr, DecidableEq

/-- The database orders texts and prints times in its own way. -/
structure Locale where
  collation : String → String → Ordering
  timestamp : Int → String

structure PageRow where
  id : UInt64
  name : String
  type : String
  size : UInt64
  createdAt : Int
  updatedAt : Int
  deriving Repr, DecidableEq

variable (locale : Locale) (db : ListingDb) (query : FileListQueryParams) (userId : UInt64)

def fileRows : List FileRow :=
  db.files.filter fun file => file.folderId = query.parentId && file.userId = userId

def folderRows : List FolderRow :=
  db.folders.filter fun folder => folder.parentId = query.parentId && folder.userId = userId

def FileRow.narrow (file : FileRow) : PageRow :=
  ⟨file.id, file.name, "file", file.size, file.createdAt, file.updatedAt⟩

def FolderRow.narrow (folder : FolderRow) : PageRow :=
  ⟨folder.id, folder.name, "folder", 0, folder.createdAt, folder.updatedAt⟩

def sortColumn (first second : PageRow) : Ordering :=
  match query.sortBy with
  | .name => locale.collation first.name second.name
  | .size => compare first.size second.size
  | .createdAt => compare first.createdAt second.createdAt
  | .updatedAt => compare first.updatedAt second.updatedAt

def deterministicOrder (includeType : Bool) (first second : PageRow) : Ordering :=
  let order := (sortColumn locale query first second).then
    ((if query.sortBy ≠ .name then locale.collation first.name second.name else .eq).then
      ((if includeType then locale.collation first.type second.type else .eq).then
        (compare first.id second.id)))
  match query.sortOrder with
  | .asc => order
  | .desc => order.swap

def pageOf (includeType : Bool) (rows : List PageRow) : List PageRow :=
  ((rows.mergeSort fun first second =>
    (deterministicOrder locale query includeType first second).isLE).drop query.offset).take
      query.pageSize.toInt.toNat

def contentHash (file : FileRow) : String :=
  ((db.contents.find? fun content => content.id = file.contentId).map ContentRow.hashMd5).getD ""

def joinAll (row : PageRow) : FileListItem :=
  let file := if row.type = "file" then db.files.find? fun file => file.id = row.id else none
  let folder := if row.type = "folder" then db.folders.find? fun folder => folder.id = row.id else none
  { id := row.id
    name := row.name
    type := row.type
    size := row.size
    mimeType := (file.bind FileRow.mimeType).getD ""
    hash := (file.map (contentHash db)).getD ""
    itemCount := (folder.map FolderRow.itemCount).getD 0
    createdAt := locale.timestamp row.createdAt
    updatedAt := locale.timestamp row.updatedAt }

def queryAll : List FileListItem :=
  (pageOf locale query true ((fileRows db query userId).map FileRow.narrow ++
    (folderRows db query userId).map FolderRow.narrow)).map (joinAll locale db)

def fileItem (row : PageRow) : FileListItem :=
  let file := db.files.find? fun file => file.id = row.id
  { id := row.id
    name := row.name
    type := "file"
    size := row.size
    mimeType := (file.bind FileRow.mimeType).getD ""
    hash := (file.map (contentHash db)).getD ""
    itemCount := 0
    createdAt := locale.timestamp row.createdAt
    updatedAt := locale.timestamp row.updatedAt }

def folderItem (row : PageRow) : FileListItem where
  id := row.id
  name := row.name
  type := "folder"
  size := 0
  mimeType := ""
  hash := ""
  itemCount := ((db.folders.find? fun folder => folder.id = row.id).map FolderRow.itemCount).getD 0
  createdAt := locale.timestamp row.createdAt
  updatedAt := locale.timestamp row.updatedAt

def queryFiles : List FileListItem :=
  (pageOf locale query false ((fileRows db query userId).map FileRow.narrow)).map (fileItem locale db)

def queryFolders : List FileListItem :=
  (pageOf locale query false ((folderRows db query userId).map FolderRow.narrow)).map (folderItem locale db)

/-- A count is cut to 32 bits. -/
def countFiles : Int32 := Int32.ofNat (fileRows db query userId).length

def countFolders : Int32 := Int32.ofNat (folderRows db query userId).length

def folderFound : Bool :=
  db.folders.any fun folder => folder.id = query.parentId && folder.userId = userId

def buildResponse (total : Int32) (items : List FileListItem) : FileListResponse where
  items := items
  pagination :=
    { page := query.page
      pageSize := query.pageSize
      total := total
      totalPages :=
        if 0 < query.pageSize then (total + query.pageSize - 1) / query.pageSize else 0 }

def listedRows : List PageRow :=
  match query.type with
  | .all => (fileRows db query userId).map FileRow.narrow ++ (folderRows db query userId).map FolderRow.narrow
  | .file => (fileRows db query userId).map FileRow.narrow
  | .folder => (folderRows db query userId).map FolderRow.narrow

def listedItem : PageRow → FileListItem :=
  match query.type with
  | .all => joinAll locale db
  | .file => fileItem locale db
  | .folder => folderItem locale db

def listedTotal : Int32 :=
  match query.type with
  | .all => 0 + countFiles db query userId + countFolders db query userId
  | .file => countFiles db query userId
  | .folder => countFolders db query userId

def listOrder : PageRow → PageRow → Ordering := deterministicOrder locale query (query.type = .all)

def FileListQueryParams.turn (query : FileListQueryParams) (page size : Int32) : FileListQueryParams :=
  { query with page := page, pageSize := size }

def listFiles (order : Arrangement (AtMost (listOrder locale query))) (page size : Int32) : FileListResponse :=
  buildResponse (query.turn page size) (listedTotal db query userId)
    ((cut size.toInt.toNat (query.turn page size).offset (order.sort (listedRows db query userId))).map
      (listedItem locale db query))

end Queries

end DiskServer.Files
