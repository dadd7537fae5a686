import DiskServer.Library.Transition

/-
This file gives the drive store of the web client, the actions of its toolbar on the selected items, and
the requests of its view, whose responses arrive in any order.
-/

namespace DiskServer.Clients.Drive

open Library

section Items

inductive FileItemType where
  | file
  | folder
  deriving DecidableEq, Repr

structure FileItem where
  id : Nat
  name : String
  type : FileItemType
  updatedAt : String
  deriving DecidableEq, Repr

/-- Files and folders take their ids from different sequences. -/
def FileItem.Differs (item other : FileItem) : Prop := item.type ≠ other.type ∨ item.id ≠ other.id

/-- The items of one page. No two items of one type have one id. -/
structure Listing where
  items : List FileItem
  distinct : items.Pairwise FileItem.Differs

theorem no_items_differ : ([] : List FileItem).Pairwise FileItem.Differs := List.Pairwise.nil

def Listing.empty : Listing := ⟨[], no_items_differ⟩

def Listing.filter (listing : Listing) (keep : FileItem → Bool) : Listing :=
  ⟨listing.items.filter keep, listing.distinct.filter keep⟩

structure Pagination where
  page : Nat
  pageSize : Nat
  total : Nat
  totalPages : Nat
  deriving DecidableEq, Repr

structure BreadcrumbItem where
  id : Nat
  name : String
  deriving DecidableEq, Repr

inductive SortOrder where
  | asc
  | desc
  deriving DecidableEq, Repr

structure DriveStore where
  files : Listing
  currentFolderId : Nat
  breadcrumbs : List BreadcrumbItem
  searchQuery : String
  searchResults : List FileItem
  sortBy : String
  sortOrder : SortOrder
  filterType : String
  pagination : Option Pagination
  selectedIds : List Nat

def DriveStore.fresh : DriveStore :=
  { files := .empty
    currentFolderId := 0
    breadcrumbs := []
    searchQuery := ""
    searchResults := []
    sortBy := "updated_at"
    sortOrder := .desc
    filterType := "all"
    pagination := none
    selectedIds := [] }

end Items

section Selection

variable (store : DriveStore)

def setSelection (ids : List Nat) : DriveStore := { store with selectedIds := ids }

def clearSelection : DriveStore := { store with selectedIds := [] }

def onSelectionChange (items : List FileItem) : DriveStore :=
  setSelection store (items.map FileItem.id)

def selectedItems : List FileItem :=
  store.files.items.filter fun item => item.id ∈ store.selectedIds

def canRename : Bool := (selectedItems store).length = 1

structure SplitIds where
  fileIds : List Nat
  folderIds : List Nat
  deriving DecidableEq, Repr

def splitSelectedIds : SplitIds :=
  ⟨((selectedItems store).filter fun item => item.type = .file).map FileItem.id,
    ((selectedItems store).filter fun item => item.type ≠ .file).map FileItem.id⟩

structure BatchRequest where
  fileIds : Option (List Nat)
  folderIds : Option (List Nat)
  targetFolderId : Option Nat
  deriving DecidableEq, Repr

def batchRequest (targetFolderId : Option Nat) : BatchRequest :=
  let ids := splitSelectedIds store
  { fileIds := if 0 < ids.fileIds.length then some ids.fileIds else none
    folderIds := if 0 < ids.folderIds.length then some ids.folderIds else none
    targetFolderId := targetFolderId }

def moveRequest (targetFolderId : Nat) : BatchRequest := batchRequest store (some targetFolderId)

def copyRequest (targetFolderId : Nat) : BatchRequest := batchRequest store (some targetFolderId)

def deleteRequest : Option BatchRequest :=
  if (selectedItems store).length = 0 then none else some (batchRequest store none)

def updatePaginationTotal (delta : Int) : DriveStore :=
  { store with
    pagination := store.pagination.map fun pagination =>
      let total := (max 0 ((pagination.total : Int) + delta)).toNat
      { pagination with
        total := total
        totalPages := if 0 < pagination.pageSize then
          (total + pagination.pageSize - 1) / pagination.pageSize else 0 } }

def applyItemsRemoved (ids : List Nat) : DriveStore :=
  let removedCount := (store.files.items.filter fun item => item.id ∈ ids).length
  updatePaginationTotal
    { store with
      files := store.files.filter fun item => item.id ∉ ids
      selectedIds := store.selectedIds.filter fun id => id ∉ ids }
    (-removedCount)

def afterRemoval : DriveStore :=
  applyItemsRemoved store ((splitSelectedIds store).fileIds ++ (splitSelectedIds store).folderIds)

structure RenameRequest where
  type : FileItemType
  id : Nat
  newName : String
  deriving DecidableEq, Repr

def renameRequest (newName : String) : Option RenameRequest :=
  if canRename store then
    match (selectedItems store).head? with
    | none => none
    | some item =>
        if newName = "" ∨ newName = item.name then none else some ⟨item.type, item.id, newName⟩
  else none

def FileItem.renamed (item : FileItem) (name updatedAt : String) : FileItem :=
  { item with name := name, updatedAt := updatedAt }

theorem renamed_differ {items : List FileItem} (change : FileItem → Bool) (name updatedAt : String)
    (distinct : items.Pairwise FileItem.Differs) :
    (items.map fun item => if change item then item.renamed name updatedAt else item).Pairwise
      FileItem.Differs := by
  apply List.Pairwise.map _ _ distinct
  intro item other differ
  split <;> split <;> exact differ

def applyItemRename (id : Nat) (name updatedAt : String) : DriveStore :=
  { store with
    files := ⟨store.files.items.map fun item =>
      if decide (item.id = id) then item.renamed name updatedAt else item,
      renamed_differ (fun item => decide (item.id = id)) name updatedAt store.files.distinct⟩ }

end Selection

section View

structure ListQuery where
  parentId : Option Nat
  sortBy : String
  sortOrder : SortOrder
  page : Nat
  pageSize : Nat
  type : Option String
  deriving DecidableEq, Repr

def ListQuery.folder (query : ListQuery) : Nat := query.parentId.getD 0

structure SearchQuery where
  keyword : String
  type : Option String
  folderId : Option Nat
  deriving DecidableEq, Repr

structure FileListResponse where
  items : Listing
  pagination : Pagination

/-- What the server answers to a query depends on the moment at which it answers. -/
structure DriveServer where
  listFiles : Nat → ListQuery → FileListResponse
  getBreadcrumb : Nat → Nat → List BreadcrumbItem
  searchFiles : Nat → SearchQuery → List FileItem

inductive Pending where
  | listFiles (query : ListQuery)
  | getBreadcrumb (folderId : Nat)
  | searchFiles (query : SearchQuery)
  deriving DecidableEq, Repr

inductive ViewPart where
  | files
  | breadcrumbs
  | searchResults
  deriving DecidableEq

def Pending.part : Pending → ViewPart
  | .listFiles _ => .files
  | .getBreadcrumb _ => .breadcrumbs
  | .searchFiles _ => .searchResults

/-- The store and the requests whose responses have not arrived. The last field remembers the requests
whose responses the parts hold. -/
structure DriveView where
  store : DriveStore
  pending : List Pending
  loaded : List Pending

def DriveView.fresh : DriveView := ⟨.fresh, [], []⟩

def DriveView.forget (view : DriveView) (part : ViewPart) : DriveView :=
  { view with loaded := view.loaded.filter fun request => request.part ≠ part }

def DriveView.ask (view : DriveView) (request : Pending) : DriveView :=
  { view with pending := view.pending ++ [request] }

def listQuery (store : DriveStore) (page : Option Nat) : ListQuery :=
  { parentId := if store.currentFolderId = 0 then none else some store.currentFolderId
    sortBy := store.sortBy
    sortOrder := store.sortOrder
    page := (page.or (store.pagination.map Pagination.page)).getD 1
    pageSize := (store.pagination.map Pagination.pageSize).getD 20
    type := if store.filterType ≠ "" ∧ store.filterType ≠ "all" then some store.filterType else none }

def fetchFiles (page : Option Nat) (view : DriveView) : DriveView :=
  view.ask (.listFiles (listQuery view.store page))

def fetchBreadcrumb (view : DriveView) : DriveView :=
  if view.store.currentFolderId = 0 then
    { view.forget .breadcrumbs with store := { view.store with breadcrumbs := [] } }
  else view.ask (.getBreadcrumb view.store.currentFolderId)

def navigateToFolder (folderId : Nat) (view : DriveView) : DriveView :=
  fetchBreadcrumb (fetchFiles (some 1)
    { view with store := { view.store with currentFolderId := folderId } })

def clearSearch (view : DriveView) : DriveView :=
  { view.forget .searchResults with
    store := { view.store with searchQuery := "", searchResults := [] } }

def isSpace (character : Char) : Bool :=
  let code := character.toNat
  (9 ≤ code && code ≤ 13) || (0x2000 ≤ code && code ≤ 0x200A) ||
    [0x20, 0xA0, 0x1680, 0x2028, 0x2029, 0x202F, 0x205F, 0x3000, 0xFEFF].contains code

def isBlank (keyword : String) : Bool := keyword.toList.all isSpace

def searchFiles (keyword : String) (type : Option String) (folderId : Nat) (view : DriveView) :
    DriveView :=
  if isBlank keyword then clearSearch view
  else
    ({ view with store := { view.store with searchQuery := keyword } } : DriveView).ask
      (.searchFiles
        { keyword := keyword
          type := type.filter fun type => type ≠ "" ∧ type ≠ "all"
          folderId := if folderId = 0 then none else some folderId })

/-- The folder tree is fetched beside these and is left out. -/
def refreshCurrentView (view : DriveView) : DriveView :=
  fetchBreadcrumb (fetchFiles (some ((view.store.pagination.map Pagination.page).getD 1)) view)

def receive (server : DriveServer) (moment : Nat) (store : DriveStore) : Pending → DriveStore
  | .listFiles query =>
      let result := server.listFiles moment query
      clearSelection { store with files := result.items, pagination := some result.pagination }
  | .getBreadcrumb folderId => { store with breadcrumbs := server.getBreadcrumb moment folderId }
  | .searchFiles query => { store with searchResults := server.searchFiles moment query }

inductive DriveCall where
  | navigateToFolder (folderId : Nat)
  | fetchFiles (page : Option Nat)
  | searchFiles (keyword : String) (type : Option String) (folderId : Nat)
  | clearSearch
  | refreshCurrentView
  | setSortBy (field : String)
  | setSortOrder (order : SortOrder)
  | setFilterType (type : String)

def call (view : DriveView) : DriveCall → DriveView
  | .navigateToFolder folderId => navigateToFolder folderId view
  | .fetchFiles page => fetchFiles page view
  | .searchFiles keyword type folderId => searchFiles keyword type folderId view
  | .clearSearch => clearSearch view
  | .refreshCurrentView => refreshCurrentView view
  | .setSortBy field => { view with store := { view.store with sortBy := field } }
  | .setSortOrder order => { view with store := { view.store with sortOrder := order } }
  | .setFilterType type => { view with store := { view.store with filterType := type } }

/-- A response says at which moment the server has answered; a request may also fail. -/
inductive DriveAction where
  | call (call : DriveCall)
  | respond (index moment : Nat)
  | fail (index : Nat)

def driveStep (server : DriveServer) (view : DriveView) : DriveAction → Option DriveView
  | .call made => some (call view made)
  | .respond index moment =>
      view.pending[index]?.map fun request =>
        { store := receive server moment view.store request
          pending := view.pending.eraseIdx index
          loaded := request :: (view.forget request.part).loaded }
  | .fail index =>
      if index < view.pending.length then some { view with pending := view.pending.eraseIdx index }
      else none

def driveSystem (server : DriveServer) : TransitionSystem DriveView DriveAction where
  initial := fun view => view = .fresh
  step := driveStep server

end View

end DiskServer.Clients.Drive
