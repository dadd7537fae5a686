import DiskServer.Construction.Files.FileList

namespace DiskServer.Files

section Requests

theorem ItemFilter.text_injective {type kind : ItemFilter} (same : type.text = kind.text) :
    type = kind := by
  cases type <;> cases kind <;> first | rfl | exact absurd same (by decide)

theorem SortBy.text_injective {column other : SortBy} (same : column.text = other.text) :
    column = other := by
  cases column <;> cases other <;> first | rfl | exact absurd same (by decide)

theorem SortOrder.text_injective {order direction : SortOrder} (same : order.text = direction.text) :
    order = direction := by
  cases order <;> cases direction <;> first | rfl | exact absurd same (by decide)

end Requests

section Codec

/-- What is left of an item after its form in the cache: the fields of its type. -/
def FileListItem.kept (item : FileListItem) : FileListItem :=
  if item.type = "file" then { item with itemCount := 0 }
  else { item with size := 0, mimeType := "", hash := "" }

def FileListResponse.kept (response : FileListResponse) : FileListResponse :=
  { response with items := response.items.map FileListItem.kept }

theorem asInt_number (value : Int32) : asInt (.number value.toInt) = .ok value := by
  have bounds : -2147483648 ≤ value.toInt ∧ value.toInt ≤ 2147483647 :=
    ⟨value.le_toInt, Int.le_of_lt_add_one value.toInt_lt⟩
  have read : asInt (.number value.toInt) = .ok (Int32.ofInt value.toInt) := if_pos bounds
  rw [read, Int32.ofInt_toInt]

theorem asUInt64_number (value : UInt64) :
    (Json.number (value.toNat : Int)).asUInt64 = .ok value.toNat := by
  simp [Json.asUInt64]

theorem asUInt64_zero : (Json.number 0).asUInt64 = .ok 0 := rfl

theorem asInt_zero : asInt (.number 0) = .ok 0 := rfl

/-- An item is read back with the fields of its type. -/
theorem FileListItem.fromJson_toJson (item : FileListItem) :
    FileListItem.fromJson item.toJson = .ok item.kept := by
  obtain ⟨id, name, type, size, mimeType, hash, itemCount, createdAt, updatedAt⟩ := item
  by_cases file : type = "file"
  · simp [FileListItem.fromJson, FileListItem.toJson, FileListItem.kept, file, Json.get,
      asUInt64_number, Json.asString, asInt_zero, bind, Except.bind, pure, Except.pure]
  · simp [FileListItem.fromJson, FileListItem.toJson, FileListItem.kept, file, Json.get,
      asUInt64_number, asUInt64_zero, Json.asString, asInt_number, bind, Except.bind, pure,
      Except.pure]

theorem Pagination.fromJson_toJson (items : Json) (pagination : Pagination) :
    Pagination.fromJson (.object [("items", items), ("pagination", pagination.toJson)]) =
      .ok pagination := by
  obtain ⟨page, pageSize, total, totalPages⟩ := pagination
  simp [Pagination.fromJson, Pagination.toJson, Json.isMember, Json.field, Json.get, Json.isObject,
    asInt_number, bind, Except.bind, pure, Except.pure]

theorem fromJson_items (items : List FileListItem) :
    (items.map FileListItem.toJson).mapM FileListItem.fromJson =
      .ok (items.map FileListItem.kept) := by
  induction items with
  | nil => rfl
  | cons item rest ih =>
      rw [List.map_cons, List.mapM_cons, FileListItem.fromJson_toJson, ih]
      rfl

/-- A response is read back with the fields that the types of its items have. -/
theorem FileListResponse.fromJson_toJson (response : FileListResponse) :
    FileListResponse.fromJson response.toJson = .ok response.kept := by
  have items : (response.toJson.field "items").elements = response.items.map FileListItem.toJson := by
    simp [FileListResponse.toJson, Json.field, Json.get, Json.elements]
  unfold FileListResponse.fromJson
  rw [items, fromJson_items]
  unfold FileListResponse.toJson
  rw [Pagination.fromJson_toJson]
  rfl

end Codec

section Queries

variable {locale : Locale} {db : ListingDb} {query : FileListQueryParams} {userId : UInt64}

/-- An item has only the fields of its type. -/
def FileListItem.Plain (item : FileListItem) : Prop := item.kept = item

theorem FileListItem.plain_of_file {item : FileListItem} (file : item.type = "file")
    (count : item.itemCount = 0) : item.Plain := by
  unfold FileListItem.Plain FileListItem.kept
  rw [if_pos file, ← count]

theorem FileListItem.plain_of_folder {item : FileListItem} (folder : item.type = "folder")
    (size : item.size = 0) (mimeType : item.mimeType = "") (hash : item.hash = "") : item.Plain := by
  have other : item.type ≠ "file" := by
    rw [folder]
    decide
  obtain ⟨id, name, type, size, mimeType, hash, itemCount, createdAt, updatedAt⟩ := item
  subst size mimeType hash
  exact if_neg other

theorem mem_of_mem_pageOf {includeType : Bool} {rows : List PageRow} {row : PageRow}
    (present : row ∈ pageOf locale query includeType rows) : row ∈ rows :=
  List.mem_mergeSort.mp (List.mem_of_mem_drop (List.mem_of_mem_take present))

/-- The rows of a page come from files, which have a size, or from folders, which have none. -/
theorem joinAll_plain {row : PageRow} (present : row ∈ (fileRows db query userId).map FileRow.narrow ++
      (folderRows db query userId).map FolderRow.narrow) : (joinAll locale db row).Plain := by
  rcases List.mem_append.mp present with file | folder
  · obtain ⟨file, -, rfl⟩ := List.mem_map.mp file
    exact FileListItem.plain_of_file rfl rfl
  · obtain ⟨folder, -, rfl⟩ := List.mem_map.mp folder
    exact FileListItem.plain_of_folder rfl rfl rfl rfl

theorem queryAll_plain : ∀ item ∈ queryAll locale db query userId, item.Plain := by
  intro item present
  obtain ⟨row, paged, rfl⟩ := List.mem_map.mp present
  exact joinAll_plain (mem_of_mem_pageOf paged)

theorem queryFiles_plain : ∀ item ∈ queryFiles locale db query userId, item.Plain := by
  intro item present
  obtain ⟨row, -, rfl⟩ := List.mem_map.mp present
  exact FileListItem.plain_of_file rfl rfl

theorem queryFolders_plain : ∀ item ∈ queryFolders locale db query userId, item.Plain := by
  intro item present
  obtain ⟨row, -, rfl⟩ := List.mem_map.mp present
  exact FileListItem.plain_of_folder rfl rfl rfl rfl

/-- A listing whose parts were each read from one of the database states. -/
inductive ListedFrom (locale : Locale) (states : ListingDb → Prop) (userId : UInt64)
    (query : FileListQueryParams) : FileListResponse → Prop
  | all (files folders page : ListingDb) (type : query.type = .all) (first : states files)
      (second : states folders) (third : states page) :
      ListedFrom locale states userId query
        (buildResponse query (countFiles files query userId + countFolders folders query userId)
          (queryAll locale page query userId))
  | file (files page : ListingDb) (type : query.type = .file) (first : states files)
      (second : states page) :
      ListedFrom locale states userId query
        (buildResponse query (countFiles files query userId) (queryFiles locale page query userId))
  | folder (folders page : ListingDb) (type : query.type = .folder) (first : states folders)
      (second : states page) :
      ListedFrom locale states userId query
        (buildResponse query (countFolders folders query userId)
          (queryFolders locale page query userId))

variable {states wider : ListingDb → Prop} {response : FileListResponse}

/-- A listing from some states is one from more states. -/
theorem ListedFrom.mono (listed : ListedFrom locale states userId query response)
    (wide : ∀ state, states state → wider state) : ListedFrom locale wider userId query response := by
  cases listed with
  | all files folders page type first second third =>
      exact .all files folders page type (wide _ first) (wide _ second) (wide _ third)
  | file files page type first second => exact .file files page type (wide _ first) (wide _ second)
  | folder folders page type first second =>
      exact .folder folders page type (wide _ first) (wide _ second)

theorem ListedFrom.plain (listed : ListedFrom locale states userId query response) :
    ∀ item ∈ response.items, item.Plain := by
  cases listed with
  | all => exact queryAll_plain
  | file => exact queryFiles_plain
  | folder => exact queryFolders_plain

/-- The cache gives back every listing that the queries compute. -/
theorem ListedFrom.fromJson_toJson (listed : ListedFrom locale states userId query response) :
    FileListResponse.fromJson response.toJson = .ok response := by
  have items : response.items.map FileListItem.kept = response.items :=
    (List.map_congr_left listed.plain).trans (List.map_id _)
  rw [FileListResponse.fromJson_toJson]
  unfold FileListResponse.kept
  rw [items]

end Queries

end DiskServer.Files
