import DiskServer.Construction.Admin.ListUsers
import DiskServer.Construction.Drive.TrashList
import DiskServer.Proof.Files.Search
import DiskServer.Proof.Shares.ShareList

namespace DiskServer.Files

open Library

section FileLists

variable (locale : Locale) (db : ListingDb) (query : FileListQueryParams) (userId : UInt64)

/-- The keys of the tables are distinct. -/
structure Keyed (db : ListingDb) : Prop where
  files : (db.files.map FileRow.id).Nodup
  folders : (db.folders.map FolderRow.id).Nodup

def fileListing : Listing FileListItem (AtMost (listOrder locale query)) where
  rows := listedRows db query userId
  item := listedItem locale db query
  offset := fun page size => (query.turn page size).offset
  answer := fun order page size =>
    let response := listFiles locale db query userId order page size
    some (response.items, response.pagination.totalPages.toInt)

end FileLists

section Wide

variable {page size : Int32}

/-- An offset of 64 bits is exact. -/
theorem wideOffset (first : 1 ≤ page) (positive : 0 < size) :
    ((((page.toInt - 1) * size.toInt).toNat : Nat) : Int) = (page.toInt - 1) * size.toInt := by
  have least : 1 ≤ page.toInt := Int32.le_iff_toInt_le.mp first
  have one : 0 < size.toInt := Int32.lt_iff_toInt_lt.mp positive
  exact Int.toNat_of_nonneg (Int.mul_nonneg (by omega) one.le)

theorem few_of_fits {count : Nat} (positive : 0 < size) (fits : (count : Int) + size.toInt ≤ 2147483648) :
    count < 2147483648 := by
  have one : 0 < size.toInt := Int32.lt_iff_toInt_lt.mp positive
  omega

theorem totalPages_iff {count : Nat} (positive : 0 < size) :
    some (totalPages32 (Int32.ofNat count) size).toInt = some ((pageCount size.toInt.toNat count : Nat) : Int) ↔
      (count : Int) + size.toInt ≤ 2147483648 := by
  rw [Option.some_inj]
  exact totalPages32_toInt_iff positive

/-- Rows of two tables differ by their type or by the key of their table. -/
theorem nodup_tagged {Row : Type} {files folders : List Row} (type : Row → String) (id : Row → UInt64)
    (file : ∀ row ∈ files, type row = "file") (folder : ∀ row ∈ folders, type row = "folder")
    (one : (files.map id).Nodup) (two : (folders.map id).Nodup) :
    ((files ++ folders).map fun row => (type row, id row)).Nodup := by
  have pairs : ∀ rows : List Row, (rows.map id).Nodup → (rows.map fun row => (type row, id row)).Nodup := by
    intro rows once
    apply List.Nodup.of_map Prod.snd
    rw [List.map_map]
    exact once
  rw [List.map_append, List.nodup_append]
  refine ⟨pairs files one, pairs folders two, ?_⟩
  rintro first here second there rfl
  obtain ⟨row, inFiles, rfl⟩ := List.mem_map.mp here
  obtain ⟨other, inFolders, same⟩ := List.mem_map.mp there
  have types : type other = type row := congrArg Prod.fst same
  rw [file row inFiles, folder other inFolders] at types
  exact absurd types (by decide)

end Wide

section FilePages

variable {locale : Locale} {db : ListingDb} {query : FileListQueryParams} {userId : UInt64} {page size : Int32}

/-- The order of a listing is transitive. -/
theorem listOrder_trans (lawful : Std.TransCmp locale.collation) (query : FileListQueryParams) :
    Std.TransCmp (listOrder locale query) := by
  have numbers : Std.TransCmp (compare : UInt64 → UInt64 → Ordering) := inferInstance
  have times : Std.TransCmp (compare : Int → Int → Ordering) := inferInstance
  have column : Std.TransCmp (sortColumn locale query) := by
    unfold sortColumn
    cases query.sortBy with
    | name => exact transCmp_comap lawful PageRow.name
    | size => exact transCmp_comap numbers PageRow.size
    | createdAt => exact transCmp_comap times PageRow.createdAt
    | updatedAt => exact transCmp_comap times PageRow.updatedAt
  have optional : ∀ (wanted : Prop) [Decidable wanted] (text : PageRow → String), Std.TransCmp fun first second =>
      if wanted then locale.collation (text first) (text second) else .eq := by
    intro wanted _ text
    by_cases chosen : wanted
    · simp only [if_pos chosen]
      exact transCmp_comap lawful text
    · simp only [if_neg chosen]
      exact transCmp_eq
  have ids : Std.TransCmp fun first second : PageRow => compare first.id second.id :=
    transCmp_comap numbers PageRow.id
  have whole := transCmp_then column (transCmp_then (optional (query.sortBy ≠ .name) PageRow.name)
    (transCmp_then (optional ((decide (query.type = .all)) = true) PageRow.type) ids))
  unfold listOrder deterministicOrder
  cases query.sortOrder with
  | asc => exact whole
  | desc => exact transCmp_swap whole

/-- Type and id tell the rows of a listing apart. -/
theorem listedRows_keys (keyed : Keyed db) :
    ((listedRows db query userId).map fun row => (row.type, row.id)).Nodup := by
  have files : (((fileRows db query userId).map FileRow.narrow).map PageRow.id).Nodup := by
    rw [List.map_map]
    exact (List.filter_sublist.map FileRow.id).nodup keyed.files
  have folders : (((folderRows db query userId).map FolderRow.narrow).map PageRow.id).Nodup := by
    rw [List.map_map]
    exact (List.filter_sublist.map FolderRow.id).nodup keyed.folders
  have file : ∀ row ∈ (fileRows db query userId).map FileRow.narrow, row.type = "file" := by
    intro row listed
    obtain ⟨_, -, rfl⟩ := List.mem_map.mp listed
    rfl
  have folder : ∀ row ∈ (folderRows db query userId).map FolderRow.narrow, row.type = "folder" := by
    intro row listed
    obtain ⟨_, -, rfl⟩ := List.mem_map.mp listed
    rfl
  have none : ∀ row ∈ ([] : List PageRow), row.type = "folder" := fun _ empty => absurd empty List.not_mem_nil
  have missing : ∀ row ∈ ([] : List PageRow), row.type = "file" := fun _ empty => absurd empty List.not_mem_nil
  unfold listedRows
  cases query.type with
  | all => exact nodup_tagged PageRow.type PageRow.id file folder files folders
  | file =>
      have alone := nodup_tagged PageRow.type PageRow.id file none files List.nodup_nil
      rwa [List.append_nil] at alone
  | folder => exact nodup_tagged PageRow.type PageRow.id missing folder List.nodup_nil folders

variable (locale) in
theorem listedItem_keys {row : PageRow} (listed : row ∈ listedRows db query userId) :
    (listedItem locale db query row).type = row.type ∧ (listedItem locale db query row).id = row.id := by
  unfold listedRows at listed
  unfold listedItem
  cases type : query.type with
  | all => exact ⟨rfl, rfl⟩
  | file =>
      rw [type] at listed
      obtain ⟨_, -, rfl⟩ := List.mem_map.mp listed
      exact ⟨rfl, rfl⟩
  | folder =>
      rw [type] at listed
      obtain ⟨_, -, rfl⟩ := List.mem_map.mp listed
      exact ⟨rfl, rfl⟩

theorem listedItems_distinct (keyed : Keyed db) :
    ((listedRows db query userId).map (listedItem locale db query)).Nodup := by
  apply List.Nodup.of_map fun item => (item.type, item.id)
  rw [List.map_map]
  have same : (listedRows db query userId).map ((fun item => (item.type, item.id)) ∘ listedItem locale db query) =
      (listedRows db query userId).map fun row => (row.type, row.id) := by
    apply List.map_congr_left
    intro row listed
    obtain ⟨type, id⟩ := listedItem_keys locale listed
    exact Prod.ext type id
  rw [same]
  exact listedRows_keys keyed

theorem listedTotal_eq : listedTotal db query userId = Int32.ofNat (listedRows db query userId).length := by
  unfold listedTotal listedRows countFiles countFolders
  cases query.type <;> simp

/-- Rows with one type and one id are the same row. -/
theorem listOrder_eq (lawful : Std.LawfulEqCmp locale.collation) (keyed : Keyed db) :
    ∀ one ∈ listedRows db query userId, ∀ two ∈ listedRows db query userId,
      listOrder locale query one two = .eq → one = two := by
  intro one first two second same
  have whole : (sortColumn locale query one two).then
      ((if query.sortBy ≠ .name then locale.collation one.name two.name else .eq).then
        ((if (decide (query.type = .all)) = true then locale.collation one.type two.type else .eq).then
          (compare one.id two.id))) = .eq := by
    unfold listOrder deterministicOrder at same
    cases order : query.sortOrder with
    | asc =>
        rw [order] at same
        exact same
    | desc =>
        rw [order] at same
        exact Ordering.swap_eq_eq.mp same
  rw [Ordering.then_eq_eq, Ordering.then_eq_eq, Ordering.then_eq_eq] at whole
  obtain ⟨-, -, types, ids⟩ := whole
  have id : one.id = two.id := Std.LawfulEqCmp.eq_of_compare ids
  have type : one.type = two.type := by
    cases filter : query.type with
    | all =>
        rw [filter] at types
        exact Std.LawfulEqCmp.eq_of_compare types
    | file =>
        unfold listedRows at first second
        rw [filter] at first second
        obtain ⟨_, -, rfl⟩ := List.mem_map.mp first
        obtain ⟨_, -, rfl⟩ := List.mem_map.mp second
        rfl
    | folder =>
        unfold listedRows at first second
        rw [filter] at first second
        obtain ⟨_, -, rfl⟩ := List.mem_map.mp first
        obtain ⟨_, -, rfl⟩ := List.mem_map.mp second
        rfl
  exact List.inj_on_of_nodup_map (listedRows_keys keyed) first second (Prod.ext type id)

/-- Every order that the database chooses is the one of the queries. -/
theorem listFiles_eq (trans : Std.TransCmp locale.collation) (lawful : Std.LawfulEqCmp locale.collation)
    (keyed : Keyed db) (order : Arrangement (AtMost (listOrder locale query))) (page size : Int32) :
    (listFiles locale db query userId order page size).items =
      match query.type with
      | .all => queryAll locale db (query.turn page size) userId
      | .file => queryFiles locale db (query.turn page size) userId
      | .folder => queryFolders locale db (query.turn page size) userId := by
  have sorted : order.sort (listedRows db query userId) = (listedRows db query userId).mergeSort fun first second =>
      (listOrder locale query first second).isLE := by
    have transitive := listOrder_trans trans query
    have stable := List.mergeSort_perm (listedRows db query userId) fun first second =>
      (listOrder locale query first second).isLE
    have decided : (fun first second => (listOrder locale query first second).isLE) = fun first second =>
        decide (AtMost (listOrder locale query) first second) := by
      funext first second
      exact Bool.decide_eq_true.symm
    have ordered := List.pairwise_mergeSort' (AtMost (listOrder locale query)) (listedRows db query userId)
    rw [← decided] at ordered
    apply List.Perm.eq_of_pairwise _ (order.ordered _) ordered ((order.perm _).trans stable.symm)
    intro one two first second below above
    exact listOrder_eq lawful keyed one ((order.perm _).mem_iff.mp first) two (List.mem_mergeSort.mp second)
      (AtMost.eq_of_both below above)
  unfold listFiles buildResponse
  rw [sorted]
  unfold listedRows listedItem listOrder
  cases type : query.type <;> rfl

/-- Two files of one size. -/
def evenFiles : ListingDb :=
  ⟨[⟨1, 7, 1, 0, "b.txt", 4, none, 0, 0⟩, ⟨2, 7, 1, 0, "a.txt", 4, none, 0, 0⟩], [], []⟩

/-- Two files of one size are told apart by their names. -/
theorem listFiles_eq_even : ∃ order,
    (listFiles textLocale evenFiles ⟨0, 1, 1, .size, .desc, .file⟩ 7 order 1 1).items.map FileListItem.name =
      ["b.txt"] := by
  have trans : Std.TransCmp textLocale.collation :=
    inferInstanceAs (Std.TransCmp (compare : String → String → Ordering))
  have lawful : Std.LawfulEqCmp textLocale.collation :=
    inferInstanceAs (Std.LawfulEqCmp (compare : String → String → Ordering))
  have ordered := listOrder_trans trans ⟨0, 1, 1, .size, .desc, .file⟩
  refine ⟨Arrangement.stable _, ?_⟩
  rw [listFiles_eq trans lawful ⟨by decide, by decide⟩]
  simp only [queryFiles, pageOf]
  rw [List.mergeSort_of_pairwise (by decide +kernel)]
  rfl

/-- The list of a folder cuts its rows into pages. -/
theorem fileListing_cuts (keyed : Keyed db) (positive : 0 < size) :
    (fileListing locale db query userId).Cuts (fun _ => True)
      (((listedRows db query userId).length : Int) + size.toInt ≤ 2147483648) size where
  least := fun _ _ => trivial
  offset_iff := fun page first => iff_of_true (wideOffset first positive) trivial
  answer := by
    refine ⟨some (totalPages32 (Int32.ofNat (listedRows db query userId).length) size).toInt,
      totalPages_iff positive, ?_⟩
    intro order page first _
    rw [← listedTotal_eq]
    rfl
  few := few_of_fits positive
  distinct := listedItems_distinct keyed

end FilePages

section SearchPages

variable {search : TextSearch} {locale : Locale} {db : SearchDb} {query : SearchQueryParams} {userId : UInt64}
variable {size : Int32}

def SearchQueryParams.turn (query : SearchQueryParams) (page size : Int32) : SearchQueryParams :=
  { query with page := page, pageSize := size }

variable (search locale db query userId) in
def searchListing : Listing SearchResultItem (AtMost (searchOrder locale query.type)) where
  rows := matching search db query userId
  item := joinRow locale db
  offset := fun page size => (query.turn page size).offset
  answer := fun order page size =>
    let response := execute search locale db (query.turn page size) userId order
    some (response.items, response.pagination.totalPages.toInt)

theorem offered_keys : ((offered db query userId).map fun row => (row.type, row.id)).Nodup := by
  unfold offered
  apply nodup_tagged SearchRow.type SearchRow.id
  · intro row listed
    split at listed
    · cases listed
    · obtain ⟨_, -, rfl⟩ := List.mem_map.mp listed
      rfl
  · intro row listed
    split at listed
    · cases listed
    · obtain ⟨_, -, rfl⟩ := List.mem_map.mp listed
      rfl
  · split
    · exact List.nodup_nil
    · rw [List.map_map]
      exact (List.filter_sublist.map _).nodup db.files.distinct
  · split
    · exact List.nodup_nil
    · rw [List.map_map]
      exact (List.filter_sublist.map _).nodup db.folders.distinct

/-- Type and id tell the matches apart. -/
theorem matching_keys : ((matching search db query userId).map fun row => (row.type, row.id)).Nodup :=
  (List.filter_sublist.map _).nodup offered_keys

theorem searchItems_distinct : ((matching search db query userId).map (joinRow locale db)).Nodup := by
  apply List.Nodup.of_map fun item => (item.type, item.id)
  rw [List.map_map]
  have same : (matching search db query userId).map ((fun item => (item.type, item.id)) ∘ joinRow locale db) =
      (matching search db query userId).map fun row => (row.type, row.id) := by
    apply List.map_congr_left
    intro row listed
    obtain ⟨id, -, type⟩ := joinRow_row locale (List.mem_filter.mp listed).1
    exact Prod.ext type id
  rw [same]
  exact matching_keys

/-- The order of a search tells all matches apart. -/
theorem searchOrder_eq (lawful : Std.LawfulEqCmp locale.collation) :
    ∀ one ∈ matching search db query userId, ∀ two ∈ matching search db query userId,
      searchOrder locale query.type one two = .eq → one = two := by
  intro one first two second same
  unfold searchOrder at same
  rw [Ordering.then_eq_eq, Ordering.then_eq_eq] at same
  obtain ⟨-, types, ids⟩ := same
  have id : one.id = two.id := Std.LawfulEqCmp.eq_of_compare ids
  have type : one.type = two.type := by
    cases filter : query.type with
    | all =>
        rw [filter] at types
        exact Std.LawfulEqCmp.eq_of_compare types
    | file =>
        rw [matching_file filter] at first second
        obtain ⟨_, -, rfl⟩ := List.mem_map.mp first
        obtain ⟨_, -, rfl⟩ := List.mem_map.mp second
        rfl
    | folder =>
        rw [matching_folder filter] at first second
        obtain ⟨_, -, rfl⟩ := List.mem_map.mp first
        obtain ⟨_, -, rfl⟩ := List.mem_map.mp second
        rfl
  exact List.inj_on_of_nodup_map matching_keys first second (Prod.ext type id)

/-- The search cuts its matches into pages. -/
theorem searchListing_cuts (positive : 0 < size) : (searchListing search locale db query userId).Cuts (fun _ => True)
    (((matching search db query userId).length : Int) + size.toInt ≤ 2147483648) size where
  least := fun _ _ => trivial
  offset_iff := fun page first => iff_of_true (wideOffset first positive) trivial
  answer := by
    refine ⟨some (totalPages32 (Int32.ofNat (matching search db query userId).length) size).toInt,
      totalPages_iff positive, ?_⟩
    intro order page first _
    have items : (execute search locale db (query.turn page size) userId order).items = _ := execute_items
    have total : (execute search locale db (query.turn page size) userId order).pagination.total = _ := execute_total
    have pages : (execute search locale db (query.turn page size) userId order).pagination.totalPages =
        totalPages32 (execute search locale db (query.turn page size) userId order).pagination.total size := rfl
    change some ((execute search locale db (query.turn page size) userId order).items,
      (execute search locale db (query.turn page size) userId order).pagination.totalPages.toInt) = _
    rw [pages, total, items]
    rfl
  few := few_of_fits positive
  distinct := searchItems_distinct

end SearchPages

section TrashPages

variable {timestamp : Int → String} {trash : Table Drive.DatedTrash fun row => row.id} {userId : Nat} {size : Int32}

variable (timestamp trash userId) in
def trashListing : Listing Drive.TrashItemResponse (Descending Drive.DatedTrash.deletedAt) where
  rows := Drive.trashOf trash userId
  item := Drive.DatedTrash.response timestamp
  offset := fun page size => (offset32 page size).toInt
  answer := fun order page size =>
    match Drive.listTrash timestamp trash userId order ⟨page, size⟩ with
    | .value response => some (response.items, response.pagination.totalPages.toInt)
    | _ => none

/-- An exact offset is not negative. -/
theorem offset_not_negative {page : Int32} (first : 1 ≤ page) (positive : 0 < size)
    (exact : (offset32 page size).toInt = (page.toInt - 1) * size.toInt) : ¬offset32 page size < 0 := by
  have least : 1 ≤ page.toInt := Int32.le_iff_toInt_le.mp first
  have one : 0 < size.toInt := Int32.lt_iff_toInt_lt.mp positive
  rw [Int32.lt_iff_toInt_lt, exact]
  exact Int.not_lt.mpr (Int.mul_nonneg (by omega) one.le)

/-- Pages of a count that throws beyond its type. -/
theorem countedPages_iff {count : Nat} (positive : 0 < size) :
    ((if count < 2147483648 then some (Int32.ofNat count) else none).map fun total =>
      (totalPages32 total size).toInt) = some ((pageCount size.toInt.toNat count : Nat) : Int) ↔
        (count : Int) + size.toInt ≤ 2147483648 := by
  by_cases few : count < 2147483648
  · rw [if_pos few]
    exact totalPages_iff positive
  · rw [if_neg few]
    exact iff_of_false (fun wrong => by cases wrong) fun fits => few (few_of_fits positive fits)

/-- The list of the trash cuts its rows into pages. -/
theorem trashListing_cuts (positive : 0 < size) : (trashListing timestamp trash userId).Cuts (· < 2147483648)
    (((Drive.trashOf trash userId).length : Int) + size.toInt ≤ 2147483648) size where
  least := fun _ small => small
  offset_iff := fun page first => offset32_toInt_iff first positive
  answer := by
    refine ⟨_, countedPages_iff positive, ?_⟩
    intro order page first exact
    change (offset32 page size).toInt = _ at exact
    change (match Drive.listTrash timestamp trash userId order ⟨page, size⟩ with
      | .value response => some (response.items, response.pagination.totalPages.toInt)
      | _ => none) = _
    unfold Drive.listTrash Drive.trashServiceList Drive.fetchListPageForUser Drive.countForUser
    rw [if_neg (offset_not_negative first positive exact), exact]
    change _ = Option.map _ (Option.map _ (if (Drive.trashOf trash userId).length < 2147483648 then _ else _))
    by_cases few : (Drive.trashOf trash userId).length < 2147483648
    · simp only [if_pos few]
      rfl
    · simp only [if_neg few]
      rfl
  few := few_of_fits positive
  distinct := by
    apply List.Nodup.of_map Drive.TrashItemResponse.id
    rw [List.map_map]
    exact (List.filter_sublist.map _).nodup trash.distinct

end TrashPages

section SharePages

variable {now : Upload.Timestamp} {userId : Nat} {shares : Table Shares.OwnedShare fun share => share.shareCode}
variable {filter : Shares.StatusFilter} {size : Int32}

variable (now userId shares filter) in
def shareListing : Listing Shares.ShareItem (Descending Shares.OwnedShare.createdAt) where
  rows := Shares.matchingShares now userId shares.rows filter
  item := Shares.showShare now
  offset := fun page size => (Shares.ShareListRequest.mk filter page size).offset.toInt
  answer := fun order page size =>
    match Shares.listShares now userId shares.rows order ⟨filter, page, size⟩ with
    | .value response => some (response.items, response.pagination.totalPages.toInt)
    | _ => none

theorem sharePages_iff (positive : 0 < size) :
    ((Shares.countShares now userId shares.rows filter).map fun total => (totalPages32 total size).toInt) =
      some ((pageCount size.toInt.toNat (Shares.matchingShares now userId shares.rows filter).length : Nat) : Int) ↔
        ((Shares.matchingShares now userId shares.rows filter).length : Int) + size.toInt ≤ 2147483648 := by
  unfold Shares.countShares
  cases filter with
  | active => exact countedPages_iff positive
  | all => exact totalPages_iff positive
  | expired => exact totalPages_iff positive
  | cancelled => exact totalPages_iff positive

/-- The list of shares cuts its rows into pages. -/
theorem shareListing_cuts (positive : 0 < size) : (shareListing now userId shares filter).Cuts (· < 2147483648)
    (((Shares.matchingShares now userId shares.rows filter).length : Int) + size.toInt ≤ 2147483648) size where
  least := fun _ small => small
  offset_iff := fun page first => offset32_toInt_iff first positive
  answer := by
    refine ⟨_, sharePages_iff positive, ?_⟩
    intro order page first exact
    change (offset32 page size).toInt = _ at exact
    have kept : ¬(Shares.ShareListRequest.mk filter page size).offset < 0 := offset_not_negative first positive exact
    have place : (Shares.ShareListRequest.mk filter page size).offset.toInt = _ := exact
    change (match Shares.listShares now userId shares.rows order ⟨filter, page, size⟩ with
      | .value response => some (response.items, response.pagination.totalPages.toInt)
      | _ => none) = _
    unfold Shares.listShares
    cases Shares.countShares now userId shares.rows filter with
    | none => rfl
    | some total =>
        simp only [if_neg kept, place]
        rfl
  few := few_of_fits positive
  distinct := Shares.nodup_show filter

end SharePages

section UserPages

variable {timestamp : Int → String} {conditions : List Admin.Condition}
variable {users : Table Admin.UserRecord fun user => user.id} {request : Admin.ListUsersRequest} {size : Int32}

/-- The request for another page. -/
def turnUsers (request : Admin.ListUsersRequest) (page size : Int32) : Admin.ListUsersRequest :=
  { request with page := page.toInt, pageSize := size.toInt }

variable (timestamp conditions users request) in
def userListing : Listing Admin.UserDetailResponse (Descending Admin.UserRecord.createdAt) where
  rows := Admin.selectUsers conditions users.rows
  item := Admin.UserRecord.response timestamp
  offset := fun page size => (turnUsers request page size).offset
  answer := fun order page size =>
    (Admin.listUsersPage timestamp conditions users.rows order (turnUsers request page size)).map fun response =>
      (response.items, (response.pagination.totalPages : Int))

theorem userPages_iff {count : Nat} (positive : 0 < size) (most : size ≤ 100) :
    (if count < 2147483648 then some ((Binary64.ceilQuotient count size.toInt.toNat : Nat) : Int) else none) =
      some ((pageCount size.toInt.toNat count : Nat) : Int) ↔ count < 2147483648 := by
  have one : 0 < size.toInt := Int32.lt_iff_toInt_lt.mp positive
  have bound : size.toInt ≤ 100 := Int32.le_iff_toInt_le.mp most
  by_cases few : count < 2147483648
  · rw [if_pos few, Binary64.ceilQuotient_eq (by omega) (by omega) (by omega)]
    exact iff_of_true rfl few
  · rw [if_neg few]
    exact iff_of_false (fun wrong => by cases wrong) few

/-- The list of users cuts its rows into pages. -/
theorem userListing_cuts (positive : 0 < size) (most : size ≤ 100) :
    (userListing timestamp conditions users request).Cuts (fun _ => True)
      ((Admin.selectUsers conditions users.rows).length < 2147483648) size where
  least := fun _ _ => trivial
  offset_iff := fun page first => iff_of_true (wideOffset first positive) trivial
  answer := by
    refine ⟨_, userPages_iff positive most, ?_⟩
    intro order page first _
    change Option.map _ (Admin.listUsersPage timestamp conditions users.rows order (turnUsers request page size)) =
      Option.map _ (if (Admin.selectUsers conditions users.rows).length < 2147483648 then _ else _)
    unfold Admin.listUsersPage
    by_cases few : (Admin.selectUsers conditions users.rows).length < 2147483648
    · simp only [if_pos few]
      rfl
    · simp only [if_neg few]
      rfl
  few := id
  distinct := by
    apply List.Nodup.of_map Admin.UserDetailResponse.id
    rw [List.map_map]
    exact (List.filter_sublist.map _).nodup users.distinct

end UserPages

section Partition

/-- What the five lists read, and the filters that they are asked for. -/
structure ListContents where
  locale : Locale
  trans : Std.TransCmp locale.collation
  lawful : Std.LawfulEqCmp locale.collation
  listing : ListingDb
  keyed : Keyed listing
  listQuery : FileListQueryParams
  search : TextSearch
  searched : SearchDb
  searchQuery : SearchQueryParams
  userId : UInt64
  timestamp : Int → String
  trash : Table Drive.DatedTrash fun row => row.id
  now : Upload.Timestamp
  shares : Table Shares.OwnedShare fun share => share.shareCode
  filter : Shares.StatusFilter
  owner : Nat
  users : Table Admin.UserRecord fun user => user.id
  conditions : List Admin.Condition
  usersRequest : Admin.ListUsersRequest

namespace ListContents

variable (contents : ListContents)

def files : Listing FileListItem (AtMost (listOrder contents.locale contents.listQuery)) :=
  fileListing contents.locale contents.listing contents.listQuery contents.userId

def found : Listing SearchResultItem (AtMost (searchOrder contents.locale contents.searchQuery.type)) :=
  searchListing contents.search contents.locale contents.searched contents.searchQuery contents.userId

def deleted : Listing Drive.TrashItemResponse (Descending Drive.DatedTrash.deletedAt) :=
  trashListing contents.timestamp contents.trash contents.owner

def shared : Listing Shares.ShareItem (Descending Shares.OwnedShare.createdAt) :=
  shareListing contents.now contents.owner contents.shares contents.filter

def accounts : Listing Admin.UserDetailResponse (Descending Admin.UserRecord.createdAt) :=
  userListing contents.timestamp contents.conditions contents.users contents.usersRequest

end ListContents

/-- Pages are right exactly where their numbers fit and, in the lists of the trash, of shares and of users, no
rows of one time meet at a boundary. -/
theorem pages_right_iff (contents : ListContents) {page size : Int32} (first : 1 ≤ page) (positive : 0 < size)
    (most : size ≤ 100) :
    (contents.files.PagesRight page size ↔ (contents.files.rows.length : Int) + size.toInt ≤ 2147483648) ∧
    (contents.found.PagesRight page size ↔ (contents.found.rows.length : Int) + size.toInt ≤ 2147483648) ∧
    (contents.deleted.PagesRight page size ↔ (page.toInt - 1) * size.toInt < 2147483648 ∧
      (contents.deleted.rows.length : Int) + size.toInt ≤ 2147483648 ∧
        Separated (Descending Drive.DatedTrash.deletedAt) size.toInt.toNat contents.deleted.rows) ∧
    (contents.shared.PagesRight page size ↔ (page.toInt - 1) * size.toInt < 2147483648 ∧
      (contents.shared.rows.length : Int) + size.toInt ≤ 2147483648 ∧
        Separated (Descending Shares.OwnedShare.createdAt) size.toInt.toNat contents.shared.rows) ∧
    (contents.accounts.PagesRight page size ↔ contents.accounts.rows.length < 2147483648 ∧
      Separated (Descending Admin.UserRecord.createdAt) size.toInt.toNat contents.accounts.rows) := by
  have listTrans := listOrder_trans contents.trans contents.listQuery
  have searchTrans := searchOrder_trans contents.trans contents.searchQuery.type
  have files : Separated (AtMost (listOrder contents.locale contents.listQuery)) size.toInt.toNat
      contents.files.rows :=
    separated_of_antisymm (List.Nodup.of_map _ (listedRows_keys contents.keyed)) fun one here two there below above =>
      listOrder_eq contents.lawful contents.keyed one here two there (AtMost.eq_of_both below above)
  have found : Separated (AtMost (searchOrder contents.locale contents.searchQuery.type)) size.toInt.toNat
      contents.found.rows :=
    separated_of_antisymm (List.Nodup.of_map _ matching_keys) fun one here two there below above =>
      searchOrder_eq contents.lawful one here two there (AtMost.eq_of_both below above)
  refine ⟨?_, ?_, ?_, ?_, ?_⟩
  · have cuts : contents.files.Cuts (fun _ => True) _ size := fileListing_cuts contents.keyed positive
    rw [cuts.fetches_right_iff first positive]
    exact ⟨fun right => right.2.1, fun fits => ⟨trivial, fits, files⟩⟩
  · have cuts : contents.found.Cuts (fun _ => True) _ size := searchListing_cuts positive
    rw [cuts.fetches_right_iff first positive]
    exact ⟨fun right => right.2.1, fun fits => ⟨trivial, fits, found⟩⟩
  · exact (trashListing_cuts positive).fetches_right_iff first positive
  · exact (shareListing_cuts positive).fetches_right_iff first positive
  · have cuts : contents.accounts.Cuts (fun _ => True) _ size := userListing_cuts positive most
    rw [cuts.fetches_right_iff first positive]
    exact ⟨fun right => right.2, fun fits => ⟨trivial, fits⟩⟩

end Partition

section Batches

def deletedFile (id : Nat) (deletedAt : Int) : Drive.DatedTrash where
  id := id
  userId := 1
  itemType := .file
  itemId := id
  itemName := "a.txt"
  itemSize := 3
  contentId := none
  originalFolderId := 0
  originalPath := "/a.txt"
  itemData := .null
  deletedAt := deletedAt
  expiresAt := deletedAt + 10

/-- Two files in the trash. -/
def twoDeleted (first second : Int) : Table Drive.DatedTrash fun row => row.id where
  rows := [deletedFile 1 first, deletedFile 2 second]
  distinct := (by decide : [1, 2].Nodup)

theorem textLocale_trans : Std.TransCmp textLocale.collation :=
  inferInstanceAs (Std.TransCmp (compare : String → String → Ordering))

theorem textLocale_lawful : Std.LawfulEqCmp textLocale.collation :=
  inferInstanceAs (Std.LawfulEqCmp (compare : String → String → Ordering))

theorem keyed_empty : Keyed ⟨[], [], []⟩ := ⟨List.nodup_nil, List.nodup_nil⟩

def twoContents (first second : Int) : ListContents where
  locale := textLocale
  trans := textLocale_trans
  lawful := textLocale_lawful
  listing := ⟨[], [], []⟩
  keyed := keyed_empty
  listQuery := ⟨0, 1, 1, .name, .asc, .all⟩
  search := blankSearch
  searched := ⟨⟨[], List.nodup_nil⟩, ⟨[], List.nodup_nil⟩, []⟩
  searchQuery := ⟨"report".toList, .all, none, 1, 1⟩
  userId := 1
  timestamp := toString
  trash := twoDeleted first second
  now := 0
  shares := ⟨[], List.nodup_nil⟩
  filter := .all
  owner := 1
  users := ⟨[], List.nodup_nil⟩
  conditions := []
  usersRequest := ⟨1, 1, none, none, none, none⟩

/-- Files that were deleted at different times are on the two pages of the trash. -/
theorem trash_pages_right : (twoContents 2 1).deleted.PagesRight 1 1 := by
  refine ((pages_right_iff (twoContents 2 1) (by decide) (by decide) (by decide)).2.2.1).mpr ⟨by decide, by decide, ?_⟩
  apply separated_of_antisymm
  · exact List.Nodup.of_map _ (twoDeleted 2 1).distinct
  · intro one here two there below above
    have rows : (twoContents 2 1).deleted.rows = [deletedFile 1 2, deletedFile 2 1] := rfl
    rw [rows] at here there
    rcases List.mem_pair.mp here with rfl | rfl <;> rcases List.mem_pair.mp there with rfl | rfl
    · rfl
    · exact absurd above (by decide)
    · exact absurd below (by decide)
    · rfl

/-- Files that were deleted at one time can be on both pages of the trash. -/
theorem trash_pages_wrong : ¬(twoContents 1 1).deleted.PagesRight 1 1 := by
  intro right
  have cuts : (twoContents 1 1).deleted.Cuts (· < 2147483648) _ 1 := trashListing_cuts (by decide)
  obtain ⟨-, -, separated⟩ := (cuts.fetches_right_iff (by decide) (by decide)).mp right
  have apart := separated [] (deletedFile 1 1) (deletedFile 2 1) [] (List.Perm.refl _)
    (List.pairwise_pair.mpr (Int.le_refl 1)) (Nat.dvd_refl 1)
  exact apart (Int.le_refl 1)

end Batches

end DiskServer.Files
