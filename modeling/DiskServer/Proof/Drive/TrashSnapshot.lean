import DiskServer.Proof.Drive.Ledger

namespace DiskServer.Drive

open Library

/-- What the parser makes of a stored folder. -/
def Folder.snapshot (folder : Folder) : SnapshotFolder :=
  ⟨folder.id, folder.parentId, folder.name, folder.itemCount, folder.depth⟩

/-- What the parser makes of a stored file. -/
def File.snapshot (file : File) : SnapshotFile :=
  ⟨file.id, file.folderId, file.contentId, file.name, file.extension, file.size, file.mimeType,
    file.isFavorite ≠ 0, file.downloadCount⟩

theorem readSnapshotFolder_folderValue (folder : Folder) :
    readSnapshotFolder (folderValue folder) = .ok folder.snapshot := by
  simp [readSnapshotFolder, folderValue, Json.get, Json.asUInt64, Json.asString, Folder.snapshot]
  rfl

theorem readSnapshotFile_fileValue (file : File) :
    readSnapshotFile (fileValue file) = .ok file.snapshot := by
  simp [readSnapshotFile, fileValue, Json.get, Json.field, Json.asUInt64, Json.asString, Json.asBool,
    File.snapshot]
  rfl

theorem mapM_ok {Item Value Result : Type} {read : Value → Decoded Result} {write : Item → Value}
    {meaning : Item → Result} (inverse : ∀ item, read (write item) = .ok (meaning item))
    (items : List Item) : (items.map write).mapM read = .ok (items.map meaning) := by
  induction items with
  | nil => rfl
  | cons item rest ih =>
      rw [List.map_cons, List.mapM_cons, inverse, ih]
      rfl

/-- A plan whose rows have ids and names loses nothing on the way through its snapshot. -/
structure FolderDeletePlan.Storable (plan : FolderDeletePlan) : Prop where
  rootId : plan.root.id ≠ 0
  rootName : plan.root.name ≠ ""
  files : ∀ file ∈ plan.files, file.snapshot.kept = true

/-- What the parser makes of the snapshot of a plan. -/
def FolderDeletePlan.snapshot (plan : FolderDeletePlan) : FolderTreeSnapshot where
  root := plan.root.snapshot
  folders := (((plan.folders.filter fun folder => folder.id ≠ plan.root.id).map
    Folder.snapshot).filter SnapshotFolder.kept).insertionSort fun first second => first.id ≤ second.id
  files := plan.files.map File.snapshot

/-- A storable plan is read back from its snapshot. -/
theorem parseFolderTreeSnapshot_buildFolderSnapshot {plan : FolderDeletePlan}
    (storable : plan.Storable) :
    parseFolderTreeSnapshot (buildFolderSnapshot plan) = .ok (some plan.snapshot) := by
  have members : (plan.files.map fileValue).filter (Json.isMember "content_id") =
      plan.files.map fileValue := by
    rw [List.filter_eq_self]
    intro value present
    obtain ⟨file, -, rfl⟩ := List.mem_map.mp present
    rfl
  have kept : (plan.files.map File.snapshot).filter SnapshotFile.kept =
      plan.files.map File.snapshot := by
    rw [List.filter_eq_self]
    intro snapshot present
    obtain ⟨file, there, rfl⟩ := List.mem_map.mp present
    exact storable.files file there
  have root : ¬ (plan.root.snapshot.id = 0 ∨ plan.root.snapshot.name = "") := by
    rintro (zero | empty)
    · exact storable.rootId zero
    · exact storable.rootName empty
  have type : (buildFolderSnapshot plan).get "type" (.string "") = .string "folder_tree" := rfl
  have rootValue : (buildFolderSnapshot plan).field "root" = folderValue plan.root := rfl
  have folderValues : ((buildFolderSnapshot plan).field "folders").elements =
      (plan.folders.filter fun folder => folder.id ≠ plan.root.id).map folderValue := rfl
  have fileValues : ((buildFolderSnapshot plan).field "files").elements =
      plan.files.map fileValue := rfl
  have folders := mapM_ok readSnapshotFolder_folderValue
    (plan.folders.filter fun folder => folder.id ≠ plan.root.id)
  have files := mapM_ok readSnapshotFile_fileValue plan.files
  unfold parseFolderTreeSnapshot
  simp only [type, rootValue, folderValues, fileValues, members, folders, files,
    readSnapshotFolder_folderValue, Json.asString, bind, Except.bind, if_neg root, kept]
  rfl

/-- The parser returns only entries that it keeps. -/
theorem parseFolderTreeSnapshot_kept {itemData : Json} {snapshot : FolderTreeSnapshot}
    (parsed : parseFolderTreeSnapshot itemData = .ok (some snapshot)) :
    (∀ folder ∈ snapshot.folders, folder.kept = true) ∧ ∀ file ∈ snapshot.files, file.kept = true := by
  unfold parseFolderTreeSnapshot at parsed
  simp only [bind, Except.bind] at parsed
  repeat' split at parsed
  all_goals try cases parsed
  refine ⟨fun folder present => ?_, fun file present => (List.mem_filter.mp present).2⟩
  rw [List.mem_insertionSort] at present
  exact (List.mem_filter.mp present).2

section Items

variable {userId id : Nat}

theorem fileTrashItem_entries {file : File} (positive : 0 < file.contentId) :
    ((fileTrashItem file).row userId id).entries = [file.entry] := by
  obtain ⟨contentId, same⟩ := Nat.exists_eq_succ_of_ne_zero (Nat.pos_iff_ne_zero.mp positive)
  simp [Trash.entries, fileTrashItem, TrashInsertItem.row, resolveRequiredContentId, same, File.entry]

theorem fileTrashItem_sound {file : File} (named : file.name ≠ "") (positive : 0 < file.contentId) :
    ((fileTrashItem file).row userId id).Sound where
  named := named
  size := by
    rw [fileTrashItem_entries positive]
    simp [File.entry, fileTrashItem, TrashInsertItem.row]
  read := by
    rw [fileTrashItem_entries positive]
    obtain ⟨contentId, same⟩ := Nat.exists_eq_succ_of_ne_zero (Nat.pos_iff_ne_zero.mp positive)
    simp [trashContentIds, fileTrashItem, TrashInsertItem.row, resolveRequiredContentId, same, File.entry]

theorem folderTrashItem_entries {plan : FolderDeletePlan} (storable : plan.Storable) :
    ((folderTrashItem plan).row userId id).entries = plan.files.map File.entry := by
  simp only [Trash.entries, folderTrashItem, TrashInsertItem.row,
    parseFolderTreeSnapshot_buildFolderSnapshot storable, FolderDeletePlan.snapshot, List.map_map]
  rfl

theorem folderTrashItem_sound {plan : FolderDeletePlan} (storable : plan.Storable)
    (size : plan.itemSize = (plan.files.map File.size).sum) :
    ((folderTrashItem plan).row userId id).Sound where
  named := storable.rootName
  size := by
    rw [folderTrashItem_entries storable, List.map_map]
    exact size.symm
  read := by
    rw [folderTrashItem_entries storable]
    simp only [trashContentIds, folderTrashItem, TrashInsertItem.row, extractSnapshotContentIds,
      parseFolderTreeSnapshot_buildFolderSnapshot storable, bind, Except.bind, pure, Except.pure,
      FolderDeletePlan.snapshot, List.map_map]
    rfl

end Items

end DiskServer.Drive
