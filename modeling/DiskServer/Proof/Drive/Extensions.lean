import DiskServer.Proof.Drive.TrashHistory

namespace DiskServer.Drive

open Library Transaction Upload Jobs

section Names

/-- The name has no extension, or its last dot is neither the first character nor in front of the last
opening parenthesis. -/
def PlainName (filename : String) : Prop :=
  ∀ position ∈ rfind "." filename, position ≠ filename.length - 1 →
    position ≠ 0 ∧ dotBeforeParenthesis filename position = false

instance (filename : String) : Decidable (PlainName filename) := by
  unfold PlainName
  infer_instance

theorem rfind_dot_lt {filename : String} {position : Nat} (found : rfind "." filename = some position) :
    position < filename.length := by
  have start := List.find?_some found
  simp only [List.isPrefixOf_iff_prefix] at start
  have bound := start.length_le
  change 1 ≤ _ at bound
  rw [List.length_drop, String.length_toList] at bound
  omega

theorem substrFrom_eq_empty {text : String} {position : Nat} :
    substrFrom text position = "" ↔ text.length ≤ position := by
  unfold substrFrom
  rw [String.ofList_eq_empty_iff, List.drop_eq_nil_iff, String.length_toList]

/-- The two extension functions agree exactly on plain names. -/
theorem extractExtension_eq_iff {filename : String} :
    extractExtension filename = extractFileExtension filename ↔ PlainName filename := by
  unfold extractExtension extractFileExtension PlainName
  cases found : rfind "." filename with
  | none =>
      refine ⟨?_, fun _ => rfl⟩
      rintro - position ⟨⟩
  | some position =>
      have bound := rfind_dot_lt found
      dsimp only
      constructor
      · rintro same other ⟨⟩ inner
        rw [if_neg inner] at same
        split at same
        · have long := substrFrom_eq_empty.mp same.symm
          omega
        · rename_i plain
          push Not at plain
          exact ⟨plain.1, Bool.eq_false_iff.mpr plain.2.2⟩
      · intro plain
        by_cases last : position = filename.length - 1
        · rw [if_pos (.inr (.inl last)), if_pos last]
        · obtain ⟨positive, after⟩ := plain position rfl last
          rw [if_neg last, if_neg]
          rintro (zero | inner | inside)
          · exact positive zero
          · exact last inner
          · rw [after] at inside
            cases inside

end Names

section Rows

/-- The stored extension is the one of the name. -/
def File.ExtensionAgrees (file : File) : Prop := file.extension = extractFileExtension file.name

def SnapshotFile.ExtensionAgrees (file : SnapshotFile) : Prop :=
  file.extension = extractFileExtension file.name

/-- The files that a restore of the row brings back agree with their names. -/
def Trash.ExtensionsAgree (row : Trash) : Prop :=
  ∀ snapshot, parseFolderTreeSnapshot row.itemData = .ok (some snapshot) →
    ∀ file ∈ snapshot.files, file.ExtensionAgrees

/-- The files and the trash rows store the extension of their name. -/
structure Db.ExtensionsAgree (db : Db) : Prop where
  files : ∀ file ∈ db.files.rows, file.ExtensionAgrees
  trash : ∀ row ∈ db.trash.rows, row.ExtensionsAgree

/-- The parser returns files of the plan, whatever else the snapshot holds. -/
theorem mem_parsed_files {plan : FolderDeletePlan} {snapshot : FolderTreeSnapshot}
    (parsed : parseFolderTreeSnapshot (buildFolderSnapshot plan) = .ok (some snapshot))
    {file : SnapshotFile} (present : file ∈ snapshot.files) : ∃ source ∈ plan.files, file = source.snapshot := by
  have members : (plan.files.map fileValue).filter (Json.isMember "content_id") =
      plan.files.map fileValue := by
    rw [List.filter_eq_self]
    intro value listed
    obtain ⟨source, -, rfl⟩ := List.mem_map.mp listed
    rfl
  have fileValues : ((buildFolderSnapshot plan).field "files").elements =
      plan.files.map fileValue := rfl
  have files := mapM_ok readSnapshotFile_fileValue plan.files
  unfold parseFolderTreeSnapshot at parsed
  simp only [fileValues, members, files, bind, Except.bind] at parsed
  repeat' split at parsed
  all_goals try cases parsed
  obtain ⟨source, stored, rfl⟩ := List.mem_map.mp (List.mem_filter.mp present).1
  exact ⟨source, stored, rfl⟩

theorem folderTrashItem_agrees {plan : FolderDeletePlan} {userId id : Nat}
    (files : ∀ file ∈ plan.files, file.ExtensionAgrees) :
    ((folderTrashItem plan).row userId id).ExtensionsAgree := by
  intro snapshot parsed file present
  obtain ⟨source, stored, rfl⟩ := mem_parsed_files parsed present
  exact files source stored

theorem fileTrashItem_agrees {file : File} {userId id : Nat} :
    ((fileTrashItem file).row userId id).ExtensionsAgree := by
  intro snapshot parsed
  cases parsed

end Rows

section Programs

/-- The rows that carry or store extensions. -/
def Db.holdings (db : Db) : Serial File File.id × Serial Trash Trash.id := (db.files, db.trash)

instance : IgnoresAccounts Db.holdings where
  users := fun _ _ => rfl
  contents := fun _ _ => rfl
  jobs := fun _ _ _ => rfl
  now := fun _ _ => rfl

instance : IgnoresTasks Db.holdings where
  tasks := fun _ _ => rfl
  chunks := fun _ _ => rfl

instance : IgnoresFolders Db.holdings where
  folders := fun _ _ => rfl

theorem Db.ExtensionsAgree.of_holdings {first second : Db} (same : first.holdings = second.holdings)
    (agree : second.ExtensionsAgree) : first.ExtensionsAgree := by
  obtain ⟨files, trash⟩ := Prod.mk.inj same
  exact ⟨files ▸ agree.files, trash ▸ agree.trash⟩

variable {Value : Type} {program : Tx Value}

theorem preserves_extensions (kept : KeepsFrame Db.holdings program) :
    Preserves Db.ExtensionsAgree program :=
  preserves_of_frame kept fun _ _ same agree => agree.of_holdings same

theorem insertFile_extensions {build : Nat → File} {keyed : ∀ id, (build id).id = id}
    (agrees : ∀ id, (build id).ExtensionAgrees) :
    Preserves Db.ExtensionsAgree (insertFile build keyed) := by
  refine preserves_get_bind fun before _ => ?_
  dsimp only
  split
  · exact preserves_throw _
  · split
    · exact preserves_throw _
    · split
      · exact preserves_throw _
      · refine preserves_bind (preserves_modify fun db agree => ⟨?_, agree.trash⟩)
          fun _ => preserves_pure _
        intro file present
        rw [Serial.insert_rows] at present
        rcases List.mem_append.mp present with old | new
        · exact agree.files file old
        · obtain rfl := List.mem_singleton.mp new
          exact agrees _

theorem insertFileRecord_extensions {file : NewFile}
    (agrees : file.extension = extractFileExtension file.name) :
    Preserves Db.ExtensionsAgree (insertFileRecord file) := by
  refine preserves_get_bind fun before _ => ?_
  split
  · exact preserves_throw _
  · exact insertFile_extensions fun _ => agrees

theorem updateFileRow_extensions {fileId userId : Nat} {change : File → File}
    {keyed : ∀ file, (change file).id = file.id}
    (agrees : ∀ file, file.ExtensionAgrees → (change file).ExtensionAgrees) :
    Preserves Db.ExtensionsAgree (updateFileRow fileId userId change keyed) := by
  refine preserves_get_bind fun before agree => ?_
  split
  · exact preserves_pure _
  · dsimp only
    split
    · exact preserves_throw _
    · refine preserves_bind (preserves_set ⟨?_, agree.trash⟩) fun _ => preserves_pure _
      intro file present
      obtain ⟨row, stored, rfl⟩ := List.mem_map.mp present
      split
      · exact agrees row (agree.files row stored)
      · exact agree.files row stored

theorem deleteFilesByIds_extensions {fileIds : List Nat} :
    Preserves Db.ExtensionsAgree (deleteFilesByIds fileIds) := by
  refine preserves_get_bind fun before _ => ?_
  refine preserves_bind (preserves_modify fun db agree => ⟨?_, agree.trash⟩) fun _ => preserves_pure _
  intro file present
  exact agree.files file (List.mem_of_mem_filter present)

theorem insertTrashRecord_extensions {userId : Nat} {item : TrashInsertItem}
    (agrees : ∀ id, (item.row userId id).ExtensionsAgree) :
    Preserves Db.ExtensionsAgree (insertTrashRecord userId item) := by
  refine preserves_get_bind fun before agree => ?_
  split
  · exact preserves_throw _
  · split
    · exact preserves_throw _
    · refine preserves_set ⟨agree.files, fun row present => ?_⟩
      change row ∈ before.trash.rows ++ [item.row userId before.trash.next] at present
      rcases List.mem_append.mp present with old | new
      · exact agree.trash row old
      · obtain rfl := List.mem_singleton.mp new
        exact agrees _

theorem deleteTrashRow_extensions {trashId userId : Nat} {itemType : TrashItemType} {failure : ErrorInfo} :
    Preserves Db.ExtensionsAgree (deleteTrashRow trashId userId itemType failure) := by
  refine preserves_get_bind fun before agree => ?_
  dsimp only
  split
  · exact preserves_throw _
  · exact preserves_set ⟨agree.files, fun row present => agree.trash row (List.mem_of_mem_filter present)⟩

theorem deleteTrashByIds_extensions {trashIds : List Nat} :
    Preserves Db.ExtensionsAgree (deleteTrashByIds trashIds) := by
  refine preserves_get_bind fun before agree => ?_
  refine preserves_bind (preserves_set ⟨agree.files, fun row present => ?_⟩) fun _ => preserves_pure _
  exact agree.trash row (List.mem_of_mem_filter present)

end Programs

section Requests

variable {userId : Nat}

theorem instantUpload_extensions {command : InitUploadCommand} {content : FileContent} :
    Preserves Db.ExtensionsAgree (instantUpload command content) := by
  refine preserves_get_bind fun before _ => ?_
  split
  · exact preserves_throw _
  · refine preserves_bind (preserves_extensions consumeUsedStorage_keeps) fun _ => ?_
    refine preserves_bind (preserves_extensions incrementRefCount_keeps) fun _ => ?_
    refine preserves_bind (preserves_extensions resolveOwnedFolderLocation_keeps) fun location => ?_
    refine preserves_bind (insertFileRecord_extensions rfl) fun fileId => ?_
    exact preserves_bind (preserves_extensions countNewItem_keeps) fun _ => preserves_pure _

theorem completeUpload_extensions {command : FinalizeCommand} :
    Preserves Db.ExtensionsAgree (completeUpload command) := by
  refine preserves_bind (preserves_extensions renewInTransaction_keeps) fun stateVersion => ?_
  refine preserves_bind (preserves_extensions acquireReference_keeps) fun contentId => ?_
  refine preserves_bind (preserves_extensions resolveOwnedFolderLocation_keeps) fun location => ?_
  refine preserves_bind (insertFileRecord_extensions rfl) fun fileId => preserves_extensions ?_
  refine keepsFrame_bind countNewItem_keeps fun _ => ?_
  refine keepsFrame_bind commitReservedToUsed_keeps fun _ => ?_
  refine keepsFrame_bind markCompleted_keeps fun completed => ?_
  refine keepsFrame_bind enqueue_keeps fun _ => ?_
  exact keepsFrame_bind deleteChunks_keeps fun _ => keepsFrame_pure _

theorem moveToTrash_extensions {hashOrder fileIds folderIds : List Nat} :
    Preserves Db.ExtensionsAgree (moveToTrash hashOrder fileIds folderIds userId) := by
  intro before value after agree ran
  obtain ⟨plans, middle, planned, rest⟩ := bind_ok ran
  obtain ⟨rfl, planOf⟩ := fetchBatchFolderDeletePlans_ok planned
  have rest₂ := get_bind_ok rest
  have valid : (selectForTrash middle userId (normalizeIds fileIds) (normalizeIds folderIds) plans).Valid
      middle userId :=
    selectForTrash_valid planOf (normalizeIds_nodup fileIds) (normalizeIds_nodup folderIds)
  dsimp only at rest₂
  generalize selectForTrash middle userId (normalizeIds fileIds) (normalizeIds folderIds) plans =
    selection at valid rest₂
  split at rest₂
  · exact (throw_ok rest₂).elim
  · refine preserves_bind (preserves_forM fun item present => ?_) (fun _ => ?_) _ _ _ agree rest₂
    · refine insertTrashRecord_extensions fun id => ?_
      rcases List.mem_append.mp present with file | plan
      · obtain ⟨source, -, rfl⟩ := List.mem_map.mp file
        exact fileTrashItem_agrees
      · obtain ⟨source, listed, rfl⟩ := List.mem_map.mp plan
        exact folderTrashItem_agrees fun file inside =>
          agree.files file (valid.planFiles source listed file inside).1
    · refine preserves_bind (preserves_forM fun _ _ => preserves_extensions countedOrFailed_keeps)
        fun _ => ?_
      refine preserves_bind deleteFilesByIds_extensions fun fileRows => ?_
      split
      · exact preserves_throw _
      · refine preserves_bind (preserves_extensions deleteFoldersByIds_keeps) fun folderRows => ?_
        split
        · exact preserves_throw _
        · exact preserves_pure _

theorem permanentlyDeleteTrashItems_extensions {items : List Trash} {requireValid : Bool} :
    Preserves Db.ExtensionsAgree (permanentlyDeleteTrashItems items requireValid) := by
  unfold permanentlyDeleteTrashItems
  split
  · exact preserves_throw _
  · split
    · exact preserves_pure _
    · refine preserves_bind (preserves_extensions releaseContents_keeps) fun _ => ?_
      refine preserves_bind deleteTrashByIds_extensions fun deleted => ?_
      split
      · exact preserves_throw _
      · refine preserves_bind (preserves_forM fun _ _ => preserves_extensions
          adjustUsedStorageChecked_keeps) fun _ => preserves_pure _

theorem saveFile_extensions {folderId : Nat} {folderPath : String} {file : File}
    (agrees : file.ExtensionAgrees) :
    Preserves Db.ExtensionsAgree (saveFile userId folderId folderPath file) := by
  refine preserves_bind (preserves_extensions incrementRefCount_keeps) fun _ => ?_
  exact preserves_bind (insertFile_extensions fun _ => agrees) fun _ => preserves_pure _

theorem saveTree_extensions {targetFolderId : Nat} {location : FolderLocation} {saved : Nat × Nat}
    {plan : SavePlan} (agrees : ∀ file ∈ plan.files, file.ExtensionAgrees) :
    Preserves Db.ExtensionsAgree (saveTree userId targetFolderId location saved plan) := by
  refine preserves_get_bind fun before _ => ?_
  split
  · exact preserves_pure _
  · refine preserves_bind (preserves_extensions insertFolder_keeps) fun rootId => ?_
    refine preserves_bind (preserves_extensions (keepsFrame_foldlM (fun folder _ folders => ?_) _))
      fun folders => ?_
    · unfold saveFolderNode
      split
      · exact keepsFrame_pure _
      · exact keepsFrame_bind insertFolder_keeps fun _ => keepsFrame_pure _
    · refine preserves_bind (preserves_foldlM (fun file present size => ?_) _) fun _ => preserves_pure _
      unfold saveTreeFile
      split
      · exact preserves_pure _
      · exact preserves_bind (saveFile_extensions (agrees file present)) fun _ => preserves_pure _

theorem saveToDrive_extensions {targetFolderId : Nat} {location : FolderLocation}
    {selection : SaveSelection} (files : ∀ file ∈ selection.files, file.ExtensionAgrees)
    (plans : ∀ plan ∈ selection.plans, ∀ file ∈ plan.files, file.ExtensionAgrees) :
    Preserves Db.ExtensionsAgree (saveToDrive userId targetFolderId location selection) := by
  refine preserves_bind (preserves_extensions chargeSelection_keeps) fun _ => ?_
  refine preserves_bind (preserves_foldlM (fun file present saved => ?_) _) fun savedFiles => ?_
  · refine preserves_get_bind fun before _ => ?_
    split
    · exact preserves_pure _
    · exact preserves_bind (saveFile_extensions (files file present)) fun _ => preserves_pure _
  · refine preserves_bind (preserves_foldlM (fun plan present _ =>
      saveTree_extensions (plans plan present)) _) fun saved => preserves_extensions ?_
    refine keepsFrame_bind countSavedItems_keeps fun _ => ?_
    exact keepsFrame_bind refundSkipped_keeps fun _ => keepsFrame_pure _

theorem insertCopiedFiles_extensions {targetFolderId : Nat} {files : List File}
    (agrees : ∀ file ∈ files, file.ExtensionAgrees) :
    Preserves Db.ExtensionsAgree (insertCopiedFiles userId targetFolderId files) := by
  unfold insertCopiedFiles
  split
  · exact preserves_pure _
  · refine preserves_bind (preserves_extensions resolveOwnedFolderLocation_keeps) fun location => ?_
    refine preserves_forM fun file present => ?_
    exact preserves_bind (insertFile_extensions fun _ => agrees file present) fun _ => preserves_pure _

theorem copyFileBatch_extensions {run : CopyRun} {validItems : List File} {existing : List Nat}
    (agrees : ∀ file ∈ validItems, file.ExtensionAgrees) :
    Preserves Db.ExtensionsAgree (copyFileBatch run validItems existing) := by
  refine preserves_bind (preserves_extensions requireTarget_keeps) fun _ =>
    preserves_get_bind fun before _ => ?_
  dsimp only
  refine preserves_bind (preserves_extensions countCopiedContents_keeps) fun _ => ?_
  refine preserves_bind (insertCopiedFiles_extensions fun file present =>
    agrees file (splitByName_mem present)) fun _ => preserves_extensions ?_
  refine keepsFrame_bind countCopiedItems_keeps fun _ => ?_
  refine keepsFrame_bind commitReservedToUsed_keeps fun _ => ?_
  exact keepsFrame_bind releaseReservedStorageChecked_keeps fun _ => keepsFrame_pure _

theorem copyTree_extensions {run : CopyRun} {location : FolderLocation} {plan : FolderDeletePlan}
    (agrees : ∀ file ∈ plan.files, file.ExtensionAgrees) :
    Preserves Db.ExtensionsAgree (copyTree run location plan) := by
  refine preserves_bind (preserves_extensions insertFolder_keeps) fun rootId => ?_
  refine preserves_bind (preserves_extensions (keepsFrame_foldlM (fun folder _ folders => ?_) _))
    fun folders => ?_
  · unfold copyFolderNode
    split
    · exact keepsFrame_throw _
    · exact keepsFrame_bind insertFolder_keeps fun _ => keepsFrame_pure _
  · refine preserves_forM fun file present => ?_
    unfold copyTreeFile
    split
    · exact preserves_throw _
    · exact preserves_bind (insertFile_extensions fun _ => agrees file present) fun _ => preserves_pure _

theorem copyFolder_extensions {run : CopyRun} {plan : FolderDeletePlan} {existing : List Nat}
    (agrees : ∀ file ∈ plan.files, file.ExtensionAgrees) :
    Preserves Db.ExtensionsAgree (copyFolder run plan existing) := by
  refine preserves_bind (preserves_extensions requireTarget_keeps) fun target =>
    preserves_get_bind fun before _ => ?_
  split
  · exact preserves_bind (preserves_extensions releaseReservedStorageChecked_keeps)
      fun _ => preserves_pure _
  · refine preserves_bind (preserves_extensions countCopiedContents_keeps) fun _ => ?_
    refine preserves_bind (copyTree_extensions agrees) fun _ => preserves_extensions ?_
    refine keepsFrame_bind countCopiedItems_keeps fun _ => ?_
    exact keepsFrame_bind commitReservedToUsed_keeps fun _ => keepsFrame_pure _

theorem restoreSnapshotFile_extensions {folders : FolderMap} {file : SnapshotFile}
    (agrees : file.ExtensionAgrees) :
    Preserves Db.ExtensionsAgree (restoreSnapshotFile userId folders file) := by
  unfold restoreSnapshotFile
  split
  · exact preserves_throw _
  · exact preserves_bind (insertFile_extensions fun _ => agrees) fun _ => preserves_pure _

theorem restoreTree_extensions {rootDepth rootId : Nat} {rootPath : String}
    {snapshot : Option FolderTreeSnapshot}
    (agrees : ∀ tree, snapshot = some tree → ∀ file ∈ tree.files, file.ExtensionAgrees) :
    Preserves Db.ExtensionsAgree (restoreTree userId rootDepth rootId rootPath snapshot) := by
  cases snapshot with
  | none => exact preserves_pure _
  | some tree =>
      refine preserves_bind (preserves_extensions (restoreFolders_keeps _ _ _)) fun folders => ?_
      exact preserves_forM fun file present => restoreSnapshotFile_extensions (agrees tree rfl file present)

theorem restoreFolder_extensions {trashId candidateIndex : Nat} :
    Preserves Db.ExtensionsAgree (restoreFolder trashId userId candidateIndex) := by
  intro before value after agree ran
  obtain ⟨item, snapshot, target, rooted, restored, counted, restoration, parsed, rooting, restoring⟩ :=
    restoreFolder_ok ran
  have trashed := agree.trash item (Table.find?_some restoration.found).1
  have root := preserves_extensions insertFolder_keeps _ _ _ agree rooting
  have tree := restoreTree_extensions (fun tree same => trashed tree (same ▸ parsed)) _ _ _ root restoring
  have count := preserves_extensions countRestoredItem_keeps _ _ _ tree restoration.counting
  exact deleteTrashRow_extensions _ _ _ count restoration.deleting

/-- The restored file gets a plain name. -/
def PlainRestore (db : Db) (trashId candidateIndex : Nat) : Prop :=
  ∀ item ∈ db.trash.find? trashId, PlainName (restoredFileName item.itemName candidateIndex)

instance (db : Db) (trashId candidateIndex : Nat) : Decidable (PlainRestore db trashId candidateIndex) := by
  unfold PlainRestore
  infer_instance

theorem restoreFile_extensions {trashId candidateIndex fileId : Nat} {before after : Db}
    (plain : PlainRestore before trashId candidateIndex) (agree : before.ExtensionsAgree)
    (ran : (restoreFile trashId userId candidateIndex).run before = .ok (fileId, after)) :
    after.ExtensionsAgree := by
  obtain ⟨item, content, target, mimeType, restored, counted, restoration, -, inserting⟩ := restoreFile_ok ran
  have named := plain item restoration.found
  have insert : restored.ExtensionsAgree := by
    refine insertFile_extensions ?_ _ _ _ agree inserting
    exact fun _ => extractExtension_eq_iff.mpr named
  have count := preserves_extensions countRestoredItem_keeps _ _ _ insert restoration.counting
  exact deleteTrashRow_extensions _ _ _ count restoration.deleting

end Requests

section Relocations

variable {userId : Nat} {failure : ErrorInfo}

theorem updateFolderRow_holdings {folderId : Nat} {change : Folder → Folder}
    {keyed : ∀ folder, (change folder).id = folder.id} :
    KeepsFrame Db.holdings (updateFolderRow folderId userId change keyed) := by
  refine keepsFrame_get_bind fun before => ?_
  split
  · exact keepsFrame_pure _ before
  · dsimp only
    split
    · exact keepsFrame_throw _ before
    · exact keepsFrameAt_bind (keepsFrameAt_set rfl) fun _ => keepsFrame_pure _

theorem requireUpdated_extensions {update : Tx Bool} (kept : Preserves Db.ExtensionsAgree update) :
    Preserves Db.ExtensionsAgree (requireUpdated failure update) := by
  refine preserves_bind kept fun updated => ?_
  split
  · exact preserves_pure _
  · exact preserves_throw _

theorem rebaseFile_extensions {newPrefix oldPrefix : String} {folders : List Folder} {file : File} :
    Preserves Db.ExtensionsAgree (rebaseFile userId newPrefix oldPrefix folders failure file) := by
  unfold rebaseFile
  split
  · exact preserves_pure _
  · split
    · exact preserves_throw _
    · exact requireUpdated_extensions (updateFileRow_extensions fun _ agrees => agrees)

theorem renameFile_extensions {fileId : Nat} {newName : String} :
    Preserves Db.ExtensionsAgree (renameFile fileId userId newName) := by
  refine preserves_get_bind fun before _ => ?_
  split
  · exact preserves_throw _
  · split
    · exact preserves_throw _
    · refine preserves_bind (preserves_extensions resolveOwnedFolderLocation_keeps) fun location => ?_
      refine preserves_bind (updateFileRow_extensions fun _ _ => rfl) fun updated => ?_
      split
      · exact preserves_pure _
      · exact preserves_throw _

theorem renameTreeFolder_extensions {folderId : Nat} {newName newPrefix oldPrefix : String} {item : Folder} :
    Preserves Db.ExtensionsAgree
      (renameTreeFolder folderId userId newName newPrefix oldPrefix item) := by
  unfold renameTreeFolder
  split
  · exact preserves_throw _
  · refine requireUpdated_extensions ?_
    split <;> exact preserves_extensions updateFolderRow_holdings

theorem renameFolder_extensions {folderId : Nat} {newName : String} :
    Preserves Db.ExtensionsAgree (renameFolder folderId userId newName) := by
  refine preserves_bind (preserves_extensions findOwnedFolder_keeps) fun found => ?_
  split
  · exact preserves_throw _
  · refine preserves_get_bind fun before _ => ?_
    split
    · exact preserves_throw _
    · refine preserves_bind (preserves_extensions ?_) fun parentPath => ?_
      · unfold renameParentPath
        split
        · refine keepsFrame_bind findOwnedFolder_keeps fun parent => ?_
          split
          · exact keepsFrame_throw _
          · exact keepsFrame_pure _
        · exact keepsFrame_pure _
      · dsimp only
        split
        · exact preserves_throw _
        · refine preserves_bind (preserves_forM fun _ _ => renameTreeFolder_extensions) fun _ => ?_
          refine preserves_get_bind fun db _ => ?_
          exact preserves_bind (preserves_forM fun _ _ => rebaseFile_extensions) fun _ => preserves_pure _

variable {location : FolderLocation} {request : MoveRequest}

theorem moveFileChunk_extensions {files : List File} {moved : Nat} {chunk : List Nat} :
    Preserves Db.ExtensionsAgree (moveFileChunk files location request moved chunk) := by
  refine preserves_get_bind fun before _ => ?_
  dsimp only
  refine preserves_bind (preserves_foldlM (fun fileId _ moves => ?_) _) fun moves => ?_
  · unfold moveFile
    split
    · exact preserves_pure _
    · split
      · exact preserves_pure _
      · split
        · exact preserves_pure _
        · exact preserves_bind (requireUpdated_extensions (updateFileRow_extensions fun _ agrees => agrees))
            fun _ => preserves_pure _
  · refine preserves_bind (preserves_forM fun folderId _ => ?_) fun _ => preserves_pure _
    split
    · exact preserves_pure _
    · exact requireUpdated_extensions (preserves_extensions applyItemCountDelta_keeps)

theorem countMovedItem_extensions {folderId : Nat} {delta : Int} :
    Preserves Db.ExtensionsAgree (countMovedItem folderId userId delta) := by
  unfold countMovedItem
  split
  · exact requireUpdated_extensions (preserves_extensions applyItemCountDelta_keeps)
  · exact preserves_pure _

theorem moveTree_extensions {plan : FolderDeletePlan} :
    Preserves Db.ExtensionsAgree (moveTree location request plan) := by
  refine preserves_bind (preserves_forM fun item _ => ?_) fun _ => ?_
  · unfold moveTreeFolder
    split
    · exact preserves_throw _
    · refine requireUpdated_extensions ?_
      split <;> exact preserves_extensions updateFolderRow_holdings
  · refine preserves_bind (preserves_forM fun _ _ => rebaseFile_extensions) fun _ => ?_
    exact preserves_bind countMovedItem_extensions fun _ => countMovedItem_extensions

theorem moveFolder_extensions {plans : List (Nat × FolderDeletePlan)} {moves : List String × Nat}
    {folderId : Nat} : Preserves Db.ExtensionsAgree (moveFolder plans location request moves folderId) := by
  unfold moveFolder
  split
  · exact preserves_pure _
  · split
    · exact preserves_throw _
    · split
      · exact preserves_pure _
      · split
        · exact preserves_pure _
        · exact preserves_bind moveTree_extensions fun _ => preserves_pure _

theorem move_extensions {hashOrder : List Nat} :
    Preserves Db.ExtensionsAgree (move hashOrder location request) := by
  refine preserves_bind ?_ fun movedFileCount => preserves_bind ?_ fun _ => preserves_pure _
  · refine preserves_get_bind fun before _ => ?_
    exact preserves_foldlM (fun _ _ _ => moveFileChunk_extensions) _
  · refine preserves_bind (preserves_extensions fetchBatchFolderDeletePlans_keeps) fun plans => ?_
    refine preserves_get_bind fun before _ => ?_
    exact preserves_bind (preserves_foldlM (fun _ _ _ => moveFolder_extensions) _) fun _ => preserves_pure _

end Relocations

namespace CopyRun

/-- The files that the run still has to copy. -/
def files (run : CopyRun) : List File := run.chunks.flatten ++ run.plans.flatMap FolderDeletePlan.files

/-- A step of a copy keeps the extensions when it copies files of the run. -/
structure KeepsExtensions (run : CopyRun) (db : Db) (outcome : Db × CopyRun) : Prop where
  db : db.ExtensionsAgree → (∀ file ∈ run.files, file.ExtensionAgrees) → outcome.1.ExtensionsAgree
  files : outcome.2.files ⊆ run.files

variable {run next : CopyRun} {db : Db}

theorem KeepsExtensions.ofSame (subset : next.files ⊆ run.files) : run.KeepsExtensions db (db, next) :=
  ⟨fun agree _ => agree, subset⟩

theorem settle_extensions {program : Tx (Nat × Nat)} {fails : Bool} {unit skippedBefore : Nat}
    (kept : (∀ file ∈ run.files, file.ExtensionAgrees) → Preserves Db.ExtensionsAgree program)
    (subset : next.files ⊆ run.files) :
    run.KeepsExtensions db (next.settle (if fails then .error databaseError else program.run db) db unit
      skippedBefore) := by
  unfold settle
  split
  · exact KeepsExtensions.ofSame subset
  · rename_i copied released after ran
    refine ⟨fun agree agrees => ?_, subset⟩
    split at ran
    · cases ran
    · exact kept agrees _ _ _ agree ran

theorem stepBatch_extensions {names existing : Option Db} {fails : Bool} {chunk : List File}
    {rest : List (List File)} (chunks : run.chunks = chunk :: rest) :
    run.KeepsExtensions db (run.stepBatch names existing fails db chunk rest) := by
  have subset : ({ run with chunks := rest } : CopyRun).files ⊆ run.files := by
    unfold files
    rw [chunks, List.flatten_cons, List.append_assoc]
    exact List.subset_append_right _ _
  unfold stepBatch
  dsimp only
  split
  · exact KeepsExtensions.ofSame subset
  · split
    · exact KeepsExtensions.ofSame subset
    · refine settle_extensions (fun agrees => copyFileBatch_extensions fun file present => ?_) subset
      have listed := splitByName_mem (List.mem_of_mem_filter present)
      refine agrees file ?_
      unfold files
      rw [chunks, List.flatten_cons]
      exact List.mem_append_left _ (List.mem_append_left _ listed)

theorem files_of_plans {plan : FolderDeletePlan} {rest : List FolderDeletePlan}
    (plans : run.plans = plan :: rest) : ({ run with plans := rest } : CopyRun).files ⊆ run.files := by
  intro file present
  unfold files
  rw [plans, List.flatMap_cons]
  rcases List.mem_append.mp present with chunk | tree
  · exact List.mem_append_left _ chunk
  · exact List.mem_append_right _ (List.mem_append_right _ tree)

theorem stepFolder_extensions {existing : Option Db} {fails : Bool} {occupied : List String}
    {plan : FolderDeletePlan} {rest : List FolderDeletePlan} (plans : run.plans = plan :: rest) :
    run.KeepsExtensions db (run.stepFolder existing fails db occupied plan rest) := by
  have subset := files_of_plans plans
  unfold stepFolder
  dsimp only
  split
  · exact KeepsExtensions.ofSame subset
  · split
    · exact KeepsExtensions.ofSame subset
    · split
      · exact KeepsExtensions.ofSame subset
      · refine settle_extensions (fun agrees => copyFolder_extensions fun file present => ?_) subset
        refine agrees file (List.mem_append_right _ ?_)
        rw [plans, List.flatMap_cons]
        exact List.mem_append_left _ present

theorem stepRelease_extensions {fails : Bool} : run.KeepsExtensions db (run.stepRelease fails db) := by
  unfold stepRelease
  split
  · exact KeepsExtensions.ofSame (List.Subset.refl _)
  · rename_i value after ran
    refine ⟨fun agree _ => ?_, List.Subset.refl _⟩
    split at ran
    · cases ran
    · exact preserves_extensions releaseReservedStorageChecked_keeps _ _ _ agree ran

end CopyRun

/-- A copy starts with files that its reads have seen. -/
theorem planCopy_files {reads : CopyReads} {hashOrder : List Nat} {request : CopyRequest} {run : CopyRun}
    (planned : planCopy reads hashOrder request = .ok run) {file : File} (present : file ∈ run.files) :
    ∃ db, (db = reads.plans ∨ some db ∈ reads.files) ∧ file ∈ db.files.rows := by
  unfold planCopy at planned
  simp only [bind, Except.bind] at planned
  split at planned
  · cases planned
  · split at planned
    · cases planned
    · rename_i plansResult plansRan
      cases planned
      obtain ⟨-, planOf⟩ := fetchBatchFolderDeletePlans_ok plansRan
      rcases List.mem_append.mp present with chunk | tree
      · rw [flatten_chunkItems (by decide)] at chunk
        obtain ⟨pair, zipped, read⟩ := List.mem_flatMap.mp chunk
        obtain ⟨db, seen, stored⟩ := mem_readCopyChunk read
        exact ⟨db, .inr (seen ▸ (List.of_mem_zip zipped).2), stored⟩
      · obtain ⟨plan, listed, inside⟩ := List.mem_flatMap.mp tree
        obtain ⟨folderId, -, found⟩ := List.mem_filterMap.mp listed
        exact ⟨_, .inl rfl, (planOf _ (findPlan_some found)).files file inside⟩

namespace World

theorem stepCopyFolder_extensions {world : World} {run : CopyRun} {existing : Option Db} {fails : Bool}
    {outcome : Db × CopyRun} (stepped : world.stepCopyFolder run existing fails = some outcome) :
    run.KeepsExtensions world.db outcome := by
  unfold stepCopyFolder at stepped
  split at stepped
  · rename_i plan rest chunks plans names
    cases stepped
    exact CopyRun.KeepsExtensions.ofSame (CopyRun.files_of_plans plans)
  · rename_i plan rest occupied chunks plans names
    cases stepped
    exact CopyRun.stepFolder_extensions plans
  · cases stepped

/-- Every stored state and every copy under way keeps the extensions in step with the names. -/
structure ExtensionsAgree (world : World) : Prop where
  history : ∀ db ∈ world.history, db.ExtensionsAgree
  copies : ∀ run ∈ world.copies, ∀ file ∈ run.files, file.ExtensionAgrees

/-- A restore of a file picks a plain name. -/
def PlainRestores (world : World) : NamespaceAction → Prop
  | .drive (.restoreFile trashId _ candidateIndex) => PlainRestore world.db trashId candidateIndex
  | _ => True

variable {world next : World}

/-- The present state is one of the history. -/
theorem ExtensionsAgree.current (agree : world.ExtensionsAgree) : world.db.ExtensionsAgree :=
  agree.history world.db current_mem

theorem ExtensionsAgree.advance (agree : world.ExtensionsAgree) {after : Db}
    (there : after.ExtensionsAgree) : (world.advance after).ExtensionsAgree := by
  refine ⟨fun db present => ?_, agree.copies⟩
  rcases List.mem_cons.mp present with rfl | earlier
  · exact there
  · exact agree.history db earlier

theorem ExtensionsAgree.commit (agree : world.ExtensionsAgree) {Value : Type} {program : Tx Value}
    (kept : Preserves Db.ExtensionsAgree program) (moved : world.commit program = some next) :
    next.ExtensionsAgree := by
  obtain ⟨value, after, ran, rfl⟩ := commit_some moved
  exact agree.advance (kept _ _ _ agree.current ran)

theorem ExtensionsAgree.commitSettling (agree : world.ExtensionsAgree) {uploadId : String}
    {program : Tx (Option Nat)} (kept : Preserves Db.ExtensionsAgree program)
    (moved : world.commitSettling uploadId program = some next) : next.ExtensionsAgree := by
  unfold World.commitSettling at moved
  split at moved
  · rename_i version after ran
    cases moved
    obtain ⟨history, copies⟩ := agree.advance (kept _ _ _ agree.current ran)
    exact ⟨history, copies⟩
  · rename_i after ran
    cases moved
    exact agree.advance (kept _ _ _ agree.current ran)
  · cases moved

theorem ExtensionsAgree.setCopy (agree : world.ExtensionsAgree) {slot : Nat} {run : CopyRun}
    {outcome : Db × CopyRun} (found : world.copies[slot]? = some run)
    (kept : run.KeepsExtensions world.db outcome) : (world.setCopy slot outcome).ExtensionsAgree := by
  have own := agree.copies run (List.mem_of_getElem? found)
  obtain ⟨history, -⟩ := agree.advance (kept.db agree.current own)
  refine ⟨history, fun other present file inside => ?_⟩
  rcases List.mem_or_eq_of_mem_set present with old | rfl
  · exact agree.copies other old file inside
  · exact own file (kept.files inside)

theorem ExtensionsAgree.file (agree : world.ExtensionsAgree) {db : Db} (present : db ∈ world.history)
    {file : File} (stored : file ∈ db.files.rows) : file.ExtensionAgrees :=
  (agree.history db present).files file stored

theorem ExtensionsAgree.saveToDrive (agree : world.ExtensionsAgree) {request : SaveRequest}
    {location : FolderLocation} {selection : SaveSelection}
    (read : world.readSaveSelection request = some selection)
    (moved : world.commit (Drive.saveToDrive request.userId request.targetFolderId location selection) =
      some next) : next.ExtensionsAgree := by
  obtain ⟨files, filed, read₁⟩ := Option.bind_eq_some_iff.mp read
  obtain ⟨plans, planned, read₂⟩ := Option.bind_eq_some_iff.mp read₁
  cases read₂
  refine agree.commit (saveToDrive_extensions ?_ ?_) moved
  · intro file present
    obtain ⟨wanted, -, found⟩ := exists_of_mem_mapM filed present
    obtain ⟨db, seen, there⟩ := Option.bind_eq_some_iff.mp found
    exact agree.file (mem_history_of_read seen) (Table.find?_some there).1
  · intro plan present file inside
    obtain ⟨reads, -, found⟩ := exists_of_mem_mapM planned present
    obtain ⟨rootDb, -, found₁⟩ := Option.bind_eq_some_iff.mp found
    obtain ⟨folderDb, -, found₂⟩ := Option.bind_eq_some_iff.mp found₁
    obtain ⟨fileDb, fileRead, found₃⟩ := Option.bind_eq_some_iff.mp found₂
    obtain ⟨root, -, rfl⟩ := Option.map_eq_some_iff.mp found₃
    simp only [readSharedFiles, List.mem_map, List.mem_insertionSort, List.mem_flatMap] at inside
    obtain ⟨pair, ⟨row, stored, folder, -, rfl⟩, rfl⟩ := inside
    exact agree.file (mem_history_of_read fileRead) stored

theorem ExtensionsAgree.startCopy (agree : world.ExtensionsAgree) {targetRead planRead : Nat}
    {fileReads : List (Option Nat)} {reads : CopyReads} {hashOrder : List Nat} {request : CopyRequest}
    (read : world.readCopy targetRead planRead fileReads = some reads)
    (moved : world.startCopy reads hashOrder request = some next) : next.ExtensionsAgree := by
  obtain ⟨target, -, read₁⟩ := Option.bind_eq_some_iff.mp read
  obtain ⟨plans, planned, read₂⟩ := Option.bind_eq_some_iff.mp read₁
  obtain ⟨files, filed, read₃⟩ := Option.bind_eq_some_iff.mp read₂
  cases read₃
  unfold World.startCopy at moved
  split at moved
  · cases moved
  · rename_i run planning
    split at moved
    · cases moved
    · rename_i value after ran
      cases moved
      obtain ⟨history, copies⟩ := agree.advance
        (preserves_extensions reserveStorage_keeps _ _ _ agree.current ran)
      refine ⟨history, fun other present file inside => ?_⟩
      rcases List.mem_append.mp present with old | new
      · exact copies other old file inside
      · obtain rfl := List.mem_singleton.mp new
        obtain ⟨db, seen, stored⟩ := planCopy_files planning inside
        refine agree.file ?_ stored
        rcases seen with rfl | listed
        · exact mem_history_of_read planned
        · obtain ⟨index, -, found⟩ := exists_of_mem_mapM filed listed
          exact mem_history_of_readOptional found

/-- A step keeps the extensions, a restore under its condition. -/
theorem ExtensionsAgree.step (agree : world.ExtensionsAgree) {action : DriveAction}
    (plain : world.PlainRestores (.drive action)) (moved : world.step action = some next) :
    next.ExtensionsAgree := by
  cases moved_of_step moved with
  | commits issued moved =>
      cases issued with
      | registerUser => exact agree.commit (preserves_extensions registerUser_keeps) moved
      | createFolder => exact agree.commit (preserves_extensions createFolder_keeps) moved
      | instantUpload => exact agree.commit instantUpload_extensions moved
      | createUploadTask => exact agree.commit (preserves_extensions createUploadTask_keeps) moved
      | recordChunk => exact agree.commit (preserves_extensions recordChunk_keeps) moved
      | taskStatement => exact agree.commit (preserves_extensions runTaskStatement_keeps) moved
      | moveToTrash => exact agree.commit moveToTrash_extensions moved
      | restoreFile =>
          obtain ⟨fileId, after, ran, rfl⟩ := commit_some moved
          exact agree.advance (restoreFile_extensions plain agree.current ran)
      | restoreFolder => exact agree.commit restoreFolder_extensions moved
      | permanentDelete => exact agree.commit permanentlyDeleteTrashItems_extensions moved
      | saveToDrive read => exact agree.saveToDrive read moved
      | jobStatement => exact agree.commit (preserves_extensions runJobStatement_keeps) moved
      | executeBlobGc => exact agree.commit (preserves_extensions executeBlobGc_keeps) moved
      | tick => exact agree.commit (preserves_extensions tick_keeps) moved
  | settles settled moved =>
      refine agree.commitSettling ?_ moved
      cases settled with
      | completeUpload => exact preserves_map completeUpload_extensions
      | cancelUpload => exact preserves_extensions cancelInProgressUpload_keeps
      | expireUpload => exact preserves_extensions expireInProgressUpload_keeps
  | starts _ read moved => exact agree.startCopy read moved
  | copies found continued same =>
      subst same
      refine agree.setCopy found ?_
      cases continued with
      | batch _ chunks => exact CopyRun.stepBatch_extensions chunks
      | rootNames =>
          refine CopyRun.KeepsExtensions.ofSame ?_
          unfold CopyRun.stepRootNames
          split <;> exact List.Subset.refl _
      | folder _ stepped => exact stepCopyFolder_extensions stepped
      | release => exact CopyRun.stepRelease_extensions
      | abandon => exact CopyRun.KeepsExtensions.ofSame (List.Subset.refl _)

/-- A plain step keeps the extensions in agreement. -/
theorem ExtensionsAgree.stepNamespace (agree : world.ExtensionsAgree) {action : NamespaceAction}
    (plain : world.PlainRestores action) (moved : world.stepNamespace action = some next) :
    next.ExtensionsAgree := by
  cases action with
  | drive action => exact agree.step plain moved
  | renameFile fileId userId newName =>
      simp only [World.stepNamespace] at moved
      split at moved
      · cases moved
      · exact agree.commit renameFile_extensions moved
  | renameFolder folderId userId newName =>
      simp only [World.stepNamespace] at moved
      split at moved
      · cases moved
      · exact agree.commit renameFolder_extensions moved
  | move targetRead hashOrder request =>
      obtain ⟨location, -, moved₁⟩ := Option.bind_eq_some_iff.mp moved
      exact agree.commit move_extensions moved₁

/-- The empty world has no row. -/
theorem empty_extensionsAgree : World.empty.ExtensionsAgree where
  history := by
    intro db present
    obtain rfl : db = Db.empty := by simpa [World.history, World.empty] using present
    constructor <;> simp [Db.empty, Serial.empty, Table.empty]
  copies := fun _ none => by cases none

instance (world : World) : DecidablePred world.PlainRestores := fun action =>
  match action with
  | .drive (.restoreFile trashId _ candidateIndex) =>
      inferInstanceAs (Decidable (PlainRestore world.db trashId candidateIndex))
  | .drive (.registerUser ..) | .drive (.createFolder ..) | .drive (.instantUpload ..)
  | .drive (.createUploadTask ..) | .drive (.recordChunk ..) | .drive (.taskStatement ..)
  | .drive (.completeUpload ..) | .drive (.cancelUpload ..) | .drive (.expireUpload ..)
  | .drive (.moveToTrash ..) | .drive (.restoreFolder ..) | .drive (.permanentDelete ..)
  | .drive (.saveToDrive ..) | .drive (.startCopy ..) | .drive (.copyBatch ..)
  | .drive (.copyRootNames ..) | .drive (.copyFolder ..) | .drive (.copyRelease ..)
  | .drive (.abandonCopy ..) | .drive (.jobStatement ..) | .drive (.executeBlobGc ..)
  | .drive (.tick ..) | .renameFile .. | .renameFolder .. | .move .. => .isTrue trivial

end World

section Results

variable {world : World}

/-- The extensions agree with the names along every run whose restored files get plain names. -/
theorem extensions_agree_of_plain_restores
    (reachable : namespaceSystem.ReachableWhen World.PlainRestores world) :
    ∀ file ∈ world.db.files.rows, file.extension = extractFileExtension file.name := by
  have agree : world.ExtensionsAgree := by
    refine reachable.invariant World.ExtensionsAgree ?_ ?_
    · rintro _ rfl
      exact World.empty_extensionsAgree
    · intro state action next agree plain moved
      exact agree.stepNamespace plain moved
  exact agree.current.files

/-- An uploaded file is trashed, restored and renamed. -/
theorem extensions_agree_of_plain_restores_renamed : ∃ world : World,
    (∀ file ∈ world.db.files.rows, file.extension = extractFileExtension file.name) ∧
      world.db.files.rows.map File.name = ["b.tar.gz"] := by
  obtain ⟨world, reachable, checked⟩ :=
    namespaceSystem.exists_reachableWhen_of_runWhen World.PlainRestores
      (firstUpload.map NamespaceAction.drive ++
        [.drive (.moveToTrash [] [1] [] 1), .drive (.restoreFile 1 1 0), .renameFile 2 1 "b.tar.gz"])
      (fun world => decide (world.db.files.rows.map File.name = ["b.tar.gz"])) rfl (by decide +kernel)
  exact ⟨world, extensions_agree_of_plain_restores reachable, of_decide_eq_true checked⟩

/-- The number that a restore puts in front of the extension makes the restored row lose it. -/
theorem restored_extension_differs :
    ¬ ∀ world, namespaceSystem.Reachable world →
      ∀ file ∈ world.db.files.rows, file.extension = extractFileExtension file.name := by
  intro agrees
  obtain ⟨world, reachable, checked⟩ := namespaceSystem.exists_reachable_of_run
    (firstUpload.map NamespaceAction.drive ++
      [.drive (.moveToTrash [] [1] [] 1), .drive (.instantUpload (uploadCommand "a.txt" 5) 0),
        .drive (.restoreFile 1 1 1)])
    (fun world => world.db.files.rows.any fun file =>
      file.name = "a (1).txt" && file.extension = "" && extractFileExtension file.name = "txt") rfl
    (by decide +kernel)
  obtain ⟨file, present, differs⟩ := List.any_eq_true.mp checked
  have agrees := agrees world reachable file present
  simp only [Bool.and_eq_true, decide_eq_true_eq] at differs
  obtain ⟨⟨-, empty⟩, kept⟩ := differs
  rw [empty, kept] at agrees
  exact absurd agrees (by decide)

end Results

end DiskServer.Drive
