import DiskServer.Proof.Drive.ContentService
import DiskServer.Proof.Drive.FolderTree
import DiskServer.Proof.Drive.QuotaService
import DiskServer.Proof.Drive.TrashSnapshot

namespace DiskServer.Drive

open Library Transaction

variable {extra : Nat → Nat → Prop} {before after : Db}

section Selection

variable {db : Db} {userId : Nat} {requestedFileIds requestedFolderIds : List Nat}
  {plans : List (Nat × FolderDeletePlan)}

theorem mem_fetchOwnedFilesByIds {fileIds : List Nat} {file : File}
    (present : file ∈ fetchOwnedFilesByIds db fileIds userId) :
    file ∈ db.files.rows ∧ file.userId = userId := by
  obtain ⟨fileId, -, found⟩ := List.mem_filterMap.mp present
  obtain ⟨there, owned⟩ := Option.filter_eq_some_iff.mp found
  exact ⟨(Table.find?_some there).1, by simpa using owned⟩

theorem fetchOwnedFilesByIds_nodup {fileIds : List Nat} :
    (fetchOwnedFilesByIds db fileIds userId).Nodup := by
  have keys : ((fetchOwnedFilesByIds db fileIds userId).map File.id).Sublist (normalizeIds fileIds) := by
    apply filterMap_keys_sublist
    intro fileId file found
    obtain ⟨there, -⟩ := Option.filter_eq_some_iff.mp found
    exact (Table.find?_some there).2
  exact List.Nodup.of_map File.id ((normalizeIds_nodup fileIds).sublist keys)

/-- What the trash service knows of the plans it moves. -/
structure TrashSelection.Valid (selection : TrashSelection) (db : Db) (userId : Nat) : Prop where
  explicit : ∀ file ∈ selection.explicitFiles, file ∈ db.files.rows ∧ file.userId = userId
  roots : ∀ plan ∈ selection.plans, plan.root ∈ db.folders.rows
  planFiles : ∀ plan ∈ selection.plans, ∀ file ∈ plan.files, file ∈ db.files.rows ∧
    file.userId = userId ∧ 0 < file.folderId
  sizes : ∀ plan ∈ selection.plans, plan.itemSize = (plan.files.map File.size).sum
  once : (selection.explicitFiles ++ selection.plans.flatMap FolderDeletePlan.files).Nodup

/-- A plan of the selection is a plan of the query with its files locked again. -/
theorem mem_selected_plans {plan : FolderDeletePlan}
    (present : plan ∈ (selectForTrash db userId requestedFileIds requestedFolderIds plans).plans) :
    ∃ folderId old lockedFiles, folderId ∈ filterCoveredFolderIds requestedFolderIds plans ∧
      (folderId, old) ∈ plans ∧ plan = relockPlan lockedFiles old ∧
      (∀ file ∈ lockedFiles, file ∈ db.files.rows ∧ file.userId = userId) ∧ lockedFiles.Nodup := by
  obtain ⟨folderId, top, found⟩ := List.mem_filterMap.mp present
  obtain ⟨old, listed, rfl⟩ := Option.map_eq_some_iff.mp found
  exact ⟨folderId, old, _, top, findPlan_some listed, rfl, fun _ => mem_fetchOwnedFilesByIds,
    fetchOwnedFilesByIds_nodup⟩

/-- The files of a relocked plan lie in the folders of the plan. -/
theorem mem_relockPlan {lockedFiles : List File} {plan : FolderDeletePlan} {file : File}
    (present : file ∈ (relockPlan lockedFiles plan).files) :
    file ∈ lockedFiles ∧ ∃ folder ∈ plan.folders, folder.id = file.folderId := by
  obtain ⟨locked, inside⟩ := List.mem_filter.mp present
  exact ⟨locked, by simpa using inside⟩

/-- The files of two selected folders never meet. -/
theorem selected_plans_disjoint (valid : ∀ plan ∈ plans, PlanOf db userId plan)
    (distinct : requestedFolderIds.Nodup) :
    (selectForTrash db userId requestedFileIds requestedFolderIds plans).plans.Pairwise
      fun one two => List.Disjoint one.files two.files := by
  unfold selectForTrash
  simp only
  rw [List.pairwise_filterMap]
  apply (distinct.filter _).pairwise_of_forall_ne
  intro one oneTop two twoTop differ first firstFound second secondFound file inFirst inSecond
  obtain ⟨oldOne, listedOne, rfl⟩ := Option.map_eq_some_iff.mp firstFound
  obtain ⟨oldTwo, listedTwo, rfl⟩ := Option.map_eq_some_iff.mp secondFound
  obtain ⟨-, folderOne, inOne, keyOne⟩ := mem_relockPlan inFirst
  obtain ⟨-, folderTwo, inTwo, keyTwo⟩ := mem_relockPlan inSecond
  exact topLevel_disjoint valid (findPlan_some listedOne) (findPlan_some listedTwo) oneTop twoTop
    differ inOne inTwo (keyOne.trans keyTwo.symm)

theorem selectForTrash_valid (valid : ∀ plan ∈ plans, PlanOf db userId plan)
    (files : requestedFileIds.Nodup) (folders : requestedFolderIds.Nodup) :
    (selectForTrash db userId requestedFileIds requestedFolderIds plans).Valid db userId where
  explicit := by
    intro file present
    obtain ⟨fileId, -, found⟩ := List.mem_filterMap.mp present
    exact mem_fetchOwnedFilesByIds (List.mem_of_find?_eq_some found)
  roots := by
    intro plan present
    obtain ⟨folderId, old, lockedFiles, -, listed, rfl, -, -⟩ := mem_selected_plans present
    exact (valid _ listed).root
  planFiles := by
    intro plan present file inside
    obtain ⟨folderId, old, lockedFiles, -, listed, rfl, owned, -⟩ := mem_selected_plans present
    obtain ⟨locked, folder, inTree, keyed⟩ := mem_relockPlan inside
    obtain ⟨root, stored, -, tree⟩ := (valid _ listed).top
    have there := mem_of_below stored ((tree folder).mp inTree)
    refine ⟨(owned file locked).1, (owned file locked).2, ?_⟩
    rw [← keyed]
    exact (db.folders.bounded folder there).1
  sizes := by
    intro plan present
    obtain ⟨folderId, old, lockedFiles, -, listed, rfl, -, -⟩ := mem_selected_plans present
    rfl
  once := by
    rw [List.nodup_append']
    refine ⟨?_, ?_, ?_⟩
    · refine List.Nodup.of_map File.id ((files.filter _).sublist (filterMap_keys_sublist ?_ _))
      intro fileId file found
      simpa using List.find?_some found
    · rw [List.nodup_flatMap]
      refine ⟨?_, selected_plans_disjoint valid folders⟩
      intro plan present
      obtain ⟨folderId, old, lockedFiles, -, -, rfl, -, once⟩ := mem_selected_plans present
      exact once.filter _
    · intro file explicit covered
      obtain ⟨fileId, chosen, found⟩ := List.mem_filterMap.mp explicit
      have uncovered := (List.mem_filter.mp chosen).2
      have keyed : file.id = fileId := by simpa using List.find?_some found
      obtain ⟨plan, present, inside⟩ := List.mem_flatMap.mp covered
      simp only [Bool.not_eq_true', List.contains_eq_mem, decide_eq_false_iff_not] at uncovered
      apply uncovered
      rw [← keyed]
      exact List.mem_flatMap.mpr ⟨plan, present, List.mem_map_of_mem inside⟩

end Selection

theorem insertTrashRecord_posts {userId : Nat} {item : TrashInsertItem}
    (sound : ∀ id, (item.row userId id).Sound)
    (allowed : ∀ entry ∈ (item.row userId 0).entries, extra entry.1 entry.2) :
    Ensures (insertTrashRecord userId item) fun before _ after =>
      Posts extra (-(item.row userId 0).charge) before after := by
  intro before value after ran
  have rest := get_bind_ok ran
  split at rest
  · exact (throw_ok rest).elim
  · split at rest
    · exact (throw_ok rest).elim
    · obtain rfl := set_ok rest
      apply Posts.ofTrash
      · refine (congrArg List.sum List.map_append).trans ?_
        rw [List.sum_append, sub_neg_eq_add]
        simp only [List.map_cons, List.map_nil, List.sum_cons, List.sum_nil, add_zero]
        rfl
      · exact Nat.le_succ _
      · intro row present
        rcases List.mem_append.mp present with old | new
        · exact .inl old
        · obtain rfl := List.mem_singleton.mp new
          exact .inr ⟨Nat.le_refl _, sound _, allowed⟩

theorem insertTrashRecord_files {userId : Nat} {item : TrashInsertItem} :
    Ensures (insertTrashRecord userId item) fun before _ after => after.files = before.files := by
  intro before value after ran
  have rest := get_bind_ok ran
  split at rest
  · exact (throw_ok rest).elim
  · split at rest
    · exact (throw_ok rest).elim
    · rw [set_ok rest]

/-- The count of a parent that must exist is lowered. -/
theorem lowerParent_posts {parentId userId : Nat} {delta : Int} :
    Ensures (do
        let updated ← applyItemCountDelta parentId userId delta
        if updated then pure () else throw deleteFailed : Tx Unit) fun before _ after =>
      Posts extra 0 before after ∧ after.files = before.files := by
  intro before value after ran
  obtain ⟨updated, wrote, updating, checked⟩ := bind_ok ran
  split at checked
  · obtain ⟨-, rfl⟩ := pure_ok checked
    exact ⟨applyItemCountDelta_posts _ _ _ updating, applyItemCountDelta_files _ _ _ updating⟩
  · exact (throw_ok checked).elim

namespace TrashSelection.Valid

variable {selection : TrashSelection} {db : Db} {userId : Nat} (valid : selection.Valid db userId)
  (sound : db.Sound)

include valid sound

theorem plan_storable {plan : FolderDeletePlan} (present : plan ∈ selection.plans) : plan.Storable where
  rootId := Nat.pos_iff_ne_zero.mp (db.folders.bounded _ (valid.roots plan present)).1
  rootName := sound.folderNames _ (valid.roots plan present)
  files := by
    intro file inside
    obtain ⟨stored, -, placed⟩ := valid.planFiles plan present file inside
    have positive := (db.files.bounded file stored).1
    have contents := sound.fileContents file stored
    have named := sound.fileNames file stored
    simp [SnapshotFile.kept, File.snapshot, positive, placed, contents, named]

/-- A moved item is charged for the files that it keeps. -/
theorem items_sum :
    (selection.items.map fun item => -(item.row userId 0).charge).sum =
      -((selection.explicitFiles ++ selection.plans.flatMap FolderDeletePlan.files).map
        File.charge).sum := by
  have explicit : ∀ file ∈ selection.explicitFiles,
      -((fileTrashItem file).row userId 0).charge = -file.charge := by
    intro file present
    obtain ⟨stored, owned⟩ := valid.explicit file present
    rw [Trash.charge, fileTrashItem_entries (sound.fileContents file stored)]
    simp [File.charge, owned, fileTrashItem, TrashInsertItem.row]
  have covered : ∀ plan ∈ selection.plans,
      -((folderTrashItem plan).row userId 0).charge = -(plan.files.map File.charge).sum := by
    intro plan present
    rw [Trash.charge, folderTrashItem_entries (valid.plan_storable sound present), List.map_map]
    congr 2
    apply List.map_congr_left
    intro file inside
    rw [File.charge, (valid.planFiles plan present file inside).2.1]
    rfl
  simp only [TrashSelection.items, List.map_append, List.map_map, List.sum_append, neg_add,
    Function.comp_def]
  rw [List.map_congr_left explicit, List.map_congr_left covered, List.map_flatMap, List.flatMap_def,
    List.sum_flatten, List.sum_neg, List.sum_neg, List.map_map, List.map_map, List.map_map]
  rfl

omit sound in
/-- The deleted file rows are exactly the files of the moved items. -/
theorem removed_files :
    (db.files.rows.filter fun file => selection.fileIds.contains file.id).Perm
      (selection.explicitFiles ++ selection.plans.flatMap FolderDeletePlan.files) := by
  apply db.files.filter_keys_perm_rows _ valid.once
  · intro fileId
    rw [TrashSelection.fileIds, mem_normalizeIds, List.map_append, List.map_flatMap]
  · intro file present
    rcases List.mem_append.mp present with explicit | covered
    · exact (valid.explicit file explicit).1
    · obtain ⟨plan, chosen, inside⟩ := List.mem_flatMap.mp covered
      exact (valid.planFiles plan chosen file inside).1

theorem items_posts {item : TrashInsertItem} (present : item ∈ selection.items) :
    Ensures (insertTrashRecord userId item) fun before _ after =>
      Posts db.Holds (-(item.row userId 0).charge) before after := by
  rcases List.mem_append.mp present with explicit | covered
  · obtain ⟨file, chosen, rfl⟩ := List.mem_map.mp explicit
    obtain ⟨stored, -⟩ := valid.explicit file chosen
    have positive := sound.fileContents file stored
    apply insertTrashRecord_posts
    · exact fun id => fileTrashItem_sound (sound.fileNames file stored) positive
    · rw [fileTrashItem_entries positive]
      intro entry only
      obtain rfl := List.mem_singleton.mp only
      exact .inl ⟨file, stored, rfl⟩
  · obtain ⟨plan, chosen, rfl⟩ := List.mem_map.mp covered
    have storable := valid.plan_storable sound chosen
    apply insertTrashRecord_posts
    · exact fun id => folderTrashItem_sound storable (valid.sizes plan chosen)
    · rw [folderTrashItem_entries storable]
      intro entry inside
      obtain ⟨file, there, rfl⟩ := List.mem_map.mp inside
      exact .inl ⟨file, (valid.planFiles plan chosen file there).1, rfl⟩

end TrashSelection.Valid

/-- What a successful `MoveToTrash` has selected, and the states behind its statements. -/
structure TrashMove (hashOrder fileIds folderIds : List Nat) (userId : Nat) (before after : Db)
    (result : MoveToTrashResult) (plans : List (Nat × FolderDeletePlan)) (selection : TrashSelection)
    (stored counted removed : Db) : Prop where
  planned : (fetchBatchFolderDeletePlans hashOrder (normalizeIds folderIds) userId).run before = .ok (plans, before)
  selected : selection = selectForTrash before userId (normalizeIds fileIds) (normalizeIds folderIds) plans
  storing : (selection.items.forM (insertTrashRecord userId)).run before = .ok (⟨⟩, stored)
  counting : ((normalizeIds selection.parentIds).forM fun parentId => do
    let updated ← applyItemCountDelta parentId userId (-(selection.parentIds.count parentId : Int))
    if updated then pure () else throw deleteFailed : Tx PUnit).run stored = .ok (⟨⟩, counted)
  files : (deleteFilesByIds selection.fileIds).run counted = .ok (selection.fileIds.length, removed)
  folders : (deleteFoldersByIds selection.folderIds).run removed = .ok (selection.folderIds.length, after)
  result : result =
    ⟨selection.explicitFiles.length, selection.plans.length, selection.fileIds, selection.folderIds⟩

/-- A successful delete has executed all of its statements. -/
theorem moveToTrash_ok {hashOrder fileIds folderIds : List Nat} {userId : Nat} {result : MoveToTrashResult}
    (ran : (moveToTrash hashOrder fileIds folderIds userId).run before = .ok (result, after)) :
    ∃ plans selection stored counted removed, TrashMove hashOrder fileIds folderIds userId before after result
      plans selection stored counted removed := by
  obtain ⟨plans, planned, planning, rest₁⟩ := bind_ok ran
  obtain ⟨rfl, -⟩ := fetchBatchFolderDeletePlans_ok planning
  have rest₂ := get_bind_ok rest₁
  simp only at rest₂
  split at rest₂
  · exact (throw_ok rest₂).elim
  · obtain ⟨_, stored, storing, rest₃⟩ := bind_ok rest₂
    obtain ⟨_, counted, counting, rest₄⟩ := bind_ok rest₃
    obtain ⟨fileRows, removed, removing, rest₅⟩ := bind_ok rest₄
    split at rest₅
    · exact (throw_ok rest₅).elim
    · rename_i allFiles
      obtain ⟨folderRows, last, deleting, rest₆⟩ := bind_ok rest₅
      split at rest₆
      · exact (throw_ok rest₆).elim
      · rename_i allFolders
        obtain ⟨rfl, rfl⟩ := pure_ok rest₆
        rw [Decidable.not_not.mp allFiles] at removing
        rw [Decidable.not_not.mp allFolders] at deleting
        exact ⟨plans, _, stored, counted, removed, planning, rfl, storing, counting, removing, deleting, rfl⟩

/-- Moving to the trash carries every charge over from the files to the trash rows. -/
theorem moveToTrash_posts {hashOrder fileIds folderIds : List Nat} {userId : Nat}
    {result : MoveToTrashResult} (sound : before.Sound)
    (ran : (moveToTrash hashOrder fileIds folderIds userId).run before = .ok (result, after)) :
    Posts extra 0 before after := by
  obtain ⟨plans, selection, stored, counted, removed, move⟩ := moveToTrash_ok ran
  have valid : selection.Valid before userId := by
    rw [move.selected]
    exact selectForTrash_valid (fetchBatchFolderDeletePlans_ok move.planned).2 (normalizeIds_nodup fileIds)
      (normalizeIds_nodup folderIds)
  have items := Posts.forM (fun item => -(item.row userId 0).charge)
    (fun item present => valid.items_posts sound present) _ _ _ move.storing
  have counts : Posts before.Holds 0 stored counted :=
    Posts.forM_zero (fun _ _ => lowerParent_posts.mono fun _ _ _ both => both.1) _ _ _ move.counting
  have sameFiles : counted.files = before.files := by
    have one := Ensures.forM (fun first last : Db => last.files = first.files) (fun _ => rfl)
      (fun _ _ _ one two => two.trans one) (fun _ _ => insertTrashRecord_files) _ _ _ move.storing
    have two := Ensures.forM (fun first last : Db => last.files = first.files) (fun _ => rfl)
      (fun _ _ _ one two => two.trans one)
      (fun _ _ => (@lowerParent_posts before.Holds _ _ _).mono fun _ _ _ both => both.2) _ _ _ move.counting
    exact two.trans one
  obtain ⟨-, files⟩ := @deleteFilesByIds_posts before.Holds _ _ _ _ move.files
  have folders := @deleteFoldersByIds_posts before.Holds _ _ _ _ move.folders
  refine (((items.trans counts).trans files).trans folders).mono (fun _ _ held => .inl held) |>.cast ?_
  rw [sameFiles, ((valid.removed_files).map _).sum_eq, valid.items_sum sound]
  abel

theorem append_ne_empty {first second : String} (some : first ≠ "") : first ++ second ≠ "" := by
  intro empty
  have lengths := congrArg String.length empty
  simp only [String.length_append, String.length_empty] at lengths
  exact some (String.length_eq_zero_iff.mp (by omega))

theorem restoredFileName_ne_empty {itemName : String} {candidateIndex : Nat} (named : itemName ≠ "") :
    restoredFileName itemName candidateIndex ≠ "" := by
  unfold restoredFileName
  split
  · exact named
  · have numbered : extractBaseName itemName ++ " (" ++ toString candidateIndex ++ ")" ≠ "" := by
      intro empty
      have lengths := congrArg String.length empty
      simp only [String.length_append, String.length_empty] at lengths
      have parenthesis : (")" : String).length = 1 := rfl
      omega
    simp only
    split
    · exact numbered
    · exact append_ne_empty (append_ne_empty numbered)

theorem restoredFolderName_ne_empty {itemName : String} {candidateIndex : Nat} (named : itemName ≠ "") :
    restoredFolderName itemName candidateIndex ≠ "" := by
  unfold restoredFolderName
  split
  · exact named
  · exact append_ne_empty (append_ne_empty (append_ne_empty named))

section Restore

variable {trashId userId candidateIndex : Nat} {itemType : TrashItemType}

/-- The row of the trash belongs to the user and has the type. -/
theorem fetchLifecycleRow_find {item : Trash}
    (ran : (fetchLifecycleRow trashId userId itemType).run before = .ok (item, after)) :
    after = before ∧ before.trash.find? trashId = some item ∧ item.userId = userId ∧
      item.itemType = itemType := by
  have rest := get_bind_ok ran
  cases found : (before.trash.find? trashId).filter fun row => row.userId = userId with
  | none =>
      simp only [found] at rest
      exact (throw_ok rest).elim
  | some row =>
      simp only [found] at rest
      split at rest
      · rename_i typed
        obtain ⟨rfl, rfl⟩ := pure_ok rest
        obtain ⟨there, owned⟩ := Option.filter_eq_some_iff.mp found
        exact ⟨rfl, there, by simpa using owned, typed⟩
      · exact (throw_ok rest).elim

/-- The target of a restore is only read. -/
theorem restoreTarget_ok {originalFolderId : Nat} {target : Nat × FolderLocation}
    (ran : (restoreTarget originalFolderId userId).run before = .ok (target, after)) :
    after = before := by
  unfold restoreTarget at ran
  split at ran
  · exact (pure_ok ran).2
  · obtain ⟨found, middle, finding, rest⟩ := bind_ok ran
    obtain ⟨-, rfl⟩ := findOwnedFolder_ok finding
    cases found with
    | none => exact (pure_ok rest).2
    | some folder => exact (pure_ok rest).2

theorem countRestoredItem_posts {targetId : Nat} {failure : ErrorInfo} :
    Ensures (countRestoredItem targetId userId failure) fun before _ after =>
      Posts extra 0 before after := by
  intro before value after ran
  unfold countRestoredItem at ran
  split at ran
  · obtain ⟨updated, wrote, updating, checked⟩ := bind_ok ran
    split at checked
    · obtain ⟨-, rfl⟩ := pure_ok checked
      exact applyItemCountDelta_posts _ _ _ updating
    · exact (throw_ok checked).elim
  · obtain ⟨-, rfl⟩ := pure_ok ran
    exact Posts.refl _

theorem liftDecoded_ok {Value : Type} {failure : ErrorInfo} {decoded : Decoded Value} {value : Value}
    (ran : (liftDecoded failure decoded).run before = .ok (value, after)) :
    decoded = .ok value ∧ after = before := by
  cases decoded with
  | error => exact (throw_ok ran).elim
  | ok read =>
      obtain ⟨rfl, rfl⟩ := pure_ok ran
      exact ⟨rfl, rfl⟩

/-- Exactly the row of the restored item goes. -/
theorem deleteTrashRow_ok {failure : ErrorInfo} {value : Unit}
    (ran : (deleteTrashRow trashId userId itemType failure).run before = .ok (value, after)) :
    after = { before with trash := before.trash.remove fun row =>
        row.id = trashId && row.userId = userId && row.itemType = itemType } ∧
      (before.trash.rows.filter fun row =>
        row.id = trashId && row.userId = userId && row.itemType = itemType).length = 1 := by
  have rest := get_bind_ok ran
  simp only at rest
  split at rest
  · exact (throw_ok rest).elim
  · rename_i one
    exact ⟨set_ok rest, not_not.mp one⟩

/-- What a successful restore has read of its trash row, and its last two statements. -/
structure Restoration (trashId userId : Nat) (itemType : TrashItemType) (failure : ErrorInfo) (before after : Db)
    (item : Trash) (target : Nat × FolderLocation) (restored counted : Db) : Prop where
  found : before.trash.find? trashId = some item
  owned : item.userId = userId
  typed : item.itemType = itemType
  located : (restoreTarget item.originalFolderId userId).run before = .ok (target, before)
  counting : (countRestoredItem target.1 userId failure).run restored = .ok ((), counted)
  deleting : (deleteTrashRow item.id userId item.itemType failure).run counted = .ok ((), after)

/-- A successful restore of a file has inserted its row. -/
theorem restoreFile_ok {fileId : Nat}
    (ran : (restoreFile trashId userId candidateIndex).run before = .ok (fileId, after)) :
    ∃ item content target mimeType restored counted,
      Restoration trashId userId .file restoreFileFailed before after item target restored counted ∧
      resolveRequiredContentId item.contentId item.itemData = .ok content ∧
      (insertFile (NewFile.row
        { userId := userId
          contentId := content.1
          folderId := target.1
          name := restoredFileName item.itemName candidateIndex
          extension := extractExtension (restoredFileName item.itemName candidateIndex)
          size := item.itemSize
          mimeType := mimeType
          path := target.2.path ++ restoredFileName item.itemName candidateIndex
          isFavorite := 0
          downloadCount := 0 }) fun _ => rfl).run before = .ok (fileId, restored) := by
  obtain ⟨item, fetched, fetching, rest₁⟩ := bind_ok ran
  obtain ⟨rfl, found, owned, typed⟩ := fetchLifecycleRow_find fetching
  cases resolved : resolveRequiredContentId item.contentId item.itemData with
  | error error =>
      simp only [resolved] at rest₁
      exact (throw_ok rest₁).elim
  | ok content =>
      simp only [resolved] at rest₁
      obtain ⟨target, located, locating, rest₂⟩ := bind_ok rest₁
      obtain rfl := restoreTarget_ok locating
      have rest₃ := get_bind_ok rest₂
      split at rest₃
      · exact (throw_ok rest₃).elim
      · obtain ⟨mimeType, decoded, decoding, rest₄⟩ := bind_ok rest₃
        obtain ⟨-, rfl⟩ := liftDecoded_ok decoding
        obtain ⟨newId, restored, inserting, rest₅⟩ := bind_ok rest₄
        obtain ⟨_, counted, counting, rest₆⟩ := bind_ok rest₅
        obtain ⟨_, deleting, rfl⟩ := bind_pure_ok rest₆
        rw [← typed] at deleting
        exact ⟨item, content, target, mimeType, restored, counted,
          ⟨found, owned, typed, locating, counting, deleting⟩, resolved, inserting⟩

/-- A successful restore of a folder has inserted its root and the tree of its snapshot. -/
theorem restoreFolder_ok {rootId : Nat}
    (ran : (restoreFolder trashId userId candidateIndex).run before = .ok (rootId, after)) :
    ∃ item snapshot target rooted restored counted,
      Restoration trashId userId .folder restoreFolderFailed before after item target restored counted ∧
      parseFolderTreeSnapshot item.itemData = .ok snapshot ∧
      (insertNewFolder
        { userId := userId
          parentId := target.1
          name := restoredFolderName item.itemName candidateIndex
          path := target.2.path ++ restoredFolderName item.itemName candidateIndex ++ "/"
          depth := target.2.depth + 1
          itemCount := (snapshot.map fun tree => tree.root.itemCount).getD 0 }).run before = .ok (rootId, rooted) ∧
      (restoreTree userId (target.2.depth + 1) rootId
        (target.2.path ++ restoredFolderName item.itemName candidateIndex ++ "/") snapshot).run rooted =
          .ok ((), restored) := by
  obtain ⟨item, fetched, fetching, rest₁⟩ := bind_ok ran
  obtain ⟨rfl, found, owned, typed⟩ := fetchLifecycleRow_find fetching
  obtain ⟨snapshot, decoded, decoding, rest₂⟩ := bind_ok rest₁
  obtain ⟨parsed, rfl⟩ := liftDecoded_ok decoding
  obtain ⟨target, located, locating, rest₃⟩ := bind_ok rest₂
  obtain rfl := restoreTarget_ok locating
  have rest₄ := get_bind_ok rest₃
  split at rest₄
  · exact (throw_ok rest₄).elim
  · obtain ⟨newId, rooted, rooting, rest₅⟩ := bind_ok rest₄
    obtain ⟨_, restored, restoring, rest₆⟩ := bind_ok rest₅
    obtain ⟨_, counted, counting, rest₇⟩ := bind_ok rest₆
    obtain ⟨_, deleting, rfl⟩ := bind_pure_ok rest₇
    rw [← typed] at deleting
    exact ⟨item, snapshot, target, rooted, restored, counted,
      ⟨found, owned, typed, locating, counting, deleting⟩, parsed, rooting, restoring⟩

/-- The deleted trash row is the row that the restore has read at its start. -/
theorem deleteTrashRow_posts {start : Db} {item : Trash} {failure : ErrorInfo} {value : Unit}
    (present : item ∈ start.trash.rows) (later : Precedes start before)
    (ran : (deleteTrashRow item.id userId itemType failure).run before = .ok (value, after)) :
    Posts extra item.charge before after := by
  obtain ⟨rfl, one⟩ := deleteTrashRow_ok ran
  obtain ⟨row, only⟩ := List.length_eq_one_iff.mp one
  have chosen : row ∈ before.trash.rows.filter fun row =>
      row.id = item.id && row.userId = userId && row.itemType = itemType := by
    rw [only]
    exact List.mem_singleton_self row
  obtain ⟨there, selected⟩ := List.mem_filter.mp chosen
  have keyed : row.id = item.id := by
    simp only [Bool.and_eq_true, decide_eq_true_eq] at selected
    exact selected.1.1
  have bounded := (start.trash.bounded item present).2
  have early := later.trash row there (keyed ▸ bounded)
  obtain rfl : row = item := start.trash.eq_of_key early present keyed
  apply Posts.ofTrash
  · refine (sum_map_filter_not Trash.charge _ before.trash.rows).trans ?_
    rw [only]
    simp
  · exact Nat.le_refl _
  · intro other present
    exact .inl (List.mem_of_mem_filter present)

/-- A restored file takes over the charge of its trash row. -/
theorem restoreFile_posts {fileId : Nat} (sound : before.Sound)
    (ran : (restoreFile trashId userId candidateIndex).run before = .ok (fileId, after)) :
    Posts extra 0 before after := by
  obtain ⟨item, content, target, mimeType, restored, counted, restoration, resolved, inserting⟩ := restoreFile_ok ran
  have present := (Table.find?_some restoration.found).1
  have entries : item.entries = [(content.1, item.itemSize)] := by
    simp [Trash.entries, restoration.typed, resolved]
  have held : before.Holds content.1 item.itemSize :=
    .inr ⟨item, present, entries ▸ List.mem_singleton_self _⟩
  have insert := insertFile_posts (restoredFileName_ne_empty (sound.trash item present).named)
    held _ _ _ inserting
  have count := @countRestoredItem_posts before.Holds _ _ _ _ _ _ restoration.counting
  have early := insert.trans count
  have delete := @deleteTrashRow_posts before.Holds _ _ _ _ _ _ _ _ present early.precedes restoration.deleting
  refine ((early.trans delete).mono fun _ _ held => .inl held).cast ?_
  rw [Trash.charge, entries, restoration.owned]
  simp

/-- One pass inserts folders only and keeps the ones that it could not place. -/
theorem restorePass_posts {rootDepth oldRootDepth : Nat} {pending : List SnapshotFolder}
    (named : ∀ folder ∈ pending, folder.name ≠ "") (folders : FolderMap) :
    Ensures (restorePass userId rootDepth oldRootDepth pending folders) fun before result after =>
      Posts extra 0 before after ∧ ∀ folder ∈ result.1, folder ∈ pending := by
  induction pending generalizing folders with
  | nil =>
      intro before result after ran
      obtain ⟨rfl, rfl⟩ := pure_ok ran
      exact ⟨Posts.refl _, by simp⟩
  | cons folder rest ih =>
      intro before result after ran
      have others := fun other present => named other (List.mem_cons_of_mem folder present)
      unfold restorePass at ran
      split at ran
      · obtain ⟨passed, passing, rfl⟩ := bind_pure_ok ran
        obtain ⟨posts, kept⟩ := ih others folders _ _ _ passing
        refine ⟨posts, fun other present => ?_⟩
        rcases List.mem_cons.mp present with rfl | later
        · exact List.mem_cons_self
        · exact List.mem_cons_of_mem folder (kept other later)
      · obtain ⟨folderId, inserted, inserting, passing⟩ := bind_ok ran
        have insert : Posts extra 0 before inserted :=
          insertFolder_posts (named folder List.mem_cons_self) _ _ _ inserting
        obtain ⟨posts, kept⟩ := ih others _ _ _ _ passing
        exact ⟨(insert.trans posts).cast (add_zero 0),
          fun other present => List.mem_cons_of_mem folder (kept other present)⟩

theorem restoreFolders_posts {rootDepth oldRootDepth fuel : Nat} {pending : List SnapshotFolder}
    (named : ∀ folder ∈ pending, folder.name ≠ "") (folders : FolderMap) :
    Ensures (restoreFolders userId rootDepth oldRootDepth fuel pending folders) fun before _ after =>
      Posts extra 0 before after := by
  induction fuel generalizing pending folders with
  | zero =>
      intro before result after ran
      cases pending with
      | nil =>
          obtain ⟨-, rfl⟩ := pure_ok ran
          exact Posts.refl _
      | cons folder rest => exact (throw_ok ran).elim
  | succ fuel ih =>
      intro before result after ran
      cases pending with
      | nil =>
          obtain ⟨-, rfl⟩ := pure_ok ran
          exact Posts.refl _
      | cons folder rest =>
          obtain ⟨passed, middle, passing, rest₁⟩ := bind_ok ran
          obtain ⟨posts, kept⟩ := restorePass_posts named folders _ _ _ passing
          simp only at rest₁
          split at rest₁
          · exact (throw_ok rest₁).elim
          · have left := ih (fun other present => named other (kept other present)) _ _ _ _ rest₁
            exact (posts.trans left).cast (add_zero 0)

theorem restoreSnapshotFile_posts {folders : FolderMap} {file : SnapshotFile} (named : file.name ≠ "")
    (allowed : extra file.contentId file.size) :
    Ensures (restoreSnapshotFile userId folders file) fun before _ after =>
      Posts extra (-entryCharge userId (file.contentId, file.size)) before after := by
  intro before value after ran
  unfold restoreSnapshotFile at ran
  split at ran
  · exact (throw_ok ran).elim
  · obtain ⟨_, inserting, -⟩ := bind_pure_ok ran
    exact insertFile_posts named allowed _ _ _ inserting

theorem SnapshotFile.name_ne_empty {file : SnapshotFile} (kept : file.kept = true) : file.name ≠ "" := by
  simp only [SnapshotFile.kept, Bool.and_eq_true, bne_iff_ne] at kept
  exact kept.2

theorem SnapshotFolder.name_ne_empty {folder : SnapshotFolder} (kept : folder.kept = true) :
    folder.name ≠ "" := by
  simp only [SnapshotFolder.kept, Bool.and_eq_true, bne_iff_ne] at kept
  exact kept.2

/-- The restored tree takes over the charges of the entries in the snapshot. -/
theorem restoreTree_posts {rootDepth rootId : Nat} {rootPath : String} {item : Trash}
    {snapshot : Option FolderTreeSnapshot} (typed : item.itemType = .folder)
    (parsed : parseFolderTreeSnapshot item.itemData = .ok snapshot)
    (allowed : ∀ entry ∈ item.entries, extra entry.1 entry.2) :
    Ensures (restoreTree userId rootDepth rootId rootPath snapshot) fun before _ after =>
      Posts extra (item.entries.map fun entry => -entryCharge userId entry).sum before after := by
  intro before value after ran
  cases snapshot with
  | none =>
      obtain ⟨-, rfl⟩ := pure_ok ran
      have entries : item.entries = [] := by simp [Trash.entries, typed, parsed]
      exact (Posts.refl _).cast (by simp [entries])
  | some tree =>
      have entries : item.entries = tree.files.map fun file => (file.contentId, file.size) := by
        simp [Trash.entries, typed, parsed]
      obtain ⟨keptFolders, keptFiles⟩ := parseFolderTreeSnapshot_kept parsed
      obtain ⟨folders, placed, placing, inserting⟩ := bind_ok ran
      have tree : Posts extra 0 before placed := by
        refine restoreFolders_posts (fun folder present => ?_) _ _ _ _ placing
        exact SnapshotFolder.name_ne_empty (keptFolders folder present)
      refine (tree.trans (Posts.forM (fun file : SnapshotFile =>
        -entryCharge userId (file.contentId, file.size)) ?_ _ _ _ inserting)).cast ?_
      · intro file present
        refine restoreSnapshotFile_posts (SnapshotFile.name_ne_empty (keptFiles file present)) ?_
        exact allowed (file.contentId, file.size) (entries ▸ List.mem_map_of_mem present)
      · rw [zero_add, entries, List.map_map]
        rfl

/-- A restored folder takes over the charge of its trash row. -/
theorem restoreFolder_posts {folderId : Nat} (sound : before.Sound)
    (ran : (restoreFolder trashId userId candidateIndex).run before = .ok (folderId, after)) :
    Posts extra 0 before after := by
  obtain ⟨item, snapshot, target, rooted, restored, counted, restoration, parsed, rooting, restoring⟩ :=
    restoreFolder_ok ran
  have present := (Table.find?_some restoration.found).1
  have root : Posts before.Holds 0 before rooted :=
    insertFolder_posts (restoredFolderName_ne_empty (sound.trash item present).named) _ _ _ rooting
  have allowed : ∀ entry ∈ item.entries, before.Holds entry.1 entry.2 :=
    fun entry inside => .inr ⟨item, present, inside⟩
  have tree := restoreTree_posts restoration.typed parsed allowed _ _ _ restoring
  have count := @countRestoredItem_posts before.Holds _ _ _ _ _ _ restoration.counting
  have early := (root.trans tree).trans count
  have delete := @deleteTrashRow_posts before.Holds _ _ _ _ _ _ _ _ present early.precedes restoration.deleting
  refine ((early.trans delete).mono fun _ _ held => .inl held).cast ?_
  rw [Trash.charge, restoration.owned, zero_add, add_zero, ← List.sum_map_add]
  simp

end Restore

end DiskServer.Drive
