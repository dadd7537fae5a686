import DiskServer.Construction.Shares.TrashService
import DiskServer.Proof.Drive.BatchSubtrees

namespace DiskServer.Shares

open Library Drive Transaction

section Cleanup

variable {Value : Type} {before after : SharedDb}

theorem onDrive_ok {program : Tx Value} {value : Value}
    (ran : (onDrive program).run before = .ok (value, after)) :
    ∃ drive, program.run before.drive = .ok (value, drive) ∧ after = { before with drive := drive } := by
  have rest := get_bind_ok ran
  cases inner : program.run before.drive with
  | error failure =>
      rw [inner] at rest
      exact (throw_ok rest).elim
  | ok result =>
      obtain ⟨inside, drive⟩ := result
      rw [inner] at rest
      obtain ⟨rfl, rfl⟩ := set_pure_ok rest
      exact ⟨drive, rfl, rfl⟩

/-- A link to one of the listed items of a type. -/
def ShareFile.Names (itemType : ShareItemType) (itemIds : List Nat) (link : ShareFile) : Prop :=
  link.itemType = itemType ∧ link.itemId ∈ itemIds

instance (itemType : ShareItemType) (itemIds : List Nat) (link : ShareFile) :
    Decidable (link.Names itemType itemIds) := inferInstanceAs (Decidable (_ ∧ _))

theorem ShareFile.names_append {itemType : ShareItemType} {first second : List Nat} {link : ShareFile} :
    link.Names itemType (first ++ second) ↔ link.Names itemType first ∨ link.Names itemType second := by
  unfold ShareFile.Names
  rw [List.mem_append, and_or_left]

/-- What the loop over the chunks of one kind of items has deleted and found. -/
structure LinksDeleted (itemType : ShareItemType) (itemIds : List Nat) (before after : SharedDb)
    (start found : List Nat) : Prop where
  drive : after.drive = before.drive
  shares : after.shares = before.shares
  rows : after.shareFiles.rows =
    before.shareFiles.rows.filter fun link => !decide (link.Names itemType itemIds)
  found : ∀ shareId, shareId ∈ found ↔ shareId ∈ start ∨
    ∃ link ∈ before.shareFiles.rows, link.Names itemType itemIds ∧ link.shareId = shareId

theorem deleteShareLinks_deletes {itemType : ShareItemType} {start : List Nat × Nat}
    {chunk : List Nat} : Ensures (deleteShareLinks itemType start chunk) fun before last after =>
      LinksDeleted itemType chunk before after start.1 last.1 := by
  intro before last after ran
  have rest := get_bind_ok ran
  obtain ⟨rfl, rfl⟩ := set_pure_ok rest
  refine ⟨rfl, rfl, ?_, ?_⟩
  · apply List.filter_congr
    intro link _
    by_cases kind : link.itemType = itemType <;> simp [ShareFile.Names, kind]
  · intro shareId
    simp [ShareFile.Names, and_assoc]

theorem deleteShareLinks_chunks {itemType : ShareItemType} {chunks : List (List Nat)}
    {start : List Nat × Nat} :
    Ensures (chunks.foldlM (deleteShareLinks itemType) start) fun before last after =>
      LinksDeleted itemType chunks.flatten before after start.1 last.1 := by
  induction chunks generalizing start with
  | nil =>
      intro before last after ran
      rw [List.foldlM_nil] at ran
      obtain ⟨rfl, rfl⟩ := pure_ok ran
      refine ⟨rfl, rfl, ?_, ?_⟩
      · simp [ShareFile.Names]
      · simp [ShareFile.Names]
  | cons chunk rest ih =>
      intro before last after ran
      rw [List.foldlM_cons] at ran
      obtain ⟨next, middle, one, two⟩ := bind_ok ran
      have first := deleteShareLinks_deletes _ _ _ one
      have others := ih _ _ _ two
      refine ⟨others.drive.trans first.drive, others.shares.trans first.shares, ?_, ?_⟩
      · rw [others.rows, first.rows, List.filter_filter, List.flatten_cons]
        apply List.filter_congr
        intro link _
        simp only [ShareFile.names_append, Bool.decide_or, Bool.not_or]
        exact Bool.and_comm _ _
      · intro shareId
        rw [others.found, first.found, first.rows]
        constructor
        · rintro ((here | ⟨link, present, named, owner⟩) | ⟨link, present, named, owner⟩)
          · exact .inl here
          · exact .inr ⟨link, present, ShareFile.names_append.mpr (.inl named), owner⟩
          · exact .inr ⟨link, List.mem_of_mem_filter present,
              ShareFile.names_append.mpr (.inr named), owner⟩
        · rintro (here | ⟨link, present, named, owner⟩)
          · exact .inl (.inl here)
          · by_cases early : link.Names itemType chunk
            · exact .inl (.inr ⟨link, present, early, owner⟩)
            · have late := (ShareFile.names_append.mp named).resolve_left early
              exact .inr ⟨link, List.mem_filter.mpr ⟨present, by simp [early]⟩, late, owner⟩

/-- A share is cancelled when it is active, listed and without a link. -/
def Share.cancelledAmong (shareIds : List Nat) (links : List ShareFile) (now : Upload.Timestamp)
    (share : Share) : Share :=
  if share.status = ShareStatus.active.toInt ∧ share.id ∈ shareIds ∧ hasLink links share = false then
    share.cancelled now
  else
    share

theorem Share.cancelledAmong_nil (links : List ShareFile) (now : Upload.Timestamp) (share : Share) :
    share.cancelledAmong [] links now = share := by
  unfold Share.cancelledAmong
  exact if_neg fun chosen => List.not_mem_nil chosen.2.1

/-- Two rounds with the same links cancel what one round over both lists cancels. -/
theorem Share.cancelledAmong_append (first second : List Nat) (links : List ShareFile)
    (now : Upload.Timestamp) (share : Share) :
    (share.cancelledAmong first links now).cancelledAmong second links now =
      share.cancelledAmong (first ++ second) links now := by
  unfold Share.cancelledAmong
  by_cases early : share.status = ShareStatus.active.toInt ∧ share.id ∈ first ∧
      hasLink links share = false
  · have both : share.status = ShareStatus.active.toInt ∧ share.id ∈ first ++ second ∧
        hasLink links share = false := ⟨early.1, List.mem_append_left _ early.2.1, early.2.2⟩
    have ended : (share.cancelled now).status ≠ ShareStatus.active.toInt :=
      show ShareStatus.cancelled.toInt ≠ ShareStatus.active.toInt by decide
    rw [if_pos early, if_pos both, if_neg fun chosen => ended chosen.1]
  · rw [if_neg early]
    by_cases late : share.status = ShareStatus.active.toInt ∧ share.id ∈ second ∧
        hasLink links share = false
    · rw [if_pos late, if_pos ⟨late.1, List.mem_append_right _ late.2.1, late.2.2⟩]
    · have neither : ¬ (share.status = ShareStatus.active.toInt ∧ share.id ∈ first ++ second ∧
          hasLink links share = false) := by
        rintro ⟨active, listed, empty⟩
        rcases List.mem_append.mp listed with here | there
        · exact early ⟨active, here, empty⟩
        · exact late ⟨active, there, empty⟩
      rw [if_neg late, if_neg neither]

/-- What the loop over the chunks of affected shares has cancelled. -/
structure SharesCancelled (shareIds : List Nat) (before after : SharedDb) : Prop where
  drive : after.drive = before.drive
  shareFiles : after.shareFiles = before.shareFiles
  rows : after.shares.rows = before.shares.rows.map
    (Share.cancelledAmong shareIds before.shareFiles.rows before.drive.now)

theorem cancelEmptyShares_cancels {count : Nat} {chunk : List Nat} :
    Ensures (cancelEmptyShares count chunk) fun before _ after =>
      SharesCancelled chunk before after := by
  intro before last after ran
  have rest := get_bind_ok ran
  obtain ⟨rfl, rfl⟩ := set_pure_ok rest
  refine ⟨rfl, rfl, ?_⟩
  apply List.map_congr_left
  intro share _
  simp [Share.cancelledAmong, and_assoc]

theorem cancelEmptyShares_chunks {count : Nat} {chunks : List (List Nat)} :
    Ensures (chunks.foldlM cancelEmptyShares count) fun before _ after =>
      SharesCancelled chunks.flatten before after := by
  induction chunks generalizing count with
  | nil =>
      intro before last after ran
      rw [List.foldlM_nil] at ran
      obtain ⟨rfl, rfl⟩ := pure_ok ran
      refine ⟨rfl, rfl, ?_⟩
      have same : Share.cancelledAmong [] after.shareFiles.rows after.drive.now = id := by
        funext share
        exact Share.cancelledAmong_nil _ _ share
      rw [List.flatten_nil, same, List.map_id]
  | cons chunk rest ih =>
      intro before last after ran
      rw [List.foldlM_cons] at ran
      obtain ⟨next, middle, one, two⟩ := bind_ok ran
      have first := cancelEmptyShares_cancels _ _ _ one
      have others := ih _ _ _ two
      refine ⟨others.drive.trans first.drive, others.shareFiles.trans first.shareFiles, ?_⟩
      rw [others.rows, first.rows, first.shareFiles, first.drive, List.map_map]
      apply List.map_congr_left
      intro share _
      exact Share.cancelledAmong_append _ _ _ _ share

/-- A link to one of the listed files or folders. -/
def ShareFile.Moved (fileIds folderIds : List Nat) (link : ShareFile) : Prop :=
  link.Names .file fileIds ∨ link.Names .folder folderIds

instance (fileIds folderIds : List Nat) (link : ShareFile) :
    Decidable (link.Moved fileIds folderIds) := inferInstanceAs (Decidable (_ ∨ _))

/-- A share that was active and had links, and has none any more. -/
def Share.LostLastLink (before after : List ShareFile) (share : Share) : Prop :=
  share.status = ShareStatus.active.toInt ∧ hasLink before share = true ∧ hasLink after share = false

instance (before after : List ShareFile) (share : Share) :
    Decidable (share.LostLastLink before after) := inferInstanceAs (Decidable (_ ∧ _ ∧ _))

/-- The links to the listed items are gone, and the shares that lost their last one are cancelled. -/
structure LinksCleaned (fileIds folderIds : List Nat) (before after : SharedDb) : Prop where
  drive : after.drive = before.drive
  links : after.shareFiles.rows =
    before.shareFiles.rows.filter fun link => !decide (link.Moved fileIds folderIds)
  shares : after.shares.rows = before.shares.rows.map fun share =>
    if share.LostLastLink before.shareFiles.rows after.shareFiles.rows then
      share.cancelled before.drive.now
    else share

theorem hasLink_iff {links : List ShareFile} {share : Share} :
    hasLink links share = true ↔ ∃ link ∈ links, link.shareId = share.id := by
  simp [hasLink]

theorem cleanup_cleans {fileIds folderIds : List Nat} :
    Ensures (cleanupShareLinksForMovedItems fileIds folderIds) fun before _ after =>
      LinksCleaned fileIds folderIds before after := by
  intro before stats after ran
  obtain ⟨fileLinks, unfiled, unfiling, rest₁⟩ := bind_ok ran
  obtain ⟨folderLinks, unlinked, unlinking, rest₂⟩ := bind_ok rest₁
  obtain ⟨count, cancelling, -⟩ := bind_pure_ok rest₂
  have files := deleteShareLinks_chunks _ _ _ unfiling
  have folders := deleteShareLinks_chunks _ _ _ unlinking
  have shares := cancelEmptyShares_chunks _ _ _ cancelling
  rw [flatten_chunkItems (by decide)] at files folders shares
  have links : after.shareFiles.rows =
      before.shareFiles.rows.filter fun link => !decide (link.Moved fileIds folderIds) := by
    rw [shares.shareFiles, folders.rows, files.rows, List.filter_filter]
    apply List.filter_congr
    intro link _
    by_cases file : link.Names .file fileIds <;> simp [ShareFile.Moved, file]
  refine ⟨shares.drive.trans (folders.drive.trans files.drive), links, ?_⟩
  have drive : unlinked.drive = before.drive := folders.drive.trans files.drive
  have stored : unlinked.shares = before.shares := folders.shares.trans files.shares
  rw [shares.rows, ← shares.shareFiles, stored, drive]
  apply List.map_congr_left
  intro share _
  have affected : hasLink after.shareFiles.rows share = false →
      (share.id ∈ normalizeIds folderLinks.1 ↔ hasLink before.shareFiles.rows share = true) := by
    intro empty
    rw [mem_normalizeIds, folders.found, files.found, hasLink_iff, files.rows]
    constructor
    · rintro ((none | ⟨link, present, -, owner⟩) | ⟨link, present, -, owner⟩)
      · cases none
      · exact ⟨link, present, owner⟩
      · exact ⟨link, List.mem_of_mem_filter present, owner⟩
    · rintro ⟨link, present, owner⟩
      have gone : link ∉ after.shareFiles.rows := by
        intro still
        rw [hasLink_iff.mpr ⟨link, still, owner⟩] at empty
        cases empty
      rw [links, List.mem_filter] at gone
      have moved : link.Moved fileIds folderIds := by
        by_contra other
        exact gone ⟨present, by simp [other]⟩
      by_cases file : link.Names .file fileIds
      · exact .inl (.inr ⟨link, present, file, owner⟩)
      · exact .inr ⟨link, List.mem_filter.mpr ⟨present, by simp [file]⟩,
          moved.resolve_left file, owner⟩
  unfold Share.cancelledAmong Share.LostLastLink
  congr 1
  apply propext
  constructor
  · rintro ⟨active, listed, empty⟩
    exact ⟨active, (affected empty).mp listed, empty⟩
  · rintro ⟨active, linked, empty⟩
    exact ⟨active, (affected empty).mpr linked, empty⟩

end Cleanup

section Removal

variable {hashOrder fileIds folderIds : List Nat} {userId : Nat} {result : MoveToTrashResult}
  {before after : Db}

/-- A file row that was there and is not there any more. -/
def RemovedFile (before after : Db) (fileId : Nat) : Prop :=
  (∃ file ∈ before.files.rows, file.id = fileId) ∧ ∀ file ∈ after.files.rows, file.id ≠ fileId

/-- The folder was there before and is gone after. -/
def RemovedFolder (before after : Db) (folderId : Nat) : Prop :=
  (∃ folder ∈ before.folders.rows, folder.id = folderId) ∧
    ∀ folder ∈ after.folders.rows, folder.id ≠ folderId

/-- The result of a delete names exactly the removed rows, and whole subtrees of folders. -/
structure Removes (userId : Nat) (before after : Db) (result : MoveToTrashResult) : Prop where
  files : ∀ fileId, fileId ∈ result.removedFileIds ↔ RemovedFile before after fileId
  folders : ∀ folderId, folderId ∈ result.removedFolderIds ↔ RemovedFolder before after folderId
  closed : ∀ root ∈ before.folders.rows, root.id ∈ result.removedFolderIds →
    ∀ folder : Folder, folder.Below before userId root → folder.id ∈ result.removedFolderIds

/-- The part of the drive that the steps before the deletes keep. -/
def kept (db : Db) : List Folder × Serial File File.id := (db.shapes, db.files)

instance : IgnoresTrash kept where
  trash := fun _ _ => rfl

instance : IgnoresRows Db.now where
  folders := fun _ _ => rfl
  files := fun _ _ => rfl

instance : IgnoresTrash Db.now where
  trash := fun _ _ => rfl

theorem countedOrFailed_kept {folderId : Nat} {delta : Int} {failure : ErrorInfo} :
    KeepsFrame kept (do
      let updated ← applyItemCountDelta folderId userId delta
      if updated then pure () else throw failure : Tx Unit) := by
  refine keepsFrame_bind applyItemCountDelta_shapes fun updated => ?_
  split
  · exact keepsFrame_pure _
  · exact keepsFrame_throw _

theorem mem_folder_ids {first second : Db} (same : first.shapes = second.shapes) (folderId : Nat) :
    (∃ folder ∈ first.folders.rows, folder.id = folderId) ↔
      ∃ folder ∈ second.folders.rows, folder.id = folderId := by
  have ids : first.folders.rows.map Folder.id = second.folders.rows.map Folder.id := by
    have mapped := congrArg (List.map Folder.id) same
    simpa [Db.shapes, Folder.shape, Function.comp_def] using mapped
  rw [← List.mem_map, ← List.mem_map, ids]

/-- A delete that removes as many rows as it has ids removes a row for each id. -/
theorem mem_ids_iff {Row : Type} {key : Row → Nat} (table : Table Row key) {ids : List Nat}
    (all : (table.rows.filter fun row => ids.contains (key row)).length = ids.length) (id : Nat) :
    id ∈ ids ↔ (∃ row ∈ table.rows, key row = id) ∧
      ∀ row ∈ (table.remove fun row => ids.contains (key row)).rows, key row ≠ id := by
  constructor
  · intro listed
    obtain ⟨row, chosen, keyed⟩ := List.mem_map.mp ((table.filter_keys_perm all).mem_iff.mpr listed)
    refine ⟨⟨row, List.mem_of_mem_filter chosen, keyed⟩, ?_⟩
    intro other present same
    have left := (Table.mem_remove.mp present).2
    rw [same] at left
    simp [listed] at left
  · rintro ⟨⟨row, present, rfl⟩, absent⟩
    by_contra unlisted
    exact absent row (Table.mem_remove.mpr ⟨present, by simpa using unlisted⟩) rfl

theorem deleteFilesByIds_removed {ids : List Nat}
    (ran : (deleteFilesByIds ids).run before = .ok (ids.length, after)) :
    after.folders = before.folders ∧ ∀ fileId, fileId ∈ ids ↔ RemovedFile before after fileId := by
  obtain ⟨all, rfl⟩ := deleteFilesByIds_ok ran
  exact ⟨rfl, mem_ids_iff before.files.toTable all.symm⟩

theorem deleteFoldersByIds_removed {ids : List Nat}
    (ran : (deleteFoldersByIds ids).run before = .ok (ids.length, after)) :
    after.files = before.files ∧ ∀ folderId, folderId ∈ ids ↔ RemovedFolder before after folderId := by
  obtain ⟨all, rfl⟩ := deleteFoldersByIds_ok ran
  exact ⟨rfl, mem_ids_iff before.folders.toTable all.symm⟩

/-- A selected plan holds whole subtrees. -/
theorem selection_closed {plans : List (Nat × FolderDeletePlan)}
    (planned : ∀ plan ∈ plans, PlanOf before userId plan) {root folder : Folder}
    (stored : root ∈ before.folders.rows)
    (listed : root.id ∈ (selectForTrash before userId fileIds folderIds plans).folderIds)
    (below : folder.Below before userId root) :
    folder.id ∈ (selectForTrash before userId fileIds folderIds plans).folderIds := by
  rw [TrashSelection.folderIds, mem_normalizeIds, List.mem_flatMap] at listed ⊢
  obtain ⟨plan, selected, inside⟩ := listed
  refine ⟨plan, selected, ?_⟩
  obtain ⟨folderId, -, relocked⟩ := List.mem_filterMap.mp selected
  obtain ⟨source, found, rfl⟩ := Option.map_eq_some_iff.mp relocked
  obtain ⟨pair, located, rfl⟩ := Option.map_eq_some_iff.mp found
  obtain ⟨top, topStored, -, tree⟩ := (planned pair (List.mem_of_find?_eq_some located)).top
  obtain ⟨other, here, keyed⟩ := List.mem_map.mp inside
  have otherBelow := (tree other).mp here
  have same : other = root :=
    before.folders.eq_of_key (mem_of_below topStored otherBelow) stored keyed
  exact List.mem_map_of_mem ((tree folder).mpr (below.trans (same ▸ otherBelow)))

/-- The result names exactly the rows that went. -/
theorem moveToTrash_removes
    (ran : (Drive.moveToTrash hashOrder fileIds folderIds userId).run before = .ok (result, after)) :
    Removes userId before after result := by
  obtain ⟨plans, selection, stored, counted, unfiled, move⟩ := moveToTrash_ok ran
  have first : kept stored = kept before :=
    keepsFrame_forM (fun _ _ => insertTrashRecord_keeps) _ _ _ move.storing
  have second : kept counted = kept stored :=
    keepsFrame_forM (fun _ _ => countedOrFailed_kept) _ _ _ move.counting
  obtain ⟨shapes, files⟩ := Prod.mk.inj (second.trans first)
  obtain ⟨sameFolders, fileIds⟩ := deleteFilesByIds_removed move.files
  obtain ⟨sameFiles, folderIds⟩ := deleteFoldersByIds_removed move.folders
  rw [move.result]
  refine ⟨?_, ?_, ?_⟩
  · intro fileId
    rw [fileIds, RemovedFile, RemovedFile, sameFiles, files]
  · intro folderId
    rw [folderIds, RemovedFolder, RemovedFolder, sameFolders, mem_folder_ids shapes]
  · intro root present listed folder below
    rw [move.selected] at listed ⊢
    exact selection_closed (fetchBatchFolderDeletePlans_ok move.planned).2 present listed below

end Removal

section MoveToTrash

variable {hashOrder fileIds folderIds : List Nat} {userId : Nat} {result : MoveToTrashResult}

theorem bind_run {State Failure Value Result : Type} {program : Transaction State Failure Value}
    {next : Value → Transaction State Failure Result} {before middle : State} {value : Value}
    (ran : program.run before = .ok (value, middle)) :
    (program >>= next).run before = (next value).run middle := by
  rw [StateT.run_bind, ran]
  rfl

/-- With its share links a delete does to the drive what it does alone, and it cleans the links up. -/
theorem moveToTrash_splits {before after : SharedDb}
    (ran : (moveToTrash hashOrder fileIds folderIds userId).run before = .ok (result, after)) :
    (Drive.moveToTrash hashOrder fileIds folderIds userId).run before.drive =
        .ok (result, after.drive) ∧
      ∃ start last : SharedDb, start.drive.now = before.drive.now ∧
        start.shares = before.shares ∧ start.shareFiles = before.shareFiles ∧
        LinksCleaned result.removedFileIds result.removedFolderIds start last ∧
        after.shares = last.shares ∧ after.shareFiles = last.shareFiles := by
  obtain ⟨plans, planned, planning, rest₁⟩ := bind_ok ran
  obtain ⟨drive₁, plan, rfl⟩ := onDrive_ok planning
  obtain ⟨rfl, -⟩ := fetchBatchFolderDeletePlans_ok plan
  have rest₂ := get_bind_ok rest₁
  simp only at rest₂
  split at rest₂
  · exact (throw_ok rest₂).elim
  · rename_i filled
    obtain ⟨_, inserted, inserting, rest₃⟩ := bind_ok rest₂
    obtain ⟨drive₂, insert, rfl⟩ := onDrive_ok inserting
    obtain ⟨_, lowered, lowering, rest₄⟩ := bind_ok rest₃
    obtain ⟨drive₃, lower, rfl⟩ := onDrive_ok lowering
    obtain ⟨stats, cleaned, cleaning, rest₅⟩ := bind_ok rest₄
    have clean := cleanup_cleans _ _ _ cleaning
    obtain ⟨fileRows, unfiled, unfiling, rest₆⟩ := bind_ok rest₅
    obtain ⟨drive₄, unfile, rfl⟩ := onDrive_ok unfiling
    rw [clean.drive] at unfile
    split at rest₆
    · exact (throw_ok rest₆).elim
    · rename_i allFiles
      obtain ⟨folderRows, removed, removing, rest₇⟩ := bind_ok rest₆
      obtain ⟨drive₅, remove, rfl⟩ := onDrive_ok removing
      split at rest₇
      · exact (throw_ok rest₇).elim
      · rename_i allFolders
        obtain ⟨rfl, rfl⟩ := pure_ok rest₇
        constructor
        · unfold Drive.moveToTrash
          rw [bind_run plan, bind_run (show (get : Tx Db).run before.drive =
            .ok (before.drive, before.drive) from rfl)]
          dsimp only
          rw [if_neg filled, bind_run insert, bind_run lower, bind_run unfile, if_neg allFiles,
            bind_run remove, if_neg allFolders]
          rfl
        · refine ⟨_, cleaned, ?_, ?_, ?_, clean, rfl, rfl⟩
          · have first : drive₂.now = before.drive.now :=
              keepsFrame_forM (fun _ _ => insertTrashRecord_keeps) _ _ _ insert
            have second : drive₃.now = drive₂.now :=
              keepsFrame_forM (fun _ _ => countedOrFailed_keeps) _ _ _ lower
            exact second.trans first
          · rfl
          · rfl

/-- A link to an item that the delete has removed. -/
def ShareFile.Gone (before after : Db) (link : ShareFile) : Prop :=
  match link.itemType with
  | .file => RemovedFile before after link.itemId
  | .folder => RemovedFolder before after link.itemId

/-- What a delete leaves of the links and the shares. -/
structure LinksFollow (userId : Nat) (before after : SharedDb) : Prop where
  files : ∀ link ∈ after.shareFiles.rows, link.itemType = .file →
    ¬ RemovedFile before.drive after.drive link.itemId
  folders : ∀ link ∈ after.shareFiles.rows, link.itemType = .folder →
    ∀ root ∈ before.drive.folders.rows, RemovedFolder before.drive after.drive root.id →
    ∀ folder : Folder, folder.Below before.drive userId root → link.itemId ≠ folder.id
  links : ∀ link, link ∈ after.shareFiles.rows ↔
    link ∈ before.shareFiles.rows ∧ ¬ link.Gone before.drive after.drive
  shares : after.shares.rows = before.shares.rows.map fun share =>
    if share.LostLastLink before.shareFiles.rows after.shareFiles.rows then
      share.cancelled before.drive.now
    else share

/-- A link goes exactly when its item does. -/
theorem Removes.moved {before after : Db} (removes : Removes userId before after result)
    (link : ShareFile) :
    link.Moved result.removedFileIds result.removedFolderIds ↔ link.Gone before after := by
  unfold ShareFile.Moved ShareFile.Names ShareFile.Gone
  cases link.itemType with
  | file => simp [removes.files]
  | folder => simp [removes.folders]

/-- A delete takes the links of what it removes along and cancels the shares that it empties. -/
theorem moveToTrash_links_follow {before after : SharedDb}
    (ran : (moveToTrash hashOrder fileIds folderIds userId).run before = .ok (result, after)) :
    LinksFollow userId before after := by
  obtain ⟨alone, start, last, now, shares, shareFiles, clean, lastShares, lastLinks⟩ :=
    moveToTrash_splits ran
  have removes := moveToTrash_removes alone
  have links : ∀ link, link ∈ after.shareFiles.rows ↔
      link ∈ before.shareFiles.rows ∧ ¬ link.Gone before.drive after.drive := by
    intro link
    rw [lastLinks, clean.links, shareFiles, List.mem_filter, ← removes.moved]
    simp
  refine ⟨?_, ?_, links, ?_⟩
  · intro link present kind removed
    apply ((links link).mp present).2
    rw [ShareFile.Gone, kind]
    exact removed
  · intro link present kind root stored removed folder below same
    apply ((links link).mp present).2
    have inside := removes.closed root stored ((removes.folders root.id).mpr removed) folder below
    rw [ShareFile.Gone, kind, same]
    exact (removes.folders folder.id).mp inside
  · rw [lastShares, lastLinks, clean.shares, shares, shareFiles, now]

/-- One share holds the outer folder and the other one a file that exists no more. -/
def sharedNested : SharedDb where
  drive := nestedDb
  shares := ⟨⟨[⟨1, "one", 1, none, "view", 0, 0, 1, none, 0⟩, ⟨2, "two", 1, none, "view", 0, 0, 1, none, 0⟩],
    by decide⟩, 4, by decide, by decide⟩
  shareFiles := ⟨⟨[⟨1, 1, .folder, 1⟩, ⟨2, 2, .file, 7⟩], by decide⟩, 4, by decide, by decide⟩

/-- A shared file in a trashed folder. -/
theorem moveToTrash_links_follow_nested :
    ∃ result after, (moveToTrash [1] [] [1] 1).run sharedNested = .ok (result, after) ∧
      LinksFollow 1 sharedNested after ∧ after.shares.rows.map Share.status = [0, 1] := by
  have done : ((moveToTrash [1] [] [1] 1).run sharedNested).map
      (fun ran => ran.2.shares.rows.map Share.status) = .ok [0, 1] := by
    decide +kernel
  cases ran : (moveToTrash [1] [] [1] 1).run sharedNested with
  | error failure =>
      rw [ran] at done
      cases done
  | ok pair =>
      obtain ⟨result, after⟩ := pair
      rw [ran] at done
      exact ⟨result, after, rfl, moveToTrash_links_follow ran, Except.ok.inj done⟩

end MoveToTrash

end DiskServer.Shares
