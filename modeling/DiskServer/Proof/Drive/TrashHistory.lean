import DiskServer.Construction.Drive.Extensions
import DiskServer.Proof.Drive.Conservation
import DiskServer.Proof.Drive.RequestFrame
import DiskServer.Proof.Drive.TreeInsert

namespace DiskServer.Drive

open Library Transaction Upload Jobs

/-- The folder rows that a restore of the row inserts. -/
def Trash.folderCount (row : Trash) : Nat :=
  match row.itemType with
  | .file => 0
  | .folder =>
      match parseFolderTreeSnapshot row.itemData with
      | .ok (some snapshot) => snapshot.folders.length + 1
      | _ => 1

/-- A restore inserts the rows that the trash row keeps and leaves every counter alone. -/
structure Trash.Restored (row : Trash) (before after : Db) : Prop where
  users : after.users = before.users
  contents : after.contents = before.contents
  files : ∃ files, after.files.rows = before.files.rows ++ files ∧ files.map File.entry = row.entries ∧
    ∀ file ∈ files, file.userId = row.userId
  folders : after.folders.rows.length = before.folders.rows.length + row.folderCount

/-- The references that the rows hold, one for each stored file. -/
def trashReferencesOf (rows : List Trash) (contentId : Nat) : Nat :=
  (rows.flatMap fun row => row.entries.map Prod.fst).count contentId

/-- The bytes that the trash rows of a user account for. -/
def trashBytesOf (rows : List Trash) (userId : Nat) : Nat :=
  ((rows.filter fun row => row.userId = userId).map Trash.itemSize).sum

/-- A delete takes every reference of the rows from its content and every size from its user. -/
structure TrashDeleted (rows : List Trash) (before after : Db) : Prop where
  folders : after.folders = before.folders
  files : after.files = before.files
  contents : ∀ contentId, after.contents.find? contentId =
    (before.contents.find? contentId).map fun content =>
      { content with refCount := content.refCount - trashReferencesOf rows contentId }
  users : ∀ userId, after.users.find? userId = (before.users.find? userId).map fun user =>
    { user with storageUsed := user.storageUsed - trashBytesOf rows userId }

/-- The used up rows are gone, and the only other change is that rows with new ids stand at the end. -/
structure TrashStep (before after : Serial Trash Trash.id) (used : List Trash) : Prop where
  stored : ∀ row ∈ used, row ∈ before.rows
  once : (used.map Trash.id).Nodup
  next : before.next ≤ after.next
  rows : ∃ added, after.rows =
      (before.rows.filter fun row => !(used.map Trash.id).contains row.id) ++ added ∧
    ∀ id, id ∈ added.map Trash.id ↔ before.next ≤ id ∧ id < after.next

theorem TrashStep.same {before after : Serial Trash Trash.id} (same : after = before) :
    TrashStep before after [] where
  stored := by simp
  once := by simp
  next := Nat.le_of_eq (congrArg Serial.next same.symm)
  rows := by
    refine ⟨[], by simp [same], fun id => ?_⟩
    rw [same]
    simp only [List.map_nil, List.not_mem_nil, false_iff]
    omega

/-- Steps that use up nothing follow each other. -/
theorem TrashStep.trans {first second third : Serial Trash Trash.id} (one : TrashStep first second [])
    (two : TrashStep second third []) : TrashStep first third [] where
  stored := by simp
  once := by simp
  next := one.next.trans two.next
  rows := by
    obtain ⟨added, rows, ids⟩ := one.rows
    obtain ⟨later, rows', ids'⟩ := two.rows
    have before := one.next
    have after := two.next
    refine ⟨added ++ later, ?_, fun id => ?_⟩
    · simpa [rows] using rows'
    · rw [List.map_append, List.mem_append, ids, ids']
      omega

/-- Removing stored rows by their ids uses them up. -/
theorem TrashStep.remove {trash : Serial Trash Trash.id} {used : List Trash} {select : Trash → Bool}
    (stored : ∀ row ∈ used, row ∈ trash.rows) (once : (used.map Trash.id).Nodup)
    (selected : ∀ row ∈ trash.rows, select row = (used.map Trash.id).contains row.id) :
    TrashStep trash (trash.remove select) used where
  stored := stored
  once := once
  next := Nat.le_refl _
  rows := by
    refine ⟨[], ?_, fun id => ?_⟩
    · rw [List.append_nil]
      apply List.filter_congr
      intro row present
      rw [selected row present]
    · rw [Serial.remove_next]
      simp only [List.map_nil, List.not_mem_nil, false_iff]
      omega

theorem TrashStep.insert (trash : Serial Trash Trash.id) (build : Nat → Trash)
    (keyed : ∀ id, (build id).id = id) : TrashStep trash (trash.insert build keyed) [] where
  stored := by simp
  once := by simp
  next := Nat.le_succ _
  rows := by
    refine ⟨[build trash.next], by simp, fun id => ?_⟩
    simp only [List.map_cons, List.map_nil, List.mem_singleton, keyed, Serial.insert_next]
    omega

section Delete

variable {before after : Db}

theorem enqueue_others {job : NewStorageJob} : KeepsFrame Db.others (enqueue job) := by
  refine keepsFrame_get_bind fun before => ?_
  split
  · exact keepsFrame_pure _ before
  · exact keepsFrameAt_bind (keepsFrameAt_set rfl) fun _ => keepsFrame_pure _

theorem enqueueOrRearmSucceeded_others {job : NewStorageJob} {failure : ErrorInfo} :
    KeepsFrame Db.others (enqueueOrRearmSucceeded job failure) := by
  refine keepsFrame_get_bind fun before => ?_
  split
  · exact enqueue_others before
  · split
    · exact keepsFrameAt_bind (keepsFrameAt_set rfl) fun _ => keepsFrame_pure _
    · split
      · exact keepsFrame_pure _ before
      · exact keepsFrame_throw _ before

/-- The clamp changes no count that covers what is taken from it. -/
theorem releaseContents_find {contentIds : List Nat} {value : Unit}
    (covered : ∀ contentId ∈ contentIds, ∃ row ∈ before.contents.rows, row.id = contentId ∧
      (contentIds.count contentId : Int) ≤ row.refCount)
    (ran : (releaseContents contentIds).run before = .ok (value, after)) (wanted : Nat) :
    after.contents.find? wanted = (before.contents.find? wanted).map fun row =>
      { row with refCount := row.refCount - (contentIds.count wanted : Nat) } := by
  unfold releaseContents at ran
  split at ran
  · rename_i nothing
    obtain ⟨-, rfl⟩ := pure_ok ran
    simp [nothing]
  · unfold decrementRefCountsAndEnqueueGc at ran
    simp only [countOccurrences_positive, countOccurrences_keys] at ran
    obtain ⟨_, wrote, written, rest⟩ := bind_ok ran
    have queued := get_bind_ok rest
    have jobs : Db.others after = Db.others wrote := by
      refine keepsFrame_forM (fun row _ => ?_) _ _ _ queued
      exact keepsFrame_bind enqueueOrRearmSucceeded_others fun _ => keepsFrame_pure _
    have contents : after.contents = wrote.contents := congrArg (fun rows => rows.2.2) jobs
    obtain rfl := modify_ok written
    rw [contents]
    have updated := before.contents.find?_update_select (fun row => contentIds.dedup.contains row.id)
      (fun row => { row with refCount := max (row.refCount - amountOf (countOccurrences contentIds) row.id) 0 })
      (fun _ => rfl) wanted
    refine updated.trans (Option.map_congr fun row found => ?_)
    obtain ⟨present, keyed⟩ := Table.find?_some found
    by_cases named : wanted ∈ contentIds
    · obtain ⟨other, there, same, enough⟩ := covered wanted named
      obtain rfl := before.contents.eq_of_key there present (same.trans keyed.symm)
      rw [if_pos (by simpa [keyed] using named), amountOf_countOccurrences, keyed,
        max_eq_left (by omega)]
    · rw [if_neg (by simpa [keyed] using named), List.count_eq_zero_of_not_mem named]
      simp

theorem freedBytes_eq_trashBytesOf (deletions : List (Trash × List Nat)) (userId : Nat) :
    freedBytes deletions userId = trashBytesOf (deletions.map Prod.fst) userId := by
  simp only [freedBytes, trashBytesOf, List.filter_map, List.map_map]
  rfl

theorem deleteTrashByIds_ok {trashIds : List Nat} {deleted : Nat}
    (ran : (deleteTrashByIds trashIds).run before = .ok (deleted, after)) :
    after = { before with trash := before.trash.remove fun row => trashIds.contains row.id } := by
  have rest := get_bind_ok ran
  obtain ⟨_, last, written, returned⟩ := bind_ok rest
  obtain rfl := set_ok written
  exact (pure_ok returned).2

/-- A permanent delete uses up the stored rows that it has collected. -/
theorem permanentlyDeleteTrashItems_consumes {earlier : Db} {items : List Trash} {requireValid : Bool}
    {result : PermanentDeleteResult} (sound : before.Sound) (balanced : before.Exact)
    (known : ∀ item ∈ items, item ∈ earlier.trash.rows) (later : Precedes earlier before)
    (ran : (permanentlyDeleteTrashItems items requireValid).run before = .ok (result, after))
    {deletions : List (Trash × List Nat)} (collected : collectDeletions requireValid items = .ok deletions) :
    TrashStep before.trash after.trash (deletions.map Prod.fst) ∧
      TrashDeleted (deletions.map Prod.fst) before after := by
  obtain ⟨others, same, found⟩ := permanentlyDeleteTrashItems_ok ran
  obtain rfl := Except.ok.inj (collected.symm.trans same)
  rcases found with ⟨rfl, rfl⟩ | ⟨counted, deleted, removed, value, counting, removing, complete,
    refunding⟩
  · refine ⟨TrashStep.same rfl, rfl, rfl, fun contentId => ?_, fun userId => ?_⟩
    · simp [trashReferencesOf]
    · simp [trashBytesOf]
  · have listed := collectDeletions_ok collected
    obtain ⟨sameUsers, sameTrash⟩ := releaseContents_owners _ _ _ counting
    have number := (@deleteTrashByIds_posts (fun _ _ => True) _ _ _ _ removing).1
    rw [sameTrash] at number
    have stored := deletions_perm (fun item present => by
      obtain ⟨deletion, there, rfl⟩ := List.mem_map.mp present
      exact known _ (listed deletion there).1) later (number ▸ complete)
    have present : ∀ row ∈ deletions.map Prod.fst, row ∈ before.trash.rows :=
      fun row there => List.mem_of_mem_filter (stored.mem_iff.mpr there)
    have read : ∀ deletion ∈ deletions,
        deletion.1.Sound ∧ trashContentIds deletion.1 = .ok deletion.2 :=
      fun deletion there =>
        ⟨sound.trash _ (present _ (List.mem_map_of_mem there)), (listed deletion there).2⟩
    obtain ⟨coveredRefs, coveredUsers⟩ := deletions_covered balanced read stored
    obtain rfl := deleteTrashByIds_ok removing
    have rows : after.rows = Db.rows
        { counted with trash := counted.trash.remove fun row =>
          ((deletions.map Prod.fst).map Trash.id).contains row.id } :=
      keepsFrame_forM (fun _ _ => adjustUsedStorageChecked_keeps) _ _ _ refunding
    have kept : counted.rows = before.rows := releaseContents_keeps _ _ _ counting
    have refunds : KeepsFrame Db.contents
        ((deletions.map fun deletion => deletion.1.userId).dedup.forM fun userId =>
          adjustUsedStorageChecked userId (-(freedBytes deletions userId : Int))) :=
      keepsFrame_forM fun _ _ => adjustUsedStorageChecked_frame fun _ _ => rfl
    have contents : after.contents = counted.contents := (refunds _ _ _ refunding).trans rfl
    refine ⟨?_, ?_, ?_, fun contentId => ?_, fun userId => ?_⟩
    · have trash : after.trash = before.trash.remove fun row =>
          ((deletions.map Prod.fst).map Trash.id).contains row.id := by
        rw [← sameTrash]
        exact congrArg (fun rows => rows.2.2) rows
      rw [trash]
      refine TrashStep.remove present ?_ fun _ _ => rfl
      have ids := stored.map Trash.id
      exact ids.nodup_iff.mp (before.trash.distinct.sublist
        (List.Sublist.map Trash.id List.filter_sublist))
    · exact (congrArg Prod.fst rows).trans (congrArg Prod.fst kept)
    · exact (congrArg (fun rows => rows.2.1) rows).trans (congrArg (fun rows => rows.2.1) kept)
    · rw [contents, releaseContents_find coveredRefs counting, trashReferencesOf, deletions_contents read]
    · rw [refundUsers_find userId (List.nodup_dedup _) (fun other _ user found => ?_) refunding]
      · rw [← freedBytes_eq_trashBytesOf, ← sameUsers]
        apply Option.map_congr
        intro user found
        split
        · rfl
        · rename_i absent
          simp [freedBytes_eq_zero absent]
      · rw [sameUsers] at found
        obtain ⟨there, rfl⟩ := Table.find?_some found
        exact coveredUsers user there

end Delete

section Restore

variable {before after : Db} {trashId userId candidateIndex : Nat}

/-- The files and the number of the folders. -/
def Db.seats (db : Db) : Serial File File.id × Nat := (db.files, db.folders.rows.length)

theorem applyItemCountDelta_seats {folderId : Nat} {delta : Int} :
    KeepsFrame Db.seats (applyItemCountDelta folderId userId delta) := by
  refine keepsFrame_get_bind fun before => ?_
  split
  · refine keepsFrame_bind ?_ (fun _ => keepsFrame_pure _) before
    exact keepsFrame_modify fun db => by simp [Db.seats, Serial.update, Table.update]
  · exact keepsFrame_pure _ before

theorem countRestoredItem_seats {targetId : Nat} {failure : ErrorInfo} :
    KeepsFrame Db.seats (countRestoredItem targetId userId failure) := by
  unfold countRestoredItem
  split
  · refine keepsFrame_bind applyItemCountDelta_seats fun updated => ?_
    split
    · exact keepsFrame_pure _
    · exact keepsFrame_throw _
  · exact keepsFrame_pure _

/-- The last statements of a restore count its root and use up its trash row. -/
theorem restore_consumes {item : Trash} {inserted counted : Db} {folders : List Folder}
    {files : List File} {targetId : Nat} {failure : ErrorInfo} {value value' : Unit}
    (present : item ∈ before.trash.rows) (owned : item.userId = userId)
    (others : inserted.others = before.others) (grows : Grows folders files before inserted)
    (count : folders.length = item.folderCount) (entries : files.map File.entry = item.entries)
    (owner : ∀ file ∈ files, file.userId = userId)
    (counting : (countRestoredItem targetId userId failure).run inserted = .ok (value, counted))
    (deleting : (deleteTrashRow item.id userId item.itemType failure).run counted = .ok (value', after)) :
    TrashStep before.trash after.trash [item] ∧ item.Restored before after := by
  have kept := (countRestoredItem_keeps _ _ _ counting).trans others
  have seats := countRestoredItem_seats _ _ _ counting
  obtain ⟨rfl, -⟩ := deleteTrashRow_ok deleting
  have trash : counted.trash = before.trash := congrArg Prod.fst kept
  constructor
  · simp only [trash]
    refine TrashStep.remove (by simpa using present) (by simp) fun row there => ?_
    by_cases same : row.id = item.id
    · obtain rfl := before.trash.eq_of_key there present same
      simp [owned]
    · simp [same]
  · refine ⟨congrArg (fun rows => rows.2.1) kept, congrArg (fun rows => rows.2.2) kept,
      ⟨files, ?_, entries, ?_⟩, ?_⟩
    · rw [← grows.fileRows]
      exact congrArg (fun rows => rows.1.rows) seats
    · exact fun file there => (owner file there).trans owned.symm
    · have length := congrArg Prod.snd seats
      simp only [Db.seats] at length
      rw [length, grows.folderRows, List.length_append, count]

theorem restoreFile_consumes {fileId : Nat}
    (ran : (restoreFile trashId userId candidateIndex).run before = .ok (fileId, after)) :
    ∃ item, before.trash.find? trashId = some item ∧ TrashStep before.trash after.trash [item] ∧
      item.Restored before after := by
  obtain ⟨item, content, target, mimeType, restored, counted, restoration, resolved, inserting⟩ := restoreFile_ok ran
  refine ⟨item, restoration.found, ?_⟩
  refine restore_consumes (Table.find?_some restoration.found).1 restoration.owned (insertFile_keeps _ _ _ inserting)
    (insertFile_grows inserting) ?_ ?_ ?_ restoration.counting restoration.deleting
  · simp [Trash.folderCount, restoration.typed]
  · simp [Trash.entries, restoration.typed, resolved, File.entry, NewFile.row]
  · simp [NewFile.row]

/-- One pass inserts one row for each folder that it does not keep. -/
theorem restorePass_grows {rootDepth oldRootDepth : Nat} (pending : List SnapshotFolder)
    (folders : FolderMap) :
    Ensures (restorePass userId rootDepth oldRootDepth pending folders) fun before result after =>
      ∃ rows, Grows rows [] before after ∧ rows.length + result.1.length = pending.length := by
  induction pending generalizing folders with
  | nil =>
      intro before result after ran
      obtain ⟨rfl, rfl⟩ := pure_ok ran
      exact ⟨[], Grows.refl _, rfl⟩
  | cons folder rest ih =>
      intro before result after ran
      unfold restorePass at ran
      split at ran
      · obtain ⟨passed, passing, rfl⟩ := bind_pure_ok ran
        obtain ⟨rows, grows, length⟩ := ih folders _ _ _ passing
        refine ⟨rows, grows, ?_⟩
        simp only [List.length_cons]
        omega
      · obtain ⟨folderId, inserted, inserting, passing⟩ := bind_ok ran
        obtain ⟨rows, grows, length⟩ := ih _ _ _ _ passing
        refine ⟨_, (insertFolder_grows inserting).trans grows, ?_⟩
        simp only [List.length_append, List.length_cons, List.length_nil]
        omega

theorem restoreFolders_grows {rootDepth oldRootDepth : Nat} (fuel : Nat)
    (pending : List SnapshotFolder) (folders : FolderMap) :
    Ensures (restoreFolders userId rootDepth oldRootDepth fuel pending folders) fun before _ after =>
      ∃ rows, Grows rows [] before after ∧ rows.length = pending.length := by
  induction fuel generalizing pending folders with
  | zero =>
      intro before final after ran
      cases pending with
      | nil =>
          obtain ⟨-, rfl⟩ := pure_ok ran
          exact ⟨[], Grows.refl _, rfl⟩
      | cons => exact (throw_ok ran).elim
  | succ fuel ih =>
      intro before final after ran
      cases pending with
      | nil =>
          obtain ⟨-, rfl⟩ := pure_ok ran
          exact ⟨[], Grows.refl _, rfl⟩
      | cons folder rest =>
          obtain ⟨⟨left, restored⟩, middle, passing, later⟩ := bind_ok ran
          obtain ⟨rows, grows, length⟩ := restorePass_grows (folder :: rest) folders _ _ _ passing
          simp only at later length
          split at later
          · exact (throw_ok later).elim
          · obtain ⟨rows', grows', length'⟩ := ih left restored _ _ _ later
            refine ⟨rows ++ rows', grows.trans grows', ?_⟩
            rw [List.length_append, length', length]

/-- The rows below the root of a restored tree are those that its trash row keeps. -/
theorem restoreTree_grows {rootDepth rootId : Nat} {rootPath : String} {item : Trash}
    {snapshot : Option FolderTreeSnapshot} (typed : item.itemType = .folder)
    (parsed : parseFolderTreeSnapshot item.itemData = .ok snapshot) :
    Ensures (restoreTree userId rootDepth rootId rootPath snapshot) fun before _ after =>
      ∃ folders files, Grows folders files before after ∧ folders.length + 1 = item.folderCount ∧
        files.map File.entry = item.entries ∧ ∀ file ∈ files, file.userId = userId := by
  intro before value after ran
  cases snapshot with
  | none =>
      obtain ⟨-, rfl⟩ := pure_ok ran
      exact ⟨[], [], Grows.refl _, by simp [Trash.folderCount, typed, parsed],
        by simp [Trash.entries, typed, parsed], by simp⟩
  | some tree =>
      obtain ⟨folders, placed, placing, inserting⟩ := bind_ok ran
      obtain ⟨rows, grows, length⟩ := restoreFolders_grows _ _ _ _ _ _ placing
      obtain ⟨files, grown, seated⟩ :=
        forM_seats (fun file _ => restoreSnapshotFile_seats) _ _ _ inserting
      refine ⟨rows, files, by simpa using grows.trans grown, ?_, ?_, ?_⟩
      · simp [Trash.folderCount, typed, parsed, length]
      · have same : List.Forall₂ (fun (file : SnapshotFile) (row : File) =>
            (file.contentId, file.size) = row.entry) tree.files files := by
          refine seated.imp fun file row seats => ?_
          obtain ⟨folderId, folderPath, -, built⟩ := seats
          rw [built]
          rfl
        simp only [Trash.entries, typed, parsed]
        exact (List.forall₂_eq_eq_eq ▸ List.forall₂_map_right_iff.mpr
          (List.forall₂_map_left_iff.mpr same)).symm
      · intro row present
        obtain ⟨file, -, folderId, folderPath, -, built⟩ := exists_of_forall₂_right seated present
        rw [built]
        rfl

theorem restoreFolder_consumes {folderId : Nat}
    (ran : (restoreFolder trashId userId candidateIndex).run before = .ok (folderId, after)) :
    ∃ item, before.trash.find? trashId = some item ∧ TrashStep before.trash after.trash [item] ∧
      item.Restored before after := by
  obtain ⟨item, snapshot, target, rooted, restored, counted, restoration, parsed, rooting, restoring⟩ :=
    restoreFolder_ok ran
  refine ⟨item, restoration.found, ?_⟩
  obtain ⟨folders, files, grows, count, entries, owner⟩ :=
    restoreTree_grows restoration.typed parsed _ _ _ restoring
  have others : restored.others = before.others :=
    (restoreTree_keeps _ _ _ restoring).trans (insertFolder_keeps _ _ _ rooting)
  refine restore_consumes (Table.find?_some restoration.found).1 restoration.owned others
    ((insertFolder_grows rooting).trans grows) ?_ entries owner restoration.counting restoration.deleting
  rw [List.length_append, ← count]
  exact Nat.add_comm _ _

end Restore

section MoveToTrash

variable {before after : Db}

theorem insertTrashRecord_step {userId : Nat} {item : TrashInsertItem} :
    Ensures (insertTrashRecord userId item) fun before _ after =>
      TrashStep before.trash after.trash [] := by
  intro before value after ran
  have rest := get_bind_ok ran
  split at rest
  · exact (throw_ok rest).elim
  · split at rest
    · exact (throw_ok rest).elim
    · obtain rfl := set_ok rest
      exact TrashStep.insert before.trash (item.row userId) fun _ => rfl

theorem moveToTrash_step {hashOrder fileIds folderIds : List Nat} {userId : Nat}
    {result : MoveToTrashResult}
    (ran : (moveToTrash hashOrder fileIds folderIds userId).run before = .ok (result, after)) :
    TrashStep before.trash after.trash [] := by
  obtain ⟨plans, selection, inserted, lowered, unfiled, move⟩ := moveToTrash_ok ran
  have insert : TrashStep before.trash inserted.trash [] := by
    refine Ensures.forM (fun before after => TrashStep before.trash after.trash [])
      (fun _ => TrashStep.same rfl) (fun _ _ _ => TrashStep.trans) ?_ _ _ _ move.storing
    exact fun _ _ => insertTrashRecord_step
  have lower : lowered.trash = inserted.trash :=
    keepsFrame_forM (fun _ _ => countedOrFailed_keeps) _ _ _ move.counting
  have unfile : unfiled.trash = lowered.trash := deleteFilesByIds_keeps _ _ _ move.files
  have remove : after.trash = unfiled.trash := deleteFoldersByIds_keeps _ _ _ move.folders
  exact insert.trans (TrashStep.same ((remove.trans unfile).trans lower))

end MoveToTrash

namespace World

variable {world next : World}

/-- What a step does to the rows that it uses up, and that it keeps all the others. -/
structure TrashEffect (world next : World) (action : DriveAction) : Prop where
  step : TrashStep world.db.trash next.db.trash ((world.consumes action).map Prod.fst)
  restored : ∀ row, (row, .restored) ∈ world.consumes action → row.Restored world.db next.db
  deleted : ∀ row, (row, .deleted) ∈ world.consumes action →
    TrashDeleted ((world.consumes action).map Prod.fst) world.db next.db

theorem TrashEffect.ofNothing {action : DriveAction} (nothing : world.consumes action = [])
    (step : TrashStep world.db.trash next.db.trash []) : world.TrashEffect next action where
  step := by rwa [nothing]
  restored := by simp [nothing]
  deleted := by simp [nothing]

theorem TrashEffect.ofSame {action : DriveAction} (nothing : world.consumes action = [])
    (same : next.db.trash = world.db.trash) : world.TrashEffect next action :=
  .ofNothing nothing (TrashStep.same same)

theorem TrashEffect.ofRestore {action : DriveAction} {trashId : Nat} {item : Trash}
    (found : world.db.trash.find? trashId = some item)
    (consumes : world.consumes action =
      (world.db.trash.find? trashId).toList.map fun row => (row, .restored))
    (step : TrashStep world.db.trash next.db.trash [item]) (restored : item.Restored world.db next.db) :
    world.TrashEffect next action := by
  have only : world.consumes action = [(item, .restored)] := by
    rw [consumes, found]
    rfl
  constructor
  · rwa [only]
  · intro row present
    rw [only] at present
    obtain rfl : row = item := congrArg Prod.fst (List.mem_singleton.mp present)
    exact restored
  · intro row present
    rw [only] at present
    cases List.mem_singleton.mp present

theorem selectedDeletions_eq {itemRead : Nat} {trashIds : List Nat} {requireValid : Bool} {seen : Db}
    {deletions : List (Trash × List Nat)} (read : world.read itemRead = some seen)
    (collected : collectDeletions requireValid (trashIds.filterMap seen.trash.find?) = .ok deletions) :
    world.selectedDeletions itemRead trashIds requireValid = deletions.map Prod.fst := by
  simp only [selectedDeletions, read, collected]

theorem Inv.permanentDelete_effect (inv : world.Inv) {itemRead : Nat} {trashIds : List Nat}
    {requireValid : Bool}
    (moved : world.step (.permanentDelete itemRead trashIds requireValid) = some next) :
    world.TrashEffect next (.permanentDelete itemRead trashIds requireValid) := by
  obtain ⟨seen, read, committed⟩ := Option.bind_eq_some_iff.mp moved
  obtain ⟨result, after, ran, rfl⟩ := commit_some committed
  obtain ⟨deletions, collected, -⟩ := permanentlyDeleteTrashItems_ok ran
  have there := mem_history_of_read read
  obtain ⟨step, deleted⟩ := permanentlyDeleteTrashItems_consumes (inv.sound _ current_mem) inv.exact
    (fun item present => by
      obtain ⟨trashId, -, found⟩ := List.mem_filterMap.mp present
      exact (Table.find?_some found).1) (inv.precedes seen there) ran collected
  have selected := selectedDeletions_eq read collected
  have rows : (world.consumes (.permanentDelete itemRead trashIds requireValid)).map Prod.fst =
      deletions.map Prod.fst := by
    simp only [consumes, selected, List.map_map, Function.comp_def]
  constructor
  · rwa [rows]
  · intro row present
    obtain ⟨other, -, same⟩ := List.mem_map.mp present
    cases same
  · intro row _
    rwa [rows]

/-- Every step uses up what its action consumes and nothing else. -/
theorem Inv.trashEffect (inv : world.Inv) {action : DriveAction} (moved : world.step action = some next) :
    world.TrashEffect next action := by
  cases action with
  | moveToTrash =>
      obtain ⟨result, after, ran, rfl⟩ := commit_some moved
      exact .ofNothing rfl (moveToTrash_step ran)
  | restoreFile =>
      obtain ⟨fileId, after, ran, rfl⟩ := commit_some moved
      obtain ⟨item, found, step, restored⟩ := restoreFile_consumes ran
      exact .ofRestore found rfl step restored
  | restoreFolder =>
      obtain ⟨folderId, after, ran, rfl⟩ := commit_some moved
      obtain ⟨item, found, step, restored⟩ := restoreFolder_consumes ran
      exact .ofRestore found rfl step restored
  | permanentDelete => exact inv.permanentDelete_effect moved
  | _ => exact .ofSame rfl (step_keeps (.inl rfl) (.inr inferInstance) moved)

end World

namespace TrashHistory

variable {history next : TrashHistory}

/-- The identifiers of the trash rows that are consumed so far. -/
def consumedIds (history : TrashHistory) : List Nat := history.consumed.map fun entry => entry.1.id

/-- Every row that was ever inserted is in the trash or was used up, and it was used up once. -/
structure Inv (history : TrashHistory) : Prop where
  world : history.world.Inv
  once : history.consumedIds.Nodup
  known : ∀ trashId ∈ history.consumedIds, 0 < trashId ∧ trashId < history.world.db.trash.next
  split : ∀ trashId, 0 < trashId → trashId < history.world.db.trash.next →
    (trashId ∈ history.world.db.trash.rows.map Trash.id ↔ trashId ∉ history.consumedIds)

/-- A step uses up the rows that its request consumes. -/
theorem step_some {action : DriveAction} (moved : trashSystem.step history action = some next) :
    history.world.step action = some next.world ∧
      next.consumedIds =
        history.consumedIds ++ ((history.world.consumes action).map Prod.fst).map Trash.id := by
  obtain ⟨world, stepped, rfl⟩ := Option.map_eq_some_iff.mp moved
  refine ⟨stepped, ?_⟩
  simp [consumedIds, List.map_map, Function.comp_def]

theorem empty_inv : Inv ⟨World.empty, []⟩ where
  world := World.empty_inv
  once := List.nodup_nil
  known := by simp [consumedIds]
  split := by
    intro trashId positive bounded
    have first : World.empty.db.trash.next = 1 := rfl
    rw [first] at bounded
    omega

/-- Every step keeps the invariant of the history. -/
theorem Inv.kept (inv : history.Inv) {action : DriveAction}
    (moved : trashSystem.step history action = some next) : next.Inv := by
  obtain ⟨stepped, ids⟩ := step_some moved
  have effect := (inv.world.trashEffect stepped).step
  obtain ⟨added, rows, new⟩ := effect.rows
  have later := effect.next
  have inside : ∀ trashId ∈ ((history.world.consumes action).map Prod.fst).map Trash.id,
      trashId ∈ history.world.db.trash.rows.map Trash.id := by
    intro trashId present
    obtain ⟨row, used, rfl⟩ := List.mem_map.mp present
    exact List.mem_map_of_mem (effect.stored row used)
  have bounded : ∀ trashId ∈ history.world.db.trash.rows.map Trash.id,
      0 < trashId ∧ trashId < history.world.db.trash.next := by
    intro trashId present
    obtain ⟨row, there, rfl⟩ := List.mem_map.mp present
    exact history.world.db.trash.bounded row there
  have unused : ∀ trashId ∈ history.world.db.trash.rows.map Trash.id,
      trashId ∉ history.consumedIds := by
    intro trashId present
    obtain ⟨positive, known⟩ := bounded trashId present
    exact (inv.split trashId positive known).mp present
  refine ⟨inv.world.kept (inv.world.steps stepped), ?_, ?_, ?_⟩
  · rw [ids, List.nodup_append']
    refine ⟨inv.once, effect.once, fun trashId old used => ?_⟩
    exact unused trashId (inside trashId used) old
  · intro trashId present
    rw [ids] at present
    rcases List.mem_append.mp present with old | used
    · have := inv.known trashId old
      omega
    · have := bounded trashId (inside trashId used)
      omega
  · intro trashId positive known
    have kept : trashId ∈ next.world.db.trash.rows.map Trash.id ↔
        (trashId ∈ history.world.db.trash.rows.map Trash.id ∧
          trashId ∉ ((history.world.consumes action).map Prod.fst).map Trash.id) ∨
        history.world.db.trash.next ≤ trashId := by
      rw [rows, List.map_append, List.mem_append, new]
      have fresh : history.world.db.trash.next ≤ trashId ∧ trashId < next.world.db.trash.next ↔
          history.world.db.trash.next ≤ trashId := and_iff_left known
      rw [fresh]
      apply or_congr_left
      constructor
      · intro present
        obtain ⟨row, there, rfl⟩ := List.mem_map.mp present
        obtain ⟨stored, outside⟩ := List.mem_filter.mp there
        exact ⟨List.mem_map_of_mem stored, by simpa using outside⟩
      · rintro ⟨present, outside⟩
        obtain ⟨row, there, rfl⟩ := List.mem_map.mp present
        exact List.mem_map_of_mem (List.mem_filter.mpr ⟨there, by simpa using outside⟩)
    rw [kept, ids, List.mem_append, not_or]
    rcases Nat.lt_or_ge trashId history.world.db.trash.next with early | late
    · rw [inv.split trashId positive early]
      constructor
      · rintro (both | late)
        · exact both
        · omega
      · exact Or.inl
    · refine iff_of_true (.inr late) ⟨fun old => ?_, fun used => ?_⟩
      · have := inv.known trashId old
        omega
      · have := bounded trashId (inside trashId used)
        omega

/-- The used up rows are gone in every reachable state. -/
theorem inv_of_reachable (reachable : trashSystem.Reachable history) : history.Inv := by
  refine reachable.invariant Inv ?_ ?_
  · rintro _ rfl
    exact empty_inv
  · exact fun _ _ _ inv _ moved => inv.kept moved

/-- A step that succeeds takes its targets from the rows of the trash. -/
theorem Inv.target_mem (inv : history.Inv) {action : DriveAction}
    (moved : trashSystem.step history action = some next) {trashId : Nat}
    (named : trashId ∈ history.world.targets action) :
    trashId ∈ history.world.db.trash.rows.map Trash.id := by
  obtain ⟨stepped, -⟩ := step_some moved
  cases action with
  | restoreFile target =>
      obtain rfl := List.mem_singleton.mp named
      obtain ⟨fileId, after, ran, -⟩ := World.commit_some stepped
      obtain ⟨item, found, -⟩ := restoreFile_consumes ran
      obtain ⟨present, rfl⟩ := Table.find?_some found
      exact List.mem_map_of_mem present
  | restoreFolder target =>
      obtain rfl := List.mem_singleton.mp named
      obtain ⟨folderId, after, ran, -⟩ := World.commit_some stepped
      obtain ⟨item, found, -⟩ := restoreFolder_consumes ran
      obtain ⟨present, rfl⟩ := Table.find?_some found
      exact List.mem_map_of_mem present
  | permanentDelete itemRead trashIds requireValid =>
      obtain ⟨row, selected, rfl⟩ := List.mem_map.mp named
      refine List.mem_map_of_mem ((inv.world.trashEffect stepped).step.stored row ?_)
      exact List.mem_map.mpr ⟨(row, .deleted), List.mem_map_of_mem selected, rfl⟩
  | _ => cases named

end TrashHistory

/-- A trash row is restored once or deleted once. The request that does so has exactly that effect,
and a request that names a row after that fails and changes nothing. -/
theorem trash_row_consumed_once {history : TrashHistory} (reachable : trashSystem.Reachable history) :
    history.consumedIds.Nodup ∧
    (∀ trashId, 0 < trashId → trashId < history.world.db.trash.next →
      (trashId ∈ history.world.db.trash.rows.map Trash.id ↔ trashId ∉ history.consumedIds)) ∧
    (∀ action next, trashSystem.step history action = some next →
      history.world.TrashEffect next.world action) ∧
    ∀ action, (∃ trashId ∈ history.world.targets action, trashId ∈ history.consumedIds) →
      trashSystem.step history action = none := by
  have inv := TrashHistory.inv_of_reachable reachable
  refine ⟨inv.once, inv.split, fun action next moved => ?_, fun action taken => ?_⟩
  · exact inv.world.trashEffect (TrashHistory.step_some moved).1
  · obtain ⟨trashId, named, used⟩ := taken
    cases moved : trashSystem.step history action with
    | none => rfl
    | some next =>
        obtain ⟨positive, known⟩ := inv.known trashId used
        exact absurd used ((inv.split trashId positive known).mp (inv.target_mem moved named))

/-- Two files go to the trash, one comes back and the other is deleted, and the late requests fail. -/
theorem trash_row_consumed_once_mixed : ∃ history, trashSystem.Reachable history ∧
    history.consumed.map Prod.snd = [.restored, .deleted] ∧ history.consumedIds.Nodup ∧
    trashSystem.step history (.restoreFile 2 1 0) = none ∧
    trashSystem.step history (.permanentDelete 2 [1] true) = none := by
  obtain ⟨history, reachable, checked⟩ := trashSystem.exists_reachable_of_run
    (firstUpload ++
      [ .instantUpload (uploadCommand "b.txt" 5) 0,
        .moveToTrash [] [1, 2] [] 1,
        .restoreFile 1 1 0,
        .permanentDelete 1 [2] true ])
    (fun history => history.consumed.map Prod.snd = [.restored, .deleted] ∧
      history.consumedIds = [1, 2] ∧ history.world.targets (.restoreFile 2 1 0) = [2] ∧
      history.world.targets (.permanentDelete 2 [1] true) = [1]) rfl (by decide +kernel)
  obtain ⟨outcomes, ids, second, first⟩ := of_decide_eq_true checked
  obtain ⟨once, -, -, late⟩ := trash_row_consumed_once reachable
  refine ⟨history, reachable, outcomes, once, late _ ⟨2, ?_, ?_⟩, late _ ⟨1, ?_, ?_⟩⟩
  · simp [second]
  · simp [ids]
  · simp [first]
  · simp [ids]

end DiskServer.Drive
