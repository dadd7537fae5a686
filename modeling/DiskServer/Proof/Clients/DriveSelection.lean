import DiskServer.Construction.Clients.DriveStore
import Mathlib.Data.List.Pairwise

namespace DiskServer.Clients.Drive

section Exactness

variable (store : DriveStore) (picked : FileItem → Bool)

/-- The store after the user has picked rows of the table. -/
def userPicks : DriveStore := onSelectionChange store (store.files.items.filter picked)

/-- A batch request names exactly the picked files and exactly the picked folders. -/
def NamesPicked (request : BatchRequest) : Prop :=
  (∀ id, id ∈ request.fileIds.getD [] ↔
    ∃ item ∈ store.files.items, picked item = true ∧ item.type = .file ∧ item.id = id) ∧
  ∀ id, id ∈ request.folderIds.getD [] ↔
    ∃ item ∈ store.files.items, picked item = true ∧ item.type = .folder ∧ item.id = id

/-- The picked items are gone, all others are left, and nothing stays selected. -/
def RemovesPicked (after : DriveStore) : Prop :=
  after.files.items = store.files.items.filter (fun item => !picked item) ∧ after.selectedIds = []

/-- A rename request names the one picked item, and its success renames exactly this item. -/
def RenamesPicked (request : RenameRequest) : Prop :=
  (∀ item ∈ store.files.items,
    picked item = true ↔ item.type = request.type ∧ item.id = request.id) ∧
  ∀ name updatedAt,
    (applyItemRename (userPicks store picked) request.id name updatedAt).files.items =
      store.files.items.map fun item =>
        if picked item then item.renamed name updatedAt else item

/-- Every action of the toolbar acts on exactly the picked items. -/
structure ActsOnPicked : Prop where
  deleteSent : (∃ item ∈ store.files.items, picked item = true) →
    ∃ request, deleteRequest (userPicks store picked) = some request ∧ NamesPicked store picked request
  moveNames : ∀ target, NamesPicked store picked (moveRequest (userPicks store picked) target)
  copyNames : ∀ target, NamesPicked store picked (copyRequest (userPicks store picked) target)
  removal : RemovesPicked store picked (afterRemoval (userPicks store picked))
  rename : ∀ newName request, renameRequest (userPicks store picked) newName = some request →
    RenamesPicked store picked request

/-- No picked item shares its id with an item that is not picked. -/
def IdsApart : Prop :=
  ∀ item ∈ store.files.items, ∀ other ∈ store.files.items, other.id = item.id →
    picked item = true → picked other = true

variable {store picked}

theorem mem_selectedItems {item : FileItem} :
    item ∈ selectedItems (userPicks store picked) ↔
      item ∈ store.files.items ∧ ∃ chosen ∈ store.files.items, picked chosen = true ∧
        chosen.id = item.id := by
  simp [selectedItems, userPicks, onSelectionChange, setSelection, and_assoc]

theorem selectedItems_of_apart (apart : IdsApart store picked) :
    selectedItems (userPicks store picked) = store.files.items.filter picked := by
  apply List.filter_congr
  intro item inside
  apply Bool.eq_iff_iff.mpr
  rw [decide_eq_true_iff]
  constructor
  · intro chosen
    obtain ⟨twin, present, same⟩ := List.mem_map.mp chosen
    obtain ⟨there, selected⟩ := List.mem_filter.mp present
    exact apart twin there item inside same.symm selected
  · intro selected
    exact List.mem_map.mpr ⟨item, List.mem_filter.mpr ⟨inside, selected⟩, rfl⟩

instance : Std.Symm FileItem.Differs where
  symm := fun _ _ differ => differ.imp Ne.symm Ne.symm

/-- Two items of one listing with one type and one id are the same item. -/
theorem eq_of_key {item other : FileItem} (inside : item ∈ store.files.items)
    (there : other ∈ store.files.items) (type : item.type = other.type) (id : item.id = other.id) :
    item = other := by
  by_contra different
  rcases store.files.distinct.forall inside there different with types | ids
  · exact types type
  · exact ids id

theorem getD_nonempty (ids : List Nat) : (if 0 < ids.length then some ids else none).getD [] = ids := by
  cases ids <;> rfl

theorem mem_fileIds {chosen : DriveStore} {target : Option Nat} {id : Nat} :
    id ∈ (batchRequest chosen target).fileIds.getD [] ↔
      ∃ item ∈ selectedItems chosen, item.type = .file ∧ item.id = id := by
  have whole : (batchRequest chosen target).fileIds.getD [] = (splitSelectedIds chosen).fileIds :=
    getD_nonempty _
  rw [whole]
  simp [splitSelectedIds, and_assoc]

theorem mem_folderIds {chosen : DriveStore} {target : Option Nat} {id : Nat} :
    id ∈ (batchRequest chosen target).folderIds.getD [] ↔
      ∃ item ∈ selectedItems chosen, item.type = .folder ∧ item.id = id := by
  have folders : ∀ item : FileItem, item.type ≠ .file ↔ item.type = .folder := by
    intro item
    cases item.type <;> simp
  have whole : (batchRequest chosen target).folderIds.getD [] = (splitSelectedIds chosen).folderIds :=
    getD_nonempty _
  rw [whole]
  simp [splitSelectedIds, folders, and_assoc]

/-- A request names exactly the picked items when ids are apart. -/
theorem namesPicked_of_apart (apart : IdsApart store picked) (target : Option Nat) :
    NamesPicked store picked (batchRequest (userPicks store picked) target) := by
  have members : ∀ item, item ∈ selectedItems (userPicks store picked) ↔
      item ∈ store.files.items ∧ picked item = true := by
    intro item
    rw [selectedItems_of_apart apart]
    exact List.mem_filter
  constructor
  · intro id
    rw [mem_fileIds]
    simp only [members, and_assoc]
  · intro id
    rw [mem_folderIds]
    simp only [members, and_assoc]

/-- An item that shares the id of a picked one is named by every batch request. -/
theorem apart_of_namesPicked {target : Option Nat}
    (named : NamesPicked store picked (batchRequest (userPicks store picked) target)) :
    IdsApart store picked := by
  intro item inside other there same selected
  have chosen : other ∈ selectedItems (userPicks store picked) :=
    mem_selectedItems.mpr ⟨there, item, inside, selected, same.symm⟩
  cases type : other.type with
  | file =>
      obtain ⟨exact, present, holds, kind, id⟩ :=
        (named.1 other.id).mp (mem_fileIds.mpr ⟨other, chosen, type, rfl⟩)
      rw [← eq_of_key present there (kind.trans type.symm) id]
      exact holds
  | folder =>
      obtain ⟨exact, present, holds, kind, id⟩ :=
        (named.2 other.id).mp (mem_folderIds.mpr ⟨other, chosen, type, rfl⟩)
      rw [← eq_of_key present there (kind.trans type.symm) id]
      exact holds

theorem mem_splitSelectedIds {chosen : DriveStore} {id : Nat} :
    id ∈ (splitSelectedIds chosen).fileIds ++ (splitSelectedIds chosen).folderIds ↔
      ∃ item ∈ selectedItems chosen, item.id = id := by
  simp only [splitSelectedIds, List.mem_append, List.mem_map, List.mem_filter, decide_eq_true_iff]
  constructor
  · rintro (⟨item, ⟨inside, -⟩, id⟩ | ⟨item, ⟨inside, -⟩, id⟩)
    · exact ⟨item, inside, id⟩
    · exact ⟨item, inside, id⟩
  · rintro ⟨item, inside, id⟩
    by_cases file : item.type = .file
    · exact .inl ⟨item, ⟨inside, file⟩, id⟩
    · exact .inr ⟨item, ⟨inside, file⟩, id⟩

/-- Exactly the picked items are removed when ids are apart. -/
theorem removesPicked_of_apart (apart : IdsApart store picked) :
    RemovesPicked store picked (afterRemoval (userPicks store picked)) := by
  constructor
  · apply List.filter_congr
    intro item inside
    apply Bool.eq_iff_iff.mpr
    rw [decide_eq_true_iff, mem_splitSelectedIds, selectedItems_of_apart apart, Bool.not_eq_true']
    constructor
    · intro kept
      rw [← Bool.not_eq_true]
      exact fun selected => kept ⟨item, List.mem_filter.mpr ⟨inside, selected⟩, rfl⟩
    · rintro spared ⟨chosen, present, same⟩
      obtain ⟨there, selected⟩ := List.mem_filter.mp present
      rw [apart chosen there item inside same.symm selected] at spared
      cases spared
  · apply List.filter_eq_nil_iff.mpr
    intro id selected
    obtain ⟨item, present, rfl⟩ := List.mem_map.mp selected
    obtain ⟨inside, chosen⟩ := List.mem_filter.mp present
    rw [decide_eq_true_iff, not_not, mem_splitSelectedIds]
    exact ⟨item, mem_selectedItems.mpr ⟨inside, item, inside, chosen, rfl⟩, rfl⟩

/-- A rename is sent for the only item with a picked id. -/
theorem renamesPicked_of_sent {newName : String} {request : RenameRequest}
    (sent : renameRequest (userPicks store picked) newName = some request) :
    RenamesPicked store picked request := by
  unfold renameRequest at sent
  split at sent
  · rename_i single
    obtain ⟨item, alone⟩ := List.length_eq_one_iff.mp (of_decide_eq_true single)
    rw [alone, List.head?_cons] at sent
    simp only at sent
    split at sent
    · cases sent
    · cases sent
      have only : ∀ other, other ∈ selectedItems (userPicks store picked) ↔ other = item := by
        intro other
        rw [alone]
        exact List.mem_singleton
      obtain ⟨inside, chosen, present, selected, same⟩ := mem_selectedItems.mp ((only item).mpr rfl)
      have self : chosen = item :=
        (only chosen).mp (mem_selectedItems.mpr ⟨present, chosen, present, selected, rfl⟩)
      subst self
      have exactly : ∀ other ∈ store.files.items, picked other = true ↔ other = chosen := by
        intro other there
        constructor
        · intro holds
          exact (only other).mp (mem_selectedItems.mpr ⟨there, other, there, holds, rfl⟩)
        · rintro rfl
          exact selected
      constructor
      · intro other there
        rw [exactly other there]
        constructor
        · rintro rfl
          exact ⟨rfl, rfl⟩
        · rintro ⟨type, id⟩
          exact eq_of_key there inside type id
      · intro name updatedAt
        apply List.map_congr_left
        intro other there
        have agrees : decide (other.id = chosen.id) = picked other := by
          apply Bool.eq_iff_iff.mpr
          rw [decide_eq_true_iff, exactly other there]
          constructor
          · intro id
            exact (only other).mp (mem_selectedItems.mpr ⟨there, chosen, inside, selected, id.symm⟩)
          · rintro rfl
            rfl
        rw [agrees]
  · cases sent

/-- A request about picked items is sent. -/
theorem deleteRequest_picked {item : FileItem} (inside : item ∈ store.files.items)
    (chosen : picked item = true) :
    deleteRequest (userPicks store picked) = some (batchRequest (userPicks store picked) none) := by
  have selected : item ∈ selectedItems (userPicks store picked) :=
    mem_selectedItems.mpr ⟨inside, item, inside, chosen, rfl⟩
  exact if_neg (Nat.ne_of_gt (List.length_pos_of_mem selected))

/-- The toolbar acts on exactly the picked items exactly if no picked item shares its id with an item
that is not picked. -/
theorem actsOnPicked_iff (store : DriveStore) (picked : FileItem → Bool) :
    ActsOnPicked store picked ↔ IdsApart store picked := by
  constructor
  · intro acts
    exact apart_of_namesPicked (acts.moveNames 0)
  · intro apart
    refine ⟨?_, ?_, ?_, removesPicked_of_apart apart, fun _ _ sent => renamesPicked_of_sent sent⟩
    · rintro ⟨item, inside, chosen⟩
      exact ⟨_, deleteRequest_picked inside chosen, namesPicked_of_apart apart none⟩
    · exact fun target => namesPicked_of_apart apart (some target)
    · exact fun target => namesPicked_of_apart apart (some target)

def sharedIdItems : List FileItem :=
  [⟨1, "report.txt", .file, ""⟩, ⟨1, "photos", .folder, ""⟩]

theorem sharedIdItems_differ : sharedIdItems.Pairwise FileItem.Differs := by
  unfold sharedIdItems
  simp [FileItem.Differs]

/-- Deleting a file deletes the folder with the same id as well. -/
theorem delete_names_twin_folder :
    ¬∀ (store : DriveStore) (picked : FileItem → Bool), ActsOnPicked store picked := by
  intro acts
  have deletes := (acts { DriveStore.fresh with files := ⟨sharedIdItems, sharedIdItems_differ⟩ }
    fun item => item.type = .file).deleteSent
  obtain ⟨request, sent, named⟩ := deletes ⟨⟨1, "report.txt", .file, ""⟩, by decide, rfl⟩
  obtain rfl := Option.some.inj sent
  obtain ⟨item, -, picked, folder, -⟩ := (named.2 1).mp (by decide)
  rw [decide_eq_true_iff, folder] at picked
  cases picked

end Exactness

end DiskServer.Clients.Drive
