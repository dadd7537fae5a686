import DiskServer.Proof.Drive.NamespaceFrame
import DiskServer.Proof.Drive.TrashSnapshot

namespace DiskServer.Drive

open Library Transaction

/-- The state has gained these folder and file rows at the end of their tables, under new ids. -/
structure Grows (folders : List Folder) (files : List File) (before after : Db) : Prop where
  folderRows : after.folders.rows = before.folders.rows ++ folders
  folderIds : ∀ folder ∈ folders, before.folders.next ≤ folder.id
  folderNext : before.folders.next ≤ after.folders.next
  fileRows : after.files.rows = before.files.rows ++ files
  trash : after.trash = before.trash

namespace Grows

variable {before after : Db}

theorem refl (db : Db) : Grows [] [] db db where
  folderRows := (List.append_nil _).symm
  folderIds := by simp
  folderNext := Nat.le_refl _
  fileRows := (List.append_nil _).symm
  trash := rfl

theorem trans {first second third : Db} {folders₁ folders₂ : List Folder} {files₁ files₂ : List File}
    (one : Grows folders₁ files₁ first second) (two : Grows folders₂ files₂ second third) :
    Grows (folders₁ ++ folders₂) (files₁ ++ files₂) first third where
  folderRows := by rw [two.folderRows, one.folderRows, List.append_assoc]
  folderIds := by
    intro folder present
    rcases List.mem_append.mp present with early | late
    · exact one.folderIds folder early
    · exact one.folderNext.trans (two.folderIds folder late)
  folderNext := one.folderNext.trans two.folderNext
  fileRows := by rw [two.fileRows, one.fileRows, List.append_assoc]
  trash := two.trash.trans one.trash

end Grows

theorem insertFolder_ok {build : Nat → Folder} {keyed : ∀ id, (build id).id = id} {folderId : Nat}
    {before after : Db} (ran : (insertFolder build keyed).run before = .ok (folderId, after)) :
    folderId = before.folders.next ∧
      after = { before with folders := before.folders.insert build keyed } ∧
      folderNameExists before (build folderId).userId (build folderId).parentId (build folderId).name =
        false := by
  have rest := get_bind_ok ran
  simp only at rest
  split at rest
  · exact (throw_ok rest).elim
  · rename_i free
    split at rest
    · exact (throw_ok rest).elim
    · obtain ⟨rfl, rfl⟩ := modify_pure_ok rest
      exact ⟨keyed _, rfl, by simpa [keyed] using free⟩

theorem insertFile_ok {build : Nat → File} {keyed : ∀ id, (build id).id = id} {fileId : Nat}
    {before after : Db} (ran : (insertFile build keyed).run before = .ok (fileId, after)) :
    fileId = before.files.next ∧ after = { before with files := before.files.insert build keyed } ∧
      fileNameExists before (build fileId).userId (build fileId).folderId (build fileId).name =
        false := by
  have rest := get_bind_ok ran
  simp only at rest
  split at rest
  · exact (throw_ok rest).elim
  · rename_i free
    split at rest
    · exact (throw_ok rest).elim
    · split at rest
      · exact (throw_ok rest).elim
      · obtain ⟨rfl, rfl⟩ := modify_pure_ok rest
        exact ⟨keyed _, rfl, by simpa [keyed] using free⟩

/-- An insertion adds one row. -/
theorem insertFolder_grows {folder : NewFolder} {folderId : Nat} {before after : Db}
    (ran : (insertFolder folder.row fun _ => rfl).run before = .ok (folderId, after)) :
    Grows [folder.row folderId] [] before after := by
  obtain ⟨rfl, rfl, -⟩ := insertFolder_ok ran
  exact ⟨rfl, by simp [NewFolder.row], Nat.le_succ _, (List.append_nil _).symm, rfl⟩

theorem insertFile_grows {file : NewFile} {fileId : Nat} {before after : Db}
    (ran : (insertFile file.row fun _ => rfl).run before = .ok (fileId, after)) :
    Grows [] [file.row fileId] before after := by
  obtain ⟨rfl, rfl, -⟩ := insertFile_ok ran
  exact ⟨(List.append_nil _).symm, by simp, Nat.le_refl _, rfl, rfl⟩

theorem buildFolderPath_eq (parentPath name : String) :
    buildFolderPath parentPath name = parentPath ++ name ++ "/" := by
  unfold buildFolderPath
  split
  · rename_i root
    rw [root]
  · rfl

theorem buildFilePath_eq (folderPath name : String) : buildFilePath folderPath name = folderPath ++ name := by
  unfold buildFilePath
  split
  · rename_i root
    rw [root]
  · rfl

/-- The new row of a node lies below the new row of its parent. -/
structure Folder.Grafts (userId rootDepth oldRootDepth : Nat) (folders : FolderMap)
    (node : SnapshotFolder) (row : Folder) : Prop where
  placed : folders.lookup node.id = some (row.id, row.path)
  below : ∃ parentPath, folders.lookup node.parentId = some (row.parentId, parentPath) ∧
    row.path = buildFolderPath parentPath node.name
  userId : row.userId = userId
  name : row.name = node.name
  depth : row.depth = rebasedDepth rootDepth oldRootDepth node.depth
  itemCount : row.itemCount = node.itemCount

/-- The old ids of the folders that have a place. -/
abbrev FolderMap.keys (folders : FolderMap) : List Nat := folders.map Prod.fst

/-- Later entries of a folder map do not hide the earlier ones. -/
def FolderMap.Extends (folders final : FolderMap) : Prop :=
  ∀ oldId place, folders.lookup oldId = some place → final.lookup oldId = some place

theorem FolderMap.lookup_cons_self (oldId : Nat) (place : Nat × String) (folders : FolderMap) :
    FolderMap.lookup ((oldId, place) :: folders) oldId = some place := by
  simp [FolderMap.lookup]

theorem FolderMap.lookup_cons_of_ne {oldId other : Nat} (place : Nat × String) (folders : FolderMap)
    (differ : oldId ≠ other) :
    FolderMap.lookup ((oldId, place) :: folders) other = folders.lookup other := by
  simp [FolderMap.lookup, differ]

theorem FolderMap.lookup_isSome {folders : FolderMap} {oldId : Nat} :
    (folders.lookup oldId).isSome = true ↔ oldId ∈ folders.keys := by
  simp [FolderMap.lookup]

theorem FolderMap.Extends.trans {first second third : FolderMap} (one : first.Extends second)
    (two : second.Extends third) : first.Extends third :=
  fun oldId place found => two oldId place (one oldId place found)

theorem Folder.Grafts.mono {userId rootDepth oldRootDepth : Nat} {folders final : FolderMap}
    {node : SnapshotFolder} {row : Folder} (grafts : row.Grafts userId rootDepth oldRootDepth folders node)
    (longer : folders.Extends final) : row.Grafts userId rootDepth oldRootDepth final node where
  placed := longer _ _ grafts.placed
  below := by
    obtain ⟨parentPath, found, path⟩ := grafts.below
    exact ⟨parentPath, longer _ _ found, path⟩
  userId := grafts.userId
  name := grafts.name
  depth := grafts.depth
  itemCount := grafts.itemCount

/-- The nodes have new rows, one for each in order, and the map leads from the nodes to them. -/
structure Grafted (userId rootDepth oldRootDepth : Nat) (nodes : List SnapshotFolder)
    (rows : List Folder) (folders final : FolderMap) : Prop where
  keys : ∀ oldId, oldId ∈ final.keys ↔
    oldId ∈ nodes.map SnapshotFolder.id ∨ oldId ∈ folders.keys
  kept : folders.Extends final
  rows : List.Forall₂ (fun node row => row.Grafts userId rootDepth oldRootDepth final node) nodes rows

namespace Grafted

variable {userId rootDepth oldRootDepth : Nat}

theorem refl (folders : FolderMap) : Grafted userId rootDepth oldRootDepth [] [] folders folders where
  keys := by simp
  kept := fun _ _ found => found
  rows := .nil

theorem trans {nodes₁ nodes₂ : List SnapshotFolder} {rows₁ rows₂ : List Folder}
    {first second third : FolderMap}
    (one : Grafted userId rootDepth oldRootDepth nodes₁ rows₁ first second)
    (two : Grafted userId rootDepth oldRootDepth nodes₂ rows₂ second third) :
    Grafted userId rootDepth oldRootDepth (nodes₁ ++ nodes₂) (rows₁ ++ rows₂) first third where
  keys := by
    intro oldId
    rw [two.keys, one.keys, List.map_append, List.mem_append]
    constructor
    · rintro (late | early | old)
      · exact .inl (.inr late)
      · exact .inl (.inl early)
      · exact .inr old
    · rintro ((early | late) | old)
      · exact .inr (.inl early)
      · exact .inl late
      · exact .inr (.inr old)
  kept := one.kept.trans two.kept
  rows := List.rel_append (one.rows.imp fun _ _ grafts => grafts.mono two.kept) two.rows

/-- A node whose parent has a place is inserted below that place. -/
theorem single {node : SnapshotFolder} {folders : FolderMap} {parentId folderId : Nat}
    {parentPath : String} (fresh : node.id ∉ folders.keys)
    (parent : folders.lookup node.parentId = some (parentId, parentPath)) :
    Grafted userId rootDepth oldRootDepth [node]
      [NewFolder.row
        { userId := userId
          parentId := parentId
          name := node.name
          path := buildFolderPath parentPath node.name
          depth := rebasedDepth rootDepth oldRootDepth node.depth
          itemCount := node.itemCount } folderId]
      folders ((node.id, folderId, buildFolderPath parentPath node.name) :: folders) := by
  have kept : folders.Extends ((node.id, folderId, buildFolderPath parentPath node.name) :: folders) := by
    intro oldId place found
    have differ : node.id ≠ oldId := by
      rintro rfl
      exact fresh (FolderMap.lookup_isSome.mp (by rw [found]; rfl))
    rw [FolderMap.lookup_cons_of_ne _ _ differ, found]
  refine ⟨by simp, kept, .cons ?_ .nil⟩
  exact ⟨FolderMap.lookup_cons_self _ _ _, ⟨parentPath, kept _ _ parent, rfl⟩, rfl, rfl, rfl, rfl⟩

/-- Every node has its new row. -/
theorem exists_row {nodes : List SnapshotFolder} {rows : List Folder} {folders final : FolderMap}
    (grafted : Grafted userId rootDepth oldRootDepth nodes rows folders final) {node : SnapshotFolder}
    (present : node ∈ nodes) : ∃ row ∈ rows, row.Grafts userId rootDepth oldRootDepth final node :=
  exists_of_forall₂_left grafted.rows present

end Grafted

section Folders

variable {userId rootDepth oldRootDepth : Nat}

/-- The other nodes are still new after the first one has its place. -/
theorem fresh_tail {Node : Type} {key : Node → Nat} {node : Node} {rest : List Node}
    {folders : FolderMap} {place : Nat × String} (once : ((node :: rest).map key).Nodup)
    (fresh : ∀ other ∈ node :: rest, key other ∉ folders.keys) :
    ∀ other ∈ rest, key other ∉ FolderMap.keys ((key node, place) :: folders) := by
  intro other present
  rw [FolderMap.keys, List.map_cons, List.mem_cons, not_or]
  refine ⟨fun equal => (List.nodup_cons.mp once).1 ?_, fresh other (List.mem_cons_of_mem node present)⟩
  exact List.mem_map.mpr ⟨other, present, equal⟩

/-- One pass places some of the folders and keeps the others. -/
theorem restorePass_grafts {pending : List SnapshotFolder} {folders : FolderMap}
    (once : (pending.map SnapshotFolder.id).Nodup)
    (fresh : ∀ node ∈ pending, node.id ∉ folders.keys) :
    Ensures (restorePass userId rootDepth oldRootDepth pending folders) fun before result after =>
      ∃ placed rows, (placed ++ result.1).Perm pending ∧ Grows rows [] before after ∧
        Grafted userId rootDepth oldRootDepth placed rows folders result.2 := by
  induction pending generalizing folders with
  | nil =>
      intro before result after ran
      obtain ⟨rfl, rfl⟩ := pure_ok ran
      exact ⟨[], [], .refl _, Grows.refl _, Grafted.refl _⟩
  | cons node rest ih =>
      intro before result after ran
      obtain ⟨absent, distinct⟩ := List.nodup_cons.mp once
      unfold restorePass at ran
      split at ran
      · obtain ⟨passed, passing, rfl⟩ := bind_pure_ok ran
        obtain ⟨placed, rows, same, grows, grafted⟩ :=
          ih distinct (fun other present => fresh other (List.mem_cons_of_mem node present)) _ _ _ passing
        exact ⟨placed, rows, List.perm_middle.trans (same.cons node), grows, grafted⟩
      · rename_i parentId parentPath parent
        obtain ⟨folderId, inserted, inserting, passing⟩ := bind_ok ran
        rw [← buildFolderPath_eq] at inserting passing
        obtain ⟨placed, rows, same, grows, grafted⟩ := ih distinct (fresh_tail once fresh) _ _ _ passing
        exact ⟨node :: placed, _ :: rows, same.cons node, (insertFolder_grows inserting).trans grows,
          (Grafted.single (fresh node List.mem_cons_self) parent).trans grafted⟩

/-- The passes place every folder once, in some order. -/
theorem restoreFolders_grafts {fuel : Nat} {pending : List SnapshotFolder} {folders : FolderMap}
    (once : (pending.map SnapshotFolder.id).Nodup)
    (fresh : ∀ node ∈ pending, node.id ∉ folders.keys) :
    Ensures (restoreFolders userId rootDepth oldRootDepth fuel pending folders) fun before final after =>
      ∃ placed rows, placed.Perm pending ∧ Grows rows [] before after ∧
        Grafted userId rootDepth oldRootDepth placed rows folders final := by
  induction fuel generalizing pending folders with
  | zero =>
      intro before final after ran
      cases pending with
      | nil =>
          obtain ⟨rfl, rfl⟩ := pure_ok ran
          exact ⟨[], [], .refl _, Grows.refl _, Grafted.refl _⟩
      | cons node rest => exact (throw_ok ran).elim
  | succ fuel ih =>
      intro before final after ran
      cases pending with
      | nil =>
          obtain ⟨rfl, rfl⟩ := pure_ok ran
          exact ⟨[], [], .refl _, Grows.refl _, Grafted.refl _⟩
      | cons node rest =>
          obtain ⟨⟨left, restored⟩, middle, passing, rest₁⟩ := bind_ok ran
          obtain ⟨placed, rows, same, grows, grafted⟩ := restorePass_grafts once fresh _ _ _ passing
          simp only at rest₁ same grafted
          split at rest₁
          · exact (throw_ok rest₁).elim
          · have distinct := (same.map SnapshotFolder.id).nodup_iff.mpr once
            rw [List.map_append, List.nodup_append'] at distinct
            obtain ⟨later, rows', same', grows', grafted'⟩ := ih distinct.2.1 (by
              intro other present keyed
              rcases (grafted.keys other.id).mp keyed with placedKey | oldKey
              · exact distinct.2.2 placedKey (List.mem_map_of_mem present)
              · exact fresh other (same.subset (List.mem_append_right _ present)) oldKey)
              _ _ _ rest₁
            exact ⟨placed ++ later, rows ++ rows', (same'.append_left placed).trans same,
              grows.trans grows', grafted.trans grafted'⟩

/-- A copy inserts the folders of its plan in their order. -/
theorem copyFolderNodes_grafts {nodes : List Folder} {folders : FolderMap}
    (once : (nodes.map Folder.id).Nodup) (fresh : ∀ node ∈ nodes, node.id ∉ folders.keys) :
    Ensures (nodes.foldlM (copyFolderNode userId rootDepth oldRootDepth) folders)
      fun before final after => ∃ rows, Grows rows [] before after ∧
        Grafted userId rootDepth oldRootDepth (nodes.map Folder.snapshot) rows folders final := by
  induction nodes generalizing folders with
  | nil =>
      intro before final after ran
      rw [List.foldlM_nil] at ran
      obtain ⟨rfl, rfl⟩ := pure_ok ran
      exact ⟨[], Grows.refl _, Grafted.refl _⟩
  | cons node rest ih =>
      intro before final after ran
      rw [List.foldlM_cons] at ran
      obtain ⟨next, inserted, copying, rest₁⟩ := bind_ok ran
      unfold copyFolderNode at copying
      split at copying
      · exact (throw_ok copying).elim
      · rename_i parentId parentPath parent
        obtain ⟨folderId, inserting, rfl⟩ := bind_pure_ok copying
        obtain ⟨rows, grows, grafted⟩ := ih (List.nodup_cons.mp once).2 (fresh_tail once fresh) _ _ _ rest₁
        exact ⟨_ :: rows, (insertFolder_grows inserting).trans grows,
          (@Grafted.single _ _ _ node.snapshot _ _ _ _ (fresh node List.mem_cons_self) parent).trans grafted⟩

end Folders

section Files

variable {Item : Type} {userId : Nat} {folders : FolderMap}

/-- The new row of an item lies in the new row of its folder. -/
def File.Seats (folders : FolderMap) (folderOf : Item → Nat) (build : Nat → String → Item → NewFile)
    (item : Item) (row : File) : Prop :=
  ∃ folderId folderPath, folders.lookup (folderOf item) = some (folderId, folderPath) ∧
    row = (build folderId folderPath item).row row.id

/-- The columns of a restored file. -/
def SnapshotFile.restored (userId folderId : Nat) (folderPath : String) (file : SnapshotFile) : NewFile where
  userId := userId
  contentId := file.contentId
  folderId := folderId
  name := file.name
  extension := file.extension
  size := file.size
  mimeType := file.mimeType
  path := folderPath ++ file.name
  isFavorite := file.isFavorite.toNat
  downloadCount := file.downloadCount

/-- A loop whose rounds each insert the row of their item inserts the rows in order. -/
theorem forM_seats {folderOf : Item → Nat} {build : Nat → String → Item → NewFile}
    {body : Item → Tx PUnit} {items : List Item}
    (round : ∀ item ∈ items, Ensures (body item) fun before _ after => ∃ row,
      Grows [] [row] before after ∧ row.Seats folders folderOf build item) :
    Ensures (items.forM body) fun before _ after => ∃ rows, Grows [] rows before after ∧
      List.Forall₂ (fun item row => File.Seats folders folderOf build item row) items rows := by
  induction items with
  | nil =>
      intro before value after ran
      obtain ⟨-, rfl⟩ := pure_ok ran
      exact ⟨[], Grows.refl _, .nil⟩
  | cons item rest ih =>
      intro before value after ran
      change (body item >>= fun _ => rest.forM body).run before = _ at ran
      obtain ⟨_, middle, one, two⟩ := bind_ok ran
      obtain ⟨row, first, seats⟩ := round item List.mem_cons_self _ _ _ one
      obtain ⟨rows, later, seated⟩ :=
        ih (fun other present => round other (List.mem_cons_of_mem item present)) _ _ _ two
      exact ⟨row :: rows, first.trans later, .cons seats seated⟩

/-- A restored file sits in the new row of its folder. -/
theorem restoreSnapshotFile_seats {file : SnapshotFile} :
    Ensures (restoreSnapshotFile userId folders file) fun before _ after => ∃ row,
      Grows [] [row] before after ∧
        row.Seats folders SnapshotFile.folderId (SnapshotFile.restored userId) file := by
  intro before value after ran
  unfold restoreSnapshotFile at ran
  split at ran
  · exact (throw_ok ran).elim
  · rename_i folderId folderPath found
    obtain ⟨fileId, inserting, -⟩ := bind_pure_ok ran
    exact ⟨(SnapshotFile.restored userId folderId folderPath file).row fileId,
      insertFile_grows inserting, folderId, folderPath, found, rfl⟩

theorem copyTreeFile_seats {file : File} :
    Ensures (copyTreeFile userId folders file) fun before _ after => ∃ row,
      Grows [] [row] before after ∧ row.Seats folders File.folderId (copiedFile userId) file := by
  intro before value after ran
  unfold copyTreeFile at ran
  split at ran
  · exact (throw_ok ran).elim
  · rename_i folderId folderPath found
    obtain ⟨fileId, inserting, -⟩ := bind_pure_ok ran
    exact ⟨(copiedFile userId folderId folderPath file).row fileId, insertFile_grows inserting,
      folderId, folderPath, found, rfl⟩

end Files

end DiskServer.Drive
