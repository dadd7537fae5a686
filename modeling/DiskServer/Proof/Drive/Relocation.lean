import DiskServer.Construction.Drive.Extensions
import DiskServer.Proof.Drive.FolderBranch
import DiskServer.Proof.Drive.System

namespace DiskServer.Drive

open Library Transaction

section Statements

variable {before after : Db} {updated : Bool}

/-- An update that finds its row writes this row only, and no other row has the written name. -/
theorem updateFolderRow_ok {folderId userId : Nat} {change : Folder → Folder}
    {keyed : ∀ folder, (change folder).id = folder.id}
    (ran : (updateFolderRow folderId userId change keyed).run before = .ok (updated, after)) :
    (updated = false ∧ after = before) ∨ (updated = true ∧
      after = { before with
        folders := before.folders.update (fun row => row.owned folderId userId) change keyed } ∧
      ∃ row ∈ before.folders.rows, row.id = folderId ∧ row.userId = userId ∧
        ∀ other ∈ before.folders.rows, other.id ≠ folderId → other.userId = (change row).userId →
          other.parentId = (change row).parentId → other.name ≠ (change row).name) := by
  have rest := get_bind_ok ran
  split at rest
  · exact .inl (pure_ok rest)
  · rename_i row found
    simp only at rest
    split at rest
    · exact (throw_ok rest).elim
    · rename_i free
      obtain ⟨rfl, rfl⟩ := set_pure_ok rest
      have owned := List.find?_some found
      simp only [Folder.owned, Bool.and_eq_true, beq_iff_eq] at owned
      refine .inr ⟨rfl, rfl, row, List.mem_of_find?_eq_some found, owned.1, owned.2, ?_⟩
      simpa using free

/-- The row with the id of a successful update is the only row that changes. -/
theorem updateFolderRow_rows {folderId userId : Nat} {change : Folder → Folder}
    {keyed : ∀ folder, (change folder).id = folder.id}
    (ran : (updateFolderRow folderId userId change keyed).run before = .ok (true, after)) :
    after.folders.rows = before.folders.rows.map (fun row => if row.id = folderId then change row else row) ∧
      after.files = before.files ∧ after.trash = before.trash := by
  rcases updateFolderRow_ok ran with ⟨impossible, -⟩ | ⟨-, rfl, row, present, here, owned, -⟩
  · cases impossible
  · refine ⟨List.map_congr_left fun other there => ?_, rfl, rfl⟩
    by_cases same : other.id = folderId
    · obtain rfl := before.folders.eq_of_key there present (same.trans here.symm)
      simp [Folder.owned, here, owned]
    · simp [Folder.owned, same]

theorem updateFileRow_rows {fileId userId : Nat} {change : File → File}
    {keyed : ∀ file, (change file).id = file.id}
    (ran : (updateFileRow fileId userId change keyed).run before = .ok (true, after)) :
    after.files.rows = before.files.rows.map (fun row => if row.id = fileId then change row else row) ∧
      after.folders = before.folders ∧ after.trash = before.trash ∧
      ∃ row ∈ before.files.rows, row.id = fileId ∧ row.userId = userId := by
  have rest := get_bind_ok ran
  split at rest
  · cases (pure_ok rest).1
  · rename_i row found
    simp only at rest
    split at rest
    · exact (throw_ok rest).elim
    · obtain ⟨-, rfl⟩ := set_pure_ok rest
      have present := List.mem_of_find?_eq_some found
      have chosen := List.find?_some found
      simp only [Bool.and_eq_true, decide_eq_true_eq] at chosen
      refine ⟨List.map_congr_left fun other there => ?_, rfl, rfl, row, present, chosen⟩
      by_cases same : other.id = fileId
      · obtain rfl := before.files.eq_of_key there present (same.trans chosen.1.symm)
        simp [chosen]
      · simp [same]

theorem requireUpdated_ok {failure : ErrorInfo} {update : Tx Bool} {value : Unit}
    (ran : (requireUpdated failure update).run before = .ok (value, after)) :
    update.run before = .ok (true, after) := by
  obtain ⟨updated, last, updating, checked⟩ := bind_ok ran
  split at checked
  · rename_i wrote
    obtain ⟨-, rfl⟩ := pure_ok checked
    rwa [wrote] at updating
  · exact (throw_ok checked).elim

theorem rebasePath_some {newPrefix oldPrefix oldPath newPath : String}
    (found : rebasePath newPrefix oldPrefix oldPath = some newPath) :
    newPath = newPrefix ++ substrFrom oldPath oldPrefix.length := by
  unfold rebasePath at found
  split at found
  · exact (Option.some.inj found).symm
  · cases found

end Statements

/-- What a rename writes to the row of one folder of its tree. -/
def renamedRow (folderId : Nat) (newName newPrefix oldPrefix : String) (item row : Folder) : Folder :=
  let path := newPrefix ++ substrFrom item.path oldPrefix.length
  if item.id = folderId then { row with name := newName, path := path } else { row with path := path }

theorem renameTreeFolder_rows {folderId userId : Nat} {newName newPrefix oldPrefix : String} {item : Folder} :
    Ensures (renameTreeFolder folderId userId newName newPrefix oldPrefix item) fun before _ after =>
      after.folders.rows = (before.folders.rows.map fun row =>
        if row.id = item.id then renamedRow folderId newName newPrefix oldPrefix item row else row) ∧
      after.files = before.files ∧ after.trash = before.trash := by
  intro before value after ran
  unfold renameTreeFolder at ran
  split at ran
  · exact (throw_ok ran).elim
  · rename_i newPath found
    obtain rfl := rebasePath_some found
    have updating := requireUpdated_ok ran
    unfold renamedRow
    split at updating
    · rename_i same
      simp only [same, if_true] at updating ⊢
      exact updateFolderRow_rows updating
    · rename_i differ
      simp only [differ, if_false]
      exact updateFolderRow_rows updating

/-- What a rewrite of paths writes to the row of one file. -/
def rebasedFile (tree : List Folder) (newPrefix oldPrefix : String) (item row : File) : File :=
  match tree.find? fun folder => folder.id = item.folderId with
  | none => row
  | some folder =>
      { row with
        path := buildFilePath (newPrefix ++ substrFrom folder.path oldPrefix.length) item.name }

section Files

variable {userId : Nat} {newPrefix oldPrefix : String} {tree : List Folder} {failure : ErrorInfo}

theorem rebaseFile_rows {item : File} :
    Ensures (rebaseFile userId newPrefix oldPrefix tree failure item) fun before _ after =>
      after.files.rows = (before.files.rows.map fun row =>
        if row.id = item.id then rebasedFile tree newPrefix oldPrefix item row else row) ∧
      after.folders = before.folders ∧ after.trash = before.trash := by
  intro before value after ran
  unfold rebaseFile at ran
  split at ran
  · rename_i absent
    obtain ⟨-, rfl⟩ := pure_ok ran
    simp [rebasedFile, absent]
  · rename_i folder found
    split at ran
    · exact (throw_ok ran).elim
    · rename_i newPath rebased
      obtain rfl := rebasePath_some rebased
      obtain ⟨rows, folders, trash, -⟩ := updateFileRow_rows (requireUpdated_ok ran)
      simp only [rebasedFile, found]
      exact ⟨rows, folders, trash⟩

/-- The loop over stored files rewrites these files and no others. -/
theorem forM_rebaseFile {files : List File} {before after : Db} {value : PUnit}
    (stored : ∀ file ∈ files, file ∈ before.files.rows) (once : files.Nodup)
    (ran : (files.forM (rebaseFile userId newPrefix oldPrefix tree failure)).run before =
      .ok (value, after)) :
    after.files.rows = (before.files.rows.map fun row =>
      if files.any fun file => file.id = row.id then rebasedFile tree newPrefix oldPrefix row row
      else row) ∧ after.folders = before.folders ∧ after.trash = before.trash := by
  refine ⟨?_, ?_⟩
  · refine @Ensures.forM_rewrites _ _ _ _ (fun db : Db => db.files.rows) File.id
      File.id (rebasedFile tree newPrefix oldPrefix) _ _ ?_ ?_
      (fun item _ before value after ran => (rebaseFile_rows _ _ _ ran).1) _ _ _ ran
      (fun row => rebasedFile tree newPrefix oldPrefix row row) ?_
    · intro item row
      unfold rebasedFile
      split <;> rfl
    · exact once.map_on fun first one second two same =>
        before.files.eq_of_key (stored first one) (stored second two) same
    · intro item present row there same
      obtain rfl := before.files.eq_of_key there (stored item present) same
      rfl
  · exact Ensures.forM (fun before after : Db => after.folders = before.folders ∧
      after.trash = before.trash) (fun _ => ⟨rfl, rfl⟩)
      (fun _ _ _ one two => ⟨two.1.trans one.1, two.2.trans one.2⟩)
      (fun item _ before value after ran => (rebaseFile_rows _ _ _ ran).2) _ _ _ ran

/-- When the loop covers every file of the tree, each file is rewritten or lies outside. -/
theorem rebasedFile_cases {files rows : List File} {file : File}
    (covered : ∀ row ∈ rows, (∃ folder ∈ tree, folder.id = row.folderId) → row ∈ files)
    (present : file ∈ rows.map fun row =>
      if files.any fun file => file.id = row.id then rebasedFile tree newPrefix oldPrefix row row else row) :
    ∃ old ∈ rows, (file = old ∧ ∀ folder ∈ tree, folder.id ≠ old.folderId) ∨
      ∃ folder ∈ tree, folder.id = old.folderId ∧ file = { old with
        path := buildFilePath (newPrefix ++ substrFrom folder.path oldPrefix.length) old.name } := by
  obtain ⟨old, there, rfl⟩ := List.mem_map.mp present
  refine ⟨old, there, ?_⟩
  cases found : tree.find? fun folder => folder.id = old.folderId with
  | none =>
      refine .inl ⟨?_, by simpa using List.find?_eq_none.mp found⟩
      simp [rebasedFile, found]
  | some folder =>
      have inside := List.mem_of_find?_eq_some found
      have keyed : folder.id = old.folderId := by simpa using List.find?_some found
      have chosen : (files.any fun file => file.id = old.id) = true :=
        List.any_eq_true.mpr ⟨old, covered old there ⟨folder, inside, keyed⟩, decide_eq_true rfl⟩
      refine .inr ⟨folder, inside, keyed, ?_⟩
      rw [if_pos chosen, rebasedFile, found]

end Files

section Rename

variable {before after : Db} {folderId userId : Nat} {newName path : String}

theorem renameParentPath_ok {parentId : Nat}
    (ran : (renameParentPath parentId userId).run before = .ok (path, after)) :
    after = before ∧ ∃ location, Locates before.folders.rows userId parentId location ∧
      path = location.path := by
  unfold renameParentPath at ran
  split at ran
  · obtain ⟨found, middle, finding, rest⟩ := bind_ok ran
    obtain ⟨same, rfl⟩ := findOwnedFolder_ok finding
    cases found with
    | none => exact (throw_ok rest).elim
    | some parent =>
        obtain ⟨rfl, rfl⟩ := pure_ok rest
        have owned := List.find?_some same.symm
        simp only [Folder.owned, Bool.and_eq_true, beq_iff_eq] at owned
        exact ⟨rfl, _, .inr ⟨parent, List.mem_of_find?_eq_some same.symm, owned.1, owned.2, rfl⟩, rfl⟩
  · rename_i root
    obtain ⟨rfl, rfl⟩ := pure_ok ran
    exact ⟨rfl, {}, .inl ⟨by omega, rfl⟩, rfl⟩

theorem shiftedDepth_zero (depth : Nat) : shiftedDepth depth 0 = depth := by
  simp [shiftedDepth]

theorem fetchFilesInFolders_nodup {db : Db} {folderIds : List Nat} :
    (fetchFilesInFolders db folderIds userId).Nodup := by
  have rows : db.files.rows.Nodup := List.Nodup.of_map File.id db.files.distinct
  exact (List.perm_insertionSort _ _).nodup_iff.mpr (rows.filter _)

/-- The loop over the tree relocates every folder of it. -/
theorem forM_renameTreeFolder {root : Folder} {tree : List Folder} {newPrefix : String} {value : PUnit}
    (branch : Branch before.folders.rows root tree) (keyed : root.id = folderId)
    (ran : (tree.forM (renameTreeFolder folderId userId newName newPrefix root.path)).run before =
      .ok (value, after)) :
    after.folders.rows =
        before.folders.rows.map (relocate root tree root.parentId newName newPrefix 0) ∧
      after.files = before.files ∧ after.trash = before.trash := by
  refine ⟨?_, ?_⟩
  · refine @Ensures.forM_rewrites _ _ _ _ (fun db : Db => db.folders.rows) Folder.id
      Folder.id (renamedRow folderId newName newPrefix root.path) _ _ ?_ branch.once
      (fun item _ before value after ran => (renameTreeFolder_rows _ _ _ ran).1) _ _ _ ran
      (fun row => row.relocated root root.parentId newName newPrefix 0) ?_
    · intro item row
      unfold renamedRow
      simp only
      split <;> rfl
    · intro item present row there same
      obtain ⟨stored, found, shape⟩ := branch.stored item present
      obtain rfl := before.folders.eq_of_key found there ((Folder.shape_id shape).trans same.symm)
      obtain ⟨top, topFound, topShape⟩ := branch.stored root branch.top
      unfold renamedRow Folder.relocated
      simp only [Folder.shape_path shape, shiftedDepth_zero, same, ← keyed]
      split
      · rename_i isRoot
        obtain rfl := before.folders.eq_of_key topFound found
          ((Folder.shape_id topShape).trans (isRoot.symm.trans same.symm))
        rw [← Folder.shape_parentId topShape]
      · rfl
  · exact Ensures.forM (fun before after : Db => after.files = before.files ∧
      after.trash = before.trash) (fun _ => ⟨rfl, rfl⟩)
      (fun _ _ _ one two => ⟨two.1.trans one.1, two.2.trans one.2⟩)
      (fun item _ before value after ran => (renameTreeFolder_rows _ _ _ ran).2) _ _ _ ran

/-- A rename writes the new place of the whole tree and the paths of all files below it. -/
theorem renameFolder_placed (placed : FoldersPlaced before.folders.rows)
    (ran : (renameFolder folderId userId newName).run before = .ok (path, after)) :
    FoldersPlaced after.folders.rows ∧
      (FilesPlaced before.folders.rows before.files.rows →
        FilesPlaced after.folders.rows after.files.rows) ∧ after.trash = before.trash := by
  obtain ⟨found, start, finding, rest₁⟩ := bind_ok ran
  obtain ⟨same, rfl⟩ := findOwnedFolder_ok finding
  cases found with
  | none => exact (throw_ok rest₁).elim
  | some root =>
      have stored := List.mem_of_find?_eq_some same.symm
      have owned := List.find?_some same.symm
      simp only [Folder.owned, Bool.and_eq_true, beq_iff_eq] at owned
      have rest₂ := get_bind_ok rest₁
      split at rest₂
      · exact (throw_ok rest₂).elim
      · obtain ⟨parentPath, middle, finding, rest₃⟩ := bind_ok rest₂
        obtain ⟨rfl, location, located, rfl⟩ := renameParentPath_ok finding
        simp only at rest₃
        cases queried : fetchFolderSubtree middle root userId with
        | none =>
            rw [queried] at rest₃
            exact (throw_ok rest₃).elim
        | some tree =>
            rw [queried] at rest₃
            have branch := fetchFolderSubtree_branch placed stored owned.2 queried
            obtain ⟨_, renamed, writing, rest₄⟩ := bind_ok rest₃
            have rest₅ := get_bind_ok rest₄
            obtain ⟨_, rebasing, -⟩ := bind_pure_ok rest₅
            obtain ⟨rows, files, trash⟩ := forM_renameTreeFolder branch owned.1 writing
            obtain ⟨fileRows, folders, trashAfter⟩ := forM_rebaseFile
              (fun file present => (mem_fetchFilesInFolders.mp present).1) fetchFilesInFolders_nodup
              rebasing
            rw [folders, rows, fileRows, files]
            obtain ⟨place, there, path, depth⟩ := placed root stored
            rw [owned.2] at there
            obtain rfl := located.unique there
            refine ⟨?_, fun filesPlaced => ?_, trashAfter.trans trash⟩
            · refine placed.relocate branch ?_ (branch.outside_parent placed) rfl (by omega)
              rwa [owned.2]
            · refine filesPlaced.relocate branch fun file present => rebasedFile_cases ?_ present
              rintro row inRows ⟨folder, inTree, keyed⟩
              rw [← files] at inRows
              refine mem_fetchFilesInFolders.mpr ⟨inRows, ?_, List.mem_map.mpr ⟨folder, inTree, keyed⟩⟩
              rw [files] at inRows
              obtain ⟨spot, seated, -⟩ := filesPlaced row inRows
              have below := (mem_fetchFolderSubtree stored queried folder).mp inTree
              rw [← (seated.of_row (mem_of_below stored below) keyed).1]
              exact owned_of_below owned.2 below

end Rename

theorem resolveOwnedFolderLocation_locates {before after : Db} {folderId userId : Nat}
    {location : FolderLocation}
    (ran : (resolveOwnedFolderLocation folderId userId).run before = .ok (location, after)) :
    after = before ∧ Locates before.folders.rows userId folderId location := by
  unfold resolveOwnedFolderLocation at ran
  split at ran
  · rename_i root
    obtain ⟨rfl, rfl⟩ := pure_ok ran
    exact ⟨rfl, .inl ⟨root, rfl⟩⟩
  · obtain ⟨found, middle, finding, rest⟩ := bind_ok ran
    obtain ⟨same, rfl⟩ := findOwnedFolder_ok finding
    cases found with
    | none => exact (throw_ok rest).elim
    | some folder =>
        obtain ⟨rfl, rfl⟩ := pure_ok rest
        have owned := List.find?_some same.symm
        simp only [Folder.owned, Bool.and_eq_true, beq_iff_eq] at owned
        exact ⟨rfl, .inr ⟨folder, List.mem_of_find?_eq_some same.symm, owned.1, owned.2, rfl⟩⟩

/-- The renamed file stays in its folder under its new name. -/
theorem renameFile_placed {before after : Db} {fileId userId renamedId : Nat} {newName : String}
    (ran : (renameFile fileId userId newName).run before = .ok (renamedId, after)) :
    after.folders = before.folders ∧ after.trash = before.trash ∧
      (FilesPlaced before.folders.rows before.files.rows →
        FilesPlaced after.folders.rows after.files.rows) := by
  have rest₁ := get_bind_ok ran
  cases found : (before.files.find? fileId).filter fun file => file.userId = userId with
  | none =>
      simp only [found] at rest₁
      exact (throw_ok rest₁).elim
  | some file =>
      simp only [found] at rest₁
      obtain ⟨there, owned⟩ := Option.filter_eq_some_iff.mp found
      obtain ⟨stored, keyed⟩ := Table.find?_some there
      split at rest₁
      · exact (throw_ok rest₁).elim
      · obtain ⟨location, middle, resolving, rest₂⟩ := bind_ok rest₁
        obtain ⟨rfl, located⟩ := resolveOwnedFolderLocation_locates resolving
        obtain ⟨updated, last, updating, checked⟩ := bind_ok rest₂
        split at checked
        · rename_i wrote
          obtain ⟨-, rfl⟩ := pure_ok checked
          rw [wrote] at updating
          obtain ⟨rows, folders, trash, -⟩ := updateFileRow_rows updating
          refine ⟨folders, trash, fun placed renamed present => ?_⟩
          rw [folders]
          rw [rows] at present
          obtain ⟨row, inRows, rfl⟩ := List.mem_map.mp present
          split
          · rename_i same
            obtain rfl := middle.files.eq_of_key inRows stored (same.trans keyed.symm)
            have owner : row.userId = userId := by simpa using owned
            exact ⟨location, owner ▸ located, rfl⟩
          · exact placed row inRows
        · exact (throw_ok checked).elim

/-- Every stored path and depth follows the parent. -/
def Db.Placed (db : Db) : Prop :=
  FoldersPlaced db.folders.rows ∧ FilesPlaced db.folders.rows db.files.rows

def NamespaceAction.renames : NamespaceAction → Bool
  | .renameFile .. | .renameFolder .. => true
  | _ => false

/-- Renames in any order keep all paths and depths of a drive right. -/
theorem renames_keep_places {start last : World}
    (path : namespaceSystem.ReachesWhen (fun _ action => action.renames = true) start last)
    (placed : start.db.Placed) : last.db.Placed := by
  refine path.keeps (fun world => world.db.Placed) ?_ placed
  intro world action next here allowed moved
  cases action with
  | drive | move => cases allowed
  | renameFile fileId userId newName =>
      change (if newName = "" then none else _) = some next at moved
      split at moved
      · cases moved
      · obtain ⟨_, after, ran, rfl⟩ := World.commit_some moved
        obtain ⟨folders, -, files⟩ := renameFile_placed ran
        exact ⟨folders ▸ here.1, files here.2⟩
  | renameFolder folderId userId newName =>
      change (if newName = "" then none else _) = some next at moved
      split at moved
      · cases moved
      · obtain ⟨_, after, ran, rfl⟩ := World.commit_some moved
        obtain ⟨folders, files, -⟩ := renameFolder_placed here.1 ran
        exact ⟨folders, files here.2⟩

/-- A file two folders below the root. -/
def nestedDrive : World where
  db := { Db.empty with
    folders := (Serial.empty.insert (fun id => ⟨id, 1, 0, "a", "/a/", 1, 1⟩) fun _ => rfl).insert
      (fun id => ⟨id, 1, 1, "b", "/a/b/", 2, 1⟩) fun _ => rfl
    files := Serial.empty.insert
      (fun id => ⟨id, 1, 1, 2, "c.txt", "txt", 4, "", "/a/b/c.txt", 0, 0⟩) fun _ => rfl }
  past := []
  copies := []
  settled := []

/-- A folder with a folder and a file in it is renamed. -/
theorem renames_keep_places_nested : ∃ last,
    namespaceSystem.ReachesWhen (fun _ action => action.renames = true) nestedDrive last ∧
      last.db.files.rows.map File.path = ["/d/b/e.txt"] ∧ last.db.Placed := by
  have checked : ((namespaceSystem.runWhen (fun _ action => action.renames = true) nestedDrive
      [.renameFolder 1 1 "d", .renameFile 1 1 "e.txt"]).any fun last =>
        last.db.files.rows.map File.path = ["/d/b/e.txt"]) = true := by decide +kernel
  obtain ⟨last, ran, renamed⟩ := (Option.any_eq_true _ _).mp checked
  have path := namespaceSystem.reachesWhen_of_runWhen _ ran
  refine ⟨last, path, of_decide_eq_true renamed, renames_keep_places path ⟨?_, ?_⟩⟩
  · refine List.forall_mem_cons.mpr ⟨⟨{}, .inl ⟨rfl, rfl⟩, rfl, rfl⟩, List.forall_mem_singleton.mpr ?_⟩
    exact ⟨⟨"/a/", 1⟩, .inr ⟨_, List.mem_cons_self, rfl, rfl, rfl⟩, rfl, rfl⟩
  · refine List.forall_mem_singleton.mpr ⟨⟨"/a/b/", 2⟩, .inr ?_, rfl⟩
    exact ⟨_, List.mem_cons_of_mem _ List.mem_cons_self, rfl, rfl, rfl⟩

end DiskServer.Drive
