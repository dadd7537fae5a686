import DiskServer.Proof.Drive.BatchSubtrees

namespace DiskServer.Drive

open Library Transaction

section Target

variable {userId : Nat} {before after : Db}

/-- The target of a restore has one item more, and every other row is as before. -/
def Folder.gains (targetId userId : Nat) (folder : Folder) : Folder :=
  if folder.owned targetId userId then { folder with itemCount := folder.itemCount + 1 } else folder

/-- A restore goes to the folder that the item lay in, or to the top of the drive when that is gone. -/
structure RestoreTarget (folders : List Folder) (originalFolderId userId : Nat)
    (target : Nat × FolderLocation) : Prop where
  located : Locates folders userId target.1 target.2
  original : target.1 = originalFolderId ∨
    target.1 = 0 ∧ ∀ folder ∈ folders, folder.id = originalFolderId → folder.userId ≠ userId

/-- A restore goes to the old parent or to the top of the drive. -/
theorem restoreTarget_found {originalFolderId : Nat} {target : Nat × FolderLocation}
    (ran : (restoreTarget originalFolderId userId).run before = .ok (target, after)) :
    RestoreTarget before.folders.rows originalFolderId userId target := by
  unfold restoreTarget at ran
  split at ran
  · rename_i top
    obtain ⟨rfl, -⟩ := pure_ok ran
    exact ⟨.inl ⟨rfl, rfl⟩, .inl top.symm⟩
  · obtain ⟨found, middle, finding, rest⟩ := bind_ok ran
    obtain ⟨search, rfl⟩ := findOwnedFolder_ok finding
    cases found with
    | none =>
        obtain ⟨rfl, -⟩ := pure_ok rest
        refine ⟨.inl ⟨rfl, rfl⟩, .inr ⟨rfl, fun folder present same owner => ?_⟩⟩
        refine List.find?_eq_none.mp search.symm folder present ?_
        simp [Folder.owned, same, owner]
    | some folder =>
        obtain ⟨rfl, -⟩ := pure_ok rest
        have owned := List.find?_some search.symm
        simp only [Folder.owned, Bool.and_eq_true, beq_iff_eq] at owned
        exact ⟨.inr ⟨folder, List.mem_of_find?_eq_some search.symm, rfl, owned.2, rfl⟩, .inl owned.1⟩

/-- The target of a restore is no row that is still to come. -/
theorem RestoreTarget.fresh {originalFolderId : Nat} {target : Nat × FolderLocation}
    (found : RestoreTarget before.folders.rows originalFolderId userId target) :
    target.1 < before.folders.next := by
  rcases found.located with ⟨top, -⟩ | ⟨folder, present, keyed, -⟩
  · rw [top]
    exact before.folders.positive
  · rw [← keyed]
    exact (before.folders.bounded folder present).2

/-- Other folders gain nothing. -/
theorem gains_of_ne {targetId : Nat} {folder : Folder} (differ : folder.id ≠ targetId) :
    folder.gains targetId userId = folder := by
  simp [Folder.gains, Folder.owned, differ]

/-- The target counts one item more, and nothing else changes. -/
theorem countRestoredItem_gains {targetId : Nat} {failure : ErrorInfo} :
    Ensures (countRestoredItem targetId userId failure) fun before _ after =>
      after.folders.rows = before.folders.rows.map (Folder.gains targetId userId) ∧
        after.files = before.files := by
  intro before value after ran
  unfold countRestoredItem at ran
  split at ran
  · obtain ⟨updated, counted, counting, rest⟩ := bind_ok ran
    have writing := get_bind_ok counting
    split at writing
    · obtain ⟨_, written, change, answer⟩ := bind_ok writing
      have changed := modify_ok change
      obtain ⟨rfl, rfl⟩ := pure_ok answer
      obtain ⟨-, rfl⟩ := pure_ok rest
      rw [changed]
      refine ⟨List.map_congr_left fun folder _ => ?_, rfl⟩
      unfold Folder.gains
      congr 1
    · obtain ⟨rfl, -⟩ := pure_ok writing
      exact (throw_ok rest).elim
  · rename_i top
    obtain ⟨-, rfl⟩ := pure_ok ran
    -- no folder has the id of the top of a drive
    refine ⟨?_, rfl⟩
    rw [List.map_congr_left fun folder present => gains_of_ne fun same => ?_, List.map_id']
    have positive := (after.folders.bounded folder present).1
    omega

end Target

variable {plan : FolderDeletePlan}

/-- The rows that a restore has added: the root in the target, one row for each other folder of the plan and
one for each file. Every row that was there stays, and the target counts one item more. -/
structure FolderDeletePlan.RestoredTo (plan : FolderDeletePlan) (userId rootId : Nat) (name : String)
    (target : Nat × FolderLocation) (before after : Db) : Prop where
  rows : ∃ (root : Folder) (folders : List Folder) (files : List File) (nodes : List SnapshotFolder)
    (places : FolderMap),
    root = NewFolder.row
      { userId := userId
        parentId := target.1
        name := name
        path := target.2.path ++ name ++ "/"
        depth := target.2.depth + 1
        itemCount := plan.root.itemCount } rootId ∧
    nodes.Perm ((plan.folders.filter fun folder => folder.id ≠ plan.root.id).map Folder.snapshot) ∧
    Grafted userId root.depth plan.root.depth nodes folders [(plan.root.id, root.id, root.path)] places ∧
    List.Forall₂ (fun file row =>
        File.Seats places SnapshotFile.folderId (SnapshotFile.restored userId) file row)
      (plan.files.map File.snapshot) files ∧
    after.folders.rows = before.folders.rows.map (Folder.gains target.1 userId) ++ root :: folders ∧
    after.files.rows = before.files.rows ++ files ∧
    ∀ folder ∈ root :: folders, before.folders.next ≤ folder.id

/-- What the parser reads of the folders of a plan is the folders below its root. -/
theorem snapshot_folders_perm (kept : ∀ folder ∈ plan.folders, folder.snapshot.kept = true) :
    plan.snapshot.folders.Perm
      ((plan.folders.filter fun folder => folder.id ≠ plan.root.id).map Folder.snapshot) := by
  refine (List.perm_insertionSort _ _).trans (List.Perm.of_eq (List.filter_eq_self.mpr ?_))
  intro node present
  obtain ⟨folder, inside, rfl⟩ := List.mem_map.mp present
  exact kept folder (List.mem_of_mem_filter inside)

/-- A folder that was moved to the trash comes back as the same tree, whatever the order of its ids. -/
theorem restoreFolder_rebuilds (storable : plan.Storable) (distinct : plan.Distinct)
    (kept : ∀ folder ∈ plan.folders, folder.snapshot.kept = true) {before after : Db} {item : Trash}
    {trashId userId candidateIndex rootId : Nat} (stored : before.trash.find? trashId = some item)
    (written : item.itemData = buildFolderSnapshot plan)
    (ran : (restoreFolder trashId userId candidateIndex).run before = .ok (rootId, after)) :
    ∃ target, RestoreTarget before.folders.rows item.originalFolderId userId target ∧
      plan.RestoredTo userId rootId (restoredFolderName item.itemName candidateIndex) target before after := by
  obtain ⟨other, snapshot, target, rooted, restored, counted, restoration, parsed, rooting, restoring⟩ :=
    restoreFolder_ok ran
  obtain rfl := Option.some.inj (restoration.found.symm.trans stored)
  rw [written, parseFolderTreeSnapshot_buildFolderSnapshot storable] at parsed
  cases parsed
  have aim := restoreTarget_found restoration.located
  obtain ⟨places, placed, placing, filing⟩ := bind_ok restoring
  have same := snapshot_folders_perm kept
  have ids := same.map SnapshotFolder.id
  have once : (plan.snapshot.folders.map SnapshotFolder.id).Nodup := by
    refine ids.nodup_iff.mpr ?_
    rw [List.map_map]
    exact distinct.folders.sublist (List.filter_sublist.map Folder.id)
  have fresh : ∀ node ∈ plan.snapshot.folders,
      node.id ∉ FolderMap.keys [(plan.snapshot.root.id, rootId, target.2.path ++
        restoredFolderName other.itemName candidateIndex ++ "/")] := by
    intro node present
    obtain ⟨folder, chosen, rfl⟩ := List.mem_map.mp (same.subset present)
    have differ : folder.id ≠ plan.root.id := of_decide_eq_true (List.mem_filter.mp chosen).2
    simpa [FolderMap.keys, Folder.snapshot, FolderDeletePlan.snapshot] using differ
  obtain ⟨nodes, folders, order, grown, grafted⟩ := restoreFolders_grafts once fresh _ _ _ placing
  obtain ⟨files, filed, seated⟩ := forM_seats (fun file _ => restoreSnapshotFile_seats) _ _ _ filing
  have grows := ((insertFolder_grows rooting).trans grown).trans filed
  have gained := countRestoredItem_gains _ _ _ restoration.counting
  obtain ⟨rfl, -⟩ := deleteTrashRow_ok restoration.deleting
  rw [List.append_nil] at grows
  refine ⟨target, aim, _, folders, files, nodes, places, rfl, order.trans same, grafted, seated, ?_, ?_,
    grows.folderIds⟩
  · -- the new rows have ids beyond that of the target
    refine gained.1.trans ?_
    rw [grows.folderRows, List.map_append]
    refine congrArg _ ?_
    rw [List.map_congr_left fun folder present => gains_of_ne fun equal => ?_, List.map_id']
    · rfl
    · have late := grows.folderIds folder present
      have early := aim.fresh
      omega
  · exact (congrArg (fun files => files.rows) gained.2).trans grows.fileRows

/-- A folder whose grandchild has a smaller id than the child between them. -/
def trashedPlan : FolderDeletePlan where
  root := ⟨5, 1, 0, "a", "/a/", 1, 1⟩
  folders := [⟨5, 1, 0, "a", "/a/", 1, 1⟩, ⟨7, 1, 5, "b", "/a/b/", 2, 1⟩, ⟨6, 1, 7, "c", "/a/b/c/", 3, 1⟩]
  files := [⟨9, 1, 1, 6, "d.txt", "txt", 4, "text/plain", "/a/b/c/d.txt", 1, 2⟩]
  itemSize := 4

def trashedDb : Db where
  __ := Db.empty
  users := Serial.empty.insert (fun id => ⟨id, 100, 4, 0⟩) fun _ => rfl
  contents := Serial.empty.insert (fun id => ⟨id, "md5", "sha", 4, "sha256/sha", "", 1⟩) fun _ => rfl
  trash := Serial.empty.insert ((folderTrashItem trashedPlan).row 1) fun _ => rfl

/-- The folder comes back at the top of the drive. -/
theorem restoreFolder_rebuilds_trashed : ∃ rootId after,
    (restoreFolder 1 1 0).run trashedDb = .ok (rootId, after) ∧
      trashedPlan.RestoredTo 1 rootId "a" (0, {}) trashedDb after := by
  cases ran : (restoreFolder 1 1 0).run trashedDb with
  | error failure =>
      have runs : ((restoreFolder 1 1 0).run trashedDb).isOk = true := by decide +kernel
      rw [ran] at runs
      cases runs
  | ok result =>
      refine ⟨result.1, result.2, rfl, ?_⟩
      obtain ⟨⟨targetId, location⟩, ⟨located, -⟩, rebuilt⟩ :=
        restoreFolder_rebuilds ⟨by decide, by decide, by decide⟩ ⟨by decide, by decide, by decide⟩
          (by decide) rfl rfl ran
      rcases located with ⟨rfl, rfl⟩ | ⟨folder, present, -⟩
      · exact rebuilt
      · cases present

end DiskServer.Drive
