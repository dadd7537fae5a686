import DiskServer.Construction.Drive.Repositories

namespace DiskServer.Drive

open Library Transaction Relation

variable {db : Db} {userId : Nat}

theorem normalizeIds_nodup (ids : List Nat) : (normalizeIds ids).Nodup :=
  (List.perm_insertionSort _ _).nodup_iff.mpr ids.nodup_dedup

theorem mem_normalizeIds {ids : List Nat} {id : Nat} : id ∈ normalizeIds ids ↔ id ∈ ids := by
  rw [normalizeIds, List.mem_insertionSort, List.mem_dedup]

/-- One row is the stored parent of an owned row. -/
def Folder.IsParent (db : Db) (userId : Nat) (child parent : Folder) : Prop :=
  child ∈ db.folders.rows ∧ parent ∈ db.folders.rows ∧ child.parentId = parent.id ∧
    child.userId = userId

/-- The parents of the row lead up to the ancestor. -/
def Folder.Below (db : Db) (userId : Nat) (folder ancestor : Folder) : Prop :=
  ReflTransGen (Folder.IsParent db userId) folder ancestor

/-- A row has one parent at most. -/
theorem Folder.isParent_unique : Relator.RightUnique (Folder.IsParent db userId) := by
  intro child first second one two
  exact db.folders.eq_of_key one.2.1 two.2.1 (one.2.2.1.symm.trans two.2.2.1)

theorem mem_childrenOf {level : List Folder} {child : Folder} :
    child ∈ childrenOf db.folders.rows userId level ↔
      ∃ parent ∈ level, child ∈ db.folders.rows ∧ child.parentId = parent.id ∧ child.userId = userId := by
  simp [childrenOf, List.mem_flatMap, List.mem_filter]

/-- A query that ends has found exactly the rows below its first level. -/
theorem mem_folderTree {fuel : Nat} {level folders : List Folder}
    (stored : ∀ folder ∈ level, folder ∈ db.folders.rows)
    (ended : folderTree db.folders.rows userId fuel level = some folders) (folder : Folder) :
    folder ∈ folders ↔ ∃ ancestor ∈ level, Folder.Below db userId folder ancestor := by
  induction fuel generalizing level folders with
  | zero =>
      cases level with
      | nil =>
          obtain rfl := Option.some.inj ended
          simp
      | cons first rest => cases ended
  | succ fuel ih =>
      cases level with
      | nil =>
          obtain rfl := Option.some.inj ended
          simp
      | cons first rest =>
          rw [folderTree, Option.map_eq_some_iff] at ended
          obtain ⟨below, found, rfl⟩ := ended
          have children : ∀ child ∈ childrenOf db.folders.rows userId (first :: rest),
              child ∈ db.folders.rows := by
            intro child present
            obtain ⟨-, -, there, -⟩ := mem_childrenOf.mp present
            exact there
          rw [List.mem_append, ih children found]
          constructor
          · rintro (here | ⟨child, present, path⟩)
            · exact ⟨folder, here, .refl⟩
            · obtain ⟨parent, inLevel, there, linked, owned⟩ := mem_childrenOf.mp present
              exact ⟨parent, inLevel, path.tail ⟨there, stored parent inLevel, linked, owned⟩⟩
          · rintro ⟨ancestor, inLevel, path⟩
            rcases path.cases_tail with same | ⟨child, path, there, -, linked, owned⟩
            · exact .inl (same ▸ inLevel)
            · exact .inr ⟨child, mem_childrenOf.mpr ⟨ancestor, inLevel, there, linked, owned⟩, path⟩

theorem mem_fetchFolderSubtree {root : Folder} {folders : List Folder}
    (stored : root ∈ db.folders.rows) (found : fetchFolderSubtree db root userId = some folders)
    (folder : Folder) : folder ∈ folders ↔ Folder.Below db userId folder root := by
  obtain ⟨tree, ended, rfl⟩ := Option.map_eq_some_iff.mp found
  rw [List.mem_insertionSort, mem_folderTree (by simpa using stored) ended]
  simp

/-- Every row that the query returns is a stored row. -/
theorem mem_of_below {folder root : Folder} (stored : root ∈ db.folders.rows)
    (below : Folder.Below db userId folder root) : folder ∈ db.folders.rows := by
  rcases below.cases_head with rfl | ⟨_, linked, -⟩
  · exact stored
  · exact linked.1

/-- One of two rows above a common row is above the other. -/
theorem below_or_below {folder first second : Folder} (one : Folder.Below db userId folder first)
    (two : Folder.Below db userId folder second) :
    Folder.Below db userId first second ∨ Folder.Below db userId second first :=
  ReflTransGen.total_of_right_unique Folder.isParent_unique one two

/-- A plan holds the tree below a stored root of the user. -/
structure PlanOf (db : Db) (userId : Nat) (plan : Nat × FolderDeletePlan) : Prop where
  top : ∃ root ∈ db.folders.rows, root.id = plan.1 ∧
    ∀ folder, folder ∈ plan.2.folders ↔ Folder.Below db userId folder root
  owned : ∀ folder ∈ plan.2.folders, folder.userId = userId
  root : plan.2.root ∈ db.folders.rows
  files : ∀ file ∈ plan.2.files, file ∈ db.files.rows
  size : plan.2.itemSize = (plan.2.files.map File.size).sum

theorem mem_fetchFolderTrees {hashOrder folderIds : List Nat} {trees : List (Folder × List Folder)}
    (found : fetchFolderTrees db hashOrder folderIds userId = some trees)
    {tree : Folder × List Folder} (present : tree ∈ trees) :
    tree.1 ∈ db.folders.rows ∧ tree.1.userId = userId ∧
      ∀ folder, folder ∈ tree.2 ↔ Folder.Below db userId folder tree.1 := by
  obtain ⟨root, chosen, built⟩ := exists_of_mem_mapM found present
  obtain ⟨folders, subtree, rfl⟩ := Option.map_eq_some_iff.mp built
  obtain ⟨rootId, -, there⟩ := List.mem_filterMap.mp chosen
  obtain ⟨folderId, -, filtered⟩ := List.mem_filterMap.mp (List.mem_of_find?_eq_some there)
  obtain ⟨row, owned⟩ := Option.filter_eq_some_iff.mp filtered
  have stored : root ∈ db.folders.rows := (Table.find?_some row).1
  exact ⟨stored, by simpa using owned, mem_fetchFolderSubtree stored subtree⟩

/-- A row below an owned row is owned by the same user. -/
theorem owned_of_below {folder root : Folder} (owned : root.userId = userId)
    (below : Folder.Below db userId folder root) : folder.userId = userId := by
  rcases below.cases_head with rfl | ⟨_, linked, -⟩
  · exact owned
  · exact linked.2.2.2

theorem mem_fetchFilesInFolders {folderIds : List Nat} {file : File} :
    file ∈ fetchFilesInFolders db folderIds userId ↔
      file ∈ db.files.rows ∧ file.userId = userId ∧ file.folderId ∈ folderIds := by
  simp [fetchFilesInFolders, List.mem_insertionSort, List.mem_filter]

/-- Every plan that the batch query returns is the plan of a stored folder. -/
theorem fetchBatchFolderDeletePlans_ok {hashOrder folderIds : List Nat} {before after : Db}
    {plans : List (Nat × FolderDeletePlan)}
    (ran : (fetchBatchFolderDeletePlans hashOrder folderIds userId).run before = .ok (plans, after)) :
    after = before ∧ ∀ plan ∈ plans, PlanOf before userId plan := by
  have rest := get_bind_ok ran
  cases found : fetchFolderTrees before hashOrder folderIds userId with
  | none =>
      simp only [found] at rest
      exact (throw_ok rest).elim
  | some trees =>
      simp only [found] at rest
      obtain ⟨rfl, rfl⟩ := pure_ok rest
      refine ⟨rfl, fun plan present => ?_⟩
      obtain ⟨tree, there, rfl⟩ := List.mem_map.mp present
      obtain ⟨stored, owned, members⟩ := mem_fetchFolderTrees found there
      refine ⟨⟨tree.1, stored, rfl, members⟩, ?_, ?_, ?_, rfl⟩
      · intro folder inside
        exact owned_of_below owned ((members folder).mp inside)
      · change tree.2.headD tree.1 ∈ after.folders.rows
        cases shape : tree.2 with
        | nil => exact stored
        | cons first others =>
            have below := (members first).mp (by rw [shape]; exact List.mem_cons_self)
            exact mem_of_below stored below
      · intro file chosen
        exact (mem_fetchFilesInFolders.mp (List.mem_of_mem_filter chosen)).1

theorem findPlan_some {plans : List (Nat × FolderDeletePlan)} {folderId : Nat} {plan : FolderDeletePlan}
    (found : findPlan plans folderId = some plan) : (folderId, plan) ∈ plans := by
  obtain ⟨entry, there, rfl⟩ := Option.map_eq_some_iff.mp found
  have key : entry.1 = folderId := by simpa using List.find?_some there
  rw [← key]
  exact List.mem_of_find?_eq_some there

/-- The trees of two folders that both survive the cover filter have no folder in common. -/
theorem topLevel_disjoint {plans : List (Nat × FolderDeletePlan)} {requested : List Nat}
    (valid : ∀ plan ∈ plans, PlanOf db userId plan) {one two : Nat × FolderDeletePlan}
    (oneListed : one ∈ plans) (twoListed : two ∈ plans)
    (oneTop : one.1 ∈ filterCoveredFolderIds requested plans)
    (twoTop : two.1 ∈ filterCoveredFolderIds requested plans) (differ : one.1 ≠ two.1)
    {first second : Folder} (inOne : first ∈ one.2.folders) (inTwo : second ∈ two.2.folders) :
    first.id ≠ second.id := by
  intro same
  obtain ⟨rootOne, storedOne, keyOne, treeOne⟩ := (valid one oneListed).top
  obtain ⟨rootTwo, storedTwo, keyTwo, treeTwo⟩ := (valid two twoListed).top
  have belowOne := (treeOne first).mp inOne
  have belowTwo := (treeTwo second).mp inTwo
  obtain rfl : first = second := db.folders.eq_of_key (mem_of_below storedOne belowOne)
    (mem_of_below storedTwo belowTwo) same
  have uncovered : ∀ {plan other : Nat × FolderDeletePlan} {root : Folder}, other ∈ plans →
      plan.1 ∈ filterCoveredFolderIds requested plans → other.1 ≠ plan.1 → root.id = plan.1 →
      root ∉ other.2.folders := by
    intro plan other root listed top distinct key covered
    have kept := (List.mem_filter.mp top).2
    simp only [Bool.and_eq_true, Bool.not_eq_true', List.any_eq_false] at kept
    have none := kept.2 other listed
    simp only [ne_eq, decide_not, Bool.not_eq_true', decide_eq_false_iff_not, List.any_eq_true,
      decide_eq_true_eq, not_and, not_exists] at none
    exact none distinct root covered key
  rcases below_or_below belowOne belowTwo with below | below
  · exact uncovered twoListed oneTop differ.symm keyOne ((treeTwo rootOne).mpr below)
  · exact uncovered oneListed twoTop differ keyTwo ((treeOne rootTwo).mpr below)

end DiskServer.Drive
