import DiskServer.Proof.Drive.FolderTree
import DiskServer.Proof.Drive.Placement

namespace DiskServer.Drive

open Library Relation

/-- The rows of a root and of everything below it, up to their item counts. -/
structure Branch (folders : List Folder) (root : Folder) (tree : List Folder) : Prop where
  top : root ∈ tree
  stored : ∀ folder ∈ tree, ∃ row ∈ folders, row.shape = folder.shape
  parents : ∀ folder ∈ tree, folder.id ≠ root.id → ∃ parent ∈ tree, parent.id = folder.parentId
  closed : ∀ row ∈ folders, ∀ parent ∈ tree, row.parentId = parent.id →
    ∃ folder ∈ tree, folder.id = row.id
  once : (tree.map Folder.id).Nodup

theorem Folder.shape_id {folder other : Folder} (same : folder.shape = other.shape) :
    folder.id = other.id := (congrArg Folder.id same : folder.shape.id = other.shape.id)

theorem Folder.shape_userId {folder other : Folder} (same : folder.shape = other.shape) :
    folder.userId = other.userId := (congrArg Folder.userId same : folder.shape.userId = other.shape.userId)

theorem Folder.shape_parentId {folder other : Folder} (same : folder.shape = other.shape) :
    folder.parentId = other.parentId := (congrArg Folder.parentId same : folder.shape.parentId = other.shape.parentId)

theorem Folder.shape_name {folder other : Folder} (same : folder.shape = other.shape) :
    folder.name = other.name := (congrArg Folder.name same : folder.shape.name = other.shape.name)

theorem Folder.shape_path {folder other : Folder} (same : folder.shape = other.shape) :
    folder.path = other.path := (congrArg Folder.path same : folder.shape.path = other.shape.path)

theorem Folder.shape_depth {folder other : Folder} (same : folder.shape = other.shape) :
    folder.depth = other.depth := (congrArg Folder.depth same : folder.shape.depth = other.shape.depth)

/-- A folder gets a new path and depth below the new place of its root. -/
def Folder.relocated (row root : Folder) (parentId : Nat) (name newPrefix : String)
    (depthDelta : Int) : Folder :=
  let moved := { row with
    path := newPrefix ++ substrFrom row.path root.path.length
    depth := shiftedDepth row.depth depthDelta }
  if row.id = root.id then { moved with parentId := parentId, name := name } else moved

/-- What a move or a rename of the root writes into a row, inside its tree or outside. -/
def relocate (root : Folder) (tree : List Folder) (parentId : Nat) (name newPrefix : String)
    (depthDelta : Int) (row : Folder) : Folder :=
  if tree.any fun folder => folder.id = row.id then
    row.relocated root parentId name newPrefix depthDelta
  else
    row

theorem substrFrom_append (first second : String) : substrFrom (first ++ second) first.length = second := by
  simp [substrFrom, ← String.length_toList]

theorem substrFrom_self (text : String) : substrFrom text text.length = "" := by
  simpa using substrFrom_append text ""

variable {table : Serial Folder Folder.id} {root : Folder} {tree : List Folder}

/-- The placed row of a stored parent id is the location that it names. -/
theorem Locates.of_row {userId folderId : Nat} {location : FolderLocation} {row : Folder}
    (located : Locates table.rows userId folderId location) (present : row ∈ table.rows)
    (keyed : row.id = folderId) : row.userId = userId ∧ location = ⟨row.path, row.depth⟩ := by
  rcases located with ⟨zero, -⟩ | ⟨folder, there, same, owned, named⟩
  · have positive := (table.bounded row present).1
    omega
  · obtain rfl := table.eq_of_key there present (same.trans keyed.symm)
    exact ⟨owned, named⟩

theorem Locates.unique {userId folderId : Nat} {location other : FolderLocation}
    (one : Locates table.rows userId folderId location)
    (two : Locates table.rows userId folderId other) : location = other := by
  rcases one with ⟨zero, root⟩ | ⟨row, present, keyed, -, named⟩
  · rcases two with ⟨-, same⟩ | ⟨row, present, keyed, -⟩
    · rw [root, same]
    · have positive := (table.bounded row present).1
      omega
  · rw [named, (two.of_row present keyed).2]

namespace Branch

/-- A folder of a branch continues its parent in the branch. -/
theorem parent (branch : Branch table.rows root tree) (placed : FoldersPlaced table.rows)
    {folder : Folder} (present : folder ∈ tree) (below : folder.id ≠ root.id) :
    ∃ parent ∈ tree, parent.id = folder.parentId ∧ parent.userId = folder.userId ∧
      folder.path = buildFolderPath parent.path folder.name ∧ folder.depth = parent.depth + 1 := by
  obtain ⟨parent, there, keyed⟩ := branch.parents folder present below
  obtain ⟨row, stored, same⟩ := branch.stored folder present
  obtain ⟨parentRow, parentStored, parentSame⟩ := branch.stored parent there
  obtain ⟨location, located, path, depth⟩ := placed row stored
  have named : parentRow.id = row.parentId := by
    rw [Folder.shape_id parentSame, keyed, Folder.shape_parentId same]
  obtain ⟨owned, rfl⟩ := located.of_row parentStored named
  refine ⟨parent, there, keyed, ?_, ?_, ?_⟩
  · rw [← Folder.shape_userId parentSame, owned, Folder.shape_userId same]
  · rw [← Folder.shape_path parentSame, ← Folder.shape_path same, path, Folder.shape_name same]
  · rw [← Folder.shape_depth parentSame, ← Folder.shape_depth same, depth]

/-- The paths of a branch begin with the path of its root, and the root is the highest folder. -/
theorem below_root (branch : Branch table.rows root tree) (placed : FoldersPlaced table.rows)
    {folder : Folder} (present : folder ∈ tree) :
    (∃ rest, folder.path = root.path ++ rest) ∧ root.depth ≤ folder.depth ∧
      (folder.id ≠ root.id → root.depth < folder.depth) := by
  induction level : folder.depth using Nat.strong_induction_on generalizing folder with
  | _ depth ih =>
      by_cases same : folder.id = root.id
      · obtain rfl : folder = root := List.inj_on_of_nodup_map branch.once present branch.top same
        exact ⟨⟨"", by simp⟩, level.le, fun differ => absurd rfl differ⟩
      · obtain ⟨parent, there, -, -, path, deeper⟩ := branch.parent placed present same
        obtain ⟨⟨rest, prefixed⟩, higher, -⟩ := ih parent.depth (by omega) there rfl
        refine ⟨⟨rest ++ folder.name ++ "/", ?_⟩, by omega, fun _ => by omega⟩
        rw [path, buildFolderPath_eq, prefixed, String.append_assoc, String.append_assoc,
          String.append_assoc]

/-- The parent of the root lies outside the branch. -/
theorem outside_parent (branch : Branch table.rows root tree) (placed : FoldersPlaced table.rows) :
    ∀ folder ∈ tree, folder.id ≠ root.parentId := by
  intro folder present keyed
  obtain ⟨-, higher, -⟩ := branch.below_root placed present
  obtain ⟨row, stored, same⟩ := branch.stored folder present
  obtain ⟨top, topStored, topSame⟩ := branch.stored root branch.top
  obtain ⟨location, located, -, depth⟩ := placed top topStored
  obtain ⟨-, rfl⟩ := located.of_row stored
    ((Folder.shape_id same).trans (keyed.trans (Folder.shape_parentId topSame).symm))
  have one := Folder.shape_depth same
  have two := Folder.shape_depth topSame
  simp only at depth
  omega

end Branch

section Relocation

variable {parentId : Nat} {name newPrefix : String} {depthDelta : Int} {location : FolderLocation}

theorem relocate_id (row : Folder) :
    (relocate root tree parentId name newPrefix depthDelta row).id = row.id := by
  unfold relocate Folder.relocated
  split
  · split <;> rfl
  · rfl

theorem relocate_userId (row : Folder) :
    (relocate root tree parentId name newPrefix depthDelta row).userId = row.userId := by
  unfold relocate Folder.relocated
  split
  · split <;> rfl
  · rfl

theorem relocate_outside {row : Folder} (outside : ∀ folder ∈ tree, folder.id ≠ row.id) :
    relocate root tree parentId name newPrefix depthDelta row = row := by
  unfold relocate
  rw [if_neg]
  simpa using outside

/-- A place outside the branch is where it was. -/
theorem Locates.relocate_outside {userId folderId : Nat} {place : FolderLocation}
    (located : Locates table.rows userId folderId place)
    (outside : ∀ folder ∈ tree, folder.id ≠ folderId) :
    Locates (table.rows.map (relocate root tree parentId name newPrefix depthDelta)) userId folderId
      place := by
  rcases located with zero | ⟨folder, present, keyed, named⟩
  · exact .inl zero
  · refine .inr ⟨folder, List.mem_map.mpr ⟨folder, present, ?_⟩, keyed, named⟩
    exact Drive.relocate_outside fun other there same => outside other there (same.trans keyed)

/-- A place inside the branch has the new path and the new depth of its folder. -/
theorem Branch.locates_inside (branch : Branch table.rows root tree) {folder : Folder}
    (present : folder ∈ tree) :
    Locates (table.rows.map (relocate root tree parentId name newPrefix depthDelta)) folder.userId
      folder.id ⟨newPrefix ++ substrFrom folder.path root.path.length,
        shiftedDepth folder.depth depthDelta⟩ := by
  obtain ⟨row, stored, same⟩ := branch.stored folder present
  refine .inr ⟨_, List.mem_map_of_mem stored, ?_, ?_, ?_⟩
  · rw [relocate_id, Folder.shape_id same]
  · rw [relocate_userId, Folder.shape_userId same]
  · have inside : (tree.any fun other => other.id = row.id) = true :=
      List.any_eq_true.mpr ⟨folder, present, decide_eq_true (Folder.shape_id same).symm⟩
    rw [relocate, if_pos inside, Folder.relocated, ← Folder.shape_path same,
      ← Folder.shape_depth same]
    split <;> rfl

/-- A branch that moves as a whole, with all paths and depths rewritten, stays well placed. -/
theorem FoldersPlaced.relocate (placed : FoldersPlaced table.rows) (branch : Branch table.rows root tree)
    (target : Locates table.rows root.userId parentId location)
    (outside : ∀ folder ∈ tree, folder.id ≠ parentId)
    (renamed : newPrefix = buildFolderPath location.path name)
    (shifted : depthDelta = (location.depth : Int) + 1 - root.depth) :
    FoldersPlaced (table.rows.map (relocate root tree parentId name newPrefix depthDelta)) := by
  intro moved present
  obtain ⟨row, stored, rfl⟩ := List.mem_map.mp present
  by_cases inside : (tree.any fun folder => folder.id = row.id) = true
  · obtain ⟨folder, there, keyed⟩ := List.any_eq_true.mp inside
    obtain ⟨same, found, shape⟩ := branch.stored folder there
    obtain rfl : same = row := table.eq_of_key found stored
      ((Folder.shape_id shape).trans (of_decide_eq_true keyed))
    obtain ⟨-, higher, -⟩ := branch.below_root placed there
    rw [Drive.relocate, if_pos inside, Folder.relocated]
    by_cases top : same.id = root.id
    · obtain rfl : folder = root := List.inj_on_of_nodup_map branch.once there branch.top
        ((Folder.shape_id shape).symm.trans top)
      rw [if_pos top]
      refine ⟨location, ?_, ?_, ?_⟩
      · have owned := Folder.shape_userId shape
        rw [← owned] at target
        exact target.relocate_outside outside
      · simp only [Folder.shape_path shape, substrFrom_self, String.append_empty, renamed]
      · simp only [Folder.shape_depth shape, shiftedDepth, shifted]
        omega
    · rw [if_neg top]
      have below : folder.id ≠ root.id := fun equal => top ((Folder.shape_id shape).trans equal)
      obtain ⟨parent, parentIn, linked, owned, path, deeper⟩ := branch.parent placed there below
      obtain ⟨⟨rest, prefixed⟩, parentHigher, -⟩ := branch.below_root placed parentIn
      have place := @Branch.locates_inside table root tree parentId name newPrefix depthDelta branch _
        parentIn
      rw [linked, owned, ← Folder.shape_parentId shape, ← Folder.shape_userId shape] at place
      refine ⟨_, place, ?_, ?_⟩
      · simp only [Folder.shape_path shape, Folder.shape_name shape, path, buildFolderPath_eq, prefixed,
          String.append_assoc, substrFrom_append]
      · simp only [Folder.shape_depth shape, shiftedDepth, shifted]
        omega
  · obtain ⟨place, located, values⟩ := placed row stored
    rw [Drive.relocate, if_neg inside]
    refine ⟨place, located.relocate_outside fun folder there keyed => inside ?_, values⟩
    obtain ⟨child, found, same⟩ := branch.closed row stored folder there keyed.symm
    exact List.any_eq_true.mpr ⟨child, found, decide_eq_true same⟩

/-- The files below the branch keep their places when each of them gets its new path. -/
theorem FilesPlaced.relocate {files moved : List File} (placed : FilesPlaced table.rows files)
    (branch : Branch table.rows root tree)
    (rewritten : ∀ file ∈ moved, ∃ old ∈ files,
      (file = old ∧ ∀ folder ∈ tree, folder.id ≠ old.folderId) ∨
        ∃ folder ∈ tree, folder.id = old.folderId ∧ file = { old with
          path := buildFilePath (newPrefix ++ substrFrom folder.path root.path.length) old.name }) :
    FilesPlaced (table.rows.map (Drive.relocate root tree parentId name newPrefix depthDelta)) moved := by
  intro file present
  obtain ⟨old, there, ⟨rfl, outside⟩ | ⟨folder, inside, keyed, rfl⟩⟩ := rewritten file present
  · obtain ⟨location, located, path⟩ := placed file there
    exact ⟨location, located.relocate_outside outside, path⟩
  · obtain ⟨location, located, path⟩ := placed old there
    obtain ⟨row, stored, same⟩ := branch.stored folder inside
    obtain ⟨owned, -⟩ := located.of_row stored ((Folder.shape_id same).trans keyed)
    have place := @Branch.locates_inside table root tree parentId name newPrefix depthDelta branch _ inside
    rw [keyed, ← Folder.shape_userId same, owned] at place
    exact ⟨_, place, rfl⟩

end Relocation

section Query

variable {db : Db} {userId : Nat}

/-- A stored child is one level deeper than its stored parent and has the same owner. -/
theorem FoldersPlaced.child (placed : FoldersPlaced db.folders.rows) {child parent : Folder}
    (childStored : child ∈ db.folders.rows) (parentStored : parent ∈ db.folders.rows)
    (linked : child.parentId = parent.id) :
    parent.userId = child.userId ∧ child.path = buildFolderPath parent.path child.name ∧
      child.depth = parent.depth + 1 := by
  obtain ⟨location, located, path, depth⟩ := placed child childStored
  obtain ⟨owned, rfl⟩ := located.of_row parentStored linked.symm
  exact ⟨owned, path, depth⟩

theorem childrenOf_nodup {level : List Folder} (once : level.Nodup)
    (stored : ∀ folder ∈ level, folder ∈ db.folders.rows) :
    (childrenOf db.folders.rows userId level).Nodup := by
  have rows : db.folders.rows.Nodup := List.Nodup.of_map Folder.id db.folders.distinct
  rw [childrenOf, List.nodup_flatMap]
  refine ⟨fun parent _ => rows.filter _, once.pairwise_of_forall_ne ?_⟩
  intro first firstIn second secondIn differ child inFirst inSecond
  have one := (List.mem_filter.mp inFirst).2
  have two := (List.mem_filter.mp inSecond).2
  simp only [Bool.and_eq_true, decide_eq_true_eq] at one two
  exact differ (db.folders.eq_of_key (stored first firstIn) (stored second secondIn)
    (one.1.symm.trans two.1))

/-- The rounds of the query find each row once, since every round is one level deeper. -/
theorem folderTree_nodup (placed : FoldersPlaced db.folders.rows) {fuel depth : Nat}
    {level folders : List Folder} (once : level.Nodup)
    (stored : ∀ folder ∈ level, folder ∈ db.folders.rows)
    (deep : ∀ folder ∈ level, folder.depth = depth)
    (ended : folderTree db.folders.rows userId fuel level = some folders) :
    folders.Nodup ∧ ∀ folder ∈ folders, depth ≤ folder.depth := by
  induction fuel generalizing depth level folders with
  | zero =>
      cases level with
      | nil =>
          obtain rfl := Option.some.inj ended
          exact ⟨List.nodup_nil, by simp⟩
      | cons first rest => cases ended
  | succ fuel ih =>
      cases level with
      | nil =>
          obtain rfl := Option.some.inj ended
          exact ⟨List.nodup_nil, by simp⟩
      | cons first rest =>
          rw [folderTree, Option.map_eq_some_iff] at ended
          obtain ⟨deeper, found, rfl⟩ := ended
          have children : ∀ child ∈ childrenOf db.folders.rows userId (first :: rest),
              child ∈ db.folders.rows ∧ child.depth = depth + 1 := by
            intro child present
            obtain ⟨parent, inLevel, there, linked, -⟩ := mem_childrenOf.mp present
            refine ⟨there, ?_⟩
            rw [(placed.child there (stored parent inLevel) linked).2.2, deep parent inLevel]
          obtain ⟨distinct, below⟩ := ih (childrenOf_nodup once stored)
            (fun child present => (children child present).1)
            (fun child present => (children child present).2) found
          refine ⟨List.nodup_append'.mpr ⟨once, distinct, ?_⟩, ?_⟩
          · intro folder here there
            have level := deep folder here
            have next := below folder there
            omega
          · intro folder present
            rcases List.mem_append.mp present with here | there
            · exact (deep folder here).ge
            · exact (Nat.le_succ depth).trans (below folder there)

variable {root : Folder} {tree : List Folder}

/-- The query returns the branch of its root. -/
theorem fetchFolderSubtree_branch (placed : FoldersPlaced db.folders.rows)
    (stored : root ∈ db.folders.rows) (owned : root.userId = userId)
    (found : fetchFolderSubtree db root userId = some tree) : Branch db.folders.rows root tree where
  top := (mem_fetchFolderSubtree stored found root).mpr .refl
  stored := fun folder present =>
    ⟨folder, mem_of_below stored ((mem_fetchFolderSubtree stored found folder).mp present), rfl⟩
  parents := by
    intro folder present differ
    have below := (mem_fetchFolderSubtree stored found folder).mp present
    rcases below.cases_head with rfl | ⟨parent, linked, rest⟩
    · exact absurd rfl differ
    · exact ⟨parent, (mem_fetchFolderSubtree stored found parent).mpr rest, linked.2.2.1.symm⟩
  closed := by
    intro row present parent inside linked
    have below := (mem_fetchFolderSubtree stored found parent).mp inside
    have parentStored := mem_of_below stored below
    have sameOwner := (placed.child present parentStored linked).1
    refine ⟨row, (mem_fetchFolderSubtree stored found row).mpr ?_, rfl⟩
    exact .head ⟨present, parentStored, linked, sameOwner.symm.trans (owned_of_below owned below)⟩ below
  once := by
    obtain ⟨rows, ended, rfl⟩ := Option.map_eq_some_iff.mp found
    have deep : ∀ folder ∈ [root], folder.depth = root.depth := by simp
    have distinct := (folderTree_nodup placed (List.nodup_singleton root) (by simpa using stored)
      deep ended).1
    have sorted := (List.perm_insertionSort (fun first second : Folder => first.depth < second.depth ∨
      (first.depth = second.depth ∧ first.id ≤ second.id)) rows).nodup_iff.mpr distinct
    refine sorted.map_on fun first one second two same => ?_
    have member := fun folder => mem_fetchFolderSubtree stored found folder
    exact db.folders.eq_of_key (mem_of_below stored ((member first).mp one))
      (mem_of_below stored ((member second).mp two)) same

end Query

end DiskServer.Drive
