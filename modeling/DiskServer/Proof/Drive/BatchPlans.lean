import DiskServer.Proof.Drive.FolderSessions
import DiskServer.Proof.Drive.Relocation

namespace DiskServer.Drive

open Library Relation

variable {db : Db} {userId : Nat} {folderIds hashOrder : List Nat}

/-- No folder of a forest lies below itself. -/
theorem not_below_itself (forest : IsForest db.folders) (folder : Folder) :
    ¬ TransGen (Folder.IsParent db userId) folder folder := by
  have climbing : ∀ folderId, ReachesRoot db.folders userId folderId → ∀ folder ∈ db.folders.rows,
      folder.id = folderId → ¬ TransGen (Folder.IsParent db userId) folder folder := by
    intro folderId rooted
    induction rooted with
    | top =>
        intro folder present zero
        exact absurd zero (Nat.ne_of_gt (folder_id_pos present))
    | @under row present above ih =>
        intro folder there same cycle
        obtain ⟨parent, linked, back⟩ := TransGen.head'_iff.mp cycle
        obtain rfl := db.folders.eq_of_key there present.1 same
        exact ih parent linked.2.1 linked.2.2.1.symm (TransGen.tail' back linked)
  intro cycle
  obtain ⟨parent, linked, -⟩ := TransGen.head'_iff.mp cycle
  have rooted := forest folder linked.1
  rw [linked.2.2.2] at rooted
  exact climbing folder.id rooted folder linked.1 rfl cycle

/-- A query that has not ended has followed a chain of folders down. -/
theorem folderTree_chain {fuel : Nat} {level : List Folder}
    (stored : ∀ folder ∈ level, folder ∈ db.folders.rows)
    (running : folderTree db.folders.rows userId fuel level = none) :
    ∃ top ∈ level, ∃ chain : List Folder, chain.length = fuel + 1 ∧
      chain.Pairwise (fun above below => TransGen (Folder.IsParent db userId) below above) ∧
      ∀ folder ∈ chain, folder ∈ db.folders.rows ∧ Folder.Below db userId folder top := by
  induction fuel generalizing level with
  | zero =>
      cases level with
      | nil => cases running
      | cons first rest =>
          refine ⟨first, List.mem_cons_self, [first], rfl, List.pairwise_singleton _ _, ?_⟩
          intro folder only
          obtain rfl := List.mem_singleton.mp only
          exact ⟨stored folder List.mem_cons_self, .refl⟩
  | succ fuel ih =>
      cases level with
      | nil => cases running
      | cons first rest =>
          rw [folderTree, Option.map_eq_none_iff] at running
          have children : ∀ child ∈ childrenOf db.folders.rows userId (first :: rest),
              child ∈ db.folders.rows := by
            intro child present
            obtain ⟨-, -, there, -⟩ := mem_childrenOf.mp present
            exact there
          obtain ⟨child, present, chain, long, ordered, below⟩ := ih children running
          obtain ⟨parent, inLevel, there, linked, owned⟩ := mem_childrenOf.mp present
          have step : Folder.IsParent db userId child parent :=
            ⟨there, stored parent inLevel, linked, owned⟩
          refine ⟨parent, inLevel, parent :: chain, by rw [List.length_cons, long], ?_, ?_⟩
          · refine List.pairwise_cons.mpr ⟨fun folder inside => ?_, ordered⟩
            exact TransGen.tail' (below folder inside).2 step
          · intro folder inside
            rcases List.mem_cons.mp inside with rfl | later
            · exact ⟨stored folder inLevel, .refl⟩
            · exact ⟨(below folder later).1, (below folder later).2.tail step⟩

/-- The recursive query ends on a forest. -/
theorem exists_folderSubtree (forest : IsForest db.folders) {root : Folder}
    (stored : root ∈ db.folders.rows) : ∃ folders, fetchFolderSubtree db root userId = some folders := by
  unfold fetchFolderSubtree
  cases running : folderTree db.folders.rows userId (db.folders.rows.length + 1) [root] with
  | some folders => exact ⟨_, rfl⟩
  | none =>
      obtain ⟨top, -, chain, long, ordered, below⟩ := folderTree_chain (by simpa using stored) running
      have distinct : chain.Nodup := by
        refine ordered.imp fun {above below} path => ?_
        rintro rfl
        exact not_below_itself forest above path
      have included : chain ⊆ db.folders.rows := fun folder inside => (below folder inside).1
      have short := (distinct.subperm included).length_le
      omega

/-- The rounds of the query on a forest find each row once. -/
theorem folderTree_nodup_of_apart {fuel : Nat} {level folders : List Folder} (once : level.Nodup)
    (stored : ∀ folder ∈ level, folder ∈ db.folders.rows)
    (apart : ∀ first ∈ level, ∀ second ∈ level, ¬ TransGen (Folder.IsParent db userId) first second)
    (ended : folderTree db.folders.rows userId fuel level = some folders) : folders.Nodup := by
  induction fuel generalizing level folders with
  | zero =>
      cases level with
      | nil =>
          obtain rfl := Option.some.inj ended
          exact List.nodup_nil
      | cons first rest => cases ended
  | succ fuel ih =>
      cases level with
      | nil =>
          obtain rfl := Option.some.inj ended
          exact List.nodup_nil
      | cons first rest =>
          rw [folderTree, Option.map_eq_some_iff] at ended
          obtain ⟨deeper, found, rfl⟩ := ended
          have children : ∀ child ∈ childrenOf db.folders.rows userId (first :: rest),
              child ∈ db.folders.rows ∧
                ∃ parent ∈ first :: rest, Folder.IsParent db userId child parent := by
            intro child present
            obtain ⟨parent, inLevel, there, linked, owned⟩ := mem_childrenOf.mp present
            exact ⟨there, parent, inLevel, there, stored parent inLevel, linked, owned⟩
          have childrenStored := fun child present => (children child present).1
          have childrenApart : ∀ one ∈ childrenOf db.folders.rows userId (first :: rest),
              ∀ two ∈ childrenOf db.folders.rows userId (first :: rest),
                ¬ TransGen (Folder.IsParent db userId) one two := by
            intro one oneIn two twoIn path
            obtain ⟨-, above, aboveIn, oneStep⟩ := children one oneIn
            obtain ⟨-, other, otherIn, twoStep⟩ := children two twoIn
            obtain ⟨parent, linked, rest⟩ := TransGen.head'_iff.mp path
            obtain rfl := Folder.isParent_unique linked oneStep
            exact apart parent aboveIn other otherIn (TransGen.tail' rest twoStep)
          refine List.nodup_append'.mpr
            ⟨once, ih (childrenOf_nodup once stored) childrenStored childrenApart found, ?_⟩
          intro folder here there
          obtain ⟨child, present, path⟩ := (mem_folderTree childrenStored found folder).mp there
          obtain ⟨-, parent, inLevel, step⟩ := children child present
          exact apart folder here parent inLevel (TransGen.tail' path step)

theorem fetchFolderSubtree_nodup (forest : IsForest db.folders) {root : Folder} {folders : List Folder}
    (stored : root ∈ db.folders.rows) (found : fetchFolderSubtree db root userId = some folders) :
    folders.Nodup := by
  obtain ⟨rows, ended, rfl⟩ := Option.map_eq_some_iff.mp found
  refine (List.perm_insertionSort _ _).nodup_iff.mpr (folderTree_nodup_of_apart (List.nodup_singleton root)
    (by simpa using stored) ?_ ended)
  intro first firstIn second secondIn
  obtain rfl := List.mem_singleton.mp firstIn
  obtain rfl := List.mem_singleton.mp secondIn
  exact not_below_itself forest _

/-- A stored folder of the user that the request names. -/
def Folder.Requested (db : Db) (userId : Nat) (folderIds : List Nat) (root : Folder) : Prop :=
  root ∈ db.folders.rows ∧ root.userId = userId ∧ root.id ∈ folderIds

/-- A requested folder that lies below no other requested one. -/
def Folder.Topmost (db : Db) (userId : Nat) (folderIds : List Nat) (root : Folder) : Prop :=
  root.Requested db userId folderIds ∧ ∀ other : Folder, other.Requested db userId folderIds →
    root.Below db userId other → other = root

/-- A file of the user in the subtree of a folder. -/
def File.Inside (db : Db) (userId : Nat) (file : File) (root : Folder) : Prop :=
  file ∈ db.files.rows ∧ file.userId = userId ∧
    ∃ folder : Folder, folder.Below db userId root ∧ folder.id = file.folderId

/-- The requested folders that exist, in the order of their ids. -/
def requestedRoots (db : Db) (folderIds : List Nat) (userId : Nat) : List Folder :=
  (normalizeIds folderIds).filterMap fun folderId =>
    (db.folders.find? folderId).filter fun folder => folder.userId = userId

/-- The keys of the plans in the order of the hash map. -/
def planOrder (db : Db) (hashOrder folderIds : List Nat) (userId : Nat) : List Nat :=
  iterationOrder hashOrder ((requestedRoots db folderIds userId).map Folder.id)

theorem mem_requestedRoots {root : Folder} :
    root ∈ requestedRoots db folderIds userId ↔ root.Requested db userId folderIds := by
  rw [requestedRoots, List.mem_filterMap]
  constructor
  · rintro ⟨folderId, named, found⟩
    obtain ⟨row, owned⟩ := Option.filter_eq_some_iff.mp found
    obtain ⟨stored, keyed⟩ := Table.find?_some row
    exact ⟨stored, by simpa using owned, keyed ▸ mem_normalizeIds.mp named⟩
  · rintro ⟨stored, owned, named⟩
    refine ⟨root.id, mem_normalizeIds.mpr named, Option.filter_eq_some_iff.mpr ⟨?_, by simpa using owned⟩⟩
    exact Table.find?_eq_some_iff.mpr ⟨stored, rfl⟩

theorem requestedRoots_nodup : ((requestedRoots db folderIds userId).map Folder.id).Nodup := by
  refine (normalizeIds_nodup folderIds).sublist (filterMap_keys_sublist ?_ _)
  intro folderId folder found
  obtain ⟨row, -⟩ := Option.filter_eq_some_iff.mp found
  exact (Table.find?_some row).2

theorem iterationOrder_perm (hashOrder keys : List Nat) : (iterationOrder hashOrder keys).Perm keys := by
  unfold iterationOrder
  split
  · next same => exact same
  · exact .refl _

/-- The folder with a key of the order. -/
theorem orderedRoots_ids :
    ((planOrder db hashOrder folderIds userId).filterMap fun rootId =>
      (requestedRoots db folderIds userId).find? fun folder => folder.id = rootId).map Folder.id =
        planOrder db hashOrder folderIds userId := by
  have named : ∀ rootId ∈ planOrder db hashOrder folderIds userId,
      ∃ root, ((requestedRoots db folderIds userId).find? fun folder => folder.id = rootId) = some root ∧
        root.id = rootId := by
    intro rootId listed
    obtain ⟨root, present, rfl⟩ := List.mem_map.mp ((iterationOrder_perm _ _).subset listed)
    cases found : (requestedRoots db folderIds userId).find? fun folder => folder.id = root.id with
    | none => exact absurd (List.find?_eq_none.mp found root present) (by simp)
    | some other => exact ⟨other, rfl, by simpa using List.find?_some found⟩
  generalize planOrder db hashOrder folderIds userId = order at named
  induction order with
  | nil => rfl
  | cons rootId rest ih =>
      obtain ⟨root, found, keyed⟩ := named rootId List.mem_cons_self
      rw [List.filterMap_cons, found, List.map_cons, keyed,
        ih fun other listed => named other (List.mem_cons_of_mem rootId listed)]

/-- The trees that the batch query returns, one for each requested folder in the order of the map. -/
structure TreesOf (db : Db) (hashOrder folderIds : List Nat) (userId : Nat)
    (trees : List (Folder × List Folder)) : Prop where
  keys : trees.map (fun tree => tree.1.id) = planOrder db hashOrder folderIds userId
  root : ∀ tree ∈ trees, tree.1.Requested db userId folderIds
  all : ∀ root : Folder, root.Requested db userId folderIds → ∃ tree ∈ trees, tree.1 = root
  members : ∀ tree ∈ trees, ∀ folder, folder ∈ tree.2 ↔ Folder.Below db userId folder tree.1
  once : ∀ tree ∈ trees, tree.2.Nodup

theorem exists_folderTrees (forest : IsForest db.folders) (hashOrder folderIds : List Nat) (userId : Nat) :
    ∃ trees, fetchFolderTrees db hashOrder folderIds userId = some trees ∧
      TreesOf db hashOrder folderIds userId trees := by
  have requested : ∀ root ∈ (planOrder db hashOrder folderIds userId).filterMap fun rootId =>
      (requestedRoots db folderIds userId).find? fun folder => folder.id = rootId,
      root.Requested db userId folderIds := by
    intro root chosen
    obtain ⟨rootId, -, found⟩ := List.mem_filterMap.mp chosen
    exact mem_requestedRoots.mp (List.mem_of_find?_eq_some found)
  obtain ⟨trees, found⟩ := exists_mapM fun root chosen => by
    obtain ⟨folders, subtree⟩ := @exists_folderSubtree db userId forest root (requested root chosen).1
    exact ⟨(root, folders), congrArg (Option.map fun folders => (root, folders)) subtree⟩
  have each := forall₂_of_mapM found
  have built : ∀ tree ∈ trees, tree.1.Requested db userId folderIds ∧
      fetchFolderSubtree db tree.1 userId = some tree.2 := by
    intro tree present
    obtain ⟨root, chosen, body⟩ := exists_of_forall₂_right each present
    obtain ⟨folders, subtree, rfl⟩ := Option.map_eq_some_iff.mp body
    exact ⟨requested root chosen, subtree⟩
  have keys : trees.map (fun tree => tree.1.id) = planOrder db hashOrder folderIds userId := by
    have same : List.Forall₂ (· = ·) (trees.map fun tree => tree.1.id)
        (((planOrder db hashOrder folderIds userId).filterMap fun rootId =>
          (requestedRoots db folderIds userId).find? fun folder => folder.id = rootId).map Folder.id) := by
      rw [List.forall₂_map_left_iff, List.forall₂_map_right_iff]
      refine each.flip.imp fun tree root body => ?_
      obtain ⟨folders, -, rfl⟩ := Option.map_eq_some_iff.mp body
      rfl
    rw [List.forall₂_eq_eq_eq] at same
    rw [same, orderedRoots_ids]
  refine ⟨trees, found, ?_, fun tree present => (built tree present).1, ?_, ?_, ?_⟩
  · exact keys
  · intro root asked
    have listed : root.id ∈ trees.map fun tree => tree.1.id := by
      rw [keys]
      exact (iterationOrder_perm _ _).symm.subset (List.mem_map_of_mem (mem_requestedRoots.mpr asked))
    obtain ⟨tree, present, same⟩ := List.mem_map.mp listed
    exact ⟨tree, present, db.folders.eq_of_key (built tree present).1.1 asked.1 same⟩
  · intro tree present
    exact mem_fetchFolderSubtree (built tree present).1.1 (built tree present).2
  · intro tree present
    exact fetchFolderSubtree_nodup forest (built tree present).1.1 (built tree present).2

/-- The plans of a batch with their keys. -/
def plansOf (db : Db) (userId : Nat) (trees : List (Folder × List Folder)) :
    List (Nat × FolderDeletePlan) :=
  let keyed := trees.map fun tree => (tree.1.id, tree.2)
  let files := fetchFilesInFolders db ((trees.flatMap Prod.snd).map Folder.id) userId
  trees.map fun tree => buildDeletePlan keyed files tree.1 (tree.1.id, tree.2)

/-- On a forest the subtree queries end and give the plans of the trees. -/
theorem fetchBatchFolderDeletePlans_run (forest : IsForest db.folders) (hashOrder folderIds : List Nat)
    (userId : Nat) : ∃ trees, TreesOf db hashOrder folderIds userId trees ∧
      (fetchBatchFolderDeletePlans hashOrder folderIds userId).run db = .ok (plansOf db userId trees, db) := by
  obtain ⟨trees, found, valid⟩ := exists_folderTrees forest hashOrder folderIds userId
  refine ⟨trees, valid, ?_⟩
  unfold fetchBatchFolderDeletePlans
  simp only [StateT.run_bind, StateT.run_get, pure_bind, found]
  rfl

section Trees

variable {trees : List (Folder × List Folder)} (valid : TreesOf db hashOrder folderIds userId trees)

include valid

theorem TreesOf.ids_nodup : (trees.map fun tree => tree.1.id).Nodup := by
  rw [valid.keys]
  exact (iterationOrder_perm _ _).nodup_iff.mpr requestedRoots_nodup

/-- A requested folder has one tree. -/
theorem TreesOf.eq_of_id {one two : Folder × List Folder} (first : one ∈ trees) (second : two ∈ trees)
    (same : one.1.id = two.1.id) : one = two :=
  List.inj_on_of_nodup_map valid.ids_nodup first second same

/-- A tree holds the folder of a file that lies inside its root. -/
theorem TreesOf.holds {tree : Folder × List Folder} (present : tree ∈ trees) {file : File}
    (stored : file ∈ db.files.rows) (owned : file.userId = userId) :
    (tree.2.any fun folder => folder.id = file.folderId) = true ↔ file.Inside db userId tree.1 := by
  rw [List.any_eq_true]
  constructor
  · rintro ⟨folder, inside, same⟩
    exact ⟨stored, owned, folder, (valid.members tree present folder).mp inside, of_decide_eq_true same⟩
  · rintro ⟨-, -, folder, below, same⟩
    exact ⟨folder, (valid.members tree present folder).mpr below, decide_eq_true same⟩

/-- A file goes to the first requested folder, in the order of the map, that it lies inside. -/
theorem TreesOf.matchedRoot_eq {tree : Folder × List Folder} (present : tree ∈ trees) {file : File}
    (stored : file ∈ db.files.rows) (owned : file.userId = userId) :
    matchedRoot (trees.map fun tree => (tree.1.id, tree.2)) file = some tree.1.id ↔
      file.Inside db userId tree.1 ∧ ∀ other : Folder, other.Requested db userId folderIds →
        file.Inside db userId other → (planOrder db hashOrder folderIds userId).idxOf tree.1.id ≤
          (planOrder db hashOrder folderIds userId).idxOf other.id := by
  have named : matchedRoot (trees.map fun tree => (tree.1.id, tree.2)) file = some tree.1.id ↔
      (trees.find? fun tree => tree.2.any fun folder => folder.id = file.folderId) = some tree := by
    rw [matchedRoot, List.find?_map, Option.map_map, Option.map_eq_some_iff]
    constructor
    · rintro ⟨other, found, same⟩
      have listed := List.mem_of_find?_eq_some found
      rwa [valid.eq_of_id listed present same] at found
    · intro found
      exact ⟨tree, found, rfl⟩
  rw [named, find?_eq_some_iff_idxOf valid.ids_nodup present, valid.keys, valid.holds present stored owned]
  refine and_congr_right fun _ => ⟨fun earliest other asked inside => ?_,
    fun earliest other listed held => ?_⟩
  · obtain ⟨otherTree, listed, rfl⟩ := valid.all other asked
    exact earliest otherTree listed ((valid.holds listed stored owned).mpr inside)
  · exact earliest other.1 (valid.root other listed) ((valid.holds listed stored owned).mp held)

theorem TreesOf.findPlan_eq {tree : Folder × List Folder} (present : tree ∈ trees) :
    findPlan (plansOf db userId trees) tree.1.id =
      some (buildDeletePlan (trees.map fun tree => (tree.1.id, tree.2))
        (fetchFilesInFolders db ((trees.flatMap Prod.snd).map Folder.id) userId) tree.1
        (tree.1.id, tree.2)).2 := by
  have found : (trees.find? fun other => decide (other.1.id = tree.1.id)) = some tree := by
    rw [find?_eq_some_iff_idxOf valid.ids_nodup present]
    refine ⟨decide_eq_true rfl, fun other listed same => ?_⟩
    rw [of_decide_eq_true same]
  unfold findPlan plansOf
  simp only
  rw [List.find?_map, Option.map_map]
  exact congrArg (Option.map _) found

end Trees

/-- A plan holds the subtree of a folder, each folder and each file once. -/
structure FolderDeletePlan.Covers (db : Db) (userId : Nat) (root : Folder) (plan : FolderDeletePlan) :
    Prop where
  top : plan.root ∈ plan.folders
  folders : ∀ folder, folder ∈ plan.folders ↔ Folder.Below db userId folder root
  folderOnce : plan.folders.Nodup
  files : ∀ file, file ∈ plan.files ↔ File.Inside db userId file root
  fileOnce : plan.files.Nodup
  size : plan.itemSize = (plan.files.map File.size).sum

/-- The plans of the topmost requested folders are their whole subtrees. -/
structure SubtreesPlanned (db : Db) (userId : Nat) (folderIds : List Nat)
    (plans : List (Nat × FolderDeletePlan)) : Prop where
  topmost : ∀ folderId, folderId ∈ filterCoveredFolderIds folderIds plans ↔
    ∃ root : Folder, root.Topmost db userId folderIds ∧ root.id = folderId
  plan : ∀ root : Folder, root.Topmost db userId folderIds →
    ∃ plan, findPlan plans root.id = some plan ∧ plan.Covers db userId root
  covered : ∀ fileId, fileId ∈ collectCoveredFileIds (filterCoveredFolderIds folderIds plans) plans ↔
    ∃ (file : File) (root : Folder), root.Topmost db userId folderIds ∧ file.Inside db userId root ∧
      file.id = fileId
  folderOnce : ∀ (folder one two : Folder), one.Topmost db userId folderIds →
    two.Topmost db userId folderIds → folder.Below db userId one → folder.Below db userId two → one = two
  fileOnce : ∀ (file : File) (one two : Folder), one.Topmost db userId folderIds →
    two.Topmost db userId folderIds → file.Inside db userId one → file.Inside db userId two → one = two

/-- The map lists each topmost requested folder before the requested folders below it that hold files. -/
def TopmostFirst (db : Db) (hashOrder folderIds : List Nat) (userId : Nat) : Prop :=
  ∀ root other : Folder, root.Topmost db userId folderIds → other.Requested db userId folderIds →
    other.Below db userId root → (∃ file : File, file.Inside db userId other) →
      (planOrder db hashOrder folderIds userId).idxOf root.id ≤
        (planOrder db hashOrder folderIds userId).idxOf other.id

/-- Two requested folders above one folder are one when one of them is topmost, or it is the upper one. -/
theorem Folder.Topmost.above {root other folder : Folder} (top : root.Topmost db userId folderIds)
    (asked : other.Requested db userId folderIds) (one : folder.Below db userId root)
    (two : folder.Below db userId other) : other.Below db userId root := by
  rcases below_or_below one two with below | below
  · rw [top.2 other asked below]
    exact .refl
  · exact below

theorem File.Inside.above {root other : Folder} {file : File} (top : root.Topmost db userId folderIds)
    (asked : other.Requested db userId folderIds) (one : file.Inside db userId root)
    (two : file.Inside db userId other) : other.Below db userId root := by
  obtain ⟨-, -, first, firstBelow, firstKey⟩ := one
  obtain ⟨-, -, second, secondBelow, secondKey⟩ := two
  obtain rfl := db.folders.eq_of_key (mem_of_below top.1.1 firstBelow) (mem_of_below asked.1 secondBelow)
    (firstKey.trans secondKey.symm)
  exact top.above asked firstBelow secondBelow

theorem File.Inside.up {root other : Folder} {file : File} (inside : file.Inside db userId other)
    (below : other.Below db userId root) : file.Inside db userId root := by
  obtain ⟨stored, owned, folder, path, keyed⟩ := inside
  exact ⟨stored, owned, folder, path.trans below, keyed⟩

theorem headD_mem {Item : Type} {items : List Item} {first other : Item} (present : other ∈ items) :
    items.headD first ∈ items := by
  cases items with
  | nil => cases present
  | cons head rest => exact List.mem_cons_self

section Planned

variable {trees : List (Folder × List Folder)} (valid : TreesOf db hashOrder folderIds userId trees)

include valid

/-- The cover filter keeps the topmost requested folders. -/
theorem TreesOf.mem_filterCoveredFolderIds (folderId : Nat) :
    folderId ∈ filterCoveredFolderIds folderIds (plansOf db userId trees) ↔
      ∃ root : Folder, root.Topmost db userId folderIds ∧ root.id = folderId := by
  have kept : folderId ∈ filterCoveredFolderIds folderIds (plansOf db userId trees) ↔
      folderId ∈ folderIds ∧ (∃ tree ∈ trees, tree.1.id = folderId) ∧
        ∀ tree ∈ trees, tree.1.id ≠ folderId → ∀ folder ∈ tree.2, folder.id ≠ folderId := by
    unfold filterCoveredFolderIds plansOf
    simp [buildDeletePlan]
  rw [kept]
  constructor
  · rintro ⟨-, ⟨tree, listed, rfl⟩, uncovered⟩
    refine ⟨tree.1, ⟨valid.root tree listed, fun other asked below => ?_⟩, rfl⟩
    obtain ⟨otherTree, there, rfl⟩ := valid.all other asked
    by_contra differ
    have apart : otherTree.1.id ≠ tree.1.id := fun same =>
      differ (db.folders.eq_of_key asked.1 (valid.root tree listed).1 same)
    exact uncovered otherTree there apart tree.1 ((valid.members otherTree there tree.1).mpr below) rfl
  · rintro ⟨root, top, rfl⟩
    obtain ⟨tree, listed, rfl⟩ := valid.all root top.1
    refine ⟨top.1.2.2, ⟨tree, listed, rfl⟩, fun other there differ folder inside same => ?_⟩
    have below := (valid.members other there folder).mp inside
    obtain rfl := db.folders.eq_of_key (mem_of_below (valid.root other there).1 below) top.1.1 same
    exact differ (congrArg Folder.id (top.2 other.1 (valid.root other there) below))

theorem TreesOf.mem_files {tree : Folder × List Folder} (present : tree ∈ trees) (file : File) :
    file ∈ (buildDeletePlan (trees.map fun tree => (tree.1.id, tree.2))
        (fetchFilesInFolders db ((trees.flatMap Prod.snd).map Folder.id) userId) tree.1
        (tree.1.id, tree.2)).2.files ↔
      file.Inside db userId tree.1 ∧ ∀ other : Folder, other.Requested db userId folderIds →
        file.Inside db userId other → (planOrder db hashOrder folderIds userId).idxOf tree.1.id ≤
          (planOrder db hashOrder folderIds userId).idxOf other.id := by
  unfold buildDeletePlan
  simp only [List.mem_filter, decide_eq_true_eq, mem_fetchFilesInFolders]
  constructor
  · rintro ⟨⟨stored, owned, -⟩, matched⟩
    exact (valid.matchedRoot_eq present stored owned).mp matched
  · rintro ⟨inside, earliest⟩
    refine ⟨⟨inside.1, inside.2.1, ?_⟩,
      (valid.matchedRoot_eq present inside.1 inside.2.1).mpr ⟨inside, earliest⟩⟩
    obtain ⟨-, -, folder, below, keyed⟩ := inside
    rw [← keyed]
    exact List.mem_map_of_mem (List.mem_flatMap.mpr
      ⟨tree, present, (valid.members tree present folder).mpr below⟩)

/-- The plans are whole exactly when the order of the map matches no file to a covered folder. -/
theorem TreesOf.planned_iff :
    SubtreesPlanned db userId folderIds (plansOf db userId trees) ↔
      TopmostFirst db hashOrder folderIds userId := by
  constructor
  · intro planned root other top asked below
    rintro ⟨file, inside⟩
    obtain ⟨tree, listed, rfl⟩ := valid.all root top.1
    obtain ⟨plan, found, covers⟩ := planned.plan tree.1 top
    rw [valid.findPlan_eq listed] at found
    obtain rfl := Option.some.inj found
    exact ((valid.mem_files listed file).mp ((covers.files file).mpr (inside.up below))).2 other asked inside
  · intro first
    have plan : ∀ root : Folder, root.Topmost db userId folderIds →
        ∃ plan, findPlan (plansOf db userId trees) root.id = some plan ∧ plan.Covers db userId root := by
      intro root top
      obtain ⟨tree, listed, rfl⟩ := valid.all root top.1
      refine ⟨_, valid.findPlan_eq listed, ?_, valid.members tree listed, valid.once tree listed, ?_, ?_,
        rfl⟩
      · exact headD_mem ((valid.members tree listed tree.1).mpr .refl)
      · intro file
        rw [valid.mem_files listed]
        refine ⟨fun both => both.1, fun inside => ⟨inside, fun other asked within => ?_⟩⟩
        exact first tree.1 other top asked (inside.above top asked within) ⟨file, within⟩
      · exact fetchFilesInFolders_nodup.filter _
    refine ⟨valid.mem_filterCoveredFolderIds, plan, ?_, ?_, ?_⟩
    · intro fileId
      rw [collectCoveredFileIds, List.mem_flatMap]
      constructor
      · rintro ⟨folderId, chosen, listed⟩
        obtain ⟨root, top, rfl⟩ := (valid.mem_filterCoveredFolderIds folderId).mp chosen
        obtain ⟨covering, found, covers⟩ := plan root top
        rw [found] at listed
        obtain ⟨file, inside, rfl⟩ := List.mem_map.mp listed
        exact ⟨file, root, top, (covers.files file).mp inside, rfl⟩
      · rintro ⟨file, root, top, inside, rfl⟩
        obtain ⟨covering, found, covers⟩ := plan root top
        refine ⟨root.id, (valid.mem_filterCoveredFolderIds root.id).mpr ⟨root, top, rfl⟩, ?_⟩
        rw [found]
        exact List.mem_map_of_mem ((covers.files file).mpr inside)
    · intro folder one two oneTop twoTop oneBelow twoBelow
      exact twoTop.2 one oneTop.1 (oneTop.above twoTop.1 oneBelow twoBelow)
    · intro file one two oneTop twoTop oneInside twoInside
      exact twoTop.2 one oneTop.1 (oneInside.above oneTop twoTop.1 twoInside)

end Planned

end DiskServer.Drive
