import DiskServer.Construction.Drive.FolderTree
import DiskServer.Library.ParentForest

namespace DiskServer.Drive

open Library

section Trees

/-- A node of a tree under the id of the node above it. -/
structure Edge where
  parentId : Nat
  id : Nat
  name : String
  deriving Repr, DecidableEq

/-- The edges of a list of trees below one parent. -/
def edgesUnder (parentId : Nat) : List FolderTreeNode → List Edge
  | [] => []
  | .node id name children :: rest =>
      ⟨parentId, id, name⟩ :: (edgesUnder id children ++ edgesUnder parentId rest)

def FolderTreeNode.id : FolderTreeNode → Nat
  | .node id _ _ => id

def FolderTreeNode.edges : FolderTreeNode → List Edge
  | .node id _ children => edgesUnder id children

/-- The items lead from the root of the tree down to a node. -/
inductive HasPath : FolderTreeNode → List BreadcrumbItem → Prop
  | here (id : Nat) (name : String) (children : List FolderTreeNode) : HasPath (.node id name children) [⟨id, name⟩]
  | down {child : FolderTreeNode} {children : List FolderTreeNode} {path : List BreadcrumbItem} (id : Nat)
      (name : String) : child ∈ children → HasPath child path → HasPath (.node id name children) (⟨id, name⟩ :: path)

theorem mem_edgesUnder (parentId : Nat) {tree : FolderTreeNode} {trees : List FolderTreeNode} (present : tree ∈ trees) :
    (∃ edge ∈ edgesUnder parentId trees, edge.id = tree.id) ∧ ∀ edge ∈ tree.edges, edge ∈ edgesUnder parentId trees := by
  induction trees with
  | nil => cases present
  | cons first rest ih =>
      cases first with
      | node id name children =>
          rw [edgesUnder]
          rcases List.mem_cons.mp present with rfl | there
          · refine ⟨⟨_, List.mem_cons_self, rfl⟩, ?_⟩
            intro edge inside
            exact List.mem_cons_of_mem _ (List.mem_append_left _ inside)
          · obtain ⟨⟨edge, inside, same⟩, others⟩ := ih there
            refine ⟨⟨edge, List.mem_cons_of_mem _ (List.mem_append_right _ inside), same⟩, ?_⟩
            intro other below
            exact List.mem_cons_of_mem _ (List.mem_append_right _ (others other below))

/-- The end of a path is the root of the tree or it has an edge. -/
theorem HasPath.last_edge {tree : FolderTreeNode} {path : List BreadcrumbItem} (leads : HasPath tree path)
    (upper : List BreadcrumbItem) (item : BreadcrumbItem) (split : path = upper ++ [item]) (long : upper ≠ []) :
    ∃ edge ∈ tree.edges, edge.id = item.id := by
  induction leads generalizing upper with
  | here id name children =>
      have lengths := congrArg List.length split
      rw [List.length_singleton, List.length_append, List.length_singleton] at lengths
      exact absurd (List.length_eq_zero_iff.mp (by omega)) long
  | @down child children path id name inside leads ih =>
      obtain ⟨first, rest, rfl⟩ := List.exists_cons_of_ne_nil long
      obtain ⟨rfl, rfl⟩ := List.cons.inj split
      obtain ⟨direct, others⟩ := mem_edgesUnder id inside
      cases rest with
      | nil =>
          cases leads with
          | here => exact direct
          | down _ _ _ lower => cases lower
      | cons second rest =>
          obtain ⟨edge, below, same⟩ := ih _ rfl (List.cons_ne_nil _ _)
          exact ⟨edge, others edge below, same⟩

end Trees

section Building

variable {nodes : List FolderNodeData}

/-- The nodes that the recursion reaches, each under the node that it is reached from. -/
def reached (nodes : List FolderNodeData) : (fuel parentId : Nat) → List Edge
  | 0, _ => []
  | fuel + 1, parentId =>
      (nodes.filter fun node => node.parentId = parentId).flatMap fun node =>
        ⟨parentId, node.id, node.name⟩ :: reached nodes fuel node.id

/-- The nodes lead down from one id to another one. -/
def Leads (nodes : List FolderNodeData) : Nat → List FolderNodeData → Nat → Prop :=
  Lineage FolderNodeData.id FolderNodeData.parentId { node | node ∈ nodes }

/-- The recursion ends when its fuel is larger than the lines below the id, and builds what it reaches. -/
theorem buildChildren_spec (fuel parentId : Nat)
    (short : ∀ line last, Leads nodes parentId line last → line.length < fuel) :
    ∃ trees, buildChildren nodes fuel parentId = some trees ∧
      edgesUnder parentId trees = reached nodes fuel parentId ∧
        ∀ row rest last, Leads nodes parentId (row :: rest) last → ∃ tree ∈ trees,
          HasPath tree ((row :: rest).map fun node => ⟨node.id, node.name⟩) := by
  induction fuel generalizing parentId with
  | zero => exact absurd (short [] parentId (.here parentId)) (Nat.not_lt_zero 0)
  | succ fuel ih =>
      have below : ∀ node ∈ nodes, node.parentId = parentId → ∀ line last, Leads nodes node.id line last →
          line.length < fuel := by
        rintro node present rfl line last leads
        have longer := short _ last (.down present leads)
        exact Nat.lt_of_succ_lt_succ longer
      have built : ∀ chosen : List FolderNodeData, (∀ node ∈ chosen, node ∈ nodes ∧ node.parentId = parentId) →
          ∃ trees, (chosen.mapM fun node => (buildChildren nodes fuel node.id).map fun children =>
              FolderTreeNode.node node.id node.name children) = some trees ∧
            edgesUnder parentId trees = chosen.flatMap (fun node =>
              ⟨parentId, node.id, node.name⟩ :: reached nodes fuel node.id) ∧
            ∀ node ∈ chosen, ∃ children, FolderTreeNode.node node.id node.name children ∈ trees ∧
              buildChildren nodes fuel node.id = some children := by
        intro chosen inside
        induction chosen with
        | nil => exact ⟨[], rfl, edgesUnder.eq_1 parentId, by simp⟩
        | cons node chosen continues =>
            obtain ⟨⟨present, under⟩, others⟩ := List.forall_mem_cons.mp inside
            obtain ⟨children, made, edges, -⟩ := ih node.id (below node present under)
            obtain ⟨trees, mapped, rest, found⟩ := continues others
            refine ⟨.node node.id node.name children :: trees, ?_, ?_, ?_⟩
            · rw [List.mapM_cons, made, mapped]
              rfl
            · rw [List.flatMap_cons, edgesUnder, edges, rest]
              rfl
            · intro other listed
              rcases List.mem_cons.mp listed with rfl | there
              · exact ⟨children, List.mem_cons_self, made⟩
              · obtain ⟨more, kept, same⟩ := found other there
                exact ⟨more, List.mem_cons_of_mem _ kept, same⟩
      obtain ⟨trees, mapped, edges, found⟩ :=
        built (nodes.filter fun node => node.parentId = parentId) fun node listed => by
          simpa using List.mem_filter.mp listed
      refine ⟨trees, mapped, edges, ?_⟩
      intro row rest last leads
      obtain ⟨middle, first, lower⟩ := Lineage.of_append (show Leads nodes parentId ([row] ++ rest) last from leads)
      obtain ⟨present, top, rfl⟩ := Lineage.of_snoc (show Leads nodes parentId ([] ++ [row]) middle from first)
      have under : row.parentId = parentId := top.eq_of_nil
      obtain ⟨children, listed, made⟩ :=
        found row (List.mem_filter.mpr ⟨present, decide_eq_true under⟩)
      refine ⟨_, listed, ?_⟩
      cases rest with
      | nil => exact .here _ _ _
      | cons next rest =>
          obtain ⟨others, same, -, paths⟩ := ih row.id (below row present under)
          obtain rfl : children = others := Option.some.inj (made.symm.trans same)
          obtain ⟨child, inside, path⟩ := paths next rest last lower
          exact .down _ _ inside path

/-- The nodes that are reached are those below the id, by lines that are not longer than the fuel. -/
theorem mem_reached {fuel parentId : Nat} {edge : Edge} : edge ∈ reached nodes fuel parentId ↔
    ∃ line node, Leads nodes parentId (line ++ [node]) node.id ∧ line.length < fuel ∧
      edge = ⟨node.parentId, node.id, node.name⟩ := by
  induction fuel generalizing parentId with
  | zero =>
      refine iff_of_false List.not_mem_nil ?_
      rintro ⟨line, node, -, short, -⟩
      exact Nat.not_lt_zero _ short
  | succ fuel ih =>
      unfold reached
      rw [List.mem_flatMap]
      constructor
      · rintro ⟨first, listed, here | there⟩
        · obtain ⟨present, under⟩ := List.mem_filter.mp listed
          obtain rfl := of_decide_eq_true under
          exact ⟨[], first, .down present (.here _), Nat.succ_pos fuel, rfl⟩
        · rename_i inside
          obtain ⟨present, under⟩ := List.mem_filter.mp listed
          obtain rfl := of_decide_eq_true under
          obtain ⟨line, node, leads, short, rfl⟩ := ih.mp inside
          exact ⟨first :: line, node, .down present leads, Nat.succ_lt_succ short, rfl⟩
      · rintro ⟨line, node, leads, short, rfl⟩
        cases line with
        | nil =>
            obtain ⟨present, top, -⟩ := leads.of_snoc
            have under : node.parentId = parentId := top.eq_of_nil
            refine ⟨node, List.mem_filter.mpr ⟨present, decide_eq_true under⟩, ?_⟩
            rw [under]
            exact List.mem_cons_self
        | cons first line =>
            obtain ⟨middle, upper, lower⟩ :=
              Lineage.of_append (show Leads nodes parentId ([first] ++ (line ++ [node])) node.id from leads)
            obtain ⟨present, top, rfl⟩ := Lineage.of_snoc (show Leads nodes parentId ([] ++ [first]) middle from upper)
            refine ⟨first, List.mem_filter.mpr ⟨present, decide_eq_true top.eq_of_nil⟩, List.mem_cons_of_mem _ ?_⟩
            exact ih.mpr ⟨line, node, lower, Nat.lt_of_succ_lt_succ short, rfl⟩

/-- Where lines are determined by their end, each node is reached once. -/
theorem nodup_reached (once : (nodes.map FolderNodeData.id).Nodup) (fuel parentId : Nat)
    (unique : ∀ line rest last, Leads nodes parentId line last → Leads nodes parentId rest last → line = rest) :
    ((reached nodes fuel parentId).map Edge.id).Nodup := by
  induction fuel generalizing parentId with
  | zero => exact List.nodup_nil
  | succ fuel ih =>
      unfold reached
      have through : ∀ node ∈ nodes, node.parentId = parentId → ∀ edge ∈ reached nodes fuel node.id,
          ∃ line, line ≠ [] ∧ Leads nodes parentId (node :: line) edge.id := by
        rintro node present rfl edge inside
        obtain ⟨line, last, leads, -, rfl⟩ := mem_reached.mp inside
        exact ⟨line ++ [last], by simp, .down present leads⟩
      have direct : ∀ node ∈ nodes, node.parentId = parentId → Leads nodes parentId [node] node.id := by
        rintro node present rfl
        exact .down present (.here _)
      have members : ∀ node ∈ nodes.filter fun node => node.parentId = parentId,
          node ∈ nodes ∧ node.parentId = parentId := fun node listed => by
        simpa using List.mem_filter.mp listed
      rw [List.map_flatMap, List.nodup_flatMap]
      constructor
      · intro node listed
        obtain ⟨present, under⟩ := members node listed
        rw [List.map_cons, List.nodup_cons]
        constructor
        · intro inside
          obtain ⟨edge, there, same⟩ := List.mem_map.mp inside
          obtain ⟨line, more, leads⟩ := through node present under edge there
          have short : Leads nodes parentId [node] edge.id := by
            rw [show edge.id = node.id from same]
            exact direct node present under
          have single := unique _ _ _ leads short
          exact more (List.cons.inj single).2
        · apply ih
          intro line rest last first second
          subst under
          exact (List.cons.inj (unique _ _ last (.down present first) (.down present second))).2
      · have distinct : (nodes.filter fun node => node.parentId = parentId).Nodup :=
          List.Nodup.filter _ (List.Nodup.of_map _ once)
        apply distinct.imp_of_mem
        intro first second one two different id inFirst inSecond
        have line : ∀ node, node ∈ nodes.filter (fun node => node.parentId = parentId) →
            id ∈ (Edge.mk parentId node.id node.name :: reached nodes fuel node.id).map Edge.id →
              ∃ rest, Leads nodes parentId (node :: rest) id := by
          intro node listed inside
          obtain ⟨present, under⟩ := members node listed
          obtain ⟨edge, there, rfl⟩ := List.mem_map.mp inside
          rcases List.mem_cons.mp there with rfl | below
          · exact ⟨[], direct node present under⟩
          · obtain ⟨rest, -, leads⟩ := through node present under edge below
            exact ⟨rest, leads⟩
        obtain ⟨rest, leads⟩ := line first one inFirst
        obtain ⟨other, leadsToo⟩ := line second two inSecond
        exact different (List.cons.inj (unique _ _ id leads leadsToo)).1

end Building

section Forests

/-- The folders of a user. -/
def ownedRows (folders : List Folder) (userId : Nat) : Set Folder :=
  { folder | folder ∈ folders ∧ folder.userId = userId }

/-- The folders of the user lead down from one id to another one. -/
def Under (folders : List Folder) (userId : Nat) : Nat → List Folder → Nat → Prop :=
  Lineage Folder.id Folder.parentId (ownedRows folders userId)

/-- The ids of the folders are positive and distinct, and the parents of each folder of the user lead to the root. -/
structure OwnForest (folders : List Folder) (userId : Nat) : Prop where
  once : (folders.map Folder.id).Nodup
  positive : ∀ folder ∈ folders, 0 < folder.id
  rooted : ∀ folder ∈ folders, folder.userId = userId →
    Rooted Folder.id Folder.parentId 0 (ownedRows folders userId) folder.id

/-- The root or an owned folder. -/
def IsTop (folders : List Folder) (userId parentId : Nat) : Prop :=
  parentId = 0 ∨ ∃ folder ∈ folders, folder.userId = userId ∧ folder.id = parentId

variable {folders : List Folder} {userId : Nat}

theorem OwnForest.same (forest : OwnForest folders userId) : ∀ one ∈ ownedRows folders userId,
    ∀ two ∈ ownedRows folders userId, one.id = two.id → one = two :=
  fun _ first _ second => List.inj_on_of_nodup_map forest.once first.1 second.1

theorem OwnForest.bare (forest : OwnForest folders userId) : ∀ folder ∈ ownedRows folders userId, folder.id ≠ 0 :=
  fun folder present => (forest.positive folder present.1).ne'

theorem OwnForest.rooted_top (forest : OwnForest folders userId) {parentId : Nat} (top : IsTop folders userId parentId) :
    Rooted Folder.id Folder.parentId 0 (ownedRows folders userId) parentId := by
  rcases top with rfl | ⟨folder, present, owned, rfl⟩
  · exact .top
  · exact forest.rooted folder present owned

theorem OwnForest.unique (forest : OwnForest folders userId) {parentId : Nat} (top : IsTop folders userId parentId)
    {line rest : List Folder} {last : Nat} (first : Under folders userId parentId line last)
    (second : Under folders userId parentId rest last) : line = rest :=
  Lineage.unique forest.same forest.bare (forest.rooted_top top) first second

end Forests

section Levels

variable {folders : List Folder} {userId parentId : Nat}

/-- The rows of one round are the folders at one distance below the parent, each once. -/
structure AtLevel (folders : List Folder) (userId parentId level : Nat) (rows : List (Folder × Nat)) : Prop where
  once : (rows.map Prod.fst).Nodup
  exact : ∀ folder other, (folder, other) ∈ rows ↔
    other = level ∧ ∃ line, Under folders userId parentId (line ++ [folder]) folder.id ∧ line.length = level

theorem OwnForest.nodup (forest : OwnForest folders userId) : folders.Nodup := List.Nodup.of_map _ forest.once

variable (parentId) in
theorem atLevel_top (forest : OwnForest folders userId) : AtLevel folders userId parentId 0
    ((folders.filter fun folder => folder.userId = userId && folder.parentId = parentId).map fun folder =>
      (folder, 0)) where
  once := by
    rw [List.map_map]
    exact (forest.nodup.filter _).map fun _ _ same => same
  exact := by
    intro folder other
    simp only [List.mem_map, List.mem_filter, Bool.and_eq_true, decide_eq_true_eq, Prod.mk.injEq]
    constructor
    · rintro ⟨first, ⟨present, owned, rfl⟩, rfl, rfl⟩
      exact ⟨rfl, [], .down ⟨present, owned⟩ (.here _), rfl⟩
    · rintro ⟨rfl, line, under, none⟩
      obtain rfl := List.length_eq_zero_iff.mp none
      obtain ⟨⟨present, owned⟩, top, -⟩ := under.of_snoc
      exact ⟨folder, ⟨present, owned, top.eq_of_nil⟩, rfl, rfl⟩

theorem AtLevel.next (forest : OwnForest folders userId) {level : Nat} {rows : List (Folder × Nat)} {maxDepth : Int}
    (current : AtLevel folders userId parentId level rows) (below : (level : Int) < maxDepth) :
    AtLevel folders userId parentId (level + 1) (nextLevel folders userId maxDepth rows) := by
  have levels : ∀ row ∈ rows, row.2 = level := fun row present => ((current.exact row.1 row.2).mp present).1
  have members : ∀ folder other, (folder, other) ∈ nextLevel folders userId maxDepth rows ↔
      ∃ row ∈ rows, folder ∈ folders ∧ folder.parentId = row.1.id ∧ folder.userId = userId ∧ other = level + 1 := by
    intro folder other
    unfold nextLevel
    rw [List.mem_flatMap]
    apply exists_congr
    intro row
    apply and_congr_right
    intro present
    rw [levels row present, if_pos below]
    simp only [List.mem_map, List.mem_filter, Bool.and_eq_true, decide_eq_true_eq, Prod.mk.injEq]
    constructor
    · rintro ⟨child, ⟨stored, under, owned⟩, rfl, rfl⟩
      exact ⟨stored, under, owned, rfl⟩
    · rintro ⟨stored, under, owned, rfl⟩
      exact ⟨folder, ⟨stored, under, owned⟩, rfl, rfl⟩
  constructor
  · unfold nextLevel
    rw [List.map_flatMap, List.nodup_flatMap]
    constructor
    · intro row present
      rw [levels row present, if_pos below, List.map_map]
      exact (forest.nodup.filter _).map fun _ _ same => same
    · have distinct : rows.Nodup := List.Nodup.of_map _ current.once
      apply distinct.imp_of_mem
      intro first second one two different folder inFirst inSecond
      beta_reduce at inFirst inSecond
      rw [levels first one, if_pos below, List.map_map] at inFirst
      rw [levels second two, if_pos below, List.map_map] at inSecond
      obtain ⟨child, listed, same⟩ := List.mem_map.mp inFirst
      obtain ⟨other, listedToo, sameToo⟩ := List.mem_map.mp inSecond
      obtain rfl : child = other := same.trans sameToo.symm
      simp only [List.mem_filter, Bool.and_eq_true, decide_eq_true_eq] at listed listedToo
      apply different
      obtain ⟨-, _, under, -⟩ := (current.exact first.1 first.2).mp one
      obtain ⟨-, _, underToo, -⟩ := (current.exact second.1 second.2).mp two
      have folders := forest.same first.1 under.of_snoc.1 second.1 underToo.of_snoc.1
        (listed.2.1.symm.trans listedToo.2.1)
      exact Prod.ext folders ((levels first one).trans (levels second two).symm)
  · intro folder other
    rw [members]
    constructor
    · rintro ⟨row, present, stored, under, owned, rfl⟩
      obtain ⟨-, line, above, length⟩ := (current.exact row.1 row.2).mp present
      refine ⟨rfl, line ++ [row.1], ?_, ?_⟩
      · rw [← under] at above
        exact above.snoc ⟨stored, owned⟩
      · rw [List.length_append, length, List.length_singleton]
    · rintro ⟨rfl, line, under, length⟩
      obtain ⟨⟨stored, owned⟩, above, -⟩ := under.of_snoc
      rcases List.eq_nil_or_concat line with rfl | ⟨upper, row, rfl⟩
      · cases length
      · rw [List.concat_eq_append] at above length
        rw [List.length_append, List.length_singleton] at length
        obtain ⟨-, -, same⟩ := above.of_snoc
        rw [same] at above
        refine ⟨(row, level), ?_, stored, same, owned, rfl⟩
        exact (current.exact row level).mpr ⟨rfl, upper, above, Nat.succ_inj.mp length⟩

theorem AtLevel.deepest {level : Nat} {rows : List (Folder × Nat)} {maxDepth : Int}
    (current : AtLevel folders userId parentId level rows) (deep : ¬(level : Int) < maxDepth) :
    nextLevel folders userId maxDepth rows = [] := by
  unfold nextLevel
  apply List.flatMap_eq_nil_iff.mpr
  intro row present
  rw [((current.exact row.1 row.2).mp present).1]
  exact if_neg deep

/-- A folder below a level has a folder above it at that level. -/
theorem exists_at_level {level : Nat} {upward : List Folder} {last : Nat} (deep : level < upward.length)
    (under : Under folders userId parentId upward last) :
    ∃ upper folder, Under folders userId parentId (upper ++ [folder]) folder.id ∧ upper.length = level := by
  have split : upward = (upward.take level ++ [upward[level]]) ++ upward.drop (level + 1) := by
    rw [List.append_assoc, List.singleton_append, ← List.drop_eq_getElem_cons, List.take_append_drop]
  rw [split] at under
  obtain ⟨middle, above, -⟩ := under.of_append
  obtain ⟨-, -, rfl⟩ := above.of_snoc
  exact ⟨upward.take level, upward[level], above, List.length_take_of_le deep.le⟩

/-- No folder is below an empty level. -/
theorem not_below_empty {level deepest : Nat} (current : level ≤ deepest → AtLevel folders userId parentId level [])
    (folder : Folder) (other : Nat) : (folder, other) ∈ ([] : List (Folder × Nat)) ↔
      level ≤ other ∧ other ≤ deepest ∧
        ∃ line, Under folders userId parentId (line ++ [folder]) folder.id ∧ line.length = other := by
  refine iff_of_false List.not_mem_nil ?_
  rintro ⟨above, shallow, line, under, rfl⟩
  have long : level < (line ++ [folder]).length := by
    rw [List.length_append, List.length_singleton]
    omega
  obtain ⟨upper, found, higher, same⟩ := exists_at_level long under
  have present := ((current (above.trans shallow)).exact found level).mpr ⟨rfl, upper, higher, same⟩
  cases present

/-- The query finds the folders down to the deepest level, each once. -/
theorem levels_run (forest : OwnForest folders userId) (top : IsTop folders userId parentId) {maxDepth : Int}
    (fuel level : Nat) (rows : List (Folder × Nat)) (inside : level ≤ maxDepth.toNat + 1)
    (enough : maxDepth.toNat + 1 ≤ level + fuel)
    (current : level ≤ maxDepth.toNat → AtLevel folders userId parentId level rows)
    (ended : level = maxDepth.toNat + 1 → rows = []) :
    ∃ all, withRecursive (nextLevel folders userId maxDepth) fuel rows = some all ∧ (all.map Prod.fst).Nodup ∧
      ∀ folder other, (folder, other) ∈ all ↔ level ≤ other ∧ other ≤ maxDepth.toNat ∧
        ∃ line, Under folders userId parentId (line ++ [folder]) folder.id ∧ line.length = other := by
  induction fuel generalizing level rows with
  | zero =>
      obtain rfl := ended (Nat.le_antisymm inside enough)
      exact ⟨[], rfl, List.nodup_nil, not_below_empty current⟩
  | succ fuel ih =>
      cases rows with
      | nil => exact ⟨[], rfl, List.nodup_nil, not_below_empty current⟩
      | cons first rest =>
          have shallow : level ≤ maxDepth.toNat := by
            by_contra deep
            cases ended (Nat.le_antisymm inside (Nat.not_le.mp deep))
          have here := current shallow
          have next : level + 1 ≤ maxDepth.toNat →
              AtLevel folders userId parentId (level + 1) (nextLevel folders userId maxDepth (first :: rest)) :=
            fun below => here.next forest (Int.lt_toNat.mp below)
          have last : level + 1 = maxDepth.toNat + 1 → nextLevel folders userId maxDepth (first :: rest) = [] := by
            intro deepest
            exact here.deepest fun below => absurd (Int.lt_toNat.mpr below) (by omega)
          obtain ⟨later, run, once, exact'⟩ := ih (level + 1) _ (Nat.succ_le_succ shallow) (by omega) next last
          refine ⟨(first :: rest) ++ later, ?_, ?_, ?_⟩
          · rw [withRecursive, run]
            rfl
          · rw [List.map_append, List.nodup_append]
            refine ⟨here.once, once, ?_⟩
            rintro folder early other late rfl
            obtain ⟨⟨one, two⟩, present, rfl⟩ := List.mem_map.mp early
            obtain ⟨⟨three, four⟩, there, same⟩ := List.mem_map.mp late
            obtain rfl : three = one := same
            obtain ⟨rfl, line, under, length⟩ := (here.exact three two).mp present
            obtain ⟨deeper, -, rest, underToo, lengthToo⟩ := (exact' three four).mp there
            have lines := List.append_cancel_right (forest.unique top under underToo)
            rw [lines, lengthToo] at length
            omega
          · intro folder other
            rw [List.mem_append, here.exact, exact']
            constructor
            · rintro (⟨rfl, held⟩ | ⟨deeper, low, held⟩)
              · exact ⟨Nat.le_refl _, shallow, held⟩
              · exact ⟨Nat.le_of_succ_le deeper, low, held⟩
            · rintro ⟨deeper, low, held⟩
              rcases Nat.eq_or_lt_of_le deeper with rfl | below
              · exact .inl ⟨rfl, held⟩
              · exact .inr ⟨below, low, held⟩

end Levels

section Rows

variable {folders : List Folder} {userId parentId : Nat}

def Folder.node (folder : Folder) : FolderNodeData := ⟨folder.id, folder.name, folder.parentId⟩

def Folder.item (folder : Folder) : BreadcrumbItem := ⟨folder.id, folder.name⟩

def Folder.edge (folder : Folder) : Edge := ⟨folder.parentId, folder.id, folder.name⟩

/-- The rows are the folders below the parent down to the deepest level, each once. -/
structure RowsOf (folders : List Folder) (userId parentId deepest : Nat) (nodes : List FolderNodeData) : Prop where
  once : (nodes.map FolderNodeData.id).Nodup
  exact : ∀ node, node ∈ nodes ↔ ∃ line folder, Under folders userId parentId (line ++ [folder]) folder.id ∧
    line.length ≤ deepest ∧ node = folder.node

theorem fetchFolderTreeRows_spec (forest : OwnForest folders userId) (top : IsTop folders userId parentId)
    {le : Folder → Folder → Prop} (order : Arrangement le) (maxDepth : Int) :
    ∃ nodes, fetchFolderTreeRows folders userId order parentId maxDepth = some nodes ∧
      RowsOf folders userId parentId maxDepth.toNat nodes := by
  obtain ⟨rows, run, once, exact'⟩ := levels_run forest top (maxDepth.toNat + 1) 0 _ (Nat.zero_le _)
    (Nat.le_add_left _ _) (fun _ => atLevel_top parentId forest) (fun none => absurd none (by omega))
  have found : ∀ folder, folder ∈ order.sort (rows.map Prod.fst) ↔
      ∃ line, Under folders userId parentId (line ++ [folder]) folder.id ∧ line.length ≤ maxDepth.toNat := by
    intro folder
    rw [(order.perm _).mem_iff, List.mem_map]
    constructor
    · rintro ⟨⟨_, level⟩, present, rfl⟩
      obtain ⟨-, shallow, line, under, rfl⟩ := (exact' _ level).mp present
      exact ⟨line, under, shallow⟩
    · rintro ⟨line, under, shallow⟩
      exact ⟨(folder, line.length), (exact' folder _).mpr ⟨Nat.zero_le _, shallow, line, under, rfl⟩, rfl⟩
  refine ⟨(order.sort (rows.map Prod.fst)).map Folder.node, ?_, ?_, ?_⟩
  · exact congrArg (Option.map _) run
  · rw [List.map_map]
    apply List.Nodup.map_on _ ((order.perm _).nodup_iff.mpr once)
    intro one first two second same
    obtain ⟨_, under, -⟩ := (found one).mp first
    obtain ⟨_, underToo, -⟩ := (found two).mp second
    exact forest.same one under.of_snoc.1 two underToo.of_snoc.1 same
  · intro node
    rw [List.mem_map]
    constructor
    · rintro ⟨folder, present, rfl⟩
      obtain ⟨line, under, shallow⟩ := (found folder).mp present
      exact ⟨line, folder, under, shallow, rfl⟩
    · rintro ⟨line, folder, under, shallow, rfl⟩
      exact ⟨folder, (found folder).mpr ⟨line, under, shallow⟩, rfl⟩

variable {deepest : Nat} {nodes : List FolderNodeData}

/-- Lines of rows are lines of folders. -/
theorem RowsOf.under_of_leads (found : RowsOf folders userId parentId deepest nodes) {line : List FolderNodeData}
    {last : Nat} (leads : Leads nodes parentId line last) :
    ∃ upper, Under folders userId parentId upper last ∧ line = upper.map Folder.node := by
  induction line using List.reverseRecOn generalizing last with
  | nil =>
      obtain rfl := leads.eq_of_nil
      exact ⟨[], .here _, rfl⟩
  | append_singleton line node ih =>
      obtain ⟨present, above, rfl⟩ := leads.of_snoc
      obtain ⟨_, folder, under, -, rfl⟩ := (found.exact node).mp present
      obtain ⟨upper, higher, rfl⟩ := ih above
      refine ⟨upper ++ [folder], higher.snoc under.of_snoc.1, ?_⟩
      rw [List.map_append]
      rfl

/-- Lines of folders that are not too long are lines of rows. -/
theorem RowsOf.leads_of_under (found : RowsOf folders userId parentId deepest nodes) {line : List Folder}
    {last : Nat} (shallow : line.length ≤ deepest + 1) (under : Under folders userId parentId line last) :
    Leads nodes parentId (line.map Folder.node) last := by
  induction line using List.reverseRecOn generalizing last with
  | nil =>
      obtain rfl := under.eq_of_nil
      exact .here _
  | append_singleton line folder ih =>
      rw [List.length_append, List.length_singleton] at shallow
      obtain ⟨present, above, rfl⟩ := under.of_snoc
      have inside : folder.node ∈ nodes :=
        (found.exact _).mpr ⟨line, folder, under, Nat.le_of_succ_le_succ shallow, rfl⟩
      have higher : Leads nodes parentId (line.map Folder.node) folder.node.parentId :=
        ih (Nat.le_of_succ_le shallow) above
      rw [List.map_append]
      exact higher.snoc inside

theorem RowsOf.unique (found : RowsOf folders userId parentId deepest nodes) (forest : OwnForest folders userId)
    (top : IsTop folders userId parentId) {line rest : List FolderNodeData} {last : Nat}
    (first : Leads nodes parentId line last) (second : Leads nodes parentId rest last) : line = rest := by
  obtain ⟨upper, under, rfl⟩ := found.under_of_leads first
  obtain ⟨lower, underToo, rfl⟩ := found.under_of_leads second
  rw [forest.unique top under underToo]

theorem RowsOf.short (found : RowsOf folders userId parentId deepest nodes) (forest : OwnForest folders userId)
    (top : IsTop folders userId parentId) {line : List FolderNodeData} {last : Nat}
    (leads : Leads nodes parentId line last) : line.length < nodes.length + 1 := by
  have included := leads.mem_rows
  obtain ⟨upper, under, rfl⟩ := found.under_of_leads leads
  have distinct : upper.Nodup := Lineage.nodup forest.same forest.bare (forest.rooted_top top) under
  have nodup : (upper.map Folder.node).Nodup := by
    apply distinct.map_on
    intro one first two second same
    exact forest.same one (under.mem_rows one first) two (under.mem_rows two second)
      (congrArg FolderNodeData.id same)
  exact Nat.lt_succ_of_le (nodup.subperm included).length_le

end Rows

section Requests

variable {folders : List Folder} {userId parentId : Nat}

/-- The distance is within the limit, where there is one. -/
def Within : Option Nat → Nat → Prop
  | none, _ => True
  | some most, distance => distance ≤ most

/-- The tree has the folders below the parent within the limit, each once and under its own parent. -/
structure ShowsBelow (folders : List Folder) (userId parentId : Nat) (limit : Option Nat) (tree : FolderTreeNode) :
    Prop where
  top : tree.id = parentId
  once : (tree.edges.map Edge.id).Nodup
  exact : ∀ edge, edge ∈ tree.edges ↔ ∃ line folder, Under folders userId parentId (line ++ [folder]) folder.id ∧
    Within limit (line.length + 1) ∧ edge = folder.edge

/-- The deepest level that a request asks the query for. -/
def deepestLevel (depth : Int) : Nat := (if depth = -1 then 100 else depth).toNat

/-- The item of the top of a tree. -/
def topItem (parentId : Nat) : BreadcrumbItem := ⟨parentId, if parentId = 0 then rootName else ""⟩

theorem owned_any (top : IsTop folders userId parentId) :
    ¬(0 < parentId ∧ ¬folders.any fun folder => folder.owned parentId userId) := by
  rintro ⟨below, missing⟩
  rcases top with rfl | ⟨folder, present, owned, rfl⟩
  · exact Nat.lt_irrefl 0 below
  · apply missing
    rw [List.any_eq_true]
    exact ⟨folder, present, by simp [Folder.owned, owned]⟩

/-- A tree shows what is below its parent down to the deepest level of the query. -/
theorem getFolderTree_spec (forest : OwnForest folders userId) (top : IsTop folders userId parentId)
    {le : Folder → Folder → Prop} (order : Arrangement le) (depth : Int) :
    ∃ tree, getFolderTree folders userId order parentId depth = some (.ok tree) ∧
      ShowsBelow folders userId parentId (some (deepestLevel depth + 1)) tree ∧
        ∀ line last, Under folders userId parentId line last → line.length ≤ deepestLevel depth + 1 →
          HasPath tree (topItem parentId :: line.map Folder.item) := by
  obtain ⟨nodes, fetched, found⟩ := fetchFolderTreeRows_spec forest top order (if depth = -1 then 100 else depth)
  have unique : ∀ line rest last, Leads nodes parentId line last → Leads nodes parentId rest last → line = rest :=
    fun _ _ _ first second => found.unique forest top first second
  obtain ⟨trees, built, edges, paths⟩ := buildChildren_spec (nodes.length + 1) parentId
    fun _ _ leads => found.short forest top leads
  have made : buildTreeFromFlatList nodes parentId = some (rootNode parentId trees) :=
    congrArg (Option.map _) built
  refine ⟨rootNode parentId trees, ?_, ⟨rfl, ?_, ?_⟩, ?_⟩
  · unfold getFolderTree
    rw [if_neg (owned_any top)]
    simp only [fetched]
    by_cases none : nodes = []
    · subst none
      rw [if_pos rfl]
      rw [show trees = [] from (Option.some.inj built).symm]
    · rw [if_neg none, made]
      rfl
  · change ((edgesUnder parentId trees).map Edge.id).Nodup
    rw [edges]
    exact nodup_reached found.once _ parentId unique
  · intro edge
    change edge ∈ edgesUnder parentId trees ↔ _
    rw [edges, mem_reached]
    constructor
    · rintro ⟨line, node, leads, -, rfl⟩
      obtain ⟨upper, folder, under, shallow, rfl⟩ := (found.exact node).mp leads.of_snoc.1
      exact ⟨upper, folder, under, Nat.succ_le_succ shallow, rfl⟩
    · rintro ⟨line, folder, under, shallow, rfl⟩
      have leads : Leads nodes parentId (line.map Folder.node ++ [folder.node]) folder.id := by
        have whole := found.leads_of_under
          (by rw [List.length_append, List.length_singleton]; exact shallow) under
        rwa [List.map_append] at whole
      refine ⟨line.map Folder.node, folder.node, leads, ?_, rfl⟩
      have short := found.short forest top leads
      rw [List.length_append] at short
      exact (Nat.le_add_right _ _).trans_lt short
  · intro line last under shallow
    have leads := found.leads_of_under shallow under
    cases line with
    | nil => exact .here _ _ _
    | cons folder rest =>
        obtain ⟨tree, inside, path⟩ := paths folder.node (rest.map Folder.node) last leads
        rw [List.map_cons, List.map_map] at path
        exact .down _ _ inside path

/-- One round finds one folder by its id. -/
theorem filter_id (forest : OwnForest folders userId) {folder : Folder} (present : folder ∈ ownedRows folders userId) :
    (folders.filter fun other => other.id = folder.id && other.userId = userId) = [folder] := by
  apply List.perm_singleton.mp
  rw [List.perm_ext_iff_of_nodup (forest.nodup.filter _) (List.nodup_singleton folder)]
  intro other
  rw [List.mem_singleton]
  simp only [List.mem_filter, Bool.and_eq_true, decide_eq_true_eq]
  constructor
  · rintro ⟨stored, same, owned⟩
    exact forest.same other ⟨stored, owned⟩ folder present same
  · rintro rfl
    exact ⟨present.1, rfl, present.2⟩

/-- The rounds of the breadcrumb query go up a line. -/
theorem parents_run (forest : OwnForest folders userId) (fuel : Nat) {line : List Folder} {folder : Folder} {last : Nat}
    (under : Under folders userId 0 (line ++ [folder]) last) (enough : line.length < fuel) :
    withRecursive (nextParents folders userId) fuel [folder] = some (line ++ [folder]).reverse := by
  induction line using List.reverseRecOn generalizing fuel folder last with
  | nil =>
      obtain ⟨fuel, rfl⟩ := Nat.exists_eq_add_of_lt enough
      obtain ⟨-, top, -⟩ := under.of_snoc
      have none : nextParents folders userId [folder] = [] := by
        unfold nextParents
        rw [List.flatMap_singleton, List.filter_eq_nil_iff]
        intro other stored same
        simp only [Bool.and_eq_true, decide_eq_true_eq, top.eq_of_nil] at same
        exact (forest.positive other stored).ne' same.1
      rw [withRecursive, none]
      cases fuel <;> rfl
  | append_singleton line parent ih =>
      rw [List.length_append, List.length_singleton] at enough
      cases fuel with
      | zero => exact absurd enough (Nat.not_lt_zero _)
      | succ fuel =>
          obtain ⟨-, above, -⟩ := under.of_snoc
          obtain ⟨present, -, same⟩ := above.of_snoc
          have next : nextParents folders userId [folder] = [parent] := by
            unfold nextParents
            rw [List.flatMap_singleton, same]
            exact filter_id forest present
          rw [withRecursive, next, ih fuel above (Nat.lt_of_succ_lt_succ enough)]
          simp

/-- A line of folders is not longer than the table. -/
theorem OwnForest.length_le (forest : OwnForest folders userId) {line : List Folder} {last : Nat}
    (under : Under folders userId 0 line last) : line.length ≤ folders.length := by
  have distinct : line.Nodup := Lineage.nodup forest.same forest.bare .top under
  exact (distinct.subperm fun folder inside => (under.mem_rows folder inside).1).length_le

/-- The breadcrumb of a folder is its line from the root. -/
theorem getBreadcrumb_spec (forest : OwnForest folders userId) {line : List Folder} {last : Nat}
    (under : Under folders userId 0 line last) :
    getBreadcrumb folders userId last = some (.ok (rootItem :: line.map Folder.item)) := by
  unfold getBreadcrumb
  rcases List.eq_nil_or_concat line with rfl | ⟨upper, folder, rfl⟩
  · exact if_pos under.eq_of_nil
  · rw [List.concat_eq_append] at under ⊢
    have short := forest.length_le under
    obtain ⟨present, -, rfl⟩ := under.of_snoc
    have start : (folders.filter fun other => other.owned folder.id userId) = [folder] := by
      rw [← filter_id forest present]
      exact List.filter_congr fun other _ => rfl
    have rounds : fetchBreadcrumbRows folders userId folder.id =
        some ((upper ++ [folder]).reverse.map Folder.item) := by
      unfold fetchBreadcrumbRows
      rw [start]
      rw [List.length_append, List.length_singleton] at short
      exact congrArg (Option.map _) (parents_run forest _ under (by omega))
    rw [if_neg (forest.bare folder present), rounds]
    simp

end Requests

section Exactness

variable {folders : List Folder} {userId parentId : Nat}

/-- A request without a depth has no limit, and children have distance one. -/
def limitOf (depth : Int) : Option Nat := if depth = -1 then none else some (depth.toNat + 1)

/-- No folder below the parent lies more levels below it than a tree without a limit goes. -/
def ShallowBelow (folders : List Folder) (userId parentId : Nat) : Prop :=
  ∀ line last, Under folders userId parentId line last → line.length ≤ 101

/-- A tree is exact, a breadcrumb gives the folders from the root down, and it is a path of the tree without a limit. -/
structure ShownRight {le : Folder → Folder → Prop} (folders : List Folder) (userId : Nat) (order : Arrangement le)
    (parentId : Nat) (depth : Int) (line : List Folder) (last : Nat) : Prop where
  tree : ∃ tree, getFolderTree folders userId order parentId depth = some (.ok tree) ∧
    ShowsBelow folders userId parentId (limitOf depth) tree
  breadcrumb : getBreadcrumb folders userId last = some (.ok (rootItem :: line.map Folder.item))
  position : ∃ tree, getFolderTree folders userId order 0 (-1) = some (.ok tree) ∧
    HasPath tree (rootItem :: line.map Folder.item)

/-- A tree without a limit is not exact above a folder that lies too deep. -/
theorem shallowBelow_of_shows (forest : OwnForest folders userId) (top : IsTop folders userId parentId)
    {le : Folder → Folder → Prop} {order : Arrangement le} {tree : FolderTreeNode}
    (answered : getFolderTree folders userId order parentId (-1) = some (.ok tree))
    (shown : ShowsBelow folders userId parentId none tree) : ShallowBelow folders userId parentId := by
  intro line last under
  by_contra deep
  obtain ⟨upper, folder, lower, length⟩ := exists_at_level (Nat.lt_of_not_le deep) under
  obtain ⟨other, answer, limited, -⟩ := getFolderTree_spec forest top order (-1)
  obtain rfl : tree = other := by
    rw [answered] at answer
    exact Except.ok.inj (Option.some.inj answer)
  have inside : folder.edge ∈ tree.edges := (shown.exact _).mpr ⟨upper, folder, lower, trivial, rfl⟩
  obtain ⟨rest, found, below, shallow, same⟩ := (limited.exact _).mp inside
  obtain rfl := forest.same folder lower.of_snoc.1 found below.of_snoc.1 (congrArg Edge.id same)
  have lines := List.append_cancel_right (forest.unique top lower below)
  have most : rest.length + 1 ≤ 101 := shallow
  rw [← lines, length] at most
  exact absurd most (by decide)

/-- A request with a depth is answered exactly, and one without a depth when no folder lies too deep. -/
theorem shows_of_shallow (forest : OwnForest folders userId) (top : IsTop folders userId parentId)
    {le : Folder → Folder → Prop} (order : Arrangement le) (depth : Int)
    (shallow : depth = -1 → ShallowBelow folders userId parentId) :
    ∃ tree, getFolderTree folders userId order parentId depth = some (.ok tree) ∧
      ShowsBelow folders userId parentId (limitOf depth) tree := by
  obtain ⟨tree, answered, shown, -⟩ := getFolderTree_spec forest top order depth
  refine ⟨tree, answered, shown.top, shown.once, ?_⟩
  intro edge
  rw [shown.exact]
  apply exists_congr
  intro line
  apply exists_congr
  intro folder
  apply and_congr_right
  intro under
  apply and_congr_left'
  unfold limitOf deepestLevel
  by_cases unlimited : depth = -1
  · rw [if_pos unlimited, if_pos unlimited]
    have short := shallow unlimited _ _ under
    rw [List.length_append, List.length_singleton] at short
    exact iff_of_true short trivial
  · rw [if_neg unlimited, if_neg unlimited]

/-- A path of the tree without a limit is not longer than the query goes. -/
theorem length_le_of_path (forest : OwnForest folders userId) {le : Folder → Folder → Prop} {order : Arrangement le}
    {tree : FolderTreeNode} (answered : getFolderTree folders userId order 0 (-1) = some (.ok tree))
    {line : List Folder} {last : Nat} (under : Under folders userId 0 line last)
    (path : HasPath tree (rootItem :: line.map Folder.item)) : line.length ≤ 101 := by
  obtain ⟨other, answer, limited, -⟩ := getFolderTree_spec forest (.inl rfl) order (-1)
  obtain rfl : tree = other := by
    rw [answered] at answer
    exact Except.ok.inj (Option.some.inj answer)
  rcases List.eq_nil_or_concat line with rfl | ⟨upper, folder, rfl⟩
  · exact Nat.zero_le 101
  · rw [List.concat_eq_append] at under path ⊢
    rw [List.map_append, ← List.cons_append] at path
    obtain ⟨edge, inside, same⟩ := path.last_edge _ _ rfl (List.cons_ne_nil _ _)
    obtain ⟨rest, found, below, shallow, rfl⟩ := (limited.exact edge).mp inside
    obtain ⟨present, -, rfl⟩ := under.of_snoc
    obtain rfl := forest.same found below.of_snoc.1 folder present same
    have lines := List.append_cancel_right (forest.unique (.inl rfl) under below)
    rw [List.length_append, lines]
    exact shallow

/-- A tree and a breadcrumb are right exactly where no folder lies deeper than the query goes. -/
theorem shown_right_iff (forest : OwnForest folders userId) (top : IsTop folders userId parentId)
    {le : Folder → Folder → Prop} (order : Arrangement le) (depth : Int)
    {line : List Folder} {last : Nat} (under : Under folders userId 0 line last) :
    ShownRight folders userId order parentId depth line last ↔
      (depth = -1 → ShallowBelow folders userId parentId) ∧ line.length ≤ 101 := by
  constructor
  · intro right
    constructor
    · rintro rfl
      obtain ⟨tree, answered, shown⟩ := right.tree
      exact shallowBelow_of_shows forest top answered shown
    · obtain ⟨tree, answered, path⟩ := right.position
      exact length_le_of_path forest answered under path
  · rintro ⟨shallow, short⟩
    refine ⟨shows_of_shallow forest top order depth shallow, getBreadcrumb_spec forest under, ?_⟩
    obtain ⟨tree, answered, -, paths⟩ := getFolderTree_spec forest (.inl rfl) order (-1)
    exact ⟨tree, answered, paths line last under short⟩

end Exactness

section Chains

/-- Folders of the seventh user, each in the one before. -/
def chain (count : Nat) : List Folder :=
  (List.range count).map fun index => ⟨index + 1, 7, index, "a", "", 0, 0⟩

theorem mem_chain {count : Nat} {folder : Folder} : folder ∈ chain count ↔
    ∃ index < count, folder = ⟨index + 1, 7, index, "a", "", 0, 0⟩ := by
  simp [chain, eq_comm]

/-- The folders of a chain stand under each other. -/
theorem under_chain {count length : Nat} (within : length ≤ count) :
    Under (chain count) 7 0 (chain length) length := by
  induction length with
  | zero => exact .here 0
  | succ length ih =>
      have last : (⟨length + 1, 7, length, "a", "", 0, 0⟩ : Folder) ∈ ownedRows (chain count) 7 :=
        ⟨mem_chain.mpr ⟨length, within, rfl⟩, rfl⟩
      unfold chain
      rw [List.range_succ, List.map_append]
      exact Lineage.snoc last (ih (Nat.le_of_succ_le within))

theorem rooted_chain {count index : Nat} (within : index ≤ count) :
    Rooted Folder.id Folder.parentId 0 (ownedRows (chain count) 7) index := by
  induction index with
  | zero => exact .top
  | succ index ih =>
      have present : (⟨index + 1, 7, index, "a", "", 0, 0⟩ : Folder) ∈ ownedRows (chain count) 7 :=
        ⟨mem_chain.mpr ⟨index, within, rfl⟩, rfl⟩
      exact .under present (ih (Nat.le_of_succ_le within))

/-- A chain of folders is a forest of its user. -/
theorem forest_chain (count : Nat) : OwnForest (chain count) 7 where
  once := by
    unfold chain
    rw [List.map_map]
    exact List.nodup_range.map fun _ _ same => Nat.succ_inj.mp same
  positive := by
    intro folder present
    obtain ⟨index, -, rfl⟩ := mem_chain.mp present
    exact Nat.succ_pos index
  rooted := by
    intro folder present _
    obtain ⟨index, within, rfl⟩ := mem_chain.mp present
    exact rooted_chain within

/-- The rows as the query finds them. -/
def asFound : Arrangement (fun _ _ : Folder => True) where
  sort := id
  perm := List.Perm.refl
  ordered := fun _ => List.pairwise_of_forall fun _ _ => trivial

/-- Two folders, one in the other, are shown right. -/
theorem shown_right_of_chain : ShownRight (chain 2) 7 asFound 0 (-1) (chain 2) 2 := by
  have shallow : ShallowBelow (chain 2) 7 0 := by
    intro line last under
    have short := (forest_chain 2).length_le under
    rw [show (chain 2).length = 2 from rfl] at short
    omega
  have under := under_chain (Nat.le_refl 2)
  exact (shown_right_iff (forest_chain 2) (.inl rfl) asFound (-1) under).mpr
    ⟨fun _ => shallow, shallow _ _ under⟩

/-- The tree of a chain of 102 folders leaves the last one out. -/
theorem chain_not_shown_right : OwnForest (chain 102) 7 ∧ ¬ShownRight (chain 102) 7 asFound 0 (-1) (chain 102) 102 := by
  refine ⟨forest_chain 102, ?_⟩
  intro right
  obtain ⟨tree, answered, shown⟩ := right.tree
  have short := shallowBelow_of_shows (forest_chain 102) (.inl rfl) answered shown (chain 102) 102
    (under_chain (Nat.le_refl 102))
  simp [chain] at short

end Chains

end DiskServer.Drive
