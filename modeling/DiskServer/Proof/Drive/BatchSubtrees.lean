import DiskServer.Proof.Drive.BatchPlans
import DiskServer.Proof.Drive.TrashHistory

namespace DiskServer.Drive

open Library Relation Transaction

/-- The folders without their item counts. -/
def Db.shapes (db : Db) : List Folder := db.folders.rows.map Folder.shape

section Move

variable {request : MoveRequest} {root : Folder} {newPrefix : String} {depthDelta : Int}

/-- What a move writes to the row of one folder of its tree. -/
def movedRow (root : Folder) (targetFolderId : Nat) (newPrefix : String) (depthDelta : Int)
    (item row : Folder) : Folder :=
  let moved := { row with
    path := newPrefix ++ substrFrom item.path root.path.length
    depth := shiftedDepth row.depth depthDelta }
  if item.id = root.id then { moved with parentId := targetFolderId } else moved

theorem movedRow_id (item row : Folder) :
    (movedRow root request.targetFolderId newPrefix depthDelta item row).id = row.id := by
  unfold movedRow
  split <;> rfl

theorem shapes_update {rows : List Folder} {folderId : Nat} {change : Folder → Folder}
    (shaped : ∀ row, (change row).shape = change row.shape) :
    (rows.map fun row => if row.id = folderId then change row else row).map Folder.shape =
      (rows.map Folder.shape).map fun row => if row.id = folderId then change row else row := by
  rw [List.map_map, List.map_map]
  apply List.map_congr_left
  intro row _
  have keyed : row.shape.id = row.id := rfl
  by_cases same : row.id = folderId
  · simp only [Function.comp_apply, keyed, if_pos same]
    exact shaped row
  · simp only [Function.comp_apply, keyed, if_neg same]

theorem moveTreeFolder_shapes {item : Folder} :
    Ensures (moveTreeFolder request root newPrefix depthDelta item) fun before _ after =>
      after.shapes = (before.shapes.map fun row => if row.id = item.id then
        movedRow root request.targetFolderId newPrefix depthDelta item row else row) ∧
      after.files = before.files := by
  intro before value after ran
  unfold moveTreeFolder at ran
  split at ran
  · exact (throw_ok ran).elim
  · rename_i newPath found
    obtain rfl := rebasePath_some found
    have updating := requireUpdated_ok ran
    unfold movedRow
    split at updating
    · rename_i same
      obtain ⟨rows, files, -⟩ := updateFolderRow_rows updating
      refine ⟨?_, files⟩
      simp only [same, if_true] at rows ⊢
      rw [Db.shapes, rows]
      exact shapes_update fun row => rfl
    · rename_i differ
      obtain ⟨rows, files, -⟩ := updateFolderRow_rows updating
      refine ⟨?_, files⟩
      simp only [differ, if_false] at rows ⊢
      rw [Db.shapes, rows]
      exact shapes_update fun row => rfl

/-- An item count is no part of the shape of a folder. -/
theorem applyItemCountDelta_shapes {folderId userId : Nat} {delta : Int} :
    KeepsFrame (fun db : Db => (db.shapes, db.files)) (applyItemCountDelta folderId userId delta) := by
  refine keepsFrame_get_bind fun before => ?_
  split
  · refine keepsFrame_bind ?_ (fun _ => keepsFrame_pure _) before
    refine keepsFrame_modify fun db => Prod.ext ?_ rfl
    simp only [Db.shapes, Serial.update, Table.update, List.map_map]
    apply List.map_congr_left
    intro row _
    simp only [Function.comp_apply]
    split <;> rfl
  · exact keepsFrame_pure _ before

theorem countMovedItem_keeps {folderId userId : Nat} {delta : Int} :
    KeepsFrame (fun db : Db => (db.shapes, db.files)) (countMovedItem folderId userId delta) := by
  unfold countMovedItem
  split
  · refine keepsFrame_bind applyItemCountDelta_shapes fun updated => ?_
    split
    · exact keepsFrame_pure _
    · exact keepsFrame_throw _
  · exact keepsFrame_pure _

/-- The loop over the tree writes the row of every folder of it. -/
theorem forM_moveTreeFolder {folders : List Folder} (once : (folders.map Folder.id).Nodup) :
    Ensures (folders.forM (moveTreeFolder request root newPrefix depthDelta)) fun before _ after =>
      (∀ target : Folder → Folder,
        (∀ item ∈ folders, ∀ row ∈ before.shapes, row.id = item.id →
          movedRow root request.targetFolderId newPrefix depthDelta item row = target row) →
        after.shapes = before.shapes.map fun row =>
          if folders.any fun item => item.id = row.id then target row else row) ∧
      after.files = before.files := by
  intro before value after ran
  refine ⟨Ensures.forM_rewrites (fun item row => movedRow_id item row) once
    (fun item _ before value after ran => (moveTreeFolder_shapes _ _ _ ran).1) _ _ _ ran, ?_⟩
  exact Ensures.forM (fun before after : Db => after.files = before.files) (fun _ => rfl)
    (fun _ _ _ one two => two.trans one)
    (fun item _ before value after ran => (moveTreeFolder_shapes _ _ _ ran).2) _ _ _ ran

/-- The folders and files of a plan are as the plan has read them. -/
structure FolderDeletePlan.Kept (plan : FolderDeletePlan) (db : Db) : Prop where
  folders : ∀ folder ∈ plan.folders, folder.shape ∈ db.shapes
  files : ∀ file ∈ plan.files, file ∈ db.files.rows

/-- The folders and files of a plan have a new place below the target. -/
structure FolderDeletePlan.MovedTo (plan : FolderDeletePlan) (targetFolderId : Nat) (newPrefix : String)
    (depthDelta : Int) (db : Db) : Prop where
  folders : ∀ folder ∈ plan.folders, (folder.relocated plan.root targetFolderId plan.root.name newPrefix
    depthDelta).shape ∈ db.shapes
  files : ∀ file ∈ plan.files, rebasedFile plan.folders newPrefix plan.root.path file file ∈ db.files.rows

/-- A plan whose rows are told apart by their ids. -/
structure FolderDeletePlan.Distinct (plan : FolderDeletePlan) : Prop where
  top : plan.root ∈ plan.folders
  folders : (plan.folders.map Folder.id).Nodup
  files : plan.files.Nodup

theorem shapes_eq_of_id {db : Db} {first second : Folder} (one : first ∈ db.shapes)
    (two : second ∈ db.shapes) (same : first.id = second.id) : first = second := by
  obtain ⟨row, present, rfl⟩ := List.mem_map.mp one
  obtain ⟨other, there, rfl⟩ := List.mem_map.mp two
  rw [db.folders.eq_of_key present there same]

theorem relocated_shape {parentId : Nat} {name : String} (folder : Folder) :
    (folder.relocated root parentId name newPrefix depthDelta).shape =
      folder.shape.relocated root parentId name newPrefix depthDelta := by
  have keyed : folder.shape.id = folder.id := rfl
  unfold Folder.relocated
  simp only [keyed]
  split <;> rfl

/-- The row of a folder that is as the plan has read it is relocated. -/
theorem movedRow_shape {plan : FolderDeletePlan} {targetFolderId : Nat} {item : Folder}
    (distinct : plan.Distinct) (inside : item ∈ plan.folders) :
    movedRow plan.root targetFolderId newPrefix depthDelta item item.shape =
      item.shape.relocated plan.root targetFolderId plan.root.name newPrefix depthDelta := by
  have keyed : item.shape.id = item.id := rfl
  unfold movedRow Folder.relocated
  simp only [keyed]
  split
  · rename_i same
    obtain rfl := List.inj_on_of_nodup_map distinct.folders inside distinct.top same
    rfl
  · rfl

/-- Moving the tree of a plan gives its rows their new place and leaves every other row alone. -/
theorem moveTree_moves {location : FolderLocation} {plan : FolderDeletePlan} (distinct : plan.Distinct) :
    Ensures (moveTree location request plan) fun before _ after => plan.Kept before →
      plan.MovedTo request.targetFolderId (buildFolderPath location.path plan.root.name)
        ((location.depth : Int) + 1 - plan.root.depth) after ∧
      (∀ row ∈ before.shapes, row.id ∉ plan.folders.map Folder.id → row ∈ after.shapes) ∧
      ∀ file ∈ before.files.rows, file.id ∉ plan.files.map File.id → file ∈ after.files.rows := by
  intro before value after ran kept
  obtain ⟨_, placed, placing, rest₁⟩ := bind_ok ran
  obtain ⟨_, rebased, rebasing, rest₂⟩ := bind_ok rest₁
  obtain ⟨_, lowered, lowering, raising⟩ := bind_ok rest₂
  obtain ⟨shapes, sameFiles⟩ := forM_moveTreeFolder distinct.folders _ _ _ placing
  have stored : ∀ file ∈ plan.files, file ∈ placed.files.rows := by
    intro file inside
    rw [sameFiles]
    exact kept.files file inside
  obtain ⟨fileRows, sameFolders, -⟩ := forM_rebaseFile stored distinct.files rebasing
  have low := countMovedItem_keeps _ _ _ lowering
  have high := countMovedItem_keeps _ _ _ raising
  have lastShapes : after.shapes = placed.shapes := by
    rw [(Prod.mk.inj high).1, (Prod.mk.inj low).1, Db.shapes, sameFolders]
    rfl
  have lastFiles : after.files.rows = rebased.files.rows := by
    rw [(Prod.mk.inj high).2, (Prod.mk.inj low).2]
  have moved := shapes (fun row => row.relocated plan.root request.targetFolderId plan.root.name
    (buildFolderPath location.path plan.root.name) ((location.depth : Int) + 1 - plan.root.depth)) (by
      intro item inside row present same
      obtain rfl := shapes_eq_of_id present (kept.folders item inside) same
      exact movedRow_shape distinct inside)
  refine ⟨⟨fun folder inside => ?_, fun file inside => ?_⟩, fun row present outside => ?_,
    fun file present outside => ?_⟩
  · rw [lastShapes, moved]
    refine List.mem_map.mpr ⟨folder.shape, kept.folders folder inside, ?_⟩
    rw [if_pos (List.any_eq_true.mpr ⟨folder, inside, decide_eq_true rfl⟩)]
    exact (relocated_shape folder).symm
  · rw [lastFiles, fileRows]
    refine List.mem_map.mpr ⟨file, stored file inside, ?_⟩
    rw [if_pos (List.any_eq_true.mpr ⟨file, inside, decide_eq_true rfl⟩)]
  · rw [lastShapes, moved]
    refine List.mem_map.mpr ⟨row, present, if_neg fun chosen => outside ?_⟩
    obtain ⟨item, inside, same⟩ := List.any_eq_true.mp chosen
    exact List.mem_map.mpr ⟨item, inside, of_decide_eq_true same⟩
  · rw [lastFiles, fileRows, sameFiles]
    refine List.mem_map.mpr ⟨file, present, if_neg fun chosen => outside ?_⟩
    obtain ⟨item, inside, same⟩ := List.any_eq_true.mp chosen
    exact List.mem_map.mpr ⟨item, inside, of_decide_eq_true same⟩

section Loop

variable {db : Db} {userId targetFolderId : Nat} {folderIds : List Nat}
  {plans : List (Nat × FolderDeletePlan)}

theorem FolderDeletePlan.Covers.distinct {plan : FolderDeletePlan} (covers : plan.Covers db userId root)
    (stored : root ∈ db.folders.rows) : plan.Distinct where
  top := covers.top
  folders := covers.folderOnce.map_on fun first one second two same => db.folders.eq_of_key
    (mem_of_below stored ((covers.folders first).mp one))
    (mem_of_below stored ((covers.folders second).mp two)) same
  files := covers.fileOnce

theorem FolderDeletePlan.Covers.kept {plan : FolderDeletePlan} (covers : plan.Covers db userId root)
    (stored : root ∈ db.folders.rows) : plan.Kept db where
  folders := fun folder inside =>
    List.mem_map_of_mem (mem_of_below stored ((covers.folders folder).mp inside))
  files := fun file inside => ((covers.files file).mp inside).1

/-- A plan is as it was read, or it has been moved to its new place. -/
def FolderDeletePlan.Settled (plan : FolderDeletePlan) (targetFolderId : Nat) (db : Db) : Prop :=
  plan.Kept db ∨ ∃ newPrefix depthDelta, plan.MovedTo targetFolderId newPrefix depthDelta db

/-- The two states hold the same rows outside of a plan. -/
def FolderDeletePlan.Spares (plan : FolderDeletePlan) (before after : Db) : Prop :=
  (∀ row ∈ before.shapes, row.id ∉ plan.folders.map Folder.id → row ∈ after.shapes) ∧
    ∀ file ∈ before.files.rows, file.id ∉ plan.files.map File.id → file ∈ after.files.rows

theorem rebasedFile_id {tree : List Folder} {oldPrefix : String} (item row : File) :
    (rebasedFile tree newPrefix oldPrefix item row).id = row.id := by
  unfold rebasedFile
  split <;> rfl

/-- A plan that shares no row with a moved one stays settled. -/
theorem FolderDeletePlan.Spares.settled {moved plan : FolderDeletePlan} {before after : Db}
    (spares : moved.Spares before after)
    (folders : ∀ folder ∈ plan.folders, folder.id ∉ moved.folders.map Folder.id)
    (files : ∀ file ∈ plan.files, file.id ∉ moved.files.map File.id) :
    (plan.Kept before → plan.Kept after) ∧
      (plan.Settled targetFolderId before → plan.Settled targetFolderId after) := by
  have kept : plan.Kept before → plan.Kept after := fun kept =>
    { folders := fun folder inside => spares.1 _ (kept.folders folder inside) (folders folder inside)
      files := fun file inside => spares.2 file (kept.files file inside) (files file inside) }
  refine ⟨kept, ?_⟩
  rintro (still | ⟨newPrefix, depthDelta, already⟩)
  · exact .inl (kept still)
  · refine .inr ⟨newPrefix, depthDelta, fun folder inside => ?_, fun file inside => ?_⟩
    · refine spares.1 _ (already.folders folder inside) ?_
      have keyed : (folder.relocated plan.root targetFolderId plan.root.name newPrefix
          depthDelta).shape.id = folder.id := by
        change (folder.relocated _ _ _ _ _).id = _
        unfold Folder.relocated
        simp only
        split <;> rfl
      rw [keyed]
      exact folders folder inside
    · refine spares.2 _ (already.files file inside) ?_
      rw [rebasedFile_id]
      exact files file inside

/-- Every plan to come is as it was read, and every plan is settled. -/
structure MovesPlans (db : Db) (userId targetFolderId : Nat) (folderIds : List Nat)
    (plans : List (Nat × FolderDeletePlan)) (todo : List Nat) (now : Db) : Prop where
  once : todo.Nodup
  top : ∀ folderId ∈ todo, ∃ root : Folder, root.Topmost db userId folderIds ∧ root.id = folderId
  waiting : ∀ (root : Folder) plan, root.Topmost db userId folderIds →
    findPlan plans root.id = some plan → root.id ∈ todo → plan.Kept now
  settled : ∀ (root : Folder) plan, root.Topmost db userId folderIds →
    findPlan plans root.id = some plan → plan.Settled targetFolderId now

theorem MovesPlans.skip {folderId : Nat} {todo : List Nat} {now : Db}
    (moves : MovesPlans db userId targetFolderId folderIds plans (folderId :: todo) now) :
    MovesPlans db userId targetFolderId folderIds plans todo now where
  once := (List.nodup_cons.mp moves.once).2
  top := fun other listed => moves.top other (List.mem_cons_of_mem folderId listed)
  waiting := fun root plan top found listed =>
    moves.waiting root plan top found (List.mem_cons_of_mem folderId listed)
  settled := moves.settled

/-- The plans of two topmost folders share no row. -/
theorem SubtreesPlanned.apart (planned : SubtreesPlanned db userId folderIds plans)
    {one two : Folder} {first second : FolderDeletePlan} (oneTop : one.Topmost db userId folderIds)
    (twoTop : two.Topmost db userId folderIds) (differ : one ≠ two)
    (oneFound : findPlan plans one.id = some first) (twoFound : findPlan plans two.id = some second) :
    (∀ folder ∈ first.folders, folder.id ∉ second.folders.map Folder.id) ∧
      ∀ file ∈ first.files, file.id ∉ second.files.map File.id := by
  obtain ⟨plan, found, oneCovers⟩ := planned.plan one oneTop
  obtain rfl := Option.some.inj (found.symm.trans oneFound)
  obtain ⟨plan', found', twoCovers⟩ := planned.plan two twoTop
  obtain rfl := Option.some.inj (found'.symm.trans twoFound)
  constructor
  · intro folder inside shared
    obtain ⟨other, there, same⟩ := List.mem_map.mp shared
    have oneBelow := (oneCovers.folders folder).mp inside
    have twoBelow := (twoCovers.folders other).mp there
    obtain rfl := db.folders.eq_of_key (mem_of_below twoTop.1.1 twoBelow)
      (mem_of_below oneTop.1.1 oneBelow) same
    exact differ (planned.folderOnce other one two oneTop twoTop oneBelow twoBelow)
  · intro file inside shared
    obtain ⟨other, there, same⟩ := List.mem_map.mp shared
    have oneInside := (oneCovers.files file).mp inside
    have twoInside := (twoCovers.files other).mp there
    obtain rfl := db.files.eq_of_key twoInside.1 oneInside.1 same
    exact differ (planned.fileOnce other one two oneTop twoTop oneInside twoInside)

/-- One round of the loop moves one plan or leaves the rows alone. -/
theorem moveFolder_moves (planned : SubtreesPlanned db userId folderIds plans)
    {location : FolderLocation} (folderId : Nat) (todo : List Nat) (moved : List String × Nat) :
    Ensures (moveFolder plans location request moved folderId) fun before _ after =>
      MovesPlans db userId request.targetFolderId folderIds plans (folderId :: todo) before →
        MovesPlans db userId request.targetFolderId folderIds plans todo after := by
  intro before value after ran moves
  unfold moveFolder at ran
  split at ran
  · obtain ⟨-, rfl⟩ := pure_ok ran
    exact moves.skip
  · rename_i plan found
    split at ran
    · exact (throw_ok ran).elim
    · split at ran
      · obtain ⟨-, rfl⟩ := pure_ok ran
        exact moves.skip
      · split at ran
        · obtain ⟨-, rfl⟩ := pure_ok ran
          exact moves.skip
        · obtain ⟨_, moving, -⟩ := bind_pure_ok ran
          obtain ⟨root, top, rfl⟩ := moves.top folderId List.mem_cons_self
          obtain ⟨covering, found', covers⟩ := planned.plan root top
          obtain rfl := Option.some.inj (found'.symm.trans found)
          have kept := moves.waiting root covering top found List.mem_cons_self
          obtain ⟨done, folders, files⟩ := moveTree_moves (covers.distinct top.1.1) _ _ _ moving kept
          have spares : covering.Spares before after := ⟨folders, files⟩
          have others : ∀ (other : Folder) plan, other.Topmost db userId folderIds → other ≠ root →
              findPlan plans other.id = some plan → (plan.Kept before → plan.Kept after) ∧
                (plan.Settled request.targetFolderId before → plan.Settled request.targetFolderId after) := by
            intro other plan otherTop differ otherFound
            obtain ⟨apartFolders, apartFiles⟩ := planned.apart otherTop top differ otherFound found
            exact spares.settled apartFolders apartFiles
          obtain ⟨absent, distinct⟩ := List.nodup_cons.mp moves.once
          refine ⟨distinct, moves.skip.top, fun other plan otherTop otherFound listed => ?_,
            fun other plan otherTop otherFound => ?_⟩
          · have differ : other ≠ root := fun same => absent (same ▸ listed)
            exact (others other plan otherTop differ otherFound).1
              (moves.waiting other plan otherTop otherFound (List.mem_cons_of_mem root.id listed))
          · rcases eq_or_ne other root with rfl | differ
            · obtain rfl := Option.some.inj (otherFound.symm.trans found)
              exact .inr ⟨_, _, done⟩
            · exact (others other plan otherTop differ otherFound).2
                (moves.settled other plan otherTop otherFound)

end Loop

end Move

section Copy

variable {run : CopyRun} {plan : FolderDeletePlan}

/-- The rows of a copy: one file for each file of the plan, each in the copy of its folder. -/
structure FolderDeletePlan.CopiedTo (plan : FolderDeletePlan) (userId : Nat) (before after : Db) : Prop where
  copies : ∃ (places : FolderMap) (rows : List File), after.files.rows = before.files.rows ++ rows ∧
    List.Forall₂ (fun file row => File.Seats places File.folderId (copiedFile userId) file row)
      plan.files rows ∧
    ∀ folder ∈ plan.folders, ∃ row ∈ after.shapes, row.name = folder.name ∧
      places.lookup folder.id = some (row.id, row.path)

/-- Copying the tree of a plan inserts a row for each of its folders and files. -/
theorem copyTree_copies {location : FolderLocation} (distinct : plan.Distinct) :
    Ensures (copyTree run location plan) fun before _ after => plan.CopiedTo run.userId before after := by
  intro before value after ran
  obtain ⟨rootId, rooted, inserting, rest₁⟩ := bind_ok ran
  obtain ⟨folders, placed, placing, filing⟩ := bind_ok rest₁
  have top := insertFolder_grows inserting
  have once : ((plan.folders.filter fun folder => folder.id ≠ plan.root.id).map Folder.id).Nodup :=
    distinct.folders.sublist (List.filter_sublist.map Folder.id)
  have fresh : ∀ node ∈ plan.folders.filter fun folder => folder.id ≠ plan.root.id,
      node.id ∉ FolderMap.keys
        [(plan.root.id, rootId, buildFolderPath location.path plan.root.name)] := by
    intro node chosen
    have differ := (List.mem_filter.mp chosen).2
    simpa [FolderMap.keys] using differ
  obtain ⟨rows, grown, grafted⟩ := copyFolderNodes_grafts once fresh _ _ _ placing
  obtain ⟨files, filed, seated⟩ := forM_seats (fun file _ => copyTreeFile_seats) _ _ _ filing
  have grows := (top.trans grown).trans filed
  refine ⟨folders, files, ?_, seated, fun folder inside => ?_⟩
  · simpa using grows.fileRows
  · by_cases same : folder.id = plan.root.id
    · obtain rfl := List.inj_on_of_nodup_map distinct.folders inside distinct.top same
      refine ⟨Folder.shape (NewFolder.row
        { userId := run.userId
          parentId := run.targetFolderId
          name := plan.root.name
          path := buildFolderPath location.path plan.root.name
          depth := location.depth + 1
          itemCount := plan.root.itemCount } rootId), ?_, rfl, ?_⟩
      · rw [Db.shapes, grows.folderRows]
        exact List.mem_map_of_mem (by simp)
      · exact grafted.kept _ _ (FolderMap.lookup_cons_self _ _ _)
    · have chosen : folder ∈ plan.folders.filter fun folder => folder.id ≠ plan.root.id :=
        List.mem_filter.mpr ⟨inside, by simpa using same⟩
      obtain ⟨row, listed, grafts⟩ := grafted.exists_row (List.mem_map_of_mem chosen)
      refine ⟨row.shape, ?_, grafts.name, grafts.placed⟩
      rw [Db.shapes, grows.folderRows]
      exact List.mem_map_of_mem (by simp [listed])

theorem countCopiedItems_shapes {folderId userId count : Nat} :
    KeepsFrame (fun db : Db => (db.shapes, db.files)) (countCopiedItems folderId userId count) := by
  unfold countCopiedItems
  split
  · refine keepsFrame_bind applyItemCountDelta_shapes fun updated => ?_
    split
    · exact keepsFrame_pure _
    · exact keepsFrame_throw _
  · exact keepsFrame_pure _

/-- The transaction of one folder copies the whole plan, or it leaves folders and files alone. -/
theorem copyFolder_copies {existing : List Nat} (distinct : plan.Distinct) :
    Ensures (copyFolder run plan existing) fun before _ after =>
      (after.folders = before.folders ∧ after.files = before.files) ∨
        plan.CopiedTo run.userId before after := by
  intro before value after ran
  obtain ⟨target, checked, checking, rest₁⟩ := bind_ok ran
  have rest₂ := get_bind_ok rest₁
  have start : checked.rows = before.rows := requireTarget_keeps _ _ _ checking
  have startFolders : checked.folders = before.folders := congrArg Prod.fst start
  have startFiles : checked.files = before.files := congrArg (fun rows => rows.2.1) start
  split at rest₂
  · obtain ⟨_, releasing, -⟩ := bind_pure_ok rest₂
    have same : after.rows = checked.rows := releaseReservedStorageChecked_keeps _ _ _ releasing
    exact .inl ⟨(congrArg Prod.fst same).trans startFolders,
      (congrArg (fun rows => rows.2.1) same).trans startFiles⟩
  · obtain ⟨_, counted, counting, rest₃⟩ := bind_ok rest₂
    obtain ⟨_, copied, copying, rest₄⟩ := bind_ok rest₃
    obtain ⟨_, itemized, itemizing, rest₅⟩ := bind_ok rest₄
    obtain ⟨_, committing, -⟩ := bind_pure_ok rest₅
    have first : counted.rows = checked.rows := countCopiedContents_keeps _ _ _ counting
    have items := countCopiedItems_shapes _ _ _ itemizing
    have last : after.rows = itemized.rows := commitReservedToUsed_keeps _ _ _ committing
    obtain ⟨places, rows, files, seated, folders⟩ := (copyTree_copies distinct _ _ _ copying).copies
    have countedFiles : counted.files = before.files :=
      (congrArg (fun rows => rows.2.1) first).trans startFiles
    have lastFiles : after.files = copied.files :=
      (congrArg (fun rows => rows.2.1) last).trans (Prod.mk.inj items).2
    have lastFolders : after.folders = itemized.folders := congrArg Prod.fst last
    have lastShapes : after.shapes = copied.shapes :=
      (congrArg (fun folders => folders.rows.map Folder.shape) lastFolders).trans (Prod.mk.inj items).1
    refine .inr ⟨places, rows, ?_, seated, ?_⟩
    · rw [lastFiles, files, countedFiles]
    · rw [lastShapes]
      exact folders

end Copy

section Trash

variable {userId : Nat}

/-- The items of a delete get one trash row each. -/
theorem forM_insertTrashRecord {items : List TrashInsertItem} :
    Ensures (items.forM (insertTrashRecord userId)) fun before _ after =>
      (∀ row ∈ before.trash.rows, row ∈ after.trash.rows) ∧
        ∀ item ∈ items, ∃ id, item.row userId id ∈ after.trash.rows := by
  induction items with
  | nil =>
      intro before value after ran
      obtain ⟨-, rfl⟩ := pure_ok ran
      exact ⟨fun _ present => present, by simp⟩
  | cons item rest ih =>
      intro before value after ran
      change (insertTrashRecord userId item >>= fun _ => rest.forM (insertTrashRecord userId)).run
        before = _ at ran
      obtain ⟨_, inserted, inserting, later⟩ := bind_ok ran
      obtain ⟨keeps, each⟩ := ih _ _ _ later
      have rest₁ := get_bind_ok inserting
      split at rest₁
      · exact (throw_ok rest₁).elim
      · split at rest₁
        · exact (throw_ok rest₁).elim
        · obtain rfl := set_ok rest₁
          have kept : ∀ row ∈ before.trash.rows, row ∈ (before.trash.insert (item.row userId)
              fun _ => rfl).rows := fun row present => List.mem_append_left _ present
          refine ⟨fun row present => keeps row (kept row present), fun other listed => ?_⟩
          rcases List.mem_cons.mp listed with rfl | listed
          · exact ⟨before.trash.next, keeps _ (List.mem_append_right _ (List.mem_singleton_self _))⟩
          · exact each other listed

theorem deleteFilesByIds_rows {fileIds : List Nat} :
    Ensures (deleteFilesByIds fileIds) fun before _ after =>
      (∀ row ∈ after.files.rows, row.id ∉ fileIds) ∧ after.folders = before.folders ∧
        after.trash = before.trash := by
  intro before value after ran
  obtain ⟨-, rfl⟩ := deleteFilesByIds_ok ran
  refine ⟨fun row present => ?_, rfl, rfl⟩
  have left := (List.mem_filter.mp present).2
  simpa using left

theorem deleteFoldersByIds_rows {folderIds : List Nat} :
    Ensures (deleteFoldersByIds folderIds) fun before _ after =>
      (∀ row ∈ after.folders.rows, row.id ∉ folderIds) ∧ after.files = before.files ∧
        after.trash = before.trash := by
  intro before value after ran
  obtain ⟨-, rfl⟩ := deleteFoldersByIds_ok ran
  refine ⟨fun row present => ?_, rfl, rfl⟩
  have left := (List.mem_filter.mp present).2
  simpa using left

/-- The plan has a trash row, and its folders and files are gone. -/
structure FolderDeletePlan.Trashed (plan : FolderDeletePlan) (userId : Nat) (after : Db) : Prop where
  item : ∃ id, (folderTrashItem plan).row userId id ∈ after.trash.rows
  folders : ∀ folder ∈ plan.folders, ∀ row ∈ after.folders.rows, row.id ≠ folder.id
  files : ∀ file ∈ plan.files, ∀ row ∈ after.files.rows, row.id ≠ file.id

/-- A delete puts every selected plan into the trash. -/
theorem moveToTrash_trashes {hashOrder fileIds folderIds : List Nat} {before after : Db}
    {plans : List (Nat × FolderDeletePlan)} {result : MoveToTrashResult}
    (planning : (fetchBatchFolderDeletePlans hashOrder (normalizeIds folderIds) userId).run before =
      .ok (plans, before))
    (ran : (moveToTrash hashOrder fileIds folderIds userId).run before = .ok (result, after)) :
    ∀ plan ∈ (selectForTrash before userId (normalizeIds fileIds) (normalizeIds folderIds) plans).plans,
      plan.Trashed userId after := by
  obtain ⟨again, selection, stored, counted, removed, move⟩ := moveToTrash_ok ran
  obtain ⟨rfl, -⟩ := Prod.mk.inj (Except.ok.inj (planning.symm.trans move.planned))
  rw [← move.selected]
  intro plan present
  obtain ⟨-, each⟩ := forM_insertTrashRecord _ _ _ move.storing
  have lowered : counted.trash = stored.trash :=
    keepsFrame_forM (fun _ _ => countedOrFailed_keeps) _ _ _ move.counting
  obtain ⟨noFiles, -, removedTrash⟩ := deleteFilesByIds_rows _ _ _ move.files
  obtain ⟨noFolders, sameFiles, deletedTrash⟩ := deleteFoldersByIds_rows _ _ _ move.folders
  refine ⟨?_, fun folder inside row there same => ?_, fun file inside row there same => ?_⟩
  · obtain ⟨id, kept⟩ := each (folderTrashItem plan)
      (List.mem_append_right _ (List.mem_map_of_mem present))
    exact ⟨id, by rwa [deletedTrash, removedTrash, lowered]⟩
  · refine noFolders row there ?_
    rw [same, TrashSelection.folderIds, mem_normalizeIds]
    exact List.mem_flatMap.mpr ⟨plan, present, List.mem_map_of_mem inside⟩
  · rw [sameFiles] at there
    refine noFiles row there ?_
    rw [same, TrashSelection.fileIds, mem_normalizeIds]
    exact List.mem_append_right _ (List.mem_flatMap.mpr ⟨plan, present, List.mem_map_of_mem inside⟩)

end Trash

section Whole

variable {db : Db} {userId : Nat} {hashOrder folderIds : List Nat} {plans : List (Nat × FolderDeletePlan)}

theorem fetchOwnedFilesByIds_of_mem {fileIds : List Nat} {file : File} (stored : file ∈ db.files.rows)
    (owned : file.userId = userId) (named : file.id ∈ fileIds) :
    file ∈ fetchOwnedFilesByIds db fileIds userId := by
  refine List.mem_filterMap.mpr ⟨file.id, mem_normalizeIds.mpr named, Option.filter_eq_some_iff.mpr ⟨?_, ?_⟩⟩
  · exact Table.find?_eq_some_iff.mpr ⟨stored, rfl⟩
  · simpa using owned

/-- The locked files of a whole plan are its files again. -/
theorem SubtreesPlanned.relocked (planned : SubtreesPlanned db userId folderIds plans) {root : Folder}
    (top : root.Topmost db userId folderIds) (fileIds : List Nat) :
    ∃ plan ∈ (selectForTrash db userId fileIds folderIds plans).plans, plan.Covers db userId root := by
  obtain ⟨plan, found, covers⟩ := planned.plan root top
  refine ⟨relockPlan _ plan, List.mem_filterMap.mpr ⟨root.id, (planned.topmost root.id).mpr ⟨root, top, rfl⟩,
    by rw [found]; rfl⟩, covers.top, covers.folders, covers.folderOnce, fun file => ?_,
    fetchOwnedFilesByIds_nodup.filter _, rfl⟩
  constructor
  · intro present
    obtain ⟨locked, folder, inside, keyed⟩ := mem_relockPlan present
    obtain ⟨stored, owned⟩ := mem_fetchOwnedFilesByIds locked
    exact ⟨stored, owned, folder, (covers.folders folder).mp inside, keyed⟩
  · intro inside
    have named := (planned.covered file.id).mpr ⟨file, root, top, inside, rfl⟩
    obtain ⟨stored, owned, folder, below, keyed⟩ := inside
    refine List.mem_filter.mpr ⟨fetchOwnedFilesByIds_of_mem stored owned
      (List.mem_append_right _ named), List.any_eq_true.mpr ⟨folder, ?_, decide_eq_true keyed⟩⟩
    exact (covers.folders folder).mpr below

theorem normalizeIds_idem (ids : List Nat) : normalizeIds (normalizeIds ids) = normalizeIds ids := by
  have sorted : (normalizeIds ids).Pairwise (· ≤ ·) := List.pairwise_insertionSort _ _
  have same : (normalizeIds ids).dedup = normalizeIds ids := (normalizeIds_nodup ids).dedup
  rw [normalizeIds, same]
  exact sorted.insertionSort_eq

theorem requested_normalizeIds {root : Folder} :
    root.Requested db userId (normalizeIds folderIds) ↔ root.Requested db userId folderIds := by
  unfold Folder.Requested
  rw [mem_normalizeIds]

/-- The topmost folders do not depend on repetitions. -/
theorem topmost_normalizeIds {root : Folder} :
    root.Topmost db userId (normalizeIds folderIds) ↔ root.Topmost db userId folderIds := by
  unfold Folder.Topmost
  simp only [requested_normalizeIds]

theorem topmostFirst_normalizeIds :
    TopmostFirst db hashOrder (normalizeIds folderIds) userId ↔ TopmostFirst db hashOrder folderIds userId := by
  unfold TopmostFirst planOrder requestedRoots
  simp only [topmost_normalizeIds, requested_normalizeIds, normalizeIds_idem]

/-- The plans of a batch are whole subtrees, and the three requests act on whole subtrees. -/
structure BatchesWhole (db : Db) (hashOrder folderIds : List Nat) (userId : Nat) : Prop where
  planned : ∃ plans, (fetchBatchFolderDeletePlans hashOrder folderIds userId).run db = .ok (plans, db) ∧
    SubtreesPlanned db userId folderIds plans
  trashed : ∀ fileIds result after,
    (moveToTrash hashOrder fileIds folderIds userId).run db = .ok (result, after) →
      ∀ root : Folder, root.Topmost db userId folderIds →
        ∃ plan : FolderDeletePlan, plan.Covers db userId root ∧ plan.Trashed userId after
  copied : ∀ (reads : CopyReads) (request : CopyRequest) run, reads.plans = db →
    request.userId = userId → request.folderIds = folderIds →
      planCopy reads hashOrder request = .ok run →
        ∀ root : Folder, root.Topmost db userId folderIds →
          ∃ plan ∈ run.plans, plan.Covers db userId root ∧ ∀ existing before sizes after,
            (copyFolder run plan existing).run before = .ok (sizes, after) →
              (after.folders = before.folders ∧ after.files = before.files) ∨
                plan.CopiedTo userId before after
  moved : ∀ (location : FolderLocation) (request : MoveRequest) count after, request.userId = userId →
    request.folderIds = folderIds → (moveFolders hashOrder location request).run db = .ok (count, after) →
      ∀ root : Folder, root.Topmost db userId folderIds →
        ∃ plan : FolderDeletePlan, plan.Covers db userId root ∧
          plan.Settled request.targetFolderId after

/-- The folder phase of a move settles the plan of every topmost requested folder. -/
theorem moveFolders_moves {request : MoveRequest} {location : FolderLocation} {count : Nat} {after : Db}
    (planning : (fetchBatchFolderDeletePlans hashOrder (normalizeIds request.folderIds) request.userId).run
      db = .ok (plans, db))
    (planned : SubtreesPlanned db request.userId (normalizeIds request.folderIds) plans)
    (ran : (moveFolders hashOrder location request).run db = .ok (count, after)) {root : Folder}
    (top : root.Topmost db request.userId (normalizeIds request.folderIds)) :
    ∃ plan : FolderDeletePlan, plan.Covers db request.userId root ∧
      plan.Settled request.targetFolderId after := by
  obtain ⟨again, fetched, fetching, rest₁⟩ := bind_ok ran
  obtain ⟨rfl, rfl⟩ := Prod.mk.inj (Except.ok.inj (planning.symm.trans fetching))
  have rest₂ := get_bind_ok rest₁
  obtain ⟨moves, moving, -⟩ := bind_pure_ok rest₂
  have begins : MovesPlans db request.userId request.targetFolderId (normalizeIds request.folderIds)
      plans (filterCoveredFolderIds (normalizeIds request.folderIds) plans ++ []) db := by
    rw [List.append_nil]
    have kept : ∀ (root : Folder) plan,
        root.Topmost db request.userId (normalizeIds request.folderIds) →
          findPlan plans root.id = some plan → plan.Kept db := by
      intro root plan top found
      obtain ⟨covering, found', covers⟩ := planned.plan root top
      obtain rfl := Option.some.inj (found'.symm.trans found)
      exact covers.kept top.1.1
    exact
      { once := (normalizeIds_nodup _).filter _
        top := fun folderId listed => (planned.topmost folderId).mp listed
        waiting := fun root plan top found _ => kept root plan top found
        settled := fun root plan top found => .inl (kept root plan top found) }
  have ends := Ensures.foldlM_consumes
    (fun todo (_ : List String × Nat) now => MovesPlans db request.userId request.targetFolderId
      (normalizeIds request.folderIds) plans todo now)
    (fun folderId todo moved => moveFolder_moves planned folderId todo moved) _ [] _ _ _ _ moving begins
  obtain ⟨plan, found, covers⟩ := planned.plan root top
  exact ⟨plan, covers, ends.settled root plan top found⟩

/-- A copy runs on the plans that were fetched for it. -/
theorem planCopy_plans {reads : CopyReads} {request : CopyRequest} {run : CopyRun}
    (planning : (fetchBatchFolderDeletePlans hashOrder (normalizeIds request.folderIds) request.userId).run
      reads.plans = .ok (plans, reads.plans))
    (ran : planCopy reads hashOrder request = .ok run) :
    run.userId = request.userId ∧ run.plans =
      (filterCoveredFolderIds (normalizeIds request.folderIds) plans).filterMap (findPlan plans) := by
  unfold planCopy at ran
  simp only [bind, Except.bind, planning] at ran
  split at ran
  · cases ran
  · cases ran
    exact ⟨rfl, rfl⟩

/-- Batches of whole subtrees list the topmost folders first. -/
theorem BatchesWhole.topmostFirst (forest : IsForest db.folders)
    (whole : BatchesWhole db hashOrder folderIds userId) : TopmostFirst db hashOrder folderIds userId := by
  obtain ⟨trees, valid, planning⟩ := fetchBatchFolderDeletePlans_run forest hashOrder folderIds userId
  obtain ⟨plans, ran, planned⟩ := whole.planned
  obtain ⟨rfl, -⟩ := Prod.mk.inj (Except.ok.inj (planning.symm.trans ran))
  exact valid.planned_iff.mp planned

/-- The batch requests act on whole subtrees exactly when the hash map lists each topmost requested
folder before the requested folders below it that hold files. -/
theorem batches_whole_iff (db : Db) (forest : IsForest db.folders) (hashOrder folderIds : List Nat)
    (userId : Nat) :
    BatchesWhole db hashOrder folderIds userId ↔ TopmostFirst db hashOrder folderIds userId := by
  obtain ⟨trees, valid, planning⟩ := fetchBatchFolderDeletePlans_run forest hashOrder folderIds userId
  obtain ⟨again, validAgain, planningAgain⟩ :=
    fetchBatchFolderDeletePlans_run forest hashOrder (normalizeIds folderIds) userId
  constructor
  · intro whole
    exact whole.topmostFirst forest
  · intro first
    have planned := validAgain.planned_iff.mpr (topmostFirst_normalizeIds.mpr first)
    refine ⟨⟨_, planning, valid.planned_iff.mpr first⟩, ?_, ?_, ?_⟩
    · intro fileIds result after ran root top
      obtain ⟨plan, listed, covers⟩ :=
        planned.relocked (topmost_normalizeIds.mpr top) (normalizeIds fileIds)
      exact ⟨plan, covers, moveToTrash_trashes planningAgain ran plan listed⟩
    · rintro reads request run rfl rfl rfl ran root top
      obtain ⟨plan, found, covers⟩ := planned.plan root (topmost_normalizeIds.mpr top)
      obtain ⟨user, plans⟩ := planCopy_plans planningAgain ran
      refine ⟨plan, ?_, covers, fun existing before sizes after copying => ?_⟩
      · rw [plans]
        exact List.mem_filterMap.mpr ⟨root.id, (planned.topmost root.id).mpr
          ⟨root, topmost_normalizeIds.mpr top, rfl⟩, found⟩
      · rw [← user]
        exact copyFolder_copies (covers.distinct top.1.1) _ _ _ copying
    · rintro location request count after rfl rfl ran root top
      exact moveFolders_moves planningAgain planned ran (topmost_normalizeIds.mpr top)

end Whole

/-- A folder in a folder, with one file in the inner one. -/
def outerFolder : Folder := ⟨1, 1, 0, "a", "/a/", 1, 1⟩

def innerFolder : Folder := ⟨2, 1, 1, "b", "/a/b/", 2, 1⟩

def innerFile : File := ⟨1, 1, 1, 2, "c", "", 10, "", "/a/b/c", 0, 0⟩

def nestedDb : Db :=
  { Db.empty with
    users := ⟨⟨[⟨1, 100, 10, 0⟩], by decide⟩, 2, by decide, by decide⟩
    contents := ⟨⟨[⟨1, "m", "s", 10, "p", "", 1⟩], by decide⟩, 2, by decide, by decide⟩
    folders := ⟨⟨[outerFolder, innerFolder], by decide⟩, 3, by decide, by decide⟩
    files := ⟨⟨[innerFile], by decide⟩, 2, by decide, by decide⟩ }

theorem nestedDb_forest : IsForest nestedDb.folders := by
  have outer : ReachesRoot nestedDb.folders 1 1 :=
    @Rooted.under _ _ _ _ _ _ outerFolder ⟨by decide, rfl⟩ .top
  intro folder present
  rcases List.mem_cons.mp present with rfl | later
  · exact outer
  · obtain rfl := List.mem_singleton.mp later
    exact @Rooted.under _ _ _ _ _ _ innerFolder ⟨by decide, rfl⟩ outer

theorem innerFolder_below : Folder.Below nestedDb 1 innerFolder outerFolder :=
  .single ⟨by decide, by decide, rfl, rfl⟩

theorem outerFolder_topmost : outerFolder.Topmost nestedDb 1 [1, 2] := by
  refine ⟨⟨by decide, rfl, by decide⟩, fun other asked below => ?_⟩
  rcases below.cases_head with rfl | ⟨parent, linked, -⟩
  · rfl
  · exact absurd linked.2.2.1.symm (Nat.ne_of_gt (folder_id_pos linked.2.1))

/-- The inner folder comes first in the hash map, so its file stays behind when both are deleted. -/
theorem nested_file_left_behind :
    ¬ BatchesWhole nestedDb [2, 1] [1, 2] 1 ∧
      ((moveToTrash [2, 1] [] [1, 2] 1).run nestedDb).map (fun ran => (ran.2.folders.rows, ran.2.files.rows)) =
        .ok ([], [innerFile]) := by
  refine ⟨fun whole => ?_, by rfl⟩
  have first := whole.topmostFirst nestedDb_forest outerFolder innerFolder outerFolder_topmost
    ⟨by decide, rfl, by decide⟩ innerFolder_below
    ⟨innerFile, by decide, rfl, innerFolder, .refl, rfl⟩
  exact absurd first (by decide)

/-- The outer folder comes first in the hash map, so both are deleted with the file. -/
theorem batches_whole_iff_nested : BatchesWhole nestedDb [1, 2] [1, 2] 1 := by
  refine (batches_whole_iff nestedDb nestedDb_forest [1, 2] [1, 2] 1).mpr ?_
  intro root other top asked below _
  rcases List.mem_cons.mp top.1.1 with rfl | later
  · exact Nat.zero_le _
  · obtain rfl := List.mem_singleton.mp later
    exact absurd (top.2 outerFolder outerFolder_topmost.1 innerFolder_below) (by decide)

end DiskServer.Drive
