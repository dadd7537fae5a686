import DiskServer.Construction.Drive.TrashCallbacks

namespace DiskServer.Drive.Callbacks

open Library Transaction Library.Callback

variable {faults : Nat → Bool} {before : Db} {Value Result : Type}

theorem realizes_lock {next : Unit → DriveCallback Result} {program : Tx Result}
    (rest : Realizes faults (next ()) program before) :
    Realizes faults (acquireNameLock >>= next) program before :=
  realizes_query rest

/-- Both sides go on with the folder that the state holds. -/
theorem realizes_findOwnedFolder {folderId userId : Nat} {next : Option Folder → DriveCallback Result}
    {later : Option Folder → Tx Result}
    (rest : ∀ folder, (before.folders.rows.find? fun folder => folder.owned folderId userId) = folder →
      Realizes faults (next folder) (later folder) before) :
    Realizes faults (findOwnedFolder folderId userId >>= next)
      (Drive.findOwnedFolder folderId userId >>= later) before := by
  apply realizes_query
  exact (rest _ rfl).of_run rfl

theorem resolveOwnedFolderLocation_realizes (folderId userId : Nat) :
    Realizes faults (resolveOwnedFolderLocation folderId userId)
      (Drive.resolveOwnedFolderLocation folderId userId) before := by
  apply realizes_ite
  · intro _
    exact realizes_pure _
  · intro _
    apply realizes_converting
    apply realizes_findOwnedFolder
    intro folder _
    cases folder with
    | none => exact realizes_refuse _ _
    | some folder => exact realizes_pure _

theorem requireUpdated_realizes (failure : ErrorInfo) (update : Tx Bool) :
    Realizes faults (requireUpdated failure update) (Drive.requireUpdated failure update) before := by
  apply realizes_bind (realizes_statement update)
  intro updated middle _
  apply realizes_ite
  · intro _
    exact realizes_pure _
  · intro _
    exact realizes_refuse _ _

/-- A name that does not change is not taken. -/
theorem realizes_nameTaken {differs : Prop} [Decidable differs] {read : Db → Bool}
    {refused rest : DriveCallback Result} {failing program : Tx Result}
    (taken : Realizes faults refused failing before)
    (free : Realizes faults rest program before) :
    Realizes faults (nameTaken differs read >>= fun taken => if taken then refused else rest)
      (if differs ∧ read before = true then failing else program) before := by
  unfold nameTaken
  by_cases changes : differs
  · rw [if_pos changes]
    apply realizes_query
    cases found : read before with
    | true =>
        rw [if_pos rfl, if_pos ⟨changes, rfl⟩]
        exact taken
    | false =>
        rw [if_neg Bool.false_ne_true, if_neg fun both => Bool.false_ne_true both.2]
        exact free
  · rw [if_neg changes, pure_bind, if_neg Bool.false_ne_true, if_neg fun both => changes both.1]
    exact free

/-- The callback of a file's `Rename` realizes its transaction. -/
theorem renameFile_realizes (fileId userId : Nat) (newName : String) :
    Realizes faults (renameFile fileId userId newName) (Drive.renameFile fileId userId newName)
      before := by
  unfold renameFile Drive.renameFile
  apply realizes_query
  apply Realizes.of_get
  cases (before.files.find? fileId).filter fun file => file.userId = userId with
  | none => exact realizes_refuse _ _
  | some file =>
      apply realizes_lock
      dsimp only
      apply realizes_nameTaken
      · exact realizes_refuse _ _
      · apply realizes_bind (resolveOwnedFolderLocation_realizes _ _)
        intro location middle _
        apply realizes_bind (realizes_statement _)
        intro updated last _
        apply realizes_ite
        · intro _
          exact realizes_pure _
        · intro _
          exact realizes_refuse _ _

theorem raiseParent_realizes (userId parentId : Nat) :
    Realizes faults (raiseParent userId parentId) (Drive.raiseParent userId parentId) before := by
  apply realizes_ite
  · intro _
    apply realizes_bind (realizes_statement _)
    intro updated middle _
    apply realizes_ite
    · intro _
      apply realizes_findOwnedFolder
      intro folder _
      cases folder with
      | none => exact realizes_refuse _ _
      | some folder => exact realizes_pure _
    · intro _
      exact realizes_refuse _ _
  · intro _
    exact realizes_pure _

/-- The insert that does nothing on a taken name decides like a check in front of a plain insert. -/
theorem insertIfNameAvailable_realizes (folder : NewFolder) :
    Realizes faults
      (statement (insertIfNameAvailable folder) >>= fun
        | none => refuseCode .folderAlreadyExists
        | some folderId => pure folderId)
      (do
        let db ← get
        if folderNameExists db folder.userId folder.parentId folder.name then
          failCode .folderAlreadyExists
        else
          insertNewFolder folder) before := by
  have single : Realizes faults
      (statement (insertIfNameAvailable folder) >>= fun
        | none => refuseCode .folderAlreadyExists
        | some folderId => pure folderId)
      (insertIfNameAvailable folder >>= fun
        | none => failCode .folderAlreadyExists
        | some folderId => pure folderId) before := by
    apply realizes_bind (realizes_statement _)
    intro inserted middle _
    cases inserted with
    | none => exact realizes_refuse _ _
    | some folderId => exact realizes_pure _
  apply single.of_run
  unfold insertIfNameAvailable
  rw [bind_assoc, get_bind_run, get_bind_run]
  by_cases taken : folderNameExists before folder.userId folder.parentId folder.name
  · rw [if_pos taken, if_pos taken]
    rfl
  · rw [if_neg taken, if_neg taken, bind_assoc]
    simp only [pure_bind, bind_pure]

/-- The callback of `Create` realizes its transaction. -/
theorem createFolder_realizes (userId parentId : Nat) (name : String) :
    Realizes faults (createFolder userId parentId name) (Drive.createFolder userId parentId name)
      before := by
  apply realizes_lock
  apply realizes_bind (raiseParent_realizes userId parentId)
  intro location middle _
  exact insertIfNameAvailable_realizes _

section RenameFolder

theorem renameParentPath_realizes (parentId userId : Nat) :
    Realizes faults (renameParentPath parentId userId) (Drive.renameParentPath parentId userId)
      before := by
  apply realizes_ite
  · intro _
    apply realizes_findOwnedFolder
    intro folder _
    cases folder with
    | none => exact realizes_refuse _ _
    | some folder => exact realizes_pure _
  · intro _
    exact realizes_pure _

theorem renameParentPath_reads {parentId userId : Nat} {parentPath : String} {after : Db}
    (ran : (Drive.renameParentPath parentId userId).run before = .ok (parentPath, after)) :
    after = before := by
  unfold Drive.renameParentPath at ran
  split at ran
  · obtain ⟨folder, middle, one, two⟩ := bind_ok ran
    cases one
    split at two
    · cases two
    · cases two
      rfl
  · cases ran
    rfl

theorem renameTreeFolder_realizes (folderId userId : Nat) (newName newPrefix oldPrefix : String)
    (item : Folder) :
    Realizes faults (renameTreeFolder folderId userId newName newPrefix oldPrefix item)
      (Drive.renameTreeFolder folderId userId newName newPrefix oldPrefix item) before := by
  unfold renameTreeFolder Drive.renameTreeFolder
  cases rebasePath newPrefix oldPrefix item.path with
  | none => exact realizes_exception _
  | some newPath => exact requireUpdated_realizes _ _

theorem rebaseFile_realizes (userId : Nat) (newPrefix oldPrefix : String) (folders : List Folder)
    (failure : ErrorInfo) (file : File) :
    Realizes faults (rebaseFile userId newPrefix oldPrefix folders failure file)
      (Drive.rebaseFile userId newPrefix oldPrefix folders failure file) before := by
  unfold rebaseFile Drive.rebaseFile
  cases folders.find? fun folder => folder.id = file.folderId with
  | none => exact realizes_pure _
  | some folder =>
      dsimp only
      cases rebasePath newPrefix oldPrefix folder.path with
      | none => exact realizes_exception _
      | some folderPath => exact requireUpdated_realizes _ _

/-- The subtree of a folder begins with the folder. -/
theorem fetchFolderSubtree_ne_nil {db : Db} {root : Folder} {userId : Nat} {folders : List Folder}
    (fetched : Drive.fetchFolderSubtree db root userId = some folders) : folders ≠ [] := by
  obtain ⟨tree, walked, rfl⟩ := Option.map_eq_some_iff.mp fetched
  obtain ⟨others, -, rfl⟩ := Option.map_eq_some_iff.mp walked
  intro empty
  have length := List.length_insertionSort (fun first second : Folder => first.depth < second.depth ∨
    (first.depth = second.depth ∧ first.id ≤ second.id)) ([root] ++ others)
  rw [empty] at length
  cases length

theorem realizes_fetchFolderSubtree {folder : Folder} {userId : Nat}
    {next : List Folder → DriveCallback Result} {later : List Folder → Tx Result}
    (rest : ∀ subtree, subtree ≠ [] → Realizes faults (next subtree) (later subtree) before) :
    Realizes faults (statement (fetchFolderSubtree folder userId) >>= next)
      (match Drive.fetchFolderSubtree before folder userId with
      | none => throw renameFolderFailed
      | some subtree => later subtree) before := by
  have run : (fetchFolderSubtree folder userId).run before =
      match Drive.fetchFolderSubtree before folder userId with
      | none => .error renameFolderFailed
      | some subtree => .ok (subtree, before) := by
    unfold fetchFolderSubtree
    rw [get_bind_run]
    cases Drive.fetchFolderSubtree before folder userId <;> rfl
  have single : Realizes faults (statement (fetchFolderSubtree folder userId) >>= next)
      (fetchFolderSubtree folder userId >>= later) before := by
    apply realizes_bind (realizes_statement _)
    intro subtree middle ran
    rw [run] at ran
    split at ran
    · cases ran
    · rename_i found
      cases ran
      exact rest subtree (fetchFolderSubtree_ne_nil found)
  apply single.of_run
  rw [StateT.run_bind, run]
  cases Drive.fetchFolderSubtree before folder userId <;> rfl

/-- The callback of a folder's `Rename` realizes its transaction. -/
theorem renameFolder_realizes (folderId userId : Nat) (newName : String) :
    Realizes faults (renameFolder folderId userId newName) (Drive.renameFolder folderId userId newName)
      before := by
  apply realizes_findOwnedFolder
  intro folder _
  cases folder with
  | none => exact realizes_refuse _ _
  | some folder =>
      apply realizes_lock
      apply Realizes.of_get
      apply realizes_nameTaken
      · exact realizes_refuse _ _
      · apply realizes_bind (renameParentPath_realizes _ _)
        intro parentPath middle read
        obtain rfl := renameParentPath_reads read
        apply realizes_fetchFolderSubtree
        intro subtree found
        rw [if_neg found]
        apply realizes_bind
        · apply realizes_forM
          intro item _ state
          exact renameTreeFolder_realizes _ _ _ _ _ item
        · intro _ last _
          apply realizes_query
          apply Realizes.of_get
          apply realizes_bind
          · apply realizes_forM
            intro file _ state
            exact rebaseFile_realizes _ _ _ _ _ file
          · intro _ _ _
            exact realizes_pure _

end RenameFolder

section Move

theorem realizes_locks {names : List String} {next : Unit → DriveCallback Result} {program : Tx Result}
    (rest : Realizes faults (next ()) program before) :
    Realizes faults (acquireNameLocks names >>= next) program before := by
  have idle : Realizes faults (acquireNameLocks names) (pure ()) before := by
    apply realizes_forM_idle
    intro _ _
    exact realizes_read _
  exact realizes_idle idle rest

theorem moveFile_realizes (files : List File) (location : FolderLocation) (request : MoveRequest)
    (moves : FileMoves) (fileId : Nat) :
    Realizes faults (moveFile files location request moves fileId)
      (Drive.moveFile files location request moves fileId) before := by
  unfold moveFile Drive.moveFile
  cases files.find? fun file => file.id = fileId with
  | none => exact realizes_pure _
  | some file =>
      apply realizes_ite
      · intro _
        exact realizes_pure _
      · intro _
        apply realizes_ite
        · intro _
          exact realizes_pure _
        · intro _
          apply realizes_bind (requireUpdated_realizes _ _)
          intro _ middle _
          exact realizes_pure _

theorem applyNetDeltas_realizes (userId : Nat) (deltas : List (Nat × Int)) :
    Realizes faults (applyNetDeltas userId deltas) (Drive.applyNetDeltas userId deltas) before := by
  apply realizes_forM
  intro folderId _ state
  apply realizes_ite
  · intro _
    exact realizes_pure _
  · intro _
    exact requireUpdated_realizes _ _

/-- The query that is left out for no names would find none of them. -/
theorem realizes_occupiedNames {names : List String} {read : Db → List String}
    {next : List String → DriveCallback Result} {program : Tx Result}
    (none : names = [] → read before = [])
    (rest : Realizes faults (next (read before)) program before) :
    Realizes faults (occupiedNames names read >>= next) program before := by
  unfold occupiedNames
  by_cases empty : names = []
  · rw [if_pos empty, pure_bind, ← none empty]
    exact rest
  · rw [if_neg empty]
    exact realizes_query rest

theorem moveFileChunk_realizes (files : List File) (location : FolderLocation) (request : MoveRequest)
    (moved : Nat) (chunk : List Nat) :
    Realizes faults (moveFileChunk files location request moved chunk)
      (Drive.moveFileChunk files location request moved chunk) before := by
  apply realizes_occupiedNames
  · intro empty
    rw [empty]
    rfl
  · apply Realizes.of_get
    apply realizes_bind
    · apply realizes_foldlM
      intro fileId _ moves state
      exact moveFile_realizes _ _ _ moves fileId
    · intro moves middle _
      apply realizes_bind (applyNetDeltas_realizes _ _)
      intro _ last _
      exact realizes_pure _

theorem moveFiles_realizes (location : FolderLocation) (request : MoveRequest) :
    Realizes faults (moveFiles location request) (Drive.moveFiles location request) before := by
  unfold moveFiles Drive.moveFiles
  apply Realizes.of_get
  by_cases empty : normalizeIds request.fileIds = []
  · rw [if_pos empty, empty]
    exact realizes_pure _
  · rw [if_neg empty]
    apply realizes_query
    apply realizes_locks
    apply realizes_foldlM
    intro chunk _ moved state
    exact moveFileChunk_realizes _ _ _ moved chunk

theorem moveTreeFolder_realizes (request : MoveRequest) (root : Folder) (newPrefix : String)
    (depthDelta : Int) (item : Folder) :
    Realizes faults (moveTreeFolder request root newPrefix depthDelta item)
      (Drive.moveTreeFolder request root newPrefix depthDelta item) before := by
  unfold moveTreeFolder Drive.moveTreeFolder
  cases rebasePath newPrefix root.path item.path with
  | none => exact realizes_exception _
  | some newPath => exact requireUpdated_realizes _ _

theorem countMovedItem_realizes (folderId userId : Nat) (delta : Int) :
    Realizes faults (countMovedItem folderId userId delta) (Drive.countMovedItem folderId userId delta)
      before := by
  apply realizes_ite
  · intro _
    exact requireUpdated_realizes _ _
  · intro _
    exact realizes_pure _

theorem moveTree_realizes (location : FolderLocation) (request : MoveRequest) (plan : FolderDeletePlan) :
    Realizes faults (moveTree location request plan) (Drive.moveTree location request plan) before := by
  apply realizes_bind
  · apply realizes_forM
    intro item _ state
    exact moveTreeFolder_realizes _ _ _ _ item
  · intro _ placed _
    apply realizes_bind
    · apply realizes_forM
      intro file _ state
      exact rebaseFile_realizes _ _ _ _ _ file
    · intro _ middle _
      apply realizes_bind (countMovedItem_realizes _ _ _)
      intro _ last _
      exact countMovedItem_realizes _ _ _

theorem moveFolder_realizes (plans : List (Nat × FolderDeletePlan)) (location : FolderLocation)
    (request : MoveRequest) (moves : List String × Nat) (folderId : Nat) :
    Realizes faults (moveFolder plans location request moves folderId)
      (Drive.moveFolder plans location request moves folderId) before := by
  unfold moveFolder Drive.moveFolder
  cases findPlan plans folderId with
  | none => exact realizes_pure _
  | some plan =>
      apply realizes_ite
      · intro _
        exact realizes_refuse _ _
      · intro _
        apply realizes_ite
        · intro _
          exact realizes_pure _
        · intro _
          apply realizes_ite
          · intro _
            exact realizes_pure _
          · intro _
            apply realizes_bind (moveTree_realizes _ _ _)
            intro _ middle _
            exact realizes_pure _

theorem moveFolders_realizes (hashOrder : List Nat) (location : FolderLocation) (request : MoveRequest) :
    Realizes faults (moveFolders hashOrder location request)
      (Drive.moveFolders hashOrder location request) before := by
  have looked : Realizes faults
      ((normalizeIds request.folderIds).forM fun folderId => do
        let _ ← findOwnedFolder folderId request.userId
        (pure () : DriveCallback Unit)) (pure ()) before := by
    apply realizes_forM_idle
    intro folderId _
    apply realizes_query
    exact realizes_pure _
  apply realizes_idle looked
  apply realizes_bind (realizes_statement _)
  intro plans middle _
  apply realizes_locks
  apply realizes_occupiedNames
  · intro empty
    rw [empty]
    rfl
  · apply Realizes.of_get
    apply realizes_bind
    · apply realizes_foldlM
      intro folderId _ moves state
      exact moveFolder_realizes _ _ _ moves folderId
    · intro moves last _
      exact realizes_pure _

theorem move_realizes (hashOrder : List Nat) (location : FolderLocation) (request : MoveRequest) :
    Realizes faults (move hashOrder location request) (Drive.move hashOrder location request) before := by
  apply realizes_bind (moveFiles_realizes _ _)
  intro movedFileCount middle _
  apply realizes_bind (moveFolders_realizes _ _ _)
  intro movedFolderCount last _
  exact realizes_pure _

end Move

end DiskServer.Drive.Callbacks
