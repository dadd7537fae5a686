import DiskServer.Proof.Drive.FileMutationService
import DiskServer.Proof.Drive.FolderTree

namespace DiskServer.Drive

open Library

variable {held : Nat → Nat → Prop}

/-- The bytes of the units that the copy has not finished yet. -/
def CopyRun.pending (run : CopyRun) : Nat :=
  (run.chunks.map sizeOf).sum + (run.plans.map FolderDeletePlan.itemSize).sum + run.owed

/-- The rows of a copy can be copied, and what is left of its reservation is what is pending. -/
structure CopyRun.Valid (held : Nat → Nat → Prop) (run : CopyRun) : Prop where
  files : ∀ chunk ∈ run.chunks, ∀ file ∈ chunk, file.Copyable held
  plans : ∀ plan ∈ run.plans, plan.Copyable held
  reserved : run.outstanding = run.pending

theorem CopyRun.Valid.mono {wider : Nat → Nat → Prop} {run : CopyRun} (valid : run.Valid held)
    (implied : ∀ contentId size, held contentId size → wider contentId size) : run.Valid wider where
  files := fun chunk present file inside =>
    ⟨(valid.files chunk present file inside).1, implied _ _ (valid.files chunk present file inside).2⟩
  plans := fun plan present =>
    ⟨(valid.plans plan present).root, (valid.plans plan present).folders,
      fun file inside => ⟨((valid.plans plan present).files file inside).1,
        implied _ _ ((valid.plans plan present).files file inside).2⟩,
      (valid.plans plan present).size⟩
  reserved := valid.reserved

/-- A step of a copy posts the change of its reservation and leaves a valid copy. -/
structure CopyRun.Steps (held : Nat → Nat → Prop) (run : CopyRun) (db : Db) (outcome : Db × CopyRun) :
    Prop where
  valid : outcome.2.Valid held
  userId : outcome.2.userId = run.userId
  posts : Posts held (post (.reserved run.userId) outcome.2.outstanding -
    post (.reserved run.userId) run.outstanding) db outcome.1

theorem sizeOf_filter (files : List File) (select : File → Bool) :
    sizeOf (files.filter select) + sizeOf (files.filter fun file => !select file) = sizeOf files := by
  induction files with
  | nil => rfl
  | cons file rest ih =>
      simp only [sizeOf] at ih ⊢
      cases chosen : select file <;> simp [chosen] <;> omega

/-- A copy that only changes what it owes posts nothing. -/
theorem CopyRun.Steps.owe {run next : CopyRun} {db : Db}
    (valid : next.Valid held) (userId : next.userId = run.userId)
    (same : next.outstanding = run.outstanding) : run.Steps held db (db, next) where
  valid := valid
  userId := userId
  posts := (Posts.refl db).cast (by rw [same, sub_self])

/-- A unit of the copy is settled by its transaction or owed as a whole. -/
theorem CopyRun.settle_steps {run next : CopyRun} {db : Db} {unit skippedBefore : Nat}
    {staged : Except ErrorInfo ((Nat × Nat) × Db)} (same : next.outstanding = run.outstanding)
    (userId : next.userId = run.userId)
    (files : ∀ chunk ∈ next.chunks, ∀ file ∈ chunk, file.Copyable held)
    (plans : ∀ plan ∈ next.plans, plan.Copyable held)
    (reserved : next.outstanding = (next.chunks.map sizeOf).sum +
      (next.plans.map FolderDeletePlan.itemSize).sum + unit)
    (committed : ∀ sizes after, staged = .ok (sizes, after) →
      sizes.1 + sizes.2 + skippedBefore = unit ∧
      Posts held (-post (.reserved run.userId) (sizes.1 + sizes.2 : Nat)) db after) :
    run.Steps held db (next.settle staged db unit skippedBefore) := by
  cases staged with
  | error error =>
      refine CopyRun.Steps.owe ⟨files, plans, ?_⟩ userId same
      exact reserved
  | ok result =>
      obtain ⟨sizes, after⟩ := result
      obtain ⟨total, posts⟩ := committed sizes after rfl
      have left : (next.settle (.ok (sizes, after)) db unit skippedBefore).2.outstanding =
          next.outstanding - (sizes.1 + sizes.2 : Nat) := by
        simp only [CopyRun.settle, CopyRun.outstanding]
        omega
      refine ⟨⟨files, plans, ?_⟩, userId, posts.cast ?_⟩
      · rw [left, reserved, ← total]
        simp only [CopyRun.settle, CopyRun.pending]
        omega
      · rw [left, same, post_sub]
        abel

theorem CopyRun.stepBatch_steps {run : CopyRun} {names existing : Option Db} {fails : Bool} {db : Db}
    {chunk : List File} {rest : List (List File)} (valid : run.Valid held)
    (chunks : run.chunks = chunk :: rest) (idle : run.owed = 0) :
    run.Steps held db (run.stepBatch names existing fails db chunk rest) := by
  have files : ∀ other ∈ rest, ∀ file ∈ other, file.Copyable held := fun other present =>
    valid.files other (chunks ▸ List.mem_cons_of_mem chunk present)
  have here : ∀ file ∈ chunk, file.Copyable held :=
    valid.files chunk (chunks ▸ List.mem_cons_self)
  have reserved : run.outstanding = (rest.map sizeOf).sum +
      (run.plans.map FolderDeletePlan.itemSize).sum + sizeOf chunk := by
    rw [valid.reserved, CopyRun.pending, chunks, idle, List.map_cons, List.sum_cons]
    push_cast
    omega
  have owe : run.Steps held db (db, { run with chunks := rest, owed := sizeOf chunk }) :=
    CopyRun.Steps.owe ⟨files, valid.plans, reserved⟩ rfl rfl
  unfold CopyRun.stepBatch
  cases names with
  | none => exact owe
  | some seen =>
      simp only
      generalize queryOccupiedNames seen run.targetFolderId run.userId (chunk.map File.name) = occupied
      generalize existingContents existing (splitByName occupied chunk).1 = contentIds
      split
      · exact owe
      · refine CopyRun.settle_steps rfl rfl files valid.plans reserved fun sizes after ran => ?_
        split at ran
        · cases ran
        · obtain ⟨total, posts⟩ := copyFileBatch_posts
            (fun file present => here file (splitByName_mem (List.mem_of_mem_filter present))) _ _ _ ran
          refine ⟨?_, posts⟩
          have parts := splitByName_size occupied chunk
          have existing := sizeOf_filter (splitByName occupied chunk).1 fun file =>
            contentIds.contains file.contentId
          omega

/-- The next folder of a copy is skipped and owed, or settled by its transaction. -/
theorem CopyRun.stepFolder_steps {run : CopyRun} {existing : Option Db} {fails : Bool} {db : Db}
    {occupied : List String} {plan : FolderDeletePlan} {rest : List FolderDeletePlan}
    (valid : run.Valid held) (plans : run.plans = plan :: rest) (idle : run.owed = 0) :
    run.Steps held db (run.stepFolder existing fails db occupied plan rest) := by
  have others : ∀ other ∈ rest, other.Copyable held := fun other present =>
    valid.plans other (plans ▸ List.mem_cons_of_mem plan present)
  have here : plan.Copyable held := valid.plans plan (plans ▸ List.mem_cons_self)
  have reserved : run.outstanding = (run.chunks.map sizeOf).sum +
      (rest.map FolderDeletePlan.itemSize).sum + plan.itemSize := by
    rw [valid.reserved, CopyRun.pending, plans, idle, List.map_cons, List.sum_cons]
    push_cast
    omega
  unfold CopyRun.stepFolder
  simp only
  split
  · exact CopyRun.Steps.owe ⟨valid.files, others, reserved⟩ rfl rfl
  · split
    · exact CopyRun.Steps.owe ⟨valid.files, others, reserved⟩ rfl rfl
    · split
      · exact CopyRun.Steps.owe ⟨valid.files, others, reserved⟩ rfl rfl
      · refine CopyRun.settle_steps rfl rfl valid.files others reserved fun sizes after ran => ?_
        split at ran
        · cases ran
        · exact copyFolder_posts here _ _ _ ran

/-- A folder whose names could not be read is owed as a whole. -/
theorem CopyRun.skipFolder_steps {run : CopyRun} {db : Db} {plan : FolderDeletePlan}
    {rest : List FolderDeletePlan} (valid : run.Valid held) (plans : run.plans = plan :: rest)
    (idle : run.owed = 0) :
    run.Steps held db (db, { run with plans := rest, owed := plan.itemSize }) := by
  refine CopyRun.Steps.owe ⟨valid.files, fun other present =>
    valid.plans other (plans ▸ List.mem_cons_of_mem plan present), ?_⟩ rfl rfl
  have reserved := valid.reserved
  simp only [CopyRun.pending, CopyRun.outstanding, plans, idle, List.map_cons, List.sum_cons] at reserved ⊢
  omega

theorem CopyRun.stepRelease_steps {run : CopyRun} {fails : Bool} {db : Db} (valid : run.Valid held) :
    run.Steps held db (run.stepRelease fails db) := by
  have keep : run.Steps held db (db, { run with running := false }) :=
    CopyRun.Steps.owe ⟨valid.files, valid.plans, valid.reserved⟩ rfl rfl
  unfold CopyRun.stepRelease
  split
  · exact keep
  · rename_i value after ran
    split at ran
    · cases ran
    · have left : run.outstanding - run.owed =
          (run.totalCopySize : Int) - run.actualCopySize - ((run.releasedCopySize + run.owed : Nat) : Int) := by
        simp only [CopyRun.outstanding]
        omega
      refine ⟨⟨valid.files, valid.plans, ?_⟩, rfl,
        (releaseReservedStorageChecked_posts _ _ _ ran).cast ?_⟩
      · have reserved := valid.reserved
        simp only [CopyRun.pending, CopyRun.outstanding] at reserved ⊢
        push_cast at reserved ⊢
        omega
      · simp only [CopyRun.outstanding] at left ⊢
        rw [← left, post_sub]
        abel

theorem CopyRun.stepRootNames_steps {run : CopyRun} {names : Option Db} {db : Db}
    (valid : run.Valid held) : run.Steps held db (db, run.stepRootNames names) := by
  unfold CopyRun.stepRootNames
  cases names with
  | none => exact CopyRun.Steps.owe ⟨valid.files, valid.plans, valid.reserved⟩ rfl rfl
  | some seen => exact CopyRun.Steps.owe ⟨valid.files, valid.plans, valid.reserved⟩ rfl rfl

section Plan

variable {Item : Type}

theorem flatten_range_chunks (size count : Nat) (items : List Item) :
    ((List.range count).map fun index => (items.drop (index * size)).take size).flatten =
      items.take (count * size) := by
  induction count with
  | zero => simp
  | succ count ih =>
      rw [List.range_succ, List.map_append, List.flatten_append, ih, Nat.succ_mul, List.take_add]
      simp

/-- The chunks of a list are the list again. -/
theorem flatten_chunkItems {size : Nat} (positive : 0 < size) (items : List Item) :
    (chunkItems size items).flatten = items := by
  rw [chunkItems, flatten_range_chunks, List.take_of_length_le]
  have enough := Nat.lt_mul_div_succ (items.length + size - 1) positive
  rw [Nat.mul_comm, Nat.add_mul, Nat.one_mul] at enough
  omega

end Plan

theorem sum_sizeOf_flatten (chunks : List (List File)) :
    (chunks.map sizeOf).sum = sizeOf chunks.flatten := by
  induction chunks with
  | nil => rfl
  | cons chunk rest ih =>
      rw [List.map_cons, List.sum_cons, ih, List.flatten_cons]
      simp [sizeOf]

theorem mem_readCopyChunk {read : Option Db} {userId : Nat} {fileIds : List Nat} {file : File}
    (present : file ∈ readCopyChunk read userId fileIds) :
    ∃ db, read = some db ∧ file ∈ db.files.rows := by
  cases read with
  | none => cases present
  | some db =>
      obtain ⟨fileId, -, found⟩ := List.mem_filterMap.mp present
      obtain ⟨there, -⟩ := Option.filter_eq_some_iff.mp found
      exact ⟨db, rfl, (Table.find?_some there).1⟩

/-- A copy starts with rows that were read from states of the drive. -/
theorem planCopy_valid {reads : CopyReads} {hashOrder : List Nat} {request : CopyRequest}
    {run : CopyRun}
    (file : ∀ db, (db = reads.plans ∨ some db ∈ reads.files) → ∀ file ∈ db.files.rows,
      file.Copyable held)
    (folder : ∀ folder ∈ reads.plans.folders.rows, folder.name ≠ "")
    (planned : planCopy reads hashOrder request = .ok run) :
    run.Valid held ∧ run.outstanding = run.totalCopySize := by
  unfold planCopy at planned
  simp only [bind, Except.bind] at planned
  split at planned
  · cases planned
  · split at planned
    · cases planned
    · rename_i plansResult plansRan
      cases planned
      obtain ⟨plans, after⟩ := plansResult
      obtain ⟨-, planOf⟩ := fetchBatchFolderDeletePlans_ok plansRan
      refine ⟨⟨?_, ?_, ?_⟩, ?_⟩
      · intro chunk present item inside
        have listed := List.mem_flatten_of_mem present inside
        rw [flatten_chunkItems (by decide)] at listed
        obtain ⟨pair, zipped, read⟩ := List.mem_flatMap.mp listed
        obtain ⟨db, seen, stored⟩ := mem_readCopyChunk read
        exact file db (.inr (seen ▸ (List.of_mem_zip zipped).2)) item stored
      · intro plan present
        obtain ⟨folderId, -, found⟩ := List.mem_filterMap.mp present
        have valid := planOf _ (findPlan_some found)
        obtain ⟨root, stored, -, tree⟩ := valid.top
        refine ⟨folder _ valid.root, ?_, ?_, valid.size⟩
        · exact fun other inside => folder other (mem_of_below stored ((tree other).mp inside))
        · exact fun item inside => file _ (.inl rfl) item (valid.files item inside)
      · simp only [CopyRun.outstanding, CopyRun.pending, sum_sizeOf_flatten,
          flatten_chunkItems (show 0 < defaultBatchChunkSize by decide)]
        omega
      · simp only [CopyRun.outstanding]
        omega

end DiskServer.Drive
