import DiskServer.Proof.Drive.ContentService
import DiskServer.Proof.Drive.QuotaService

namespace DiskServer.Drive

open Library Transaction Upload

variable {extra : Nat → Nat → Prop} {before after : Db}

theorem taskCharge_congr {task next : UploadTask} (same : SameTask task next)
    (active : next.active = task.active) : taskCharge next = taskCharge task := by
  simp only [taskCharge, active, same.id, same.userId, same.reservedBytes]

/-- A row statement on one task posts what it takes from the charge of the row. -/
theorem updateTask_posts {uploadId : String} {change : UploadTask → Option UploadTask}
    {keeps : Keeps change} {written : Option UploadTask}
    (ran : (updateTask uploadId change keeps).run before = .ok (written, after)) :
    (written = none ∧ after = before) ∨
      ∃ task next, written = some next ∧ before.tasks.find? uploadId = some task ∧
        change task = some next ∧ Posts extra (taskCharge task - taskCharge next) before after := by
  have rest := get_bind_ok ran
  cases found : before.tasks.find? uploadId with
  | none =>
      simp only [found] at rest
      exact .inl (pure_ok rest)
  | some task =>
      simp only [found] at rest
      cases changed : change task with
      | none =>
          simp only [changed] at rest
          exact .inl (pure_ok rest)
      | some next =>
          simp only [changed] at rest
          obtain ⟨rfl, rfl⟩ := set_pure_ok rest
          have same : ∀ row, SameTask row ((change row).getD row) := by
            intro row
            cases got : change row with
            | none => exact SameTask.refl row
            | some other => exact keeps row other got
          refine .inr ⟨task, next, rfl, rfl, changed, Posts.ofTasks ?_ ?_ ?_⟩
          · refine (sum_map_update taskCharge _ _ before.tasks.rows).trans ?_
            rw [Table.filter_key_of_find? found]
            simp only [List.map_cons, List.map_nil, List.sum_cons, List.sum_nil, changed,
              Option.getD_some]
            abel
          · intro row present
            refine ⟨_, List.mem_map_of_mem present, ?_⟩
            split
            · exact same row
            · exact SameTask.refl row
          · intro row present
            obtain ⟨old, there, rfl⟩ := List.mem_map.mp present
            refine .inl ⟨old, there, ?_⟩
            split
            · exact same old
            · exact SameTask.refl old

/-- A statement that moves a task to finalizing leaves it active. -/
theorem active_of_finalizing {task next : UploadTask} (moved : StatusMove task.status next.status)
    (finalizing : next.status = .finalizing) : next.active = task.active := by
  rw [active_eq, active_eq, moved.not_terminal, finalizing]
  rfl

theorem TaskStatement.active {statement : TaskStatement} {db : Db} {uploadId : String}
    {task next : UploadTask} (changed : statement.change db uploadId task = some next) :
    next.active = task.active := by
  cases statement with
  | claim =>
      obtain ⟨moved, finalizing, -⟩ := claimFinalizeLease_some changed
      exact active_of_finalizing moved finalizing
  | renew =>
      obtain ⟨finalizing, -, -, still, -⟩ := renewFinalizeLease_some changed
      rw [active_eq, active_eq, finalizing, still]
  | recordError =>
      obtain ⟨same, -⟩ := recordFinalizeErrorIfLeaseOwned_some changed
      rw [active_eq, active_eq, same]
  | releaseLease =>
      obtain ⟨moved, finalizing, -⟩ := releaseUploadLease_some changed
      exact active_of_finalizing moved finalizing

theorem runTaskStatement_posts {statement : TaskStatement} {uploadId : String} :
    Ensures (runTaskStatement statement uploadId) fun before _ after => Posts extra 0 before after := by
  intro before written after ran
  have rest := get_bind_ok ran
  rcases updateTask_posts rest with ⟨-, rfl⟩ | ⟨task, next, -, -, changed, posts⟩
  · exact Posts.refl _
  · refine posts.cast ?_
    rw [taskCharge_congr (statement.change_keeps _ _ task next changed) (TaskStatement.active changed),
      sub_self]

theorem recordChunk_posts {uploadId : String} {userId chunkIndex sizeBytes : Nat}
    {hashMd5 objectKey etag : String} :
    Ensures (recordChunk uploadId userId chunkIndex sizeBytes hashMd5 objectKey etag)
      fun before _ after => Posts extra 0 before after := by
  intro before disposition after ran
  have rest := get_bind_ok ran
  split at rest
  · obtain ⟨-, rfl⟩ := pure_ok rest
    exact Posts.refl _
  · obtain ⟨-, rfl⟩ := set_pure_ok rest
    exact Posts.ofOthers _ _ _ _

theorem countNewItem_posts {folderId userId : Nat} :
    Ensures (countNewItem folderId userId) fun before _ after => Posts extra 0 before after := by
  intro before value after ran
  unfold countNewItem at ran
  split at ran
  · obtain ⟨_, counted, -⟩ := bind_pure_ok ran
    exact applyItemCountDelta_posts _ _ _ counted
  · obtain ⟨-, rfl⟩ := pure_ok ran
    exact Posts.refl _

/-- An instant upload takes the size from the client and nothing from the content. -/
theorem instantUpload_posts {command : InitUploadCommand} {content : FileContent}
    (valid : command.valid = true) (allowed : extra content.id command.fileSize) :
    Ensures (instantUpload command content) fun before _ after => Posts extra 0 before after := by
  intro before fileId after ran
  have named : command.filename ≠ "" := by
    intro empty
    simp [InitUploadCommand.valid, empty] at valid
  have rest := get_bind_ok ran
  split at rest
  · exact (throw_ok rest).elim
  · obtain ⟨_, charged, consumed, rest₁⟩ := bind_ok rest
    obtain ⟨_, counted, incremented, rest₂⟩ := bind_ok rest₁
    obtain ⟨location, resolved, resolving, rest₃⟩ := bind_ok rest₂
    obtain rfl := resolveOwnedFolderLocation_ok resolving
    obtain ⟨newId, inserted, inserting, rest₄⟩ := bind_ok rest₃
    obtain ⟨_, counting, -⟩ := bind_pure_ok rest₄
    refine ((((consumeUsedStorage_posts _ _ _ consumed).trans
      (incrementRefCount_posts _ _ _ incremented)).trans
      (insertFileRecord_posts named allowed _ _ _ inserting)).trans
      (countNewItem_posts _ _ _ counting)).cast ?_
    simp only [entryCharge, Nat.cast_one]
    abel

/-- A new task reserves what it is charged for. -/
theorem insertNew_rows {task : UploadTask} {stored tasks : Table UploadTask UploadTask.id}
    (inserted : stored.insertNew task = some tasks) : tasks.rows = stored.rows ++ [task] := by
  unfold Table.insertNew at inserted
  split at inserted <;> cases inserted
  rfl

/-- A new task owes the reservation that its transaction has made. -/
theorem insertNew_posts {command : InitUploadCommand} {session : StagingSession}
    {tasks : Table UploadTask UploadTask.id} (valid : command.valid = true)
    (inserted : before.tasks.insertNew (create before.now (newUploadTask command session)) = some tasks) :
    Posts extra (-post (.reserved command.userId) command.fileSize) before
      { before with tasks := tasks } := by
  have named : command.filename ≠ "" := by
    intro empty
    simp [InitUploadCommand.valid, empty] at valid
  have rows := insertNew_rows inserted
  apply Posts.ofTasks
  · rw [rows, List.map_append, List.sum_append, sub_neg_eq_add]
    simp [taskCharge, create, newUploadTask, UploadTask.active]
  · intro task present
    exact ⟨task, rows ▸ List.mem_append_left _ present, SameTask.refl task⟩
  · intro task present
    rw [rows, List.mem_append, List.mem_singleton] at present
    rcases present with old | rfl
    · exact .inl ⟨task, old, SameTask.refl task⟩
    · exact .inr ⟨named, rfl⟩

theorem createUploadTask_posts {command : InitUploadCommand} {session : StagingSession}
    (valid : command.valid = true) :
    Ensures (createUploadTask command session) fun before _ after => Posts extra 0 before after := by
  intro before created after ran
  have rest := get_bind_ok ran
  split at rest
  · obtain ⟨-, rfl⟩ := pure_ok rest
    exact Posts.refl _
  · obtain ⟨_, reserved, reserving, rest₁⟩ := bind_ok rest
    have rest₂ := get_bind_ok rest₁
    have reservation := @reserveStorage_posts extra _ _ _ _ _ reserving
    cases inserted : reserved.tasks.insertNew (create reserved.now (newUploadTask command session)) with
    | none =>
        simp only [inserted] at rest₂
        exact (throw_ok rest₂).elim
    | some tasks =>
        simp only [inserted] at rest₂
        obtain ⟨-, rfl⟩ := set_pure_ok rest₂
        exact (reservation.trans (insertNew_posts valid inserted)).cast (by abel)

theorem deleteChunks_posts {uploadId : String} :
    Ensures (deleteChunks uploadId) fun before _ after => Posts extra 0 before after := by
  intro before value after ran
  obtain rfl := modify_ok ran
  exact Posts.ofOthers _ _ _ _

/-- The renew inside the final transaction keeps the charge of the task. -/
theorem renewInTransaction_posts {command : FinalizeCommand} {stateVersion : Nat}
    (ran : (renewInTransaction command).run before = .ok (stateVersion, after)) :
    (∃ task ∈ before.tasks.rows, task.id = command.uploadId) ∧ Posts extra 0 before after := by
  have rest := get_bind_ok ran
  obtain ⟨written, last, updating, rest₁⟩ := bind_ok rest
  rcases updateTask_posts updating with ⟨rfl, -⟩ | ⟨task, next, rfl, found, changed, posts⟩
  · exact (throw_ok rest₁).elim
  · obtain ⟨-, rfl⟩ := pure_ok rest₁
    refine ⟨⟨task, Table.find?_some found⟩, posts.cast ?_⟩
    obtain ⟨finalizing, -, -, still, -⟩ := renewFinalizeLease_some changed
    rw [taskCharge_congr (renewFinalizeLease_keeps _ _ _ _ _ task next changed)
      (by rw [active_eq, active_eq, finalizing, still]), sub_self]

/-- Completing a task turns its reservation into one settlement. -/
theorem markCompleted_posts {command : FinalizeCommand} {stateVersion fileId : Nat}
    {completed : UploadTask}
    (ran : (markCompleted command stateVersion fileId).run before = .ok (completed, after)) :
    ∃ task ∈ before.tasks.rows, task.id = command.uploadId ∧ task.userId = command.userId ∧
      Posts extra (post (.reserved command.userId) task.reservedBytes +
        post (.settled command.uploadId) 1) before after := by
  have rest := get_bind_ok ran
  obtain ⟨written, last, updating, rest₁⟩ := bind_ok rest
  rcases updateTask_posts updating with ⟨rfl, -⟩ | ⟨task, next, rfl, found, changed, posts⟩
  · exact (throw_ok rest₁).elim
  · obtain ⟨-, rfl⟩ := pure_ok rest₁
    obtain ⟨present, keyed⟩ := Table.find?_some found
    have same := markCompletedIfLeaseOwned_keeps _ _ _ _ _ task next changed
    obtain ⟨finalizing, ended, -⟩ := markCompletedIfLeaseOwned_some changed
    have owner : task.userId = command.userId := by
      unfold markCompletedIfLeaseOwned at changed
      split at changed
      · rename_i owned
        exact (leaseOwned_spec owned).1
      · cases changed
    refine ⟨task, present, keyed, owner, posts.cast ?_⟩
    have active : task.active = true := by rw [active_eq, finalizing]; rfl
    have done : next.active = false := by rw [active_eq, ended]; rfl
    simp only [taskCharge, active, done, if_true, Bool.false_eq_true, if_false, same.id, keyed, owner,
      sub_neg_eq_add]

/-- The final transaction settles the task, and its new file has the size of the content. -/
theorem completeUpload_posts {command : FinalizeCommand} (named : command.uploadTask.filename ≠ "")
    (reserved : ∀ task ∈ before.tasks.rows, task.id = command.uploadId →
      task.reservedBytes = command.uploadTask.fileSize) {fileId : Nat}
    (ran : (completeUpload command).run before = .ok (fileId, after)) :
    ∃ contentId, Posts (fun other size => other = contentId ∧ size = command.uploadTask.fileSize)
      (post (.settled command.uploadId) 1) before after ∧
      ∀ row ∈ after.contents.rows, row.id = contentId → row.size = command.uploadTask.fileSize := by
  obtain ⟨stateVersion, renewed, renewing, rest₁⟩ := bind_ok ran
  obtain ⟨contentId, acquired, acquiring, rest₂⟩ := bind_ok rest₁
  obtain ⟨location, resolved, resolving, rest₃⟩ := bind_ok rest₂
  obtain rfl := resolveOwnedFolderLocation_ok resolving
  obtain ⟨newId, inserted, inserting, rest₄⟩ := bind_ok rest₃
  obtain ⟨_, counted, counting, rest₅⟩ := bind_ok rest₄
  obtain ⟨_, committed, committing, rest₆⟩ := bind_ok rest₅
  obtain ⟨completed, marked, marking, rest₇⟩ := bind_ok rest₆
  obtain ⟨_, queued, queueing, rest₈⟩ := bind_ok rest₇
  obtain ⟨_, deleting, -⟩ := bind_pure_ok rest₈
  let extra := fun other size => other = contentId ∧ size = command.uploadTask.fileSize
  obtain ⟨reference, bounded, sized⟩ := @acquireReference_posts extra _ _ _ _ _ acquiring
  obtain ⟨⟨old, there, oldKeyed⟩, renew⟩ := @renewInTransaction_posts extra _ _ _ _ renewing
  have insert := @insertFileRecord_posts extra _ named ⟨rfl, rfl⟩ _ _ _ inserting
  have count := @countNewItem_posts extra _ _ _ _ _ counting
  have commit := @commitReservedToUsed_posts extra _ _ _ _ _ committing
  obtain ⟨task, present, keyed, owner, mark⟩ := @markCompleted_posts extra _ _ _ _ _ _ marking
  have queue := @enqueue_posts extra _ _ _ _ queueing
  have delete := @deleteChunks_posts extra _ _ _ _ deleting
  have tail := (((insert.trans count).trans commit).trans mark).trans (queue.trans delete)
  have whole := (renew.trans reference).trans tail
  refine ⟨contentId, whole.cast ?_, ?_⟩
  · have early := renew.trans (reference.trans ((insert.trans count).trans commit))
    have bytes : task.reservedBytes = command.uploadTask.fileSize := by
      obtain ⟨next, here, same⟩ := early.precedes.tasks old there
      have one : next = task :=
        committed.tasks.eq_of_key here present ((same.id.trans oldKeyed).trans keyed.symm)
      rw [← one, same.reservedBytes]
      exact reserved old there oldKeyed
    simp only [entryCharge, bytes]
    abel
  · intro row stored same
    obtain ⟨content, earlier, contentKey, contentSize⟩ :=
      tail.precedes.contents row stored (same ▸ bounded)
    rw [← contentSize]
    exact sized content earlier (contentKey.trans same)

/-- Ending a task without a file gives its reservation back. -/
theorem releaseTask_posts {task : UploadTask} {userId : Nat} :
    Ensures (releaseTask task userId) fun before _ after =>
      Posts extra (-post (.reserved userId) task.reservedBytes) before after := by
  intro before value after ran
  obtain ⟨_, released, releasing, rest₁⟩ := bind_ok ran
  obtain ⟨_, queued, queueing, deleting⟩ := bind_ok rest₁
  refine (((releaseReservedStorageChecked_posts _ _ _ releasing).trans
    (enqueue_posts _ _ _ queueing)).trans (deleteChunks_posts _ _ _ deleting)).cast ?_
  rw [add_zero, add_zero]

section Ending

variable {uploadId : String} {userId : Nat}

/-- A task that ends while in progress frees its reservation and is settled once. -/
theorem endTask_posts {task next : UploadTask} {ended last : Db} {value : Unit}
    (found : before.tasks.find? uploadId = some task) (same : SameTask task next)
    (moved : StatusMove task.status next.status) (terminal : isTerminalStatus next.status = true)
    (posts : Posts extra (taskCharge task - taskCharge next) before ended)
    (released : (releaseTask next task.userId).run ended = .ok (value, last)) :
    Posts extra (post (.settled uploadId) 1) before last := by
  refine (posts.trans (releaseTask_posts _ _ _ released)).cast ?_
  obtain ⟨-, keyed⟩ := Table.find?_some found
  have active : task.active = true := by rw [active_eq, moved.not_terminal]; rfl
  have done : next.active = false := by rw [active_eq, terminal]; rfl
  simp only [taskCharge, active, done, if_true, Bool.false_eq_true, if_false, same.id, keyed,
    same.reservedBytes]
  abel

theorem cancelInProgressUpload_posts {version : Option Nat}
    (ran : (cancelInProgressUpload uploadId userId).run before = .ok (version, after)) :
    Posts extra (if version.isSome then post (.settled uploadId) 1 else 0) before after := by
  have rest := get_bind_ok ran
  obtain ⟨written, ended, updating, rest₁⟩ := bind_ok rest
  rcases updateTask_posts updating with ⟨rfl, rfl⟩ | ⟨task, next, rfl, found, changed, posts⟩
  · obtain ⟨rfl, rfl⟩ := pure_ok rest₁
    exact Posts.refl _
  · obtain ⟨_, releasing, rfl⟩ := bind_pure_ok rest₁
    obtain ⟨moved, cancelled, -⟩ := markCancelledIfInProgress_some changed
    have owner : userId = task.userId := by
      unfold markCancelledIfInProgress at changed
      split at changed
      · rename_i selected
        exact selected.1.symm
      · cases changed
    rw [owner] at releasing
    exact endTask_posts found (markCancelledIfInProgress_keeps _ _ _ task next changed) moved
      (by rw [cancelled]; rfl) posts releasing

theorem expireInProgressUpload_posts {version : Option Nat}
    (ran : (expireInProgressUpload uploadId).run before = .ok (version, after)) :
    Posts extra (if version.isSome then post (.settled uploadId) 1 else 0) before after := by
  have rest := get_bind_ok ran
  obtain ⟨written, ended, updating, rest₁⟩ := bind_ok rest
  rcases updateTask_posts updating with ⟨rfl, rfl⟩ | ⟨task, next, rfl, found, changed, posts⟩
  · obtain ⟨rfl, rfl⟩ := pure_ok rest₁
    exact Posts.refl _
  · obtain ⟨_, releasing, rfl⟩ := bind_pure_ok rest₁
    obtain ⟨moved, expired, -⟩ := markExpiredIfInProgress_some changed
    have same := markExpiredIfInProgress_keeps _ _ task next changed
    rw [same.userId] at releasing
    exact endTask_posts found same moved (by rw [expired]; rfl) posts releasing

end Ending

end DiskServer.Drive
