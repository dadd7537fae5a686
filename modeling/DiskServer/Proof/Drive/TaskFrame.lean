import DiskServer.Construction.Drive.UploadInit
import DiskServer.Proof.Drive.RequestFrame
import DiskServer.Proof.Drive.System

namespace DiskServer.Drive

open Library Transaction Upload

/-- Every task was there before with the same columns, and none has become active again. -/
def TasksSettle (before after : Db) : Prop :=
  ∀ task ∈ after.tasks.rows, ∃ old ∈ before.tasks.rows,
    SameTask old task ∧ (task.active = true → old.active = true)

namespace TasksSettle

theorem same {before after : Db} (kept : after.tasks = before.tasks) : TasksSettle before after := by
  intro task present
  rw [kept] at present
  exact ⟨task, present, SameTask.refl task, id⟩

theorem trans {first second third : Db} (one : TasksSettle first second)
    (two : TasksSettle second third) : TasksSettle first third := by
  intro task present
  obtain ⟨middle, there, same, still⟩ := two task present
  obtain ⟨old, here, again, active⟩ := one middle there
  exact ⟨old, here, again.trans same, fun now => active (still now)⟩

end TasksSettle

section Statements

variable {uploadId : String} {userId : Nat}

theorem active_of_move {task next : UploadTask} (moved : StatusMove task.status next.status) :
    task.active = true := by
  rw [active_eq, moved.not_terminal]
  rfl

theorem updateTask_settles {change : UploadTask → Option UploadTask} {keeps : Keeps change}
    (still : ∀ task next, change task = some next → next.active = true → task.active = true) :
    Ensures (updateTask uploadId change keeps) fun before _ after => TasksSettle before after := by
  intro before written after ran
  have rest := get_bind_ok ran
  split at rest
  · obtain ⟨-, rfl⟩ := pure_ok rest
    exact TasksSettle.same rfl
  · split at rest
    · obtain ⟨-, rfl⟩ := pure_ok rest
      exact TasksSettle.same rfl
    · obtain ⟨-, rfl⟩ := set_pure_ok rest
      intro row present
      obtain ⟨old, there, rfl⟩ := List.mem_map.mp present
      refine ⟨old, there, ?_⟩
      split
      · cases changed : change old with
        | none =>
            simp only [changed, Option.getD_none]
            exact ⟨SameTask.refl old, id⟩
        | some next =>
            simp only [changed, Option.getD_some]
            exact ⟨keeps old next changed, still old next changed⟩
      · exact ⟨SameTask.refl old, id⟩

theorem runTaskStatement_settles {statement : TaskStatement} :
    Ensures (runTaskStatement statement uploadId) fun before _ after => TasksSettle before after := by
  intro before written after ran
  have rest := get_bind_ok ran
  refine updateTask_settles (fun task next changed active => ?_) _ _ _ rest
  rwa [← TaskStatement.active changed]

theorem renewInTransaction_settles {command : FinalizeCommand} :
    Ensures (renewInTransaction command) fun before _ after => TasksSettle before after := by
  intro before version after ran
  have rest := get_bind_ok ran
  obtain ⟨renewed, wrote, renewing, checked⟩ := bind_ok rest
  have settles := updateTask_settles (fun task next changed _ => by
    rw [active_eq, (renewFinalizeLease_some changed).1]
    rfl) _ _ _ renewing
  split at checked
  · exact (throw_ok checked).elim
  · obtain ⟨-, rfl⟩ := pure_ok checked
    exact settles

theorem markCompleted_settles {command : FinalizeCommand} {stateVersion fileId : Nat} :
    Ensures (markCompleted command stateVersion fileId) fun before _ after =>
      TasksSettle before after := by
  intro before completed after ran
  have rest := get_bind_ok ran
  obtain ⟨written, wrote, marking, checked⟩ := bind_ok rest
  have settles := updateTask_settles (fun task next changed _ => by
    rw [active_eq, (markCompletedIfLeaseOwned_some changed).1]
    rfl) _ _ _ marking
  split at checked
  · exact (throw_ok checked).elim
  · obtain ⟨-, rfl⟩ := pure_ok checked
    exact settles

theorem deleteChunks_tasks : KeepsFrame Db.tasks (deleteChunks uploadId) :=
  keepsFrame_modify fun _ => rfl

theorem recordChunk_tasks {chunkIndex sizeBytes : Nat} {hashMd5 objectKey etag : String} :
    KeepsFrame Db.tasks
      (recordChunk uploadId userId chunkIndex sizeBytes hashMd5 objectKey etag) := by
  refine keepsFrame_get_bind fun before => ?_
  split
  · exact keepsFrame_pure _ before
  · exact keepsFrameAt_bind (keepsFrameAt_set rfl) fun _ => keepsFrame_pure _

theorem releaseTask_tasks {task : UploadTask} : KeepsFrame Db.tasks (releaseTask task userId) := by
  refine keepsFrame_bind releaseReservedStorageChecked_keeps fun _ => ?_
  exact keepsFrame_bind enqueue_keeps fun _ => deleteChunks_tasks

theorem cancelInProgressUpload_settles :
    Ensures (cancelInProgressUpload uploadId userId) fun before _ after =>
      TasksSettle before after := by
  intro before version after ran
  have rest := get_bind_ok ran
  obtain ⟨written, wrote, cancelling, later⟩ := bind_ok rest
  have settles := updateTask_settles (fun task next changed _ =>
    active_of_move (markCancelledIfInProgress_some changed).1) _ _ _ cancelling
  split at later
  · obtain ⟨-, rfl⟩ := pure_ok later
    exact settles
  · obtain ⟨_, releasing, -⟩ := bind_pure_ok later
    exact settles.trans (TasksSettle.same (releaseTask_tasks _ _ _ releasing))

theorem expireInProgressUpload_settles :
    Ensures (expireInProgressUpload uploadId) fun before _ after => TasksSettle before after := by
  intro before version after ran
  have rest := get_bind_ok ran
  obtain ⟨written, wrote, expiring, later⟩ := bind_ok rest
  have settles := updateTask_settles (fun task next changed _ =>
    active_of_move (markExpiredIfInProgress_some changed).1) _ _ _ expiring
  split at later
  · obtain ⟨-, rfl⟩ := pure_ok later
    exact settles
  · obtain ⟨_, releasing, -⟩ := bind_pure_ok later
    exact settles.trans (TasksSettle.same (releaseTask_tasks _ _ _ releasing))

theorem completeUpload_settles {command : FinalizeCommand} :
    Ensures (completeUpload command) fun before _ after => TasksSettle before after := by
  intro before fileId after ran
  obtain ⟨stateVersion, renewed, renewing, rest₁⟩ := bind_ok ran
  obtain ⟨contentId, acquired, acquiring, rest₂⟩ := bind_ok rest₁
  obtain ⟨location, located, locating, rest₃⟩ := bind_ok rest₂
  obtain ⟨inserted, filed, filing, rest₄⟩ := bind_ok rest₃
  obtain ⟨_, counted, counting, rest₅⟩ := bind_ok rest₄
  obtain ⟨_, committed, committing, rest₆⟩ := bind_ok rest₅
  obtain ⟨completed, marked, marking, rest₇⟩ := bind_ok rest₆
  obtain ⟨_, queued, queuing, rest₈⟩ := bind_ok rest₇
  obtain ⟨_, deleting, -⟩ := bind_pure_ok rest₈
  have early : committed.tasks = renewed.tasks := calc
    committed.tasks = counted.tasks := commitReservedToUsed_keeps _ _ _ committing
    _ = filed.tasks := countNewItem_keeps _ _ _ counting
    _ = located.tasks := insertFileRecord_keeps _ _ _ filing
    _ = acquired.tasks := resolveOwnedFolderLocation_keeps _ _ _ locating
    _ = renewed.tasks := acquireReference_keeps _ _ _ acquiring
  have late : after.tasks = marked.tasks := calc
    after.tasks = queued.tasks := deleteChunks_tasks _ _ _ deleting
    _ = marked.tasks := enqueue_keeps _ _ _ queuing
  have first := renewInTransaction_settles _ _ _ renewing
  have second := markCompleted_settles _ _ _ marking
  exact ((first.trans (TasksSettle.same early)).trans second).trans (TasksSettle.same late)

end Statements

namespace World

variable {world next : World}

theorem commit_settles {Value : Type} {program : Tx Value}
    (settles : Ensures program fun before _ after => TasksSettle before after)
    (moved : world.commit program = some next) : TasksSettle world.db next.db := by
  obtain ⟨value, after, ran, rfl⟩ := commit_some moved
  exact settles _ _ _ ran

theorem commitSettling_settles {uploadId : String} {program : Tx (Option Nat)}
    (settles : Ensures program fun before _ after => TasksSettle before after)
    (moved : world.commitSettling uploadId program = some next) : TasksSettle world.db next.db := by
  unfold commitSettling at moved
  split at moved
  · rename_i version after ran
    cases moved
    exact settles _ _ _ ran
  · rename_i after ran
    cases moved
    exact settles _ _ _ ran
  · cases moved

/-- Only the create transaction adds a task, and no step makes a task active again. -/
theorem step_settles {action : DriveAction} (quiet : action.createsTask = false)
    (moved : world.step action = some next) : TasksSettle world.db next.db := by
  cases action with
  | createUploadTask => cases quiet
  | recordChunk => exact TasksSettle.same (commit_keeps recordChunk_tasks moved)
  | taskStatement => exact commit_settles runTaskStatement_settles moved
  | completeUpload request taskRead =>
      obtain ⟨seen, -, moved₁⟩ := Option.bind_eq_some_iff.mp moved
      obtain ⟨task, -, moved₂⟩ := Option.bind_eq_some_iff.mp moved₁
      refine commitSettling_settles (fun before version after ran => ?_) moved₂
      obtain ⟨fileId, completed, -⟩ := map_ok ran
      exact completeUpload_settles _ _ _ completed
  | cancelUpload => exact commitSettling_settles cancelInProgressUpload_settles moved
  | expireUpload => exact commitSettling_settles expireInProgressUpload_settles moved
  | _ => exact TasksSettle.same (step_keeps (.inr inferInstance) (.inl rfl) moved)

end World

end DiskServer.Drive
