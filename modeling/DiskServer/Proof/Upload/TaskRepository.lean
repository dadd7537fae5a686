import DiskServer.Construction.Upload.TaskRepository

namespace DiskServer.Upload

theorem SameTask.refl (task : UploadTask) : SameTask task task := ⟨rfl, rfl, rfl, rfl, rfl, rfl, rfl⟩

theorem SameTask.trans {first second third : UploadTask} (one : SameTask first second)
    (two : SameTask second third) : SameTask first third :=
  ⟨two.id.trans one.id, two.userId.trans one.userId, two.folderId.trans one.folderId,
    two.filename.trans one.filename, two.fileSize.trans one.fileSize,
    two.fileHash.trans one.fileHash, two.reservedBytes.trans one.reservedBytes⟩

/-- A statement either keeps the status and version or makes one allowed move to a later version. -/
def Evolves (task next : UploadTask) : Prop :=
  (next.status = task.status ∧ next.stateVersion = task.stateVersion) ∨
    (StatusMove task.status next.status ∧ task.stateVersion < next.stateVersion)

theorem Evolves.refl (task : UploadTask) : Evolves task task := .inl ⟨rfl, rfl⟩

theorem Evolves.version_le {task next : UploadTask} (evolves : Evolves task next) :
    task.stateVersion ≤ next.stateVersion := by
  rcases evolves with ⟨-, same⟩ | ⟨-, later⟩ <;> omega

/-- The status stays or takes an allowed move. -/
theorem Evolves.status_move {task next : UploadTask} (evolves : Evolves task next) :
    next.status = task.status ∨ StatusMove task.status next.status := by
  rcases evolves with ⟨same, -⟩ | ⟨moved, -⟩
  · exact .inl same
  · exact .inr moved

theorem Evolves.terminal {task next : UploadTask} (evolves : Evolves task next)
    (terminal : isTerminalStatus task.status = true) : next.status = task.status := by
  rcases evolves.status_move with same | moved
  · exact same
  · rw [moved.not_terminal] at terminal
    cases terminal

/-- A task is active exactly while its status is not terminal. -/
theorem active_eq (task : UploadTask) : task.active = !isTerminalStatus task.status := by
  unfold UploadTask.active
  cases task.status <;> rfl

variable {now : Timestamp} {userId expectedStateVersion : Nat} {leaseOwner : String}
  {seconds : UInt32} {task next : UploadTask}

theorem claimFinalizeLease_some {chunks : List UploadTaskChunk}
    (claimed : claimFinalizeLease now userId leaseOwner seconds chunks task = some next) :
    StatusMove task.status next.status ∧ next.status = .finalizing ∧
      next.stateVersion = task.stateVersion + 1 ∧ next.leaseOwner = some leaseOwner := by
  unfold claimFinalizeLease at claimed
  split at claimed
  · rename_i selected
    cases claimed
    refine ⟨?_, rfl, rfl, rfl⟩
    rcases selected.2 with ⟨status, -⟩ | ⟨status, -⟩
    · rw [status]
      exact .claim
    · rw [status]
      exact .renew
  · cases claimed

/-- The lease check compares the owner and the version with the stored pair. -/
theorem leaseOwned_spec (owned : leaseOwned now userId leaseOwner expectedStateVersion task = true) :
    task.userId = userId ∧ task.status = .finalizing ∧ task.leaseOwner = some leaseOwner ∧
      task.stateVersion = expectedStateVersion ∧ leaseAlive now task = true := by
  simp only [leaseOwned, Bool.and_eq_true, beq_iff_eq] at owned
  obtain ⟨⟨⟨⟨user, status⟩, owner⟩, version⟩, alive⟩ := owned
  exact ⟨user, status, owner, version, alive⟩

theorem renewFinalizeLease_some
    (renewed : renewFinalizeLease now userId leaseOwner expectedStateVersion seconds task = some next) :
    task.status = .finalizing ∧ task.leaseOwner = some leaseOwner ∧
      task.stateVersion = expectedStateVersion ∧ next.status = .finalizing ∧
      next.stateVersion = task.stateVersion + 1 := by
  unfold renewFinalizeLease at renewed
  split at renewed
  · rename_i owned
    obtain ⟨-, status, owner, version, -⟩ := leaseOwned_spec owned
    cases renewed
    exact ⟨status, owner, version, status, rfl⟩
  · cases renewed

theorem markCompletedIfLeaseOwned_some {completedFileId : Nat}
    (completed : markCompletedIfLeaseOwned now userId leaseOwner expectedStateVersion completedFileId
      task = some next) :
    task.status = .finalizing ∧ next.status = .completed ∧
      next.stateVersion = task.stateVersion + 1 := by
  unfold markCompletedIfLeaseOwned at completed
  split at completed
  · rename_i owned
    cases completed
    exact ⟨(leaseOwned_spec owned).2.1, rfl, rfl⟩
  · cases completed

theorem recordFinalizeErrorIfLeaseOwned_some {errorCode : Int}
    (recorded : recordFinalizeErrorIfLeaseOwned now userId leaseOwner expectedStateVersion errorCode
      task = some next) :
    next.status = task.status ∧ next.stateVersion = task.stateVersion := by
  unfold recordFinalizeErrorIfLeaseOwned at recorded
  split at recorded
  · cases recorded
    exact ⟨rfl, rfl⟩
  · cases recorded

theorem markCancelledIfInProgress_some {failReason : String}
    (cancelled : markCancelledIfInProgress now userId failReason task = some next) :
    StatusMove task.status next.status ∧ next.status = .cancelled ∧
      task.stateVersion < next.stateVersion := by
  unfold markCancelledIfInProgress at cancelled
  split at cancelled
  · rename_i selected
    cases cancelled
    refine ⟨?_, rfl, Nat.lt_succ_self _⟩
    rw [selected.2.1]
    exact .cancel
  · cases cancelled

theorem markExpiredIfInProgress_some {failReason : String}
    (expired : markExpiredIfInProgress now failReason task = some next) :
    StatusMove task.status next.status ∧ next.status = .expired ∧
      task.stateVersion < next.stateVersion := by
  unfold markExpiredIfInProgress at expired
  split at expired
  · rename_i selected
    cases expired
    refine ⟨?_, rfl, Nat.lt_succ_self _⟩
    rw [selected.1]
    exact .expire
  · cases expired

theorem releaseUploadLease_some
    (released : releaseUploadLease now leaseOwner expectedStateVersion task = some next) :
    StatusMove task.status next.status ∧ next.status = .finalizing ∧
      task.stateVersion < next.stateVersion := by
  unfold releaseUploadLease at released
  split at released
  · rename_i selected
    cases released
    refine ⟨?_, selected.1, Nat.lt_succ_self _⟩
    change StatusMove task.status task.status
    rw [selected.1]
    exact .renew
  · cases released

end DiskServer.Upload
