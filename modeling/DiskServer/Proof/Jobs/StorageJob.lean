import DiskServer.Construction.Jobs.StorageJobRepository

namespace DiskServer.Jobs

open Upload (Timestamp)

/-- A running job has a lease, and no other job has a trace of one. -/
structure StorageJob.Leased (job : StorageJob) : Prop where
  running : job.status = .running ↔ job.lockedBy.isSome ∧ job.lockedUntil.isSome
  free : job.status ≠ .running → job.lockedBy = none ∧ job.lockedUntil = none

/-- An update writes the job that it selects and leaves the lease rule intact. -/
structure Writes (job written : StorageJob) : Prop where
  id : written.id = job.id
  dedupeKey : written.dedupeKey = job.dedupeKey
  leased : written.Leased

/-- A move neither counts an attempt nor hands the job to a new owner, and it never touches a job
that is done. -/
structure Moves (job written : StorageJob) : Prop extends Writes job written where
  attempts : written.attempts = job.attempts
  maxAttempts : written.maxAttempts = job.maxAttempts
  owner : ∀ owner, written.lockedBy = some owner → job.lockedBy = some owner
  live : job.status ≠ .succeeded ∧ job.status ≠ .deadLetter

/-- Arming gives a finished job a fresh set of attempts. -/
structure Arms (job written : StorageJob) : Prop extends Writes job written where
  attempts : written.attempts = 0
  owner : written.lockedBy = none

/-- A claim counts one more attempt and makes the instance the owner. -/
structure Claims (instanceId : String) (job written : StorageJob) : Prop extends Writes job written where
  room : job.attempts < job.maxAttempts
  attempts : written.attempts = job.attempts + 1
  maxAttempts : written.maxAttempts = job.maxAttempts
  owner : written.lockedBy = some instanceId
  live : job.status ≠ .succeeded ∧ job.status ≠ .deadLetter

variable {now : Timestamp} {instanceId : String} {seconds : UInt32} {job written : StorageJob}

theorem StorageJob.leased_running {owner : String} {expiry : Timestamp} (status : job.status = .running)
    (owned : job.lockedBy = some owner) (leased : job.lockedUntil = some expiry) : job.Leased where
  running := by simp [status, owned, leased]
  free := fun idle => absurd status idle

theorem StorageJob.leased_free (status : job.status ≠ .running) (owned : job.lockedBy = none)
    (leased : job.lockedUntil = none) : job.Leased where
  running := by simp [status, owned]
  free := fun _ => ⟨owned, leased⟩

theorem rearmSucceeded_arms {new : NewStorageJob}
    (rearmed : rearmSucceeded now new job = some written) :
    Arms job written ∧ job.status = .succeeded ∧ job.jobType = new.jobType ∧
      job.aggregateId = new.aggregateId := by
  unfold rearmSucceeded at rearmed
  split at rearmed
  · rename_i allowed
    obtain rfl := Option.some.inj rearmed
    exact ⟨⟨⟨rfl, rfl, StorageJob.leased_free (by simp) rfl rfl⟩, rfl, rfl⟩, allowed⟩
  · cases rearmed

theorem replay_arms (replayed : replay now job = some written) :
    Arms job written ∧ job.status = .deadLetter := by
  unfold replay at replayed
  split at replayed
  · rename_i dead
    obtain rfl := Option.some.inj replayed
    exact ⟨⟨⟨rfl, rfl, StorageJob.leased_free (by simp) rfl rfl⟩, rfl, rfl⟩, dead⟩
  · cases replayed

theorem claimReady_claims (claimed : claimReady now instanceId seconds job = some written) :
    Claims instanceId job written := by
  unfold claimReady at claimed
  split at claimed
  · rename_i ready
    obtain rfl := Option.some.inj claimed
    refine ⟨⟨rfl, rfl, StorageJob.leased_running rfl rfl rfl⟩, ready.1, rfl, rfl, rfl, ?_⟩
    rcases ready.2 with ⟨waiting | retrying, -⟩ | ⟨running, -⟩ <;> simp [*]
  · cases claimed

theorem buryExhausted_moves (buried : buryExhausted now job = some written) : Moves job written := by
  unfold buryExhausted at buried
  split at buried
  · rename_i exhausted
    obtain rfl := Option.some.inj buried
    refine ⟨⟨rfl, rfl, StorageJob.leased_free (by simp) rfl rfl⟩, rfl, rfl, by simp, ?_⟩
    rcases exhausted.2 with waiting | retrying | ⟨running, -⟩ <;> simp [*]
  · cases buried

/-- A lease is renewed by the owner only. -/
theorem renewLease_moves (renewed : renewLease now instanceId seconds job = some written) :
    Moves job written ∧ job.lockedBy = some instanceId := by
  unfold renewLease at renewed
  split at renewed
  · rename_i held
    obtain rfl := Option.some.inj renewed
    refine ⟨⟨⟨rfl, rfl, StorageJob.leased_running held.1 held.2.1 rfl⟩, rfl, rfl, ?_, ?_⟩, held.2.1⟩
    · exact fun _ owned => owned
    · simp [held.1]
  · cases renewed

/-- A success is recorded by the owner only. -/
theorem markSucceeded_moves (marked : markSucceeded instanceId job = some written) :
    Moves job written ∧ job.lockedBy = some instanceId := by
  unfold markSucceeded at marked
  split at marked
  · rename_i held
    obtain rfl := Option.some.inj marked
    refine ⟨⟨⟨rfl, rfl, StorageJob.leased_free (by simp) rfl rfl⟩, rfl, rfl, by simp, ?_⟩, held.2⟩
    simp [held.1]
  · cases marked

/-- A failure is recorded by the owner only. -/
theorem markFailed_moves {error : String} {retryable : Bool} {delay : UInt32}
    (marked : markFailed now instanceId error retryable delay job = some written) :
    Moves job written ∧ job.lockedBy = some instanceId := by
  unfold markFailed at marked
  split at marked
  · rename_i held
    obtain rfl := Option.some.inj marked
    have stopped : ∀ again : Bool, (if again then StorageJobStatus.retry else .deadLetter) ≠ .running := by
      decide
    refine ⟨⟨⟨rfl, rfl, StorageJob.leased_free ?_ rfl rfl⟩, rfl, rfl, by simp, ?_⟩, held.2⟩
    · simpa using stopped (retryable ∧ job.attempts < job.maxAttempts)
    · simp [held.1]
  · cases marked

theorem claimReady_unresolved (claimed : claimReady now instanceId seconds job = some written) :
    written.status ≠ .succeeded := by
  unfold claimReady at claimed
  split at claimed
  · obtain rfl := Option.some.inj claimed
    simp
  · cases claimed

theorem buryExhausted_unresolved (buried : buryExhausted now job = some written) :
    written.status ≠ .succeeded := by
  unfold buryExhausted at buried
  split at buried
  · obtain rfl := Option.some.inj buried
    simp
  · cases buried

theorem renewLease_unresolved (renewed : renewLease now instanceId seconds job = some written) :
    written.status ≠ .succeeded := by
  unfold renewLease at renewed
  split at renewed
  · rename_i held
    obtain rfl := Option.some.inj renewed
    simp [held.1]
  · cases renewed

theorem markFailed_unresolved {error : String} {retryable : Bool} {delay : UInt32}
    (marked : markFailed now instanceId error retryable delay job = some written) :
    written.status ≠ .succeeded := by
  unfold markFailed at marked
  split at marked
  · obtain rfl := Option.some.inj marked
    simp only
    split <;> simp
  · cases marked

theorem replay_unresolved (replayed : replay now job = some written) : written.status ≠ .succeeded := by
  unfold replay at replayed
  split at replayed
  · obtain rfl := Option.some.inj replayed
    simp
  · cases replayed

section Journal

variable {sha256 : String → String} {descriptor : MultipartUploadDescriptor}

theorem journalOwns_running (owns : journalOwns sha256 instanceId descriptor job = true) :
    job.status = .running ∧ job.lockedBy = some (ownerFor sha256 instanceId descriptor) := by
  simp only [journalOwns, Bool.and_eq_true, decide_eq_true_eq] at owns
  exact ⟨owns.1.2, owns.2⟩

theorem journalRenew_moves
    (renewed : journalRenew sha256 now instanceId seconds descriptor job = some written) :
    Moves job written := by
  unfold journalRenew at renewed
  split at renewed
  · rename_i held
    obtain rfl := Option.some.inj renewed
    obtain ⟨running, owned⟩ := journalOwns_running held.1
    refine ⟨⟨rfl, rfl, StorageJob.leased_running running owned rfl⟩, rfl, rfl, ?_, ?_⟩
    · exact fun _ owned => owned
    · simp [running]
  · cases renewed

theorem journalResolve_moves
    (resolved : journalResolve sha256 instanceId descriptor job = some written) : Moves job written := by
  unfold journalResolve at resolved
  split at resolved
  · rename_i owns
    obtain rfl := Option.some.inj resolved
    refine ⟨⟨rfl, rfl, StorageJob.leased_free (by simp) rfl rfl⟩, rfl, rfl, by simp, ?_⟩
    simp [(journalOwns_running owns).1]
  · cases resolved

theorem journalReleaseForRetry_moves {error : String}
    (released : journalReleaseForRetry sha256 now instanceId descriptor error job = some written) :
    Moves job written := by
  unfold journalReleaseForRetry at released
  split at released
  · rename_i owns
    obtain rfl := Option.some.inj released
    refine ⟨⟨rfl, rfl, StorageJob.leased_free (by simp) rfl rfl⟩, rfl, rfl, by simp, ?_⟩
    simp [(journalOwns_running owns).1]
  · cases released

theorem journalRenew_unresolved
    (renewed : journalRenew sha256 now instanceId seconds descriptor job = some written) :
    written.status ≠ .succeeded := by
  unfold journalRenew at renewed
  split at renewed
  · rename_i held
    obtain rfl := Option.some.inj renewed
    simp [(journalOwns_running held.1).1]
  · cases renewed

theorem journalReleaseForRetry_unresolved {error : String}
    (released : journalReleaseForRetry sha256 now instanceId descriptor error job = some written) :
    written.status ≠ .succeeded := by
  unfold journalReleaseForRetry at released
  split at released
  · obtain rfl := Option.some.inj released
    simp
  · cases released

end Journal

end DiskServer.Jobs
