import DiskServer.Construction.Jobs.StorageJobQueue
import DiskServer.Proof.Jobs.StorageJob

namespace DiskServer.Jobs

open Library
open Upload (Timestamp)

section Table

variable {table : JobTable} {change : StorageJob → Option StorageJob} {job written : StorageJob}

theorem JobTable.update_none : table.update (fun _ => none) = table := by
  simp [JobTable.update]

theorem JobTable.update_cases (present : written ∈ (table.update change).rows) :
    ∃ job ∈ table.rows, (change job = none ∧ written = job) ∨ change job = some written := by
  obtain ⟨job, there, rfl⟩ := List.mem_map.mp present
  refine ⟨job, there, ?_⟩
  cases changed : change job with
  | none => exact .inl ⟨rfl, rfl⟩
  | some _ => exact .inr rfl

theorem atId_some {jobId : Nat} (changed : atId jobId change job = some written) :
    job.id = jobId ∧ change job = some written := by
  unfold atId at changed
  split at changed
  · rename_i same
    exact ⟨same, changed⟩
  · cases changed

/-- A key that no lookup finds belongs to no row. -/
theorem JobTable.find?_none {dedupeKey : String} (absent : table.find? dedupeKey = none) :
    ∀ job ∈ table.rows, job.dedupeKey ≠ dedupeKey := by
  simpa [JobTable.find?] using absent

/-- Ids and keys are unique, and every row keeps the lease rule. -/
structure JobTable.Sound (table : JobTable) : Prop where
  ids : (table.rows.map StorageJob.id).Nodup
  keys : (table.rows.map StorageJob.dedupeKey).Nodup
  bounded : ∀ job ∈ table.rows, job.id < table.next
  leased : ∀ job ∈ table.rows, job.Leased

theorem JobTable.Sound.update (sound : table.Sound)
    (writes : ∀ job ∈ table.rows, ∀ written, change job = some written → Writes job written) :
    (table.update change).Sound := by
  have ids : (table.update change).rows.map StorageJob.id = table.rows.map StorageJob.id := by
    simp only [JobTable.update, List.map_map]
    refine List.map_congr_left fun job present => ?_
    cases changed : change job with
    | none => simp [changed]
    | some written => simp [changed, (writes job present written changed).id]
  have keys : (table.update change).rows.map StorageJob.dedupeKey =
      table.rows.map StorageJob.dedupeKey := by
    simp only [JobTable.update, List.map_map]
    refine List.map_congr_left fun job present => ?_
    cases changed : change job with
    | none => simp [changed]
    | some written => simp [changed, (writes job present written changed).dedupeKey]
  refine ⟨ids ▸ sound.ids, keys ▸ sound.keys, ?_, ?_⟩
  · intro written present
    obtain ⟨job, there, ⟨-, rfl⟩ | changed⟩ := JobTable.update_cases present
    · exact sound.bounded _ there
    · rw [(writes job there written changed).id]
      exact sound.bounded job there
  · intro written present
    obtain ⟨job, there, ⟨-, rfl⟩ | changed⟩ := JobTable.update_cases present
    · exact sound.leased _ there
    · exact (writes job there written changed).leased

/-- A row that an insert adds starts a new job. -/
structure Starts (table : JobTable) (job : StorageJob) : Prop where
  id : job.id = table.next
  fresh : ∀ other ∈ table.rows, other.dedupeKey ≠ job.dedupeKey
  leased : job.Leased
  attempts : job.attempts = 0

theorem JobTable.Sound.insert (sound : table.Sound) (starts : Starts table job) :
    (JobTable.mk (table.rows ++ [job]) (table.next + 1)).Sound where
  ids := by
    rw [List.map_append, List.nodup_append]
    refine ⟨sound.ids, by simp, ?_⟩
    intro first present second only
    obtain ⟨other, there, rfl⟩ := List.mem_map.mp present
    obtain rfl : second = job.id := by simpa using only
    rw [starts.id]
    exact Nat.ne_of_lt (sound.bounded other there)
  keys := by
    rw [List.map_append, List.nodup_append]
    refine ⟨sound.keys, by simp, ?_⟩
    intro first present second only
    obtain ⟨other, there, rfl⟩ := List.mem_map.mp present
    obtain rfl : second = job.dedupeKey := by simpa using only
    exact starts.fresh other there
  bounded := by
    intro other present
    rcases List.mem_append.mp present with old | new
    · exact Nat.lt_succ_of_lt (sound.bounded other old)
    · obtain rfl : other = job := by simpa using new
      rw [starts.id]
      exact Nat.lt_succ_self _
  leased := by
    intro other present
    rcases List.mem_append.mp present with old | new
    · exact sound.leased other old
    · obtain rfl : other = job := by simpa using new
      exact starts.leased

end Table

/-- A row is armed by re-enqueueing its finished job or by replaying its dead letter. -/
def ArmedBy (action : QueueAction) (job : StorageJob) : Prop :=
  (∃ now new, action = .enqueueOrRearmSucceeded now new ∧ job.status = .succeeded ∧
      job.dedupeKey = new.dedupeKey ∧ job.jobType = new.jobType ∧ job.aggregateId = new.aggregateId) ∨
    ∃ now, action = .replay now job.id ∧ job.status = .deadLetter

/-- The four kinds of things that one action does to the queue. -/
inductive Effect (queue : Queue) (action : QueueAction) : Queue → Prop
  | moved (change : StorageJob → Option StorageJob) (next : Queue)
      (table : next.table = queue.table.update change)
      (moves : ∀ job written, change job = some written → Moves job written)
      (claimedBy : next.claimedBy = queue.claimedBy) (armedAfter : next.armedAfter = queue.armedAfter)
      (outstanding : ∀ instanceId, (next.workers instanceId).outstanding ⊆
        (queue.workers instanceId).outstanding) : Effect queue action next
  | inserted (job : StorageJob) (starts : Starts queue.table job) :
      Effect queue action
        { queue with table := ⟨queue.table.rows ++ [job], queue.table.next + 1⟩ }
  | armed (change : StorageJob → Option StorageJob) (armed : Nat → Bool)
      (arms : ∀ job ∈ queue.table.rows, ∀ written, change job = some written →
        Arms job written ∧ ArmedBy action job)
      (selected : ∀ job ∈ queue.table.rows, armed job.id = (change job).isSome) :
      Effect queue action ({ queue with table := queue.table.update change }.arm armed)
  | claimed (instanceId : String) (now : Timestamp) (limit : Nat) (seconds : UInt32)
      (skipped : List Nat) (claiming : queue.workers instanceId = .claiming limit seconds) :
      Effect queue action (queue.claim instanceId now limit seconds skipped)

/-- Every reachable queue satisfies this invariant. -/
structure Queue.Inv (queue : Queue) : Prop where
  sound : queue.table.Sound
  counted : ∀ job ∈ queue.table.rows,
    job.attempts + queue.armedAfter job.id = (queue.claimedBy job.id).length
  within : ∀ job ∈ queue.table.rows, job.attempts ≤ job.maxAttempts
  unclaimed : ∀ id, queue.table.next ≤ id → queue.claimedBy id = [] ∧ queue.armedAfter id = 0
  owners : ∀ job ∈ queue.table.rows, ∀ owner, job.lockedBy = some owner →
    ∀ latest rest, queue.claimedBy job.id = latest :: rest → owner = latest
  current : ∀ instanceId, ∀ claim ∈ (queue.workers instanceId).outstanding,
    ∀ rest, queue.claimedBy claim.jobId = instanceId :: rest → claim.generation = rest.length + 1

theorem Queue.empty_inv : Queue.empty.Inv where
  sound := ⟨by simp [Queue.empty, JobTable.empty], by simp [Queue.empty, JobTable.empty],
    by simp [Queue.empty, JobTable.empty], by simp [Queue.empty, JobTable.empty]⟩
  counted := by simp [Queue.empty, JobTable.empty]
  within := by simp [Queue.empty, JobTable.empty]
  unclaimed := by simp [Queue.empty]
  owners := by simp [Queue.empty, JobTable.empty]
  current := by simp [Queue.empty, WorkerPhase.outstanding]

variable {sha256 : String → String} {queue next : Queue} {action : QueueAction}

section Actions

theorem newJob_starts {now : Timestamp} {job : NewStorageJob}
    (absent : queue.table.find? job.dedupeKey = none) :
    Starts queue.table (job.row now queue.table.next) where
  id := rfl
  fresh := JobTable.find?_none absent
  leased := StorageJob.leased_free (by simp [NewStorageJob.row]) rfl rfl
  attempts := rfl

theorem write_some {result : Except String JobTable} (wrote : queue.write result = some next) :
    ∃ table, result = .ok table ∧ next = { queue with table := table } := by
  cases result with
  | error _ => cases wrote
  | ok table => exact ⟨table, rfl, (Option.some.inj wrote).symm⟩

theorem map_snd_ok {result : Except String (Bool × JobTable)} {table : JobTable}
    (ran : result.map Prod.snd = .ok table) : ∃ found, result = .ok (found, table) := by
  cases result with
  | error _ => cases ran
  | ok pair =>
      obtain ⟨found, after⟩ := pair
      cases ran
      exact ⟨found, rfl⟩

theorem bind_unit_ok {Value : Type} {check : Except String Unit} {rest : Except String Value}
    {value : Value} (ran : (check >>= fun _ => rest) = .ok value) : rest = .ok value := by
  cases check with
  | error _ => cases ran
  | ok _ => exact ran

theorem Effect.unchanged (action : QueueAction) (workers : String → WorkerPhase)
    (outstanding : ∀ instanceId, (workers instanceId).outstanding ⊆
      (queue.workers instanceId).outstanding) :
    Effect queue action { queue with workers := workers } :=
  .moved (fun _ => none) _ JobTable.update_none.symm (by simp) rfl rfl outstanding

theorem Effect.updated (action : QueueAction) {change : StorageJob → Option StorageJob}
    (moves : ∀ job written, change job = some written → Moves job written) :
    Effect queue action { queue with table := queue.table.update change } :=
  .moved change _ rfl moves rfl rfl fun _ _ present => present

theorem atId_moves {jobId : Nat} {change : StorageJob → Option StorageJob}
    (moves : ∀ job written, change job = some written → Moves job written) :
    ∀ job written, atId jobId change job = some written → Moves job written :=
  fun job written changed => moves job written (atId_some changed).2

theorem enqueue_effect {now : Timestamp} {job : NewStorageJob}
    (moved : queue.step sha256 (.enqueue now job) = some next) :
    Effect queue (.enqueue now job) next := by
  obtain ⟨table, ran, rfl⟩ := write_some moved
  obtain ⟨found, ran⟩ := map_snd_ok ran
  have ran := bind_unit_ok (bind_unit_ok ran)
  cases stored : queue.table.find? job.dedupeKey with
  | some _ =>
      rw [stored] at ran
      cases ran
      exact .unchanged _ _ fun _ _ present => present
  | none =>
      rw [stored] at ran
      cases ran
      exact .inserted _ (newJob_starts stored)

theorem rearm_effect {now : Timestamp} {job : NewStorageJob} (inv : queue.Inv)
    (moved : queue.step sha256 (.enqueueOrRearmSucceeded now job) = some next) :
    Effect queue (.enqueueOrRearmSucceeded now job) next := by
  simp only [Queue.step] at moved
  cases ran : queue.table.enqueueOrRearmSucceeded now job with
  | error _ =>
      rw [ran] at moved
      cases moved
  | ok pair =>
      obtain ⟨armed, table⟩ := pair
      rw [ran] at moved
      cases moved
      have ran := bind_unit_ok (bind_unit_ok ran)
      cases stored : queue.table.find? job.dedupeKey with
      | none =>
          rw [stored] at ran
          cases ran
          have nothing : ∀ id, (queue.table.rows.any fun row =>
              row.id = id && row.dedupeKey = job.dedupeKey) = false := by
            have absent := JobTable.find?_none stored
            simpa using fun id row present _ => absent row present
          simp only [Queue.arm, nothing, Bool.and_false, Bool.false_eq_true, if_false]
          exact .inserted _ (newJob_starts stored)
      | some row =>
          rw [stored] at ran
          have there : row ∈ queue.table.rows := List.mem_of_find?_eq_some stored
          have keyed : row.dedupeKey = job.dedupeKey := by simpa using List.find?_some stored
          simp only at ran
          split at ran
          · rename_i rearmed
            cases ran
            refine .armed _ _ ?_ ?_
            · intro other present written changed
              split at changed
              · rename_i same
                obtain ⟨arms, done⟩ := rearmSucceeded_arms changed
                exact ⟨arms, .inl ⟨now, job, rfl, done.1, same, done.2⟩⟩
              · cases changed
            · intro other present
              by_cases same : other.dedupeKey = job.dedupeKey
              · obtain rfl := List.inj_on_of_nodup_map inv.sound.keys present there (same.trans keyed.symm)
                simp only [same, if_true, rearmed, Bool.true_and, List.any_eq_true]
                exact ⟨other, present, by simp [same]⟩
              · simp only [same, if_false, Option.isSome_none, Bool.true_and, List.any_eq_false]
                intro third here
                by_cases named : third.id = other.id
                · rw [List.inj_on_of_nodup_map inv.sound.ids here present named]
                  simp [same]
                · simp [named]
          · split at ran
            · cases ran
            · cases ran
              simp only [Queue.arm, Bool.false_and, Bool.false_eq_true, if_false]
              exact .unchanged _ _ fun _ _ present => present

theorem setPhase_outstanding {instanceId : String} {phase : WorkerPhase}
    (fewer : phase.outstanding ⊆ (queue.workers instanceId).outstanding) (other : String) :
    (Function.update queue.workers instanceId phase other).outstanding ⊆
      (queue.workers other).outstanding := by
  by_cases same : other = instanceId
  · subst same
    rwa [Function.update_self]
  · rw [Function.update_of_ne same]
    exact fun _ present => present

theorem beginClaim_effect {instanceId : String} {now : Timestamp} {limit : Nat} {seconds : UInt32}
    {missed : List Nat}
    (moved : queue.step sha256 (.beginClaim instanceId now limit seconds missed) = some next) :
    Effect queue (.beginClaim instanceId now limit seconds missed) next := by
  simp only [Queue.step] at moved
  split at moved
  · split at moved
    · cases moved
    · cases moved
      refine .moved _ _ rfl ?_ rfl rfl (setPhase_outstanding fun _ present => ?_)
      · intro job written changed
        split at changed
        · cases changed
        · exact buryExhausted_moves changed
      · cases present
  · cases moved

theorem claim_effect {instanceId : String} {now : Timestamp} {skipped : List Nat}
    (moved : queue.step sha256 (.claim instanceId now skipped) = some next) :
    Effect queue (.claim instanceId now skipped) next := by
  simp only [Queue.step] at moved
  split at moved
  · rename_i claiming
    cases moved
    exact .claimed instanceId now _ _ skipped claiming
  · cases moved

/-- A renewal changes one row. -/
theorem renewLease_written {instanceId : String} {now : Timestamp} {jobId : Nat} {seconds : UInt32}
    (moved : queue.step sha256 (.renewLease instanceId now jobId seconds) = some next) :
    next = { queue with
      table := queue.table.update (atId jobId (renewLease now instanceId seconds)) } := by
  obtain ⟨table, ran, rfl⟩ := write_some moved
  obtain ⟨found, ran⟩ := map_snd_ok ran
  cases bind_unit_ok ran
  rfl

theorem mark_some {instanceId : String} {statement : Nat → Except String (Bool × JobTable)}
    (marked : queue.mark instanceId statement = some next) :
    ∃ claim rest found table, queue.workers instanceId = .working (claim :: rest) ∧
      statement claim.jobId = .ok (found, table) ∧
      next = { queue with table := table }.setPhase instanceId (.working rest) := by
  unfold Queue.mark at marked
  split at marked
  · rename_i claim rest working
    obtain ⟨written, wrote, rfl⟩ := Option.map_eq_some_iff.mp marked
    obtain ⟨table, ran, rfl⟩ := write_some wrote
    obtain ⟨found, ran⟩ := map_snd_ok ran
    exact ⟨claim, rest, found, table, working, ran, rfl⟩
  · cases marked

/-- A recorded success is written by the worker of the claim. -/
theorem markSucceeded_written {instanceId : String}
    (moved : queue.step sha256 (.markSucceeded instanceId) = some next) :
    ∃ claim rest, queue.workers instanceId = .working (claim :: rest) ∧
      next = Queue.setPhase
        { queue with table := queue.table.update (atId claim.jobId (markSucceeded instanceId)) }
        instanceId (.working rest) := by
  simp only [Queue.step] at moved
  obtain ⟨claim, rest, found, table, working, ran, rfl⟩ := mark_some moved
  cases bind_unit_ok ran
  exact ⟨claim, rest, working, rfl⟩

/-- A recorded failure is written by the worker of the claim. -/
theorem markFailed_written {instanceId : String} {now : Timestamp} {error : String} {retryable : Bool}
    {delay : UInt32} (moved : queue.step sha256 (.markFailed instanceId now error retryable delay) = some next) :
    ∃ claim rest, queue.workers instanceId = .working (claim :: rest) ∧
      next = Queue.setPhase
        { queue with table := queue.table.update (atId claim.jobId
          (markFailed now instanceId (substr error maxErrorLength) retryable delay)) }
        instanceId (.working rest) := by
  simp only [Queue.step] at moved
  obtain ⟨claim, rest, found, table, working, ran, rfl⟩ := mark_some moved
  cases bind_unit_ok ran
  exact ⟨claim, rest, working, rfl⟩

/-- A worker that is done with a job keeps the rest of its batch. -/
theorem Effect.marked (action : QueueAction) {instanceId : String} {claim : Claim} {rest : List Claim}
    {change : StorageJob → Option StorageJob} (working : queue.workers instanceId = .working (claim :: rest))
    (moves : ∀ job written, change job = some written → Moves job written) :
    Effect queue action
      ({ queue with table := queue.table.update change }.setPhase instanceId (.working rest)) := by
  refine .moved change _ rfl moves rfl rfl (setPhase_outstanding ?_)
  rw [working]
  exact List.subset_cons_self claim rest

theorem replay_effect {now : Timestamp} {jobId : Nat} (inv : queue.Inv)
    (moved : queue.step sha256 (.replay now jobId) = some next) :
    Effect queue (.replay now jobId) next := by
  obtain ⟨written, wrote, rfl⟩ := Option.map_eq_some_iff.mp moved
  obtain ⟨table, ran, rfl⟩ := write_some wrote
  unfold JobTable.replay at ran
  split at ran
  · cases ran
  · rename_i current found
    split at ran
    · cases ran
    · rename_i dead
      cases ran
      have there : current ∈ queue.table.rows := List.mem_of_find?_eq_some found
      have named : current.id = jobId := by simpa using List.find?_some found
      refine .armed _ _ ?_ ?_
      · intro job present after changed
        obtain ⟨same, replayed⟩ := atId_some changed
        obtain ⟨arms, buried⟩ := replay_arms replayed
        exact ⟨arms, .inr ⟨now, by rw [same], buried⟩⟩
      · intro job present
        by_cases same : job.id = jobId
        · obtain rfl := List.inj_on_of_nodup_map inv.sound.ids present there (same.trans named.symm)
          simp [atId, same, replay, not_not.mp dead]
        · simp [atId, same]

section Journal

variable {instanceId : String} {descriptor : MultipartUploadDescriptor} {now : Timestamp}
  {seconds : UInt32}

theorem track_effect (moved : queue.step sha256 (.track instanceId now seconds descriptor) = some next) :
    Effect queue (.track instanceId now seconds descriptor) next := by
  obtain ⟨table, ran, rfl⟩ := write_some moved
  unfold JobTable.track at ran
  split at ran
  · cases ran
  · split at ran
    · cases ran
    · rename_i absent
      cases ran
      refine .inserted _ ⟨rfl, ?_, StorageJob.leased_running rfl rfl rfl, rfl⟩
      exact JobTable.find?_none (Option.not_isSome_iff_eq_none.mp absent)

theorem requireOne_ok {table after : JobTable} {change : StorageJob → Option StorageJob} {failure : String}
    (ran : table.requireOne change failure = .ok after) : after = table.update change := by
  unfold JobTable.requireOne at ran
  split at ran <;> cases ran
  rfl

theorem renew_effect (moved : queue.step sha256 (.renew instanceId now seconds descriptor) = some next) :
    Effect queue (.renew instanceId now seconds descriptor) next := by
  obtain ⟨table, ran, rfl⟩ := write_some moved
  unfold JobTable.renew at ran
  split at ran
  · cases ran
  · rw [requireOne_ok ran]
    exact .updated _ fun _ _ => journalRenew_moves

theorem resolve_effect (moved : queue.step sha256 (.resolve instanceId descriptor) = some next) :
    Effect queue (.resolve instanceId descriptor) next := by
  obtain ⟨table, ran, rfl⟩ := write_some moved
  unfold JobTable.resolve at ran
  simp only at ran
  split at ran
  · cases ran
  · split at ran
    · cases ran
      exact .updated _ fun _ _ => journalResolve_moves
    · split at ran <;> cases ran
      exact .unchanged _ _ fun _ _ present => present

theorem releaseForRetry_effect {error : String}
    (moved : queue.step sha256 (.releaseForRetry instanceId now descriptor error) = some next) :
    Effect queue (.releaseForRetry instanceId now descriptor error) next := by
  obtain ⟨table, ran, rfl⟩ := write_some moved
  unfold JobTable.releaseForRetry at ran
  split at ran
  · cases ran
  · rw [requireOne_ok ran]
    exact .updated _ fun _ _ => journalReleaseForRetry_moves

end Journal

/-- Every action does one of the four things. -/
theorem step_effect (inv : queue.Inv) (moved : queue.step sha256 action = some next) :
    Effect queue action next := by
  cases action with
  | enqueue now job => exact enqueue_effect moved
  | enqueueOrRearmSucceeded now job => exact rearm_effect inv moved
  | beginClaim instanceId now limit seconds missed => exact beginClaim_effect moved
  | claim instanceId now skipped => exact claim_effect moved
  | renewLease instanceId now jobId seconds =>
      rw [renewLease_written moved]
      exact .updated _ (atId_moves fun _ _ renewed => (renewLease_moves renewed).1)
  | markSucceeded instanceId =>
      obtain ⟨claim, rest, working, rfl⟩ := markSucceeded_written moved
      exact .marked _ working (atId_moves fun _ _ marked => (markSucceeded_moves marked).1)
  | markFailed instanceId now error retryable delay =>
      obtain ⟨claim, rest, working, rfl⟩ := markFailed_written moved
      exact .marked _ working (atId_moves fun _ _ marked => (markFailed_moves marked).1)
  | abandon instanceId =>
      simp only [Queue.step] at moved
      split at moved
      · rename_i working
        cases moved
        refine .unchanged _ _ (setPhase_outstanding ?_)
        rw [working]
        exact List.subset_cons_self _ _
      · cases moved
  | finishBatch instanceId =>
      simp only [Queue.step] at moved
      split at moved
      · cases moved
        exact .unchanged _ _ (setPhase_outstanding (List.nil_subset _))
      · cases moved
  | crash instanceId =>
      cases moved
      exact .unchanged _ _ (setPhase_outstanding (List.nil_subset _))
  | replay now jobId => exact replay_effect inv moved
  | track instanceId now seconds descriptor => exact track_effect moved
  | renew instanceId now seconds descriptor => exact renew_effect moved
  | resolve instanceId descriptor => exact resolve_effect moved
  | releaseForRetry instanceId now descriptor error => exact releaseForRetry_effect moved

end Actions

section Invariant

theorem Queue.Inv.moved {change : StorageJob → Option StorageJob} (inv : queue.Inv)
    (table : next.table = queue.table.update change)
    (moves : ∀ job written, change job = some written → Moves job written)
    (claimedBy : next.claimedBy = queue.claimedBy) (armedAfter : next.armedAfter = queue.armedAfter)
    (outstanding : ∀ instanceId, (next.workers instanceId).outstanding ⊆
      (queue.workers instanceId).outstanding) : next.Inv where
  sound := table ▸ inv.sound.update fun job _ written changed => (moves job written changed).toWrites
  counted := by
    rw [table, claimedBy, armedAfter]
    intro written present
    obtain ⟨job, there, ⟨-, rfl⟩ | changed⟩ := JobTable.update_cases present
    · exact inv.counted _ there
    · rw [(moves job written changed).id, (moves job written changed).attempts]
      exact inv.counted job there
  within := by
    rw [table]
    intro written present
    obtain ⟨job, there, ⟨-, rfl⟩ | changed⟩ := JobTable.update_cases present
    · exact inv.within _ there
    · rw [(moves job written changed).attempts, (moves job written changed).maxAttempts]
      exact inv.within job there
  unclaimed := by
    rw [table, claimedBy, armedAfter]
    exact inv.unclaimed
  owners := by
    rw [table, claimedBy]
    intro written present owner owned
    obtain ⟨job, there, ⟨-, rfl⟩ | changed⟩ := JobTable.update_cases present
    · exact inv.owners _ there owner owned
    · rw [(moves job written changed).id]
      exact inv.owners job there owner ((moves job written changed).owner owner owned)
  current := by
    rw [claimedBy]
    exact fun instanceId claim present => inv.current instanceId claim (outstanding instanceId present)

theorem Queue.Inv.inserted {job : StorageJob} (inv : queue.Inv) (starts : Starts queue.table job) :
    Queue.Inv { queue with table := ⟨queue.table.rows ++ [job], queue.table.next + 1⟩ } where
  sound := inv.sound.insert starts
  counted := by
    intro other present
    rcases List.mem_append.mp present with old | new
    · exact inv.counted other old
    · obtain rfl : other = job := by simpa using new
      obtain ⟨never, unarmed⟩ := inv.unclaimed other.id (le_of_eq starts.id.symm)
      simp [starts.attempts, never, unarmed]
  within := by
    intro other present
    rcases List.mem_append.mp present with old | new
    · exact inv.within other old
    · obtain rfl : other = job := by simpa using new
      simp [starts.attempts]
  unclaimed := fun id later => inv.unclaimed id (Nat.le_of_succ_le later)
  owners := by
    intro other present owner owned latest rest claimed
    rcases List.mem_append.mp present with old | new
    · exact inv.owners other old owner owned latest rest claimed
    · obtain rfl : other = job := by simpa using new
      simp [(inv.unclaimed other.id (le_of_eq starts.id.symm)).1] at claimed
  current := inv.current

theorem Queue.Inv.armed {change : StorageJob → Option StorageJob} {armed : Nat → Bool} (inv : queue.Inv)
    (arms : ∀ job ∈ queue.table.rows, ∀ written, change job = some written → Arms job written)
    (selected : ∀ job ∈ queue.table.rows, armed job.id = (change job).isSome) :
    Queue.Inv ({ queue with table := queue.table.update change }.arm armed) where
  sound := inv.sound.update fun job there written changed => (arms job there written changed).toWrites
  counted := by
    intro written present
    obtain ⟨job, there, ⟨untouched, rfl⟩ | changed⟩ := JobTable.update_cases present
    · have quiet : armed written.id = false := by simp [selected written there, untouched]
      simpa [Queue.arm, quiet] using inv.counted written there
    · have writes := arms job there written changed
      have hit : armed written.id = true := by
        rw [writes.id, selected job there, changed]
        rfl
      simp [Queue.arm, hit, writes.attempts]
  within := by
    intro written present
    obtain ⟨job, there, ⟨-, rfl⟩ | changed⟩ := JobTable.update_cases present
    · exact inv.within _ there
    · simp [(arms job there written changed).attempts]
  unclaimed := by
    intro id later
    obtain ⟨never, unarmed⟩ := inv.unclaimed id later
    refine ⟨never, ?_⟩
    simp [Queue.arm, never, unarmed]
  owners := by
    intro written present owner owned
    obtain ⟨job, there, ⟨-, rfl⟩ | changed⟩ := JobTable.update_cases present
    · exact inv.owners _ there owner owned
    · rw [(arms job there written changed).owner] at owned
      cases owned
  current := inv.current

section Claim

variable {instanceId : String} {now : Timestamp} {limit : Nat} {seconds : UInt32} {skipped : List Nat}

theorem mem_claimCandidates {table : JobTable} {job : StorageJob}
    (candidate : job ∈ table.claimCandidates now instanceId limit seconds skipped) :
    job ∈ table.rows ∧ (claimReady now instanceId seconds job).isSome := by
  have sorted := List.mem_of_mem_take candidate
  rw [List.mem_insertionSort, List.mem_filter, Bool.and_eq_true] at sorted
  exact ⟨sorted.1, sorted.2.1⟩

/-- The claim statement selects the jobs whose ids are among its candidates. -/
def JobTable.chosen (table : JobTable) (now : Timestamp) (instanceId : String) (limit : Nat)
    (seconds : UInt32) (skipped : List Nat) (id : Nat) : Bool :=
  (table.claimCandidates now instanceId limit seconds skipped).any fun job => job.id = id

theorem Queue.claim_table :
    (queue.claim instanceId now limit seconds skipped).table = queue.table.update fun job =>
      if queue.table.chosen now instanceId limit seconds skipped job.id then
        claimReady now instanceId seconds job
      else
        none := rfl

theorem Queue.claim_claimedBy (id : Nat) :
    (queue.claim instanceId now limit seconds skipped).claimedBy id =
      if queue.table.chosen now instanceId limit seconds skipped id then
        instanceId :: queue.claimedBy id
      else
        queue.claimedBy id := rfl

/-- A claim either takes a row or leaves it to a later claim. -/
theorem claim_cases (inv : queue.Inv) {written : StorageJob}
    (present : written ∈ (queue.claim instanceId now limit seconds skipped).table.rows) :
    ∃ job ∈ queue.table.rows,
      (queue.table.chosen now instanceId limit seconds skipped job.id = false ∧ written = job) ∨
      (queue.table.chosen now instanceId limit seconds skipped job.id = true ∧
        Claims instanceId job written) := by
  rw [Queue.claim_table] at present
  obtain ⟨job, there, changed⟩ := JobTable.update_cases present
  refine ⟨job, there, ?_⟩
  cases chosen : queue.table.chosen now instanceId limit seconds skipped job.id with
  | false =>
      rcases changed with ⟨-, rfl⟩ | changed
      · exact .inl ⟨rfl, rfl⟩
      · simp [chosen] at changed
  | true =>
      obtain ⟨candidate, listed, same⟩ := List.any_eq_true.mp chosen
      obtain ⟨stored, ready⟩ := mem_claimCandidates listed
      obtain rfl := List.inj_on_of_nodup_map inv.sound.ids stored there (by simpa using same)
      rcases changed with ⟨untouched, -⟩ | changed
      · simp [chosen] at untouched
        simp [untouched] at ready
      · simp only [chosen, if_true] at changed
        exact .inr ⟨rfl, claimReady_claims changed⟩

theorem Queue.Inv.claimed (inv : queue.Inv) :
    (queue.claim instanceId now limit seconds skipped).Inv where
  sound := by
    refine inv.sound.update fun job _ written changed => ?_
    split at changed
    · exact (claimReady_claims changed).toWrites
    · cases changed
  counted := by
    intro written present
    obtain ⟨job, there, ⟨passed, rfl⟩ | ⟨chosen, claims⟩⟩ := claim_cases inv present
    · rw [Queue.claim_claimedBy, passed]
      exact inv.counted written there
    · have old := inv.counted job there
      rw [Queue.claim_claimedBy, claims.id, claims.attempts, chosen, if_pos rfl, List.length_cons, ← old]
      exact Nat.add_right_comm job.attempts 1 _
  within := by
    intro written present
    obtain ⟨job, there, ⟨-, rfl⟩ | ⟨-, claims⟩⟩ := claim_cases inv present
    · exact inv.within _ there
    · rw [claims.attempts, claims.maxAttempts]
      exact claims.room
  unclaimed := by
    intro id later
    obtain ⟨never, unarmed⟩ := inv.unclaimed id later
    have passed : queue.table.chosen now instanceId limit seconds skipped id = false := by
      simp only [JobTable.chosen, List.any_eq_false, decide_eq_true_eq]
      rintro candidate listed rfl
      exact Nat.not_lt.mpr later (inv.sound.bounded candidate (mem_claimCandidates listed).1)
    refine ⟨?_, unarmed⟩
    rw [Queue.claim_claimedBy, passed]
    exact never
  owners := by
    intro written present owner owned latest rest claimed
    rw [Queue.claim_claimedBy] at claimed
    obtain ⟨job, there, ⟨passed, rfl⟩ | ⟨chosen, claims⟩⟩ := claim_cases inv present
    · rw [passed] at claimed
      exact inv.owners written there owner owned latest rest claimed
    · rw [claims.id, if_pos chosen] at claimed
      rw [claims.owner] at owned
      exact (Option.some.inj owned).symm.trans (List.cons.inj claimed).1
  current := by
    intro other claim present rest claimed
    rw [Queue.claim_claimedBy] at claimed
    simp only [Queue.claim] at present
    by_cases same : other = instanceId
    · subst same
      rw [Function.update_self] at present
      obtain ⟨job, candidate, rfl⟩ := List.mem_map.mp present
      have chosen : queue.table.chosen now other limit seconds skipped job.id = true :=
        List.any_eq_true.mpr ⟨job, candidate, decide_eq_true rfl⟩
      rw [if_pos chosen] at claimed
      rw [(List.cons.inj claimed).2]
    · rw [Function.update_of_ne same] at present
      split at claimed
      · exact absurd (List.cons.inj claimed).1.symm same
      · exact inv.current other claim present rest claimed

end Claim

/-- Every statement on the queue keeps its invariant. -/
theorem Queue.Inv.step (inv : queue.Inv) (moved : queue.step sha256 action = some next) : next.Inv := by
  cases step_effect inv moved with
  | moved change _ table moves claimedBy armedAfter outstanding =>
      exact inv.moved table moves claimedBy armedAfter outstanding
  | inserted job starts => exact inv.inserted starts
  | armed change armed arms selected =>
      exact inv.armed (fun job there written changed => (arms job there written changed).1) selected
  | claimed instanceId now limit seconds skipped => exact inv.claimed

/-- Every reachable queue satisfies the invariant. -/
theorem Queue.inv_of_reachable (reachable : (queueSystem sha256).Reachable queue) : queue.Inv := by
  refine reachable.invariant Queue.Inv ?_ ?_
  · rintro _ rfl
    exact Queue.empty_inv
  · intro _ _ _ inv _ moved
    exact inv.step moved

end Invariant



section Protocol

/-- A change that accepts no row changes nothing. -/
theorem JobTable.update_eq {table : JobTable} {change : StorageJob → Option StorageJob}
    (untouched : ∀ job ∈ table.rows, change job = none) : table.update change = table := by
  have same : (table.rows.map fun job => (change job).getD job) = table.rows := by
    refine (List.map_congr_left fun job present => ?_).trans (List.map_id _)
    simp [untouched job present]
  simp only [JobTable.update, same]

/-- The owner of a job is the instance of its latest claim, so another instance changes nothing. -/
theorem Queue.Inv.fenced (inv : queue.Inv) {jobId : Nat} {instanceId latest : String}
    {rest : List String} {change : StorageJob → Option StorageJob}
    (claimed : queue.claimedBy jobId = latest :: rest) (lost : latest ≠ instanceId)
    (held : ∀ job written, change job = some written → job.lockedBy = some instanceId) :
    queue.table.update (atId jobId change) = queue.table := by
  refine JobTable.update_eq fun job present => ?_
  cases changed : atId jobId change job with
  | none => rfl
  | some written =>
      obtain ⟨rfl, accepted⟩ := atId_some changed
      have owned := held job written accepted
      exact absurd (inv.owners job present instanceId owned latest rest claimed).symm lost

/-- A worker whose claim is not the latest one of the job is not the latest claimant either. -/
theorem Queue.Inv.superseded (inv : queue.Inv) {instanceId : String} {claim : Claim} {rest : List Claim}
    (working : queue.workers instanceId = .working (claim :: rest))
    (later : claim.generation < (queue.claimedBy claim.jobId).length) :
    ∃ latest others, queue.claimedBy claim.jobId = latest :: others ∧ latest ≠ instanceId := by
  cases claimed : queue.claimedBy claim.jobId with
  | nil => simp [claimed] at later
  | cons latest others =>
      refine ⟨latest, others, rfl, ?_⟩
      rintro rfl
      have outstanding : claim ∈ (queue.workers latest).outstanding := by
        rw [working]
        exact List.mem_cons_self
      have newest := inv.current latest claim outstanding others claimed
      simp [claimed, newest] at later

/-- A finished job changes its status only when it is armed. -/
theorem step_keeps_finished (inv : queue.Inv) (moved : queue.step sha256 action = some next)
    {job : StorageJob} (present : job ∈ queue.table.rows) :
    ∃ after ∈ next.table.rows, after.id = job.id ∧
      (after.status ≠ job.status → job.status = .succeeded ∨ job.status = .deadLetter →
        ArmedBy action job) := by
  have rewritten : ∀ change : StorageJob → Option StorageJob,
      (change job).getD job ∈ (queue.table.update change).rows :=
    fun change => List.mem_map.mpr ⟨job, present, rfl⟩
  cases step_effect inv moved with
  | moved change _ table moves _ _ _ =>
      refine ⟨_, table ▸ rewritten change, ?_⟩
      cases changed : change job with
      | none => exact ⟨rfl, fun differs => absurd rfl differs⟩
      | some written =>
          have move := moves job written changed
          exact ⟨move.id, fun _ finished => (finished.elim move.live.1 move.live.2).elim⟩
  | inserted new starts =>
      exact ⟨job, List.mem_append_left _ present, rfl, fun differs => absurd rfl differs⟩
  | armed change armed arms _ =>
      refine ⟨_, rewritten change, ?_⟩
      cases changed : change job with
      | none => exact ⟨rfl, fun differs => absurd rfl differs⟩
      | some written =>
          obtain ⟨armed, byAction⟩ := arms job present written changed
          exact ⟨armed.id, fun _ _ => byAction⟩
  | claimed instanceId now limit seconds skipped =>
      rw [Queue.claim_table]
      refine ⟨_, rewritten _, ?_⟩
      split
      · cases changed : claimReady now instanceId seconds job with
        | none => exact ⟨rfl, fun differs => absurd rfl differs⟩
        | some written =>
            have claims := claimReady_claims changed
            exact ⟨claims.id, fun _ finished => (finished.elim claims.live.1 claims.live.2).elim⟩
      · exact ⟨rfl, fun differs => absurd rfl differs⟩

/-- Every interleaving of workers, producers, administrators and multipart uploads keeps the queue
protocol. -/
theorem storage_job_queue_protocol (sha256 : String → String) {queue : Queue}
    (reachable : (queueSystem sha256).Reachable queue) :
    (queue.table.rows.map StorageJob.dedupeKey).Nodup ∧
    (∀ job ∈ queue.table.rows,
      (job.status = .running ↔ job.lockedBy.isSome ∧ job.lockedUntil.isSome) ∧
      (job.status ≠ .running → job.lockedBy = none ∧ job.lockedUntil = none)) ∧
    (∀ job ∈ queue.table.rows,
      job.attempts + queue.armedAfter job.id = (queue.claimedBy job.id).length ∧
      job.attempts ≤ job.maxAttempts) ∧
    (∀ instanceId claim rest next, queue.workers instanceId = .working (claim :: rest) →
      claim.generation < (queue.claimedBy claim.jobId).length →
      queue.step sha256 (.markSucceeded instanceId) = some next ∨
        (∃ now error retryable delay,
          queue.step sha256 (.markFailed instanceId now error retryable delay) = some next) →
      next.table = queue.table) ∧
    (∀ instanceId now jobId seconds latest rest next, queue.claimedBy jobId = latest :: rest →
      latest ≠ instanceId → queue.step sha256 (.renewLease instanceId now jobId seconds) = some next →
      next.table = queue.table) ∧
    (∀ action next, queue.step sha256 action = some next → ∀ job ∈ queue.table.rows,
      ∃ after ∈ next.table.rows, after.id = job.id ∧
        (job.status = .succeeded → after.status ≠ .succeeded →
          ∃ now new, action = .enqueueOrRearmSucceeded now new ∧ job.dedupeKey = new.dedupeKey ∧
            job.jobType = new.jobType ∧ job.aggregateId = new.aggregateId) ∧
        (job.status = .deadLetter → after.status ≠ .deadLetter →
          ∃ now, action = .replay now job.id)) := by
  have inv := Queue.inv_of_reachable reachable
  refine ⟨inv.sound.keys, ?_, ?_, ?_, ?_, ?_⟩
  · intro job present
    exact ⟨(inv.sound.leased job present).running, (inv.sound.leased job present).free⟩
  · intro job present
    exact ⟨inv.counted job present, inv.within job present⟩
  · intro instanceId claim rest next working later marked
    obtain ⟨latest, others, claimed, lost⟩ := inv.superseded working later
    rcases marked with marked | ⟨now, error, retryable, delay, marked⟩
    · obtain ⟨claim', rest', working', rfl⟩ := markSucceeded_written marked
      obtain ⟨rfl, rfl⟩ : claim' = claim ∧ rest' = rest := by simpa [working] using working'.symm
      exact inv.fenced claimed lost fun _ _ accepted => (markSucceeded_moves accepted).2
    · obtain ⟨claim', rest', working', rfl⟩ := markFailed_written marked
      obtain ⟨rfl, rfl⟩ : claim' = claim ∧ rest' = rest := by simpa [working] using working'.symm
      exact inv.fenced claimed lost fun _ _ accepted => (markFailed_moves accepted).2
  · intro instanceId now jobId seconds latest rest next claimed lost renewed
    rw [renewLease_written renewed]
    exact inv.fenced claimed lost fun _ _ accepted => (renewLease_moves accepted).2
  · intro action next moved job present
    obtain ⟨after, there, same, armed⟩ := step_keeps_finished inv moved present
    refine ⟨after, there, same, ?_, ?_⟩
    · intro done left
      rcases armed (by rwa [done]) (.inl done) with ⟨now, new, rfl, -, aggregate⟩ | ⟨_, -, dead⟩
      · exact ⟨now, new, rfl, aggregate⟩
      · rw [done] at dead
        cases dead
    · intro dead left
      rcases armed (by rwa [dead]) (.inr dead) with ⟨_, _, -, done, -⟩ | ⟨now, rfl, -⟩
      · rw [dead] at done
        cases done
      · exact ⟨now, rfl⟩

/-- Instance "b" takes a job over from instance "a", whose late success then changes nothing. -/
theorem storage_job_queue_protocol_takeover : ∃ queue next : Queue,
    queue.workers "a" = .working [⟨1, 1⟩] ∧ (queue.claimedBy 1).length = 2 ∧
      queue.step id (.markSucceeded "a") = some next ∧ next.table = queue.table := by
  obtain ⟨queue, reachable, checked⟩ := (queueSystem id).exists_reachable_of_run
    [.enqueue 0 (blobGcJob 1 "sha256/00"), .beginClaim "a" 0 1 30 [], .claim "a" 0 [],
      .beginClaim "b" 40000000 1 30 [], .claim "b" 40000000 []]
    (fun queue => queue.workers "a" = .working [⟨1, 1⟩] ∧ (queue.claimedBy 1).length = 2 ∧
      (queue.step id (.markSucceeded "a")).isSome)
    rfl (by decide +kernel)
  obtain ⟨working, claimed, marking⟩ := of_decide_eq_true checked
  obtain ⟨next, marked⟩ := Option.isSome_iff_exists.mp marking
  obtain ⟨-, -, -, fenced, -⟩ := storage_job_queue_protocol id reachable
  exact ⟨queue, next, working, claimed, marked,
    fenced "a" ⟨1, 1⟩ [] next working (by rw [claimed]; decide) (.inl marked)⟩

end Protocol

end DiskServer.Jobs
