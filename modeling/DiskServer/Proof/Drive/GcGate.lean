import DiskServer.Proof.Drive.StorageReconciliation
import DiskServer.Proof.Jobs.StorageJobContract

namespace DiskServer.Drive

open Library Transaction Upload Jobs

/-- A collection of the content is queued and has not succeeded. -/
def Db.awaitsGc (db : Db) (contentId : Nat) : Prop :=
  ∃ job, db.jobs.find? (blobGcDedupeKey contentId) = some job ∧ job.status ≠ .succeeded

/-- A content waits for its collection exactly while its count is zero. -/
def Db.GcGated (db : Db) : Prop :=
  ∀ content ∈ db.contents.rows,
    0 ≤ content.refCount ∧ (content.refCount = 0 ↔ db.awaitsGc content.id)

/-- The counts of the contents and the jobs that collect them. -/
def Db.collections (db : Db) :
    Serial FileContent FileContent.id × Table StorageJob StorageJob.dedupeKey :=
  (db.contents, db.jobs)

instance : IgnoresRows Db.collections where
  folders := fun _ _ => rfl
  files := fun _ _ => rfl

instance : IgnoresTrash Db.collections where
  trash := fun _ _ => rfl

instance : IgnoresTasks Db.collections where
  tasks := fun _ _ => rfl
  chunks := fun _ _ => rfl

variable {before after : Db} {contentId : Nat} {key : String}

theorem awaitsGc_congr (same : after.jobs.find? (blobGcDedupeKey contentId) =
    before.jobs.find? (blobGcDedupeKey contentId)) :
    after.awaitsGc contentId ↔ before.awaitsGc contentId := by
  unfold Db.awaitsGc
  rw [same]

theorem preserves_gated {Value : Type} {program : Tx Value}
    (kept : KeepsFrame Db.collections program) : Preserves Db.GcGated program := by
  refine preserves_of_frame kept fun first second same here => ?_
  obtain ⟨contents, jobs⟩ := Prod.mk.inj same
  intro content present
  rw [awaitsGc_congr (congrArg (Table.find? · _) jobs)]
  exact here content (contents ▸ present)

section Counts

variable {select : FileContent → Bool} {change : FileContent → FileContent}
  {keyed : ∀ row, (change row).id = row.id}

/-- Only contents that await no collection gain references. -/
theorem Db.GcGated.raise (gated : before.GcGated)
    (raised : ∀ row ∈ before.contents.rows, select row = true →
      ¬ before.awaitsGc row.id ∧ row.refCount ≤ (change row).refCount) :
    Db.GcGated { before with contents := before.contents.update select change keyed } := by
  intro content present
  obtain ⟨old, there, rfl⟩ := List.mem_map.mp present
  obtain ⟨positive, gate⟩ := gated old there
  split
  · rename_i chosen
    obtain ⟨free, more⟩ := raised old there chosen
    have counted : old.refCount ≠ 0 := fun zero => free (gate.mp zero)
    rw [keyed]
    exact ⟨by omega, fun zero => by omega, fun awaits => absurd awaits free⟩
  · exact ⟨positive, gate⟩

theorem checkReferenceGate_free {value : Unit}
    (ran : (checkReferenceGate contentId).run before = .ok (value, after)) :
    after = before ∧ ¬ before.awaitsGc contentId := by
  refine ⟨checkReferenceGate_ok ran, ?_⟩
  have rest := get_bind_ok ran
  rintro ⟨job, found, unfinished⟩
  simp only [found, checkBlobGcReferenceGate] at rest
  split at rest
  · exact (throw_ok rest).elim
  · exact (throw_ok rest).elim
  · rename_i allowed
    simp [unfinished] at allowed

theorem addReferences_gated {contentIds : List Nat} {amount : Nat → Int} (positive : ∀ id, 0 ≤ amount id)
    {value : Unit} (gated : before.GcGated) (free : ∀ id ∈ contentIds, ¬ before.awaitsGc id)
    (ran : (addReferences contentIds amount).run before = .ok (value, after)) : after.GcGated := by
  obtain rfl := modify_ok ran
  refine gated.raise fun row present chosen => ⟨free _ (by simpa using chosen), ?_⟩
  have := positive row.id
  dsimp only
  omega

theorem incrementRefCount_gated {increment : Nat} :
    Preserves Db.GcGated (incrementRefCount contentId increment) := by
  unfold incrementRefCount
  split
  · exact preserves_pure _
  · refine preserves_get_bind fun db _ => ?_
    split
    · exact preserves_throw _
    · intro before value after gated ran
      obtain ⟨_, middle, gate, adding⟩ := bind_ok ran
      obtain ⟨rfl, free⟩ := checkReferenceGate_free gate
      refine addReferences_gated (fun _ => Int.natCast_nonneg _) gated ?_ adding
      intro id present
      obtain rfl := List.mem_singleton.mp present
      exact free

theorem checkReferenceGates_free {contentIds : List Nat} {value : Unit}
    (ran : (contentIds.forM checkReferenceGate).run before = .ok (value, after)) :
    after = before ∧ ∀ id ∈ contentIds, ¬ before.awaitsGc id := by
  induction contentIds with
  | nil => exact ⟨(pure_ok ran).2, by simp⟩
  | cons first rest ih =>
      obtain ⟨_, middle, one, two⟩ := bind_ok ran
      obtain ⟨rfl, free⟩ := checkReferenceGate_free one
      obtain ⟨same, others⟩ := ih two
      exact ⟨same, List.forall_mem_cons.mpr ⟨free, others⟩⟩

theorem incrementRefCountsChecked_gated {increments : List (Nat × Nat)} {existing : List Nat} :
    Preserves Db.GcGated (incrementRefCountsChecked increments existing) := by
  unfold incrementRefCountsChecked
  dsimp only
  split
  · exact preserves_pure _
  · refine preserves_get_bind fun db _ => ?_
    split
    · exact preserves_throw _
    · intro before value after gated ran
      obtain ⟨_, middle, gates, rest⟩ := bind_ok ran
      obtain ⟨rfl, free⟩ := checkReferenceGates_free gates
      obtain ⟨_, adding, -⟩ := bind_pure_ok rest
      exact addReferences_gated (fun _ => Int.natCast_nonneg _) gated free adding

theorem countCopiedContents_gated {files : List File} {existing : List Nat} :
    Preserves Db.GcGated (countCopiedContents files existing) := by
  refine preserves_bind incrementRefCountsChecked_gated fun incremented => ?_
  split
  · exact preserves_pure _
  · exact preserves_throw _

/-- A new content starts with one reference, and its gate is checked as well. -/
theorem acquireReference_gated {content : NewContent} {expected : Option Nat} :
    Preserves Db.GcGated (acquireReference content expected) := by
  intro before value after gated ran
  have rest₁ := get_bind_ok ran
  obtain ⟨_, last, checking, rest₂⟩ := bind_ok rest₁
  obtain rfl := checkExpected_ok checking
  split at rest₂
  · rename_i row found
    split at rest₂
    · exact (throw_ok rest₂).elim
    · obtain ⟨_, passed, gate, rest₃⟩ := bind_ok rest₂
      obtain ⟨rfl, free⟩ := checkReferenceGate_free gate
      obtain ⟨-, rfl⟩ := modify_pure_ok rest₃
      refine gated.raise fun other present chosen => ⟨?_, ?_⟩
      · rwa [of_decide_eq_true chosen]
      · dsimp only
        omega
  · obtain ⟨_, inserted, inserting, rest₃⟩ := bind_ok rest₂
    obtain rfl := modify_ok inserting
    obtain ⟨_, passed, gate, returned⟩ := bind_ok rest₃
    obtain ⟨rfl, free⟩ := checkReferenceGate_free gate
    obtain ⟨-, rfl⟩ := pure_ok returned
    intro row present
    rcases List.mem_append.mp present with old | new
    · exact gated row old
    · obtain rfl := List.mem_singleton.mp new
      refine ⟨by simp [NewContent.row], ?_⟩
      exact ⟨fun zero => by simp [NewContent.row] at zero, fun awaits => absurd awaits free⟩

end Counts

section Jobs

/-- A change of the jobs keeps the gate when it touches no job of a stored content. -/
theorem Db.GcGated.requeue (gated : before.GcGated) (contents : after.contents = before.contents)
    (jobs : ∀ content ∈ before.contents.rows,
      after.awaitsGc content.id ↔ before.awaitsGc content.id) : after.GcGated := by
  intro content present
  rw [contents] at present
  rw [jobs content present]
  exact gated content present

/-- Afterwards the content awaits its collection, and nothing else has changed. -/
theorem enqueueBlobGc_awaits {storagePath : String} {failure : ErrorInfo} :
    Ensures (enqueueOrRearmSucceeded (blobGcJob contentId storagePath) failure) fun before _ after =>
      after.contents = before.contents ∧
        ∀ id, after.awaitsGc id ↔ id = contentId ∨ before.awaitsGc id := by
  intro before armed after ran
  refine ⟨congrArg (fun kept => kept.2.2) (enqueueOrRearmSucceeded_others _ _ _ ran), fun id => ?_⟩
  by_cases same : id = contentId
  · simp only [same, true_or, iff_true]
    have rest := get_bind_ok ran
    split at rest
    · rename_i absent
      have rest₁ := get_bind_ok rest
      split at rest₁
      · rename_i refused
        unfold Table.insertNew at refused
        split at refused
        · cases refused
        · rename_i taken
          exact (taken (Table.find?_eq_none_iff.mp absent)).elim
      · rename_i jobs inserted
        obtain ⟨-, rfl⟩ := set_pure_ok rest₁
        unfold Table.insertNew at inserted
        split at inserted
        · rename_i fresh
          cases inserted
          exact ⟨_, (Table.find?_add _ fresh _).trans (if_pos rfl), by simp [NewStorageJob.row]⟩
        · cases inserted
    · rename_i stored found
      split at rest
      · rename_i armed
        obtain ⟨next, rearmed⟩ := Option.isSome_iff_exists.mp armed
        obtain ⟨-, rfl⟩ := set_pure_ok rest
        refine ⟨next, ?_, ?_⟩
        · have kept : before.jobs.find? (blobGcDedupeKey contentId) = some stored := found
          have named : blobGcDedupeKey contentId = (blobGcJob contentId storagePath).dedupeKey := rfl
          dsimp only
          rw [Table.find?_update, kept, Option.map_some, if_pos named, rearmed, Option.getD_some]
        · unfold rearmSucceeded at rearmed
          split at rearmed <;> cases rearmed
          simp
      · rename_i blocked
        split at rest
        · rename_i own
          obtain ⟨-, rfl⟩ := pure_ok rest
          refine ⟨stored, found, fun done => blocked ?_⟩
          rw [rearmSucceeded, if_pos ⟨done, own⟩]
          rfl
        · exact (throw_ok rest).elim
  · simp only [same, false_or]
    exact awaitsGc_congr (enqueueOrRearmSucceeded_jobs
      (fun equal => same (blobGcDedupeKey_injective equal)) _ _ _ ran)

/-- After the loop every listed content awaits its collection. -/
theorem enqueueBlobGcs_await {rows : List FileContent} {failure : ErrorInfo} {value : PUnit}
    (ran : (rows.forM fun row => do
      let _ ← enqueueOrRearmSucceeded (blobGcJob row.id row.storagePath) failure
      pure () : Tx PUnit).run before = .ok (value, after)) :
    after.contents = before.contents ∧
      ∀ id, after.awaitsGc id ↔ id ∈ rows.map FileContent.id ∨ before.awaitsGc id := by
  induction rows generalizing before with
  | nil =>
      obtain ⟨-, rfl⟩ := pure_ok ran
      exact ⟨rfl, by simp⟩
  | cons row rest ih =>
      obtain ⟨_, middle, one, two⟩ := bind_ok ran
      obtain ⟨armed, arming, -⟩ := bind_pure_ok one
      obtain ⟨contents, awaits⟩ := enqueueBlobGc_awaits _ _ _ arming
      obtain ⟨contents₁, awaits₁⟩ := ih two
      refine ⟨contents₁.trans contents, fun id => ?_⟩
      rw [awaits₁, awaits, List.map_cons, List.mem_cons]
      tauto

/-- The gate is kept when every picked content that has come down to zero is collected. -/
theorem Db.GcGated.collect (gated : before.GcGated) {contents : Serial FileContent FileContent.id}
    {picked : Nat → Bool} (lowered : ∀ content ∈ contents.rows, 0 ≤ content.refCount ∧
      ∃ row ∈ before.contents.rows, row.id = content.id ∧
        (row.refCount = 0 → content.refCount = 0) ∧ (picked content.id = false → content = row))
    (kept : after.contents = contents) (awaits : ∀ id, after.awaitsGc id ↔
      id ∈ (contents.rows.filter fun row => row.refCount = 0 && picked row.id).map FileContent.id ∨
        before.awaitsGc id) : after.GcGated := by
  intro content present
  rw [kept] at present
  obtain ⟨positive, row, there, same, still, untouched⟩ := lowered content present
  have gate := (gated row there).2
  refine ⟨positive, ?_⟩
  rw [awaits]
  constructor
  · intro zero
    by_cases chosen : picked content.id = true
    · exact .inl (List.mem_map_of_mem (List.mem_filter.mpr ⟨present, by simp [zero, chosen]⟩))
    · obtain rfl := untouched (Bool.eq_false_of_not_eq_true chosen)
      exact .inr (gate.mp zero)
  · rintro (listed | waiting)
    · obtain ⟨other, chosen, equal⟩ := List.mem_map.mp listed
      obtain ⟨stored, zero⟩ := List.mem_filter.mp chosen
      rw [← contents.eq_of_key stored present equal]
      exact of_decide_eq_true (Bool.and_eq_true_iff.mp zero).1
    · exact still (gate.mpr (same ▸ waiting))

/-- A decrement queues a collection for each content that it leaves without references. -/
theorem decrementRefCountsAndEnqueueGc_gated {decrements : List (Nat × Nat)} :
    Preserves Db.GcGated (decrementRefCountsAndEnqueueGc decrements) := by
  intro before value after gated ran
  obtain ⟨_, middle, lowering, rest⟩ := bind_ok ran
  obtain rfl := modify_ok lowering
  have queuing := get_bind_ok rest
  obtain ⟨contents, awaits⟩ := enqueueBlobGcs_await queuing
  refine gated.collect (fun content present => ?_) contents awaits
  obtain ⟨row, there, rfl⟩ := List.mem_map.mp present
  have positive := (gated row there).1
  split
  · rename_i chosen
    refine ⟨le_max_right _ _, row, there, rfl, fun zero => ?_, fun free => ?_⟩
    · dsimp only
      omega
    · exact absurd (chosen.symm.trans free) (by decide)
  · exact ⟨positive, row, there, rfl, id, fun _ => rfl⟩

theorem releaseContents_gated {contentIds : List Nat} :
    Preserves Db.GcGated (releaseContents contentIds) := by
  unfold releaseContents
  split
  · exact preserves_pure _
  · exact decrementRefCountsAndEnqueueGc_gated

theorem stagingCleanup_gated {task : UploadTask} :
    Preserves Db.GcGated (enqueue (stagingCleanupJob task)) := by
  intro before queued after gated ran
  have contents : after.contents = before.contents :=
    congrArg (fun kept => kept.2.2) (enqueue_others _ _ _ ran)
  refine gated.requeue contents fun content _ => awaitsGc_congr (enqueue_jobs ?_ _ _ _ ran)
  intro same
  exact absurd (text_prefix_free JobRequest.keyStarts_free (by decide) (by decide) same) (by decide)

/-- A statement on an unfinished job leaves it unfinished. -/
theorem JobStatement.change_unfinished {statement : JobStatement} {now : Timestamp}
    {job next : StorageJob} (changed : statement.change now job = some next) :
    job.status ≠ .succeeded ∧ next.status ≠ .succeeded := by
  cases statement <;>
    simp only [change, buryExhausted, claimReady, renewLease, markFailed, Jobs.replay] at changed <;>
    split at changed <;> cases changed <;> rename_i allowed
  · rcases allowed.2 with waiting | waiting | ⟨waiting, -⟩ <;> simp [waiting]
  · rcases allowed.2 with ⟨waiting | waiting, -⟩ | ⟨waiting, -⟩ <;> simp [waiting]
  · simp [allowed.1]
  · refine ⟨by simp [allowed.1], ?_⟩
    dsimp only
    split <;> simp
  · simp [allowed]

/-- A statement on one job rewrites the row of its key when it selects it. -/
theorem updateJob_ok {change : StorageJob → Option StorageJob}
    {keeps : ∀ job next, change job = some next → next.dedupeKey = job.dedupeKey} {updated : Bool}
    (ran : (updateJob key change keeps).run before = .ok (updated, after)) :
    after.contents = before.contents ∧
      (∀ other, after.jobs.find? other = (before.jobs.find? other).map fun job =>
        if other = key then (change job).getD job else job) ∧
      (updated = true → ∃ job next, before.jobs.find? key = some job ∧ change job = some next) := by
  have rest := get_bind_ok ran
  have untouched : (∀ job, before.jobs.find? key = some job → change job = none) →
      ∀ other, before.jobs.find? other = (before.jobs.find? other).map fun job =>
        if other = key then (change job).getD job else job := by
    intro nothing other
    by_cases here : other = key
    · subst here
      cases found : before.jobs.find? other with
      | none => rfl
      | some job => simp [nothing job found]
    · simp [here]
  split at rest
  · rename_i absent
    obtain ⟨rfl, rfl⟩ := pure_ok rest
    exact ⟨rfl, untouched (by simp [absent]), by simp⟩
  · rename_i job found
    split at rest
    · rename_i changes
      obtain ⟨rfl, rfl⟩ := set_pure_ok rest
      obtain ⟨next, changed⟩ := Option.isSome_iff_exists.mp changes
      refine ⟨rfl, fun other => ?_, fun _ => ⟨job, next, found, changed⟩⟩
      dsimp only
      rw [Table.find?_update]
    · rename_i nothing
      obtain ⟨rfl, rfl⟩ := pure_ok rest
      refine ⟨rfl, untouched fun other again => ?_, by simp⟩
      obtain rfl := Option.some.inj (found.symm.trans again)
      exact Option.not_isSome_iff_eq_none.mp nothing

theorem runJobStatement_gated {statement : JobStatement} :
    Preserves Db.GcGated (runJobStatement statement key) := by
  intro before updated after gated ran
  have rest := get_bind_ok ran
  obtain ⟨contents, rows, -⟩ := updateJob_ok rest
  refine gated.requeue contents fun content _ => ?_
  unfold Db.awaitsGc
  rw [rows]
  cases found : before.jobs.find? (blobGcDedupeKey content.id) with
  | none => simp
  | some job =>
      simp only [Option.map_some, Option.some.injEq, exists_eq_left']
      split
      · cases changed : statement.change before.now job with
        | none => rfl
        | some next =>
            have unfinished := JobStatement.change_unfinished changed
            exact ⟨fun _ => unfinished.1, fun _ => unfinished.2⟩
      · rfl

/-- A collection that completes was running, and no other content is concerned. -/
theorem completeBlobGc_ok {instanceId : String} {value : Unit}
    (ran : (completeBlobGc (blobGcDedupeKey contentId) instanceId).run before = .ok (value, after)) :
    after.contents = before.contents ∧ before.awaitsGc contentId ∧
      ∀ id, id ≠ contentId → (after.awaitsGc id ↔ before.awaitsGc id) := by
  obtain ⟨persisted, marked, marking, checked⟩ := bind_ok ran
  obtain ⟨contents, rows, ownedJob⟩ := updateJob_ok marking
  split at checked
  · rename_i succeeded
    obtain ⟨-, rfl⟩ := pure_ok checked
    refine ⟨contents, ?_, fun id differs => awaitsGc_congr ((rows _).trans ?_)⟩
    · obtain ⟨job, next, found, done⟩ := ownedJob succeeded
      unfold markSucceeded at done
      split at done
      · rename_i owned
        exact ⟨job, found, by simp [owned.1]⟩
      · cases done
    · simp [show blobGcDedupeKey id ≠ blobGcDedupeKey contentId from
        fun same => differs (blobGcDedupeKey_injective same)]
  · exact (throw_ok checked).elim

theorem executeBlobGc_gated {storagePath instanceId : String} {blobDeleted : Bool} :
    Preserves Db.GcGated
      (executeBlobGc contentId storagePath (blobGcDedupeKey contentId) instanceId blobDeleted) := by
  intro before value after gated ran
  have rest := get_bind_ok ran
  split at rest
  · rename_i absent
    obtain ⟨contents, -, others⟩ := completeBlobGc_ok rest
    refine gated.requeue contents fun content present => others _ ?_
    exact Table.find?_eq_none_iff.mp absent content present
  · rename_i content found
    obtain ⟨present, keyed⟩ := Table.find?_some found
    split at rest
    · exact (throw_ok rest).elim
    · split at rest
      · rename_i counted
        obtain ⟨-, awaits, -⟩ := completeBlobGc_ok rest
        have zero := (gated content present).2.mpr (keyed ▸ awaits)
        omega
      · split at rest
        · exact (throw_ok rest).elim
        · split at rest
          · exact (throw_ok rest).elim
          · rename_i counted referenced _
            obtain ⟨_, removed, removing, completing⟩ := bind_ok rest
            obtain rfl := set_ok removing
            obtain ⟨contents, -, others⟩ := completeBlobGc_ok completing
            intro other there
            rw [contents] at there
            obtain ⟨stored, left⟩ := Table.mem_remove.mp there
            rw [others other.id ?_]
            · exact gated other stored
            · intro same
              obtain rfl := before.contents.eq_of_key stored present (same.trans keyed.symm)
              obtain ⟨least, free⟩ := not_or.mp referenced
              have zero : other.refCount = 0 := by omega
              simp [same, zero, free] at left

end Jobs

section Requests

variable {userId bytes : Nat}

/-- The statements on the counters of a user all have this shape. -/
theorem chargeUser_gated {zero : Prop} [Decidable zero] {evaluated : User → Int}
    {outOfRange rejected : ErrorInfo} {selected : User → Bool} {change : User → User}
    {keyed : ∀ user, (change user).id = user.id} :
    Preserves Db.GcGated (if zero then pure () else
      updateUserChecked userId evaluated outOfRange rejected selected change keyed) :=
  preserves_gated (unlessZero_keeps (updateUserChecked_frame fun _ _ => rfl))

theorem instantUpload_gated {command : InitUploadCommand} {content : FileContent} :
    Preserves Db.GcGated (instantUpload command content) := by
  refine preserves_get_bind fun db _ => ?_
  split
  · exact preserves_throw _
  · refine preserves_bind chargeUser_gated fun _ => ?_
    refine preserves_bind incrementRefCount_gated fun _ => ?_
    refine preserves_bind (preserves_gated resolveOwnedFolderLocation_keeps) fun location => ?_
    refine preserves_bind (preserves_gated insertFileRecord_keeps) fun _ => ?_
    exact preserves_bind (preserves_gated countNewItem_keeps) fun _ => preserves_pure _

theorem createUploadTask_gated {command : InitUploadCommand} {session : StagingSession} :
    Preserves Db.GcGated (createUploadTask command session) := by
  refine preserves_get_bind fun db _ => ?_
  split
  · exact preserves_pure _
  · refine preserves_bind chargeUser_gated fun _ => preserves_get_bind fun reserved here => ?_
    split
    · exact preserves_throw _
    · exact preserves_bind (preserves_set here) fun _ => preserves_pure _

theorem completeUpload_gated {command : FinalizeCommand} :
    Preserves Db.GcGated (completeUpload command) := by
  refine preserves_bind (preserves_gated renewInTransaction_keeps) fun stateVersion => ?_
  refine preserves_bind acquireReference_gated fun contentId => ?_
  refine preserves_bind (preserves_gated resolveOwnedFolderLocation_keeps) fun location => ?_
  refine preserves_bind (preserves_gated insertFileRecord_keeps) fun fileId => ?_
  refine preserves_bind (preserves_gated countNewItem_keeps) fun _ => ?_
  refine preserves_bind chargeUser_gated fun _ => ?_
  refine preserves_bind (preserves_gated markCompleted_keeps) fun completed => ?_
  refine preserves_bind stagingCleanup_gated fun _ => ?_
  exact preserves_bind (preserves_gated deleteChunks_keeps) fun _ => preserves_pure _

theorem releaseTask_gated {task : UploadTask} : Preserves Db.GcGated (releaseTask task userId) := by
  refine preserves_bind chargeUser_gated fun _ => ?_
  exact preserves_bind stagingCleanup_gated fun _ => preserves_gated deleteChunks_keeps

theorem cancelInProgressUpload_gated :
    Preserves Db.GcGated (cancelInProgressUpload key userId) := by
  refine preserves_get_bind fun db _ => ?_
  refine preserves_bind (preserves_gated updateTask_keeps) fun cancelled => ?_
  split
  · exact preserves_pure _
  · exact preserves_bind releaseTask_gated fun _ => preserves_pure _

theorem expireInProgressUpload_gated : Preserves Db.GcGated (expireInProgressUpload key) := by
  refine preserves_get_bind fun db _ => ?_
  refine preserves_bind (preserves_gated updateTask_keeps) fun expired => ?_
  split
  · exact preserves_pure _
  · exact preserves_bind releaseTask_gated fun _ => preserves_pure _

theorem permanentlyDeleteTrashItems_gated {items : List Trash} {requireValid : Bool} :
    Preserves Db.GcGated (permanentlyDeleteTrashItems items requireValid) := by
  unfold permanentlyDeleteTrashItems
  split
  · exact preserves_throw _
  · split
    · exact preserves_pure _
    · refine preserves_bind releaseContents_gated fun _ => ?_
      refine preserves_bind (preserves_gated deleteTrashByIds_keeps) fun deleted => ?_
      split
      · exact preserves_throw _
      · refine preserves_bind (preserves_forM fun _ _ => ?_) fun _ => preserves_pure _
        exact preserves_gated (adjustUsedStorageChecked_frame fun _ _ => rfl)

variable {targetFolderId : Nat}

theorem saveFile_gated {folderId : Nat} {folderPath : String} {file : File} :
    Preserves Db.GcGated (saveFile userId folderId folderPath file) := by
  refine preserves_bind incrementRefCount_gated fun _ => ?_
  exact preserves_bind (preserves_gated insertFile_keeps) fun _ => preserves_pure _

theorem saveTree_gated {location : FolderLocation} {saved : Nat × Nat} {plan : SavePlan} :
    Preserves Db.GcGated (saveTree userId targetFolderId location saved plan) := by
  refine preserves_get_bind fun db _ => ?_
  split
  · exact preserves_pure _
  · refine preserves_bind (preserves_gated insertFolder_keeps) fun rootId => ?_
    refine preserves_bind (preserves_foldlM (fun folder _ folders => ?_) _) fun folders => ?_
    · unfold saveFolderNode
      split
      · exact preserves_pure _
      · exact preserves_bind (preserves_gated insertFolder_keeps) fun _ => preserves_pure _
    · refine preserves_bind (preserves_foldlM (fun file _ size => ?_) _) fun _ => preserves_pure _
      unfold saveTreeFile
      split
      · exact preserves_pure _
      · exact preserves_bind saveFile_gated fun _ => preserves_pure _

theorem refundSkipped_gated {totalSize actualSize : Nat} :
    Preserves Db.GcGated (refundSkipped userId totalSize actualSize) := by
  unfold refundSkipped
  split
  · exact preserves_gated (keepsFrame_modify fun _ => rfl)
  · exact preserves_pure _

theorem saveToDrive_gated {location : FolderLocation} {selection : SaveSelection} :
    Preserves Db.GcGated (saveToDrive userId targetFolderId location selection) := by
  refine preserves_bind chargeUser_gated fun _ => ?_
  refine preserves_bind (preserves_foldlM (fun file _ saved => ?_) _) fun savedFiles => ?_
  · refine preserves_get_bind fun db _ => ?_
    split
    · exact preserves_pure _
    · exact preserves_bind saveFile_gated fun _ => preserves_pure _
  · refine preserves_bind (preserves_foldlM (fun _ _ _ => saveTree_gated) _) fun saved => ?_
    refine preserves_bind (preserves_gated countSavedItems_keeps) fun _ => ?_
    exact preserves_bind refundSkipped_gated fun _ => preserves_pure _

variable {run : CopyRun}

theorem copyFileBatch_gated {validItems : List File} {existing : List Nat} :
    Preserves Db.GcGated (copyFileBatch run validItems existing) := by
  refine preserves_bind (preserves_gated requireTarget_keeps) fun _ => preserves_get_bind fun db _ => ?_
  dsimp only
  refine preserves_bind countCopiedContents_gated fun _ => ?_
  refine preserves_bind (preserves_gated insertCopiedFiles_keeps) fun _ => ?_
  refine preserves_bind (preserves_gated countCopiedItems_keeps) fun _ => ?_
  refine preserves_bind chargeUser_gated fun _ => ?_
  exact preserves_bind chargeUser_gated fun _ => preserves_pure _

theorem copyFolder_gated {plan : FolderDeletePlan} {existing : List Nat} :
    Preserves Db.GcGated (copyFolder run plan existing) := by
  refine preserves_bind (preserves_gated requireTarget_keeps) fun target =>
    preserves_get_bind fun db _ => ?_
  split
  · exact preserves_bind chargeUser_gated fun _ => preserves_pure _
  · refine preserves_bind countCopiedContents_gated fun _ => ?_
    refine preserves_bind (preserves_gated copyTree_keeps) fun _ => ?_
    refine preserves_bind (preserves_gated countCopiedItems_keeps) fun _ => ?_
    exact preserves_bind chargeUser_gated fun _ => preserves_pure _

end Requests

namespace CopyRun

variable {run : CopyRun} {db : Db}

theorem settle_gated {staged : Except ErrorInfo ((Nat × Nat) × Db)} {unit skippedBefore : Nat}
    (gated : db.GcGated) (kept : ∀ amounts after, staged = .ok (amounts, after) → after.GcGated) :
    (run.settle staged db unit skippedBefore).1.GcGated := by
  cases staged with
  | error => exact gated
  | ok pair => exact kept pair.1 pair.2 rfl

theorem stepBatch_gated {namesRead existingRead : Option Db} {fails : Bool} {chunk : List File}
    {rest : List (List File)} (gated : db.GcGated) :
    (run.stepBatch namesRead existingRead fails db chunk rest).1.GcGated := by
  unfold stepBatch
  simp only
  split
  · exact gated
  · split
    · exact gated
    · refine settle_gated gated fun amounts after staged => ?_
      split at staged
      · cases staged
      · exact copyFileBatch_gated _ _ _ gated staged

theorem stepFolder_gated {existingRead : Option Db} {fails : Bool} {occupied : List String}
    {plan : FolderDeletePlan} {rest : List FolderDeletePlan} (gated : db.GcGated) :
    (run.stepFolder existingRead fails db occupied plan rest).1.GcGated := by
  unfold stepFolder
  simp only
  split
  · exact gated
  · split
    · exact gated
    · split
      · exact gated
      · refine settle_gated gated fun amounts after staged => ?_
        split at staged
        · cases staged
        · exact copyFolder_gated _ _ _ gated staged

theorem stepRelease_gated {fails : Bool} (gated : db.GcGated) :
    (run.stepRelease fails db).1.GcGated := by
  unfold stepRelease
  split
  · exact gated
  · rename_i value after staged
    split at staged
    · cases staged
    · exact chargeUser_gated _ _ _ gated staged

end CopyRun

/-- A collection run completes the job that was queued for the content of its payload. -/
def DriveAction.runsOwnJob : DriveAction → Bool
  | .executeBlobGc contentId _ dedupeKey _ _ => dedupeKey = blobGcDedupeKey contentId
  | _ => true

namespace World

variable {world next : World}

theorem commit_gated {Value : Type} {program : Tx Value} (gated : world.db.GcGated)
    (kept : Preserves Db.GcGated program) (moved : world.commit program = some next) :
    next.db.GcGated := by
  obtain ⟨value, after, ran, rfl⟩ := commit_some moved
  exact kept _ _ _ gated ran

theorem commitSettling_gated {uploadId : String} {program : Tx (Option Nat)} (gated : world.db.GcGated)
    (kept : Preserves Db.GcGated program) (moved : world.commitSettling uploadId program = some next) :
    next.db.GcGated := by
  unfold commitSettling at moved
  split at moved
  · rename_i version after ran
    cases moved
    exact kept _ _ _ gated ran
  · rename_i after ran
    cases moved
    exact kept _ _ _ gated ran
  · cases moved

theorem step_gated {action : DriveAction} (gated : world.db.GcGated) (own : action.runsOwnJob = true)
    (moved : world.step action = some next) : next.db.GcGated := by
  cases moved_of_step moved with
  | commits issued moved =>
      refine commit_gated gated ?_ moved
      cases issued with
      | registerUser => exact preserves_gated (keepsFrame_modify fun _ => rfl)
      | createFolder => exact preserves_gated createFolder_keeps
      | instantUpload => exact instantUpload_gated
      | createUploadTask => exact createUploadTask_gated
      | recordChunk => exact preserves_gated recordChunk_keeps
      | taskStatement => exact preserves_gated runTaskStatement_keeps
      | moveToTrash => exact preserves_gated moveToTrash_keeps
      | restoreFile => exact preserves_gated restoreFile_keeps
      | restoreFolder => exact preserves_gated restoreFolder_keeps
      | permanentDelete => exact permanentlyDeleteTrashItems_gated
      | saveToDrive => exact saveToDrive_gated
      | jobStatement => exact runJobStatement_gated
      | executeBlobGc =>
          obtain rfl := of_decide_eq_true own
          exact executeBlobGc_gated
      | tick => exact preserves_gated (keepsFrame_modify fun _ => rfl)
  | settles settled moved =>
      refine commitSettling_gated gated ?_ moved
      cases settled with
      | completeUpload => exact preserves_map completeUpload_gated
      | cancelUpload => exact cancelInProgressUpload_gated
      | expireUpload => exact expireInProgressUpload_gated
  | starts _ _ moved =>
      unfold World.startCopy at moved
      split at moved
      · cases moved
      · split at moved
        · cases moved
        · rename_i value after ran
          cases moved
          exact chargeUser_gated _ _ _ gated ran
  | copies _ continued same =>
      subst same
      cases continued with
      | batch => exact CopyRun.stepBatch_gated gated
      | folder _ stepped =>
          unfold stepCopyFolder at stepped
          split at stepped
          · cases stepped
            exact gated
          · cases stepped
            exact CopyRun.stepFolder_gated gated
          · cases stepped
      | release => exact CopyRun.stepRelease_gated gated
      | rootNames | abandon => exact gated

/-- Contents are collected behind the gate in every such run. -/
theorem gated_of_reachable
    (reachable : driveSystem.ReachableWhen (fun _ action => action.runsOwnJob = true) world) :
    world.db.GcGated := by
  refine reachable.invariant (fun world => world.db.GcGated) ?_ ?_
  · rintro state rfl content absent
    exact absurd absent List.not_mem_nil
  · exact fun state action after gated own moved => step_gated gated own moved

end World

/-- A content has no reference exactly while its count is zero and it awaits its collection. -/
def Db.CollectsUnreferenced (db : Db) : Prop :=
  ∀ content ∈ db.contents.rows, 0 ≤ content.refCount ∧
    (content.refCount = 0 ↔ db.awaitsGc content.id) ∧
    (db.awaitsGc content.id ↔ db.fileReferences content.id = 0 ∧ db.trashReferences content.id = 0 ∧
      db.snapshotReferences content.id = 0)

/-- A content awaits its collection exactly while no file, trash row or snapshot refers to it. -/
theorem awaitsGc_iff_unreferenced {world : World}
    (reachable : driveSystem.ReachableWhen (fun _ action => action.runsOwnJob = true) world) :
    world.db.CollectsUnreferenced := by
  intro content present
  obtain ⟨positive, gate⟩ := World.gated_of_reachable reachable content present
  have counted := content_refCount_exact (reachable.mono fun _ _ _ => trivial) content present
  refine ⟨positive, gate, ?_⟩
  rw [← gate, counted]
  omega

/-- One content has been collected, and another one waits for its collection. -/
def collectedContent : List DriveAction :=
  firstUpload ++
    [ .moveToTrash [] [1] [] 1,
      .permanentDelete 0 [1] true,
      .jobStatement (.claim "worker" 60) (blobGcDedupeKey 1),
      .executeBlobGc 1 "sha256/sha" (blobGcDedupeKey 1) "worker" true,
      .createUploadTask (uploadCommand "b.txt" 5) ⟨"up-2", .localDisk, "up-2"⟩,
      .recordChunk "up-2" 1 0 4 "c0" "" "",
      .recordChunk "up-2" 1 1 1 "c1" "" "",
      .taskStatement (.claim 1 "node-1" 30) "up-2",
      .completeUpload ⟨"up-2", 1, "node-1", 30, 1, "sha", "sha256/sha", none⟩ 0,
      .moveToTrash [] [2] [] 1,
      .permanentDelete 0 [2] true ]

/-- A content that has lost its last reference. -/
theorem awaitsGc_iff_unreferenced_collected : ∃ world,
    driveSystem.ReachableWhen (fun _ action => action.runsOwnJob = true) world ∧
      world.db.contents.rows.map FileContent.id = [2] ∧ world.db.CollectsUnreferenced := by
  obtain ⟨world, reachable, checked⟩ := driveSystem.exists_reachableWhen_of_runWhen
    (fun _ action => action.runsOwnJob = true) collectedContent
    (fun world => world.db.contents.rows.map FileContent.id = [2]) rfl (by decide +kernel)
  exact ⟨world, reachable, of_decide_eq_true checked, awaitsGc_iff_unreferenced reachable⟩

end DiskServer.Drive
