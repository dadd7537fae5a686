import DiskServer.Construction.Jobs.MultipartRecovery
import DiskServer.Proof.Jobs.StorageJob

namespace DiskServer.Jobs

open Library
open Upload (Timestamp)

/-- The store has told the request that the upload is not open any more. -/
def ForegroundPhase.settled : ForegroundPhase → Bool
  | .released => true
  | .abortAccepted _ => true
  | _ => false

/-- Every reachable state of an upload satisfies this invariant. -/
structure MultipartState.Inv (setup : MultipartSetup) (state : MultipartState) : Prop where
  pending : state.store = .opened → ∀ job, state.job = some job → job.status ≠ .succeeded
  settled : state.store = .opened →
    state.foreground.settled = false ∧ ∀ instanceId, state.workers instanceId ≠ .succeeded
  untracked : state.foreground = .created → state.job = none
  unclaimed : state.job = none → state.takenOver = none
  owner : state.takenOver.isSome → ∀ job, state.job = some job →
    ∀ owner, job.lockedBy = some owner → owner ∈ setup.workers
  early : state.takenOver = none → state.callsSince = 0
  calls : ∀ phase, state.takenOver = some phase →
    state.callsSince + state.foreground.renewed.toNat ≤ phase.renewed.toNat

variable {setup : MultipartSetup} {state next : MultipartState}

theorem MultipartState.start_inv : MultipartState.start.Inv setup where
  pending := by simp [MultipartState.start]
  settled := by simp [MultipartState.start, ForegroundPhase.settled]
  untracked := fun _ => rfl
  unclaimed := fun _ => rfl
  owner := by simp [MultipartState.start]
  early := fun _ => rfl
  calls := by simp [MultipartState.start]

namespace MultipartState.Inv

/-- A phase without a renewed lease is safe to enter. -/
theorem enter (inv : state.Inv setup) {phase : ForegroundPhase} (later : phase ≠ .created)
    (settled : state.store = .opened → phase.settled = false) (idle : phase.renewed = false) :
    (state.enter phase).Inv setup where
  pending := inv.pending
  settled := fun opened => ⟨settled opened, (inv.settled opened).2⟩
  untracked := fun created => absurd created later
  unclaimed := inv.unclaimed
  owner := inv.owner
  early := inv.early
  calls := by
    intro old taken
    have bound := inv.calls old taken
    simp only [MultipartState.enter, idle, Bool.toNat_false]
    omega

/-- A renewed lease is safe to act on while no worker has claimed the job. -/
theorem enterRenewed (inv : state.Inv setup) {phase : ForegroundPhase} (later : phase ≠ .created)
    (running : phase.settled = false) (alone : state.takenOver = none) :
    (state.enter phase).Inv setup where
  pending := inv.pending
  settled := fun opened => ⟨running, (inv.settled opened).2⟩
  untracked := fun created => absurd created later
  unclaimed := inv.unclaimed
  owner := inv.owner
  early := inv.early
  calls := by
    intro old taken
    simp only [MultipartState.enter, alone] at taken
    cases taken

theorem writeJob (inv : state.Inv setup) {change : StorageJob → Option StorageJob}
    (unresolved : state.store = .opened → ∀ job written, change job = some written →
      written.status ≠ .succeeded)
    (owned : ∀ job written, change job = some written → ∀ owner, written.lockedBy = some owner →
      job.lockedBy = some owner ∨ owner ∈ setup.workers) : (state.writeJob change).Inv setup where
  pending := by
    intro opened written wrote
    obtain ⟨job, found, rfl⟩ := Option.map_eq_some_iff.mp wrote
    cases changed : change job with
    | none => exact inv.pending opened job found
    | some _ => exact unresolved opened job _ changed
  settled := inv.settled
  untracked := by
    intro created
    simp [MultipartState.writeJob, inv.untracked created]
  unclaimed := fun absent => inv.unclaimed (Option.map_eq_none_iff.mp absent)
  owner := by
    intro taken written wrote owner held
    obtain ⟨job, found, rfl⟩ := Option.map_eq_some_iff.mp wrote
    cases changed : change job with
    | none =>
        rw [changed] at held
        exact inv.owner taken job found owner held
    | some _ =>
        rw [changed] at held
        rcases owned job _ changed owner held with old | listed
        · exact inv.owner taken job found owner old
        · exact listed
  early := inv.early
  calls := inv.calls

/-- A move of the job that does not resolve it keeps the invariant. -/
theorem moveJob (inv : state.Inv setup) {change : StorageJob → Option StorageJob}
    (moves : ∀ job written, change job = some written → Moves job written)
    (unresolved : ∀ job written, change job = some written → written.status ≠ .succeeded) :
    (state.writeJob change).Inv setup :=
  inv.writeJob (fun _ => unresolved) fun job written changed owner held =>
    .inl ((moves job written changed).owner owner held)

/-- The job may be resolved once the store has accepted the end of the upload. -/
theorem resolveJob (inv : state.Inv setup) {change : StorageJob → Option StorageJob}
    (ended : state.store ≠ .opened)
    (moves : ∀ job written, change job = some written → Moves job written) :
    (state.writeJob change).Inv setup :=
  inv.writeJob (fun opened => absurd opened ended) fun job written changed owner held =>
    .inl ((moves job written changed).owner owner held)

theorem setWorker (inv : state.Inv setup) {instanceId : String} {phase : AbortPhase}
    (settled : state.store = .opened → phase ≠ .succeeded) :
    (state.setWorker instanceId phase).Inv setup where
  pending := inv.pending
  settled := by
    intro opened
    refine ⟨(inv.settled opened).1, fun other => ?_⟩
    simp only [MultipartState.setWorker]
    by_cases same : other = instanceId
    · subst same
      rw [Function.update_self]
      exact settled opened
    · rw [Function.update_of_ne same]
      exact (inv.settled opened).2 other
  untracked := inv.untracked
  unclaimed := inv.unclaimed
  owner := inv.owner
  early := inv.early
  calls := inv.calls

theorem sendAbort (inv : state.Inv setup) : Inv setup { state with abortSent := true } :=
  ⟨inv.pending, inv.settled, inv.untracked, inv.unclaimed, inv.owner, inv.early, inv.calls⟩

theorem sendComplete (inv : state.Inv setup) : Inv setup { state with completeSent := true } :=
  ⟨inv.pending, inv.settled, inv.untracked, inv.unclaimed, inv.owner, inv.early, inv.calls⟩

/-- The store ends the upload. -/
theorem endUpload (inv : state.Inv setup) {store : StoredUpload} (ended : store ≠ .opened) :
    Inv setup { state with store := store } :=
  ⟨fun opened => absurd opened ended, fun opened => absurd opened ended, inv.untracked, inv.unclaimed,
    inv.owner, inv.early, inv.calls⟩

/-- The call that a renewed lease allows uses the renewal up. -/
theorem call (inv : state.Inv setup) {phase : ForegroundPhase} (renewed : state.foreground.renewed = true)
    (later : phase ≠ .created) (running : phase.settled = false) (idle : phase.renewed = false) :
    (state.countCall.enter phase).Inv setup := by
  unfold MultipartState.countCall
  split
  · rename_i taken
    refine ⟨inv.pending, fun opened => ⟨running, (inv.settled opened).2⟩,
      fun created => absurd created later, inv.unclaimed, inv.owner, ?_, ?_⟩
    · intro alone
      simp only [MultipartState.enter] at alone
      simp [alone] at taken
    · intro old found
      have bound := inv.calls old found
      simp only [renewed, Bool.toNat_true] at bound
      simpa [MultipartState.enter, idle] using bound
  · exact inv.enter later (fun _ => running) idle

end MultipartState.Inv

/-- Once a worker has claimed the job, no later renewal of the request finds it. -/
theorem MultipartState.Inv.renew_refused (inv : state.Inv setup) (taken : state.takenOver.isSome)
    (now : Timestamp) :
    state.accepts (journalRenew setup.sha256 now setup.instanceId setup.leaseSeconds setup.descriptor) =
      false := by
  cases found : state.job with
  | none => simp [MultipartState.accepts, found]
  | some job =>
      have foreign : journalOwns setup.sha256 setup.instanceId setup.descriptor job = false := by
        by_contra owns
        have held := (journalOwns_running (Bool.not_eq_false _ ▸ owns)).2
        exact setup.distinct (inv.owner taken job found _ held)
      simp [MultipartState.accepts, found, journalRenew, foreign]

theorem MultipartState.Inv.renew (inv : state.Inv setup) (now : Timestamp) (answered : Bool)
    {phase : ForegroundPhase} (later : phase ≠ .created) (running : phase.settled = false) :
    (state.renew setup now answered phase).Inv setup := by
  have written := inv.moveJob
    (fun _ _ => @journalRenew_moves now setup.instanceId setup.leaseSeconds _ _ setup.sha256 setup.descriptor)
    (fun _ _ => journalRenew_unresolved)
  unfold MultipartState.renew
  simp only
  split
  · rename_i accepted
    refine written.enterRenewed later running ?_
    by_contra taken
    have refused := inv.renew_refused (Option.isSome_iff_ne_none.mpr taken) now
    simp [refused] at accepted
  · exact written.enter (by simp) (fun _ => rfl) rfl

theorem foregroundStep_inv {action : MultipartAction} (inv : state.Inv setup)
    (moved : state.foregroundStep setup action = some next) : next.Inv setup := by
  cases action with
  | track now answered =>
      simp only [MultipartState.foregroundStep] at moved
      split at moved
      · rename_i created
        cases moved
        have alone := inv.unclaimed (inv.untracked created)
        unfold MultipartState.track
        split
        · refine ⟨?_, ?_, ?_, by simp, by simp [alone], inv.early, by simp [alone]⟩
          · intro _ job tracked
            obtain rfl := Option.some.inj tracked
            simp [trackedJob]
          · intro opened
            refine ⟨?_, (inv.settled opened).2⟩
            simp only
            split <;> rfl
          · simp only
            split <;> simp
        · exact inv.enter (by simp) (fun _ => rfl) rfl
      · cases moved
  | failRead =>
      simp only [MultipartState.foregroundStep] at moved
      split at moved <;> cases moved
      exact inv.enter (by simp) (fun _ => rfl) rfl
  | renewPart now answered =>
      simp only [MultipartState.foregroundStep] at moved
      split at moved
      · split at moved <;> cases moved
        exact inv.renew now answered (by simp) rfl
      · cases moved
  | startPart =>
      simp only [MultipartState.foregroundStep] at moved
      split at moved <;> cases moved
      rename_i renewed
      exact inv.call (by rw [renewed]; rfl) (by simp) rfl rfl
  | finishPart uploaded =>
      simp only [MultipartState.foregroundStep] at moved
      split at moved <;> cases moved
      cases uploaded <;> exact inv.enter (by simp) (fun _ => rfl) rfl
  | renewComplete now answered =>
      simp only [MultipartState.foregroundStep] at moved
      split at moved
      · split at moved <;> cases moved
        exact inv.renew now answered (by simp) rfl
      · cases moved
  | startComplete =>
      simp only [MultipartState.foregroundStep] at moved
      split at moved <;> cases moved
      rename_i renewed
      have called : (state.countCall.enter .completing).Inv setup :=
        inv.call (by rw [renewed]; rfl) (by simp) rfl rfl
      exact called.sendComplete
  | completeAnswered accepted =>
      simp only [MultipartState.foregroundStep] at moved
      split at moved
      · split at moved
        · split at moved <;> cases moved
          rename_i done
          exact inv.enter (by simp) (fun opened => by simp [done] at opened) rfl
        · cases moved
          exact inv.enter (by simp) (fun _ => rfl) rfl
      · cases moved
  | startAbort =>
      simp only [MultipartState.foregroundStep] at moved
      split at moved <;> cases moved
      rename_i tracked unwinding
      have aborting : (state.enter (.aborting tracked)).Inv setup :=
        inv.enter (by simp) (fun _ => rfl) rfl
      exact aborting.sendAbort
  | abortAnswered accepted =>
      simp only [MultipartState.foregroundStep] at moved
      split at moved
      · split at moved
        · split at moved <;> cases moved
          rename_i ended
          exact inv.enter (by simp) (fun opened => absurd opened ended) rfl
        · cases moved
          exact inv.enter (by simp) (fun _ => rfl) rfl
      · cases moved
  | resolve executed =>
      simp only [MultipartState.foregroundStep] at moved
      split at moved <;> cases moved
      rename_i finished
      have ended : state.store ≠ .opened := by
        intro opened
        have running := (inv.settled opened).1
        rcases finished with released | accepted
        · rw [released] at running
          cases running
        · rw [accepted] at running
          cases running
      cases executed with
      | false => exact inv.enter (by simp) (fun _ => rfl) rfl
      | true =>
          have resolved := inv.resolveJob ended fun _ _ =>
            @journalResolve_moves setup.instanceId _ _ setup.sha256 setup.descriptor
          exact resolved.enter (by simp) (fun _ => rfl) rfl
  | releaseForRetry now error executed =>
      simp only [MultipartState.foregroundStep] at moved
      split at moved <;> cases moved
      cases executed with
      | false => exact inv.enter (by simp) (fun _ => rfl) rfl
      | true =>
          have released := inv.moveJob
            (fun _ _ => @journalReleaseForRetry_moves now setup.instanceId _ _ setup.sha256
              setup.descriptor error)
            (fun _ _ => journalReleaseForRetry_unresolved)
          exact released.enter (by simp) (fun _ => rfl) rfl
  | crash =>
      cases moved
      exact inv.enter (by simp) (fun _ => rfl) rfl
  | _ => cases moved

theorem storeStep_inv {action : MultipartAction} (inv : state.Inv setup)
    (moved : state.storeStep action = some next) : next.Inv setup := by
  cases action with
  | storeAcceptsComplete =>
      simp only [MultipartState.storeStep] at moved
      split at moved <;> cases moved
      exact inv.endUpload (by simp)
  | storeAcceptsAbort =>
      simp only [MultipartState.storeStep] at moved
      split at moved <;> cases moved
      exact inv.endUpload (by simp)
  | _ => cases moved

/-- A claim makes a worker the owner and remembers the phase that the request was in. -/
theorem MultipartState.Inv.claim (inv : state.Inv setup) {instanceId : String} {now : Timestamp}
    {seconds : UInt32} (listed : instanceId ∈ setup.workers)
    (accepted : state.accepts (claimReady now instanceId seconds) = true) :
    MultipartState.Inv setup
      { (state.writeJob (claimReady now instanceId seconds)).setWorker instanceId .claimed with
        takenOver := state.takenOver <|> some state.foreground } := by
  obtain ⟨job, found, ready⟩ := (Option.any_eq_true _ _).mp accepted
  obtain ⟨written, claimed⟩ := Option.isSome_iff_exists.mp ready
  have claims := claimReady_claims claimed
  have wrote : (state.writeJob (claimReady now instanceId seconds)).job = some written := by
    simp [MultipartState.writeJob, found, claimed]
  have moved : ((state.writeJob (claimReady now instanceId seconds)).setWorker instanceId .claimed).Inv
      setup := by
    refine MultipartState.Inv.setWorker (inv.writeJob ?_ ?_) (by simp)
    · exact fun _ _ _ => claimReady_unresolved
    · intro job written changed owner held
      rw [(claimReady_claims changed).owner] at held
      exact .inr (Option.some.inj held ▸ listed)
  refine ⟨moved.pending, moved.settled, moved.untracked, ?_, ?_, ?_, ?_⟩
  · intro absent
    exact absurd (wrote.symm.trans absent) (by simp)
  · intro _ other stored owner held
    obtain rfl := Option.some.inj (wrote.symm.trans stored)
    rw [claims.owner] at held
    exact Option.some.inj held ▸ listed
  · intro none_
    cases taken : state.takenOver <;> simp [taken] at none_
  · intro phase first
    cases taken : state.takenOver with
    | some old =>
        rw [taken] at first
        obtain rfl := Option.some.inj first
        exact inv.calls old taken
    | none =>
        rw [taken] at first
        obtain rfl := Option.some.inj first
        simp [MultipartState.setWorker, MultipartState.writeJob, inv.early taken]

theorem workerStep_inv {action : MultipartAction} (inv : state.Inv setup)
    (moved : state.workerStep setup action = some next) : next.Inv setup := by
  cases action with
  | bury now =>
      cases moved
      exact inv.moveJob (fun _ _ => buryExhausted_moves) fun _ _ => buryExhausted_unresolved
  | claim instanceId now seconds =>
      simp only [MultipartState.workerStep] at moved
      split at moved <;> cases moved
      rename_i allowed
      exact inv.claim allowed.1 allowed.2.2
  | heartbeat instanceId now seconds =>
      simp only [MultipartState.workerStep] at moved
      split at moved <;> cases moved
      exact inv.moveJob (fun _ _ renewed => (renewLease_moves renewed).1) fun _ _ =>
        renewLease_unresolved
  | workerAbort instanceId =>
      simp only [MultipartState.workerStep] at moved
      split at moved <;> cases moved
      have aborting : (state.setWorker instanceId .aborting).Inv setup := inv.setWorker (by simp)
      exact aborting.sendAbort
  | workerAnswered instanceId accepted retryable =>
      simp only [MultipartState.workerStep] at moved
      split at moved
      · split at moved
        · split at moved <;> cases moved
          rename_i ended
          exact inv.setWorker fun opened => absurd opened ended
        · cases moved
          exact inv.setWorker (by simp)
      · cases moved
  | workerSucceeds instanceId =>
      simp only [MultipartState.workerStep] at moved
      split at moved <;> cases moved
      rename_i succeeded
      have ended : state.store ≠ .opened := fun opened => (inv.settled opened).2 instanceId succeeded
      have resolved : (state.writeJob (markSucceeded instanceId)).Inv setup :=
        inv.resolveJob ended fun _ _ marked => (markSucceeded_moves marked).1
      exact resolved.setWorker (by simp)
  | workerFails instanceId now retryDelaySeconds =>
      simp only [MultipartState.workerStep] at moved
      split at moved <;> cases moved
      refine MultipartState.Inv.setWorker (inv.moveJob ?_ ?_) (by simp)
      · exact fun _ _ marked => (markFailed_moves marked).1
      · exact fun _ _ => markFailed_unresolved
  | workerLeaves instanceId =>
      cases moved
      exact inv.setWorker (by simp)
  | replay now =>
      cases moved
      refine inv.writeJob (fun _ _ _ => replay_unresolved) ?_
      intro job written replayed owner held
      rw [(replay_arms replayed).1.owner] at held
      cases held
  | _ => cases moved

/-- A step is one of a foreground request, of the store or of the recovery. -/
theorem step_cases {action : MultipartAction} (moved : state.step setup action = some next) :
    state.foregroundStep setup action = some next ∨ state.storeStep action = some next ∨
      state.workerStep setup action = some next := by
  unfold MultipartState.step at moved
  cases foreground : state.foregroundStep setup action with
  | some _ =>
      rw [foreground] at moved
      exact .inl moved
  | none =>
      rw [foreground] at moved
      cases store : state.storeStep action with
      | some _ =>
          rw [store] at moved
          exact .inr (.inl moved)
      | none =>
          rw [store] at moved
          exact .inr (.inr moved)

/-- Every reachable state satisfies the invariant. -/
theorem MultipartState.inv_of_reachable (reachable : (multipartSystem setup).Reachable state) :
    state.Inv setup := by
  refine reachable.invariant (MultipartState.Inv setup) ?_ ?_
  · rintro _ rfl
    exact MultipartState.start_inv
  · intro state action next inv _ moved
    rcases step_cases moved with foreground | store | worker
    · exact foregroundStep_inv inv foreground
    · exact storeStep_inv inv store
    · exact workerStep_inv inv worker

@[grind =] theorem MultipartState.writeJob_isSome (change : StorageJob → Option StorageJob) :
    (state.writeJob change).job.isSome = state.job.isSome := Option.isSome_map

@[grind =] theorem MultipartState.enter_job (phase : ForegroundPhase) :
    (state.enter phase).job = state.job := rfl

@[grind =] theorem MultipartState.setWorker_job (instanceId : String) (phase : AbortPhase) :
    (state.setWorker instanceId phase).job = state.job := rfl

@[grind =] theorem MultipartState.countCall_job : state.countCall.job = state.job := by
  unfold MultipartState.countCall
  split <;> rfl

/-- The job of a tracked upload is never deleted. -/
theorem step_keeps_job {action : MultipartAction} (moved : state.step setup action = some next)
    (tracked : state.job.isSome) : next.job.isSome := by
  rcases step_cases moved with foreground | store | worker
  · cases action <;> grind [MultipartState.foregroundStep, MultipartState.track, MultipartState.renew]
  · cases action <;> grind [MultipartState.storeStep]
  · cases action <;> grind [MultipartState.workerStep]

/-- The journal keeps an open upload recoverable, shuts the request out after a takeover and is
resolved only when the store has ended the upload. -/
theorem multipart_recovery_journal (setup : MultipartSetup) {state : MultipartState}
    (reachable : (multipartSystem setup).Reachable state) :
    (∀ action next, state.step setup action = some next → state.job.isSome → next.job.isSome) ∧
    (∀ job, state.job = some job → state.store = .opened → job.status ≠ .succeeded) ∧
    (∀ phase, state.takenOver = some phase →
      (∀ now, state.accepts (journalRenew setup.sha256 now setup.instanceId setup.leaseSeconds
        setup.descriptor) = false) ∧
      state.callsSince ≤ phase.renewed.toNat ∧
      (state.foreground.renewed = true → phase.renewed = true ∧ state.callsSince = 0)) ∧
    (∀ job, state.job = some job → job.status = .succeeded →
      state.store = .completed ∨ state.store = .aborted) := by
  have inv := MultipartState.inv_of_reachable reachable
  refine ⟨fun action next moved => step_keeps_job moved, ?_, ?_, ?_⟩
  · exact fun job found opened => inv.pending opened job found
  · intro phase taken
    have bound := inv.calls phase taken
    refine ⟨fun now => inv.renew_refused (by simp [taken]) now, by omega, fun renewed => ?_⟩
    cases before : phase.renewed <;> simp [renewed, before] at bound ⊢
    exact bound
  · intro job found succeeded
    cases stored : state.store with
    | opened => exact absurd succeeded (inv.pending stored job found)
    | completed => exact .inl rfl
    | aborted => exact .inr rfl

/-- One upload of the instance "api-1" and one worker. -/
def pausedUpload : MultipartSetup where
  sha256 := fun _ => "1c1affd70b77de522adcacb3c1cbae8fac11ec5abb4afc9b18dfa3588efe8f41"
  instanceId := "api-1"
  descriptor := ⟨"staging/5f0c/assembled/2.bin", "2~u1"⟩
  leaseSeconds := 30
  workers := ["worker-1"]
  distinct := by decide

/-- The request pauses between its last renewal and its call until a worker has taken the job over. -/
def pausedBeforeComplete : List MultipartAction :=
  [.track 0 true, .renewPart 0 true, .startPart, .finishPart true, .renewComplete 0 true,
    .claim "worker-1" 40000000 30, .startComplete]

/-- A request that pauses before its completion. -/
theorem multipart_recovery_journal_paused : ∃ state : MultipartState,
    state.takenOver = some .renewedComplete ∧ state.callsSince ≤ 1 ∧
      ∀ now, state.accepts (journalRenew pausedUpload.sha256 now "api-1" 30 ⟨"staging/5f0c/assembled/2.bin", "2~u1"⟩) = false := by
  obtain ⟨state, reachable, checked⟩ := (multipartSystem pausedUpload).exists_reachable_of_run
    pausedBeforeComplete (fun state => state.takenOver = some .renewedComplete) rfl (by decide +kernel)
  have taken := of_decide_eq_true checked
  obtain ⟨refused, calls, -⟩ :=
    (multipart_recovery_journal pausedUpload reachable).2.2.1 .renewedComplete taken
  exact ⟨state, taken, calls, refused⟩

/-- A request can call for completion after a worker has claimed its job. -/
theorem multipart_recovery_calls_after_takeover :
    ¬ ∀ state, (multipartSystem pausedUpload).Reachable state → state.takenOver.isSome →
      state.callsSince = 0 := by
  intro silent
  obtain ⟨state, reachable, checked⟩ := (multipartSystem pausedUpload).exists_reachable_of_run
    pausedBeforeComplete (fun state => state.takenOver.isSome ∧ state.foreground = .completing ∧
      state.callsSince = 1) rfl (by decide +kernel)
  obtain ⟨taken, -, called⟩ := of_decide_eq_true checked
  have none_ := silent state reachable taken
  omega

end DiskServer.Jobs
