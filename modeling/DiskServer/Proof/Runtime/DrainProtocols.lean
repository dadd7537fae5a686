import DiskServer.Construction.Runtime.DrainProtocols

/-
This file proves what the drain of a process, of its storage worker and of its seeder guarantees, and that
an awaiter of a transaction resumes its coroutine once.
-/

namespace DiskServer.Runtime

open Library

section Requests

/-- The threads that the counter of business requests counts. -/
def RuntimeThread.counted : RuntimeThread → Bool
  | .loadInitialized secondCheck => secondCheck
  | .loadDraining secondCheck => secondCheck
  | .admitted => true
  | .loadInflight _ => true
  | .compareExchange _ _ => true
  | _ => false

/-- The counter is the number of the counted threads, and none is in progress once the process has been
seen drained. -/
def runtimeDiscipline : Discipline ProcessRuntimeState RuntimeThread where
  holds := RuntimeThread.counted
  Inv := fun memory count => memory.businessRequestsInflight = count ∧
    (memory.seenDrained = true → memory.draining = true)
  Own := fun memory thread => (∀ wasAdmitted, thread ≠ .compareExchange wasAdmitted 0) ∧
    (memory.seenDrained = true → thread.inProgress = false)

theorem counted_of_inProgress {thread : RuntimeThread} (busy : thread.inProgress = true) :
    thread.counted = true := by
  cases thread <;> first | rfl | cases busy

theorem inProgress_of_share {other : RuntimeThread} (none : runtimeDiscipline.share other ≤ 0) :
    other.inProgress = false := by
  cases busy : other.inProgress with
  | false => rfl
  | true =>
      have one : runtimeDiscipline.share other = 1 := if_pos (counted_of_inProgress busy)
      omega

/-- A counted thread that has loaded the counter tries to lower it. -/
theorem releaseRound_of_inv {memory : ProcessRuntimeState} {others : Nat} (wasAdmitted : Bool)
    (inv : runtimeDiscipline.Inv memory (others + 1)) :
    releaseRound wasAdmitted memory.businessRequestsInflight =
        .compareExchange wasAdmitted memory.businessRequestsInflight ∧
      ∀ flag, RuntimeThread.compareExchange wasAdmitted memory.businessRequestsInflight ≠
        .compareExchange flag 0 := by
  have positive : 0 < memory.businessRequestsInflight := by
    rw [inv.1]
    exact Nat.succ_pos others
  refine ⟨if_pos positive, fun flag same => ?_⟩
  injection same with _ zero
  omega

variable (settings : RuntimeSettings)

theorem runtime_followed :
    runtimeDiscipline.Followed (runtimeProgram settings) fun _ _ _ => True where
  enters := by
    intro memory call
    cases call <;>
      simp [runtimeDiscipline, runtimeProgram, RuntimeCall.enter, RuntimeThread.counted,
        RuntimeThread.inProgress]
  keeps := by
    intro memory thread choice after next others _ advanced inv own
    obtain ⟨-, idle⟩ := own
    cases thread with
    | loadInitialized secondCheck =>
        cases advanced
        apply Discipline.keeps_unchanged inv
        · cases secondCheck <;> split <;> rfl
        · cases secondCheck <;> split <;> exact ⟨fun _ => nofun, fun _ => rfl⟩
    | loadDraining secondCheck =>
        cases advanced
        apply Discipline.keeps_unchanged inv
        · cases secondCheck <;> split <;> rfl
        · cases draining : memory.draining
          · have unseen : memory.seenDrained ≠ true := fun seen => by
              rw [inv.2 seen] at draining
              cases draining
            cases secondCheck <;> exact ⟨fun _ => nofun, fun seen => absurd seen unseen⟩
          · cases secondCheck <;> exact ⟨fun _ => nofun, fun _ => rfl⟩
    | fetchAdd =>
        cases advanced
        refine ⟨⟨?_, inv.2⟩, ⟨fun _ => nofun, fun _ => rfl⟩, fun _ _ kept => kept⟩
        exact congrArg (· + 1) inv.1
    | admitted =>
        cases advanced
        exact Discipline.keeps_unchanged inv rfl ⟨fun _ => nofun, idle⟩
    | loadInflight wasAdmitted =>
        cases advanced
        obtain ⟨tries, positive⟩ := releaseRound_of_inv wasAdmitted inv
        rw [tries]
        exact Discipline.keeps_unchanged inv rfl ⟨positive, idle⟩
    | compareExchange wasAdmitted current =>
        simp only [runtimeProgram, advanceRuntime] at advanced
        split at advanced
        · rename_i agrees
          cases advanced
          refine ⟨⟨?_, inv.2⟩, ⟨fun _ => nofun, fun _ => rfl⟩, fun _ _ kept => kept⟩
          have held : memory.businessRequestsInflight = others + 1 := inv.1
          change current - 1 = others
          omega
        · cases advanced
          obtain ⟨tries, positive⟩ := releaseRound_of_inv wasAdmitted inv
          rw [tries]
          exact Discipline.keeps_unchanged inv rfl ⟨positive, idle⟩
    | markInitialized =>
        cases advanced
        exact ⟨inv, ⟨fun _ => nofun, fun _ => rfl⟩, fun _ _ kept => kept⟩
    | setWorkerAccepting accepting =>
        cases advanced
        exact Discipline.keeps_unchanged inv rfl ⟨fun _ => nofun, fun _ => rfl⟩
    | storeWorkerAccepting accepting =>
        cases advanced
        exact ⟨inv, ⟨fun _ => nofun, fun _ => rfl⟩, fun _ _ kept => kept⟩
    | exchangeDraining =>
        cases advanced
        exact ⟨⟨inv.1, fun _ => rfl⟩, ⟨fun _ => nofun, fun _ => rfl⟩, fun _ _ kept => kept⟩
    | isApiDrained =>
        cases advanced
        refine ⟨⟨inv.1, ?_⟩, ⟨fun _ => nofun, fun _ => rfl⟩, ?_⟩
        · intro seen
          rcases Bool.or_eq_true_iff.mp seen with before | now
          · exact inv.2 before
          · exact (Bool.and_eq_true_iff.mp now).1
        · intro other bounded kept
          refine ⟨kept.1, fun seen => ?_⟩
          rcases Bool.or_eq_true_iff.mp seen with before | now
          · exact kept.2 before
          · have empty := beq_iff_eq.mp (Bool.and_eq_true_iff.mp now).2
            have alone : others = 0 := inv.1.symm.trans empty
            exact inProgress_of_share (alone ▸ bounded)
    | finished => cases advanced

/-- No admitted request is in progress once the drained process has been seen empty, and the counter
covers the admitted requests. -/
def RequestsDrained (state : Threads ProcessRuntimeState RuntimeThread) : Prop :=
  (state.memory.seenDrained = true → ∀ thread ∈ state.threads, thread.inProgress = false) ∧
    state.threads.countP RuntimeThread.inProgress ≤ state.memory.businessRequestsInflight

/-- No request runs behind an observed drain. -/
theorem requestsDrained_of_reachable {state : Threads ProcessRuntimeState RuntimeThread}
    (reachable : (runtimeSystem settings).Reachable state) : RequestsDrained state := by
  obtain ⟨inv, own⟩ := (runtime_followed settings).reachable ⟨rfl, fun seen => by cases seen⟩
    (reachable.mono fun _ action _ => ThreadProgram.allows_all action)
  refine ⟨fun seen thread present => (own thread present).2 seen, ?_⟩
  rw [inv.1]
  exact List.countP_mono_left fun _ _ => counted_of_inProgress

end Requests

section Polls

/-- The threads that own the flag of the running poll. -/
def WorkerThread.polls : WorkerThread → Bool
  | .reloadAccepting => true
  | .loopAccepting => true
  | .running => true
  | .storeInflight => true
  | _ => false

/-- At most one thread owns the flag, and none is inside the run callback once the worker has been seen
drained. -/
def workerDiscipline : Discipline StorageWorkerState WorkerThread where
  holds := WorkerThread.polls
  Inv := fun memory count => count ≤ memory.pollInflight.toNat ∧
    (memory.seenDrained = true → memory.accepting = false)
  Own := fun memory thread => memory.seenDrained = true → thread ≠ .running

theorem quiet_of_load {accepting inflight : Bool} (loaded : (!accepting && !inflight) = true) :
    accepting = false ∧ inflight = false := by
  simpa using loaded

theorem not_running_of_share {other : WorkerThread} (none : workerDiscipline.share other ≤ 0) :
    other ≠ .running := by
  rintro rfl
  exact absurd none (by decide)

theorem worker_followed : workerDiscipline.Followed workerProgram fun _ _ _ => True where
  enters := by
    intro memory call
    cases call <;> exact ⟨rfl, fun _ => nofun⟩
  keeps := by
    intro memory thread outcome after next others _ advanced inv own
    cases thread with
    | loadAccepting =>
        cases advanced
        apply Discipline.keeps_unchanged inv
        · cases memory.accepting <;> rfl
        · cases memory.accepting <;> exact fun _ => nofun
    | exchangeInflight =>
        simp only [workerProgram, advanceWorker] at advanced
        have alone : others ≤ memory.pollInflight.toNat := inv.1
        cases taken : memory.pollInflight with
        | true =>
            rw [taken] at advanced alone
            cases advanced
            exact ⟨⟨alone, inv.2⟩, fun _ => nofun, fun _ _ kept => kept⟩
        | false =>
            rw [taken] at advanced alone
            cases advanced
            exact ⟨⟨Nat.succ_le_succ alone, inv.2⟩, fun _ => nofun, fun _ _ kept => kept⟩
    | reloadAccepting =>
        cases advanced
        apply Discipline.keeps_unchanged inv
        · cases memory.accepting <;> rfl
        · cases memory.accepting <;> exact fun _ => nofun
    | loopAccepting =>
        cases advanced
        apply Discipline.keeps_unchanged inv
        · cases memory.accepting <;> rfl
        · intro seen
          rw [inv.2 seen]
          nofun
    | running =>
        cases advanced
        have less : workerDiscipline.share (afterRun outcome) ≤ workerDiscipline.share .running := by
          cases outcome <;> decide
        refine ⟨⟨Nat.le_trans (Nat.add_le_add_left less others) inv.1, inv.2⟩, ?_,
          fun _ _ kept => kept⟩
        cases outcome <;> exact fun _ => nofun
    | storeInflight =>
        cases advanced
        refine ⟨⟨?_, inv.2⟩, fun _ => nofun, fun _ _ kept => kept⟩
        have one : others + 1 ≤ memory.pollInflight.toNat := inv.1
        have most := Bool.toNat_le memory.pollInflight
        change others ≤ 0
        omega
    | exchangeAccepting =>
        cases advanced
        exact ⟨⟨inv.1, fun _ => rfl⟩, fun _ => nofun, fun _ _ kept => kept⟩
    | isDrained =>
        cases advanced
        refine ⟨⟨inv.1, ?_⟩, fun _ => nofun, ?_⟩
        · intro seen
          rcases Bool.or_eq_true_iff.mp seen with before | now
          · exact inv.2 before
          · exact (quiet_of_load now).1
        · intro other bounded kept seen
          rcases Bool.or_eq_true_iff.mp seen with before | now
          · exact kept before
          · have alone : others ≤ memory.pollInflight.toNat := inv.1
            rw [(quiet_of_load now).2] at alone
            exact not_running_of_share (Nat.le_trans bounded alone)
    | finished => cases advanced

/-- Nothing is inside the run callback once the drained worker has been seen idle. -/
def PollsDrained (state : Threads StorageWorkerState WorkerThread) : Prop :=
  state.memory.seenDrained = true → ∀ thread ∈ state.threads, thread ≠ .running

/-- No poll runs behind an observed drain. -/
theorem pollsDrained_of_reachable {state : Threads StorageWorkerState WorkerThread}
    (reachable : workerSystem.Reachable state) : PollsDrained state := by
  obtain ⟨-, own⟩ := worker_followed.reachable ⟨Nat.zero_le _, fun seen => by cases seen⟩
    (reachable.mono fun _ action _ => ThreadProgram.allows_all action)
  exact fun seen thread present => own thread present seen

end Polls

section Seeds

/-- The threads that have passed the check of a seed run and have not left the run. -/
def SeederThread.seeds : SeederThread → Bool
  | .exchangeInflight => true
  | .buildPlan => true
  | .enqueue _ => true
  | .storeInflight => true
  | _ => false

/-- One seed run owns the flag and one is entering, at most. Once the seeder has been seen drained there
is none, and no job has been enqueued since. -/
def seederDiscipline : Discipline SeederState SeederThread where
  holds := SeederThread.seeds
  Inv := fun memory count => count ≤ memory.seedInflight.toNat + memory.entering.toNat ∧
    (memory.seenDrained = true → memory.accepting = false) ∧ memory.lateJobs = []
  Own := fun memory thread => memory.seenDrained = true → thread.seeds = false

theorem not_seeds_of_share {other : SeederThread} (none : seederDiscipline.share other ≤ 0) :
    other.seeds = false := by
  cases owning : other.seeds with
  | false => rfl
  | true =>
      have one : seederDiscipline.share other = 1 := if_pos owning
      omega

/-- A run that passes the check is counted as entering. -/
theorem loadAccepting_keeps {memory : SeederState} {others : Nat}
    (inv : seederDiscipline.Inv memory others) (idle : memory.entering = false) (next : SeederThread)
    (checked : next = if memory.accepting then .exchangeInflight else .finished) :
    seederDiscipline.Inv { memory with entering := memory.accepting }
        (others + seederDiscipline.share next) ∧
      (memory.seenDrained = true → next.seeds = false) := by
  have bound : others ≤ memory.seedInflight.toNat + memory.entering.toNat := inv.1
  rw [idle] at bound
  cases accepts : memory.accepting with
  | false =>
      rw [accepts] at checked
      subst checked
      exact ⟨⟨bound, fun _ => rfl, inv.2.2⟩, fun _ => rfl⟩
  | true =>
      have unseen : memory.seenDrained ≠ true := fun seen => by
        rw [inv.2.1 seen] at accepts
        cases accepts
      rw [accepts] at checked
      subst checked
      exact ⟨⟨Nat.succ_le_succ bound, fun seen => absurd seen unseen, inv.2.2⟩,
        fun seen => absurd seen unseen⟩

theorem seeder_followed : seederDiscipline.Followed seederProgram fun _ _ _ => True where
  enters := by
    intro memory call
    cases call <;> exact ⟨rfl, fun _ => rfl⟩
  keeps := by
    intro memory thread outcome after next others _ advanced inv own
    cases thread with
    | loadAccepting =>
        obtain ⟨idle, passed⟩ := Option.ite_none_left_eq_some.mp advanced
        cases passed
        obtain ⟨kept, quiet⟩ := loadAccepting_keeps inv (Bool.eq_false_iff.mpr idle) _ rfl
        exact ⟨kept, quiet, fun _ _ kept => kept⟩
    | exchangeInflight =>
        simp only [seederProgram, advanceSeeder] at advanced
        have counted : others + 1 ≤ memory.seedInflight.toNat + memory.entering.toNat := inv.1
        have entering := Bool.toNat_le memory.entering
        cases taken : memory.seedInflight with
        | true =>
            rw [taken] at advanced counted
            cases advanced
            refine ⟨⟨?_, inv.2⟩, fun _ => rfl, fun _ _ kept => kept⟩
            change others + 1 ≤ 1 + memory.entering.toNat at counted
            change others ≤ 1
            omega
        | false =>
            rw [taken] at advanced counted
            cases advanced
            refine ⟨⟨?_, inv.2⟩, own, fun _ _ kept => kept⟩
            change others + 1 ≤ 0 + memory.entering.toNat at counted
            change others + 1 ≤ 1
            omega
    | buildPlan =>
        cases outcome with
        | planned jobs =>
            cases advanced
            exact Discipline.keeps_unchanged inv rfl own
        | failed =>
            cases advanced
            exact Discipline.keeps_unchanged inv rfl own
        | enqueued outcome => cases advanced
    | enqueue left =>
        cases left with
        | zero =>
            cases advanced
            exact Discipline.keeps_unchanged inv rfl own
        | succ left =>
            cases outcome with
            | planned jobs => cases advanced
            | failed =>
                cases advanced
                exact Discipline.keeps_unchanged inv rfl own
            | enqueued outcome =>
                cases advanced
                have early : ¬memory.seenDrained = true := fun seen => by cases own seen
                rw [if_neg early]
                exact Discipline.keeps_unchanged inv rfl own
    | storeInflight =>
        cases advanced
        refine ⟨⟨?_, inv.2⟩, fun _ => rfl, fun _ _ kept => kept⟩
        have one : others + 1 ≤ memory.seedInflight.toNat + memory.entering.toNat := inv.1
        have most := Bool.toNat_le memory.seedInflight
        change others ≤ 0 + memory.entering.toNat
        omega
    | exchangeAccepting =>
        cases advanced
        exact ⟨⟨inv.1, fun _ => rfl, inv.2.2⟩, fun _ => rfl, fun _ _ kept => kept⟩
    | isDrained =>
        obtain ⟨idle, observed⟩ := Option.ite_none_left_eq_some.mp advanced
        cases observed
        refine ⟨⟨inv.1, ?_, inv.2.2⟩, fun _ => rfl, ?_⟩
        · intro seen
          rcases Bool.or_eq_true_iff.mp seen with before | now
          · exact inv.2.1 before
          · exact (quiet_of_load now).1
        · intro other bounded kept seen
          rcases Bool.or_eq_true_iff.mp seen with before | now
          · exact kept before
          · -- neither a run that owns the flag nor one that is entering
            have alone : others ≤ memory.seedInflight.toNat + memory.entering.toNat := inv.1
            rw [(quiet_of_load now).2, Bool.eq_false_iff.mpr idle] at alone
            exact not_seeds_of_share (Nat.le_trans bounded alone)
    | finished => cases advanced

/-- No job has been enqueued since the stopped seeder was seen idle. -/
def SeedsDrained (state : Threads SeederState SeederThread) : Prop := state.memory.lateJobs = []

/-- No seed run enqueues behind an observed drain. -/
theorem seedsDrained_of_reachable {state : Threads SeederState SeederThread}
    (reachable : seederSystem.Reachable state) : SeedsDrained state := by
  obtain ⟨inv, -⟩ := seeder_followed.reachable
    ⟨Nat.zero_le _, (fun seen => by cases seen), rfl⟩
    (reachable.mono fun _ action _ => ThreadProgram.allows_all action)
  exact inv.2.2

end Seeds

section Claim

/-- The three drains are safe in every interleaving. -/
theorem drain_protocols_safe (settings : RuntimeSettings)
    (runtime : Threads ProcessRuntimeState RuntimeThread) (worker : Threads StorageWorkerState WorkerThread)
    (seeder : Threads SeederState SeederThread) :
    ((runtimeSystem settings).Reachable runtime → RequestsDrained runtime) ∧
      (workerSystem.Reachable worker → PollsDrained worker) ∧
      (seederSystem.Reachable seeder → SeedsDrained seeder) :=
  ⟨requestsDrained_of_reachable settings, pollsDrained_of_reachable, seedsDrained_of_reachable⟩

/-- A request is served through the drain, and a poll and a seed run end before theirs is observed. -/
theorem drains_observed :
    (∃ state, RequestsDrained state ∧ state.memory.seenDrained = true) ∧
      (∃ state, PollsDrained state ∧ state.memory.seenDrained = true) ∧
      ∃ state, SeedsDrained state ∧ state.memory.seenDrained = true := by
  obtain ⟨served, reached, observed⟩ := (runtimeSystem ⟨.all, true⟩).exists_reachable_of_run
    [.enter .markInitialized, .advance 0 false, .enter .businessRequest, .advance 1 false,
      .advance 1 false, .advance 1 false, .advance 1 false, .advance 1 false, .enter .beginDrain,
      .advance 2 false, .advance 2 false, .advance 1 false, .advance 1 false, .advance 1 true,
      .advance 1 false, .enter .isApiDrained, .advance 3 false]
    (fun state => state.memory.seenDrained) rfl (by decide)
  obtain ⟨polled, arrived, quiet⟩ := workerSystem.exists_reachable_of_run
    [.enter .pollOnce, .advance 0 .failed, .advance 0 .failed, .advance 0 .failed, .advance 0 .failed,
      .enter .beginDrain, .advance 1 .failed, .advance 0 .claimed, .advance 0 .failed,
      .advance 0 .failed, .enter .isDrained, .advance 2 .failed]
    (fun state => state.memory.seenDrained) rfl (by decide)
  -- the seeder is stopped between the load and the exchange
  obtain ⟨seeded, ended, idle⟩ := seederSystem.exists_reachable_of_run
    [.enter .seedOnce, .advance 0 .failed, .enter .stop, .advance 1 .failed, .advance 0 .failed,
      .advance 0 (.planned 1), .advance 0 (.enqueued .inserted), .advance 0 .failed,
      .advance 0 .failed, .enter .isDrained, .advance 2 .failed]
    (fun state => state.memory.seenDrained) rfl (by decide)
  obtain ⟨requests, polls, seeds⟩ := drain_protocols_safe ⟨.all, true⟩ served polled seeded
  exact ⟨⟨served, requests reached, observed⟩, ⟨polled, polls arrived, quiet⟩, ⟨seeded, seeds ended, idle⟩⟩

end Claim

section Resumes

variable {Outcome : Type} {awaiter next : Awaiter Outcome}

/-- Where the two threads can be. -/
def Awaiter.Sound (awaiter : Awaiter Outcome) : Prop :=
  match awaiter.flag, awaiter.suspend, awaiter.callback with
  | .initializing, .register, none
  | .initializing, .exchange, some .store
  | .suspended, .returned, some .store => awaiter.resumed = []
  | .initializing, .exchange, some .exchange
  | .completed, .exchange, some .returned
  | .suspended, .returned, some .exchange
  | .suspended, .returned, some .resume => awaiter.resumed = [] ∧ awaiter.stored.isSome
  | .completed, .returned, some .returned
  | .suspended, .returned, some .returned => awaiter.resumed = [awaiter.stored] ∧ awaiter.stored.isSome
  | _, _, _ => False

/-- Every step keeps the awaiter sound. -/
theorem Awaiter.Sound.step {action : Option Outcome} (sound : awaiter.Sound)
    (moved : (awaiterSystem Outcome).step awaiter action = some next) : next.Sound := by
  cases action <;> grind [Awaiter.Sound, awaiterSystem, Awaiter.awaitSuspend, Awaiter.runCallback]

/-- The coroutine goes on once, with the stored outcome, exactly when both threads have left the awaiter. -/
theorem awaiter_resumes_once (reachable : (awaiterSystem Outcome).Reachable awaiter) :
    if awaiter.suspend = .returned ∧ awaiter.callback = some .returned then
      ∃ outcome, awaiter.stored = some outcome ∧ awaiter.resumed = [some outcome]
    else awaiter.resumed = [] := by
  have sound : awaiter.Sound := reachable.invariant Awaiter.Sound
    (by rintro _ rfl; rfl) fun _ _ _ sound _ moved => sound.step moved
  grind [Awaiter.Sound, Option.isSome_iff_exists]

/-- A coroutine that was suspended. -/
theorem awaiter_resumes_once_suspended : ∃ awaiter : Awaiter Bool, awaiter.flag = .suspended ∧
    ∃ outcome, awaiter.stored = some outcome ∧ awaiter.resumed = [some outcome] := by
  obtain ⟨awaiter, reachable, checked⟩ := (awaiterSystem Bool).exists_reachable_of_run
    [none, none, some true, some true, some true] (fun awaiter => awaiter.flag = .suspended ∧
      awaiter.suspend = .returned ∧ awaiter.callback = some .returned) rfl (by decide)
  simp only [decide_eq_true_eq] at checked
  exact ⟨awaiter, checked.1, by simpa [checked.2] using awaiter_resumes_once reachable⟩

end Resumes

end DiskServer.Runtime
