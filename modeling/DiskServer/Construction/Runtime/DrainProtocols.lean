import DiskServer.Library.Threads

/-
This file gives the atomic operations of the process runtime, the storage worker runtime and the periodic
seeder that admit work and drain, and of an awaiter of a transaction.
-/

namespace DiskServer.Runtime

open Library

section Process

inductive ProcessRole where
  | api
  | worker
  | all
  deriving DecidableEq, Repr

def includesApi (role : ProcessRole) : Bool := role = .api || role = .all

def includesWorker (role : ProcessRole) : Bool := role = .worker || role = .all

structure RuntimeSettings where
  role : ProcessRole
  workerClaimingRequested : Bool
  deriving DecidableEq, Repr

def RuntimeSettings.workerClaimingEnabled (settings : RuntimeSettings) : Bool :=
  includesWorker settings.role && settings.workerClaimingRequested

/-- The atomic fields of a process runtime state. The last field remembers that IsApiDrained has been
true behind BeginDrain. -/
structure ProcessRuntimeState where
  initialized : Bool
  draining : Bool
  workerAccepting : Bool
  businessRequestsInflight : Nat
  seenDrained : Bool
  deriving DecidableEq, Repr

def ProcessRuntimeState.fresh : ProcessRuntimeState := ⟨false, false, false, 0, false⟩

/-- A thread is named by the atomic operation that it executes next. The flag of CanAcceptBusinessRequest
says whether it is the second check, the flag of ReleaseBusinessRequest whether the request was
admitted. -/
inductive RuntimeThread where
  | loadInitialized (secondCheck : Bool)
  | loadDraining (secondCheck : Bool)
  | fetchAdd
  | admitted
  | loadInflight (wasAdmitted : Bool)
  | compareExchange (wasAdmitted : Bool) (current : Nat)
  | markInitialized
  | setWorkerAccepting (accepting : Bool)
  | storeWorkerAccepting (accepting : Bool)
  | exchangeDraining
  | isApiDrained
  | finished
  deriving DecidableEq, Repr

def RuntimeThread.inProgress : RuntimeThread → Bool
  | .admitted => true
  | .loadInflight wasAdmitted => wasAdmitted
  | .compareExchange wasAdmitted _ => wasAdmitted
  | _ => false

inductive RuntimeCall where
  | businessRequest
  | markInitialized
  | setWorkerAccepting (accepting : Bool)
  | beginDrain
  | isApiDrained
  deriving DecidableEq, Repr

def RuntimeCall.enter : RuntimeCall → RuntimeThread
  | .businessRequest => .loadInitialized false
  | .markInitialized => .markInitialized
  | .setWorkerAccepting accepting => .setWorkerAccepting accepting
  | .beginDrain => .exchangeDraining
  | .isApiDrained => .isApiDrained

def refuseBusinessRequest (secondCheck : Bool) : RuntimeThread :=
  if secondCheck then .loadInflight false else .finished

def releaseRound (wasAdmitted : Bool) (current : Nat) : RuntimeThread :=
  if 0 < current then .compareExchange wasAdmitted current else .finished

def advanceRuntime (settings : RuntimeSettings) (memory : ProcessRuntimeState) :
    RuntimeThread → Bool → Option (ProcessRuntimeState × RuntimeThread)
  | .loadInitialized secondCheck, _ =>
      some (memory, if includesApi settings.role && memory.initialized then .loadDraining secondCheck
        else refuseBusinessRequest secondCheck)
  | .loadDraining secondCheck, _ =>
      some (memory, if memory.draining then refuseBusinessRequest secondCheck
        else if secondCheck then .admitted else .fetchAdd)
  | .fetchAdd, _ =>
      some ({ memory with businessRequestsInflight := memory.businessRequestsInflight + 1 },
        .loadInitialized true)
  | .admitted, _ => some (memory, .loadInflight true)
  | .loadInflight wasAdmitted, _ =>
      some (memory, releaseRound wasAdmitted memory.businessRequestsInflight)
  | .compareExchange wasAdmitted current, spurious =>
      if memory.businessRequestsInflight = current ∧ spurious = false then
        some ({ memory with businessRequestsInflight := current - 1 }, .finished)
      else some (memory, releaseRound wasAdmitted memory.businessRequestsInflight)
  | .markInitialized, _ => some ({ memory with initialized := true }, .finished)
  | .setWorkerAccepting accepting, _ =>
      some (memory, .storeWorkerAccepting
        (accepting && settings.workerClaimingEnabled && !memory.draining))
  | .storeWorkerAccepting accepting, _ =>
      some ({ memory with workerAccepting := accepting }, .finished)
  | .exchangeDraining, _ => some ({ memory with draining := true }, .storeWorkerAccepting false)
  | .isApiDrained, _ =>
      some ({ memory with
        seenDrained := memory.seenDrained ||
          (memory.draining && memory.businessRequestsInflight == 0) }, .finished)
  | .finished, _ => none

def runtimeProgram (settings : RuntimeSettings) :
    ThreadProgram ProcessRuntimeState RuntimeThread RuntimeCall Bool where
  enter := RuntimeCall.enter
  advance := advanceRuntime settings

def runtimeSystem (settings : RuntimeSettings) :
    TransitionSystem (Threads ProcessRuntimeState RuntimeThread) (ThreadAction RuntimeCall Bool) :=
  (runtimeProgram settings).system .fresh

end Process

section Worker

/-- The atomic fields of a storage worker runtime. The last field remembers that IsDrained has been
true behind BeginDrain. -/
structure StorageWorkerState where
  accepting : Bool
  pollInflight : Bool
  seenDrained : Bool
  deriving DecidableEq, Repr

def StorageWorkerState.fresh : StorageWorkerState := ⟨true, false, false⟩

inductive RunOutcome where
  | failed
  | nothingClaimed
  | claimed
  | threw
  | threwUnknown
  deriving DecidableEq, Repr

inductive WorkerThread where
  | loadAccepting
  | exchangeInflight
  | reloadAccepting
  | loopAccepting
  | running
  | storeInflight
  | exchangeAccepting
  | isDrained
  | finished
  deriving DecidableEq, Repr

inductive WorkerCall where
  | pollOnce
  | beginDrain
  | isDrained
  deriving DecidableEq, Repr

def WorkerCall.enter : WorkerCall → WorkerThread
  | .pollOnce => .loadAccepting
  | .beginDrain => .exchangeAccepting
  | .isDrained => .isDrained

/-- The loop goes on after a round that has claimed jobs. An exception of another type leaves the poll
without a reset of the flag. -/
def afterRun : RunOutcome → WorkerThread
  | .failed => .storeInflight
  | .nothingClaimed => .storeInflight
  | .claimed => .loopAccepting
  | .threw => .storeInflight
  | .threwUnknown => .finished

def advanceWorker (memory : StorageWorkerState) :
    WorkerThread → RunOutcome → Option (StorageWorkerState × WorkerThread)
  | .loadAccepting, _ => some (memory, if memory.accepting then .exchangeInflight else .finished)
  | .exchangeInflight, _ =>
      some ({ memory with pollInflight := true },
        if memory.pollInflight then .finished else .reloadAccepting)
  | .reloadAccepting, _ => some (memory, if memory.accepting then .loopAccepting else .storeInflight)
  | .loopAccepting, _ => some (memory, if memory.accepting then .running else .storeInflight)
  | .running, outcome => some (memory, afterRun outcome)
  | .storeInflight, _ => some ({ memory with pollInflight := false }, .finished)
  | .exchangeAccepting, _ => some ({ memory with accepting := false }, .finished)
  | .isDrained, _ =>
      some ({ memory with
        seenDrained := memory.seenDrained || (!memory.accepting && !memory.pollInflight) }, .finished)
  | .finished, _ => none

def workerProgram : ThreadProgram StorageWorkerState WorkerThread WorkerCall RunOutcome where
  enter := WorkerCall.enter
  advance := advanceWorker

def workerSystem :
    TransitionSystem (Threads StorageWorkerState WorkerThread) (ThreadAction WorkerCall RunOutcome) :=
  workerProgram.system .fresh

end Worker

section Seeder

inductive EnqueueOutcome where
  | inserted
  | deduplicated
  deriving DecidableEq, Repr

/-- The atomic fields of the initialized seeder. The event loop is entering while it is between the load
and the exchange of a seed run, which no suspension separates. The last two fields remember that
IsDrained has been true behind Stop and what Enqueue has answered since then. -/
structure SeederState where
  accepting : Bool
  seedInflight : Bool
  entering : Bool
  seenDrained : Bool
  lateJobs : List EnqueueOutcome
  deriving DecidableEq, Repr

def SeederState.initialized : SeederState := ⟨true, false, false, false, []⟩

inductive SeederThread where
  | loadAccepting
  | exchangeInflight
  | buildPlan
  | enqueue (left : Nat)
  | storeInflight
  | exchangeAccepting
  | isDrained
  | finished
  deriving DecidableEq, Repr

/-- The timer and the queue of the event loop start the seed runs, and its shutdown timer is the one
caller of IsDrained. Stop comes from any thread. -/
inductive SeederCall where
  | seedOnce
  | stop
  | isDrained
  deriving DecidableEq, Repr

def SeederCall.enter : SeederCall → SeederThread
  | .seedOnce => .loadAccepting
  | .stop => .exchangeAccepting
  | .isDrained => .isDrained

inductive SeedOutcome where
  | planned (jobs : Nat)
  | enqueued (outcome : EnqueueOutcome)
  | failed
  deriving DecidableEq, Repr

/-- The destructor of InflightReset stores the flag on every way out of a seed run that has set it.
Enqueue suspends a run, so its later operations interleave with everything. -/
def advanceSeeder (memory : SeederState) :
    SeederThread → SeedOutcome → Option (SeederState × SeederThread)
  | .loadAccepting, _ =>
      if memory.entering then none
      else some ({ memory with entering := memory.accepting },
        if memory.accepting then .exchangeInflight else .finished)
  | .exchangeInflight, _ =>
      some ({ memory with seedInflight := true, entering := false },
        if memory.seedInflight then .finished else .buildPlan)
  | .buildPlan, .planned jobs => some (memory, .enqueue jobs)
  | .buildPlan, .failed => some (memory, .storeInflight)
  | .buildPlan, .enqueued _ => none
  | .enqueue 0, _ => some (memory, .storeInflight)
  | .enqueue (left + 1), .enqueued outcome =>
      some ({ memory with
        lateJobs := if memory.seenDrained then outcome :: memory.lateJobs else memory.lateJobs },
        .enqueue left)
  | .enqueue (_ + 1), .failed => some (memory, .storeInflight)
  | .enqueue (_ + 1), .planned _ => none
  | .storeInflight, _ => some ({ memory with seedInflight := false }, .finished)
  | .exchangeAccepting, _ => some ({ memory with accepting := false }, .finished)
  | .isDrained, _ =>
      if memory.entering then none
      else some ({ memory with
        seenDrained := memory.seenDrained || (!memory.accepting && !memory.seedInflight) }, .finished)
  | .finished, _ => none

def seederProgram : ThreadProgram SeederState SeederThread SeederCall SeedOutcome where
  enter := SeederCall.enter
  advance := advanceSeeder

def seederSystem :
    TransitionSystem (Threads SeederState SeederThread) (ThreadAction SeederCall SeedOutcome) :=
  seederProgram.system .initialized

end Seeder

section Awaiters

inductive AwaiterFlag where
  | initializing
  | suspended
  | completed
  deriving DecidableEq, Repr

inductive AwaiterThread where
  | register
  | store
  | exchange
  | resume
  | returned
  deriving DecidableEq, Repr

structure Awaiter (Outcome : Type) where
  flag : AwaiterFlag
  stored : Option Outcome
  suspend : AwaiterThread
  callback : Option AwaiterThread
  resumed : List (Option Outcome)

variable {Outcome : Type} (awaiter : Awaiter Outcome)

def Awaiter.awaitSuspend : Option (Awaiter Outcome) :=
  match awaiter.suspend with
  | .register => some { awaiter with suspend := .exchange, callback := some .store }
  | .exchange =>
      if awaiter.flag = .initializing then
        some { awaiter with flag := .suspended, suspend := .returned }
      else
        some { awaiter with suspend := .returned, resumed := awaiter.stored :: awaiter.resumed }
  | _ => none

def Awaiter.runCallback (outcome : Outcome) : Option (Awaiter Outcome) :=
  match awaiter.callback, awaiter.flag with
  | some .store, _ => some { awaiter with stored := some outcome, callback := some .exchange }
  | some .exchange, .initializing =>
      some { awaiter with flag := .completed, callback := some .returned }
  | some .exchange, .suspended => some { awaiter with callback := some .resume }
  | some .exchange, .completed => some { awaiter with callback := some .returned }
  | some .resume, _ =>
      some { awaiter with callback := some .returned, resumed := awaiter.stored :: awaiter.resumed }
  | _, _ => none

/-- The database runs the callback once, with any outcome, inside of await_suspend or on another thread. -/
def awaiterSystem (Outcome : Type) : TransitionSystem (Awaiter Outcome) (Option Outcome) where
  initial := fun awaiter => awaiter = ⟨.initializing, none, .register, none, []⟩
  step := fun awaiter action => action.elim awaiter.awaitSuspend awaiter.runCallback

end Awaiters

end DiskServer.Runtime
