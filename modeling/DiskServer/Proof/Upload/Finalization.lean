import DiskServer.Construction.Upload.Finalization
import DiskServer.Proof.Upload.TaskRepository

/-
This file proves that the lease fences every final transaction on an upload task, and how a completed
upload answers later requests.
-/

namespace DiskServer.Upload.Finalization

open Library

/-- The row still holds the pair of this run. -/
def Current (task : UploadTask) (run : CompleteRun) : Prop :=
  task.status = .finalizing ∧ task.leaseOwner = some run.leaseOwner ∧
    task.stateVersion = run.stateVersion

/-- The statements left in a final transaction determine what it has written. -/
structure CompleteSound (task : UploadTask) (run : CompleteRun) (transaction : Transaction) : Prop where
  suffix : transaction.remaining <:+ (TransactionKind.completeUpload run).statements
  unlocked : .renewFinalizeLease ∈ transaction.remaining → transaction.row = none
  locked : .renewFinalizeLease ∉ transaction.remaining → ∃ row, transaction.row = some row ∧
    Current task run ∧ task.stateVersion < row.stateVersion ∧
    row.status = if .markCompletedIfLeaseOwned ∈ transaction.remaining then .finalizing else .completed
  created : transaction.created.length =
    if .insertFileRecord ∈ transaction.remaining then 0 else 1

/-- The other transactions create no file and move the status at most once. -/
structure OtherSound (task : UploadTask) (transaction : Transaction) : Prop where
  progress : (transaction.remaining = transaction.kind.statements ∧ transaction.row = none) ∨
    transaction.remaining <:+ transaction.kind.statements.tail
  created : transaction.created = []
  moved : ∀ row, transaction.row = some row →
    StatusMove task.status row.status ∧ row.status ≠ .completed ∧ task.stateVersion < row.stateVersion

/-- What an open transaction knows of the task. -/
def Sound (task : UploadTask) (transaction : Transaction) : Prop :=
  match transaction.kind with
  | .completeUpload run => CompleteSound task run transaction
  | _ => OtherSound task transaction

theorem sound_start (task : UploadTask) (kind : TransactionKind) (now : Timestamp) :
    Sound task (Transaction.start kind now) := by
  cases kind with
  | completeUpload run =>
      refine ⟨List.suffix_rfl, fun _ => rfl, ?_, rfl⟩
      intro absent
      exact absurd (by simp [Transaction.start, TransactionKind.statements]) absent
  | cancelInProgressUpload userId => exact ⟨.inl ⟨rfl, rfl⟩, rfl, fun _ written => by cases written⟩
  | expireInProgressUpload => exact ⟨.inl ⟨rfl, rfl⟩, rfl, fun _ written => by cases written⟩
  | releaseUploadLease owner version => exact ⟨.inl ⟨rfl, rfl⟩, rfl, fun _ written => by cases written⟩

/-- A transaction that has not written the row does not depend on it. -/
theorem Sound.of_unwritten {task next : UploadTask} {transaction : Transaction}
    (sound : Sound task transaction) (unwritten : transaction.row = none) :
    Sound next transaction := by
  unfold Sound at sound ⊢
  split at sound
  · refine ⟨sound.suffix, sound.unlocked, ?_, sound.created⟩
    intro absent
    obtain ⟨row, written, -⟩ := sound.locked absent
    rw [unwritten] at written
    cases written
  · refine ⟨sound.progress, sound.created, ?_⟩
    intro row written
    rw [unwritten] at written
    cases written

/-- A complete run moves the task from finalizing to completed with exactly one file. -/
theorem CompleteSound.finished {task : UploadTask} {run : CompleteRun} {transaction : Transaction}
    (sound : CompleteSound task run transaction) (done : transaction.remaining = []) :
    ∃ row, transaction.row = some row ∧ Current task run ∧ row.status = .completed ∧
      task.stateVersion < row.stateVersion ∧ transaction.created.length = 1 := by
  obtain ⟨row, written, current, later, status⟩ := sound.locked (by simp [done])
  have created := sound.created
  rw [done] at status created
  exact ⟨row, written, current, by simpa using status, later, by simpa using created⟩

/-- The committed row and the row of the transaction are related by one allowed move. -/
theorem Sound.evolves {task : UploadTask} {transaction : Transaction}
    (sound : Sound task transaction) (done : transaction.remaining = []) :
    Evolves task (transaction.row.getD task) := by
  cases written : transaction.row with
  | none => exact Evolves.refl task
  | some row =>
      unfold Sound at sound
      split at sound
      · obtain ⟨same, written', current, status, later, -⟩ := sound.finished done
        rw [written] at written'
        cases written'
        refine .inr ⟨?_, later⟩
        simp only [Option.getD_some]
        rw [current.1, status]
        exact .complete
      · obtain ⟨moved, -, later⟩ := sound.moved row written
        exact .inr ⟨moved, later⟩

/-- The number of new files matches the change of the status. -/
theorem Sound.created_length {task : UploadTask} {transaction : Transaction}
    (sound : Sound task transaction) (done : transaction.remaining = []) :
    (if task.status = .completed then 1 else 0) + transaction.created.length =
      if (transaction.row.getD task).status = .completed then 1 else 0 := by
  unfold Sound at sound
  split at sound
  · obtain ⟨row, written, current, status, -, one⟩ := sound.finished done
    rw [written, one, current.1]
    simp [status]
  · rw [sound.created]
    cases written : transaction.row with
    | none => simp
    | some row =>
        obtain ⟨moved, incomplete, -⟩ := sound.moved row written
        have before : task.status ≠ .completed := by
          intro completed
          rw [completed] at moved
          cases moved
        simp [before, incomplete]

/-- These facts hold in every state that the statements on one task can reach. -/
structure Invariant (state : State) : Prop where
  counted : state.files.length = if state.task.status = .completed then 1 else 0
  locked : ∀ slot transaction, state.transactions slot = some transaction →
    transaction.row ≠ none → state.lockedBy = some slot
  bounded : ∀ run, state.Holds run → run.stateVersion ≤ state.task.stateVersion
  sound : ∀ slot transaction, state.transactions slot = some transaction →
    Sound state.task transaction

/-- A statement keeps its transaction, or it closes it. -/
inductive Executed (state : State) (slot : Nat) (transaction : Transaction) (next : State) : Prop where
  | closed (transactions : next.transactions = Function.update state.transactions slot none)
      (lock : next.lockedBy = if state.lockedBy = some slot then none else state.lockedBy)
  | advanced (after : Transaction)
      (transactions : next.transactions = Function.update state.transactions slot (some after))
      (kind : after.kind = transaction.kind) (row : after.row = transaction.row)
      (lock : next.lockedBy = state.lockedBy) (sound : Sound state.task after)
  | written (after : Transaction)
      (transactions : next.transactions = Function.update state.transactions slot (some after))
      (kind : after.kind = transaction.kind)
      (free : state.lockedBy = none ∨ state.lockedBy = some slot)
      (lock : next.lockedBy = some slot) (sound : Sound state.task after)

theorem advance_executed {state bumped next : State} {slot : Nat} {succeeds : Bool}
    {transaction after : Transaction}
    (advanced : bumped.advance slot succeeds after = some next)
    (transactions : bumped.transactions = state.transactions) (lock : bumped.lockedBy = state.lockedBy)
    (kind : after.kind = transaction.kind) (row : after.row = transaction.row)
    (sound : Sound state.task after) : Executed state slot transaction next := by
  unfold State.advance at advanced
  split at advanced
  · cases advanced
    exact .advanced after (by simp [State.put, transactions]) kind row lock sound
  · cases advanced
    exact .closed (by simp [State.close, transactions]) (by simp [State.close, lock])

theorem lockRow_executed {state next : State} {slot : Nat} {transaction after : Transaction}
    (locked : state.lockRow slot after = some next) (kind : after.kind = transaction.kind)
    (sound : Sound state.task after) : Executed state slot transaction next := by
  unfold State.lockRow at locked
  split at locked
  · rename_i free
    cases locked
    exact .written after rfl kind free rfl sound
  · cases locked

/-- A statement on another table leaves the account of the transaction as it is. -/
theorem CompleteSound.skip {task : UploadTask} {run : CompleteRun} {transaction : Transaction}
    {statement : Statement} {rest : List Statement} (sound : CompleteSound task run transaction)
    (left : transaction.remaining = statement :: rest) (notRenew : statement ≠ .renewFinalizeLease)
    (notInsert : statement ≠ .insertFileRecord) (notComplete : statement ≠ .markCompletedIfLeaseOwned)
    (chunksDeleted : Bool) :
    CompleteSound task run { transaction with remaining := rest, chunksDeleted := chunksDeleted } := by
  obtain ⟨suffix, unlocked, locked, created⟩ := sound
  simp only [left, List.mem_cons, notRenew.symm, notInsert.symm, notComplete.symm, false_or]
    at suffix unlocked locked created
  exact ⟨(List.suffix_cons statement rest).trans suffix, unlocked, locked, created⟩

/-- One statement of a final transaction keeps the account of what it has written. -/
theorem complete_executed {state next : State} {slot : Nat} {transaction : Transaction}
    {run : CompleteRun} {statement : Statement} {rest : List Statement} {succeeds : Bool}
    (kind : transaction.kind = .completeUpload run) (sound : CompleteSound state.task run transaction)
    (left : transaction.remaining = statement :: rest)
    (executed : state.executeStatement slot transaction statement rest succeeds = some next) :
    Executed state slot transaction next := by
  obtain ⟨_, startedAt, _, row, stateVersion, created, chunksDeleted⟩ := transaction
  obtain rfl := kind
  obtain rfl := left
  have skipped := sound.skip rfl
  obtain ⟨suffix, unlocked, locked, counted⟩ := sound
  simp only [TransactionKind.statements, List.suffix_cons_iff, List.cons.injEq, List.suffix_nil,
    reduceCtorEq, or_false] at suffix
  -- The remaining list is one of the nine suffixes of the program, in program order.
  rcases suffix with ⟨rfl, rfl⟩ | ⟨rfl, rfl⟩ | ⟨rfl, rfl⟩ | ⟨rfl, rfl⟩ | ⟨rfl, rfl⟩ | ⟨rfl, rfl⟩ |
    ⟨rfl, rfl⟩ | ⟨rfl, rfl⟩ | ⟨rfl, rfl⟩
  all_goals simp only [State.executeStatement] at executed
  case inl =>
    obtain rfl : row = none := unlocked (by simp)
    simp only [Option.getD_none] at executed
    split at executed
    · cases executed
      exact .closed rfl rfl
    · rename_i renewed success
      obtain ⟨status, owner, version, finalizing, later⟩ := renewFinalizeLease_some success
      refine lockRow_executed executed rfl ⟨?_, by simp, ?_, by simpa using counted⟩
      · exact List.suffix_cons _ _
      · intro _
        exact ⟨renewed, rfl, ⟨status, owner, version⟩, by omega, by simpa using finalizing⟩
  case inr.inr.inr.inl =>
    refine advance_executed executed rfl rfl rfl rfl ⟨?_, by simp, ?_, ?_⟩
    · simp [TransactionKind.statements, List.suffix_cons_iff]
    · intro _
      simpa using locked (by simp)
    · simpa using counted
  case inr.inr.inr.inr.inr.inr.inl =>
    obtain ⟨held, written, current, later, finalizing⟩ := locked (by simp)
    obtain rfl : row = some held := written
    split at executed
    · cases executed
      exact .closed rfl rfl
    · split at executed
      · cases executed
        exact .closed rfl rfl
      · rename_i completed success
        obtain ⟨-, status, version⟩ := markCompletedIfLeaseOwned_some success
        simp only [Option.getD_some] at version
        refine lockRow_executed executed rfl ⟨?_, by simp, ?_, by simpa using counted⟩
        · simp [TransactionKind.statements, List.suffix_cons_iff]
        · intro _
          exact ⟨completed, rfl, current, by omega, by simpa using status⟩
  all_goals
    refine advance_executed executed rfl rfl rfl rfl (skipped ?_ ?_ ?_ _) <;> decide

/-- One statement of another transaction writes the row at most once. -/
theorem other_executed {state next : State} {slot : Nat} {transaction : Transaction}
    {statement : Statement} {rest : List Statement} {succeeds : Bool}
    (other : ∀ run, transaction.kind ≠ .completeUpload run) (sound : OtherSound state.task transaction)
    (left : transaction.remaining = statement :: rest)
    (executed : state.executeStatement slot transaction statement rest succeeds = some next) :
    Executed state slot transaction next := by
  obtain ⟨kind, startedAt, _, row, stateVersion, created, chunksDeleted⟩ := transaction
  obtain rfl := left
  obtain ⟨progress, counted, moved⟩ := sound
  cases kind with
  | completeUpload run => exact absurd rfl (other run)
  | cancelInProgressUpload userId =>
      simp only [TransactionKind.statements, List.suffix_cons_iff, List.cons.injEq, List.suffix_nil,
        reduceCtorEq, or_false, List.tail_cons] at progress
      rcases progress with ⟨⟨rfl, rfl⟩, rfl⟩ | ⟨rfl, rfl⟩ | ⟨rfl, rfl⟩ | ⟨rfl, rfl⟩
      · simp only [State.executeStatement, Option.getD_none] at executed
        split at executed
        · cases executed
          exact .advanced _ rfl rfl rfl rfl ⟨.inr List.nil_suffix, counted, moved⟩
        · rename_i cancelled success
          refine lockRow_executed executed rfl ⟨.inr List.suffix_rfl, counted, ?_⟩
          rintro row ⟨⟩
          obtain ⟨move, status, later⟩ := markCancelledIfInProgress_some success
          exact ⟨move, by simp [status], later⟩
      all_goals
        simp only [State.executeStatement] at executed
        refine advance_executed executed rfl rfl rfl rfl ⟨.inr ?_, counted, moved⟩
        simp [TransactionKind.statements, List.suffix_cons_iff]
  | expireInProgressUpload =>
      simp only [TransactionKind.statements, List.suffix_cons_iff, List.cons.injEq, List.suffix_nil,
        reduceCtorEq, or_false, List.tail_cons] at progress
      rcases progress with ⟨⟨rfl, rfl⟩, rfl⟩ | ⟨rfl, rfl⟩ | ⟨rfl, rfl⟩ | ⟨rfl, rfl⟩
      · simp only [State.executeStatement, Option.getD_none] at executed
        split at executed
        · cases executed
          exact .advanced _ rfl rfl rfl rfl ⟨.inr List.nil_suffix, counted, moved⟩
        · rename_i expired success
          refine lockRow_executed executed rfl ⟨.inr List.suffix_rfl, counted, ?_⟩
          rintro row ⟨⟩
          obtain ⟨move, status, later⟩ := markExpiredIfInProgress_some success
          exact ⟨move, by simp [status], later⟩
      all_goals
        simp only [State.executeStatement] at executed
        refine advance_executed executed rfl rfl rfl rfl ⟨.inr ?_, counted, moved⟩
        simp [TransactionKind.statements, List.suffix_cons_iff]
  | releaseUploadLease owner version =>
      simp only [TransactionKind.statements, List.suffix_cons_iff, List.cons.injEq, List.suffix_nil,
        reduceCtorEq, or_false, List.tail_cons] at progress
      rcases progress with ⟨⟨rfl, rfl⟩, rfl⟩ | ⟨rfl, rfl⟩
      · simp only [State.executeStatement, Option.getD_none] at executed
        split at executed
        · cases executed
          exact .closed rfl rfl
        · rename_i released success
          refine lockRow_executed executed rfl ⟨.inr List.suffix_rfl, counted, ?_⟩
          rintro row ⟨⟩
          obtain ⟨move, status, later⟩ := releaseUploadLease_some success
          exact ⟨move, by simp [status], later⟩
      · simp only [State.executeStatement] at executed
        exact advance_executed executed rfl rfl rfl rfl ⟨.inr (List.nil_suffix), counted, moved⟩

theorem executeStatement_executed {state next : State} {slot : Nat} {transaction : Transaction}
    {statement : Statement} {rest : List Statement} {succeeds : Bool}
    (sound : Sound state.task transaction) (left : transaction.remaining = statement :: rest)
    (executed : state.executeStatement slot transaction statement rest succeeds = some next) :
    Executed state slot transaction next := by
  cases kind : transaction.kind with
  | completeUpload run =>
      rw [Sound, kind] at sound
      exact complete_executed kind sound left executed
  | cancelInProgressUpload userId =>
      rw [Sound, kind] at sound
      exact other_executed (by simp [kind]) sound left executed
  | expireInProgressUpload =>
      rw [Sound, kind] at sound
      exact other_executed (by simp [kind]) sound left executed
  | releaseUploadLease owner version =>
      rw [Sound, kind] at sound
      exact other_executed (by simp [kind]) sound left executed

/-- A statement inside a transaction leaves the committed rows alone. -/
theorem executeStatement_frame {state next : State} {slot : Nat} {transaction : Transaction}
    {statement : Statement} {rest : List Statement} {succeeds : Bool}
    (executed : state.executeStatement slot transaction statement rest succeeds = some next) :
    next.task = state.task ∧ next.files = state.files ∧ next.runs = state.runs ∧
      next.deletedFiles = state.deletedFiles := by
  unfold State.executeStatement at executed
  simp only [State.advance, State.lockRow, State.put, State.close] at executed
  repeat' split at executed
  all_goals
    first
      | cases executed
        exact ⟨rfl, rfl, rfl, rfl⟩
      | cases executed

theorem start_invariant {state : State} (started : initial state) : Invariant state := by
  obtain ⟨⟨now, task, created⟩, -, files, runs, transactions, -⟩ := started
  refine ⟨by simp [files, created, create], ?_, ?_, ?_⟩
  · intro slot transaction held
    rw [transactions] at held
    cases held
  · rintro run (⟨slot, held⟩ | ⟨slot, transaction, held, -⟩)
    · rw [runs] at held
      cases held
    · rw [transactions] at held
      cases held
  · intro slot transaction held
    rw [transactions] at held
    cases held

namespace Invariant

variable {state next : State}

/-- A free row lets no open transaction depend on the committed row. -/
theorem unwritten (invariant : Invariant state) {slot : Nat} {transaction : Transaction}
    (held : state.transactions slot = some transaction) (free : state.lockedBy ≠ some slot) :
    transaction.row = none := by
  by_contra written
  exact free (invariant.locked slot transaction held written)

/-- An autocommitted write keeps the invariant while the row is free. -/
theorem write (invariant : Invariant state) (free : state.lockedBy = none)
    (evolves : Evolves state.task next.task) (open_ : next.task.status ≠ .completed ∨
      next.task.status = state.task.status)
    (files : next.files = state.files) (transactions : next.transactions = state.transactions)
    (bounded : ∀ slot run, next.runs slot = some run →
      state.runs slot = some run ∨ run.stateVersion ≤ next.task.stateVersion) :
    Invariant next := by
  have rowFree : ∀ {slot transaction}, state.transactions slot = some transaction →
      transaction.row = none := fun held => invariant.unwritten held (by simp [free])
  refine ⟨?_, ?_, ?_, ?_⟩
  · rw [files, invariant.counted]
    have grown := evolves.status_move
    rcases open_ with incomplete | same
    · have before : state.task.status ≠ .completed := by
        intro completed
        rcases grown with same | moved
        · exact incomplete (same.trans completed)
        · rw [completed] at moved
          cases moved
      simp [incomplete, before]
    · rw [same]
  · intro slot transaction held written
    rw [transactions] at held
    exact absurd (rowFree held) written
  · rintro run (⟨slot, held⟩ | ⟨slot, transaction, held, kind⟩)
    · rcases bounded slot run held with old | fresh
      · exact Nat.le_trans (invariant.bounded run (.inl ⟨slot, old⟩)) evolves.version_le
      · exact fresh
    · rw [transactions] at held
      exact Nat.le_trans (invariant.bounded run (.inr ⟨slot, transaction, held, kind⟩)) evolves.version_le
  · intro slot transaction held
    rw [transactions] at held
    exact (invariant.sound slot transaction held).of_unwritten (rowFree held)

/-- A step that changes no committed row keeps the invariant when it loses no transaction's lock. -/
theorem frame (invariant : Invariant state) (task : next.task = state.task)
    (files : next.files = state.files)
    (bounded : ∀ run, next.Holds run → run.stateVersion ≤ state.task.stateVersion)
    (transactions : ∀ slot transaction, next.transactions slot = some transaction →
      Sound state.task transaction ∧ (transaction.row ≠ none → next.lockedBy = some slot)) :
    Invariant next := by
  refine ⟨by rw [files, task, invariant.counted], ?_, ?_, ?_⟩
  · intro slot transaction held
    exact (transactions slot transaction held).2
  · intro run held
    rw [task]
    exact bounded run held
  · intro slot transaction held
    rw [task]
    exact (transactions slot transaction held).1

theorem afterBegin (invariant : Invariant state) {slot : Nat} {kind : TransactionKind}
    (begun : state.begin slot kind = some next)
    (known : ∀ run, kind = .completeUpload run → run.stateVersion ≤ state.task.stateVersion) :
    Invariant next := by
  unfold State.begin at begun
  split at begun
  · cases begun
    refine invariant.frame rfl rfl ?_ ?_
    · rintro run (⟨other, held⟩ | ⟨other, transaction, held, kindEq⟩)
      · exact invariant.bounded run (.inl ⟨other, held⟩)
      · rcases update_some_cases held with ⟨rfl, new⟩ | ⟨-, old⟩
        · cases new
          exact known run kindEq
        · exact invariant.bounded run (.inr ⟨other, transaction, old, kindEq⟩)
    · intro other transaction held
      rcases update_some_cases held with ⟨rfl, new⟩ | ⟨-, old⟩
      · cases new
        exact ⟨sound_start _ _ _, fun written => absurd rfl written⟩
      · exact ⟨invariant.sound other transaction old, invariant.locked other transaction old⟩
  · cases begun

theorem afterExecute (invariant : Invariant state) {slot : Nat} {transaction : Transaction}
    (opened : state.transactions slot = some transaction)
    (executed : Executed state slot transaction next) (task : next.task = state.task)
    (files : next.files = state.files) (runs : next.runs = state.runs) : Invariant next := by
  have kept : ∀ after, next.transactions = Function.update state.transactions slot after →
      (∀ held, after = some held → held.kind = transaction.kind) →
      ∀ run, next.Holds run → run.stateVersion ≤ state.task.stateVersion := by
    rintro after updated kinds run (⟨other, held⟩ | ⟨other, held, found, kind⟩)
    · rw [runs] at held
      exact invariant.bounded run (.inl ⟨other, held⟩)
    · rw [updated] at found
      rcases update_some_cases found with ⟨-, new⟩ | ⟨-, old⟩
      · exact invariant.bounded run (.inr ⟨slot, transaction, opened, (kinds held new).symm.trans kind⟩)
      · exact invariant.bounded run (.inr ⟨other, held, old, kind⟩)
  cases executed with
  | closed transactions lock =>
      refine invariant.frame task files (kept none transactions (by simp)) ?_
      intro other held found
      rw [transactions] at found
      rcases update_some_cases found with ⟨-, new⟩ | ⟨different, old⟩
      · cases new
      · refine ⟨invariant.sound _ _ old, fun written => ?_⟩
        have holder := invariant.locked _ _ old written
        rw [lock, holder, if_neg (by simpa using different)]
  | advanced after transactions kind row lock sound =>
      refine invariant.frame task files (kept (some after) transactions (by rintro _ ⟨⟩; exact kind)) ?_
      intro other held found
      rw [transactions] at found
      rw [lock]
      rcases update_some_cases found with ⟨rfl, new⟩ | ⟨-, old⟩
      · cases new
        rw [row]
        exact ⟨sound, invariant.locked _ _ opened⟩
      · exact ⟨invariant.sound _ _ old, invariant.locked _ _ old⟩
  | written after transactions kind free lock sound =>
      refine invariant.frame task files (kept (some after) transactions (by rintro _ ⟨⟩; exact kind)) ?_
      intro other held found
      rw [transactions] at found
      rcases update_some_cases found with ⟨rfl, new⟩ | ⟨different, old⟩
      · cases new
        exact ⟨sound, fun _ => lock⟩
      · refine ⟨invariant.sound _ _ old, fun written => ?_⟩
        have holder := invariant.locked _ _ old written
        rcases free with free | free <;> rw [free] at holder <;> cases holder
        exact absurd rfl different

/-- A commit publishes a row that is one allowed move away. -/
theorem afterCommit (invariant : Invariant state) {slot : Nat}
    (committed : state.commit slot = some next) :
    Invariant next ∧ Evolves state.task next.task := by
  unfold State.commit at committed
  split at committed
  · cases committed
  · rename_i transaction opened
    split at committed
    · rename_i done
      cases committed
      have sound := invariant.sound slot transaction opened
      have evolves := sound.evolves done
      -- Another transaction that has written the row would hold the lock, so the row is unchanged.
      have others : ∀ {other held}, other ≠ slot → state.transactions other = some held →
          held.row ≠ none → transaction.row = none := by
        intro other held different found written
        by_contra own
        have first := invariant.locked other held found written
        have second := invariant.locked slot transaction opened own
        rw [first] at second
        cases second
        exact different rfl
      refine ⟨⟨?_, ?_, ?_, ?_⟩, evolves⟩
      · rw [List.length_append, invariant.counted]
        exact sound.created_length done
      · intro other held found written
        rcases update_some_cases found with ⟨-, new⟩ | ⟨different, old⟩
        · cases new
        · have holder := invariant.locked other held old written
          change (if state.lockedBy = some slot then none else state.lockedBy) = some other
          rw [holder, if_neg (by simpa using different)]
      · rintro run (⟨other, held⟩ | ⟨other, held, found, kind⟩)
        · exact Nat.le_trans (invariant.bounded run (.inl ⟨other, held⟩)) evolves.version_le
        · rcases update_some_cases found with ⟨-, new⟩ | ⟨-, old⟩
          · cases new
          · exact Nat.le_trans (invariant.bounded run (.inr ⟨other, held, old, kind⟩)) evolves.version_le
      · intro other held found
        rcases update_some_cases found with ⟨-, new⟩ | ⟨different, old⟩
        · cases new
        · by_cases written : held.row = none
          · exact (invariant.sound other held old).of_unwritten written
          · change Sound (transaction.row.getD state.task) held
            rw [others different old written]
            exact invariant.sound other held old
    · cases committed

theorem afterRecordChunk (invariant : Invariant state) {startedAt : Timestamp}
    {userId chunkIndex sizeBytes : Nat} {hashMd5 objectKey etag : String}
    (recorded : state.recordChunk startedAt userId chunkIndex sizeBytes hashMd5 objectKey etag =
      some next) : Invariant next ∧ Evolves state.task next.task := by
  simp only [State.recordChunk] at recorded
  split at recorded
  · split at recorded
    · cases recorded
      exact ⟨invariant, .refl _⟩
    · split at recorded
      · cases recorded
        exact ⟨⟨invariant.counted, invariant.locked, invariant.bounded, invariant.sound⟩, .refl _⟩
      · cases recorded
  · cases recorded

theorem afterClaim (invariant : Invariant state) {slot userId : Nat} {startedAt : Timestamp}
    {leaseOwner : String} {seconds : UInt32}
    (claimed : state.claim slot startedAt userId leaseOwner seconds = some next) :
    Invariant next ∧ Evolves state.task next.task := by
  unfold State.claim State.writeRow at claimed
  split at claimed
  · split at claimed
    · cases claimed
      exact ⟨invariant, .refl _⟩
    · rename_i task success
      obtain ⟨moved, finalizing, later, -⟩ := claimFinalizeLease_some success
      split at claimed
      · rename_i free
        cases claimed
        have evolves : Evolves state.task task := .inr ⟨moved, by omega⟩
        refine ⟨invariant.write free evolves (.inl (by simp [finalizing])) rfl rfl ?_, evolves⟩
        intro other run held
        rcases update_some_cases held with ⟨-, new⟩ | ⟨-, old⟩
        · cases new
          exact .inr (Nat.le_refl _)
        · exact .inl old
      · cases claimed
  · cases claimed

theorem afterRenew (invariant : Invariant state) {slot : Nat} {startedAt : Timestamp}
    (renewed : state.renew slot startedAt = some next) :
    Invariant next ∧ Evolves state.task next.task := by
  unfold State.renew State.writeRow at renewed
  split at renewed
  · cases renewed
  · rename_i run held
    split at renewed
    · split at renewed
      · cases renewed
        refine ⟨invariant.frame rfl rfl ?_ ?_, .refl _⟩
        · rintro other (⟨place, found⟩ | found)
          · rcases update_some_cases found with ⟨-, new⟩ | ⟨-, old⟩
            · cases new
            · exact invariant.bounded other (.inl ⟨place, old⟩)
          · exact invariant.bounded other (.inr found)
        · intro place transaction found
          exact ⟨invariant.sound place transaction found, invariant.locked place transaction found⟩
      · rename_i task success
        obtain ⟨status, -, -, finalizing, later⟩ := renewFinalizeLease_some success
        split at renewed
        · rename_i free
          cases renewed
          have evolves : Evolves state.task task := by
            refine .inr ⟨?_, by omega⟩
            rw [status, finalizing]
            exact .renew
          refine ⟨invariant.write free evolves (.inl (by simp [finalizing])) rfl rfl ?_, evolves⟩
          intro other found held
          rcases update_some_cases held with ⟨-, new⟩ | ⟨-, old⟩
          · cases new
            exact .inr (Nat.le_refl _)
          · exact .inl old
        · cases renewed
    · cases renewed

theorem afterRecordError (invariant : Invariant state) {startedAt : Timestamp}
    {userId expectedStateVersion : Nat} {leaseOwner : String} {errorCode : Int}
    (recorded : state.recordError startedAt userId leaseOwner expectedStateVersion errorCode =
      some next) : Invariant next ∧ Evolves state.task next.task := by
  unfold State.recordError State.writeRow at recorded
  split at recorded
  · split at recorded
    · cases recorded
      exact ⟨invariant, .refl _⟩
    · rename_i task success
      have same := recordFinalizeErrorIfLeaseOwned_some success
      split at recorded
      · rename_i free
        cases recorded
        have evolves : Evolves state.task task := .inl same
        exact ⟨invariant.write free evolves (.inr same.1) rfl rfl fun _ _ held => .inl held, evolves⟩
      · cases recorded
  · cases recorded

theorem afterDeleteFile (invariant : Invariant state) {fileId : Nat}
    (deleted : state.deleteFile fileId = some next) : Invariant next ∧ Evolves state.task next.task := by
  unfold State.deleteFile State.writeRow at deleted
  split at deleted
  · split at deleted
    · rename_i free
      cases deleted
      have evolves : Evolves state.task { state.task with
          completedFileId :=
            if state.task.completedFileId = some fileId then none else state.task.completedFileId } :=
        .inl ⟨rfl, rfl⟩
      exact ⟨invariant.write free evolves (.inr rfl) rfl rfl fun _ _ held => .inl held, evolves⟩
    · cases deleted
  · cases deleted

theorem afterAbandon (invariant : Invariant state) (slot : Nat) :
    Invariant { state with runs := Function.update state.runs slot none } := by
  refine invariant.frame rfl rfl ?_ fun place transaction found =>
    ⟨invariant.sound place transaction found, invariant.locked place transaction found⟩
  rintro run (⟨other, held⟩ | held)
  · rcases update_some_cases held with ⟨-, new⟩ | ⟨-, old⟩
    · cases new
    · exact invariant.bounded run (.inl ⟨other, old⟩)
  · exact invariant.bounded run (.inr held)

theorem afterBeginComplete (invariant : Invariant state) {run slot : Nat}
    (begun : state.beginComplete run slot = some next) : Invariant next := by
  unfold State.beginComplete at begun
  split at begun
  · cases begun
  · rename_i held found
    refine (invariant.afterAbandon run).afterBegin begun ?_
    rintro _ ⟨⟩
    exact invariant.bounded held (.inl ⟨run, found⟩)

theorem afterExecuteAction (invariant : Invariant state) {slot : Nat} {succeeds : Bool}
    (executed : state.execute slot succeeds = some next) :
    Invariant next ∧ next.task = state.task := by
  unfold State.execute at executed
  split at executed
  · cases executed
  · rename_i transaction opened
    split at executed
    · cases executed
    · rename_i statement rest left
      obtain ⟨task, files, runs, -⟩ := executeStatement_frame executed
      have sound := invariant.sound slot transaction opened
      exact ⟨invariant.afterExecute opened (executeStatement_executed sound left executed) task files
        runs, task⟩

theorem afterRollback (invariant : Invariant state) {slot : Nat}
    (opened : (state.transactions slot).isSome) : Invariant (state.close slot) := by
  obtain ⟨transaction, opened⟩ := Option.isSome_iff_exists.mp opened
  exact invariant.afterExecute opened (.closed rfl rfl) rfl rfl rfl

end Invariant

theorem begin_task (state : State) {next : State} {slot : Nat} {kind : TransactionKind}
    (begun : state.begin slot kind = some next) : next.task = state.task := by
  unfold State.begin at begun
  split at begun <;> cases begun
  rfl

theorem beginComplete_task {state next : State} {run slot : Nat}
    (begun : state.beginComplete run slot = some next) : next.task = state.task := by
  unfold State.beginComplete at begun
  split at begun
  · cases begun
  · rename_i held found
    have same := begin_task _ begun
    exact same

/-- Every step keeps the invariant and moves the committed row along the status graph. -/
theorem step_invariant {state next : State} {action : Action} (invariant : Invariant state)
    (moved : step state action = some next) : Invariant next ∧ Evolves state.task next.task := by
  have unmoved : ∀ {other : State}, Invariant other → other.task = state.task →
      Invariant other ∧ Evolves state.task other.task := by
    intro other kept same
    rw [same]
    exact ⟨kept, .refl _⟩
  cases action with
  | tick elapsed =>
      cases moved
      exact ⟨⟨invariant.counted, invariant.locked, invariant.bounded, invariant.sound⟩, .refl _⟩
  | recordChunk => exact invariant.afterRecordChunk moved
  | claimFinalizeLease => exact invariant.afterClaim moved
  | renewFinalizeLease => exact invariant.afterRenew moved
  | recordFinalizeError => exact invariant.afterRecordError moved
  | abandonRun slot =>
      cases moved
      exact unmoved (invariant.afterAbandon slot) rfl
  | beginComplete => exact unmoved (invariant.afterBeginComplete moved) (beginComplete_task moved)
  | beginCancel => exact unmoved (invariant.afterBegin moved (by simp)) (begin_task _ moved)
  | beginExpire => exact unmoved (invariant.afterBegin moved (by simp)) (begin_task _ moved)
  | beginRelease => exact unmoved (invariant.afterBegin moved (by simp)) (begin_task _ moved)
  | execute =>
      obtain ⟨kept, same⟩ := invariant.afterExecuteAction moved
      exact unmoved kept same
  | rollback slot =>
      simp only [step] at moved
      split at moved <;> cases moved
      rename_i opened
      exact unmoved (invariant.afterRollback opened) rfl
  | commit => exact invariant.afterCommit moved
  | deleteFile => exact invariant.afterDeleteFile moved

/-- Every reachable state satisfies the invariant. -/
theorem reachable_invariant {state : State} (reachable : system.Reachable state) : Invariant state :=
  reachable.invariant Invariant (fun _ => start_invariant) fun _ _ _ kept _ moved =>
    (step_invariant kept moved).1

/-- The version never falls and a terminal status never changes along a run. -/
def Later (task next : UploadTask) : Prop :=
  task.stateVersion ≤ next.stateVersion ∧
    (isTerminalStatus task.status = true → next.status = task.status)

/-- A run never takes the version back. -/
theorem reaches_later {state later : State} (invariant : Invariant state)
    (path : system.Reaches state later) : Invariant later ∧ Later state.task later.task := by
  refine ⟨path.keeps Invariant (fun _ _ _ kept _ moved => (step_invariant kept moved).1) invariant, ?_⟩
  refine TransitionSystem.ReachesWhen.relates Invariant
    (fun first second : State => Later first.task second.task)
    (fun _ => ⟨Nat.le_refl _, fun _ => rfl⟩) ?_
    (fun _ _ _ kept _ moved => (step_invariant kept moved).1) ?_ path invariant
  · intro first second third one two
    refine ⟨Nat.le_trans one.1 two.1, fun terminal => ?_⟩
    have same := one.2 terminal
    rw [two.2 (by rw [same]; exact terminal), same]
  · intro first _ second kept _ moved
    have evolves := (step_invariant kept moved).2
    exact ⟨evolves.version_le, evolves.terminal⟩

/-- A final transaction commits only while the committed row holds its pair. -/
theorem commit_current {state next : State} {slot : Nat} {transaction : Transaction}
    {run : CompleteRun} (invariant : Invariant state)
    (opened : state.transactions slot = some transaction) (kind : transaction.kind = .completeUpload run)
    (committed : step state (.commit slot) = some next) : Current state.task run := by
  have sound := invariant.sound slot transaction opened
  rw [Sound, kind] at sound
  simp only [step, State.commit, opened] at committed
  split at committed
  · rename_i done
    obtain ⟨row, -, current, -⟩ := sound.finished done
    exact current
  · cases committed

/-- A run whose version the row has passed never commits. -/
theorem passed_never_commits {state later : State} {slot : Nat} {transaction : Transaction}
    {run : CompleteRun} (invariant : Invariant state)
    (passed : run.stateVersion < state.task.stateVersion) (path : system.Reaches state later)
    (opened : later.transactions slot = some transaction)
    (kind : transaction.kind = .completeUpload run) : step later (.commit slot) = none := by
  obtain ⟨kept, grown⟩ := reaches_later invariant path
  cases committed : step later (.commit slot) with
  | none => rfl
  | some next =>
      have current := commit_current kept opened kind committed
      have same := current.2.2
      have grown := grown.1
      omega

/-- A claim that changes the task raises its version. -/
theorem claim_passes {state next : State} {slot userId : Nat} {startedAt : Timestamp}
    {leaseOwner : String} {seconds : UInt32} {run : CompleteRun} (invariant : Invariant state)
    (held : state.Holds run)
    (claimed : step state (.claimFinalizeLease slot startedAt userId leaseOwner seconds) = some next)
    (changed : next.task ≠ state.task) : run.stateVersion < next.task.stateVersion := by
  have bounded := invariant.bounded run held
  simp only [step, State.claim, State.writeRow] at claimed
  split at claimed
  · split at claimed
    · cases claimed
      exact absurd rfl changed
    · rename_i task success
      obtain ⟨-, -, later, -⟩ := claimFinalizeLease_some success
      split at claimed <;> cases claimed
      change run.stateVersion < task.stateVersion
      omega
  · cases claimed

/-- Any interleaving creates at most one file, follows the status graph, and fences every commit. -/
theorem finalization_safety {state : State} (reachable : system.Reachable state) :
    state.files.length ≤ 1 ∧
    (∀ action next, step state action = some next →
      next.task.status = state.task.status ∨ StatusMove state.task.status next.task.status) ∧
    (∀ later, system.Reaches state later → isTerminalStatus state.task.status = true →
      later.task.status = state.task.status) ∧
    (∀ slot transaction run next, state.transactions slot = some transaction →
      transaction.kind = .completeUpload run → step state (.commit slot) = some next →
      state.task.leaseOwner = some run.leaseOwner ∧ state.task.stateVersion = run.stateVersion) ∧
    (∀ run slot startedAt userId leaseOwner seconds taken later place transaction, state.Holds run →
      step state (.claimFinalizeLease slot startedAt userId leaseOwner seconds) = some taken →
      taken.task ≠ state.task → system.Reaches taken later →
      later.transactions place = some transaction → transaction.kind = .completeUpload run →
      step later (.commit place) = none) := by
  have invariant := reachable_invariant reachable
  refine ⟨?_, ?_, ?_, ?_, ?_⟩
  · rw [invariant.counted]
    split <;> omega
  · intro action next moved
    exact (step_invariant invariant moved).2.status_move
  · intro later path terminal
    exact (reaches_later invariant path).2.2 terminal
  · intro slot transaction run next opened kind committed
    exact (commit_current invariant opened kind committed).2
  · intro run slot startedAt userId leaseOwner seconds taken later place transaction held claimed
      changed path opened kind
    exact passed_never_commits (step_invariant invariant claimed).1
      (claim_passes invariant held claimed changed) path opened kind

/-- A task of one chunk, before any statement on it. -/
def oneChunkStart : State where
  now := 0
  task := create 0 ⟨"task", 1, 0, "a.txt", 4, "hash", 1, 4, .localDisk, "task", 60⟩
  chunks := []
  files := []
  deletedFiles := []
  nextFileId := 1
  runs := fun _ => none
  transactions := fun _ => none
  lockedBy := none

/-- The first claimant stalls, its lease ends, and the second claimant completes the upload. -/
def takeoverActions : List Action :=
  [.recordChunk 0 1 0 4 "md5" "" "", .claimFinalizeLease 0 0 1 "first" 1, .beginComplete 0 0,
    .tick 1000000, .claimFinalizeLease 1 1000000 1 "second" 30, .renewFinalizeLease 1 1000000,
    .beginComplete 1 1] ++ List.replicate 9 (.execute 1 true) ++ [.commit 1]

theorem oneChunkStart_initial : initial oneChunkStart :=
  ⟨⟨0, _, rfl⟩, rfl, rfl, fun _ => rfl, fun _ => rfl, rfl, rfl⟩

/-- The completed takeover run is one of the states that the safety theorem speaks about. -/
theorem finalization_safety_takeover :
    ∃ state, system.Reachable state ∧ state.task.status = .completed ∧ state.files.length = 1 ∧
      (∀ later, system.Reaches state later → later.task.status = .completed) ∧
      step state (.commit 0) = none := by
  have observed : (system.run oneChunkStart takeoverActions).map
      (fun state => (state.task.status, state.files.length, (step state (.commit 0)).isNone)) =
        some (.completed, 1, true) := by
    decide
  obtain ⟨state, ran, values⟩ := Option.map_eq_some_iff.mp observed
  simp only [Prod.mk.injEq, Option.isNone_iff_eq_none] at values
  obtain ⟨status, files, refused⟩ := values
  have reachable := system.reachable_of_run oneChunkStart_initial ran
  refine ⟨state, reachable, status, files, fun later path => ?_, refused⟩
  rw [(finalization_safety reachable).2.2.1 later path (by rw [status]; rfl), status]

section Replays

variable {state next : State} {slot : Nat} {transaction : Transaction} {statement : Statement}
  {rest : List Statement} {succeeds : Bool}

/-- A completed row names the only file until that is deleted. -/
def Names (row : UploadTask) (files : List CreatedFile) (deleted : List Nat) : Prop :=
  row.status = .completed → ∃ file, files = [file] ∧ file.userId = row.userId ∧
    row.completedFileId = if file.id ∈ deleted then none else some file.id

/-- The files of a transaction belong to its user, and its completed row names them. -/
structure Recorded (transaction : Transaction) : Prop where
  owned : ∀ run, transaction.kind = .completeUpload run →
    ∀ file ∈ transaction.created, file.userId = run.userId
  row : ∀ row, transaction.row = some row → Names row transaction.created []

theorem executeStatement_recorded (sound : Sound state.task transaction)
    (left : transaction.remaining = statement :: rest) (recorded : Recorded transaction)
    (executed : state.executeStatement slot transaction statement rest succeeds = some next)
    {other : Nat} {after : Transaction} (found : next.transactions other = some after) :
    state.transactions other = some after ∨ Recorded after := by
  have count : ∀ run, transaction.kind = .completeUpload run → transaction.created.length =
      if .insertFileRecord ∈ transaction.remaining then 0 else 1 := by
    intro run kind
    rw [Sound, kind] at sound
    exact sound.created
  unfold State.executeStatement at executed
  simp only [State.advance, State.lockRow, State.put, State.close] at executed
  repeat' split at executed
  all_goals cases executed
  all_goals grind [Recorded, Names, markCompletedIfLeaseOwned, leaseOwned, → renewFinalizeLease_some,
    → markCancelledIfInProgress_some, → markExpiredIfInProgress_some, → releaseUploadLease_some,
    Function.update, List.length_eq_one_iff]

/-- The completed row names its file, live or deleted. -/
structure Replayable (state : State) : Prop extends Invariant state where
  row : Names state.task state.files state.deletedFiles
  deleted : ∀ fileId ∈ state.deletedFiles, ∃ file ∈ state.files, file.id = fileId
  recorded : ∀ slot transaction, state.transactions slot = some transaction → Recorded transaction

/-- What no step changes once the upload is completed. -/
structure Frozen (state next : State) : Prop where
  userId : next.task.userId = state.task.userId
  status : next.task.status = state.task.status
  stateVersion : next.task.stateVersion = state.task.stateVersion
  files : next.files = state.files
  deletedFiles : state.deletedFiles ⊆ next.deletedFiles

theorem Frozen.of_same (task : next.task = state.task) (files : next.files = state.files)
    (deletedFiles : next.deletedFiles = state.deletedFiles) : Frozen state next :=
  ⟨by rw [task], by rw [task], by rw [task], files, by rw [deletedFiles]; exact List.Subset.refl _⟩

theorem Frozen.trans {first second third : State} (one : Frozen first second) (two : Frozen second third) :
    Frozen first third where
  userId := two.userId.trans one.userId
  status := two.status.trans one.status
  stateVersion := two.stateVersion.trans one.stateVersion
  files := two.files.trans one.files
  deletedFiles := List.Subset.trans one.deletedFiles two.deletedFiles

/-- Deleting the file of a completed upload empties the id that the row names. -/
theorem deleteFile_replayable {fileId : Nat} (kept : Replayable state)
    (moved : state.deleteFile fileId = some next) : Replayable next ∧ Frozen state next := by
  have after := (kept.toInvariant.afterDeleteFile moved).1
  unfold State.deleteFile at moved
  split at moved
  · rename_i known
    obtain ⟨written, wrote, rfl⟩ := Option.map_eq_some_iff.mp moved
    unfold State.writeRow at wrote
    split at wrote <;> cases wrote
    refine ⟨⟨after, ?_, ?_, kept.recorded⟩, ⟨rfl, rfl, rfl, rfl, List.subset_cons_self _ _⟩⟩
    · intro completed
      obtain ⟨file, files, owner, named⟩ := kept.row completed
      refine ⟨file, files, owner, ?_⟩
      change (if state.task.completedFileId = some fileId then none else state.task.completedFileId) = _
      rw [named]
      by_cases same : file.id = fileId
      · simp [same]
      · simp [same]
    · intro id gone
      rcases List.mem_cons.mp gone with rfl | earlier
      · obtain ⟨file, present, same⟩ := List.any_eq_true.mp known
        exact ⟨file, present, of_decide_eq_true same⟩
      · exact kept.deleted id earlier
  · cases moved

/-- No step changes a completed upload, up to the deletion of its file. -/
theorem step_replayable {action : Action} (kept : Replayable state)
    (moved : step state action = some next) : Replayable next ∧
      (state.task.status = .completed → Frozen state next) := by
  have after := (step_invariant kept.toInvariant moved).1
  cases action with
  | deleteFile fileId =>
      obtain ⟨replayable, frozen⟩ := deleteFile_replayable kept moved
      exact ⟨replayable, fun _ => frozen⟩
  | execute slot =>
      obtain ⟨invariant, row, deleted, recorded⟩ := kept
      simp only [step, State.execute] at moved
      split at moved
      · cases moved
      · rename_i transaction opened
        split at moved
        · cases moved
        · rename_i left
          obtain ⟨task, files, -, gone⟩ := executeStatement_frame moved
          refine ⟨⟨after, by rwa [task, files, gone], by rwa [files, gone], fun other _ found => ?_⟩,
            fun _ => .of_same task files gone⟩
          exact (executeStatement_recorded (invariant.sound slot transaction opened) left
            (recorded slot transaction opened) moved found).elim (recorded other _) id
  | commit slot =>
      obtain ⟨invariant, row, deleted, recorded⟩ := kept
      simp only [step, State.commit] at moved
      split at moved
      · cases moved
      · rename_i transaction opened
        split at moved <;> cases moved
        rename_i done
        have length := (invariant.sound slot transaction opened).created_length done
        have counted := invariant.counted
        have others : ∀ other after, (state.close slot).transactions other = some after →
            Recorded after := by
          intro other _ found
          obtain ⟨-, ⟨⟩⟩ | ⟨-, old⟩ := update_some_cases found
          exact recorded other _ old
        -- A completed row comes with its file, so it meets a task that has no file yet.
        cases written : transaction.row with
        | none =>
            rw [written] at after length
            have created : transaction.created = [] := by simpa using length
            have same : state.files ++ transaction.created = state.files := by
              rw [created, List.append_nil]
            exact ⟨⟨after, by rwa [same], by rwa [same], others⟩, fun _ => .of_same rfl same rfl⟩
        | some held =>
            rw [written] at after length
            have names := (recorded slot transaction opened).row held written
            refine ⟨⟨after, ?_, ?_, others⟩, ?_⟩
            · intro completed
              change held.status = .completed at completed
              change _ = if held.status = _ then 1 else 0 at length
              obtain ⟨file, created, owner, named⟩ := names completed
              rw [created, if_pos completed, List.length_singleton] at length
              have open_ : state.task.status ≠ .completed := fun already => by
                rw [if_pos already] at length
                omega
              rw [if_neg open_] at counted
              have files : state.files = [] := List.length_eq_zero_iff.mp counted
              have undeleted : file.id ∉ state.deletedFiles := by
                intro gone
                obtain ⟨other, present, -⟩ := deleted file.id gone
                rw [files] at present
                cases present
              refine ⟨file, by rw [files, created, List.nil_append], owner, named.trans ?_⟩
              exact (if_neg undeleted).symm
            · intro fileId gone
              obtain ⟨file, present, same⟩ := deleted fileId gone
              exact ⟨file, List.mem_append_left _ present, same⟩
            · intro already
              rw [if_pos already] at length
              split at length
              · rename_i completed
                obtain ⟨file, created, -⟩ := names completed
                rw [created] at length
                cases length
              · omega
  | _ =>
      obtain ⟨invariant, row, deleted, recorded⟩ := kept
      simp only [step, State.recordChunk, State.claim, State.renew, State.recordError,
        State.beginComplete, State.begin, State.writeRow, State.close] at moved
      repeat' split at moved
      all_goals cases moved
      all_goals refine ⟨⟨after, ?_, deleted, ?_⟩, ?_⟩
      all_goals grind [Names, Recorded, Transaction.start, Function.update, claimFinalizeLease,
        → renewFinalizeLease_some, recordFinalizeErrorIfLeaseOwned, leaseOwned, Frozen.of_same]

/-- Every reachable state can replay a completed upload. -/
theorem reachable_replayable (reachable : system.Reachable state) : Replayable state := by
  refine reachable.invariant Replayable ?_ fun _ _ _ kept _ moved => (step_replayable kept moved).1
  intro start started
  obtain ⟨⟨now, task, created⟩, -, files, -, transactions, -, deleted⟩ := id started
  refine ⟨start_invariant started, ?_, ?_, ?_⟩
  · simp [Names, created, create]
  · simp [deleted]
  · intro slot transaction opened
    rw [transactions] at opened
    cases opened

/-- Nothing moves a completed task again. -/
theorem reaches_frozen {later : State} (kept : Replayable state) (completed : state.task.status = .completed)
    (path : system.Reaches state later) : Replayable later ∧ Frozen state later := by
  refine path.keeps (fun later => Replayable later ∧ Frozen state later) ?_
    ⟨kept, .of_same rfl rfl rfl⟩
  rintro first action second ⟨replayable, frozen⟩ - moved
  obtain ⟨after, still⟩ := step_replayable replayable moved
  exact ⟨after, frozen.trans (still (frozen.status.trans completed))⟩

/-- Every later claim of a completed upload is refused, and it is answered with its one file until that is
deleted. -/
theorem completed_upload_replays (reachable : system.Reachable state)
    (completed : state.task.status = .completed) :
    ∃ file, ∀ later, system.Reaches state later → later.files = [file] ∧
      (∀ now leaseOwner seconds,
        claimFinalizeLease now state.task.userId leaseOwner seconds later.chunks later.task = none) ∧
      ∀ now last, system.Reaches later last →
        let claim := explainClaim now state.task.userId (some later.task)
        claim.disposition = .completedReplay ∧ claim.stateVersion = state.task.stateVersion ∧
          replayCompleted claim (last.findCompletedFile state.task.userId) =
            if file.id ∈ last.deletedFiles then .error completedResultUnavailable else .ok file := by
  have start := reachable_replayable reachable
  obtain ⟨file, files, owner, -⟩ := start.row completed
  refine ⟨file, fun later path => ?_⟩
  obtain ⟨kept, frozen⟩ := reaches_frozen start completed path
  have still := frozen.status.trans completed
  have listed := frozen.files.trans files
  refine ⟨listed, fun now leaseOwner seconds => by simp [claimFinalizeLease, still], ?_⟩
  intro now last onward
  obtain ⟨-, further⟩ := reaches_frozen kept still onward
  obtain ⟨other, same, -, named⟩ := kept.row still
  obtain rfl : file = other := List.singleton_inj.mp (listed.symm.trans same)
  have claim : explainClaim now state.task.userId (some later.task) =
      ⟨.completedReplay, state.task.stateVersion,
        if file.id ∈ later.deletedFiles then none else some file.id⟩ := by
    simp [explainClaim, frozen.userId, frozen.stateVersion, still, named, decideFinalizeRequest,
      uploadTaskStatusFromStorage_toStorageValue]
  have found : last.findCompletedFile state.task.userId file.id =
      if file.id ∈ last.deletedFiles then none else some file := by
    unfold State.findCompletedFile
    rw [further.files, listed]
    by_cases gone : file.id ∈ last.deletedFiles <;> simp [gone, owner]
  refine ⟨by rw [claim], by rw [claim], ?_⟩
  rw [claim, replayCompleted]
  by_cases before : file.id ∈ later.deletedFiles
  · simp [before, further.deletedFiles before]
  · by_cases gone : file.id ∈ last.deletedFiles <;> simp [before, gone, found]

/-- A completed upload is replayed, its file is deleted, and the next replay has no result. -/
theorem completed_upload_replays_takeover : ∃ state last file, system.Reachable state ∧
    system.Reaches state last ∧ last.files = [file] ∧
    (∀ now, replayCompleted (explainClaim now state.task.userId (some state.task))
      (state.findCompletedFile state.task.userId) = .ok file) ∧
    ∀ now, replayCompleted (explainClaim now state.task.userId (some last.task))
      (last.findCompletedFile state.task.userId) = .error completedResultUnavailable := by
  have observed : (system.run oneChunkStart takeoverActions).any (fun state =>
      state.task.status == .completed && state.deletedFiles == [] &&
        (system.step state (.deleteFile 1)).any fun last =>
          last.deletedFiles == last.files.map CreatedFile.id) = true := by decide
  obtain ⟨state, ran, checked⟩ := (Option.any_eq_true _ _).mp observed
  simp only [Bool.and_eq_true, beq_iff_eq, Option.any_eq_true] at checked
  obtain ⟨⟨completed, kept⟩, last, moved, deleted⟩ := checked
  have path : system.Reaches state last := .single ⟨_, trivial, moved⟩
  have reachable := system.reachable_of_run oneChunkStart_initial ran
  obtain ⟨file, replays⟩ := completed_upload_replays reachable completed
  obtain ⟨-, -, answers⟩ := replays state .refl
  obtain ⟨files, -, refusals⟩ := replays last path
  refine ⟨state, last, file, reachable, path, files, fun now => ?_, fun now => ?_⟩
  · rw [(answers now state .refl).2.2, kept, if_neg List.not_mem_nil]
  · rw [(refusals now last .refl).2.2, deleted, files]
    exact if_pos List.mem_cons_self

end Replays

end DiskServer.Upload.Finalization
