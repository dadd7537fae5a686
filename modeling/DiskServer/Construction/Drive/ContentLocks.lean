import DiskServer.Library.Locks
import Mathlib.Data.List.Sort

/-
This file gives the row locks that the transactions on content references take, statement by statement.
-/

namespace DiskServer.Drive.ContentLocks

open Library

inductive LockRow where
  | content (contentId : Nat)
  | job (contentId : Nat)
  deriving Repr, DecidableEq

/-- `FOR UPDATE`, an update, an insertion and a deletion all lock a row against every other lock. -/
def contentLock (contentId : Nat) : LockRequest LockRow := ⟨.content contentId, false⟩

def jobLock (contentId : Nat) : LockRequest LockRow := ⟨.job contentId, false⟩

def gateLock (contentId : Nat) : LockRequest LockRow := ⟨.job contentId, true⟩

inductive ReferenceOperation where
  | acquireReference
  | incrementRefCount (contentId increment : Nat)
  | incrementRefCountsChecked (increments : List (Nat × Nat)) (existingContentIds : List Nat)
  | decrementRefCountsAndEnqueueGc (decrements : List (Nat × Nat))
  | executeBlobGc (contentId : Nat)
  deriving Repr, DecidableEq

inductive ReferencePhase where
  | acquireSelect
  | acquireLocked
  | acquireInsert
  | incrementSelect (contentId : Nat)
  | checkedSelect (contentIds : List Nat)
  | checkLocked (contentIds : List Nat)
  | checkReferenceGate (contentIds : List Nat)
  | decrementUpdate (contentIds : List Nat)
  | decrementSelect (contentIds : List Nat)
  | enqueueOrRearm (contentIds : List Nat)
  | gcSelect (contentId : Nat)
  | markSucceeded (contentId : Nat)
  | commit
  deriving Repr, DecidableEq

def validContentIds (increments : List (Nat × Nat)) (existingContentIds : List Nat) : List Nat :=
  ((increments.filter fun entry =>
    entry.2 ≠ 0 && existingContentIds.contains entry.1).map Prod.fst).insertionSort (· ≤ ·)

def collectContentIds (deltas : List (Nat × Nat)) : List Nat :=
  (deltas.filter fun entry => entry.2 ≠ 0).map Prod.fst

def ReferenceOperation.opening : ReferenceOperation → ReferencePhase
  | .acquireReference => .acquireSelect
  | .incrementRefCount contentId increment => if increment = 0 then .commit else .incrementSelect contentId
  | .incrementRefCountsChecked increments existingContentIds =>
      match validContentIds increments existingContentIds with
      | [] => .commit
      | contentIds => .checkedSelect contentIds
  | .decrementRefCountsAndEnqueueGc decrements =>
      match collectContentIds decrements with
      | [] => .commit
      | contentIds => .decrementUpdate contentIds
  | .executeBlobGc contentId => .gcSelect contentId

def matching (wanted rows : List Nat) : Bool := decide rows.Nodup && decide (rows ⊆ wanted)

def lockedContents (held : List (LockRequest LockRow)) : List Nat :=
  held.filterMap fun lock =>
    match lock.row with
    | .content contentId => some contentId
    | .job _ => none

/-- What each statement locks, given the locks held and the ids of the rows that it finds; a statement on rows that
are locked already locks nothing more. -/
def advance : ReferencePhase → List (LockRequest LockRow) → List Nat →
    Option (List (LockRequest LockRow) × ReferencePhase)
  | .acquireSelect, _, rows => if rows.length ≤ 1 then some (rows.map contentLock, .acquireLocked) else none
  | .acquireLocked, held, _ =>
      -- The insertion is tried again when the row in its way has been deleted.
      match lockedContents held with
      | [] => some ([], .acquireInsert)
      | contentIds => some ([], .checkReferenceGate contentIds)
  | .acquireInsert, _, rows => if rows.length = 1 then some (rows.map contentLock, .acquireLocked) else none
  | .incrementSelect contentId, _, rows =>
      if matching [contentId] rows then some (rows.map contentLock, .checkLocked [contentId]) else none
  | .checkedSelect contentIds, _, rows =>
      -- `ORDER BY id` sorts the rows before they are locked.
      if matching contentIds rows && decide (rows.Pairwise (· < ·)) then
        some (rows.map contentLock, .checkLocked contentIds)
      else none
  | .checkLocked contentIds, held, _ =>
      some ([], if contentIds.all (lockedContents held).contains then .checkReferenceGate contentIds else .commit)
  | .checkReferenceGate (contentId :: rest), _, rows =>
      if matching [contentId] rows then some (rows.map gateLock, .checkReferenceGate rest) else none
  | .decrementUpdate contentIds, _, rows =>
      if matching contentIds rows then some (rows.map contentLock, .decrementSelect contentIds) else none
  | .decrementSelect contentIds, _, rows =>
      -- The query for the zero counts locks nothing, and a job is enqueued for each row in the order of the answer.
      if matching contentIds rows then some ([], .enqueueOrRearm rows) else none
  | .enqueueOrRearm (contentId :: rest), _, _ => some ([jobLock contentId], .enqueueOrRearm rest)
  | .gcSelect contentId, _, rows =>
      if matching [contentId] rows then some (rows.map contentLock, .markSucceeded contentId) else none
  | .markSucceeded contentId, _, rows =>
      if matching [contentId] rows then some (rows.map jobLock, .commit) else none
  | _, _, _ => none

def deletable : LockRow → Bool
  | .content _ => true
  | .job _ => false

def program : LockProgram LockRow ReferencePhase ReferenceOperation (List Nat) where
  opening := ReferenceOperation.opening
  advance := advance
  deletable := deletable

/-- The update of a decrement meets its rows in the order of their ids, and the rows that it then enqueues are rows
that it has locked. -/
def Ordered (session : LockSession LockRow ReferencePhase) (rows : List Nat) : Prop :=
  match session.phase with
  | some (.decrementUpdate _) => rows.Pairwise (· < ·)
  | some (.decrementSelect _) => ∀ contentId ∈ rows, contentLock contentId ∈ session.held
  | _ => True

instance (session : LockSession LockRow ReferencePhase) (rows : List Nat) : Decidable (Ordered session rows) := by
  unfold Ordered
  split <;> infer_instance

end DiskServer.Drive.ContentLocks
