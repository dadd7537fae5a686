import DiskServer.Construction.Drive.MoveService
import DiskServer.Construction.Drive.System

/-
This file gives the drive together with its renames and moves, the quota counters as a system of their own,
and the drive together with a record of the requests that used up its trash rows.
-/

namespace DiskServer.Drive

open Library

section Namespace

inductive NamespaceAction where
  | drive (action : DriveAction)
  | renameFile (fileId userId : Nat) (newName : String)
  | renameFolder (folderId userId : Nat) (newName : String)
  | move (targetRead : Nat) (hashOrder : List Nat) (request : MoveRequest)
  deriving Repr, DecidableEq

namespace World

/-- The target of a move is resolved before its transaction. -/
def readMoveTarget (world : World) (targetRead : Nat) (request : MoveRequest) : Option FolderLocation := do
  let seen ← world.read targetRead
  match (resolveOwnedFolderLocation request.targetFolderId request.userId).run seen with
  | .ok (location, _) => some location
  | .error _ => none

def stepNamespace (world : World) : NamespaceAction → Option World
  | .drive action => world.step action
  | .renameFile fileId userId newName =>
      if newName = "" then none else world.commit (Drive.renameFile fileId userId newName)
  | .renameFolder folderId userId newName =>
      if newName = "" then none else world.commit (Drive.renameFolder folderId userId newName)
  | .move targetRead hashOrder request => do
      let location ← world.readMoveTarget targetRead request
      world.commit (Drive.move hashOrder location request)

end World

def namespaceSystem : TransitionSystem World NamespaceAction where
  initial := fun world => world = World.empty
  step := World.stepNamespace

end Namespace

section Quotas

/-- The committed quota operations. A copied unit converts what it copied and releases what it
skipped, and a saved share charges its selection and refunds what it skipped. -/
inductive QuotaAction where
  | registerUser (storageQuota : Nat)
  | reserveStorage (userId bytes : Nat)
  | releaseReservedStorageChecked (userId bytes : Nat)
  | commitReservedToUsed (userId bytes : Nat)
  | consumeUsedStorage (userId bytes : Nat)
  | adjustUsedStorageChecked (userId : Nat) (delta : Int)
  | copyUnit (userId copied skipped : Nat)
  | saveToDrive (userId totalSize actualSize : Nat)
  deriving Repr, DecidableEq

def QuotaAction.program : QuotaAction → Tx Unit
  | .registerUser storageQuota => Drive.registerUser storageQuota
  | .reserveStorage userId bytes => Drive.reserveStorage userId bytes
  | .releaseReservedStorageChecked userId bytes => Drive.releaseReservedStorageChecked userId bytes
  | .commitReservedToUsed userId bytes => Drive.commitReservedToUsed userId bytes
  | .consumeUsedStorage userId bytes => Drive.consumeUsedStorage userId bytes
  | .adjustUsedStorageChecked userId delta => Drive.adjustUsedStorageChecked userId delta
  | .copyUnit userId copied skipped => do
      Drive.commitReservedToUsed userId copied
      Drive.releaseReservedStorageChecked userId skipped
  | .saveToDrive userId totalSize actualSize => do
      chargeSelection userId totalSize
      refundSkipped userId totalSize actualSize

def QuotaAction.valid : QuotaAction → Bool
  | .saveToDrive _ totalSize actualSize => actualSize ≤ totalSize
  | _ => true

def quotaSystem : TransitionSystem Db QuotaAction where
  initial := fun db => db = Db.empty
  step := fun db action =>
    if action.valid then
      match action.program.run db with
      | .ok (_, after) => some after
      | .error _ => none
    else
      none

end Quotas

section Trash

inductive TrashOutcome where
  | restored
  | deleted
  deriving Repr, DecidableEq

structure TrashHistory where
  world : World
  consumed : List (Trash × TrashOutcome)

namespace World

def selectedDeletions (world : World) (itemRead : Nat) (trashIds : List Nat)
    (requireValidFileContent : Bool) : List Trash :=
  match world.read itemRead with
  | none => []
  | some seen =>
      match collectDeletions requireValidFileContent (trashIds.filterMap seen.trash.find?) with
      | .error _ => []
      | .ok deletions => deletions.map Prod.fst

def consumes (world : World) : DriveAction → List (Trash × TrashOutcome)
  | .restoreFile trashId _ _ => (world.db.trash.find? trashId).toList.map (·, .restored)
  | .restoreFolder trashId _ _ => (world.db.trash.find? trashId).toList.map (·, .restored)
  | .permanentDelete itemRead trashIds requireValidFileContent =>
      (world.selectedDeletions itemRead trashIds requireValidFileContent).map (·, .deleted)
  | _ => []

def targets (world : World) : DriveAction → List Nat
  | .restoreFile trashId _ _ => [trashId]
  | .restoreFolder trashId _ _ => [trashId]
  | .permanentDelete itemRead trashIds requireValidFileContent =>
      (world.selectedDeletions itemRead trashIds requireValidFileContent).map Trash.id
  | _ => []

end World

def trashSystem : TransitionSystem TrashHistory DriveAction where
  initial := fun history => history = ⟨World.empty, []⟩
  step := fun history action => (history.world.step action).map fun next =>
    ⟨next, history.consumed ++ history.world.consumes action⟩

end Trash

end DiskServer.Drive
