/-
This file gives the pure rules of the upload task state machine.
-/

namespace DiskServer.Upload

inductive UploadTaskStatus where
  | inProgress
  | completed
  | cancelled
  | expired
  | finalizing
  | failed
  deriving Repr, DecidableEq

inductive FinalizeRequestAction where
  | claimLease
  | takeOverExpiredLease
  | retryLater
  | replayCompleted
  | rejectTerminal
  deriving Repr, DecidableEq

def toStorageValue : UploadTaskStatus → Int
  | .inProgress => 0
  | .completed => 1
  | .cancelled => 2
  | .expired => 3
  | .finalizing => 4
  | .failed => 5

def uploadTaskStatusFromStorage : Int → Option UploadTaskStatus
  | 0 => some .inProgress
  | 1 => some .completed
  | 2 => some .cancelled
  | 3 => some .expired
  | 4 => some .finalizing
  | 5 => some .failed
  | _ => none

theorem uploadTaskStatusFromStorage_toStorageValue (status : UploadTaskStatus) :
    uploadTaskStatusFromStorage (toStorageValue status) = some status := by
  cases status <;> rfl

def isTerminalStatus : UploadTaskStatus → Bool
  | .completed | .cancelled | .expired | .failed => true
  | .inProgress | .finalizing => false

def decideFinalizeRequest (currentStatus : Int) (leaseExpired : Bool) : FinalizeRequestAction :=
  match uploadTaskStatusFromStorage currentStatus with
  | none => .rejectTerminal
  | some .inProgress => .claimLease
  | some .finalizing => if leaseExpired then .takeOverExpiredLease else .retryLater
  | some .completed => .replayCompleted
  | some .cancelled | some .expired | some .failed => .rejectTerminal

inductive StatusMove : UploadTaskStatus → UploadTaskStatus → Prop where
  | claim : StatusMove .inProgress .finalizing
  | cancel : StatusMove .inProgress .cancelled
  | expire : StatusMove .inProgress .expired
  | renew : StatusMove .finalizing .finalizing
  | complete : StatusMove .finalizing .completed

theorem StatusMove.not_terminal {before after : UploadTaskStatus} (moved : StatusMove before after) :
    isTerminalStatus before = false := by
  cases moved <;> rfl

end DiskServer.Upload
