import DiskServer.Construction.Drive.Schema

/-
This file gives the checked updates of the quota service on the users table.
-/

namespace DiskServer.Drive

open Library

def bigintMax : Int := 2 ^ 63 - 1

/-- A quota statement updates one user row, or its transaction fails.
The database rejects a sum that leaves the range of a BIGINT before it compares it. -/
def updateUserChecked (userId : Nat) (evaluated : User → Int) (outOfRange rejected : ErrorInfo)
    (selected : User → Bool) (change : User → User) (keyed : ∀ user, (change user).id = user.id) :
    Tx Unit := do
  let db ← get
  match db.users.find? userId with
  | none => throw rejected
  | some user =>
      if bigintMax < evaluated user then
        throw outOfRange
      else if selected user then
        modify fun db => { db with users := db.users.update (fun row => row.id = userId) change keyed }
      else
        throw rejected

def reserveStorage (userId bytes : Nat) : Tx Unit :=
  if bytes = 0 then
    pure ()
  else
    updateUserChecked userId (fun user => user.storageUsed + user.storageReserved + bytes)
      ⟨.internalError, "Failed to reserve storage quota"⟩ (.ofCode .storageQuotaExceeded)
      (fun user => user.storageUsed + user.storageReserved + bytes ≤ user.storageQuota)
      (fun user => { user with storageReserved := user.storageReserved + bytes }) fun _ => rfl

def releaseReservedStorageChecked (userId bytes : Nat) : Tx Unit :=
  if bytes = 0 then
    pure ()
  else
    updateUserChecked userId (fun user => user.storageReserved - bytes)
      ⟨.internalError, "Failed to release reserved quota"⟩
      ⟨.internalError, "Failed to release reserved quota"⟩
      (fun user => bytes ≤ user.storageReserved)
      (fun user => { user with storageReserved := user.storageReserved - bytes }) fun _ => rfl

def commitReservedToUsed (userId bytes : Nat) : Tx Unit :=
  if bytes = 0 then
    pure ()
  else
    updateUserChecked userId (fun user => user.storageUsed + bytes)
      ⟨.internalError, "Failed to transfer reserved quota to used"⟩
      ⟨.internalError, "Failed to transfer reserved quota to used"⟩
      (fun user => bytes ≤ user.storageReserved)
      (fun user => { user with
        storageReserved := user.storageReserved - bytes
        storageUsed := user.storageUsed + bytes }) fun _ => rfl

def consumeUsedStorage (userId bytes : Nat) : Tx Unit :=
  if bytes = 0 then
    pure ()
  else
    updateUserChecked userId (fun user => user.storageUsed + bytes)
      ⟨.internalError, "Failed to reserve storage quota"⟩ (.ofCode .storageQuotaExceeded)
      (fun user => user.storageUsed + bytes ≤ user.storageQuota)
      (fun user => { user with storageUsed := user.storageUsed + bytes }) fun _ => rfl

/-- A negative delta is clamped at zero, and only a positive one is checked against the quota. -/
def adjustUsedStorageChecked (userId : Nat) (delta : Int) : Tx Unit :=
  if delta = 0 then
    pure ()
  else if 0 < delta then
    updateUserChecked userId (fun user => user.storageUsed + delta)
      ⟨.internalError, "Failed to update storage usage"⟩ (.ofCode .storageQuotaExceeded)
      (fun user => user.storageUsed + delta ≤ user.storageQuota)
      (fun user => { user with storageUsed := user.storageUsed + delta }) fun _ => rfl
  else
    updateUserChecked userId (fun user => user.storageUsed + delta)
      ⟨.internalError, "Failed to update storage usage"⟩
      ⟨.internalError, "Failed to update storage usage"⟩
      (fun _ => true)
      (fun user => { user with storageUsed := max (user.storageUsed + delta) 0 }) fun _ => rfl

def chargeSelection (userId totalSize : Nat) : Tx Unit :=
  if totalSize = 0 then
    pure ()
  else
    updateUserChecked userId (fun user => user.storageUsed + totalSize)
      ⟨.internalError, "Failed to save share items"⟩ (.ofCode .storageQuotaExceeded)
      (fun user => user.storageUsed + totalSize ≤ user.storageQuota)
      (fun user => { user with storageUsed := user.storageUsed + totalSize }) fun _ => rfl

def refundSkipped (userId totalSize actualSize : Nat) : Tx Unit :=
  if actualSize < totalSize then
    modify fun db => { db with
      users := db.users.update (fun row => row.id = userId)
        (fun user => { user with
          storageUsed := user.storageUsed - ((totalSize : Int) - (actualSize : Int)) }) fun _ => rfl }
  else
    pure ()

end DiskServer.Drive
