import DiskServer.Construction.Drive.Extensions
import DiskServer.Construction.Utils.DtoBase

/-
This file gives the request with which an administrator sets the available space of a user.
-/

namespace DiskServer.Admin

open Library Drive Utils

def bytesPerG : Nat := 1024 * 1024 * 1024

def uint64Max : Nat := 18446744073709551615

structure ChangeAvailableSpaceRequest where
  availableSpaceG : Nat
  deriving Repr, DecidableEq

def ChangeAvailableSpaceRequest.fromJson (toDouble : ℚ → ℚ) (json : Written) :
    Parsed ChangeAvailableSpaceRequest :=
  match requireUInt64 toDouble json "available_space_g" with
  | .error error => .error error
  | .raised => .raised
  | .value space =>
      if uint64Max / bytesPerG < space then
        .error (validationFailed "Parameter 'available_space_g' is too large")
      else
        .value ⟨space⟩

/-- A signed column enters the unsigned sums of the service as its residue. -/
def toUInt64 (column : Int) : Nat := (column % 18446744073709551616).toNat

def toInt64 (value : Nat) : Int :=
  if value ≤ 9223372036854775807 then value else (value : Int) - 18446744073709551616

def tooLarge : ErrorInfo := validationFailed "Available space is too large"

/-- The new quota is computed from the row that the request has read. -/
def newStorageQuota (user : User) (availableSpaceG : Nat) : Except ErrorInfo Int :=
  let storageUsed := toUInt64 user.storageUsed
  let storageReserved := toUInt64 user.storageReserved
  if uint64Max / bytesPerG < availableSpaceG then
    .error tooLarge
  else
    let availableSpaceBytes := availableSpaceG * bytesPerG
    if uint64Max - storageReserved < storageUsed ∨
        uint64Max - availableSpaceBytes < storageUsed + storageReserved then
      .error tooLarge
    else
      .ok (toInt64 (storageUsed + storageReserved + availableSpaceBytes))

def setStorageQuota (targetId : Nat) (storageQuota : Int) (db : Db) : Db :=
  { db with
    users := db.users.update (fun user => user.id = targetId)
      (fun user => { user with storageQuota := storageQuota }) fun _ => rfl }

/-- The read and the write are statements of their own, each on the state of its moment. -/
def changeUserAvailableSpace (operatorId targetId : Nat) (request : ChangeAvailableSpaceRequest)
    (read write : Db) : Except ErrorInfo Db :=
  if targetId = operatorId then
    .error (.ofCode .adminCannotModifySelf)
  else
    match read.users.find? targetId with
    | none => .error (.ofCode .adminUserNotFound)
    | some user => (newStorageQuota user request.availableSpaceG).map fun storageQuota =>
        setStorageQuota targetId storageQuota write

end DiskServer.Admin
