import DiskServer.Construction.Drive.Schema
import Mathlib.Data.Rat.Floor

/-
This file gives the profile and the storage statistics that the user service reports to a user.
-/

namespace DiskServer.Drive

open Library

structure UserAccount where
  username : String
  email : String
  nickname : Option String
  avatar : Option String
  createdAt : String
  updatedAt : String
  deriving Repr, DecidableEq

structure UserProfileResponse where
  id : Nat
  username : String
  email : String
  nickname : String
  avatar : String
  storageUsed : Nat
  storageQuota : Nat
  fileCount : Nat
  folderCount : Nat
  createdAt : String
  updatedAt : String
  deriving Repr, DecidableEq

structure StorageResponse where
  used : Nat
  quota : Nat
  percentage : ℚ
  fileCount : Nat
  folderCount : Nat
  deriving Repr, DecidableEq

/-- A number that the database returns is read by its value, and a negative one as its residue. -/
def asUInt64 (value : Int) : Nat :=
  if 0 ≤ value then value.toNat else (value % 18446744073709551616).toNat

def countFiles (db : Db) (userId : Nat) : Nat := db.files.rows.countP fun file => file.userId = userId

def countFolders (db : Db) (userId : Nat) : Nat := db.folders.rows.countP fun folder => folder.userId = userId

def sumFileSizes (db : Db) (userId : Nat) : Nat :=
  ((db.files.rows.filter fun file => file.userId = userId).map File.size).sum

/-- The quotient of two doubles in percent, rounded to one decimal with halves away from zero. -/
def storagePercentage (toDouble : ℚ → ℚ) (used quota : Nat) : ℚ :=
  if 0 < quota then
    let scaled := toDouble (toDouble (toDouble used / toDouble quota) * 1000)
    toDouble (⌊scaled + 1 / 2⌋ / 10)
  else
    0

def getProfile (account : Nat → UserAccount) (db : Db) (userId : Nat) : Except ErrorInfo UserProfileResponse :=
  match db.users.find? userId with
  | none => .error (.ofCode .userNotFound)
  | some user => .ok
      { id := user.id
        username := (account user.id).username
        email := (account user.id).email
        nickname := (account user.id).nickname.getD ""
        avatar := (account user.id).avatar.getD ""
        storageUsed := asUInt64 user.storageUsed
        storageQuota := asUInt64 user.storageQuota
        fileCount := countFiles db user.id
        folderCount := countFolders db user.id
        createdAt := (account user.id).createdAt
        updatedAt := (account user.id).updatedAt }

def getStorage (toDouble : ℚ → ℚ) (db : Db) (userId : Nat) : Except ErrorInfo StorageResponse :=
  match db.users.find? userId with
  | none => .error ⟨.internalError, "Failed to get storage stats"⟩
  | some user =>
      let quota := asUInt64 user.storageQuota
      let used := asUInt64 (sumFileSizes db user.id)
      .ok
        { used := used
          quota := quota
          percentage := storagePercentage toDouble used quota
          fileCount := countFiles db user.id
          folderCount := countFolders db user.id }

end DiskServer.Drive
