import DiskServer.Construction.ErrorCode
import DiskServer.Construction.Upload.TaskRepository

/-
This file gives the share tables and the checks of a share at each of its entry points.
-/

namespace DiskServer.Shares

open Upload

inductive ShareStatus where
  | cancelled
  | active
  | expired
  deriving Repr, DecidableEq

def ShareStatus.toInt : ShareStatus → Int
  | .cancelled => 0
  | .active => 1
  | .expired => 2

structure Share where
  id : Nat
  shareCode : String
  userId : Nat
  passwordHash : Option String
  permission : String
  viewCount : Nat
  downloadCount : Nat
  status : Int
  expiresAt : Option Timestamp
  updatedAt : Timestamp
  deriving Repr, DecidableEq

inductive ShareItemType where
  | file
  | folder
  deriving Repr, DecidableEq

structure ShareFile where
  id : Nat
  shareId : Nat
  itemType : ShareItemType
  itemId : Nat
  deriving Repr, DecidableEq

section Checks

variable (now : Timestamp) (share : Share)

def isShareExpired : Bool :=
  match share.expiresAt with
  | none => false
  | some expiresAt => expiresAt < now

def isShareActive : Bool :=
  if share.status ≠ ShareStatus.active.toInt then false
  else if share.expiresAt.isSome ∧ isShareExpired now share then false
  else true

def expiredColumn : Bool :=
  match share.expiresAt with
  | none => false
  | some expiresAt => expiresAt ≤ now

def shareAccessFailureLimit : Nat := 5

/-- Without a counter the failure is reported as a failed validation. -/
def handleFailedShareAccess (attemptCount : Option Nat) : ErrorInfo :=
  match attemptCount with
  | none => ⟨.sharePasswordError, "Share access validation failed"⟩
  | some count =>
      if shareAccessFailureLimit < count then
        ⟨.tooManyRequests, "Too many password verification attempts, please try again later"⟩
      else
        ⟨.sharePasswordError, "Share access validation failed"⟩

def verifyPassword (verify : String → String → Bool) (password : String) : Bool :=
  match share.passwordHash with
  | none => true
  | some hash => verify password hash

def access (verify : String → String → Bool) (attemptCount : Option Nat) (password : Option String) :
    Except ErrorInfo String :=
  if share.status ≠ ShareStatus.active.toInt then
    .error ⟨.shareExpired, "Share has been cancelled"⟩
  else if share.expiresAt.isSome ∧ isShareExpired now share then
    .error ⟨.shareExpired, "Share has expired"⟩
  else if share.passwordHash.isSome ∧
      ¬ password.any (fun text => text != "" && verifyPassword share verify text) then
    .error (handleFailedShareAccess attemptCount)
  else
    .ok share.permission

def validateShareActive : Except ErrorInfo Unit :=
  if isShareActive now share then .ok () else .error ⟨.shareExpired, "Share is not active"⟩

def getDownloadInfo (fileId : Option Nat) : Except ErrorInfo Nat :=
  if share.status ≠ ShareStatus.active.toInt ∨ expiredColumn now share then
    .error ⟨.shareExpired, "Share is not active"⟩
  else
    match fileId with
    | none => .error ⟨.fileNotFound, "File not in share"⟩
    | some fileId =>
        if share.permission ≠ "download" then
          .error ⟨.shareAccessDenied, "Share is view-only, download not allowed"⟩
        else
          .ok fileId

def checkSaveToDrive : Except ErrorInfo Unit :=
  if share.status ≠ ShareStatus.active.toInt ∨ expiredColumn now share then
    .error ⟨.shareExpired, "Share is not active"⟩
  else if share.permission ≠ "download" then
    .error ⟨.shareAccessDenied, "Share is view-only, save not allowed"⟩
  else
    .ok ()

def listedAsActive : Bool :=
  share.status = ShareStatus.active.toInt &&
    match share.expiresAt with
    | none => true
    | some expiresAt => expiresAt > now

def listedStatus : String :=
  if share.status = ShareStatus.cancelled.toInt then "cancelled"
  else if share.status = ShareStatus.active.toInt then
    if share.expiresAt.isSome ∧ isShareExpired now share then "expired" else "active"
  else "expired"

/-- The administrator's queries first cancel the active shares without a link. -/
def cancelUnlinked (shareFiles : List ShareFile) : Share :=
  if share.status = ShareStatus.active.toInt ∧ ¬ shareFiles.any (fun row => row.shareId = share.id) then
    { share with status := ShareStatus.cancelled.toInt, updatedAt := now }
  else
    share

def adminListedStatus (shareFiles : List ShareFile) : Int := (cancelUnlinked now share shareFiles).status

end Checks

end DiskServer.Shares
