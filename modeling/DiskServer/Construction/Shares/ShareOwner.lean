import DiskServer.Construction.Shares.ShareService
import DiskServer.Construction.Utils.DtoBase
import DiskServer.Library.Paging
import DiskServer.Library.Table

/-
This file gives how an owner creates, updates and lists shares.
-/

namespace DiskServer.Shares

open Library Upload Utils

section Requests

inductive SharePermission where
  | view
  | download
  deriving Repr, DecidableEq

def SharePermission.text : SharePermission → String
  | .download => "download"
  | .view => "view"

def stringToSharePermission (text : String) : Option SharePermission :=
  if text = "download" then some .download
  else if text = "view" then some .view
  else none

structure CreateShareRequest where
  fileIds : List Nat
  folderIds : List Nat
  expireDays : Int32
  password : Option String
  permission : SharePermission
  deriving Repr, DecidableEq

structure UpdateShareRequest where
  shareId : String
  expireDays : Option Int32
  password : Option String
  permission : Option SharePermission
  deriving Repr, DecidableEq

variable (toDouble : ℚ → ℚ) (json : Written)

def decodeExpireDays : Parsed (Option Int32) :=
  match json.isMember "expire_days" with
  | none => .raised
  | some false => .value none
  | some true =>
      let item := (json.field "expire_days").numeric toDouble
      if !item.isIntegral then
        .error (validationFailed "Parameter 'expire_days' type error: expected integer")
      else
        match item.asInt with
        | none => .raised
        | some days =>
            if days < 0 then .error (validationFailed "Parameter 'expire_days' cannot be negative")
            else .value (some (Int32.ofInt days))

def decodePassword : Parsed (Option String) :=
  match json.isMember "password" with
  | none => .raised
  | some false => .value none
  | some true =>
      match json.field "password" with
      | .string password =>
          if password ≠ "" ∧ (password.utf8ByteSize < 4 ∨ 8 < password.utf8ByteSize) then
            .error (validationFailed "Access password length must be between 4-8 characters")
          else .value (some password)
      | _ => .error (validationFailed "Parameter 'password' type error: expected string")

def decodePermission : Parsed (Option SharePermission) :=
  match json.isMember "permission" with
  | none => .raised
  | some false => .value none
  | some true =>
      match json.field "permission" with
      | .string text =>
          match stringToSharePermission text with
          | some permission => .value (some permission)
          | none =>
              .error (validationFailed "Parameter 'permission' invalid value, must be view or download")
      | _ => .error (validationFailed "Parameter 'permission' type error: expected string")

def CreateShareRequest.fromRequest : Parsed CreateShareRequest := do
  let fileIds ← optionalPositiveIdArray toDouble json "file_ids"
  let folderIds ← optionalPositiveIdArray toDouble json "folder_ids"
  if fileIds = [] ∧ folderIds = [] then
    let message := "Create share request must contain file_ids or folder_ids"
    if json.isMember "file_ids" = some true ∨ json.isMember "folder_ids" = some true then
      .error (invalidParameter message)
    else .error (validationFailed message)
  else
    let expireDays ← decodeExpireDays toDouble json
    let password ← decodePassword json
    let permission ← decodePermission json
    pure
      { fileIds := fileIds
        folderIds := folderIds
        expireDays := expireDays.getD 7
        password := password.filter fun text => text ≠ ""
        permission := permission.getD .download }

def UpdateShareRequest.fromRequest (shareId : String) : Parsed UpdateShareRequest := do
  if shareId = "" then .error (invalidParameter "Missing required parameter: share_id")
  else
    let expireDays ← decodeExpireDays toDouble json
    let password ← decodePassword json
    let permission ← decodePermission json
    pure ⟨shareId, expireDays, password, permission⟩

end Requests

section Owner

structure OwnedShare extends Share where
  createdAt : Timestamp
  deriving Repr, DecidableEq

abbrev ShareTable := Serial OwnedShare fun share => share.id

/-- A day has 86400 seconds, and the product of two `int` wraps around. -/
def expireSeconds (days : Int32) : Int32 := days * 86400

def after (date : Timestamp) (seconds : Int32) : Timestamp := date + seconds.toInt * second

def shareCodeGenerationMaxAttempts : Nat := 5

def failedToCreateShare : ErrorInfo := ⟨.internalError, "Failed to create share"⟩

/-- What the checks of the items return, the codes that are drawn, and whether the transaction commits. -/
structure CreateOutcome where
  ownership : Except ErrorInfo Unit
  hashPassword : String → Option String
  candidates : List String
  committed : Bool

variable (now : Timestamp) (userId : Nat) (shares : ShareTable)

def newShare (request : CreateShareRequest) (passwordHash : Option String) (shareCode : String) (id : Nat) :
    OwnedShare where
  id := id
  shareCode := shareCode
  userId := userId
  passwordHash := passwordHash
  permission := request.permission.text
  viewCount := 0
  downloadCount := 0
  status := ShareStatus.active.toInt
  expiresAt := if 0 < request.expireDays then some (after now (expireSeconds request.expireDays)) else none
  createdAt := now
  updatedAt := now

def createShare (request : CreateShareRequest) (outcome : CreateOutcome) :
    Except ErrorInfo OwnedShare × ShareTable :=
  match outcome.ownership with
  | .error error => (.error error, shares)
  | .ok _ =>
      let password := request.password.filter fun text => text ≠ ""
      let passwordHash := password.bind outcome.hashPassword
      if password.isSome ∧ passwordHash.isNone then
        (.error ⟨.internalError, "Password encryption failed"⟩, shares)
      else
        let free := fun code => !(shares.rows.any fun share => share.shareCode = code)
        match (outcome.candidates.take shareCodeGenerationMaxAttempts).find? free with
        | none => (.error failedToCreateShare, shares)
        | some shareCode =>
            if outcome.committed then
              let build := newShare now userId request passwordHash shareCode
              (.ok (build shares.next), shares.insert build fun _ => rfl)
            else (.error failedToCreateShare, shares)

def validateShareOwnership (shareCode : String) : Except ErrorInfo OwnedShare :=
  match shares.rows.find? fun share => share.shareCode = shareCode with
  | none => .error ⟨.shareNotFound, "Share not found"⟩
  | some share => if share.userId ≠ userId then .error ⟨.shareAccessDenied, "Access denied"⟩ else .ok share

def changedShare (request : UpdateShareRequest) (passwordHash : Option String) (share : OwnedShare) :
    OwnedShare :=
  { share with
    expiresAt :=
      match request.expireDays with
      | none => share.expiresAt
      | some days => if 0 < days then some (after now (expireSeconds days)) else none
    passwordHash := if request.password.isSome then passwordHash else share.passwordHash
    permission := (request.permission.map SharePermission.text).getD share.permission
    updatedAt := now }

def updateShare (request : UpdateShareRequest) (hashPassword : String → Option String) (saved : Bool) :
    Except ErrorInfo OwnedShare × ShareTable :=
  match validateShareOwnership userId shares request.shareId with
  | .error error => (.error error, shares)
  | .ok share =>
      if !isShareActive now share.toShare then
        (.error ⟨.shareExpired, "Share cancelled or expired, cannot update"⟩, shares)
      else
        let password := request.password.filter fun text => text ≠ ""
        let passwordHash := password.bind hashPassword
        if password.isSome ∧ passwordHash.isNone then
          (.error ⟨.internalError, "Password encryption failed"⟩, shares)
        else if saved then
          (.ok (changedShare now request passwordHash share),
            shares.update (fun row => row.id = share.id) (changedShare now request passwordHash) fun _ => rfl)
        else (.error ⟨.internalError, "Failed to update share"⟩, shares)

end Owner

section Listing

inductive StatusFilter where
  | all
  | active
  | expired
  | cancelled
  deriving Repr, DecidableEq

def StatusFilter.text : StatusFilter → String
  | .all => "all"
  | .active => "active"
  | .expired => "expired"
  | .cancelled => "cancelled"

def getStatusFilter : StatusFilter → Option Int
  | .all => none
  | .active => some ShareStatus.active.toInt
  | .expired => some ShareStatus.expired.toInt
  | .cancelled => some ShareStatus.cancelled.toInt

structure ShareListRequest where
  status : StatusFilter
  page : Int32
  pageSize : Int32
  deriving Repr, DecidableEq

def ShareListRequest.offset (request : ShareListRequest) : Int32 := offset32 request.page request.pageSize

structure ShareItem where
  shareId : String
  shareLink : String
  hasPassword : Bool
  permission : String
  viewCount : Nat
  downloadCount : Nat
  createdAt : Timestamp
  expiresAt : Option Timestamp
  status : String
  deriving Repr, DecidableEq

structure Pagination where
  page : Int32
  pageSize : Int32
  total : Int32
  totalPages : Int32
  deriving Repr, DecidableEq

structure ShareListResponse where
  items : List ShareItem
  pagination : Pagination
  deriving Repr, DecidableEq

variable (now : Timestamp) (userId : Nat) (shares : List OwnedShare)

def selectedByFilter (filter : StatusFilter) (share : OwnedShare) : Bool :=
  share.userId = userId &&
    match filter with
    | .active => listedAsActive now share.toShare
    | other => (getStatusFilter other).all fun status => share.status = status

def matchingShares (filter : StatusFilter) : List OwnedShare :=
  shares.filter (selectedByFilter now userId filter)

/-- One count is converted from a text and throws beyond its type, the other one is cut to 32 bits. -/
def countShares (filter : StatusFilter) : Option Int32 :=
  let count := (matchingShares now userId shares filter).length
  match filter with
  | .active => if count < 2147483648 then some (Int32.ofNat count) else none
  | _ => some (Int32.ofNat count)

def showShare (share : OwnedShare) : ShareItem where
  shareId := share.shareCode
  shareLink := "/s/" ++ share.shareCode
  hasPassword := share.passwordHash.isSome
  permission := share.permission
  viewCount := share.viewCount
  downloadCount := share.downloadCount
  createdAt := share.createdAt
  expiresAt := share.expiresAt
  status := listedStatus now share.toShare

def listShares (arrangement : Arrangement (Descending OwnedShare.createdAt)) (request : ShareListRequest) :
    Parsed ShareListResponse :=
  match countShares now userId shares request.status with
  | none => .raised
  | some total =>
      if request.offset < 0 then .error ⟨.internalError, "Failed to get share list"⟩
      else
        let rows := arrangement.sort (matchingShares now userId shares request.status)
        .value
          { items := (cut request.pageSize.toInt.toNat request.offset.toInt.toNat rows).map (showShare now)
            pagination :=
              { page := request.page
                pageSize := request.pageSize
                total := total
                totalPages := totalPages32 total request.pageSize } }

end Listing

end DiskServer.Shares
