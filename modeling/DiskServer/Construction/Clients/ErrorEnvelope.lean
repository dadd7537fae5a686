import DiskServer.Construction.ErrorCode
import DiskServer.Construction.Json
import Mathlib.Data.List.Infix

/-
This file gives the error responses of the server and the readings of them in the three clients.
-/

namespace DiskServer.Clients

section Server

def getHttpStatus : ErrorCode → Nat
  | .success => 200
  | .invalidParameter => 400
  | .validationFailed => 400
  | .resourceNotFound => 404
  | .resourceConflict => 409
  | .tooManyRequests => 429
  | .internalError => 500
  | .usernameExists => 400
  | .emailExists => 400
  | .userNotFound => 404
  | .invalidCredentials => 401
  | .accountLocked => 401
  | .accountDisabled => 401
  | .invalidToken => 401
  | .invalidRefreshToken => 401
  | .tokenMissing => 401
  | .tokenMalformed => 401
  | .tokenExpired => 401
  | .tokenWrongType => 401
  | .refreshTokenAlreadyUsed => 401
  | .tokenRevoked => 401
  | .invalidFilename => 400
  | .storageQuotaExceeded => 400
  | .fileNotFound => 404
  | .folderNotFound => 404
  | .fileAlreadyExists => 409
  | .uploadTaskNotFound => 400
  | .chunkVerifyFailed => 400
  | .folderAlreadyExists => 409
  | .fileReadError => 500
  | .uploadTaskCreationDisabled => 503
  | .uploadLifecycleFrozen => 503
  | .shareNotFound => 404
  | .shareExpired => 400
  | .sharePasswordError => 400
  | .shareAccessDenied => 403
  | .redisOperationFailed => 500
  | .redisKeyNotFound => 404
  | .adminRequired => 403
  | .adminUserNotFound => 404
  | .adminCannotModifySelf => 400
  | .adminCannotDemoteLast => 400
  | .adminShareNotFound => 404
  | .adminInvalidStatus => 400
  | .adminInvalidRole => 400

structure Reply where
  status : Nat
  contentType : String
  text : String
  body : Option Json
  retryAfter : Option Int
  rateLimitReset : Option Int

def errorBody (info : ErrorInfo) : Json :=
  .object
    [("code", .number info.code.toInt), ("data", .null), ("message", .string info.message)]

def responseError (write : Json → String) (info : ErrorInfo) : Reply :=
  { status := getHttpStatus info.code
    contentType := "application/json; charset=utf-8"
    text := write (errorBody info)
    body := some (errorBody info)
    retryAfter := none
    rateLimitReset := none }

end Server

section Web

def errorMessageMap : Int → Option String
  | 10001 => some "参数无效"
  | 10002 => some "数据校验失败"
  | 10003 => some "资源不存在"
  | 10004 => some "资源冲突"
  | 10005 => some "请求过于频繁"
  | 10006 => some "服务器内部错误"
  | 40001 => some "用户名已存在"
  | 40002 => some "邮箱已被注册"
  | 40100 => some "用户不存在"
  | 40101 => some "用户名或密码错误"
  | 40102 => some "账户已被锁定"
  | 40103 => some "账户已被禁用"
  | 40104 => some "登录已过期，请重新登录"
  | 40105 => some "登录已过期，请重新登录"
  | 40106 => some "登录已过期，请重新登录"
  | 40107 => some "登录已过期，请重新登录"
  | 40108 => some "登录已过期，请重新登录"
  | 40109 => some "登录已过期，请重新登录"
  | 40110 => some "登录已过期，请重新登录"
  | 40111 => some "登录已过期，请重新登录"
  | 50001 => some "文件名无效"
  | 50004 => some "存储空间不足"
  | 50005 => some "文件不存在"
  | 50006 => some "文件夹不存在"
  | 50007 => some "文件已存在"
  | 60001 => some "分享不存在"
  | 60002 => some "分享已过期"
  | 60003 => some "分享密码错误"
  | 60004 => some "分享访问被拒绝"
  | 80001 => some "需要管理员权限"
  | _ => none

structure WebError where
  code : Json
  message : Json

def translated (code message : Json) : Json :=
  match code with
  | .number code => ((errorMessageMap code).map Json.string).getD message
  | _ => message

def number? : Json → Option Int
  | .number value => some value
  | _ => none

def isApiResponse (value : Json) : Bool :=
  (number? (value.field "code")).isSome && ((value.field "message").string?).isSome

def isTruthy : Json → Bool
  | .null => false
  | .bool value => value
  | .number value => value ≠ 0
  | .string value => value ≠ ""
  | .array _ => true
  | .object _ => true

def includesText (text part : String) : Bool := decide (part.toList <:+: text.toList)

def responseBody (reply : Reply) (blob : Bool) : Option Json :=
  if blob then
    if includesText reply.contentType "application/json" then reply.body.filter isTruthy else none
  else reply.body.filter isApiResponse

def rejectApiError (reply : Reply) (blob : Bool) (statusText : String) : WebError :=
  match responseBody reply blob with
  | some body =>
      if number? (body.field "code") = some 0 then ⟨.number reply.status, .string statusText⟩
      else ⟨body.field "code", translated (body.field "code") (body.field "message")⟩
  | none => ⟨.number reply.status, .string statusText⟩

end Web

section Terminal

structure Envelope where
  code : Int
  message : String
  data : Json

/-- The texts of this client are sequences of bytes. -/
structure APIError where
  code : Int
  httpCode : Nat
  message : List UInt8
  deriving Repr, DecidableEq

def unmarshalEnvelope : Json → Option Envelope
  | .null => some ⟨0, "", .null⟩
  | .object fields =>
      let value := Json.object fields
      let code :=
        match value.field "code" with
        | .null => some 0
        | .number code => some code
        | _ => none
      let message :=
        match value.field "message" with
        | .null => some ""
        | .string message => some message
        | _ => none
      match code, message with
      | some code, some message => some ⟨code, message, value.field "data"⟩
      | _, _ => none
  | _ => none

def textBytes (text : String) : List UInt8 := text.toByteArray.toList

def truncate (text : List UInt8) (limit : Nat) : List UInt8 :=
  if text.length ≤ limit then text else text.take limit ++ textBytes "..."

def decodeEnvelope (reply : Reply) (parseError : String) : Except APIError Json :=
  match reply.body.bind unmarshalEnvelope with
  | none =>
      .error
        ⟨0, reply.status, textBytes ("invalid json response: " ++ parseError ++ "; body=") ++
          truncate (textBytes reply.text) 256⟩
  | some envelope =>
      if envelope.code ≠ 0 then .error ⟨envelope.code, reply.status, textBytes envelope.message⟩
      else .ok envelope.data

def readBodyError (reply : Reply) : APIError :=
  match reply.body.bind unmarshalEnvelope with
  | some envelope =>
      if envelope.message ≠ "" then ⟨envelope.code, reply.status, textBytes envelope.message⟩
      else ⟨0, reply.status, truncate (textBytes reply.text) 256⟩
  | none => ⟨0, reply.status, truncate (textBytes reply.text) 256⟩

end Terminal

section Desktop

structure ApiError where
  code : Int
  family : String
  category : String
  message : String
  retryable : Bool
  action : String
  deriving Repr, DecidableEq

def classify (code : Int) : String :=
  if 10001 ≤ code ∧ code ≤ 10999 then "general"
  else if 40001 ≤ code ∧ code ≤ 40999 then "auth"
  else if 50001 ≤ code ∧ code ≤ 50999 then "file"
  else if 60001 ≤ code ∧ code ≤ 60999 then "share"
  else if 70001 ≤ code ∧ code ≤ 70999 then "redis"
  else "unknown"

def familyCategory (family : String) : String :=
  if family = "general" then "RequestError"
  else if family = "auth" then "AuthenticationError"
  else if family = "file" then "FileDomainError"
  else if family = "share" then "ShareDomainError"
  else if family = "redis" then "InfrastructureError"
  else "UnknownError"

def mapToCategory (code : Int) : String :=
  match code with
  | 10001 => "ValidationError"
  | 10002 => "ValidationError"
  | 10003 => "NotFound"
  | 10004 => "Conflict"
  | 10005 => "RateLimited"
  | 10006 => "ServerFailure"
  | 40001 => "IdentityConflict"
  | 40002 => "IdentityConflict"
  | 40100 => "NotFound"
  | 40101 => "CredentialsRejected"
  | 40102 => "AccountRestricted"
  | 40103 => "AccountRestricted"
  | 40104 => "SessionExpired"
  | 40105 => "ReLoginRequired"
  | 40106 => "AuthProtocolError"
  | 40107 => "AuthProtocolError"
  | 40108 => "SessionExpired"
  | 40109 => "AuthProtocolError"
  | 40110 => "ReLoginRequired"
  | 40111 => "ReLoginRequired"
  | 50001 => "FileConstraint"
  | 50002 => "FileConstraint"
  | 50003 => "FileConstraint"
  | 50004 => "StorageQuotaExceeded"
  | 50005 => "NotFound"
  | 50006 => "NotFound"
  | 50007 => "Conflict"
  | 50008 => "UploadSessionExpired"
  | 50009 => "TransferIntegrityError"
  | 50010 => "Conflict"
  | 50011 => "TransferReadError"
  | 60001 => "ShareUnavailable"
  | 60002 => "ShareExpired"
  | 60003 => "SharePasswordRejected"
  | 60004 => "PermissionDenied"
  | 70001 => "InfrastructureError"
  | 70002 => "InfrastructureError"
  | 70003 => "RemoteStateMissing"
  | other => familyCategory (classify other)

def mapToAction (code : Int) : String :=
  match code with
  | 10001 => "fix_request"
  | 10002 => "fix_request"
  | 10003 => "refresh_context"
  | 10004 => "refresh_then_retry"
  | 10005 => "wait_and_retry"
  | 10006 => "retry_or_report"
  | 40001 => "change_input"
  | 40002 => "change_input"
  | 40101 => "reenter_credentials"
  | 40102 => "wait_or_contact_support"
  | 40103 => "contact_support"
  | 40104 => "refresh_owner_session"
  | 40105 => "clear_session_and_login"
  | 40106 => "rebuild_request"
  | 40107 => "clear_session_and_login"
  | 40108 => "refresh_owner_session_or_reverify_share"
  | 40109 => "switch_auth_domain"
  | 40110 => "clear_session_and_login"
  | 40111 => "clear_session_and_login"
  | 50001 => "change_input"
  | 50002 => "change_input"
  | 50003 => "change_input"
  | 50004 => "show_storage_and_stop"
  | 50005 => "refresh_context"
  | 50006 => "refresh_context"
  | 50007 => "rename_or_choose_target"
  | 50008 => "restart_upload"
  | 50009 => "retry_chunk_or_restart"
  | 50010 => "rename_or_choose_target"
  | 50011 => "retry_download"
  | 60001 => "close_share_entry"
  | 60002 => "close_share_entry"
  | 60003 => "reenter_share_password"
  | 60004 => "disable_download"
  | 70001 => "retry_with_backoff"
  | 70002 => "retry_with_backoff"
  | 70003 => "revalidate_session_or_refresh"
  | _ => "report_error"

def isRetryable (code : Int) : Bool :=
  code ∈ [10005, 10006, 40104, 40108, 50008, 50009, 50011, 70001, 70002, 70003]

def errorFromJson (json : Json) : ApiError :=
  let code := (number? (json.field "code")).getD 0
  { code := code
    family := classify code
    category := mapToCategory code
    message := ((json.field "message").string?).getD ""
    retryable := isRetryable code
    action := mapToAction code }

inductive NetworkError where
  | noError
  | connectionRefused
  | remoteHostClosed
  | timeout
  | sslHandshakeFailed
  | hostNotFound
  | protocolInvalidOperation
  | authenticationRequired
  | contentAccessDenied
  | contentNotFound
  | contentOperationNotPermitted
  | contentConflict
  | contentGone
  | unknownContent
  | internalServer
  | operationNotImplemented
  | serviceUnavailable
  | unknownServer
  deriving Repr, DecidableEq

def statusCodeFromHttp (status : Nat) : NetworkError :=
  if status < 400 then .noError
  else if status = 400 then .protocolInvalidOperation
  else if status = 401 then .authenticationRequired
  else if status = 403 then .contentAccessDenied
  else if status = 404 then .contentNotFound
  else if status = 405 then .contentOperationNotPermitted
  else if status = 409 then .contentConflict
  else if status = 410 then .contentGone
  else if status < 500 then .unknownContent
  else if status = 500 then .internalServer
  else if status = 501 then .operationNotImplemented
  else if status = 503 then .serviceUnavailable
  else .unknownServer

def errorFromNetworkError : NetworkError → ApiError
  | .connectionRefused =>
      ⟨-1, "network", "ConnectionFailed", "连接被拒绝", true, "retry_with_backoff"⟩
  | .remoteHostClosed =>
      ⟨-2, "network", "ConnectionFailed", "远程主机关闭了连接", true, "retry_with_backoff"⟩
  | .timeout => ⟨-3, "network", "Timeout", "请求超时", true, "retry_with_backoff"⟩
  | .sslHandshakeFailed => ⟨-4, "network", "TlsError", "TLS 握手失败", false, "check_network"⟩
  | .hostNotFound => ⟨-5, "network", "DnsError", "主机未找到", false, "check_network"⟩
  | _ => ⟨-99, "network", "NetworkError", "网络错误", true, "retry_with_backoff"⟩

def handlerError (reply : Reply) : Except ApiError ApiError :=
  match reply.body with
  | some (.object fields) =>
      let json := Json.object fields
      if json.isMember "error" then .ok (errorFromJson (json.field "error"))
      else .error (errorFromNetworkError (statusCodeFromHttp reply.status))
  | _ => .error (errorFromNetworkError (statusCodeFromHttp reply.status))

inductive UploadReaction where
  | expire
  | fail (error : ApiError)
  | retryOrFail (error : ApiError)
  deriving Repr, DecidableEq

def uploadReaction (error : ApiError) : UploadReaction :=
  if error.code = 50008 then .expire
  else if error.code = 50004 then .fail { error with retryable := false }
  else .retryOrFail error

def handleUploadError (reply : Reply) : UploadReaction :=
  match handlerError reply with
  | .ok error => uploadReaction error
  | .error error => .retryOrFail error

def handleInitError (reply : Reply) : UploadReaction := handleUploadError reply

def handleChunkError (reply : Reply) : UploadReaction := handleUploadError reply

def handleCompleteError (reply : Reply) : UploadReaction := handleUploadError reply

def handleTransferError (reply : Reply) : ApiError :=
  match handlerError reply with
  | .ok error => error
  | .error error => error

def handleMetadataError (reply : Reply) : ApiError := handleTransferError reply

def handleDownloadError (reply : Reply) : ApiError := handleTransferError reply

inductive UploadOutcome where
  | failed (error : ApiError)
  | retrying (error : ApiError) (retryCount : Nat) (delay : Int)
  deriving Repr, DecidableEq

def maxRetryCount : Nat := 3

/-- A delay in milliseconds is an `int`, which wraps around. -/
def delayOf (seconds : Int) : Int := (seconds * 1000).bmod 4294967296

def retryOrFailUpload (error : ApiError) (reply : Option Reply) (retryCount : Nat) (now : Int) :
    UploadOutcome :=
  let rateLimited := reply.any (fun reply => reply.status = 429) || error.code = 10005
  let limitDelay :=
    match reply with
    | some reply =>
        if rateLimited then
          match reply.retryAfter, reply.rateLimitReset with
          | some seconds, reset =>
              if 0 < seconds then delayOf seconds
              else
                match reset with
                | some time => if 0 < time then delayOf (max 1 (time - now)) else 0
                | none => 0
          | none, some time => if 0 < time then delayOf (max 1 (time - now)) else 0
          | none, none => 0
        else 0
    | none => 0
  if (error.retryable || rateLimited) && (rateLimited || retryCount < maxRetryCount) then
    let counted := if rateLimited then retryCount else retryCount + 1
    .retrying error counted
      (if 0 < limitDelay then limitDelay else 1000 * (1 <<< min counted (maxRetryCount - 1)))
  else .failed error

end Desktop

end DiskServer.Clients
