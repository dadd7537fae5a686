/-
This file gives the error codes of the server with their numbers and default messages.
-/

namespace DiskServer

inductive ErrorCode where
  | success
  | invalidParameter
  | validationFailed
  | resourceNotFound
  | resourceConflict
  | tooManyRequests
  | internalError
  | usernameExists
  | emailExists
  | userNotFound
  | invalidCredentials
  | accountLocked
  | accountDisabled
  | invalidToken
  | invalidRefreshToken
  | tokenMissing
  | tokenMalformed
  | tokenExpired
  | tokenWrongType
  | refreshTokenAlreadyUsed
  | tokenRevoked
  | invalidFilename
  | storageQuotaExceeded
  | fileNotFound
  | folderNotFound
  | fileAlreadyExists
  | uploadTaskNotFound
  | chunkVerifyFailed
  | folderAlreadyExists
  | fileReadError
  | uploadTaskCreationDisabled
  | uploadLifecycleFrozen
  | shareNotFound
  | shareExpired
  | sharePasswordError
  | shareAccessDenied
  | redisOperationFailed
  | redisKeyNotFound
  | adminRequired
  | adminUserNotFound
  | adminCannotModifySelf
  | adminCannotDemoteLast
  | adminShareNotFound
  | adminInvalidStatus
  | adminInvalidRole
  deriving Repr, DecidableEq

def ErrorCode.toInt : ErrorCode → Nat
  | .success => 0
  | .invalidParameter => 10001
  | .validationFailed => 10002
  | .resourceNotFound => 10003
  | .resourceConflict => 10004
  | .tooManyRequests => 10005
  | .internalError => 10006
  | .usernameExists => 40001
  | .emailExists => 40002
  | .userNotFound => 40100
  | .invalidCredentials => 40101
  | .accountLocked => 40102
  | .accountDisabled => 40103
  | .invalidToken => 40104
  | .invalidRefreshToken => 40105
  | .tokenMissing => 40106
  | .tokenMalformed => 40107
  | .tokenExpired => 40108
  | .tokenWrongType => 40109
  | .refreshTokenAlreadyUsed => 40110
  | .tokenRevoked => 40111
  | .invalidFilename => 50001
  | .storageQuotaExceeded => 50004
  | .fileNotFound => 50005
  | .folderNotFound => 50006
  | .fileAlreadyExists => 50007
  | .uploadTaskNotFound => 50008
  | .chunkVerifyFailed => 50009
  | .folderAlreadyExists => 50010
  | .fileReadError => 50011
  | .uploadTaskCreationDisabled => 50012
  | .uploadLifecycleFrozen => 50013
  | .shareNotFound => 60001
  | .shareExpired => 60002
  | .sharePasswordError => 60003
  | .shareAccessDenied => 60004
  | .redisOperationFailed => 70002
  | .redisKeyNotFound => 70003
  | .adminRequired => 80001
  | .adminUserNotFound => 80002
  | .adminCannotModifySelf => 80003
  | .adminCannotDemoteLast => 80004
  | .adminShareNotFound => 80005
  | .adminInvalidStatus => 80006
  | .adminInvalidRole => 80007

def getErrorMessage : ErrorCode → String
  | .success => "success"
  | .invalidParameter => "Invalid request parameters"
  | .validationFailed => "Parameter validation failed"
  | .resourceNotFound => "Resource not found"
  | .resourceConflict => "Resource conflict"
  | .tooManyRequests => "Too many requests"
  | .internalError => "Internal server error"
  | .usernameExists => "Username already registered"
  | .emailExists => "Email already registered"
  | .userNotFound => "User not found"
  | .invalidCredentials => "Invalid username or password"
  | .accountLocked => "Account locked, please try again later"
  | .accountDisabled => "Account has been disabled"
  | .invalidToken => "Token invalid or expired"
  | .invalidRefreshToken => "Invalid refresh token"
  | .tokenMissing => "Token not provided"
  | .tokenMalformed => "Token format error"
  | .tokenExpired => "Token expired"
  | .tokenWrongType => "Token type error"
  | .refreshTokenAlreadyUsed => "Refresh token already used"
  | .tokenRevoked => "Token revoked"
  | .invalidFilename => "Invalid filename"
  | .storageQuotaExceeded => "Insufficient storage space"
  | .fileNotFound => "File not found"
  | .folderNotFound => "Folder not found"
  | .fileAlreadyExists => "File with same name already exists"
  | .uploadTaskNotFound => "Upload task not found or expired"
  | .chunkVerifyFailed => "Chunk verification failed"
  | .folderAlreadyExists => "Folder with same name already exists"
  | .fileReadError => "File read failed"
  | .uploadTaskCreationDisabled => "New upload task creation is temporarily disabled"
  | .uploadLifecycleFrozen => "Upload lifecycle is temporarily frozen for rollback"
  | .shareNotFound => "Share not found"
  | .shareExpired => "Share expired"
  | .sharePasswordError => "Share password error"
  | .shareAccessDenied => "Access denied"
  | .redisOperationFailed => "Redis operation failed"
  | .redisKeyNotFound => "Redis key not found"
  | .adminRequired => "Administrator privileges required"
  | .adminUserNotFound => "User not found"
  | .adminCannotModifySelf => "Cannot modify your own account"
  | .adminCannotDemoteLast => "Cannot demote the last administrator"
  | .adminShareNotFound => "Share not found"
  | .adminInvalidStatus => "Invalid user status"
  | .adminInvalidRole => "Invalid role"

structure ErrorInfo where
  code : ErrorCode
  message : String
  deriving Repr, DecidableEq

def ErrorInfo.ofCode (code : ErrorCode) : ErrorInfo := ⟨code, getErrorMessage code⟩

end DiskServer
