import DiskServer.Construction.Filters.RouteFilters
import DiskServer.Library.Transition

/-
This file gives the logins, refreshes and logouts of users and the administration of their accounts.
-/

namespace DiskServer.Auth

open Library

section Accounts

structure UserRow where
  id : UInt64
  username : String
  email : String
  status : Int16
  role : Int16
  loginAttempts : Nat
  lockedUntil : Option Nat
  deriving Repr, DecidableEq

def accountStatusDisabled : Int16 := 0

def accountStatusActive : Int16 := 1

def accountStatusLocked : Int16 := 2

def loginFailureLimit : Nat := 5

structure AccessToken where
  userId : UInt64
  payload : AccessPayload
  expiresAt : Nat
  deriving Repr, DecidableEq

structure RefreshToken where
  userId : UInt64
  jti : String
  expiresAt : Nat
  deriving Repr, DecidableEq

structure AuthState where
  now : Nat
  users : List UserRow
  issuedAccess : List AccessToken
  issuedRefresh : List RefreshToken
  accessBlacklist : List String
  storedRefresh : UInt64 → Option String

variable (state : AuthState)

def AuthState.findOne (id : UInt64) : Option UserRow := state.users.find? fun user => user.id == id

def AuthState.findUser (account : String) : Option UserRow :=
  state.users.find? fun user => user.username == account || user.email == account

def AuthState.updateUser (id : UInt64) (change : UserRow → UserRow) : AuthState :=
  { state with users := state.users.map fun user => if user.id = id then change user else user }

def UserRow.deadlinePassed (user : UserRow) (now : Nat) : Bool :=
  user.lockedUntil.any fun deadline => deadline ≤ now

def UserRow.accountLocked (user : UserRow) (now : Nat) : Bool :=
  (user.status = accountStatusLocked && user.lockedUntil.isNone) ||
    user.lockedUntil.any fun deadline => now < deadline

def AuthState.validateAccountAccess (id : UInt64) : Except ErrorCode Unit :=
  match state.findOne id with
  | none => .error .userNotFound
  | some user =>
      if user.status = accountStatusDisabled then .error .accountDisabled
      else if user.accountLocked state.now then .error .accountLocked
      else .ok ()

def UserRow.mayLogin (user : UserRow) (now : Nat) : Bool :=
  (user.status = accountStatusActive && (user.lockedUntil.isNone || user.deadlinePassed now)) ||
    (user.status = accountStatusLocked && user.deadlinePassed now)

def AuthState.incrementLoginAttempts (id : UInt64) : AuthState :=
  state.updateUser id fun user =>
    if user.mayLogin state.now = false then user
    else
      let attempts := if user.deadlinePassed state.now then 1 else user.loginAttempts + 1
      { user with
        status := accountStatusActive
        loginAttempts := attempts
        lockedUntil := if loginFailureLimit ≤ attempts then some (state.now + 900) else none }

def AuthState.updateLoginInfo (id : UInt64) : Except ErrorCode AuthState :=
  if (state.findOne id).any fun user => user.mayLogin state.now then
    .ok
      (state.updateUser id fun user =>
        { user with status := accountStatusActive, loginAttempts := 0, lockedUntil := none })
  else
    match state.validateAccountAccess id with
    | .error code => .error code
    | .ok () => .error .internalError

end Accounts

section Tokens

def accessTokenExpireSeconds : Nat := 7200

def refreshTokenExpireSeconds : Nat := 604800

def generateTokens (now : Nat) (user : UserRow) (status : Int16) (accessJti refreshJti : String) :
    AccessToken × RefreshToken :=
  ({ userId := user.id
     payload :=
      { type := "access"
        subject := toString user.id.toNat
        username := user.username
        jti := accessJti
        role := some user.role.toInt
        status := some status.toInt }
     expiresAt := now + accessTokenExpireSeconds },
    { userId := user.id, jti := refreshJti, expiresAt := now + refreshTokenExpireSeconds })

variable (state : AuthState)

def AuthState.handOut (pair : AccessToken × RefreshToken) : AuthState :=
  { state with
    issuedAccess := pair.1 :: state.issuedAccess
    issuedRefresh := pair.2 :: state.issuedRefresh }

def AuthState.storeRefreshToken (id : UInt64) (jti : String) : AuthState :=
  { state with storedRefresh := Function.update state.storedRefresh id (some jti) }

structure LoginAnswers where
  attempts : Option Nat
  passwordMatches : Bool
  stored : Bool
  deriving Repr, DecidableEq

def AuthState.login (account : String) (answers : LoginAnswers) (accessJti refreshJti : String) :
    AuthState × Except ErrorCode (AccessToken × RefreshToken) :=
  if answers.attempts.any fun count => 5 < count then (state, .error .tooManyRequests)
  else
    match state.findUser account with
    | none => (state, .error .userNotFound)
    | some user =>
        match state.validateAccountAccess user.id with
        | .error code => (state, .error code)
        | .ok () =>
            if answers.passwordMatches = false then
              (state.incrementLoginAttempts user.id, .error .invalidCredentials)
            else
              match state.updateLoginInfo user.id with
              | .error code => (state, .error code)
              | .ok active =>
                  let pair := generateTokens state.now user accountStatusActive accessJti refreshJti
                  let kept :=
                    if answers.stored then active.storeRefreshToken user.id refreshJti else active
                  (kept.handOut pair, .ok pair)

def AuthState.verifyRefreshToken (jti : String) : Except ErrorCode RefreshToken :=
  match state.issuedRefresh.find? fun token => token.jti == jti with
  | none => .error .invalidToken
  | some token => if token.expiresAt < state.now then .error .tokenExpired else .ok token

def AuthState.refreshTokens (jti : String) (available : Bool) (accessJti refreshJti : String) :
    AuthState × Except ErrorCode (AccessToken × RefreshToken) :=
  match state.verifyRefreshToken jti with
  | .error code => (state, .error code)
  | .ok token =>
      match state.findOne token.userId with
      | none => (state, .error .userNotFound)
      | some user =>
          match state.validateAccountAccess token.userId with
          | .error code => (state, .error code)
          | .ok () =>
              let pair := generateTokens state.now user accountStatusActive accessJti refreshJti
              if available = false then (state, .error .redisOperationFailed)
              else if state.storedRefresh user.id ≠ some jti then
                (state, .error .refreshTokenAlreadyUsed)
              else ((state.storeRefreshToken user.id refreshJti).handOut pair, .ok pair)

/-- A logout revokes the access token, and it goes on when the refresh token cannot be deleted. -/
def AuthState.logout (id : UInt64) (accessJti : String) (deleted : Bool) : AuthState :=
  { state with
    accessBlacklist := accessJti :: state.accessBlacklist
    storedRefresh :=
      if deleted then Function.update state.storedRefresh id none else state.storedRefresh }

def AuthState.decodeAccess (token : String) : Decoded AccessPayload :=
  match state.issuedAccess.find? fun issued => issued.payload.jti == token with
  | none => .unverified
  | some issued => if issued.expiresAt < state.now then .expired else .payload issued.payload

def AuthState.isAccessTokenRevoked (jti : String) : Except ErrorCode Bool :=
  .ok (jti ∈ state.accessBlacklist)

end Tokens

section Administration

variable (state : AuthState)

def AuthState.changeUserStatus (operatorId targetId : UInt64) (status : Int16) :
    AuthState × Except ErrorCode Unit :=
  if targetId = operatorId then (state, .error .adminCannotModifySelf)
  else
    match state.findOne targetId with
    | none => (state, .error .adminUserNotFound)
    | some _ =>
        (state.updateUser targetId fun user =>
          { user with status := status, loginAttempts := 0, lockedUntil := none }, .ok ())

def AuthState.changeUserRole (operatorId targetId : UInt64) (role : Int16) :
    AuthState × Except ErrorCode Unit :=
  if targetId = operatorId then (state, .error .adminCannotModifySelf)
  else
    match state.findOne targetId with
    | none => (state, .error .adminUserNotFound)
    | some user =>
        if role = 0 ∧ user.role = 1 ∧ (state.users.countP fun user => user.role == 1) ≤ 1 then
          (state, .error .adminCannotDemoteLast)
        else (state.updateUser targetId fun user => { user with role := role }, .ok ())

def AuthState.softDeleteUser (operatorId targetId : UInt64) : AuthState × Except ErrorCode Unit :=
  if targetId = operatorId then (state, .error .adminCannotModifySelf)
  else
    match state.findOne targetId with
    | none => (state, .error .adminUserNotFound)
    | some _ =>
        (state.updateUser targetId fun user => { user with status := accountStatusDisabled }, .ok ())

end Administration

section Runs

inductive AuthAction where
  | tick (seconds : Nat)
  | login (account : String) (answers : LoginAnswers) (accessJti refreshJti : String)
  | refresh (jti : String) (available : Bool) (accessJti refreshJti : String)
  | logout (id : UInt64) (accessJti : String) (deleted : Bool)
  | changeUserStatus (operatorId targetId : UInt64) (status : Int16)
  | changeUserRole (operatorId targetId : UInt64) (role : Int16)
  | softDeleteUser (operatorId targetId : UInt64)
  deriving Repr, DecidableEq

def AuthState.perform (state : AuthState) : AuthAction → AuthState
  | .tick seconds => { state with now := state.now + seconds }
  | .login account answers accessJti refreshJti =>
      (state.login account answers accessJti refreshJti).1
  | .refresh jti available accessJti refreshJti =>
      (state.refreshTokens jti available accessJti refreshJti).1
  | .logout id accessJti deleted => state.logout id accessJti deleted
  | .changeUserStatus operatorId targetId status => (state.changeUserStatus operatorId targetId status).1
  | .changeUserRole operatorId targetId role => (state.changeUserRole operatorId targetId role).1
  | .softDeleteUser operatorId targetId => (state.softDeleteUser operatorId targetId).1

def authSystem : TransitionSystem AuthState AuthAction where
  initial state := state.issuedAccess = [] ∧ (state.users.map UserRow.id).Nodup
  step state action := some (state.perform action)

def AuthState.environment (state : AuthState) (base : Filters.Environment) : Filters.Environment :=
  { base with
    tokens :=
      { base.tokens with
        decodeAccess := state.decodeAccess
        isAccessTokenRevoked := state.isAccessTokenRevoked }
    now := state.now }

end Runs

end DiskServer.Auth
