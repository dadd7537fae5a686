import DiskServer.Construction.Auth.AuthService
import DiskServer.Construction.Auth.ExpiryCache
import DiskServer.Library.Routine

/-
This file gives the logins, refreshes and logouts of several instances as routines on one Redis store.
-/

namespace DiskServer.Auth

open Library Redis DoubleIndex

section Commands

/-- The clock, the shared store, the tokens that were signed and the operations that the revocation cache
of each instance has gone through. -/
structure SessionWorld where
  now : Nat
  redis : Store
  issuedAccess : List AccessToken
  issuedRefresh : List RefreshToken
  caches : Nat → List (CacheOperation String Nat Nat)

inductive AuthCommand where
  | redis (command : RedisCommand)
  | clock
  | findCached (serverId : Nat) (jti : String) (now : Nat)
  | upsertCached (serverId : Nat) (jti : String) (expiresAt : Nat)
  | verifyAccessToken (token : String)
  | verifyRefreshToken (token : String)
  | extractJti (token : String)
  | generateTokens (user : UserRow)
  | findUser (account : String)
  | findOne (userId : UInt64)
  | validateAccountAccess (userId : UInt64)
  | verifyPassword (password : String) (user : UserRow)
  | incrementLoginAttempts (userId : UInt64)
  | updateLoginInfo (userId : UInt64) (address : String)

@[reducible] def AuthCommand.Answer : AuthCommand → Type
  | .redis command => Except ErrorCode command.Answer
  | .clock => Nat
  | .findCached .. => Bool
  | .upsertCached .. => Unit
  | .verifyAccessToken _ => Except ErrorCode AccessTokenClaims
  | .verifyRefreshToken _ => Except ErrorCode UInt64
  | .extractJti _ => Except ErrorCode String
  | .generateTokens _ => AccessToken × RefreshToken
  | .findUser _ => Except ErrorCode UserRow
  | .findOne _ => Except ErrorCode UserRow
  | .validateAccountAccess _ => Except ErrorCode Unit
  | .verifyPassword .. => Bool
  | .incrementLoginAttempts _ => Except ErrorCode Unit
  | .updateLoginInfo .. => Except ErrorCode Unit

/-- What decides an answer: nothing, the store, the database, the password or two fresh UUIDs. -/
inductive AuthFate where
  | fixed
  | redis (fate : RedisFate)
  | row (answer : Except ErrorCode UserRow)
  | check (answer : Except ErrorCode Unit)
  | password (answer : Bool)
  | uuids (access refresh : String)

namespace SessionWorld

variable (world : SessionWorld)

def usedJtis : List String :=
  world.issuedAccess.map (fun token => token.payload.jti) ++
    world.issuedRefresh.map RefreshToken.jti

/-- A signature is good on the tokens that were signed, and each of them is known by its UUID. -/
def decodeAccess (token : String) : Decoded AccessPayload :=
  match world.issuedAccess.find? fun issued => issued.payload.jti = token with
  | some issued => if issued.expiresAt < world.now then .expired else .payload issued.payload
  | none =>
      match world.issuedRefresh.find? fun issued => issued.jti = token with
      | some issued =>
          if issued.expiresAt < world.now then .expired
          else .payload ⟨"refresh", toString issued.userId.toNat, "", issued.jti, none, none⟩
      | none => .malformed

def verifyRefreshToken (token : String) : Except ErrorCode UInt64 :=
  match world.issuedRefresh.find? fun issued => issued.jti = token with
  | some issued => if issued.expiresAt < world.now then .error .tokenExpired else .ok issued.userId
  | none =>
      match world.issuedAccess.find? fun issued => issued.payload.jti = token with
      | some issued => .error (if issued.expiresAt < world.now then .tokenExpired else .tokenWrongType)
      | none => .error .tokenMalformed

def extractJti (token : String) : Except ErrorCode String :=
  if world.usedJtis.contains token then .ok token else .error .tokenMalformed

end SessionWorld

/-- The database answers as it likes, but it finds a user only under the user's own id. -/
def executeAuth (fate : AuthFate) :
    (command : AuthCommand) → SessionWorld → Option (command.Answer × SessionWorld)
  | .redis command, world =>
      match fate with
      | .redis fate =>
          let ended := command.execute fate world.now world.redis
          some (ended.1, { world with redis := ended.2 })
      | _ => none
  | .clock, world => some (world.now, world)
  | .findCached serverId jti now, world =>
      some (((runHistory id (world.caches serverId)).bind fun cache => cache.find id jti now).isSome, world)
  | .upsertCached serverId jti expiresAt, world =>
      some ((), { world with
        caches := Function.update world.caches serverId
          (.upsert jti expiresAt :: world.caches serverId) })
  | .verifyAccessToken token, world => some (verifyAccessToken world.decodeAccess token, world)
  | .verifyRefreshToken token, world => some (world.verifyRefreshToken token, world)
  | .extractJti token, world => some (world.extractJti token, world)
  | .generateTokens user, world =>
      match fate with
      | .uuids access refresh =>
          if access ∉ world.usedJtis ∧ refresh ∉ world.usedJtis ∧ access ≠ refresh then
            let pair := generateTokens world.now user accountStatusActive access refresh
            some (pair, { world with
              issuedAccess := pair.1 :: world.issuedAccess
              issuedRefresh := pair.2 :: world.issuedRefresh })
          else
            none
      | _ => none
  | .findUser _, world =>
      match fate with
      | .row answer => some (answer, world)
      | _ => none
  | .findOne userId, world =>
      match fate with
      | .row (.ok user) => if user.id = userId then some (.ok user, world) else none
      | .row (.error code) => some (.error code, world)
      | _ => none
  | .validateAccountAccess _, world =>
      match fate with
      | .check answer => some (answer, world)
      | _ => none
  | .verifyPassword .., world =>
      match fate with
      | .password answer => some (answer, world)
      | _ => none
  | .incrementLoginAttempts _, world =>
      match fate with
      | .check answer => some (answer, world)
      | _ => none
  | .updateLoginInfo .., world =>
      match fate with
      | .check answer => some (answer, world)
      | _ => none

/-- Time passes, an instance evicts what has expired, or its cache becomes anything at all. -/
inductive AuthEvent where
  | tick (seconds : Nat)
  | evictExpired (serverId : Nat)
  | replaceCache (serverId : Nat) (history : List (CacheOperation String Nat Nat))

def AuthEvent.happen : AuthEvent → SessionWorld → SessionWorld
  | .tick seconds, world => { world with now := world.now + seconds }
  | .evictExpired serverId, world =>
      { world with
        caches := Function.update world.caches serverId
          (.evictExpired world.now :: world.caches serverId) }
  | .replaceCache serverId history, world =>
      { world with caches := Function.update world.caches serverId history }

def authMachine : Machine SessionWorld AuthCommand AuthFate AuthEvent AuthCommand.Answer where
  execute := executeAuth
  happen := AuthEvent.happen

end Commands

section Tokens

abbrev AuthRoutine := Routine AuthCommand AuthCommand.Answer

def askAuth (command : AuthCommand) : AuthRoutine command.Answer := Routine.ask command

def redisCommand (command : RedisCommand) : AuthRoutine (Except ErrorCode command.Answer) :=
  askAuth (.redis command)

def refreshTokenTtl : Nat := 604800

def accessTokenTtl : Nat := 7200

variable (hashToken : String → Except ErrorCode String)

def storeRefreshToken (userId : UInt64) (refreshToken : String) : AuthRoutine (Except ErrorCode Unit) :=
  match hashToken refreshToken with
  | .error code => pure (.error code)
  | .ok hash => redisCommand (.set (buildRefreshTokenKey userId) hash refreshTokenTtl)

def refreshRefreshToken (userId : UInt64) (oldToken newToken : String) :
    AuthRoutine (Except ErrorCode Unit) :=
  match hashToken oldToken with
  | .error code => pure (.error code)
  | .ok oldHash =>
      match hashToken newToken with
      | .error code => pure (.error code)
      | .ok newHash => do
          match ← redisCommand
            (.compareAndSwap (buildRefreshTokenKey userId) oldHash newHash refreshTokenTtl) with
          | .error code => pure (.error code)
          | .ok false => pure (.error .refreshTokenAlreadyUsed)
          | .ok true => pure (.ok ())

def invalidateAccessToken (serverId : Nat) (token : String) : AuthRoutine (Except ErrorCode Unit) := do
  match ← askAuth (.extractJti token) with
  | .error code => pure (.error code)
  | .ok jti =>
      match ← redisCommand (.set (buildAccessTokenBlacklistKey jti) "1" accessTokenTtl) with
      | .error code => pure (.error code)
      | .ok () =>
          let now ← askAuth .clock
          askAuth (.upsertCached serverId jti (now + accessTokenExpireSeconds))
          pure (.ok ())

def revokeRefreshToken (userId : UInt64) : AuthRoutine (Except ErrorCode Unit) :=
  redisCommand (.delete (buildRefreshTokenKey userId))

def isAccessTokenRevoked (serverId : Nat) (jti : String) : AuthRoutine (Except ErrorCode Bool) := do
  let now ← askAuth .clock
  if ← askAuth (.findCached serverId jti now) then
    pure (.ok true)
  else
    match ← redisCommand (.existsKey (buildAccessTokenBlacklistKey jti)) with
    | .error code => pure (.error code)
    | .ok false => pure (.ok false)
    | .ok true =>
        askAuth (.upsertCached serverId jti (now + accessTokenExpireSeconds))
        pure (.ok true)

end Tokens

section Requests

def authenticate (serverId : Nat) (token : String) :
    AuthRoutine (Except ErrorCode AccessTokenClaims) := do
  match ← askAuth (.verifyAccessToken token) with
  | .error code => pure (.error code)
  | .ok claims =>
      match ← isAccessTokenRevoked serverId claims.jti with
      | .error code => pure (.error code)
      | .ok true => pure (.error .tokenRevoked)
      | .ok false => pure (.ok claims)

variable (hashToken : String → Except ErrorCode String)

def updateLogin (userId : UInt64) (address : String) : AuthRoutine (Except ErrorCode Unit) := do
  match ← askAuth (.updateLoginInfo userId address) with
  | .error code => pure (.error code)
  | .ok () =>
      let _ ← redisCommand (.delete (buildLoginRateLimitKey address))
      pure (.ok ())

/-- The tokens are handed out even when the refresh token could not be stored. -/
def login (account password address : String) :
    AuthRoutine (Except ErrorCode (AccessToken × RefreshToken)) := do
  let counted ← redisCommand (.incrWithExpire (buildLoginRateLimitKey address) 300)
  if counted.toOption.any fun count => 5 < count then
    pure (.error .tooManyRequests)
  else
    match ← askAuth (.findUser account) with
    | .error code => pure (.error code)
    | .ok user =>
        match ← askAuth (.validateAccountAccess user.id) with
        | .error code => pure (.error code)
        | .ok () =>
            if ← askAuth (.verifyPassword password user) then
              match ← updateLogin user.id address with
              | .error code => pure (.error code)
              | .ok () =>
                  let pair ← askAuth (.generateTokens user)
                  let _ ← storeRefreshToken hashToken user.id pair.2.jti
                  pure (.ok pair)
            else
              match ← askAuth (.incrementLoginAttempts user.id) with
              | .error code => pure (.error code)
              | .ok () => pure (.error .invalidCredentials)

def refreshTokens (token : String) : AuthRoutine (Except ErrorCode (AccessToken × RefreshToken)) := do
  match ← askAuth (.verifyRefreshToken token) with
  | .error code => pure (.error code)
  | .ok userId =>
      match ← askAuth (.findOne userId) with
      | .error code => pure (.error code)
      | .ok user =>
          match ← askAuth (.validateAccountAccess userId) with
          | .error code => pure (.error code)
          | .ok () =>
              let pair ← askAuth (.generateTokens user)
              match ← refreshRefreshToken hashToken user.id token pair.2.jti with
              | .error code => pure (.error code)
              | .ok () => pure (.ok pair)

/-- A logout succeeds even when the refresh token could not be deleted. -/
def logout (serverId : Nat) (token : String) : AuthRoutine (Except ErrorCode Unit) := do
  match ← authenticate serverId token with
  | .error code => pure (.error code)
  | .ok claims =>
      match ← invalidateAccessToken serverId token with
      | .error _ => pure (.error .internalError)
      | .ok () =>
          let _ ← revokeRefreshToken (UInt64.ofNat claims.userId)
          pure (.ok ())

inductive AuthRequest where
  | login (account password address : String)
  | refreshTokens (token : String)
  | logout (serverId : Nat) (token : String)
  | authenticate (serverId : Nat) (token : String)

inductive AuthResult where
  | tokens (result : Except ErrorCode (AccessToken × RefreshToken))
  | unit (result : Except ErrorCode Unit)
  | claims (result : Except ErrorCode AccessTokenClaims)

def authProgram : AuthRequest → AuthRoutine AuthResult
  | .login account password address => .tokens <$> login hashToken account password address
  | .refreshTokens token => .tokens <$> refreshTokens hashToken token
  | .logout serverId token => .unit <$> logout serverId token
  | .authenticate serverId token => .claims <$> authenticate serverId token

/-- At the start nothing has been signed and nothing stored, and the caches hold anything. -/
def sessionSystem :=
  authMachine.system (authProgram hashToken) fun world =>
    world.issuedAccess = [] ∧ world.issuedRefresh = [] ∧ ∀ key, world.redis key = none

end Requests

end DiskServer.Auth
