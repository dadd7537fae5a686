import DiskServer.Construction.Auth.TokenService
import DiskServer.Construction.Redis.RedisService

/-
This file gives the filters of the server that read the path of a request, and the routes they guard.
-/

namespace DiskServer.Filters

open Auth Redis

section Messages

structure Message where
  path : List Char
  authorization : String
  shareToken : String
  clientIp : String
  deriving Repr, DecidableEq

structure Attributes where
  userId : Option Nat
  username : Option String
  role : Option Int
  status : Option Int
  shareCode : Option String
  shareId : Option Nat
  shareTokenJti : Option String
  deriving Repr, DecidableEq

def Attributes.empty : Attributes := ⟨none, none, none, none, none, none, none⟩

structure Rejection where
  code : ErrorCode
  headers : List (String × String)
  deriving Repr, DecidableEq

/-- The keys that a filter counted, and the attributes it passes on or its rejection. -/
structure Answer where
  counted : List String
  verdict : Except Rejection Attributes

def pass (attributes : Attributes) : Answer := ⟨[], .ok attributes⟩

def reject (code : ErrorCode) : Answer := ⟨[], .error ⟨code, []⟩⟩

structure RateLimits where
  shareAccessLimit : Int
  shareAccessWindow : Int
  shareBrowseLimit : Int
  shareBrowseWindow : Int
  shareDownloadLimit : Int
  shareDownloadWindow : Int
  adminLimit : Int
  adminWindow : Int

structure Environment where
  tokens : TokenEnvironment
  limits : RateLimits
  count : String → Int → Except ErrorCode Int
  now : Int

end Messages

section RateLimits

def getFixedWindowStart (now windowSeconds : Int) : Int := now / windowSeconds * windowSeconds

def getFixedWindowReset (window windowSeconds : Int) : Int := window + windowSeconds

def rateLimitExceeded (now limit resetTime : Int) : Rejection :=
  { code := .tooManyRequests
    headers :=
      [("X-RateLimit-Limit", toString limit), ("X-RateLimit-Remaining", "0"),
        ("X-RateLimit-Reset", toString resetTime),
        ("Retry-After", toString (max 1 (resetTime - now)))] }

def configuredOr (configured default : Int) : Int := if 0 < configured then configured else default

def countRequest (environment : Environment) (attributes : Attributes) (key : Int → String)
    (limit windowSeconds : Int) : Answer :=
  let window := getFixedWindowStart environment.now windowSeconds
  match environment.count (key window) windowSeconds with
  | .error _ => ⟨[key window], .ok attributes⟩
  | .ok count =>
      if limit < count then
        ⟨[key window],
          .error (rateLimitExceeded environment.now limit (getFixedWindowReset window windowSeconds))⟩
      else ⟨[key window], .ok attributes⟩

def buildShareAccessRateLimitKey (address : String) (window : Int) : String :=
  "rate:share_access" ++ ":" ++ extractIPOnly address ++ ":" ++ toString window

def buildShareBrowseRateLimitKey (jti : String) (window : Int) : String :=
  "rate:share_browse" ++ ":" ++ jti ++ ":" ++ toString window

def buildShareDownloadRateLimitKey (jti : String) (window : Int) : String :=
  "rate:share_download" ++ ":" ++ jti ++ ":" ++ toString window

end RateLimits

section Filters

def startsWith (path : List Char) (start : String) : Bool := start.toList.isPrefixOf path

def isPublicPath (path : List Char) : Bool :=
  path == "/api/auth/register".toList || path == "/api/auth/login".toList ||
    path == "/api/auth/refresh".toList || path == "/api/health".toList ||
    path == "/api/health/live".toList || path == "/api/health/ready".toList ||
    path == "/metrics".toList || startsWith path "/api/share/access/" ||
    startsWith path "/api/share/browse/" || startsWith path "/api/share/download/"

def bearerToken (authorization : String) : String := String.ofList (authorization.toList.drop 7)

def jwtAuthFilter (environment : Environment) (message : Message) (attributes : Attributes) : Answer :=
  if isPublicPath message.path then pass attributes
  else if message.authorization = "" then reject .tokenMissing
  else if startsWith message.authorization.toList "Bearer " = false then reject .tokenMalformed
  else
    match verifyAccessToken environment.tokens.decodeAccess (bearerToken message.authorization) with
    | .error code => reject code
    | .ok claims =>
        match environment.tokens.isAccessTokenRevoked claims.jti with
        | .error code => reject code
        | .ok true => reject .tokenRevoked
        | .ok false =>
            pass
              { attributes with
                userId := some claims.userId
                username := some claims.username
                role := some claims.role
                status := some claims.status }

def adminAuthFilter (message : Message) (attributes : Attributes) : Answer :=
  if startsWith message.path "/api/admin/" = false then pass attributes
  else if attributes.role.getD 0 ≠ 1 then reject .adminRequired
  else if attributes.status.getD 0 ≠ 1 then reject .adminRequired
  else pass attributes

def adminRateLimitFilter (environment : Environment) (message : Message) (attributes : Attributes) :
    Answer :=
  if startsWith message.path "/api/admin/" = false then pass attributes
  else
    match attributes.userId with
    | none => pass attributes
    | some userId =>
        countRequest environment attributes
          (fun window => "rate:admin:" ++ toString userId ++ ":" ++ toString window)
          (configuredOr environment.limits.adminLimit 30) (configuredOr environment.limits.adminWindow 60)

def requiresDownloadScope (path : List Char) : Bool :=
  startsWith path "/api/share/download/" || startsWith path "/api/share/save/"

def shareAuthRejection : ErrorCode → ErrorCode
  | .tokenExpired => .tokenExpired
  | .tokenRevoked => .tokenRevoked
  | .redisOperationFailed => .redisOperationFailed
  | _ => .tokenMalformed

def shareAuthFilter (environment : Environment) (message : Message) (attributes : Attributes) : Answer :=
  if message.shareToken = "" then reject .tokenMissing
  else
    match environment.tokens.verifyShareTokenWithRedis message.shareToken with
    | .error code => reject (shareAuthRejection code)
    | .ok claims =>
        if requiresDownloadScope message.path && claims.permission != "download" then
          reject .shareAccessDenied
        else
          pass
            { attributes with
              shareCode := some claims.shareCode
              shareId := some claims.shareId
              shareTokenJti := some claims.jti }

def shareAccessRateLimitFilter (environment : Environment) (message : Message)
    (attributes : Attributes) : Answer :=
  if startsWith message.path "/api/share/access/" = false then pass attributes
  else
    countRequest environment attributes (buildShareAccessRateLimitKey message.clientIp)
      (configuredOr environment.limits.shareAccessLimit 30)
      (configuredOr environment.limits.shareAccessWindow 60)

inductive ShareOperation where
  | browse
  | download
  deriving Repr, DecidableEq

def resolveOperation (path : List Char) : Option ShareOperation :=
  if startsWith path "/api/share/browse/" then some .browse
  else if startsWith path "/api/share/download/" || startsWith path "/api/share/save/" then
    some .download
  else none

def shareOperationRateLimitFilter (environment : Environment) (message : Message)
    (attributes : Attributes) : Answer :=
  match resolveOperation message.path, attributes.shareTokenJti with
  | none, _ => pass attributes
  | some _, none => pass attributes
  | some operation, some jti =>
      if jti = "" then pass attributes
      else
        match operation with
        | .browse =>
            countRequest environment attributes (buildShareBrowseRateLimitKey jti)
              (configuredOr environment.limits.shareBrowseLimit 60)
              (configuredOr environment.limits.shareBrowseWindow 60)
        | .download =>
            countRequest environment attributes (buildShareDownloadRateLimitKey jti)
              (configuredOr environment.limits.shareDownloadLimit 10)
              (configuredOr environment.limits.shareDownloadWindow 60)

end Filters

section Routes

inductive Method where
  | get
  | post
  | put
  | delete
  deriving Repr, DecidableEq

inductive Filter where
  | jwtAuth
  | adminAuth
  | adminRateLimit
  | shareAuth
  | shareAccessRateLimit
  | shareOperationRateLimit
  deriving Repr, DecidableEq

def Filter.doFilter (environment : Environment) (message : Message) (attributes : Attributes) :
    Filter → Answer
  | .jwtAuth => jwtAuthFilter environment message attributes
  | .adminAuth => adminAuthFilter message attributes
  | .adminRateLimit => adminRateLimitFilter environment message attributes
  | .shareAuth => shareAuthFilter environment message attributes
  | .shareAccessRateLimit => shareAccessRateLimitFilter environment message attributes
  | .shareOperationRateLimit => shareOperationRateLimitFilter environment message attributes

def runFilters (environment : Environment) (message : Message) : List Filter → Attributes → Answer
  | [], attributes => pass attributes
  | filter :: more, attributes =>
      let answer := filter.doFilter environment message attributes
      match answer.verdict with
      | .error rejection => ⟨answer.counted, .error rejection⟩
      | .ok next =>
          let rest := runFilters environment message more next
          ⟨answer.counted ++ rest.counted, rest.verdict⟩

inductive Handler where
  | listUsers
  | getUserDetail
  | changeUserStatus
  | changeUserRole
  | changeUserAvailableSpace
  | softDeleteUser
  | getGlobalStorageStats
  | listShares
  | getShareDetail
  | forceCancelShare
  | getOverviewStats
  | getSystemStatus
  | getAdminLogs
  | runExpiredCleanup
  | listStorageJobs
  | getStorageJob
  | replayStorageJob
  | releaseUploadLease
  | rebuildUploadCleanup
  | enqueueReconciliation
  | getUploadDiagnostic
  | access
  | browse
  | downloadInfo
  | download
  | save
  deriving Repr, DecidableEq

structure Route where
  handler : Handler
  template : String
  method : Method
  filters : List Filter
  deriving Repr, DecidableEq

def adminRoute (handler : Handler) (template : String) (method : Method) : Route :=
  ⟨handler, template, method, [.adminAuth, .adminRateLimit]⟩

/-- The routes of the four controllers for administrators, and the routes of the share controller that
have filters. -/
def routes : List Route :=
  [adminRoute .listUsers "/api/admin/users" .get,
   adminRoute .getUserDetail "/api/admin/users/{id}" .get,
   adminRoute .changeUserStatus "/api/admin/users/{id}/status" .put,
   adminRoute .changeUserRole "/api/admin/users/{id}/role" .put,
   adminRoute .changeUserAvailableSpace "/api/admin/users/{id}/available-space" .put,
   adminRoute .softDeleteUser "/api/admin/users/{id}" .delete,
   adminRoute .getGlobalStorageStats "/api/admin/storage/stats" .get,
   adminRoute .listShares "/api/admin/shares" .get,
   adminRoute .getShareDetail "/api/admin/shares/{share_id}" .get,
   adminRoute .forceCancelShare "/api/admin/shares/{share_id}" .delete,
   adminRoute .getOverviewStats "/api/admin/stats/overview" .get,
   adminRoute .getSystemStatus "/api/admin/stats/system" .get,
   adminRoute .getAdminLogs "/api/admin/logs" .get,
   adminRoute .runExpiredCleanup "/api/admin/maintenance/cleanup/expired" .post,
   adminRoute .listStorageJobs "/api/admin/storage-jobs" .get,
   adminRoute .getStorageJob "/api/admin/storage-jobs/{id}" .get,
   adminRoute .replayStorageJob "/api/admin/storage-jobs/{id}/replay" .post,
   adminRoute .releaseUploadLease "/api/admin/uploads/{upload_id}/lease/release" .post,
   adminRoute .rebuildUploadCleanup "/api/admin/uploads/{upload_id}/cleanup/rebuild" .post,
   adminRoute .enqueueReconciliation "/api/admin/storage-reconciliation/{scan_id}/enqueue" .post,
   adminRoute .getUploadDiagnostic "/api/admin/uploads/{upload_id}/diagnostics" .get,
   ⟨.access, "/api/share/access/{share_id}", .post, [.shareAccessRateLimit]⟩,
   ⟨.browse, "/api/share/browse/{share_id}", .get, [.shareAuth, .shareOperationRateLimit]⟩,
   ⟨.downloadInfo, "/api/share/download/{share_id}/{file_id}/info", .get,
     [.shareAuth, .shareOperationRateLimit]⟩,
   ⟨.download, "/api/share/download/{share_id}/{file_id}", .get,
     [.shareAuth, .shareOperationRateLimit]⟩,
   ⟨.save, "/api/share/save/{share_id}", .post, [.shareAuth, .shareOperationRateLimit]⟩]

inductive Segment where
  | literal (text : List Char)
  | parameter
  deriving Repr, DecidableEq

def segment (text : List Char) : Segment :=
  if text.head? = some '\x7b' then .parameter else .literal text

def segments (template : String) : List Segment :=
  ((template.toList.splitOn '/').drop 1).map segment

def matchesSegments : List Segment → List Char → Bool
  | [], path => path.isEmpty
  | .literal text :: more, path =>
      (('/' :: text).map Char.toLower).isPrefixOf (path.map Char.toLower) &&
        matchesSegments more (path.drop (text.length + 1))
  | .parameter :: more, path =>
      path.head? == some '/' && matchesSegments more ((path.drop 1).dropWhile (· ≠ '/'))

def Route.dispatches (route : Route) (path : List Char) : Bool :=
  matchesSegments (segments route.template) path

def Route.serve (route : Route) (environment : Environment) (message : Message) : Answer :=
  runFilters environment message (.jwtAuth :: route.filters) Attributes.empty

end Routes

end DiskServer.Filters
