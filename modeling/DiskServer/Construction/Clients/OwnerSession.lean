import DiskServer.Construction.Clients.ClientSession

/-
This file gives the session manager of the desktop client, whose slots run one after another.
-/

namespace DiskServer.Clients.OwnerSession

open Library

section Manager

inductive OwnerSessionState where
  | loggedOut
  | authenticating
  | active
  | refreshing
  | reauthRequired
  | logoutPending
  deriving DecidableEq, Repr

inductive PromiseEnd where
  | result
  | finished
  | dropped
  deriving DecidableEq, Repr

structure OwnerUser where
  id : Nat
  username : String
  deriving DecidableEq, Repr

/-- The last five fields are the shell that listens to the role, how many promises have been made, the
ends of those that are not kept any more, the logout requests that have been asked for, and the history. -/
structure OwnerSessionManager where
  state : OwnerSessionState
  accessToken : String
  refreshToken : String
  userId : Nat
  username : String
  role : Int
  refreshPromise : Option Nat
  replayCount : Nat
  adminShell : Bool
  promises : Nat
  ended : List (Nat × PromiseEnd)
  logoutRequests : Nat
  ledger : SessionLedger
  deriving DecidableEq, Repr

def OwnerSessionManager.fresh : OwnerSessionManager where
  state := .loggedOut
  accessToken := ""
  refreshToken := ""
  userId := 0
  username := ""
  role := 0
  refreshPromise := none
  replayCount := 0
  adminShell := false
  promises := 0
  ended := []
  logoutRequests := 0
  ledger := .empty

variable (manager : OwnerSessionManager)

def setState (state : OwnerSessionState) : OwnerSessionManager := { manager with state := state }

def setTokens (pair : TokenPair) : OwnerSessionManager :=
  { manager with accessToken := pair.access, refreshToken := pair.refresh }

def endPromise (how : PromiseEnd) : OwnerSessionManager :=
  match manager.refreshPromise with
  | none => manager
  | some promise =>
      { manager with refreshPromise := none, ended := (promise, how) :: manager.ended }

def clearIdentity : OwnerSessionManager :=
  { manager with accessToken := "", refreshToken := "", userId := 0, username := "" }

def clearRefresh : OwnerSessionManager := endPromise { manager with replayCount := 0 } .dropped

def beginLogout : OwnerSessionManager :=
  endPromise { manager with state := .logoutPending, ledger := manager.ledger.startLogout } .finished

def clearRole : OwnerSessionManager :=
  if manager.role = 0 then manager
  else if manager.adminShell then
    setState (clearRefresh (clearIdentity (beginLogout { manager with role := 0 }))) .loggedOut
  else { manager with role := 0 }

def clearSession : OwnerSessionManager := clearRefresh (clearRole (clearIdentity manager))

def completeLogout : OwnerSessionManager := setState (clearSession manager) .loggedOut

def startLogout : OwnerSessionManager :=
  let pending := beginLogout manager
  if pending.accessToken ≠ "" then { pending with logoutRequests := pending.logoutRequests + 1 }
  else completeLogout pending

def changeRole (role : Int) : OwnerSessionManager :=
  if manager.role = role then manager
  else if manager.adminShell ∧ role ≠ 1 then startLogout { manager with role := role }
  else { manager with role := role }

def startLogin : OwnerSessionManager :=
  { manager with state := .authenticating, ledger := manager.ledger.startLogin }

variable (decodeRoleFromJwt : String → Int)

def handleLoginSuccess (pair : TokenPair) (user : OwnerUser) : OwnerSessionManager :=
  let named := { manager with userId := user.id, username := user.username }
  setState (setTokens (changeRole named (decodeRoleFromJwt pair.access)) pair) .active

def handleLoginFailure : OwnerSessionManager := setState (clearSession manager) .loggedOut

def handleTokenExpired : OwnerSessionManager × Option String :=
  if manager.state = .logoutPending then (manager, none)
  else if manager.state = .refreshing then (manager, none)
  else if manager.refreshToken = "" then (setState manager .reauthRequired, none)
  else
    let idle := endPromise { manager with state := .refreshing, replayCount := 0 } .dropped
    ({ idle with refreshPromise := some manager.promises, promises := manager.promises + 1 },
      some manager.refreshToken)

def handleRefreshSuccess (pair : TokenPair) : OwnerSessionManager :=
  let stored := setTokens (changeRole manager (decodeRoleFromJwt pair.access)) pair
  setState (endPromise { stored with replayCount := stored.replayCount + 1 } .result) .active

def handleRefreshFailure : OwnerSessionManager :=
  setState (clearSession (endPromise manager .finished)) .reauthRequired

end Manager

section Program

/-- What happens to the client: a request is refused for its token, the user or the shell acts, and the
service takes a signal. -/
inductive OwnerCall where
  | unauthorized
  | login
  | logout
  | logoutRequest
  | enterShell (admin : Bool)
  deriving DecidableEq, Repr

inductive OwnerThread where
  | called (call : OwnerCall)
  | refreshing (token : String) (issued : Nat)
  | loggingIn (issued : Nat)
  | loggingOut
  | finished
  deriving DecidableEq, Repr

inductive OwnerEvent where
  | done
  | refreshSuccess (pair : TokenPair)
  | loginSuccess (pair : TokenPair) (user : OwnerUser)
  | failure
  deriving DecidableEq, Repr

variable (decodeRoleFromJwt : String → Int) (manager : OwnerSessionManager)

def granting (pair : TokenPair) : OwnerSessionManager :=
  { manager with ledger := manager.ledger.grant pair }

def answered : OwnerSessionManager := { manager with ledger := manager.ledger.answer }

def advanceOwner : OwnerThread → OwnerEvent → Option (OwnerSessionManager × OwnerThread)
  | .called .unauthorized, .done =>
      match handleTokenExpired manager with
      | (next, none) => some (next, .finished)
      | (next, some token) =>
          some ({ next with ledger := next.ledger.send token }, .refreshing token next.ledger.logouts)
  | .called .login, .done => some (startLogin manager, .loggingIn manager.ledger.logouts)
  | .called .logout, .done => some (startLogout manager, .finished)
  | .called .logoutRequest, .done =>
      if manager.logoutRequests = 0 then none
      else some ({ manager with logoutRequests := manager.logoutRequests - 1 }, .loggingOut)
  | .called (.enterShell admin), .done => some ({ manager with adminShell := admin }, .finished)
  | .refreshing _ _, .refreshSuccess pair =>
      if manager.ledger.Fresh pair then
        some (answered (handleRefreshSuccess (granting manager pair) decodeRoleFromJwt pair), .finished)
      else none
  | .refreshing _ _, .failure => some (answered (handleRefreshFailure manager), .finished)
  | .loggingIn _, .loginSuccess pair user =>
      if manager.ledger.Fresh pair then
        some (handleLoginSuccess (granting manager pair) decodeRoleFromJwt pair user, .finished)
      else none
  | .loggingIn _, .failure => some (handleLoginFailure manager, .finished)
  | .loggingOut, .done => some (completeLogout manager, .finished)
  | _, _ => none

def ownerProgram : ThreadProgram OwnerSessionManager OwnerThread OwnerCall OwnerEvent where
  enter := .called
  advance := advanceOwner decodeRoleFromJwt

def ownerSystem : TransitionSystem (Threads OwnerSessionManager OwnerThread)
    (ThreadAction OwnerCall OwnerEvent) := (ownerProgram decodeRoleFromJwt).system .fresh

def isRefreshing : OwnerThread → Bool
  | .refreshing _ _ => true
  | _ => false

def issuedAt : OwnerThread → Option Nat
  | .refreshing _ issued | .loggingIn issued => some issued
  | _ => none

structure PromisesSettled (state : Threads OwnerSessionManager OwnerThread) : Prop where
  once : ((state.memory.ended.map Prod.fst) ++ state.memory.refreshPromise.toList).Perm
    (List.range state.memory.promises)
  kept : state.threads.countP isRefreshing = 0 → state.memory.refreshPromise = none

def ownerView : SessionView OwnerSessionManager OwnerThread where
  ledger := fun manager => manager.ledger
  refreshing := isRefreshing
  issued := issuedAt
  authenticated := fun manager => manager.state = .active || manager.state = .refreshing
  tokens := fun manager => [manager.accessToken, manager.refreshToken].filter (· ≠ "")
  Settled := PromisesSettled

end Program

end DiskServer.Clients.OwnerSession
