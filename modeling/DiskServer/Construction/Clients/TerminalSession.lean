import DiskServer.Construction.Clients.ClientSession

/-
This file gives the session of the terminal client, whose calls run in threads that share the client and
its configuration.
-/

namespace DiskServer.Clients.TerminalSession

open Library

section Session

/-- The tokens of the client and of its token source, which is the configuration. The last fields are the
logout requests that have been started, the tokens whose refresh has failed, how many requests have begun
to refresh, how many of them have gone on and how many have failed, and the history. -/
structure Session where
  access : String
  refresh : String
  sourceAccess : String
  sourceRefresh : String
  logoutRequests : Nat
  refused : List String
  begun : Nat
  resumed : Nat
  failed : Nat
  ledger : SessionLedger
  deriving DecidableEq, Repr

def Session.fresh : Session := ⟨"", "", "", "", 0, [], 0, 0, 0, .empty⟩

variable (session : Session)

def setTokens (access refresh : String) : Session := { session with access := access, refresh := refresh }

def setSourceTokens (access refresh : String) : Session :=
  { session with sourceAccess := access, sourceRefresh := refresh }

end Session

section Program

inductive TerminalCall where
  | unauthorized
  | login
  | logout
  | logoutRequest
  deriving DecidableEq, Repr

inductive TerminalThread where
  | called (call : TerminalCall)
  | refreshing (token : String) (issued : Nat)
  | sourcing (pair : TokenPair) (issued : Nat)
  | loggingIn (issued : Nat)
  | loginSourcing (pair : TokenPair) (issued : Nat)
  | loginReadingAccess (issued : Nat)
  | loginReadingRefresh (access : String) (issued : Nat)
  | loginSaving (access refresh : String) (issued : Nat)
  | loggingOut
  | clearing (byUser : Bool)
  | clearingSource (byUser : Bool)
  | clearingStore
  | resumed
  | failed
  | finished
  deriving DecidableEq, Repr

inductive TerminalEvent where
  | done
  | tokens (pair : TokenPair)
  | failure
  deriving DecidableEq, Repr

variable (session : Session)

def tryRefresh : Session × TerminalThread :=
  let begun := { session with begun := session.begun + 1 }
  if session.refresh = "" then ({ begun with failed := session.failed + 1 }, .failed)
  else
    ({ begun with ledger := session.ledger.send session.refresh },
      .refreshing session.refresh session.ledger.logouts)

def refreshFailed (token : String) : Session :=
  { session with
    refused := token :: session.refused
    failed := session.failed + 1
    ledger := session.ledger.answer }

def refreshSucceeded (pair : TokenPair) : Session :=
  { setTokens session pair.access pair.refresh with ledger := (session.ledger.grant pair).answer }

def loginSucceeded (pair : TokenPair) : Session :=
  { setTokens session pair.access pair.refresh with ledger := session.ledger.grant pair }

def advanceTerminal : TerminalThread → TerminalEvent → Option (Session × TerminalThread)
  | .called .unauthorized, .done => some (tryRefresh session)
  | .called .login, .done =>
      some ({ session with ledger := session.ledger.startLogin }, .loggingIn session.ledger.logouts)
  | .called .logout, .done =>
      some ({ session with
        logoutRequests := session.logoutRequests + 1
        ledger := session.ledger.startLogout }, .clearing true)
  | .called .logoutRequest, .done =>
      if session.logoutRequests = 0 then none
      else some ({ session with logoutRequests := session.logoutRequests - 1 }, .loggingOut)
  | .refreshing _ issued, .tokens pair =>
      if session.ledger.Fresh pair then some (refreshSucceeded session pair, .sourcing pair issued)
      else none
  | .refreshing token _, .failure => some (refreshFailed session token, .failed)
  | .sourcing pair _, .done =>
      some ({ setSourceTokens session pair.access pair.refresh with resumed := session.resumed + 1 },
        .resumed)
  | .loggingIn issued, .tokens pair =>
      if session.ledger.Fresh pair then some (loginSucceeded session pair, .loginSourcing pair issued)
      else none
  | .loggingIn _, .failure => some (session, .finished)
  | .loginSourcing pair issued, .done =>
      some (setSourceTokens session pair.access pair.refresh, .loginReadingAccess issued)
  | .loginReadingAccess issued, .done => some (session, .loginReadingRefresh session.access issued)
  | .loginReadingRefresh access issued, .done =>
      some (session, .loginSaving access session.refresh issued)
  | .loginSaving access refresh _, .done => some (setSourceTokens session access refresh, .finished)
  | .loggingOut, .done => some (session, .clearing false)
  | .clearing byUser, .done => some (setTokens session "" "", .clearingSource byUser)
  | .clearingSource byUser, .done =>
      some (setSourceTokens session "" "", if byUser then .clearingStore else .finished)
  | .clearingStore, .done => some (setSourceTokens session "" "", .finished)
  | _, _ => none

def terminalProgram : ThreadProgram Session TerminalThread TerminalCall TerminalEvent where
  enter := .called
  advance := advanceTerminal

def terminalSystem : TransitionSystem (Threads Session TerminalThread)
    (ThreadAction TerminalCall TerminalEvent) := terminalProgram.system .fresh

def isRefreshing : TerminalThread → Bool
  | .refreshing _ _ => true
  | _ => false

def isWaiting : TerminalThread → Bool
  | .refreshing _ _ | .sourcing _ _ => true
  | _ => false

def issuedAt : TerminalThread → Option Nat
  | .refreshing _ issued | .sourcing _ issued | .loggingIn issued | .loginSourcing _ issued
  | .loginReadingAccess issued | .loginReadingRefresh _ issued | .loginSaving _ _ issued => some issued
  | _ => none

def terminalView : SessionView Session TerminalThread where
  ledger := fun session => session.ledger
  refreshing := isRefreshing
  issued := issuedAt
  authenticated := fun session => session.access ≠ ""
  tokens := fun session => [session.access, session.refresh, session.sourceAccess, session.sourceRefresh].filter
    (· ≠ "")
  Settled := fun state => state.memory.begun =
    state.memory.resumed + state.memory.failed + state.threads.countP isWaiting

end Program

end DiskServer.Clients.TerminalSession
