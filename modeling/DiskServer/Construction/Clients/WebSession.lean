import DiskServer.Construction.Clients.ClientSession

/-
This file gives the session of one page of the web client, whose callbacks run one after another.
-/

namespace DiskServer.Clients.WebSession

open Library

section Page

/-- An empty text stands for a missing item of the local storage. The last fields are the token of the
auth store, how many promises have been made, those that have been settled, and the history. -/
structure WebPage where
  accessToken : String
  refreshToken : String
  isRefreshing : Bool
  refreshSubscribers : List Nat
  storeAccessToken : Option String
  promises : Nat
  settled : List (Nat × Bool)
  ledger : SessionLedger
  deriving DecidableEq, Repr

def WebPage.fresh : WebPage := ⟨"", "", false, [], none, 0, [], .empty⟩

variable (page : WebPage)

def setTokens (pair : TokenPair) : WebPage :=
  { page with accessToken := pair.access, refreshToken := pair.refresh }

def clearTokens : WebPage := { page with accessToken := "", refreshToken := "" }

def subscribeTokenRefresh : WebPage :=
  { page with
    refreshSubscribers := page.refreshSubscribers ++ [page.promises]
    promises := page.promises + 1 }

def settleSubscribers (resolved : Bool) : WebPage :=
  { page with
    refreshSubscribers := []
    settled := page.settled ++ page.refreshSubscribers.map fun promise => (promise, resolved) }

def refreshFailed : WebPage := { clearTokens (settleSubscribers page false) with isRefreshing := false }

def refreshSucceeded (pair : TokenPair) : WebPage :=
  { settleSubscribers (setTokens page pair) true with isRefreshing := false }

def applyTokens (pair : TokenPair) : WebPage :=
  { setTokens page pair with storeAccessToken := some pair.access }

def clearAuth : WebPage := clearTokens { page with storeAccessToken := none }

def loadTokensFromStorage : WebPage :=
  if page.accessToken = "" ∨ page.refreshToken = "" then page
  else { page with storeAccessToken := some page.accessToken }

end Page

section Program

inductive WebCall where
  | unauthorized
  | login
  | logout
  | load
  deriving DecidableEq, Repr

/-- A call that has sent a request waits for its reply, and one that has found a refresh under way waits
for its promise. -/
inductive WebThread where
  | called (call : WebCall)
  | refreshing (token : String) (issued : Nat)
  | waiting (promise : Nat)
  | loggingIn (issued : Nat)
  | loggingOut
  | resumed
  | failed
  | finished
  deriving DecidableEq, Repr

inductive WebEvent where
  | done
  | tokens (pair : TokenPair)
  | failure
  deriving DecidableEq, Repr

variable (page : WebPage)

def granting (pair : TokenPair) : WebPage := { page with ledger := page.ledger.grant pair }

def answered : WebPage := { page with ledger := page.ledger.answer }

def refreshAccessToken : WebPage × WebThread :=
  if page.isRefreshing then (subscribeTokenRefresh page, .waiting page.promises)
  else if page.refreshToken = "" then (refreshFailed { page with isRefreshing := true }, .failed)
  else
    ({ page with isRefreshing := true, ledger := page.ledger.send page.refreshToken },
      .refreshing page.refreshToken page.ledger.logouts)

def advanceWeb : WebThread → WebEvent → Option (WebPage × WebThread)
  | .called .unauthorized, .done => some (refreshAccessToken page)
  | .called .login, .done =>
      some ({ page with ledger := page.ledger.startLogin }, .loggingIn page.ledger.logouts)
  | .called .logout, .done => some ({ page with ledger := page.ledger.startLogout }, .loggingOut)
  | .called .load, .done => some (loadTokensFromStorage page, .finished)
  | .refreshing _ _, .tokens pair =>
      if page.ledger.Fresh pair then
        some (answered (refreshSucceeded (granting page pair) pair), .resumed)
      else none
  | .refreshing _ _, .failure => some (answered (refreshFailed page), .failed)
  | .waiting promise, .done =>
      match page.settled.lookup promise with
      | none => none
      | some true => some (page, .resumed)
      | some false => some (page, .failed)
  | .loggingIn _, .tokens pair =>
      if page.ledger.Fresh pair then some (applyTokens (granting page pair) pair, .finished) else none
  | .loggingIn _, .failure => some (page, .finished)
  | .loggingOut, .done => some (clearAuth page, .finished)
  | _, _ => none

def webProgram : ThreadProgram WebPage WebThread WebCall WebEvent where
  enter := .called
  advance := advanceWeb

def webSystem : TransitionSystem (Threads WebPage WebThread) (ThreadAction WebCall WebEvent) :=
  webProgram.system .fresh

def isRefreshing : WebThread → Bool
  | .refreshing _ _ => true
  | _ => false

def issuedAt : WebThread → Option Nat
  | .refreshing _ issued | .loggingIn issued => some issued
  | _ => none

structure PromisesSettled (state : Threads WebPage WebThread) : Prop where
  once : (state.memory.settled.map Prod.fst ++ state.memory.refreshSubscribers).Perm
    (List.range state.memory.promises)
  subscribed : state.threads.countP isRefreshing = 0 → state.memory.refreshSubscribers = []
  waiting : ∀ promise, .waiting promise ∈ state.threads →
    promise ∈ state.memory.settled.map Prod.fst ∨ promise ∈ state.memory.refreshSubscribers

def webView : SessionView WebPage WebThread where
  ledger := fun page => page.ledger
  refreshing := isRefreshing
  issued := issuedAt
  authenticated := fun page => page.storeAccessToken.isSome
  tokens := fun page => [page.accessToken, page.refreshToken].filter (· ≠ "")
  Settled := PromisesSettled

end Program

end DiskServer.Clients.WebSession
