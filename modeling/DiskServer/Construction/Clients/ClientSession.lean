import DiskServer.Library.Threads

/-
This file gives the history of a client's session and what the clients promise about it.
-/

namespace DiskServer.Clients

open Library

structure TokenPair where
  access : String
  refresh : String
  deriving Repr, DecidableEq

/-- The server has granted refresh tokens, the client has sent some of them back, and its user has
started logouts and logins. -/
structure SessionLedger where
  granted : List String
  sent : List String
  inFlight : Nat
  logouts : Nat
  signedOut : Bool
  deriving Repr, DecidableEq

namespace SessionLedger

def empty : SessionLedger := ⟨[], [], 0, 0, false⟩

def startLogin (ledger : SessionLedger) : SessionLedger := { ledger with signedOut := false }

def startLogout (ledger : SessionLedger) : SessionLedger :=
  { ledger with logouts := ledger.logouts + 1, signedOut := true }

def send (ledger : SessionLedger) (token : String) : SessionLedger :=
  { ledger with sent := token :: ledger.sent, inFlight := ledger.inFlight + 1 }

def answer (ledger : SessionLedger) : SessionLedger := { ledger with inFlight := ledger.inFlight - 1 }

def grant (ledger : SessionLedger) (pair : TokenPair) : SessionLedger :=
  { ledger with granted := pair.refresh :: ledger.granted }

def Fresh (ledger : SessionLedger) (pair : TokenPair) : Prop :=
  pair.access ≠ "" ∧ pair.refresh ≠ "" ∧ pair.refresh ∉ ledger.granted

instance (ledger : SessionLedger) (pair : TokenPair) : Decidable (ledger.Fresh pair) :=
  inferInstanceAs (Decidable (_ ∧ _ ∧ _))

/-- A logout has started after the request was issued, and no login has started after it. -/
def Late (ledger : SessionLedger) (issued : Nat) : Prop :=
  issued < ledger.logouts ∧ ledger.signedOut = true

instance (ledger : SessionLedger) (issued : Nat) : Decidable (ledger.Late issued) :=
  inferInstanceAs (Decidable (_ ∧ _))

end SessionLedger

/-- What is seen of a client: its history, the threads whose refresh request is in flight, the number
of logouts that had started when a thread issued its request, the session and its stored tokens, and
whether the requests that wait for a refresh have been settled. -/
structure SessionView (Memory Thread : Type) where
  ledger : Memory → SessionLedger
  refreshing : Thread → Bool
  issued : Thread → Option Nat
  authenticated : Memory → Bool
  tokens : Memory → List String
  Settled : Threads Memory Thread → Prop

section Promise

variable {Memory Thread Call Choice : Type} (view : SessionView Memory Thread)
  (program : ThreadProgram Memory Thread Call Choice) (allowed : Memory → Thread → Choice → Prop)

/-- A step neither signs the session in nor stores another token. -/
structure Silent (before after : Memory) : Prop where
  authenticated : view.authenticated after = true → view.authenticated before = true
  tokens : ∀ token ∈ view.tokens after, token ∈ view.tokens before

structure SessionSafe (state : Threads Memory Thread) : Prop where
  singleFlight : state.threads.countP view.refreshing ≤ 1
  sentOnce : (view.ledger state.memory).sent.Nodup
  settled : view.Settled state
  silent : ∀ thread ∈ state.threads, ∀ choice after next, allowed state.memory thread choice →
    program.advance state.memory thread choice = some (after, next) →
    ∀ issued ∈ view.issued thread, (view.ledger after).Late issued → Silent view state.memory after

end Promise

end DiskServer.Clients
