import DiskServer.Construction.Auth.AuthService

/-
This file gives the statements of logins and of account changes, which interleave in any order.
-/

namespace DiskServer.Auth

open Library

inductive LoginPhase where
  | found
  | granted
  | accepted
  | rejected
  deriving Repr, DecidableEq

structure LoginSession where
  userId : UInt64
  phase : LoginPhase
  deriving Repr, DecidableEq

inductive AccountChange where
  | status (value : Int16)
  | role (value : Int16)
  | softDelete
  deriving Repr, DecidableEq

namespace AccountChange

def valid : AccountChange → Bool
  | .status value => value = 0 || value = 1 || value = 2
  | .role value => value = 0 || value = 1
  | .softDelete => true

def demotes (change : AccountChange) (user : UserRow) : Bool :=
  change = .role 0 && user.role = 1

def apply (change : AccountChange) (user : UserRow) : UserRow :=
  match change with
  | .status value => { user with status := value, loginAttempts := 0, lockedUntil := none }
  | .role value => { user with role := value }
  | .softDelete => { user with status := accountStatusDisabled }

end AccountChange

structure ChangeSession where
  operatorId : UInt64
  targetId : UInt64
  change : AccountChange
  mustCount : Bool
  notSelf : targetId ≠ operatorId
  deriving Repr, DecidableEq

inductive AccountEvent where
  | succeeded (userId : UInt64) (time : Nat)
  | failed (userId : UInt64) (time : Nat)
  | statusChanged (userId : UInt64)
  deriving Repr, DecidableEq

/-- The tables, the logins and changes that are under way, and the recorded events, newest first. -/
structure AccountState where
  auth : AuthState
  logins : List LoginSession
  changes : List ChangeSession
  events : List AccountEvent

inductive AccountAction where
  | tick (seconds : Nat)
  | findUser (account : String)
  | validateAccountAccess (slot : Nat)
  | verifyPassword (slot : Nat) (passwordMatches : Bool)
  | updateLoginInfo (slot : Nat)
  | incrementLoginAttempts (slot : Nat)
  | abandonLogin (slot : Nat)
  | readTarget (operatorId targetId : UInt64) (change : AccountChange)
  | countAdministrators (slot : Nat)
  | writeTarget (slot : Nat)
  | abandonChange (slot : Nat)
  deriving Repr, DecidableEq

namespace AccountState

def countAdministrators (state : AccountState) : Nat :=
  state.auth.users.countP fun user => user.role == 1

def setLogin (state : AccountState) (slot : Nat) (session : LoginSession) : AccountState :=
  { state with logins := state.logins.set slot session }

def endLogin (state : AccountState) (slot : Nat) : AccountState :=
  { state with logins := state.logins.eraseIdx slot }

def endChange (state : AccountState) (slot : Nat) : AccountState :=
  { state with changes := state.changes.eraseIdx slot }

def validate (state : AccountState) (slot : Nat) : Option AccountState := do
  let session ← state.logins[slot]?
  if session.phase = .found then
    match state.auth.validateAccountAccess session.userId with
    | .ok () => some (state.setLogin slot { session with phase := .granted })
    | .error _ => some (state.endLogin slot)
  else
    none

def verify (state : AccountState) (slot : Nat) (passwordMatches : Bool) : Option AccountState := do
  let session ← state.logins[slot]?
  if session.phase = .granted then
    some (state.setLogin slot
      { session with phase := if passwordMatches then .accepted else .rejected })
  else
    none

def recordSuccess (state : AccountState) (slot : Nat) : Option AccountState := do
  let session ← state.logins[slot]?
  if session.phase = .accepted then
    match state.auth.updateLoginInfo session.userId with
    | .ok auth =>
        some { state.endLogin slot with
          auth := auth
          events := .succeeded session.userId state.auth.now :: state.events }
    | .error _ => some (state.endLogin slot)
  else
    none

/-- A failure of an account that the statement does not select is not counted. -/
def recordFailure (state : AccountState) (slot : Nat) : Option AccountState := do
  let session ← state.logins[slot]?
  if session.phase = .rejected then
    if (state.auth.findOne session.userId).any fun user => user.mayLogin state.auth.now then
      some { state.endLogin slot with
        auth := state.auth.incrementLoginAttempts session.userId
        events := .failed session.userId state.auth.now :: state.events }
    else
      some (state.endLogin slot)
  else
    none

def readTarget (state : AccountState) (operatorId targetId : UInt64) (change : AccountChange) :
    Option AccountState := do
  let user ← state.auth.findOne targetId
  if accepted : change.valid ∧ targetId ≠ operatorId then
    some { state with
      changes := state.changes ++ [⟨operatorId, targetId, change, change.demotes user, accepted.2⟩] }
  else
    none

def checkCount (state : AccountState) (slot : Nat) : Option AccountState := do
  let session ← state.changes[slot]?
  if session.mustCount then
    if state.countAdministrators ≤ 1 then
      some (state.endChange slot)
    else
      some { state with changes := state.changes.set slot { session with mustCount := false } }
  else
    none

def writeTarget (state : AccountState) (slot : Nat) : Option AccountState := do
  let session ← state.changes[slot]?
  if session.mustCount then
    none
  else
    some { state.endChange slot with
      auth := state.auth.updateUser session.targetId session.change.apply
      events :=
        match session.change with
        | .status _ => .statusChanged session.targetId :: state.events
        | _ => state.events }

def step (state : AccountState) : AccountAction → Option AccountState
  | .tick seconds => some { state with auth := { state.auth with now := state.auth.now + seconds } }
  | .findUser account =>
      (state.auth.findUser account).map fun user =>
        { state with logins := state.logins ++ [⟨user.id, .found⟩] }
  | .validateAccountAccess slot => state.validate slot
  | .verifyPassword slot passwordMatches => state.verify slot passwordMatches
  | .updateLoginInfo slot => state.recordSuccess slot
  | .incrementLoginAttempts slot => state.recordFailure slot
  | .abandonLogin slot => some (state.endLogin slot)
  | .readTarget operatorId targetId change => state.readTarget operatorId targetId change
  | .countAdministrators slot => state.checkCount slot
  | .writeTarget slot => state.writeTarget slot
  | .abandonChange slot => some (state.endChange slot)

end AccountState

def accountSystem : TransitionSystem AccountState AccountAction where
  initial state := state.logins = [] ∧ state.changes = [] ∧ state.events = [] ∧
    (state.auth.users.map UserRow.id).Nodup ∧
    ∀ user ∈ state.auth.users, user.loginAttempts = 0 ∧ user.lockedUntil = none
  step := AccountState.step

end DiskServer.Auth
