import DiskServer.Construction.Redis.RedisService
import DiskServer.Construction.Shares.ShareService

/-
This file gives how visitors open shares and how their failures are counted.
-/

namespace DiskServer.Shares

open Upload (Timestamp)
open Redis

/-- The text that the network layer writes for an address, without brackets and without a port. -/
structure ClientAddress where
  text : String
  characters : ∀ character ∈ text.toList,
    (character.isAlphanum || character = '.' || character = ':') = true
  portless : text.toList.count ':' ≠ 1
  deriving DecidableEq

structure AccessShareRequest where
  shareId : String
  password : Option String
  deriving Repr, DecidableEq

/-- A request with its client, the clocks that it meets and the fate of what it asks of other services. -/
structure AccessStep where
  request : AccessShareRequest
  client : ClientAddress
  now : Timestamp
  clock : Nat
  fate : RedisFate
  found : Bool
  issued : Except ErrorInfo String
  viewed : Bool

structure AccessShareResponse where
  shareToken : String
  permission : String
  deriving Repr, DecidableEq

structure AccessState where
  shares : List Share
  redis : Store

def shareAccessFailureWindowSeconds : Nat := 900

/-- The command gets the key up to its first null character. -/
def commandText (text : String) : String :=
  String.ofList (text.toList.takeWhile (· ≠ Char.ofNat 0))

def AccessStep.counterKey (step : AccessStep) : String :=
  commandText (buildSharePasswordRateLimitKey step.request.shareId step.client.text)

def countFailure (redis : Store) (step : AccessStep) : Option Nat × Store :=
  let counted := (RedisCommand.incrWithExpire step.counterKey shareAccessFailureWindowSeconds).execute
    step.fate step.clock redis
  match counted.1 with
  | .ok count => (some (count % 18446744073709551616).toNat, counted.2)
  | .error _ => (none, counted.2)

def failAccess (state : AccessState) (step : AccessStep) :
    Except ErrorInfo AccessShareResponse × AccessState :=
  let counted := countFailure state.redis step
  (.error (handleFailedShareAccess counted.1), { state with redis := counted.2 })

def incrementViewCount (shares : List Share) (shareId : Nat) : List Share :=
  shares.map fun share =>
    if share.id = shareId then { share with viewCount := share.viewCount + 1 } else share

def refusesPassword (verify : String → String → Bool) (share : Share) (password : Option String) : Bool :=
  share.passwordHash.isSome && !password.any fun text => text != "" && verifyPassword share verify text

def accessShare (verify : String → String → Bool) (state : AccessState) (step : AccessStep) :
    Except ErrorInfo AccessShareResponse × AccessState :=
  if !step.found then (.error ⟨.internalError, "Failed to find share"⟩, state)
  else
    match state.shares.find? fun share => share.shareCode = step.request.shareId with
    | none => failAccess state step
    | some share =>
        if share.status ≠ ShareStatus.active.toInt then
          (.error ⟨.shareExpired, "Share has been cancelled"⟩, state)
        else if share.expiresAt.isSome ∧ isShareExpired step.now share then
          (.error ⟨.shareExpired, "Share has expired"⟩, state)
        else if refusesPassword verify share step.request.password then failAccess state step
        else
          match step.issued with
          | .error error => (.error error, state)
          | .ok token =>
              let shares :=
                if step.viewed then incrementViewCount state.shares share.id else state.shares
              (.ok ⟨token, share.permission⟩, { state with shares := shares })

def accessShares (verify : String → String → Bool) :
    AccessState → List AccessStep → List (Except ErrorInfo AccessShareResponse) × AccessState
  | state, [] => ([], state)
  | state, step :: steps =>
      let answered := accessShare verify state step
      let rest := accessShares verify answered.2 steps
      (answered.1 :: rest.1, rest.2)

end DiskServer.Shares
