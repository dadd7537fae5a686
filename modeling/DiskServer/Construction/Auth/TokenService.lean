import DiskServer.Construction.ErrorCode
import Mathlib.Data.List.Basic

/-
This file gives the verification of access tokens and share tokens.
-/

namespace DiskServer.Auth

inductive Decoded (Payload : Type) where
  | payload (claims : Payload)
  | expired
  | unverified
  | malformed
  deriving Repr, DecidableEq

structure AccessPayload where
  type : String
  subject : String
  username : String
  jti : String
  role : Option Int
  status : Option Int
  deriving Repr, DecidableEq

structure AccessTokenClaims where
  userId : Nat
  username : String
  jti : String
  role : Int
  status : Int
  deriving Repr, DecidableEq

/-- A scope field is absent when the scope is no object or the field is no text. -/
structure SharePayload where
  type : String
  shareCode : String
  jti : String
  subject : String
  scopeShareId : Option String
  scopePermission : Option String
  deriving Repr, DecidableEq

structure ShareTokenClaims where
  shareCode : String
  shareId : Nat
  jti : String
  scopeShareId : String
  permission : String
  deriving Repr, DecidableEq

def isSpace (char : Char) : Bool := [' ', '\t', '\n', '\x0b', '\x0c', '\r'].contains char

def splitSign : List Char → Bool × List Char
  | '-' :: rest => (true, rest)
  | '+' :: rest => (false, rest)
  | rest => (false, rest)

def stoull (text : String) : Option (Nat × Nat) :=
  let signed := splitSign (text.toList.dropWhile isSpace)
  let digits := signed.2.takeWhile Char.isDigit
  let value := Nat.ofDigitChars 10 digits 0
  if digits = [] ∨ 18446744073709551616 ≤ value then none
  else
    some (if signed.1 then (18446744073709551616 - value) % 18446744073709551616 else value,
      text.length - (signed.2.length - digits.length))

def toInt32 (value : Int) : Int := value.bmod 4294967296

def verifyAccessToken (decode : String → Decoded AccessPayload) (token : String) :
    Except ErrorCode AccessTokenClaims :=
  match decode token with
  | .expired => .error .tokenExpired
  | .unverified => .error .invalidToken
  | .malformed => .error .tokenMalformed
  | .payload claims =>
      if claims.type ≠ "access" then .error .tokenWrongType
      else
        match stoull claims.subject with
        | none => .error .tokenMalformed
        | some (userId, _) =>
            .ok
              { userId := userId
                username := claims.username
                jti := claims.jti
                role := (claims.role.map toInt32).getD 0
                status := (claims.status.map toInt32).getD 1 }

def isValidSharePermission (permission : String) : Bool :=
  permission == "view" || permission == "download"

def verifyShareToken (decode : String → Decoded SharePayload) (token : String) :
    Except ErrorCode ShareTokenClaims :=
  if token = "" then .error .tokenMalformed
  else
    match decode token with
    | .expired => .error .tokenExpired
    | .unverified => .error .tokenMalformed
    | .malformed => .error .tokenMalformed
    | .payload claims =>
        if claims.type ≠ "share" then .error .tokenWrongType
        else
          match stoull claims.subject, claims.scopeShareId, claims.scopePermission with
          | some (shareId, parsedLength), some scopeShareId, some permission =>
              if claims.shareCode = "" ∨ claims.jti = "" ∨ shareId = 0 ∨
                  parsedLength ≠ claims.subject.length then .error .tokenMalformed
              else if scopeShareId ≠ claims.shareCode ∨ isValidSharePermission permission = false then
                .error .tokenMalformed
              else
                .ok
                  { shareCode := claims.shareCode
                    shareId := shareId
                    jti := claims.jti
                    scopeShareId := scopeShareId
                    permission := permission }
          | _, _, _ => .error .tokenMalformed

structure TokenEnvironment where
  decodeAccess : String → Decoded AccessPayload
  decodeShare : String → Decoded SharePayload
  isAccessTokenRevoked : String → Except ErrorCode Bool
  isShareTokenRevoked : String → Except ErrorCode Bool

def TokenEnvironment.verifyShareTokenWithRedis (environment : TokenEnvironment) (token : String) :
    Except ErrorCode ShareTokenClaims := do
  let claims ← verifyShareToken environment.decodeShare token
  let revoked ← environment.isShareTokenRevoked token
  if revoked then .error .tokenRevoked else .ok claims

end DiskServer.Auth
