import DiskServer.Construction.ErrorCode
import Mathlib.Logic.Function.Basic

/-
This file gives the commands of the Redis service and the keys that the services build.
-/

namespace DiskServer.Redis

section Store

structure RedisEntry where
  value : String
  expiresAt : Option Nat
  deriving Repr, DecidableEq

abbrev Store := String → Option RedisEntry

def RedisEntry.alive (entry : RedisEntry) (now : Nat) : Bool :=
  entry.expiresAt.all fun deadline => now ≤ deadline

def Store.lookup (store : Store) (now : Nat) (key : String) : Option RedisEntry :=
  (store key).filter fun entry => entry.alive now

def Store.write (store : Store) (key : String) (entry : Option RedisEntry) : Store :=
  Function.update store key entry

/-- The store reads a number only in the form in which it writes numbers. -/
def readInteger (text : String) : Option Int :=
  let digits := text.toList.dropWhile (· = '-')
  let magnitude := Nat.ofDigitChars 10 digits 0
  let value : Int := if text.toList.head? = some '-' then -(magnitude : Int) else magnitude
  if toString value = text ∧ -9223372036854775808 ≤ value ∧ value ≤ 9223372036854775807 then
    some value
  else
    none

end Store

section Commands

inductive RedisCommand where
  | set (key value : String) (ttl : Nat)
  | get (key : String)
  | delete (key : String)
  | existsKey (key : String)
  | incr (key : String)
  | compareAndSwap (key expected newValue : String) (ttl : Nat)
  | incrWithExpire (key : String) (ttl : Nat)
  deriving Repr, DecidableEq

namespace RedisCommand

def key : RedisCommand → String
  | .set key _ _ => key
  | .get key => key
  | .delete key => key
  | .existsKey key => key
  | .incr key => key
  | .compareAndSwap key _ _ _ => key
  | .incrWithExpire key _ => key

@[reducible] def Answer : RedisCommand → Type
  | .set .. => Unit
  | .get _ => String
  | .delete _ => Unit
  | .existsKey _ => Bool
  | .incr _ => Int
  | .compareAndSwap .. => Bool
  | .incrWithExpire .. => Int

end RedisCommand

def Store.increment (store : Store) (now : Nat) (key : String) : Option (Int × RedisEntry) :=
  match store.lookup now key with
  | none => some (1, ⟨toString (1 : Int), none⟩)
  | some entry =>
      match readInteger entry.value with
      | none => none
      | some value =>
          if value < 9223372036854775807 then
            some (value + 1, ⟨toString (value + 1), entry.expiresAt⟩)
          else
            none

def RedisCommand.effect (now : Nat) (store : Store) :
    (command : RedisCommand) → Except ErrorCode command.Answer × Store
  | .set key value ttl =>
      (.ok (), store.write key (some ⟨value, if 0 < ttl then some (now + ttl) else none⟩))
  | .get key =>
      match store.lookup now key with
      | none => (.error .redisKeyNotFound, store)
      | some entry => (.ok entry.value, store)
  | .delete key => (.ok (), store.write key none)
  | .existsKey key => (.ok (store.lookup now key).isSome, store)
  | .incr key =>
      match store.increment now key with
      | none => (.error .redisOperationFailed, store)
      | some (count, entry) => (.ok count, store.write key (some entry))
  | .compareAndSwap key expected newValue ttl =>
      if (store.lookup now key).map RedisEntry.value = some expected then
        (.ok true, store.write key (some ⟨newValue, some (now + ttl)⟩))
      else
        (.ok false, store)
  | .incrWithExpire key ttl =>
      match store.increment now key with
      | none => (.error .redisOperationFailed, store)
      | some (count, entry) =>
          (.ok count, store.write key
            (some (if count = 1 then ⟨entry.value, some (now + ttl)⟩ else entry)))

/-- A command is done, it fails before it reaches the store, or its answer is lost. -/
inductive RedisFate where
  | done
  | failed
  | lost
  deriving Repr, DecidableEq

def RedisFate.effective : RedisFate → Bool
  | .done => true
  | .failed => false
  | .lost => true

def RedisCommand.execute (fate : RedisFate) (now : Nat) (store : Store) (command : RedisCommand) :
    Except ErrorCode command.Answer × Store :=
  match fate with
  | .done => command.effect now store
  | .failed => (.error .redisOperationFailed, store)
  | .lost => (.error .redisOperationFailed, (command.effect now store).2)

end Commands

section Keys

def buildRefreshTokenKey (userId : UInt64) : String :=
  "refresh_token" ++ ":" ++ toString userId.toNat

def buildAccessTokenBlacklistKey (jti : String) : String := "access_token_blacklist" ++ ":" ++ jti

def buildLoginRateLimitKey (address : String) : String := "rate:login" ++ ":" ++ address

def extractIPOnly (ipAddress : String) : String :=
  let characters := ipAddress.toList
  if characters.head? = some '[' ∧ ']' ∈ characters then
    String.ofList (characters.tail.takeWhile (· ≠ ']'))
  else if 1 < characters.count ':' then ipAddress
  else String.ofList (characters.takeWhile (· ≠ ':'))

def buildSharePasswordRateLimitKey (shareCode ipAddress : String) : String :=
  "rate:share_password" ++ ":" ++ shareCode ++ ":" ++ extractIPOnly ipAddress

def buildFileListCacheKey (userId : UInt64) (version : Nat) (parentId : UInt64)
    (type sortBy sortOrder : String) (page pageSize : Int32) : String :=
  "file_list" ++ ":" ++ toString userId.toNat ++ ":" ++ toString version ++ ":" ++
    toString parentId.toNat ++ ":" ++ type ++ ":" ++ sortBy ++ ":" ++ sortOrder ++ ":" ++
    toString page.toInt ++ ":" ++ toString pageSize.toInt

def buildFileListCacheVersionKey (userId : UInt64) : String :=
  "file_list_version" ++ ":" ++ toString userId.toNat

end Keys

end DiskServer.Redis
