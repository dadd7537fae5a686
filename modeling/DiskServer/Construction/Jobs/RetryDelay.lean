import Mathlib.Algebra.Order.Group.Nat

/-
This file gives the delay before the next attempt of a storage job.
-/

namespace DiskServer.Jobs

def mixRetrySeed (value : UInt64) : UInt64 :=
  let value := value + 0x9e3779b97f4a7c15
  let value := (value ^^^ (value >>> 30)) * 0xbf58476d1ce4e5b9
  let value := (value ^^^ (value >>> 27)) * 0x94d049bb133111eb
  value ^^^ (value >>> 31)

def retryExponent (attempts : UInt32) : UInt32 :=
  min (if 0 < attempts then attempts - 1 else 0) 31

def doubleDelay (capSeconds : UInt32) : Nat → UInt64 → UInt64
  | 0, delay => delay
  | rounds + 1, delay =>
      if delay < capSeconds.toUInt64 then
        doubleDelay capSeconds rounds (min (delay * 2) capSeconds.toUInt64)
      else
        delay

def computeRetryDelaySeconds (jobId : UInt64) (attempts baseSeconds capSeconds : UInt32) :
    Except String UInt32 :=
  if baseSeconds = 0 ∨ capSeconds < baseSeconds then
    .error "Storage job retry delay bounds are invalid"
  else
    let delay := doubleDelay capSeconds (retryExponent attempts).toNat baseSeconds.toUInt64
    let remaining := capSeconds.toUInt64 - delay
    let jitterWindow := min (delay / 4) remaining
    if 0 < jitterWindow then
      let seed := jobId ^^^ (attempts.toUInt64 <<< 32)
      .ok (delay + mixRetrySeed seed % (jitterWindow + 1)).toUInt32
    else
      .ok delay.toUInt32

section Checked

/-- A word passes when it is the result of its operation on unbounded numbers. -/
def exactWord (result : Nat) (word : UInt64) : Option UInt64 :=
  if word.toNat = result then some word else none

def narrowWord (word : UInt64) : Option UInt32 :=
  if word.toUInt32.toNat = word.toNat then some word.toUInt32 else none

def doubleDelayChecked (capSeconds : UInt32) : Nat → UInt64 → Option UInt64
  | 0, delay => some delay
  | rounds + 1, delay =>
      if delay < capSeconds.toUInt64 then do
        let doubled ← exactWord (delay.toNat * 2) (delay * 2)
        doubleDelayChecked capSeconds rounds (min doubled capSeconds.toUInt64)
      else
        some delay

/-- The same steps, which stop at the first shift, product, sum, difference or narrowing that loses a part
of its result. Only the hash is left as it is. -/
def retryDelayChecked (jobId : UInt64) (attempts baseSeconds capSeconds : UInt32) : Option UInt32 := do
  let delay ← doubleDelayChecked capSeconds (retryExponent attempts).toNat baseSeconds.toUInt64
  let remaining ← exactWord (capSeconds.toNat - delay.toNat) (capSeconds.toUInt64 - delay)
  let jitterWindow := min (delay / 4) remaining
  if 0 < jitterWindow then
    let shifted ← exactWord (attempts.toNat * 2 ^ 32) (attempts.toUInt64 <<< 32)
    let modulus ← exactWord (jitterWindow.toNat + 1) (jitterWindow + 1)
    let jitter := mixRetrySeed (jobId ^^^ shifted) % modulus
    let delayed ← exactWord (delay.toNat + jitter.toNat) (delay + jitter)
    narrowWord delayed
  else
    narrowWord delay

end Checked

end DiskServer.Jobs
