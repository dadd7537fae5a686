import DiskServer.Library.Multimap
import DiskServer.Library.Table

/-
This file gives the cache of the token service with its two indexes, whose entries hold iterators.
-/

namespace DiskServer.Auth.DoubleIndex

open Library

structure CacheSlot (Key Entry : Type) where
  key : Key
  entry : Entry
  expiryIt : Nat
  deriving DecidableEq

structure ExpiryCache (Key Entry Time : Type) [LinearOrder Time] where
  byKey : Table (CacheSlot Key Entry) CacheSlot.key
  byExpiry : Multimap Time Key

namespace ExpiryCache

variable {Key Entry Time : Type} [DecidableEq Key] [LinearOrder Time] (expiresAt : Entry → Time)
variable (cache : ExpiryCache Key Entry Time)

def empty : ExpiryCache Key Entry Time := ⟨Table.empty, Multimap.empty⟩

def unlink (slot : CacheSlot Key Entry) : Option (ExpiryCache Key Entry Time) := do
  let (byExpiry, _) ← cache.byExpiry.erase slot.expiryIt
  some { byKey := cache.byKey.remove fun other => other.key = slot.key, byExpiry }

/-- An insertion under a key that is there already changes nothing. -/
def link (key : Key) (entry : Entry) : ExpiryCache Key Entry Time :=
  let (byExpiry, expiryIt) := cache.byExpiry.emplace (expiresAt entry) key
  { byKey := (cache.byKey.insertNew ⟨key, entry, expiryIt⟩).getD cache.byKey, byExpiry }

def upsert (key : Key) (entry : Entry) : Option (ExpiryCache Key Entry Time) :=
  match cache.byKey.find? key with
  | some old => do
      let cache ← cache.unlink old
      some (cache.link expiresAt key entry)
  | none => some (cache.link expiresAt key entry)

def find (key : Key) (now : Time) : Option Entry :=
  match cache.byKey.find? key with
  | none => none
  | some slot => if expiresAt slot.entry ≤ now then none else some slot.entry

def erase (key : Key) : Option (Bool × ExpiryCache Key Entry Time) :=
  match cache.byKey.find? key with
  | none => some (false, cache)
  | some slot => do
      let cache ← cache.unlink slot
      some (true, cache)

def evictFrom (now : Time) : Nat → Option Nat → Nat → ExpiryCache Key Entry Time →
    Option (Nat × ExpiryCache Key Entry Time)
  | 0, _, _, _ => none
  | _ + 1, none, evicted, cache => some (evicted, cache)
  | rounds + 1, some iterator, evicted, cache => do
      let node ← cache.byExpiry.at? iterator
      if node.time ≤ now then
        let (byExpiry, following) ← cache.byExpiry.erase iterator
        evictFrom now rounds following (evicted + 1)
          { byKey := cache.byKey.remove fun slot => slot.key = node.key, byExpiry }
      else
        some (evicted, cache)

def evictExpired (now : Time) : Option (Nat × ExpiryCache Key Entry Time) :=
  evictFrom now (cache.byExpiry.nodes.length + 1) cache.byExpiry.begin 0 cache

def clear : ExpiryCache Key Entry Time := ⟨Table.empty, cache.byExpiry.clear⟩

def size : Nat := cache.byKey.rows.length

end ExpiryCache

section History

inductive CacheOperation (Key Entry Time : Type) where
  | upsert (key : Key) (entry : Entry)
  | erase (key : Key)
  | evictExpired (now : Time)
  | clear

variable {Key Entry Time : Type} [DecidableEq Key] [LinearOrder Time] (expiresAt : Entry → Time)

def ExpiryCache.apply (cache : ExpiryCache Key Entry Time) :
    CacheOperation Key Entry Time → Option (ExpiryCache Key Entry Time)
  | .upsert key entry => cache.upsert expiresAt key entry
  | .erase key => (cache.erase key).map Prod.snd
  | .evictExpired now => (cache.evictExpired now).map Prod.snd
  | .clear => some cache.clear

def runHistory : List (CacheOperation Key Entry Time) → Option (ExpiryCache Key Entry Time)
  | [] => some ExpiryCache.empty
  | operation :: earlier => do
      let cache ← runHistory earlier
      cache.apply expiresAt operation

end History

end DiskServer.Auth.DoubleIndex
