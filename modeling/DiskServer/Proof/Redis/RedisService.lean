import DiskServer.Construction.Redis.RedisService
import DiskServer.Library.Separator

namespace DiskServer.Redis

open Library

section Writes

variable {store : Store} {now : Nat} {key other : String} {fate : RedisFate}

/-- The value that a command has written behind its key, or that it has removed the key. -/
def RedisCommand.wrote (fate : RedisFate) (now : Nat) (store : Store) :
    RedisCommand → Option (Option String)
  | .set _ value _ => if fate.effective then some (some value) else none
  | .delete _ => if fate.effective then some none else none
  | .compareAndSwap key expected newValue _ =>
      if fate.effective ∧ (store.lookup now key).map RedisEntry.value = some expected then
        some (some newValue)
      else
        none
  | .incr key =>
      if fate.effective then (store.increment now key).map fun counted => some counted.2.value
      else none
  | .incrWithExpire key _ =>
      if fate.effective then (store.increment now key).map fun counted => some counted.2.value
      else none
  | .get _ => none
  | .existsKey _ => none

@[simp] theorem write_same (entry : Option RedisEntry) : (store.write key entry) key = entry :=
  Function.update_self ..

theorem write_other (entry : Option RedisEntry) (different : other ≠ key) :
    (store.write key entry) other = store other := Function.update_of_ne different ..

theorem effect_other (command : RedisCommand) (different : other ≠ command.key) :
    (command.effect now store).2 other = store other := by
  cases command with
  | set key value ttl => exact write_other _ different
  | get key =>
      simp only [RedisCommand.effect]
      split <;> rfl
  | delete key => exact write_other _ different
  | existsKey key => rfl
  | incr key =>
      simp only [RedisCommand.effect]
      split
      · rfl
      · exact write_other _ different
  | compareAndSwap key expected newValue ttl =>
      simp only [RedisCommand.effect]
      split
      · exact write_other _ different
      · rfl
  | incrWithExpire key ttl =>
      simp only [RedisCommand.effect]
      split
      · rfl
      · exact write_other _ different

/-- A command changes no key but its own. -/
theorem execute_other (command : RedisCommand) (different : other ≠ command.key) :
    (command.execute fate now store).2 other = store other := by
  cases fate with
  | done => exact effect_other command different
  | failed => rfl
  | lost => exact effect_other command different

theorem execute_store (command : RedisCommand) :
    (command.execute fate now store).2 =
      if fate.effective then (command.effect now store).2 else store := by
  cases fate <;> rfl

theorem effect_key (command : RedisCommand) :
    ((command.effect now store).2 command.key).map RedisEntry.value =
      (command.wrote .done now store).getD ((store command.key).map RedisEntry.value) := by
  cases command with
  | set key value ttl => simp [RedisCommand.effect, RedisCommand.wrote, RedisCommand.key,
      RedisFate.effective]
  | get key =>
      simp only [RedisCommand.effect, RedisCommand.wrote, Option.getD_none]
      split <;> rfl
  | delete key => simp [RedisCommand.effect, RedisCommand.wrote, RedisCommand.key, RedisFate.effective]
  | existsKey key => rfl
  | incr key =>
      simp only [RedisCommand.effect, RedisCommand.wrote, RedisCommand.key, RedisFate.effective,
        if_true]
      cases counted : store.increment now key with
      | none => rfl
      | some pair => simp
  | compareAndSwap key expected newValue ttl =>
      simp only [RedisCommand.effect, RedisCommand.wrote, RedisCommand.key, RedisFate.effective,
        true_and]
      split <;> simp
  | incrWithExpire key ttl =>
      simp only [RedisCommand.effect, RedisCommand.wrote, RedisCommand.key, RedisFate.effective,
        if_true]
      cases counted : store.increment now key with
      | none => rfl
      | some pair =>
          simp only [write_same, Option.map_some, Option.getD_some]
          split <;> rfl

/-- Behind its key a command leaves what it has written, or else what was there. -/
theorem execute_key (command : RedisCommand) :
    ((command.execute fate now store).2 command.key).map RedisEntry.value =
      (command.wrote fate now store).getD ((store command.key).map RedisEntry.value) := by
  rw [execute_store]
  cases fate with
  | done => exact effect_key command
  | failed => cases command <;> rfl
  | lost => exact (effect_key command).trans (by cases command <;> rfl)

/-- A swap that answers yes has found the expected value and has written the new one. -/
theorem compareAndSwap_ok {expected newValue : String} {ttl : Nat}
    (swapped : ((RedisCommand.compareAndSwap key expected newValue ttl).execute fate now store).1 =
      .ok true) :
    (∃ entry, store key = some entry ∧ entry.value = expected) ∧
      (RedisCommand.compareAndSwap key expected newValue ttl).wrote fate now store =
        some (some newValue) := by
  cases fate with
  | failed => cases swapped
  | lost => cases swapped
  | done =>
      simp only [RedisCommand.execute, RedisCommand.effect] at swapped
      split at swapped
      · rename_i found
        obtain ⟨entry, alive, value⟩ := Option.map_eq_some_iff.mp found
        exact ⟨⟨entry, (Option.filter_eq_some_iff.mp alive).1, value⟩, if_pos ⟨rfl, found⟩⟩
      · cases swapped

/-- A key that is reported missing has no entry, or the time of its entry has passed. -/
theorem existsKey_false
    (missing : ((RedisCommand.existsKey key).execute fate now store).1 = .ok false)
    {entry : RedisEntry} (found : store key = some entry) {deadline : Nat}
    (expires : entry.expiresAt = some deadline) : deadline < now := by
  cases fate with
  | failed => cases missing
  | lost => cases missing
  | done =>
      simp only [RedisCommand.execute, RedisCommand.effect, Except.ok.injEq] at missing
      by_contra alive
      have present : store.lookup now key = some entry := by
        unfold Store.lookup
        rw [found]
        simp [RedisEntry.alive, expires, Nat.not_lt.mp alive]
      rw [present] at missing
      cases missing

/-- The store reads back a number that it has written. -/
theorem readInteger_natural {number : Nat} (bound : number ≤ 9223372036854775807) :
    readInteger (toString (number : Int)) = some (number : Int) := by
  have plain : '-' ∉ (toString number).toList := not_mem_decimal (by decide) number
  have digits : (toString number).toList.dropWhile (· = '-') = (toString number).toList := by
    cases shape : (toString number).toList with
    | nil => rfl
    | cons head tail =>
        rw [shape] at plain
        have other : head ≠ '-' := fun same => plain (same ▸ List.mem_cons_self)
        exact List.dropWhile_cons_of_neg (by simpa using other)
  have unsigned : (toString number).toList.head? ≠ some '-' := fun sign =>
    plain (List.mem_of_head? sign)
  unfold readInteger
  simp only [integer_ofNat, digits, ofDigitChars_decimal, if_neg unsigned]
  rw [if_pos]
  refine ⟨trivial, ?_, ?_⟩ <;> omega

end Writes

section Keys

/-- The texts that the keys of the services begin with. -/
def keyStarts : List String :=
  ["refresh_token:", "access_token_blacklist:", "rate:login:", "file_list:", "file_list_version:"]

theorem keyStarts_free : ∀ one ∈ keyStarts, ∀ two ∈ keyStarts, one.toList <+: two.toList → one = two := by
  decide +kernel

/-- Keys that begin differently are different. -/
theorem key_ne (one two : String) {first second : String} (left : one ∈ keyStarts) (right : two ∈ keyStarts)
    (different : one ≠ two) : one ++ first ≠ two ++ second :=
  fun same => different (text_prefix_free keyStarts_free left right same)

variable {userId other : UInt64} {jti address : String}

theorem refreshTokenKey_ne_blacklist :
    buildRefreshTokenKey userId ≠ buildAccessTokenBlacklistKey jti :=
  key_ne "refresh_token:" "access_token_blacklist:" (by decide) (by decide) (by decide)

theorem refreshTokenKey_ne_rateLimit : buildRefreshTokenKey userId ≠ buildLoginRateLimitKey address :=
  key_ne "refresh_token:" "rate:login:" (by decide) (by decide) (by decide)

theorem blacklistKey_ne_rateLimit :
    buildAccessTokenBlacklistKey jti ≠ buildLoginRateLimitKey address :=
  key_ne "access_token_blacklist:" "rate:login:" (by decide) (by decide) (by decide)

theorem refreshTokenKey_injective (same : buildRefreshTokenKey userId = buildRefreshTokenKey other) :
    userId = other :=
  UInt64.toNat_inj.mp (decimal_injective (text_append_right_cancel same))

theorem blacklistKey_injective {second : String}
    (same : buildAccessTokenBlacklistKey jti = buildAccessTokenBlacklistKey second) : jti = second :=
  text_append_right_cancel same

theorem versionKey_injective
    (same : buildFileListCacheVersionKey userId = buildFileListCacheVersionKey other) :
    userId = other :=
  UInt64.toNat_inj.mp (decimal_injective (text_append_right_cancel same))

variable {version later : Nat} {parentId folderId : UInt64}
  {type sortBy sortOrder kind column direction : String} {page pageSize number size : Int32}

theorem cacheKey_ne_version : buildFileListCacheKey userId version parentId type sortBy sortOrder page
    pageSize ≠ buildFileListCacheVersionKey other := by
  have colon : ":" = String.singleton ':' := by decide
  intro same
  unfold buildFileListCacheKey buildFileListCacheVersionKey at same
  rw [colon] at same
  simp only [String.append_assoc] at same
  have starts : "file_list" = "file_list_version" :=
    (text_separator_left (by decide) (by decide) same).1
  exact absurd starts (by decide)

/-- A key of a listing determines the user, the version and the query. -/
theorem cacheKey_injective
    (plain : ∀ part ∈ [type, sortBy, sortOrder, kind, column, direction], ':' ∉ part.toList)
    (same : buildFileListCacheKey userId version parentId type sortBy sortOrder page pageSize =
      buildFileListCacheKey other later folderId kind column direction number size) :
    userId = other ∧ version = later ∧ parentId = folderId ∧ type = kind ∧ sortBy = column ∧
      sortOrder = direction ∧ page = number ∧ pageSize = size := by
  have colon : ":" = String.singleton ':' := by decide
  have decimal : ∀ value : Nat, ':' ∉ (toString value).toList := not_mem_decimal (by decide)
  have integer : ∀ value : Int, ':' ∉ (toString value).toList :=
    not_mem_integer (by decide) (by decide)
  simp only [List.forall_mem_cons] at plain
  obtain ⟨types, columns, orders, kinds, others, directions, -⟩ := plain
  unfold buildFileListCacheKey at same
  rw [colon] at same
  simp only [String.append_assoc] at same
  obtain ⟨-, rest⟩ := text_separator_left (by decide) (by decide) same
  obtain ⟨users, rest⟩ := text_separator_left (decimal _) (decimal _) rest
  obtain ⟨versions, rest⟩ := text_separator_left (decimal _) (decimal _) rest
  obtain ⟨parents, rest⟩ := text_separator_left (decimal _) (decimal _) rest
  obtain ⟨sameType, rest⟩ := text_separator_left types kinds rest
  obtain ⟨sameColumn, rest⟩ := text_separator_left columns others rest
  obtain ⟨sameOrder, rest⟩ := text_separator_left orders directions rest
  obtain ⟨pages, sizes⟩ := text_separator_left (integer _) (integer _) rest
  exact ⟨UInt64.toNat_inj.mp (decimal_injective users), decimal_injective versions,
    UInt64.toNat_inj.mp (decimal_injective parents), sameType, sameColumn, sameOrder,
    Int32.toInt_inj.mp (integer_injective pages), Int32.toInt_inj.mp (integer_injective sizes)⟩

end Keys

end DiskServer.Redis
