import DiskServer.Construction.Auth.TokenSessions
import DiskServer.Proof.Auth.AuthService
import DiskServer.Proof.Redis.RedisService

namespace DiskServer.Auth

open Library Redis

abbrev AuthEntry := Executed SessionWorld AuthCommand AuthFate AuthCommand.Answer

abbrev AuthMoment := Moment SessionWorld AuthCommand AuthFate AuthCommand.Answer

section Entries

/-- What an executed command has written into the slot of a user. -/
def slotWrite (userId : UInt64) (entry : AuthEntry) : Option (Option String) :=
  match entry.command, entry.fate with
  | .redis command, .redis fate =>
      if command.key = buildRefreshTokenKey userId then
        command.wrote fate entry.before.now entry.before.redis
      else
        none
  | _, _ => none

/-- The latest write into the slot of a user. -/
def lastWrite (userId : UInt64) (trace : List AuthEntry) : Option (Option String) :=
  trace.findSome? (slotWrite userId)

/-- The entry has written the hash into the slot of some user. -/
def Stores (hash : String) (entry : AuthEntry) : Prop :=
  ∃ userId, slotWrite userId entry = some (some hash)

/-- The tokens that an executed command has signed. -/
def signedPair (entry : AuthEntry) : Option (AccessToken × RefreshToken) :=
  match entry with
  | ⟨_, _, .generateTokens _, _, pair⟩ => some pair
  | _ => none

/-- The command has put the access token on the blacklist. -/
def Revokes (jti : String) (entry : AuthEntry) : Prop :=
  entry.command = .redis (.set (buildAccessTokenBlacklistKey jti) "1" accessTokenTtl) ∧
    ∃ fate : RedisFate, entry.fate = .redis fate ∧ fate.effective = true

/-- The commands that write into no slot of a refresh token. -/
def AuthCommand.Harmless : AuthCommand → Prop
  | .redis command => ∀ userId, command.key ≠ buildRefreshTokenKey userId
  | _ => True

theorem slotWrite_redis (userId : UInt64) (caller : Nat) (before : SessionWorld)
    (command : RedisCommand) (fate : RedisFate) (answer : Except ErrorCode command.Answer) :
    slotWrite userId ⟨caller, before, .redis command, .redis fate, answer⟩ =
      if command.key = buildRefreshTokenKey userId then command.wrote fate before.now before.redis
      else none := rfl

theorem slotWrite_of_harmless {entry : AuthEntry} (harmless : entry.command.Harmless)
    (userId : UInt64) : slotWrite userId entry = none := by
  obtain ⟨caller, before, command, fate, answer⟩ := entry
  cases command with
  | redis command =>
      cases fate with
      | redis fate => exact if_neg (harmless userId)
      | _ => rfl
  | _ => rfl

end Entries

section Contract

variable (hashToken : String → Except ErrorCode String) {here there : AuthMoment} {caller : Nat}

/-- The call has signed a refresh token with this hash. -/
def Owns (caller : Nat) (hash : String) (here : AuthMoment) : Prop :=
  ∃ made ∈ here.trace, made.caller = caller ∧ ∃ pair, signedPair made = some pair ∧
    hashToken pair.2.jti = .ok hash

/-- The call has stored no refresh token so far. -/
def Unstored (caller : Nat) (here : AuthMoment) : Prop :=
  ∀ entry ∈ here.trace, entry.caller = caller → ∀ hash, ¬ Stores hash entry

/-- Every slot holds what the trace last wrote there, and each stored hash was signed before. -/
structure SessionInv (here : AuthMoment) : Prop where
  slots : ∀ userId entry, here.world.redis (buildRefreshTokenKey userId) = some entry →
    lastWrite userId here.trace = some (some entry.value)
  owners : ∀ entry ∈ here.trace, ∀ hash, Stores hash entry → Owns hashToken entry.caller hash here
  once : here.trace.Pairwise fun newer older => ∀ hash, Stores hash newer → ¬ Stores hash older
  signed : ∀ made ∈ here.trace, ∀ pair, signedPair made = some pair →
    pair.2 ∈ here.world.issuedRefresh
  makers : ∀ one ∈ here.trace, ∀ two ∈ here.trace, ∀ pair other, signedPair one = some pair →
    signedPair two = some other → pair.2.jti = other.2.jti → one.caller = two.caller
  signedAccess : ∀ token ∈ here.world.issuedAccess,
    token.expiresAt ≤ here.world.now + accessTokenTtl ∧
      token.payload.subject = toString token.userId.toNat
  revoked : ∀ entry ∈ here.trace, ∀ jti, Revokes jti entry → jti ∈ here.world.usedJtis ∧
    ∀ token ∈ here.world.issuedAccess, token.payload.jti = jti → ∃ kept deadline,
      here.world.redis (buildAccessTokenBlacklistKey jti) = some kept ∧
      kept.expiresAt = some deadline ∧ token.expiresAt ≤ deadline

/-- Time does not go back, and what was signed stays signed. -/
def SessionWorld.Later (first second : SessionWorld) : Prop :=
  first.now ≤ second.now ∧ first.issuedAccess ⊆ second.issuedAccess ∧
    first.issuedRefresh ⊆ second.issuedRefresh

/-- The invariant of the sessions, as each command and each foreign step must keep it. -/
def sessionContract : Contract SessionWorld AuthCommand AuthFate AuthCommand.Answer where
  Inv := SessionInv hashToken
  Later := SessionWorld.Later
  same := fun _ => ⟨Nat.le_refl _, List.Subset.refl _, List.Subset.refl _⟩
  compose := fun _ _ _ one two =>
    ⟨Nat.le_trans one.1 two.1, List.Subset.trans one.2.1 two.2.1, List.Subset.trans one.2.2 two.2.2⟩

/-- What a command may do in the moment in which a call issues it. -/
def AuthCommand.Allowed (caller : Nat) (here : AuthMoment) : AuthCommand → Prop
  | .redis (.set key value ttl) =>
      (∃ userId, key = buildRefreshTokenKey userId ∧ Owns hashToken caller value here ∧
        Unstored caller here) ∨
      ∃ jti, key = buildAccessTokenBlacklistKey jti ∧ value = "1" ∧ ttl = accessTokenTtl ∧
        jti ∈ here.world.usedJtis
  | .redis (.compareAndSwap key _ newValue _) =>
      ∃ userId, key = buildRefreshTokenKey userId ∧ Owns hashToken caller newValue here ∧
        Unstored caller here
  | .redis (.delete key) =>
      (∃ userId, key = buildRefreshTokenKey userId) ∨ ∃ address, key = buildLoginRateLimitKey address
  | .redis (.incrWithExpire key _) => ∃ address, key = buildLoginRateLimitKey address
  | .redis (.existsKey key) => ∃ jti, key = buildAccessTokenBlacklistKey jti
  | .redis (.get _) => False
  | .redis (.incr _) => False
  | _ => True

variable {hashToken}

theorem SessionWorld.Later.usedJtis {first second : SessionWorld} (later : first.Later second)
    {jti : String} (used : jti ∈ first.usedJtis) : jti ∈ second.usedJtis := by
  rcases List.mem_append.mp used with access | refresh
  · exact List.mem_append_left _ (List.map_subset _ later.2.1 access)
  · exact List.mem_append_right _ (List.map_subset _ later.2.2 refresh)

theorem Owns.since {hash : String} (owns : Owns hashToken caller hash here)
    (grown : here.trace <:+ there.trace) : Owns hashToken caller hash there := by
  obtain ⟨made, present, mine, signs⟩ := owns
  exact ⟨made, grown.subset present, mine, signs⟩

theorem Unstored.foreign (unstored : Unstored caller here)
    (foreign : (sessionContract hashToken).Foreign caller here there) : Unstored caller there := by
  obtain ⟨-, added, grown, others⟩ := foreign
  intro entry present mine
  rw [grown] at present
  rcases List.mem_append.mp present with new | old
  · exact absurd mine (others entry new)
  · exact unstored entry old mine

theorem Unstored.executed {command : AuthCommand} {fate : AuthFate} {answer : command.Answer}
    {after : SessionWorld} (unstored : Unstored caller here) (harmless : command.Harmless) :
    Unstored caller (here.executed caller command fate answer after) := by
  intro entry present mine
  rcases List.mem_cons.mp present with rfl | old
  · rintro hash ⟨userId, written⟩
    rw [slotWrite_of_harmless harmless userId] at written
    cases written
  · exact unstored entry old mine

/-- The commands that leave the world as it is. -/
def AuthCommand.Reads : AuthCommand → Prop
  | .redis _ => False
  | .generateTokens _ => False
  | .upsertCached .. => False
  | _ => True

theorem AuthCommand.Reads.harmless {command : AuthCommand} (reads : command.Reads) :
    command.Harmless := by
  cases command with
  | redis => exact reads.elim
  | _ => trivial

theorem executeAuth_reads {command : AuthCommand} {fate : AuthFate} {answer : command.Answer}
    {world after : SessionWorld} (reads : command.Reads)
    (ran : executeAuth fate command world = some (answer, after)) : after = world := by
  cases command with
  | redis | generateTokens | upsertCached => exact reads.elim
  | clock | findCached | verifyAccessToken | verifyRefreshToken | extractJti =>
      cases ran
      rfl
  | findUser | validateAccountAccess | verifyPassword | incrementLoginAttempts | updateLoginInfo =>
      simp only [executeAuth] at ran
      split at ran
      · cases ran
        rfl
      · cases ran
  | findOne userId =>
      simp only [executeAuth] at ran
      split at ran
      · split at ran
        · cases ran
          rfl
        · cases ran
      · cases ran
        rfl
      · cases ran

theorem executeAuth_redis {command : RedisCommand} {fate : AuthFate}
    {answer : Except ErrorCode command.Answer} {world after : SessionWorld}
    (ran : executeAuth fate (.redis command) world = some (answer, after)) :
    ∃ choice : RedisFate, fate = .redis choice ∧
      answer = (command.execute choice world.now world.redis).1 ∧
      after = { world with redis := (command.execute choice world.now world.redis).2 } := by
  simp only [executeAuth] at ran
  split at ran
  · rename_i choice
    cases ran
    exact ⟨choice, rfl, rfl, rfl⟩
  · cases ran

/-- The database finds a user only under the user's own id. -/
theorem executeAuth_findOne {userId : UInt64} {fate : AuthFate} {user : UserRow}
    {world after : SessionWorld}
    (ran : executeAuth fate (.findOne userId) world = some (.ok user, after)) : user.id = userId := by
  simp only [executeAuth] at ran
  split at ran
  · split at ran
    · rename_i own
      cases ran
      exact own
    · cases ran
  · cases ran
  · cases ran

theorem executeAuth_generate {user : UserRow} {fate : AuthFate} {pair : AccessToken × RefreshToken}
    {world after : SessionWorld}
    (ran : executeAuth fate (.generateTokens user) world = some (pair, after)) :
    ∃ access refresh, access ∉ world.usedJtis ∧ refresh ∉ world.usedJtis ∧
      pair = generateTokens world.now user accountStatusActive access refresh ∧
      after = { world with
        issuedAccess := pair.1 :: world.issuedAccess
        issuedRefresh := pair.2 :: world.issuedRefresh } := by
  simp only [executeAuth] at ran
  split at ran
  · split at ran
    · rename_i access refresh fresh
      cases ran
      exact ⟨access, refresh, fresh.1, fresh.2.1, rfl, rfl⟩
    · cases ran
  · cases ran

theorem executeAuth_later {command : AuthCommand} {fate : AuthFate} {answer : command.Answer}
    {world after : SessionWorld} (ran : executeAuth fate command world = some (answer, after)) :
    world.Later after := by
  by_cases reads : command.Reads
  · rw [executeAuth_reads reads ran]
    exact ⟨Nat.le_refl _, List.Subset.refl _, List.Subset.refl _⟩
  · cases command with
    | redis command =>
        obtain ⟨choice, -, -, rfl⟩ := executeAuth_redis ran
        exact ⟨Nat.le_refl _, List.Subset.refl _, List.Subset.refl _⟩
    | generateTokens user =>
        obtain ⟨access, refresh, -, -, -, rfl⟩ := executeAuth_generate ran
        exact ⟨Nat.le_refl _, List.subset_cons_self _ _, List.subset_cons_self _ _⟩
    | upsertCached serverId jti expiresAt =>
        cases ran
        exact ⟨Nat.le_refl _, List.Subset.refl _, List.Subset.refl _⟩
    | _ => exact absurd trivial reads

end Contract

section Invariant

variable {hashToken : String → Except ErrorCode String} {here : AuthMoment} {caller : Nat}
  {after : SessionWorld} {entry : AuthEntry}

theorem lastWrite_of_unwritten {userId : UInt64} {trace : List AuthEntry}
    (unwritten : slotWrite userId entry = none) :
    lastWrite userId (entry :: trace) = lastWrite userId trace := by
  unfold lastWrite
  rw [List.findSome?_cons, unwritten]

theorem lastWrite_of_written {userId : UInt64} {trace : List AuthEntry} {written : Option String}
    (wrote : slotWrite userId entry = some written) :
    lastWrite userId (entry :: trace) = some written := by
  unfold lastWrite
  rw [List.findSome?_cons, wrote]

/-- The parts of the invariant that speak of stored tokens survive an entry that stores nothing. -/
theorem SessionInv.unstored (inv : SessionInv hashToken here)
    (unwritten : ∀ userId, slotWrite userId entry = none) :
    (∀ other ∈ entry :: here.trace, ∀ hash, Stores hash other →
      Owns hashToken other.caller hash ⟨after, entry :: here.trace⟩) ∧
    (entry :: here.trace).Pairwise fun newer older => ∀ hash, Stores hash newer → ¬ Stores hash older := by
  have silent : ∀ hash, ¬ Stores hash entry := by
    rintro hash ⟨userId, written⟩
    rw [unwritten userId] at written
    cases written
  constructor
  · intro other present hash stores
    rcases List.mem_cons.mp present with rfl | old
    · exact absurd stores (silent hash)
    · exact (inv.owners other old hash stores).since (List.suffix_cons _ _)
  · exact List.pairwise_cons.mpr
      ⟨fun older _ hash stores => absurd stores (silent hash), inv.once⟩

/-- The parts of the invariant that speak of signed tokens survive an entry that signs nothing. -/
theorem SessionInv.unsigned (inv : SessionInv hashToken here) (unsigned : signedPair entry = none) :
    (∀ made ∈ entry :: here.trace, ∀ pair, signedPair made = some pair →
      pair.2 ∈ here.world.issuedRefresh) ∧
    ∀ one ∈ entry :: here.trace, ∀ two ∈ entry :: here.trace, ∀ pair other,
      signedPair one = some pair → signedPair two = some other → pair.2.jti = other.2.jti →
      one.caller = two.caller := by
  have old : ∀ made ∈ entry :: here.trace, ∀ pair, signedPair made = some pair →
      made ∈ here.trace := by
    intro made present pair signs
    rcases List.mem_cons.mp present with rfl | old
    · rw [unsigned] at signs
      cases signs
    · exact old
  refine ⟨fun made present pair signs => inv.signed made (old made present pair signs) pair signs, ?_⟩
  intro one first two second pair other signs again same
  exact inv.makers one (old one first pair signs) two (old two second other again) pair other signs
    again same

/-- A command that touches no slot, signs nothing and revokes nothing keeps the invariant. -/
theorem SessionInv.quiet (inv : SessionInv hashToken here) (after : SessionWorld) (entry : AuthEntry)
    (now : after.now = here.world.now)
    (access : after.issuedAccess = here.world.issuedAccess)
    (refresh : after.issuedRefresh = here.world.issuedRefresh)
    (slots : ∀ userId, after.redis (buildRefreshTokenKey userId) =
      here.world.redis (buildRefreshTokenKey userId))
    (blacklist : ∀ jti, after.redis (buildAccessTokenBlacklistKey jti) =
      here.world.redis (buildAccessTokenBlacklistKey jti))
    (unwritten : ∀ userId, slotWrite userId entry = none) (unsigned : signedPair entry = none)
    (unrevoked : ∀ jti, ¬ Revokes jti entry) :
    SessionInv hashToken ⟨after, entry :: here.trace⟩ := by
  have used : after.usedJtis = here.world.usedJtis := by
    unfold SessionWorld.usedJtis
    rw [access, refresh]
  obtain ⟨owners, once⟩ := inv.unstored unwritten
  obtain ⟨signed, makers⟩ := inv.unsigned unsigned
  refine ⟨?_, owners, once, ?_, makers, ?_, ?_⟩
  · intro userId kept found
    rw [lastWrite_of_unwritten (unwritten userId)]
    exact inv.slots userId kept ((slots userId).symm.trans found)
  · simp only [refresh]
    exact signed
  · simp only [access, now]
    exact inv.signedAccess
  · intro other present jti revokes
    rcases List.mem_cons.mp present with rfl | old
    · exact absurd revokes (unrevoked jti)
    · simp only [used, access, blacklist]
      exact inv.revoked other old jti revokes

/-- Fresh tokens are unlike all earlier ones. -/
theorem SessionInv.signs (inv : SessionInv hashToken here) {user : UserRow} {fate : AuthFate}
    {pair : AccessToken × RefreshToken}
    (ran : executeAuth fate (.generateTokens user) here.world = some (pair, after)) :
    SessionInv hashToken (here.executed caller (.generateTokens user) fate pair after) := by
  obtain ⟨access, refresh, freshAccess, freshRefresh, made, rfl⟩ := executeAuth_generate ran
  have unwritten : ∀ userId, slotWrite userId
      ⟨caller, here.world, .generateTokens user, fate, pair⟩ = none := fun userId => rfl
  have accessJti : pair.1.payload.jti = access := by rw [made]; rfl
  have refreshJti : pair.2.jti = refresh := by rw [made]; rfl
  obtain ⟨owners, once⟩ := inv.unstored unwritten
  have older : ∀ one ∈ here.trace, ∀ other, signedPair one = some other → other.2.jti ≠ refresh := by
    intro one present other signs same
    have issued := inv.signed one present other signs
    exact freshRefresh (List.mem_append_right _ (List.mem_map.mpr ⟨other.2, issued, same⟩))
  refine ⟨?_, owners, once, ?_, ?_, ?_, ?_⟩
  · intro userId kept found
    exact (lastWrite_of_unwritten (unwritten userId)).trans (inv.slots userId kept found)
  · intro one present other signs
    rcases List.mem_cons.mp present with rfl | old
    · cases signs
      exact List.mem_cons_self
    · exact List.mem_cons_of_mem _ (inv.signed one old other signs)
  · intro one first two second mine other signs again same
    rcases List.mem_cons.mp first with rfl | old
    · cases signs
      rcases List.mem_cons.mp second with rfl | past
      · rfl
      · exact absurd (same.symm.trans refreshJti) (older two past other again)
    · rcases List.mem_cons.mp second with rfl | past
      · cases again
        exact absurd (same.trans refreshJti) (older one old mine signs)
      · exact inv.makers one old two past mine other signs again same
  · intro token issued
    rcases List.mem_cons.mp issued with rfl | old
    · rw [made]
      exact ⟨Nat.le_refl _, rfl⟩
    · exact inv.signedAccess token old
  · intro other present jti revokes
    rcases List.mem_cons.mp present with rfl | old
    · cases revokes.1
    · obtain ⟨used, kept⟩ := inv.revoked other old jti revokes
      have later : here.world.Later { here.world with
          issuedAccess := pair.1 :: here.world.issuedAccess
          issuedRefresh := pair.2 :: here.world.issuedRefresh } :=
        ⟨Nat.le_refl _, List.subset_cons_self _ _, List.subset_cons_self _ _⟩
      refine ⟨later.usedJtis used, fun token issued same => ?_⟩
      rcases List.mem_cons.mp issued with rfl | past
      · rw [accessJti] at same
        exact absurd (same ▸ used) freshAccess
      · exact kept token past same

/-- A revocation outlives every token that has been signed by then. -/
theorem SessionInv.revokes (inv : SessionInv hashToken here) {jti : String}
    (used : jti ∈ here.world.usedJtis) {fate : AuthFate} {answer : Except ErrorCode Unit}
    (ran : executeAuth fate (.redis (.set (buildAccessTokenBlacklistKey jti) "1" accessTokenTtl))
      here.world = some (answer, after)) :
    SessionInv hashToken (here.executed caller
      (.redis (.set (buildAccessTokenBlacklistKey jti) "1" accessTokenTtl)) fate answer after) := by
  obtain ⟨choice, rfl, -, rfl⟩ := executeAuth_redis ran
  have unwritten : ∀ userId, slotWrite userId ⟨caller, here.world,
      .redis (.set (buildAccessTokenBlacklistKey jti) "1" accessTokenTtl), .redis choice, answer⟩ =
        none := slotWrite_of_harmless fun _ => refreshTokenKey_ne_blacklist.symm
  obtain ⟨owners, once⟩ := inv.unstored unwritten
  obtain ⟨signed, makers⟩ := inv.unsigned (rfl : signedPair ⟨caller, here.world,
    .redis (.set (buildAccessTokenBlacklistKey jti) "1" accessTokenTtl), .redis choice, answer⟩ = none)
  refine ⟨?_, owners, once, signed, makers, inv.signedAccess, ?_⟩
  · intro userId kept found
    refine (lastWrite_of_unwritten (unwritten userId)).trans (inv.slots userId kept ?_)
    exact (execute_other _ refreshTokenKey_ne_blacklist).symm.trans found
  · intro other present revoked revokes
    have written : choice.effective = true → ∀ token ∈ here.world.issuedAccess,
        ∃ kept deadline, (RedisCommand.execute choice here.world.now here.world.redis
          (.set (buildAccessTokenBlacklistKey jti) "1" accessTokenTtl)).2
            (buildAccessTokenBlacklistKey jti) = some kept ∧
          kept.expiresAt = some deadline ∧ token.expiresAt ≤ deadline := by
      intro effective token issued
      refine ⟨⟨"1", some (here.world.now + accessTokenTtl)⟩, here.world.now + accessTokenTtl, ?_, rfl,
        (inv.signedAccess token issued).1⟩
      rw [execute_store, effective]
      exact write_same _
    rcases List.mem_cons.mp present with rfl | old
    · obtain ⟨same, fate, reached, effective⟩ := revokes
      simp only [AuthFate.redis.injEq] at reached
      subst reached
      obtain rfl : jti = revoked := by
        simp only [AuthCommand.redis.injEq, RedisCommand.set.injEq, and_true] at same
        exact blacklistKey_injective same
      exact ⟨used, fun token issued _ => written effective token issued⟩
    · obtain ⟨past, kept⟩ := inv.revoked other old revoked revokes
      refine ⟨past, fun token issued same => ?_⟩
      by_cases again : revoked = jti
      · subst again
        cases effective : choice.effective with
        | true => exact written effective token issued
        | false =>
            rw [execute_store, effective]
            exact kept token issued same
      · obtain ⟨entry, deadline, found, rest⟩ := kept token issued same
        refine ⟨entry, deadline, ?_, rest⟩
        exact (execute_other _ fun equal => again (blacklistKey_injective equal)).trans found

/-- What a call writes into a slot is the hash of a token that it has signed and stored nowhere. -/
theorem SessionInv.writes (inv : SessionInv hashToken here)
    (collisionFree : ∀ one two hash, hashToken one = .ok hash → hashToken two = .ok hash → one = two)
    {userId : UInt64} {command : RedisCommand} (key : command.key = buildRefreshTokenKey userId)
    (allowed : ∀ fate hash, command.wrote fate here.world.now here.world.redis = some (some hash) →
      Owns hashToken caller hash here ∧ Unstored caller here)
    {fate : AuthFate} {answer : Except ErrorCode command.Answer}
    (ran : executeAuth fate (.redis command) here.world = some (answer, after)) :
    SessionInv hashToken (here.executed caller (.redis command) fate answer after) := by
  obtain ⟨choice, rfl, -, rfl⟩ := executeAuth_redis ran
  have stores : ∀ hash, Stores hash ⟨caller, here.world, .redis command, .redis choice, answer⟩ →
      Owns hashToken caller hash here ∧ Unstored caller here := by
    rintro hash ⟨other, written⟩
    rw [slotWrite_redis] at written
    split at written
    · exact allowed choice hash written
    · cases written
  obtain ⟨signed, makers⟩ := inv.unsigned (rfl : signedPair ⟨caller, here.world,
    .redis command, .redis choice, answer⟩ = none)
  have unrevoked : ∀ jti, ¬ Revokes jti
      ⟨caller, here.world, .redis command, .redis choice, answer⟩ := by
    rintro jti ⟨same, -⟩
    simp only [AuthCommand.redis.injEq] at same
    rw [same] at key
    exact refreshTokenKey_ne_blacklist key.symm
  refine ⟨?_, ?_, ?_, signed, makers, inv.signedAccess, ?_⟩
  · intro other kept found
    change (command.execute choice here.world.now here.world.redis).2
      (buildRefreshTokenKey other) = some kept at found
    by_cases mine : other = userId
    · subst mine
      have value : ((command.execute choice here.world.now here.world.redis).2 command.key).map
          RedisEntry.value = (command.wrote choice here.world.now here.world.redis).getD
            ((here.world.redis command.key).map RedisEntry.value) := execute_key command
      simp only [key] at value
      rw [found] at value
      have write : slotWrite other ⟨caller, here.world, .redis command, .redis choice, answer⟩ =
          command.wrote choice here.world.now here.world.redis := by
        rw [slotWrite_redis, if_pos key]
      cases wrote : command.wrote choice here.world.now here.world.redis with
      | none =>
          rw [wrote] at value write
          obtain ⟨old, there, same⟩ := Option.map_eq_some_iff.mp value.symm
          refine (lastWrite_of_unwritten write).trans ?_
          rw [inv.slots other old there, same]
      | some written =>
          rw [wrote] at value write
          exact (lastWrite_of_written write).trans (congrArg some value.symm)
    · have different : command.key ≠ buildRefreshTokenKey other := fun same =>
        mine (refreshTokenKey_injective (same.symm.trans key))
      have unwritten : slotWrite other
          ⟨caller, here.world, .redis command, .redis choice, answer⟩ = none := by
        rw [slotWrite_redis, if_neg different]
      refine (lastWrite_of_unwritten unwritten).trans (inv.slots other kept ?_)
      exact (execute_other command (Ne.symm different)).symm.trans found
  · intro entry present hash stored
    rcases List.mem_cons.mp present with rfl | old
    · exact (stores hash stored).1.since (List.suffix_cons _ _)
    · exact (inv.owners entry old hash stored).since (List.suffix_cons _ _)
  · refine List.pairwise_cons.mpr ⟨fun older present hash stored again => ?_, inv.once⟩
    obtain ⟨⟨made, signing, mine, pair, signs, hashed⟩, unstored⟩ := stores hash stored
    obtain ⟨other, earlier, his, token, signed, equal⟩ := inv.owners older present hash again
    have callers := inv.makers made signing other earlier pair token signs signed
      (collisionFree _ _ hash hashed equal)
    exact unstored older present (his.symm.trans (callers.symm.trans mine)) hash again
  · intro entry present jti revokes
    rcases List.mem_cons.mp present with rfl | old
    · exact absurd revokes (unrevoked jti)
    · obtain ⟨used, kept⟩ := inv.revoked entry old jti revokes
      refine ⟨used, fun token issued same => ?_⟩
      obtain ⟨found, deadline, there, rest⟩ := kept token issued same
      refine ⟨found, deadline, ?_, rest⟩
      exact (execute_other command (key ▸ refreshTokenKey_ne_blacklist.symm)).trans there

/-- A store command that leaves the slots and the blacklist alone keeps the invariant. -/
theorem SessionInv.aside (inv : SessionInv hashToken here) (command : RedisCommand)
    (slots : ∀ userId, command.key ≠ buildRefreshTokenKey userId)
    (blacklist : ∀ choice jti, (command.execute choice here.world.now here.world.redis).2
      (buildAccessTokenBlacklistKey jti) = here.world.redis (buildAccessTokenBlacklistKey jti))
    (unrevoked : ∀ jti, command ≠ .set (buildAccessTokenBlacklistKey jti) "1" accessTokenTtl)
    {fate : AuthFate} {answer : Except ErrorCode command.Answer}
    (ran : executeAuth fate (.redis command) here.world = some (answer, after)) :
    SessionInv hashToken (here.executed caller (.redis command) fate answer after) := by
  obtain ⟨choice, rfl, -, rfl⟩ := executeAuth_redis ran
  apply inv.quiet
    { here.world with redis := (command.execute choice here.world.now here.world.redis).2 }
    ⟨caller, here.world, .redis command, .redis choice, answer⟩ rfl rfl rfl
    (fun userId => execute_other command (Ne.symm (slots userId))) (blacklist choice)
    (slotWrite_of_harmless slots) rfl
  rintro jti ⟨same, -⟩
  simp only [AuthCommand.redis.injEq] at same
  exact unrevoked jti same

theorem SessionInv.reads (inv : SessionInv hashToken here) {command : AuthCommand}
    (reads : command.Reads) {fate : AuthFate} {answer : command.Answer}
    (ran : executeAuth fate command here.world = some (answer, after)) :
    SessionInv hashToken (here.executed caller command fate answer after) := by
  obtain rfl := executeAuth_reads reads ran
  refine inv.quiet here.world ⟨caller, here.world, command, fate, answer⟩ rfl rfl rfl
    (fun _ => rfl) (fun _ => rfl) (slotWrite_of_harmless reads.harmless) ?_ ?_
  · cases command with
    | generateTokens => exact reads.elim
    | _ => rfl
  · rintro jti ⟨rfl, -⟩
    exact reads.elim

/-- Every command that its call may issue keeps the invariant. -/
theorem SessionInv.executed (inv : SessionInv hashToken here)
    (collisionFree : ∀ one two hash, hashToken one = .ok hash → hashToken two = .ok hash → one = two)
    {command : AuthCommand} (allowed : command.Allowed hashToken caller here) {fate : AuthFate}
    {answer : command.Answer} (ran : executeAuth fate command here.world = some (answer, after)) :
    SessionInv hashToken (here.executed caller command fate answer after) := by
  by_cases reads : command.Reads
  · exact inv.reads reads ran
  · cases command with
    | generateTokens user => exact inv.signs ran
    | upsertCached serverId jti expiresAt =>
        cases ran
        exact inv.quiet _ ⟨caller, here.world, .upsertCached serverId jti expiresAt, fate, ()⟩ rfl rfl
          rfl (fun _ => rfl) (fun _ => rfl) (fun _ => rfl) rfl fun _ revokes => by cases revokes.1
    | redis command =>
        cases command with
        | set key value ttl =>
            rcases allowed with ⟨userId, rfl, owns, unstored⟩ | ⟨jti, rfl, rfl, rfl, used⟩
            · refine inv.writes collisionFree rfl (fun choice hash wrote => ?_) ran
              simp only [RedisCommand.wrote, Option.ite_none_right_eq_some, Option.some.injEq] at wrote
              exact wrote.2 ▸ ⟨owns, unstored⟩
            · exact inv.revokes used ran
        | compareAndSwap key expected newValue ttl =>
            obtain ⟨userId, rfl, owns, unstored⟩ := allowed
            refine inv.writes collisionFree rfl (fun choice hash wrote => ?_) ran
            simp only [RedisCommand.wrote, Option.ite_none_right_eq_some, Option.some.injEq] at wrote
            exact wrote.2 ▸ ⟨owns, unstored⟩
        | delete key =>
            rcases allowed with ⟨userId, rfl⟩ | ⟨address, rfl⟩
            · refine inv.writes collisionFree rfl (fun choice hash wrote => ?_) ran
              simp [RedisCommand.wrote] at wrote
            · exact inv.aside (.delete _) (fun _ => refreshTokenKey_ne_rateLimit.symm)
                (fun _ _ => execute_other _ blacklistKey_ne_rateLimit) (fun _ same => by cases same) ran
        | incrWithExpire key ttl =>
            obtain ⟨address, rfl⟩ := allowed
            exact inv.aside (.incrWithExpire _ ttl) (fun _ => refreshTokenKey_ne_rateLimit.symm)
              (fun _ _ => execute_other _ blacklistKey_ne_rateLimit) (fun _ same => by cases same) ran
        | existsKey key =>
            obtain ⟨jti, rfl⟩ := allowed
            refine inv.aside (.existsKey _) (fun _ => refreshTokenKey_ne_blacklist.symm)
              (fun choice other => ?_) (fun _ same => by cases same) ran
            cases choice <;> rfl
        | get | incr => exact allowed.elim
    | _ => exact absurd trivial reads

/-- Time and the caches touch nothing that the invariant speaks of. -/
theorem SessionInv.happen (inv : SessionInv hashToken here) (event : AuthEvent) :
    SessionInv hashToken { here with world := event.happen here.world } ∧
      here.world.Later (event.happen here.world) := by
  cases event with
  | tick seconds =>
      refine ⟨⟨inv.slots, inv.owners, inv.once, inv.signed, inv.makers, fun token issued => ?_,
        inv.revoked⟩, Nat.le_add_right _ _, List.Subset.refl _, List.Subset.refl _⟩
      obtain ⟨bound, subject⟩ := inv.signedAccess token issued
      refine ⟨?_, subject⟩
      change token.expiresAt ≤ here.world.now + seconds + accessTokenTtl
      omega
  | evictExpired serverId =>
      exact ⟨⟨inv.slots, inv.owners, inv.once, inv.signed, inv.makers, inv.signedAccess, inv.revoked⟩,
        Nat.le_refl _, List.Subset.refl _, List.Subset.refl _⟩
  | replaceCache serverId cache =>
      exact ⟨⟨inv.slots, inv.owners, inv.once, inv.signed, inv.makers, inv.signedAccess, inv.revoked⟩,
        Nat.le_refl _, List.Subset.refl _, List.Subset.refl _⟩

end Invariant

section Routines

variable {hashToken : String → Except ErrorCode String}
  (collisionFree : ∀ one two hash, hashToken one = .ok hash → hashToken two = .ok hash → one = two)
  {here there started : AuthMoment} {caller serverId : Nat} {Result : Type}
  {post : Result → AuthMoment → Prop}

theorem since_executed (caller : Nat) {command : AuthCommand} {fate : AuthFate}
    {answer : command.Answer} {after : SessionWorld} (ran : executeAuth fate command here.world = some (answer, after)) :
    (sessionContract hashToken).Since here (here.executed caller command fate answer after) :=
  ⟨executeAuth_later ran, List.suffix_cons _ _⟩

include collisionFree in
/-- A command that its call may issue is followed by the rest of the routine. -/
theorem safe_step {command : AuthCommand} {next : command.Answer → AuthRoutine Result}
    (allowed : ∀ there, (sessionContract hashToken).Foreign caller here there →
      SessionInv hashToken there → command.Allowed hashToken caller there)
    (rest : ∀ there fate answer after, (sessionContract hashToken).Foreign caller here there →
      SessionInv hashToken there → executeAuth fate command there.world = some (answer, after) →
      SessionInv hashToken (there.executed caller command fate answer after) →
      (sessionContract hashToken).Since here (there.executed caller command fate answer after) →
      (sessionContract hashToken).Safe authMachine caller post (next answer)
        (there.executed caller command fate answer after)) :
    (sessionContract hashToken).Safe authMachine caller post (askAuth command >>= next) here := by
  apply Contract.safe_ask
  intro there foreign inv fate answer after ran
  have kept := inv.executed collisionFree (allowed there foreign inv) ran
  have since := foreign.since.trans (since_executed caller ran)
  exact ⟨kept, executeAuth_later ran, rest there fate answer after foreign inv ran kept since⟩

theorem AuthCommand.Reads.allowed {command : AuthCommand} (reads : command.Reads) :
    command.Allowed hashToken caller here := by
  cases command with
  | redis => exact reads.elim
  | _ => trivial

include collisionFree in
/-- A routine may end with a command. -/
theorem safe_last {command : AuthCommand} {post : command.Answer → AuthMoment → Prop}
    (allowed : ∀ there, (sessionContract hashToken).Foreign caller here there →
      SessionInv hashToken there → command.Allowed hashToken caller there)
    (rest : ∀ there fate answer after, (sessionContract hashToken).Foreign caller here there →
      SessionInv hashToken there → executeAuth fate command there.world = some (answer, after) →
      ∀ last, (sessionContract hashToken).Foreign caller
        (there.executed caller command fate answer after) last → post answer last) :
    (sessionContract hashToken).Safe authMachine caller post (askAuth command) here := by
  change (sessionContract hashToken).Safe authMachine caller post (askAuth command >>= pure) here
  apply safe_step collisionFree allowed
  intro there fate answer after foreign inv ran _ _ last later _
  exact rest there fate answer after foreign inv ran last later

include collisionFree in
/-- A harmless command leaves its call without a stored token. -/
theorem safe_harmless {command : AuthCommand} {next : command.Answer → AuthRoutine Result}
    (unstored : Unstored caller here) (harmless : command.Harmless)
    (allowed : ∀ there, command.Allowed hashToken caller there)
    (rest : ∀ answer there, SessionInv hashToken there → Unstored caller there →
      (sessionContract hashToken).Safe authMachine caller post (next answer) there) :
    (sessionContract hashToken).Safe authMachine caller post (askAuth command >>= next) here := by
  apply safe_step collisionFree (fun there _ _ => allowed there)
  intro there fate answer after foreign _ _ inv _
  exact rest answer _ inv ((unstored.foreign foreign).executed harmless)

include collisionFree in
theorem safe_reads {command : AuthCommand} {next : command.Answer → AuthRoutine Result}
    (unstored : Unstored caller here) (reads : command.Reads)
    (rest : ∀ answer there, SessionInv hashToken there → Unstored caller there →
      (sessionContract hashToken).Safe authMachine caller post (next answer) there) :
    (sessionContract hashToken).Safe authMachine caller post (askAuth command >>= next) here :=
  safe_harmless collisionFree unstored reads.harmless (fun _ => reads.allowed) rest

theorem safe_pure {result : Result} (holds : ∀ there,
      (sessionContract hashToken).Foreign caller here there → SessionInv hashToken there →
      post result there) :
    (sessionContract hashToken).Safe authMachine caller post (pure result) here :=
  Contract.safe_done holds

theorem owns_of_signed {user : UserRow} {fate : AuthFate} {pair : AccessToken × RefreshToken}
    {after : SessionWorld} {hash : String} (hashed : hashToken pair.2.jti = .ok hash) :
    Owns hashToken caller hash (here.executed caller (.generateTokens user) fate pair after) :=
  ⟨_, List.mem_cons_self, rfl, pair, rfl, hashed⟩

include collisionFree in
theorem storeRefreshToken_safe {userId : UInt64} {token : String} (unstored : Unstored caller here)
    (owns : ∀ hash, hashToken token = .ok hash → Owns hashToken caller hash here) :
    (sessionContract hashToken).Safe authMachine caller (fun _ _ => True)
      (storeRefreshToken hashToken userId token) here := by
  unfold storeRefreshToken
  split
  · exact safe_pure fun _ _ _ => trivial
  · rename_i hash hashed
    apply safe_last collisionFree
    · intro there foreign _
      exact .inl ⟨userId, rfl, (owns hash hashed).since foreign.since.2, unstored.foreign foreign⟩
    · intro there fate answer after _ _ _ last _
      trivial

include collisionFree in
theorem updateLogin_safe {userId : UInt64} {address : String} (unstored : Unstored caller here) :
    (sessionContract hashToken).Safe authMachine caller (fun _ => Unstored caller)
      (updateLogin userId address) here := by
  unfold updateLogin
  apply safe_reads collisionFree unstored
  · trivial
  · intro answer there _ unstored
    cases answer with
    | error code => exact safe_pure fun _ foreign _ => unstored.foreign foreign
    | ok =>
        apply safe_harmless collisionFree unstored
        · exact fun _ => refreshTokenKey_ne_rateLimit.symm
        · exact fun _ => .inr ⟨address, rfl⟩
        · intro _ last _ unstored
          exact safe_pure fun _ foreign _ => unstored.foreign foreign

include collisionFree in
/-- A login stores at most the one token that it has signed. -/
theorem login_safe {account password address : String} (unstored : Unstored caller here) :
    (sessionContract hashToken).Safe authMachine caller (fun _ _ => True)
      (login hashToken account password address) here := by
  unfold login
  apply safe_harmless collisionFree unstored
  · exact fun _ => refreshTokenKey_ne_rateLimit.symm
  · exact fun _ => ⟨address, rfl⟩
  intro counted there _ unstored
  split
  · exact safe_pure fun _ _ _ => trivial
  apply safe_reads collisionFree unstored
  · trivial
  intro answer there _ unstored
  cases answer with
  | error code => exact safe_pure fun _ _ _ => trivial
  | ok user =>
    apply safe_reads collisionFree unstored
    · trivial
    intro answer there _ unstored
    cases answer with
    | error code => exact safe_pure fun _ _ _ => trivial
    | ok =>
      apply safe_reads collisionFree unstored
      · trivial
      intro answer there inv unstored
      split
      · apply Contract.safe_bind inv (updateLogin_safe collisionFree unstored)
        intro answer there _ _ unstored
        cases answer with
        | error code => exact safe_pure fun _ _ _ => trivial
        | ok =>
          apply safe_step collisionFree
          · exact fun _ _ _ => trivial
          intro there fate pair after foreign _ _ inv _
          have unstored : Unstored caller
              (there.executed caller (.generateTokens user) fate pair after) :=
            (unstored.foreign foreign).executed trivial
          apply Contract.safe_bind inv
            (storeRefreshToken_safe collisionFree unstored fun _ hashed => owns_of_signed hashed)
          intro _ _ _ _ _
          exact safe_pure fun _ _ _ => trivial
      · apply safe_reads collisionFree unstored
        · trivial
        intro answer there _ _
        cases answer with
        | error code => exact safe_pure fun _ _ _ => trivial
        | ok => exact safe_pure fun _ _ _ => trivial

/-- The refresh token was signed for the user. -/
def SignedFor (userId : UInt64) (token : String) (world : SessionWorld) : Prop :=
  ∃ issued ∈ world.issuedRefresh, issued.jti = token ∧ issued.userId = userId

/-- The call has exchanged the token in the slot of its user for a new one, and the old one was what the
latest write into the slot had left there. -/
def Exchanged (hashToken : String → Except ErrorCode String) (caller : Nat) (token newToken : String)
    (here : AuthMoment) : Prop :=
  ∃ userId oldHash newHash newer swap older, SignedFor userId token here.world ∧
    here.trace = newer ++ swap :: older ∧
    swap.caller = caller ∧ hashToken token = .ok oldHash ∧ hashToken newToken = .ok newHash ∧
    slotWrite userId swap = some (some newHash) ∧ lastWrite userId older = some (some oldHash)

theorem Exchanged.since {token newToken : String}
    (exchanged : Exchanged hashToken caller token newToken here)
    (later : (sessionContract hashToken).Since here there) :
    Exchanged hashToken caller token newToken there := by
  obtain ⟨userId, oldHash, newHash, newer, swap, older, ⟨issued, signed, his⟩, split, rest⟩ := exchanged
  obtain ⟨added, same⟩ := later.2
  exact ⟨userId, oldHash, newHash, added ++ newer, swap, older, ⟨issued, later.1.2.2 signed, his⟩, by
    rw [← same, split, List.append_assoc], rest⟩

theorem verifyRefreshToken_signed {world : SessionWorld} {token : String} {userId : UInt64}
    (verified : world.verifyRefreshToken token = .ok userId) : SignedFor userId token world := by
  unfold SessionWorld.verifyRefreshToken at verified
  split at verified
  · rename_i issued found
    split at verified
    · cases verified
    · cases verified
      exact ⟨issued, List.mem_of_find?_eq_some found, by simpa using List.find?_some found, rfl⟩
  · split at verified
    · cases verified
    · cases verified

include collisionFree in
theorem refreshRefreshToken_safe {userId : UInt64} {token newToken : String}
    (unstored : Unstored caller here) (signed : SignedFor userId token here.world)
    (owns : ∀ hash, hashToken newToken = .ok hash → Owns hashToken caller hash here) :
    (sessionContract hashToken).Safe authMachine caller
      (fun result there => result = .ok () → Exchanged hashToken caller token newToken there)
      (refreshRefreshToken hashToken userId token newToken) here := by
  unfold refreshRefreshToken
  split
  · exact safe_pure fun _ _ _ failed => by cases failed
  rename_i oldHash oldHashed
  split
  · exact safe_pure fun _ _ _ failed => by cases failed
  rename_i newHash newHashed
  apply safe_step collisionFree
  · intro there foreign _
    exact ⟨userId, rfl, (owns newHash newHashed).since foreign.since.2, unstored.foreign foreign⟩
  intro there fate answer after foreign inv ran _ since
  obtain ⟨choice, rfl, answered, -⟩ := executeAuth_redis ran
  cases answer with
  | error code => exact safe_pure fun _ _ _ failed => by cases failed
  | ok swapped =>
    cases swapped with
    | false => exact safe_pure fun _ _ _ failed => by cases failed
    | true =>
      obtain ⟨⟨entry, found, value⟩, wrote⟩ := compareAndSwap_ok answered.symm
      have latest := inv.slots userId entry found
      rw [value] at latest
      have written : slotWrite userId ⟨caller, there.world, .redis (.compareAndSwap
          (buildRefreshTokenKey userId) oldHash newHash refreshTokenTtl), .redis choice, .ok true⟩ =
            some (some newHash) := (if_pos rfl).trans wrote
      obtain ⟨issued, present, his⟩ := signed
      apply safe_pure
      intro last later _ _
      exact Exchanged.since ⟨userId, oldHash, newHash, [], _, there.trace,
        ⟨issued, since.1.2.2 present, his⟩, rfl, rfl, oldHashed, newHashed, written, latest⟩ later.since

include collisionFree in
theorem refreshTokens_safe {token : String} (unstored : Unstored caller here) :
    (sessionContract hashToken).Safe authMachine caller
      (fun result there => ∀ pair, result = .ok pair →
        Exchanged hashToken caller token pair.2.jti there)
      (refreshTokens hashToken token) here := by
  unfold refreshTokens
  apply safe_step collisionFree
  · exact fun _ _ _ => trivial
  intro there fate answer after foreign _ ran _ _
  have unstored : Unstored caller (there.executed caller (.verifyRefreshToken token) fate answer after) :=
    (unstored.foreign foreign).executed trivial
  cases answer with
  | error code => exact safe_pure fun _ _ _ _ failed => by cases failed
  | ok userId =>
    have verified : there.world.verifyRefreshToken token = .ok userId :=
      congrArg Prod.fst (Option.some_inj.mp ran)
    obtain ⟨issued, signed, his⟩ : SignedFor userId token after := by
      have reads : (AuthCommand.verifyRefreshToken token).Reads := trivial
      rw [executeAuth_reads reads ran]
      exact verifyRefreshToken_signed verified
    apply safe_step collisionFree
    · exact fun _ _ _ => trivial
    intro there fate answer after foreign _ ran _ second
    have unstored : Unstored caller (there.executed caller (.findOne userId) fate answer after) :=
      (unstored.foreign foreign).executed trivial
    cases answer with
    | error code => exact safe_pure fun _ _ _ _ failed => by cases failed
    | ok user =>
      have own : user.id = userId := executeAuth_findOne ran
      apply safe_step collisionFree
      · exact fun _ _ _ => trivial
      intro there fate answer after foreign _ _ _ third
      have unstored : Unstored caller
          (there.executed caller (.validateAccountAccess userId) fate answer after) :=
        (unstored.foreign foreign).executed trivial
      cases answer with
      | error code => exact safe_pure fun _ _ _ _ failed => by cases failed
      | ok =>
        apply safe_step collisionFree
        · exact fun _ _ _ => trivial
        intro there fate pair after foreign _ _ inv fourth
        have unstored : Unstored caller
            (there.executed caller (.generateTokens user) fate pair after) :=
          (unstored.foreign foreign).executed trivial
        have kept := (second.trans (third.trans fourth)).1.2.2 signed
        apply Contract.safe_bind inv
          (refreshRefreshToken_safe collisionFree unstored ⟨issued, kept, his.1, his.2.trans own.symm⟩
            fun _ hashed => owns_of_signed hashed)
        intro result last _ _ exchanged
        cases result with
        | error code => exact safe_pure fun _ _ _ _ failed => by cases failed
        | ok =>
          apply safe_pure
          intro latest later _ other same
          cases same
          exact (exchanged rfl).since later.since

/-- Every token that was revoked by then has run out by now. -/
def Outlived (jti : String) (started now : AuthMoment) : Prop :=
  ∀ entry ∈ started.trace, Revokes jti entry → ∀ token ∈ started.world.issuedAccess,
    token.payload.jti = jti → token.expiresAt < now.world.now

theorem Outlived.since {jti : String} (outlived : Outlived jti started here)
    (later : (sessionContract hashToken).Since here there) : Outlived jti started there :=
  fun entry present revokes token issued same =>
    Nat.lt_of_lt_of_le (outlived entry present revokes token issued same) later.1.1

/-- The access token was signed for the user. -/
def AccessFor (userId : UInt64) (token : String) (world : SessionWorld) : Prop :=
  ∃ issued ∈ world.issuedAccess, issued.payload.jti = token ∧ issued.userId = userId

/-- The claims of a verified token name the token and its user. -/
theorem SessionInv.verified (inv : SessionInv hashToken here) {token : String} {claims : AccessTokenClaims}
    (verified : verifyAccessToken here.world.decodeAccess token = .ok claims) :
    claims.jti = token ∧ AccessFor (UInt64.ofNat claims.userId) token here.world := by
  unfold verifyAccessToken at verified
  split at verified
  · cases verified
  · cases verified
  · cases verified
  · rename_i payload decoded
    split at verified
    · cases verified
    · rename_i access
      obtain ⟨issued, present, rfl, known⟩ : ∃ issued ∈ here.world.issuedAccess,
          issued.payload = payload ∧ issued.payload.jti = token := by
        unfold SessionWorld.decodeAccess at decoded
        split at decoded
        · rename_i issued found
          split at decoded
          · cases decoded
          · cases decoded
            exact ⟨issued, List.mem_of_find?_eq_some found, rfl, by simpa using List.find?_some found⟩
        · split at decoded
          · split at decoded
            · cases decoded
            · cases decoded
              have refresh : "refresh" ≠ "access" := by decide
              exact absurd refresh access
          · cases decoded
      obtain ⟨length, number⟩ := stoull_toString issued.userId.toNat_lt
      rw [(inv.signedAccess issued present).2, number] at verified
      cases verified
      exact ⟨known, issued, present, known, (UInt64.ofNat_toNat).symm⟩

include collisionFree in
/-- The store reports a revoked token as missing only when the token has run out. -/
theorem isAccessTokenRevoked_safe {jti : String} (started : AuthMoment)
    (since : (sessionContract hashToken).Since started here) :
    (sessionContract hashToken).Safe authMachine caller
      (fun result there => result = .ok false → Outlived jti started there)
      (isAccessTokenRevoked serverId jti) here := by
  unfold isAccessTokenRevoked
  apply safe_step collisionFree
  · exact fun _ _ _ => trivial
  intro _ _ now _ _ _ _ _ first
  apply safe_step collisionFree
  · exact fun _ _ _ => trivial
  intro _ _ cached _ _ _ _ _ second
  split
  · exact safe_pure fun _ _ _ revoked => by cases revoked
  apply safe_step collisionFree
  · exact fun _ _ _ => ⟨jti, rfl⟩
  intro there fate answer after foreign inv ran _ _
  have arrived := since.trans (first.trans (second.trans foreign.since))
  obtain ⟨choice, rfl, answered, rfl⟩ := executeAuth_redis ran
  cases answer with
  | error code => exact safe_pure fun _ _ _ failed => by cases failed
  | ok present =>
    cases present with
    | true =>
      apply safe_step collisionFree
      · exact fun _ _ _ => trivial
      intro _ _ _ _ _ _ _ _ _
      exact safe_pure fun _ _ _ revoked => by cases revoked
    | false =>
      have outlived : Outlived jti started there := by
        intro entry present revokes token issued same
        obtain ⟨-, kept⟩ := inv.revoked entry (arrived.2.subset present) jti revokes
        obtain ⟨found, deadline, stored, expires, bound⟩ := kept token (arrived.1.2.1 issued) same
        exact Nat.lt_of_le_of_lt bound (existsKey_false answered.symm stored expires)
      apply safe_pure
      intro latest later _ _
      exact outlived.since ((since_executed caller ran).trans later.since)

include collisionFree in
theorem authenticate_safe {token : String} :
    (sessionContract hashToken).Safe authMachine caller
      (fun result there => ∀ claims, result = .ok claims → Outlived token here there ∧
        AccessFor (UInt64.ofNat claims.userId) token there.world)
      (authenticate serverId token) here := by
  unfold authenticate
  apply safe_step collisionFree
  · exact fun _ _ _ => trivial
  intro there fate answer after _ inv ran kept since
  cases answer with
  | error code => exact safe_pure fun _ _ _ _ failed => by cases failed
  | ok claims =>
    have verified : verifyAccessToken there.world.decodeAccess token = .ok claims :=
      congrArg Prod.fst (Option.some_inj.mp ran)
    obtain ⟨same, issued, present, his⟩ := inv.verified verified
    have passed := (executeAuth_later ran).2.1 present
    apply Contract.safe_bind kept (isAccessTokenRevoked_safe collisionFree here since)
    intro answer last _ reached outlived
    cases answer with
    | error code => exact safe_pure fun _ _ _ _ failed => by cases failed
    | ok revoked =>
      cases revoked with
      | true => exact safe_pure fun _ _ _ _ failed => by cases failed
      | false =>
        rw [same] at outlived
        apply safe_pure
        intro latest later _ _ claimed
        cases claimed
        exact ⟨(outlived rfl).since later.since, issued, later.1.2.1 (reached.1.2.1 passed), his⟩

/-- The call has put the access token on the blacklist. -/
def Revoked (caller : Nat) (token : String) (here : AuthMoment) : Prop :=
  ∃ entry ∈ here.trace, entry.caller = caller ∧ Revokes token entry

theorem Revoked.since {token : String} (revoked : Revoked caller token here)
    (grown : here.trace <:+ there.trace) : Revoked caller token there := by
  obtain ⟨entry, present, rest⟩ := revoked
  exact ⟨entry, grown.subset present, rest⟩

include collisionFree in
theorem invalidateAccessToken_safe {token : String} :
    (sessionContract hashToken).Safe authMachine caller
      (fun result there => result = .ok () → Revoked caller token there)
      (invalidateAccessToken serverId token) here := by
  unfold invalidateAccessToken
  apply safe_step collisionFree
  · exact fun _ _ _ => trivial
  intro there fate answer after _ _ ran _ _
  cases answer with
  | error code => exact safe_pure fun _ _ _ failed => by cases failed
  | ok jti =>
    have read : there.world.extractJti token = .ok jti := congrArg Prod.fst (Option.some_inj.mp ran)
    obtain ⟨used, rfl⟩ : token ∈ there.world.usedJtis ∧ token = jti := by
      unfold SessionWorld.extractJti at read
      split at read
      · rename_i used
        cases read
        exact ⟨List.contains_iff_mem.mp used, rfl⟩
      · cases read
    apply safe_step collisionFree
    · intro last foreign _
      exact .inr ⟨token, rfl, rfl, rfl,
        ((since_executed caller ran).trans foreign.since).1.usedJtis used⟩
    intro last fate answer after _ _ ran _ _
    obtain ⟨choice, rfl, answered, -⟩ := executeAuth_redis ran
    cases answer with
    | error code => exact safe_pure fun _ _ _ failed => by cases failed
    | ok =>
      have effective : choice.effective = true := by
        cases choice with
        | done => rfl
        | failed => cases answered
        | lost => cases answered
      have revoked : Revoked caller token (last.executed caller
          (.redis (.set (buildAccessTokenBlacklistKey token) "1" accessTokenTtl)) (.redis choice)
          (.ok ()) after) :=
        ⟨_, List.mem_cons_self, rfl, rfl, choice, rfl, effective⟩
      apply safe_step collisionFree
      · exact fun _ _ _ => trivial
      intro _ _ now _ _ _ _ _ first
      apply safe_step collisionFree
      · exact fun _ _ _ => trivial
      intro _ _ _ _ _ _ _ _ second
      exact safe_pure fun _ later _ _ =>
        revoked.since (first.trans (second.trans later.since)).2

/-- The call has asked the store to delete the slot of the user of the access token. -/
def DeletesSlot (caller : Nat) (token : String) (here : AuthMoment) : Prop :=
  ∃ userId, AccessFor userId token here.world ∧ ∃ entry ∈ here.trace, entry.caller = caller ∧
    entry.command = .redis (.delete (buildRefreshTokenKey userId)) ∧
    ∃ fate : RedisFate, entry.fate = .redis fate ∧
      slotWrite userId entry = if fate.effective then some none else none

include collisionFree in
theorem logout_safe {token : String} (inv : SessionInv hashToken here) :
    (sessionContract hashToken).Safe authMachine caller
      (fun result there => result = .ok () → Revoked caller token there ∧ DeletesSlot caller token there)
      (logout serverId token) here := by
  unfold logout
  apply Contract.safe_bind inv (authenticate_safe collisionFree)
  intro answer there inv _ authenticated
  cases answer with
  | error code => exact safe_pure fun _ _ _ failed => by cases failed
  | ok claims =>
    obtain ⟨-, issued, present, his⟩ := authenticated claims rfl
    apply Contract.safe_bind inv (invalidateAccessToken_safe collisionFree)
    intro answer last _ passed revoked
    cases answer with
    | error code => exact safe_pure fun _ _ _ failed => by cases failed
    | ok =>
      apply safe_step collisionFree
      · exact fun _ _ _ => .inl ⟨_, rfl⟩
      intro moment fate answer after _ _ ran _ since
      obtain ⟨choice, rfl, -, -⟩ := executeAuth_redis ran
      apply safe_pure
      intro latest later _ _
      refine ⟨(revoked rfl).since (since.trans later.since).2, UInt64.ofNat claims.userId,
        ⟨issued, later.1.2.1 (since.1.2.1 (passed.1.2.1 present)), his⟩, _,
        later.since.2.subset List.mem_cons_self, rfl, rfl, choice, rfl, if_pos rfl⟩

end Routines

section Guarantees

variable {hashToken : String → Except ErrorCode String} {here : AuthMoment} {first second : Nat}
  {token newToken otherToken : String}

/-- Two entries that store one hash are one entry. -/
theorem SessionInv.store_once (inv : SessionInv hashToken here) {newer older : List AuthEntry}
    {entry other : AuthEntry} {hash : String} (split : here.trace = newer ++ entry :: older)
    (stores : Stores hash entry) (present : other ∈ older) : ¬ Stores hash other := by
  have pairs := inv.once
  rw [split] at pairs
  have later := (List.pairwise_append.mp pairs).2.1
  exact (List.pairwise_cons.mp later).1 other present hash stores

/-- An entry writes into the slot of one user. -/
theorem slotWrite_user {entry : AuthEntry} {userId otherId : UInt64} {one two : Option String}
    (wrote : slotWrite userId entry = some one) (again : slotWrite otherId entry = some two) :
    userId = otherId := by
  obtain ⟨caller, before, command, fate, answer⟩ := entry
  cases command with
  | redis command =>
      cases fate with
      | redis choice =>
          rw [slotWrite_redis, Option.ite_none_right_eq_some] at wrote again
          exact refreshTokenKey_injective (wrote.1.symm.trans again.1)
      | _ => cases wrote
  | _ => cases wrote

/-- A token that was taken out of its slot by a later write is not in a slot again. -/
theorem SessionInv.exchange_once (inv : SessionInv hashToken here) {userId otherId : UInt64}
    {hash : String} {removed : Option String} {newer middle older : List AuthEntry}
    {late early source : AuthEntry}
    (split : here.trace = newer ++ late :: (middle ++ early :: older))
    (kept : lastWrite userId (middle ++ early :: older) = some (some hash))
    (overwritten : slotWrite otherId early = some removed)
    (inside : source ∈ older) (wrote : slotWrite otherId source = some (some hash)) : False := by
  obtain ⟨silent, latest, tail, divided, written, quiet⟩ := List.findSome?_eq_some_iff.mp kept
  have whole : here.trace = (newer ++ late :: silent) ++ latest :: tail := by
    rw [split, divided, List.append_assoc, List.cons_append]
  have absent : source ∉ tail := fun present =>
    inv.store_once whole ⟨userId, written⟩ present ⟨otherId, wrote⟩
  rcases List.append_eq_append_iff.mp divided with ⟨gap, longer, shorter⟩ | ⟨gap, -, shorter⟩
  · cases gap with
    | nil =>
        obtain ⟨-, rfl⟩ := List.cons.inj shorter
        exact absent inside
    | cons head gap =>
        obtain ⟨rfl, rfl⟩ := List.cons.inj shorter
        rcases List.mem_append.mp inside with present | present
        · obtain ⟨left, right, rfl⟩ := List.append_of_mem present
          have ordered : here.trace = (newer ++ late :: (middle ++ early :: left)) ++
              source :: (right ++ latest :: tail) := by
            rw [split]
            simp
          exact inv.store_once ordered ⟨otherId, wrote⟩
            (List.mem_append_right _ List.mem_cons_self) ⟨userId, written⟩
        · rcases List.mem_cons.mp present with rfl | present
          · have silenced : slotWrite userId early = none := quiet early (by
              rw [longer]
              exact List.mem_append_right _ List.mem_cons_self)
            rw [slotWrite_user written wrote, overwritten] at silenced
            cases silenced
          · exact absent present
  · cases gap with
    | nil =>
        obtain ⟨-, rfl⟩ := List.cons.inj shorter
        exact absent inside
    | cons head gap =>
        obtain ⟨-, rfl⟩ := List.cons.inj shorter
        exact absent (List.mem_append_right _ (List.mem_cons_of_mem _ inside))

theorem source_of_lastWrite {userId : UInt64} {trace : List AuthEntry} {written : Option String}
    (kept : lastWrite userId trace = some written) :
    ∃ source ∈ trace, slotWrite userId source = some written := by
  obtain ⟨past, source, rest, rfl, wrote, -⟩ := List.findSome?_eq_some_iff.mp kept
  exact ⟨source, List.mem_append_right _ List.mem_cons_self, wrote⟩

/-- Two exchanges of one token are the same call. -/
theorem Exchanged.unique (inv : SessionInv hashToken here)
    (one : Exchanged hashToken first token newToken here)
    (two : Exchanged hashToken second token otherToken here) : first = second := by
  obtain ⟨userId, hash, newHash, newer, late, older, -, split, rfl, hashed, -, wrote, kept⟩ := one
  obtain ⟨otherId, same, otherHash, fresher, early, past, -, parted, rfl, again, -, written, before⟩ := two
  obtain rfl : hash = same := Except.ok.inj (hashed.symm.trans again)
  rcases List.append_eq_append_iff.mp (split.symm.trans parted) with
    ⟨gap, -, shorter⟩ | ⟨gap, -, shorter⟩
  · cases gap with
    | nil =>
        obtain ⟨rfl, -⟩ := List.cons.inj shorter
        rfl
    | cons head gap =>
        obtain ⟨rfl, rfl⟩ := List.cons.inj shorter
        obtain ⟨source, inside, stored⟩ := source_of_lastWrite before
        exact (inv.exchange_once split kept written inside stored).elim
  · cases gap with
    | nil =>
        obtain ⟨rfl, -⟩ := List.cons.inj shorter
        rfl
    | cons head gap =>
        obtain ⟨rfl, rfl⟩ := List.cons.inj shorter
        obtain ⟨source, inside, stored⟩ := source_of_lastWrite kept
        exact (inv.exchange_once parted before wrote inside stored).elim

/-- A token that was in the slot before a deletion was exchanged before it or not at all. -/
theorem Exchanged.before_deletion (inv : SessionInv hashToken here)
    (exchanged : Exchanged hashToken first token newToken here) {userId : UInt64} {hash : String}
    {newer older : List AuthEntry} {deletion source : AuthEntry}
    (split : here.trace = newer ++ deletion :: older) (deleted : slotWrite userId deletion = some none)
    (inside : source ∈ older) (stored : slotWrite userId source = some (some hash))
    (hashed : hashToken token = .ok hash) :
    ∃ swap ∈ older, swap.caller = first ∧ ∃ newHash, hashToken newToken = .ok newHash ∧
      slotWrite userId swap = some (some newHash) := by
  obtain ⟨otherId, same, newHash, fresher, swap, past, -, parted, mine, again, renewed, wrote, kept⟩ :=
    exchanged
  obtain rfl : hash = same := Except.ok.inj (hashed.symm.trans again)
  have slot : otherId = userId := by
    obtain ⟨latest, present, written⟩ := source_of_lastWrite kept
    have one : latest ∈ here.trace := by
      rw [parted]
      exact List.mem_append_right _ (List.mem_cons_of_mem _ present)
    have two : source ∈ here.trace := by
      rw [split]
      exact List.mem_append_right _ (List.mem_cons_of_mem _ inside)
    by_contra different
    have apart : latest ≠ source := by
      rintro rfl
      exact different (slotWrite_user written stored)
    have : Std.Symm fun newer older : AuthEntry => ∀ hash, Stores hash newer → ¬ Stores hash older :=
      ⟨fun _ _ silent other wrote again => silent other again wrote⟩
    exact inv.once.forall one two apart hash ⟨otherId, written⟩ ⟨userId, stored⟩
  subst slot
  rcases List.append_eq_append_iff.mp (split.symm.trans parted) with
    ⟨gap, -, shorter⟩ | ⟨gap, -, shorter⟩
  · cases gap with
    | nil =>
        obtain ⟨rfl, -⟩ := List.cons.inj shorter
        rw [deleted] at wrote
        cases wrote
    | cons head gap =>
        obtain ⟨rfl, rfl⟩ := List.cons.inj shorter
        exact ⟨swap, List.mem_append_right _ List.mem_cons_self, mine, newHash, renewed, wrote⟩
  · cases gap with
    | nil =>
        obtain ⟨rfl, -⟩ := List.cons.inj shorter
        rw [deleted] at wrote
        cases wrote
    | cons head gap =>
        obtain ⟨rfl, rfl⟩ := List.cons.inj shorter
        exact (inv.exchange_once parted kept deleted inside stored).elim

/-- What each finished call has established. -/
def SessionPost (hashToken : String → Except ErrorCode String) (request : AuthRequest) (caller : Nat)
    (started : AuthMoment) (result : AuthResult) (here : AuthMoment) : Prop :=
  match request, result with
  | .refreshTokens token, .tokens (.ok pair) => Exchanged hashToken caller token pair.2.jti here
  | .logout _ token, .unit (.ok ()) => Revoked caller token here ∧ DeletesSlot caller token here
  | .authenticate _ token, .claims (.ok _) => Outlived token started here
  | _, _ => True

/-- Every call respects the contract whatever the others do. -/
theorem sessions_fulfilled
    (collisionFree : ∀ one two hash, hashToken one = .ok hash → hashToken two = .ok hash → one = two) :
    (sessionContract hashToken).Fulfilled authMachine (authProgram hashToken)
      (SessionPost hashToken) where
  events := fun event here inv => SessionInv.happen inv event
  programs := by
    intro request caller here inv unused
    have unstored : Unstored caller here := fun entry present mine => absurd mine (unused entry present)
    cases request with
    | login account password address =>
        exact Contract.safe_map ((login_safe collisionFree unstored).mono fun _ _ _ _ => trivial)
    | refreshTokens token =>
        apply Contract.safe_map
        apply (refreshTokens_safe collisionFree unstored).mono
        intro result there _ exchanged
        cases result with
        | error code => trivial
        | ok pair => exact exchanged pair rfl
    | logout serverId token =>
        apply Contract.safe_map
        apply (logout_safe collisionFree inv).mono
        intro result there _ revoked
        cases result with
        | error code => trivial
        | ok => exact revoked rfl
    | authenticate serverId token =>
        apply Contract.safe_map
        apply (authenticate_safe collisionFree).mono
        intro result there _ outlived
        cases result with
        | error code => trivial
        | ok claims => exact (outlived claims rfl).1

/-- An empty store satisfies the invariant. -/
theorem sessionInv_initial {world : SessionWorld} (access : world.issuedAccess = [])
    (empty : ∀ key, world.redis key = none) : SessionInv hashToken ⟨world, []⟩ where
  slots := fun userId entry found => by
    rw [empty] at found
    cases found
  owners := fun entry none => absurd none List.not_mem_nil
  once := List.Pairwise.nil
  signed := fun made none => absurd none List.not_mem_nil
  makers := fun one none => absurd none List.not_mem_nil
  signedAccess := fun token none => by
    rw [access] at none
    exact absurd none List.not_mem_nil
  revoked := fun entry none => absurd none List.not_mem_nil

/-- A refresh token is exchanged at most once, and never after a deletion of its slot that was carried
out. A logout revokes its access token and asks for that deletion, and a revoked token is not accepted
before it has run out. -/
theorem tokens_rotate_and_stay_revoked
    (collisionFree : ∀ one two hash, hashToken one = .ok hash → hashToken two = .ok hash → one = two)
    {running : Running SessionWorld AuthRequest AuthCommand AuthFate AuthResult AuthCommand.Answer}
    (reachable : (sessionSystem hashToken).Reachable running) :
    (∀ first second token pair other,
      running.Finished first (.refreshTokens token) (.tokens (.ok pair)) →
      running.Finished second (.refreshTokens token) (.tokens (.ok other)) →
      first = second) ∧
    (∀ caller token pair,
      running.Finished caller (.refreshTokens token) (.tokens (.ok pair)) →
      Exchanged hashToken caller token pair.2.jti running.moment) ∧
    (∀ caller serverId token,
      running.Finished caller (.logout serverId token) (.unit (.ok ())) →
      Revoked caller token running.moment ∧ DeletesSlot caller token running.moment) ∧
    (∀ userId newer deletion older, running.moment.trace = newer ++ deletion :: older →
      slotWrite userId deletion = some none →
      ∀ source ∈ older, ∀ token hash, slotWrite userId source = some (some hash) →
        hashToken token = .ok hash →
        ∀ caller pair, running.Finished caller (.refreshTokens token) (.tokens (.ok pair)) →
          ∃ swap ∈ older, swap.caller = caller ∧ ∃ newHash, hashToken pair.2.jti = .ok newHash ∧
            slotWrite userId swap = some (some newHash)) ∧
    ∀ last, (sessionSystem hashToken).Reaches running last →
      ∀ token, ∀ entry ∈ running.moment.trace, Revokes token entry →
      ∀ caller serverId claims, running.calls.length ≤ caller →
        last.Finished caller (.authenticate serverId token) (.claims (.ok claims)) →
        ∀ issued ∈ running.moment.world.issuedAccess, issued.payload.jti = token →
          issued.expiresAt < last.moment.world.now := by
  have fulfilled := sessions_fulfilled collisionFree
  have kept := fulfilled.kept (fun world begun => sessionInv_initial begun.1 begun.2.2) reachable
  have exchanged : ∀ caller token pair,
      running.Finished caller (.refreshTokens token) (.tokens (.ok pair)) →
      Exchanged hashToken caller token pair.2.jti running.moment := by
    intro caller token pair found
    obtain ⟨started, -, -, -, post⟩ := kept.finished found
    exact post
  refine ⟨?_, exchanged, ?_, ?_, ?_⟩
  · intro first second token pair other one two
    exact (exchanged first token pair one).unique kept.inv (exchanged second token other two)
  · intro caller serverId token found
    obtain ⟨started, -, -, -, post⟩ := kept.finished found
    exact post
  · intro userId newer deletion older split deleted source inside token hash stored hashed caller pair found
    exact (exchanged caller token pair found).before_deletion kept.inv split deleted inside stored hashed
  · intro last path token entry present revokes caller serverId claims late found issued known same
    obtain ⟨started, -, -, since, post⟩ := (kept.reaches fulfilled path).finished found
    obtain ⟨later, grown⟩ := since late
    exact post entry (grown.subset present) revokes issued (later.2.1 known) same

/-- A hash that is right on two tokens and free of collisions on all. -/
def sampleHash (token : String) : Except ErrorCode String :=
  if token = "" then .error .internalError
  else if token = "r1" then .ok "82f3e9c695dc6b8d1b11818d5701919e286de8d47f7c3eb3100c485f79e57828"
  else if token = "r2" then .ok "db77fd01af957221a4989b64b3770a83a3c56068405b9f0e9408feae57fd17e4"
  else .ok ("hash of " ++ token)

theorem sampleHash_collisionFree (one two hash : String) (first : sampleHash one = .ok hash)
    (second : sampleHash two = .ok hash) : one = two := by
  have other : ∀ token, "hash of " ++ token ≠
      "82f3e9c695dc6b8d1b11818d5701919e286de8d47f7c3eb3100c485f79e57828" ∧ "hash of " ++ token ≠
      "db77fd01af957221a4989b64b3770a83a3c56068405b9f0e9408feae57fd17e4" := by
    intro token
    constructor <;> intro same <;> simpa using congrArg (fun text => text.toList.head?) same
  unfold sampleHash at first second
  split at first
  · cases first
  split at first
  · rename_i known
    cases first
    split at second
    · cases second
    split at second
    · rename_i again
      rw [known, again]
    split at second
    · exact absurd (Except.ok.inj second) (by decide)
    · exact absurd (Except.ok.inj second) (other two).1
  split at first
  · rename_i known
    cases first
    split at second
    · cases second
    split at second
    · exact absurd (Except.ok.inj second) (by decide)
    split at second
    · rename_i again
      rw [known, again]
    · exact absurd (Except.ok.inj second) (other two).2
  · cases first
    split at second
    · cases second
    split at second
    · exact absurd (Except.ok.inj second).symm (other one).1
    split at second
    · exact absurd (Except.ok.inj second).symm (other one).2
    · exact (text_append_right_cancel (Except.ok.inj second)).symm

def alice : UserRow := ⟨1, "alice", "alice@example.org", 1, 0, 0, none⟩

/-- One user logs in and receives the tokens `a1` and `r1`. -/
def loginMoves : List (Move AuthRequest AuthFate AuthEvent) :=
  [.start (.login "alice" "secret" "10.0.0.1"), .resume 0 (.redis .done), .resume 0 (.row (.ok alice)),
    .resume 0 (.check (.ok ())), .resume 0 (.password true), .resume 0 (.check (.ok ())),
    .resume 0 (.redis .done), .resume 0 (.uuids "a1" "r1"), .resume 0 (.redis .done)]

/-- The user logs out, and the command that deletes the refresh token fails. -/
def logoutMoves : List (Move AuthRequest AuthFate AuthEvent) :=
  [.start (.logout 7 "a1"), .resume 1 .fixed, .resume 1 .fixed, .resume 1 .fixed,
    .resume 1 (.redis .done), .resume 1 .fixed, .resume 1 (.redis .done), .resume 1 .fixed,
    .resume 1 .fixed, .resume 1 (.redis .failed)]

def refreshMoves (caller : Nat) : List (Move AuthRequest AuthFate AuthEvent) :=
  [.start (.refreshTokens "r1"), .resume caller .fixed, .resume caller (.row (.ok alice)),
    .resume caller (.check (.ok ())), .resume caller (.uuids "a2" "r2"), .resume caller (.redis .done)]

def blank : Running SessionWorld AuthRequest AuthCommand AuthFate AuthResult AuthCommand.Answer :=
  ⟨⟨⟨100, fun _ => none, [], [], fun _ => []⟩, []⟩, []⟩

/-- The blank state is an initial one. -/
theorem blank_initial : (sessionSystem hashToken).initial blank :=
  ⟨⟨rfl, rfl, fun _ => rfl⟩, rfl, rfl⟩

/-- A login, a rotation and a logout of one user. -/
theorem tokens_rotate_and_stay_revoked_login : ∃ running,
    (sessionSystem sampleHash).Reachable running ∧
    running.Finished 1 (.refreshTokens "r1")
      (.tokens (.ok (generateTokens 100 alice accountStatusActive "a2" "r2"))) ∧
    Exchanged sampleHash 1 "r1" "r2" running.moment := by
  obtain ⟨running, ran, finished⟩ : ∃ running,
      (sessionSystem sampleHash).run blank (loginMoves ++ refreshMoves 1) = some running ∧
      running.Finished 1 (.refreshTokens "r1")
        (.tokens (.ok (generateTokens 100 alice accountStatusActive "a2" "r2"))) := ⟨_, rfl, rfl⟩
  have reachable := (sessionSystem sampleHash).reachable_of_run blank_initial ran
  exact ⟨running, reachable, finished,
    (tokens_rotate_and_stay_revoked sampleHash_collisionFree reachable).2.1 1 "r1" _ finished⟩

/-- A refresh token outlives a logout that succeeds without deleting it. -/
theorem refreshed_after_logout : ∃ running last,
    (sessionSystem sampleHash).Reachable running ∧ running.calls.length = 2 ∧
    running.Finished 0 (.login "alice" "secret" "10.0.0.1")
      (.tokens (.ok (generateTokens 100 alice accountStatusActive "a1" "r1"))) ∧
    running.Finished 1 (.logout 7 "a1") (.unit (.ok ())) ∧
    (sessionSystem sampleHash).Reaches running last ∧
    last.Finished 2 (.refreshTokens "r1")
      (.tokens (.ok (generateTokens 100 alice accountStatusActive "a2" "r2"))) := by
  obtain ⟨running, ran, length, login, logout⟩ : ∃ running,
      (sessionSystem sampleHash).run blank (loginMoves ++ logoutMoves) = some running ∧
      running.calls.length = 2 ∧
      running.Finished 0 (.login "alice" "secret" "10.0.0.1")
        (.tokens (.ok (generateTokens 100 alice accountStatusActive "a1" "r1"))) ∧
      running.Finished 1 (.logout 7 "a1") (.unit (.ok ())) := ⟨_, rfl, rfl, rfl, rfl⟩
  have reachable := (sessionSystem sampleHash).reachable_of_run blank_initial ran
  obtain ⟨last, further, refreshed⟩ : ∃ last,
      (sessionSystem sampleHash).run running (refreshMoves 2) = some last ∧
      last.Finished 2 (.refreshTokens "r1")
        (.tokens (.ok (generateTokens 100 alice accountStatusActive "a2" "r2"))) := by
    cases ran
    exact ⟨_, rfl, rfl⟩
  exact ⟨running, last, reachable, length, login, logout,
    (sessionSystem sampleHash).reaches_of_run further, refreshed⟩

end Guarantees

end DiskServer.Auth
