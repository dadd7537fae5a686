import DiskServer.Construction.Files.FileListCache
import DiskServer.Proof.Files.FileList
import DiskServer.Proof.Redis.RedisService
import Mathlib.Data.Countable.Basic
import Mathlib.Logic.Equiv.List

namespace DiskServer.Files

open Library Redis

abbrev ListingEntry := Executed ListingWorld ListingCommand RedisFate ListingCommand.Answer

abbrev ListingMoment := Moment ListingWorld ListingCommand RedisFate ListingCommand.Answer

section Entries

/-- The command has raised the version of the listings of the user. -/
def bumped (userId : UInt64) (entry : ListingEntry) : Bool :=
  match entry.command with
  | .redis (.incr key) =>
      key = buildFileListCacheVersionKey userId && entry.fate.effective &&
        (entry.before.redis.increment entry.before.now key).isSome
  | _ => false

/-- The store counts no further than this. -/
def versionLimit : Nat := 9223372036854775807

/-- How often the trace has raised the version of a user. -/
def bumps (userId : UInt64) (trace : List ListingEntry) : Nat := trace.countP (bumped userId)

/-- A database state that some command has met at this version or at a later one. -/
def Seen (userId : UInt64) (version : Nat) (trace : List ListingEntry) (db : ListingDb) : Prop :=
  ∃ entry older, (entry :: older) <:+ trace ∧ version ≤ bumps userId older ∧ entry.before.db = db

/-- The entry has committed a change of the database. -/
def Commits (entry : ListingEntry) : Prop := ∃ change, entry.command = .commit change

variable {userId : UInt64} {version least : Nat} {trace longer : List ListingEntry} {db : ListingDb}

/-- Invalidations are only ever added. -/
theorem bumps_suffix (grown : trace <:+ longer) : bumps userId trace ≤ bumps userId longer :=
  grown.sublist.countP_le

theorem Seen.grow (seen : Seen userId version trace db) (grown : trace <:+ longer) :
    Seen userId version longer db := by
  obtain ⟨entry, older, inside, reached, met⟩ := seen
  exact ⟨entry, older, inside.trans grown, reached, met⟩

theorem Seen.lower (seen : Seen userId version trace db) (less : least ≤ version) :
    Seen userId least trace db := by
  obtain ⟨entry, older, inside, reached, met⟩ := seen
  exact ⟨entry, older, inside, Nat.le_trans less reached, met⟩

theorem bumped_of_ne {entry : ListingEntry}
    (other : ∀ key, entry.command ≠ .redis (.incr key)) : bumped userId entry = false := by
  unfold bumped
  split
  · rename_i key same
    exact absurd same (other key)
  · rfl

theorem bumps_of_ne {entry : ListingEntry} (other : ∀ key, entry.command ≠ .redis (.incr key)) :
    bumps userId (entry :: trace) = bumps userId trace :=
  List.countP_cons_of_neg (by rw [bumped_of_ne other]; decide)

end Entries

section Invariant

variable (locale : Locale) (text : JsonText) {here there : ListingMoment} {caller : Nat}

/-- The version key counts the invalidations, and each cached listing was read from states that are no
older than the version of its key. -/
structure ListingInv (here : ListingMoment) : Prop where
  versions : ∀ userId, here.world.redis (buildFileListCacheVersionKey userId) =
    if bumps userId here.trace = 0 then none
    else some ⟨toString (bumps userId here.trace : Int), none⟩
  bounded : ∀ userId, bumps userId here.trace ≤ versionLimit
  cached : ∀ userId version query entry,
    here.world.redis (cacheKey userId version query) = some entry →
    ∃ response, entry.value = text.writeString response.toJson ∧
      ListedFrom locale (Seen userId version.toNat here.trace) userId query response

/-- The invariant of the cache, as each command and each foreign step must keep it. -/
def listingContract : Contract ListingWorld ListingCommand RedisFate ListingCommand.Answer where
  Inv := ListingInv locale text
  Later := fun _ _ => True
  same := fun _ => trivial
  compose := fun _ _ _ _ _ => trivial

/-- What a command may do in the moment in which a call issues it. -/
def ListingCommand.Allowed (here : ListingMoment) : ListingCommand → Prop
  | .redis (.get _) => True
  | .redis (.incr key) => ∃ userId, key = buildFileListCacheVersionKey userId
  | .redis (.set key value _) => ∃ userId version query response,
      key = cacheKey userId version query ∧ value = text.writeString response.toJson ∧
        ListedFrom locale (Seen userId version.toNat here.trace) userId query response
  | .redis _ => False
  | .read .. => True
  | .commit _ => True

variable {locale text} {command : ListingCommand} {fate : RedisFate} {answer : command.Answer}
  {after : ListingWorld}

theorem versionKey_ne_cacheKey {userId other version : UInt64} {query : FileListQueryParams} :
    buildFileListCacheVersionKey other ≠ cacheKey userId version query := cacheKey_ne_version.symm

theorem cacheKey_unique {userId other version later : UInt64} {query asked : FileListQueryParams}
    (same : cacheKey userId version query = cacheKey other later asked) :
    userId = other ∧ version = later ∧ query = asked := by
  have types : ∀ type : ItemFilter, ':' ∉ type.text.toList := by
    intro type
    cases type <;> decide
  have columns : ∀ column : SortBy, ':' ∉ column.text.toList := by
    intro column
    cases column <;> decide
  have orders : ∀ order : SortOrder, ':' ∉ order.text.toList := by
    intro order
    cases order <;> decide
  have plain : ∀ part ∈ [query.type.text, query.sortBy.text, query.sortOrder.text, asked.type.text,
      asked.sortBy.text, asked.sortOrder.text], ':' ∉ part.toList := by
    simp [types, columns, orders]
  obtain ⟨users, versions, parents, sameType, sameColumn, sameOrder, pages, sizes⟩ :=
    cacheKey_injective plain same
  refine ⟨users, UInt64.toNat_inj.mp versions, ?_⟩
  obtain ⟨parentId, page, pageSize, sortBy, sortOrder, type⟩ := query
  obtain ⟨folderId, number, size, column, direction, kind⟩ := asked
  have filters : type = kind := ItemFilter.text_injective sameType
  have sorts : sortBy = column := SortBy.text_injective sameColumn
  have directions : sortOrder = direction := SortOrder.text_injective sameOrder
  simp only at parents pages sizes
  rw [parents, pages, sizes, filters, sorts, directions]

/-- A command that raises no version and leaves the store as it is keeps the invariant. -/
theorem ListingInv.aside (inv : ListingInv locale text here)
    (quiet : ∀ userId, bumps userId (here.executed caller command fate answer after).trace =
      bumps userId here.trace)
    (same : after.redis = here.world.redis) :
    ListingInv locale text (here.executed caller command fate answer after) where
  versions := fun userId => by
    change after.redis _ = _
    rw [same, quiet]
    exact inv.versions userId
  bounded := fun userId => by
    rw [quiet]
    exact inv.bounded userId
  cached := fun userId version query entry found => by
    change after.redis _ = _ at found
    rw [same] at found
    obtain ⟨response, written, listed⟩ := inv.cached userId version query entry found
    exact ⟨response, written, listed.mono fun _ seen => seen.grow (List.suffix_cons _ _)⟩

/-- The version of a user is raised by one. -/
theorem ListingInv.increment (inv : ListingInv locale text here) (userId : UInt64) (now : Nat) :
    here.world.redis.increment now (buildFileListCacheVersionKey userId) =
      if bumps userId here.trace < versionLimit then
        some (((bumps userId here.trace + 1 : Nat) : Int),
          ⟨toString ((bumps userId here.trace + 1 : Nat) : Int), none⟩)
      else none := by
  have version := inv.versions userId
  unfold Store.increment Store.lookup
  rw [version]
  by_cases fresh : bumps userId here.trace = 0
  · have room : bumps userId here.trace < versionLimit := by
      rw [fresh]
      decide
    rw [if_pos fresh, if_pos room, fresh]
    rfl
  · have read := readInteger_natural (inv.bounded userId)
    simp only [if_neg fresh, Option.filter_some, RedisEntry.alive, Option.all_none, if_true, read]
    by_cases room : bumps userId here.trace < versionLimit
    · have small : (bumps userId here.trace : Int) < 9223372036854775807 := Int.ofNat_lt.mpr room
      rw [if_pos small, if_pos room]
      rfl
    · have large : ¬ (bumps userId here.trace : Int) < 9223372036854775807 :=
        fun small => room (Int.ofNat_lt.mp small)
      rw [if_neg large, if_neg room]

theorem ListingInv.bumped_incr (inv : ListingInv locale text here) (userId other : UInt64)
    (answer : Except ErrorCode Int) :
    bumped other ⟨caller, here.world, .redis (.incr (buildFileListCacheVersionKey userId)), fate,
      answer⟩ = true ↔ userId = other ∧ fate.effective = true ∧
        bumps userId here.trace < versionLimit := by
  have keys : buildFileListCacheVersionKey userId = buildFileListCacheVersionKey other ↔
      userId = other := ⟨versionKey_injective, fun same => by rw [same]⟩
  simp only [bumped, inv.increment userId, Bool.and_eq_true, decide_eq_true_eq, keys, and_assoc]
  by_cases room : bumps userId here.trace < versionLimit
  · simp [room]
  · simp [room]

theorem ListingInv.incr_store (inv : ListingInv locale text here) (userId : UInt64) (now : Nat) :
    ((RedisCommand.incr (buildFileListCacheVersionKey userId)).execute fate now
      here.world.redis).2 =
      if fate.effective = true ∧ bumps userId here.trace < versionLimit then
        here.world.redis.write (buildFileListCacheVersionKey userId)
          (some ⟨toString ((bumps userId here.trace + 1 : Nat) : Int), none⟩)
      else here.world.redis := by
  rw [execute_store]
  by_cases effective : fate.effective = true
  · simp only [effective, if_true, true_and, RedisCommand.effect, inv.increment]
    by_cases room : bumps userId here.trace < versionLimit
    · simp only [if_pos room]
    · simp only [if_neg room]
  · simp only [effective, if_false, false_and, Bool.false_eq_true]

/-- An increment that has an effect moves its user to the next version, and no cached listing. -/
theorem ListingInv.incremented (inv : ListingInv locale text here) {userId : UInt64}
    {answer : Except ErrorCode Int}
    (ran : executeListing locale fate (.redis (.incr (buildFileListCacheVersionKey userId)))
      here.world = some (answer, after)) :
    ListingInv locale text (here.executed caller
      (.redis (.incr (buildFileListCacheVersionKey userId))) fate answer after) := by
  have store : after.redis = ((RedisCommand.incr (buildFileListCacheVersionKey userId)).execute fate
      here.world.now here.world.redis).2 := by
    cases ran
    rfl
  rw [inv.incr_store] at store
  have raised : ∀ (other : UInt64) (answer : Except ErrorCode Int), bumped other ⟨caller, here.world,
      .redis (.incr (buildFileListCacheVersionKey userId)), fate, answer⟩ = true ↔
      userId = other ∧ fate.effective = true ∧ bumps userId here.trace < versionLimit :=
    inv.bumped_incr userId
  by_cases moved : fate.effective = true ∧ bumps userId here.trace < versionLimit
  · rw [if_pos moved] at store
    have counted : ∀ other, bumps other (here.executed caller
        (.redis (.incr (buildFileListCacheVersionKey userId))) fate answer after).trace =
        if userId = other then bumps other here.trace + 1 else bumps other here.trace := by
      intro other
      by_cases same : userId = other
      · rw [if_pos same]
        exact List.countP_cons_of_pos ((raised other answer).mpr ⟨same, moved⟩)
      · rw [if_neg same]
        exact List.countP_cons_of_neg fun up => same ((raised other answer).mp up).1
    refine ⟨fun other => ?_, fun other => ?_, fun other version query entry found => ?_⟩
    · change after.redis _ = _
      rw [store, counted]
      by_cases same : userId = other
      · subst same
        rw [write_same, if_pos rfl, if_neg (Nat.succ_ne_zero _)]
      · rw [write_other _ fun keys => same (versionKey_injective keys).symm, if_neg same]
        exact inv.versions other
    · rw [counted]
      by_cases same : userId = other
      · subst same
        rw [if_pos rfl]
        exact moved.2
      · rw [if_neg same]
        exact inv.bounded other
    · change after.redis _ = _ at found
      rw [store, write_other _ versionKey_ne_cacheKey.symm] at found
      obtain ⟨response, written, listed⟩ := inv.cached other version query entry found
      exact ⟨response, written, listed.mono fun _ seen => seen.grow (List.suffix_cons _ _)⟩
  · rw [if_neg moved] at store
    refine inv.aside (fun other => ?_) store
    exact List.countP_cons_of_neg fun up => moved ((raised other answer).mp up).2

/-- A stored listing is no older than the version of its key. -/
theorem ListingInv.stored (inv : ListingInv locale text here) {userId version : UInt64}
    {query : FileListQueryParams} {response : FileListResponse} {ttl : Nat}
    {answer : Except ErrorCode Unit}
    (listed : ListedFrom locale (Seen userId version.toNat here.trace) userId query response)
    (ran : executeListing locale fate (.redis (.set (cacheKey userId version query)
      (text.writeString response.toJson) ttl)) here.world = some (answer, after)) :
    ListingInv locale text (here.executed caller (.redis (.set (cacheKey userId version query)
      (text.writeString response.toJson) ttl)) fate answer after) := by
  have quiet : ∀ other, bumps other (here.executed caller (.redis (.set
      (cacheKey userId version query) (text.writeString response.toJson) ttl)) fate answer after).trace =
      bumps other here.trace := fun other => bumps_of_ne fun key same => by cases same
  have wider : ∀ entry : ListingEntry, ∀ user least state, Seen user least here.trace state →
      Seen user least (entry :: here.trace) state := fun entry _ _ _ seen => seen.grow (List.suffix_cons _ _)
  by_cases effective : fate.effective = true
  · have store : after.redis = here.world.redis.write (cacheKey userId version query)
        (some ⟨text.writeString response.toJson,
          if 0 < ttl then some (here.world.now + ttl) else none⟩) := by
      cases ran
      simp only [execute_store, effective, if_true]
      rfl
    refine ⟨fun other => ?_, fun other => ?_, fun other later asked entry found => ?_⟩
    · change after.redis _ = _
      rw [store, write_other _ versionKey_ne_cacheKey, quiet]
      exact inv.versions other
    · rw [quiet]
      exact inv.bounded other
    · change after.redis _ = _ at found
      rw [store] at found
      by_cases same : cacheKey other later asked = cacheKey userId version query
      · obtain ⟨rfl, rfl, rfl⟩ := cacheKey_unique same
        rw [write_same] at found
        cases found
        exact ⟨response, rfl, listed.mono (wider _ _ _)⟩
      · rw [write_other _ same] at found
        obtain ⟨kept, written, sound⟩ := inv.cached other later asked entry found
        exact ⟨kept, written, sound.mono (wider _ _ _)⟩
  · refine inv.aside quiet ?_
    cases ran
    simp only [execute_store, effective, Bool.false_eq_true, if_false]
theorem ListingInv.executed (inv : ListingInv locale text here)
    (allowed : command.Allowed locale text here)
    (ran : executeListing locale fate command here.world = some (answer, after)) :
    ListingInv locale text (here.executed caller command fate answer after) := by
  cases command with
  | redis command =>
      cases command with
      | set key value ttl =>
          obtain ⟨userId, version, query, response, rfl, rfl, listed⟩ := allowed
          exact inv.stored listed ran
      | get key =>
          refine inv.aside (fun other => bumps_of_ne fun key same => by cases same) ?_
          cases ran
          simp only [execute_store, RedisCommand.effect]
          split
          · split <;> rfl
          · rfl
      | incr key =>
          obtain ⟨userId, rfl⟩ := allowed
          exact inv.incremented ran
      | delete | existsKey | compareAndSwap | incrWithExpire => exact allowed.elim
  | read userId query reading =>
      cases ran
      exact inv.aside (fun other => bumps_of_ne fun key same => by cases same) rfl
  | commit change =>
      refine inv.aside (fun other => bumps_of_ne fun key same => by cases same) ?_
      cases ran
      split <;> rfl

end Invariant

section Routines

variable {locale : Locale} {text : JsonText} {here there started : ListingMoment} {caller : Nat}
  {userId : UInt64} {query : FileListQueryParams} {Result : Type} {post : Result → ListingMoment → Prop}

/-- A command that its call may issue is followed by the rest of the routine. -/
theorem safe_command {command : ListingCommand} {next : command.Answer → ListingRoutine Result}
    (allowed : ∀ there, (listingContract locale text).Since here there → command.Allowed locale text there)
    (rest : ∀ there fate answer after, (listingContract locale text).Since here there →
      ListingInv locale text there →
      executeListing locale fate command there.world = some (answer, after) →
      ListingInv locale text (there.executed caller command fate answer after) →
      (listingContract locale text).Since here (there.executed caller command fate answer after) →
      (listingContract locale text).Safe (listingMachine locale) caller post (next answer)
        (there.executed caller command fate answer after)) :
    (listingContract locale text).Safe (listingMachine locale) caller post
      (askListing command >>= next) here := by
  apply Contract.safe_ask
  intro there foreign inv fate answer after ran
  have kept : ListingInv locale text (there.executed caller command fate answer after) :=
    inv.executed (allowed there foreign.since) ran
  have since : (listingContract locale text).Since here
      (there.executed caller command fate answer after) :=
    foreign.since.trans ⟨trivial, List.suffix_cons _ _⟩
  exact ⟨kept, trivial, rest there fate answer after foreign.since inv ran kept since⟩

theorem safe_pure {result : Result} (holds : ∀ there, (listingContract locale text).Since here there →
      ListingInv locale text there → post result there) :
    (listingContract locale text).Safe (listingMachine locale) caller post (pure result) here :=
  Contract.safe_done fun there foreign inv => holds there foreign.since inv

/-- What the store answers to the question for the version of a user. -/
theorem ListingInv.version_answer (inv : ListingInv locale text here) {fate : RedisFate}
    {answer : Except ErrorCode String} {after : ListingWorld}
    (ran : executeListing locale fate (.redis (.get (buildFileListCacheVersionKey userId)))
      here.world = some (answer, after)) :
    answer = .error .redisOperationFailed ∨
      (answer = .error .redisKeyNotFound ∧ bumps userId here.trace = 0) ∨
      answer = .ok (toString (bumps userId here.trace : Int)) := by
  have version := inv.versions userId
  cases fate with
  | failed =>
      cases ran
      exact .inl rfl
  | lost =>
      cases ran
      exact .inl rfl
  | done =>
      have read : answer = ((RedisCommand.get (buildFileListCacheVersionKey userId)).effect
          here.world.now here.world.redis).1 := by
        cases ran
        rfl
      simp only [RedisCommand.effect, Store.lookup, version] at read
      by_cases fresh : bumps userId here.trace = 0
      · rw [if_pos fresh] at read
        exact .inr (.inl ⟨read, fresh⟩)
      · rw [if_neg fresh] at read
        exact .inr (.inr read)

theorem fromChars_decimal {number : Nat} (bound : number < UInt64.size) :
    fromChars (toString number) = some (UInt64.ofNat number) := by
  have digits : (toString number).toList.all Char.isDigit = true :=
    List.all_eq_true.mpr fun _ inside => isDigit_decimal inside
  have filled : toString number ≠ "" := by
    intro empty
    have none : Nat.toDigits 10 number = [] := by
      rw [← Nat.toList_repr, ← Nat.toString_eq_repr, empty]
      rfl
    exact Nat.toDigits_ne_nil none
  unfold fromChars
  simp only [ofDigitChars_decimal]
  rw [if_pos ⟨filled, digits, bound⟩]

/-- The version that is read lies between the versions before and after. -/
theorem getVersion_safe :
    (listingContract locale text).Safe (listingMachine locale) caller
      (fun result there => ∀ version, result = .ok version → bumps userId here.trace ≤ version.toNat ∧
        version.toNat ≤ bumps userId there.trace) (getVersion userId) here := by
  unfold getVersion
  apply safe_command
  · exact fun _ _ => trivial
  intro there fate answer after since inv ran _ _
  rcases inv.version_answer ran with rfl | ⟨rfl, fresh⟩ | rfl
  · exact safe_pure fun _ _ _ version none => by cases none
  · apply safe_pure
    intro last _ _ version read
    cases read
    have old : bumps userId here.trace ≤ bumps userId there.trace := bumps_suffix since.2
    exact ⟨by rw [fresh] at old; exact old, Nat.zero_le _⟩
  · have small : bumps userId there.trace < UInt64.size :=
      Nat.lt_of_le_of_lt (inv.bounded userId) (by decide)
    have read := fromChars_decimal small
    rw [← integer_ofNat] at read
    simp only [read]
    apply safe_pure
    intro last later _ version same
    cases same
    rw [UInt64.toNat_ofNat_of_lt' small]
    exact ⟨bumps_suffix since.2, Nat.le_trans (bumps_suffix (List.suffix_cons _ _)) (bumps_suffix later.2)⟩

/-- What the cache answers: a listing that is new enough, or a key that may hold one. -/
def CacheRead.Sound (locale : Locale) (userId : UInt64) (query : FileListQueryParams) (least : Nat)
    (here : ListingMoment) : CacheRead → Prop
  | .hit value => ∃ response, value = response.toJson ∧
      ListedFrom locale (Seen userId least here.trace) userId query response
  | .miss key => ∃ version : UInt64, key = cacheKey userId version query ∧ least ≤ version.toNat ∧
      version.toNat ≤ bumps userId here.trace
  | .unavailable => True

theorem cached_value {fate : RedisFate} {key value : String} {answer : Except ErrorCode String}
    {after : ListingWorld}
    (ran : executeListing locale fate (.redis (.get key)) here.world = some (answer, after))
    (hit : answer = .ok value) : ∃ entry, here.world.redis key = some entry ∧ entry.value = value := by
  subst hit
  cases fate with
  | failed => cases ran
  | lost => cases ran
  | done =>
      have read : ((RedisCommand.get key).effect here.world.now here.world.redis).1 = .ok value :=
        congrArg Prod.fst (Option.some_inj.mp ran)
      simp only [RedisCommand.effect] at read
      split at read
      · cases read
      · rename_i entry found
        exact ⟨entry, (Option.filter_eq_some_iff.mp found).1, Except.ok.inj read⟩

/-- A listing of the cache is no older than the version at the start of the request. -/
theorem readCache_safe (readsBack : ∀ response : FileListResponse,
      text.parse (text.writeString response.toJson) = some response.toJson)
    (inv : ListingInv locale text here) :
    (listingContract locale text).Safe (listingMachine locale) caller
      (fun result there => result.Sound locale userId query (bumps userId here.trace) there)
      (readCache text userId query) here := by
  unfold readCache
  apply Contract.safe_bind inv getVersion_safe
  intro result middle inv since known
  cases result with
  | error code => exact safe_pure fun _ _ _ => trivial
  | ok version =>
    obtain ⟨low, high⟩ := known version rfl
    have missed : ∀ there, (listingContract locale text).Since middle there →
        (CacheRead.miss (cacheKey userId version query)).Sound locale userId query
          (bumps userId here.trace) there :=
      fun there later => ⟨version, rfl, low, Nat.le_trans high (bumps_suffix later.2)⟩
    apply safe_command
    · exact fun _ _ => trivial
    intro there fate answer after later inv ran _ last
    match answer, ran with
    | .error code, ran =>
        cases code <;> first
          | exact safe_pure fun _ more _ => missed _ (last.trans more)
          | exact safe_pure fun _ _ _ => trivial
    | .ok value, ran =>
        obtain ⟨entry, stored, rfl⟩ := cached_value ran rfl
        obtain ⟨response, written, listed⟩ := inv.cached userId version query entry stored
        have parsed : text.parse entry.value = some response.toJson := by
          rw [written]
          exact readsBack response
        simp only [parsed]
        apply safe_pure
        intro final more _
        refine ⟨response, rfl, listed.mono fun state seen => ?_⟩
        exact (seen.lower low).grow ((List.suffix_cons _ _).trans more.2)

/-- A query throws, or it answers for a state that is no older than the version before it. -/
theorem safe_read {reading : ListingRead} {next : Option reading.Answer → ListingRoutine Result}
    {least : Nat} (low : least ≤ bumps userId here.trace)
    (thrown : ∀ there, ListingInv locale text there → (listingContract locale text).Since here there →
      (listingContract locale text).Safe (listingMachine locale) caller post (next none) there)
    (answered : ∀ there state, ListingInv locale text there →
      (listingContract locale text).Since here there → Seen userId least there.trace state →
      (listingContract locale text).Safe (listingMachine locale) caller post
        (next (some (reading.answer locale state query userId))) there) :
    (listingContract locale text).Safe (listingMachine locale) caller post
      (askRead userId query reading >>= next) here := by
  apply safe_command
  · exact fun _ _ => trivial
  intro there fate answer after since inv ran kept last
  by_cases done : fate = .done
  · have read : answer = some (reading.answer locale there.world.db query userId) := by
      have first := (congrArg Prod.fst (Option.some_inj.mp ran)).symm
      exact first.trans (if_pos done)
    subst read
    refine answered _ there.world.db kept last ⟨_, there.trace, List.suffix_rfl, ?_, rfl⟩
    exact Nat.le_trans low (bumps_suffix since.2)
  · have read : answer = none := by
      have first := (congrArg Prod.fst (Option.some_inj.mp ran)).symm
      exact first.trans (if_neg done)
    subst read
    exact thrown _ kept last

/-- The parts of a listing are read one after another, so each state may be a different one. -/
theorem execute_safe {least : Nat} (low : least ≤ bumps userId here.trace) :
    (listingContract locale text).Safe (listingMachine locale) caller
      (fun result there => ∀ response, result = some response →
        ListedFrom locale (Seen userId least there.trace) userId query response)
      (FileListQuery.execute userId query) here := by
  have nothing : ∀ there, (listingContract locale text).Safe (listingMachine locale) caller
      (fun result there => ∀ response, result = some response →
        ListedFrom locale (Seen userId least there.trace) userId query response)
      (pure none) there := fun there => safe_pure fun _ _ _ response none => by cases none
  unfold FileListQuery.execute
  split
  · rename_i type
    apply safe_read low
    · exact fun there _ _ => nothing there
    intro there files inv since one
    apply safe_read (Nat.le_trans low (bumps_suffix since.2))
    · exact fun there _ _ => nothing there
    intro middle folders inv later two
    apply safe_read (Nat.le_trans low (bumps_suffix (since.trans later).2))
    · exact fun there _ _ => nothing there
    intro last page inv latest three
    apply safe_pure
    intro final more _ response computed
    cases computed
    exact .all files folders page type ((one.grow (later.trans latest).2).grow more.2)
      ((two.grow latest.2).grow more.2) (three.grow more.2)
  · rename_i type
    apply safe_read low
    · exact fun there _ _ => nothing there
    intro there files inv since one
    apply safe_read (Nat.le_trans low (bumps_suffix since.2))
    · exact fun there _ _ => nothing there
    intro last page inv latest two
    apply safe_pure
    intro final more _ response computed
    cases computed
    exact .file files page type ((one.grow latest.2).grow more.2) (two.grow more.2)
  · rename_i type
    apply safe_read low
    · exact fun there _ _ => nothing there
    intro there folders inv since one
    apply safe_read (Nat.le_trans low (bumps_suffix since.2))
    · exact fun there _ _ => nothing there
    intro last page inv latest two
    apply safe_pure
    intro final more _ response computed
    cases computed
    exact .folder folders page type ((one.grow latest.2).grow more.2) (two.grow more.2)

theorem verifyFolder_safe : (listingContract locale text).Safe (listingMachine locale) caller
    (fun _ _ => True) (verifyFolder userId query) here := by
  unfold verifyFolder
  split
  · exact safe_pure fun _ _ _ => trivial
  · change (listingContract locale text).Safe (listingMachine locale) caller (fun _ _ => True)
      (askRead userId query .folderFound >>= pure) here
    apply safe_read (Nat.zero_le _)
    · exact fun _ _ _ => safe_pure fun _ _ _ => trivial
    · exact fun _ _ _ _ _ => safe_pure fun _ _ _ => trivial

theorem queryDatabase_safe (inv : ListingInv locale text here) {least : Nat}
    (low : least ≤ bumps userId here.trace) :
    (listingContract locale text).Safe (listingMachine locale) caller
      (fun result there => ∀ response, result = .ok response →
        ListedFrom locale (Seen userId least there.trace) userId query response)
      (queryDatabase userId query) here := by
  unfold queryDatabase
  apply Contract.safe_bind inv verifyFolder_safe
  intro found there inv since _
  split
  · apply Contract.safe_bind inv (execute_safe (Nat.le_trans low (bumps_suffix since.2)))
    intro answer last inv _ listed
    cases answer with
    | none => exact safe_pure fun _ _ _ response none => by cases none
    | some response =>
        apply safe_pure
        intro final more _ other same
        cases same
        exact (listed response rfl).mono fun _ seen => seen.grow more.2
  · exact safe_pure fun _ _ _ response none => by cases none

/-- A listing is no older than the version at the start of its request. -/
theorem getFileList_safe (readsBack : ∀ response : FileListResponse,
      text.parse (text.writeString response.toJson) = some response.toJson)
    (inv : ListingInv locale text here) :
    (listingContract locale text).Safe (listingMachine locale) caller
      (fun result there => ∀ response, result = .ok response →
        ListedFrom locale (Seen userId (bumps userId here.trace) there.trace) userId query response)
      (getFileList text userId query) here := by
  unfold getFileList
  apply Contract.safe_bind inv (readCache_safe readsBack inv)
  intro read there inv since sound
  cases read with
  | hit value =>
      obtain ⟨response, rfl, listed⟩ := sound
      simp only [listed.fromJson_toJson]
      apply safe_pure
      intro last more _ other same
      cases same
      exact listed.mono fun _ seen => seen.grow more.2
  | unavailable => exact queryDatabase_safe inv (bumps_suffix since.2)
  | miss key =>
      obtain ⟨version, rfl, low, high⟩ := sound
      apply Contract.safe_bind inv (queryDatabase_safe inv high)
      intro answer middle inv later listed
      cases answer with
      | error failure => exact safe_pure fun _ _ _ response none => by cases none
      | ok response =>
          have known := listed response rfl
          apply safe_command
          · intro last more
            exact ⟨userId, version, query, response, rfl, rfl,
              known.mono fun _ seen => seen.grow more.2⟩
          intro last fate stored after _ _ _ _ more
          apply safe_pure
          intro final further _ other same
          cases same
          exact known.mono fun _ seen => (seen.lower low).grow (more.trans further).2

theorem commitAll_safe (changes : List (ListingDb → ListingDb)) :
    (listingContract locale text).Safe (listingMachine locale) caller (fun _ _ => True)
      (commitAll changes) here := by
  induction changes generalizing here with
  | nil => exact safe_pure fun _ _ _ => trivial
  | cons change rest ih =>
      unfold commitAll
      apply safe_command
      · exact fun _ _ => trivial
      intro there fate answer after _ _ _ kept _
      apply Contract.safe_bind kept ih
      exact fun _ _ _ _ _ => safe_pure fun _ _ _ => trivial

/-- The commits of the call come before the command that has raised the version. -/
def Invalidated (caller : Nat) (userId : UInt64) (here : ListingMoment) : Prop :=
  ∃ bump base, (bump :: base) <:+ here.trace ∧ bumped userId bump = true ∧
    ∀ commit older, (commit :: older) <:+ here.trace → commit.caller = caller → Commits commit →
      (commit :: older) <:+ base

theorem answered_incr {fate : RedisFate} {key : String} {answer : Except ErrorCode Int}
    {after : ListingWorld} {count : Int}
    (ran : executeListing locale fate (.redis (.incr key)) here.world = some (answer, after))
    (counted : answer = .ok count) :
    fate = .done ∧ (here.world.redis.increment here.world.now key).isSome = true := by
  subst counted
  cases fate with
  | failed => cases ran
  | lost => cases ran
  | done =>
      have read : ((RedisCommand.incr key).effect here.world.now here.world.redis).1 = .ok count :=
        congrArg Prod.fst (Option.some_inj.mp ran)
      simp only [RedisCommand.effect] at read
      split at read
      · cases read
      · rename_i counted
        exact ⟨rfl, by rw [counted]; rfl⟩

theorem mutate_safe (inv : ListingInv locale text here) {changes : List (ListingDb → ListingDb)} :
    (listingContract locale text).Safe (listingMachine locale) caller
      (fun result there => result = true → Invalidated caller userId there)
      (mutate userId changes) here := by
  unfold mutate
  apply Contract.safe_bind inv (commitAll_safe changes)
  intro committed middle inv _ _
  split
  · unfold invalidate
    apply safe_command
    · exact fun _ _ => ⟨userId, rfl⟩
    intro there fate answer after _ _ ran _ _
    match answer, ran with
    | .error code, ran => exact safe_pure fun _ _ _ none => by cases none
    | .ok count, ran =>
        obtain ⟨rfl, counted⟩ := answered_incr ran rfl
        apply Contract.safe_done
        intro last foreign _ _
        obtain ⟨-, added, grown, others⟩ := foreign
        refine ⟨_, there.trace, ⟨added, grown.symm⟩, ?_, ?_⟩
        · simp only [bumped, counted, RedisFate.effective, decide_true, Bool.and_self]
        · intro commit older inside mine commits
          rw [grown] at inside
          have own := suffix_of_append inside fun foreign => others commit foreign mine
          rcases List.suffix_cons_iff.mp own with newest | earlier
          · obtain ⟨change, command⟩ := commits
            rw [(List.cons.inj newest).1] at command
            cases command
          · exact earlier
  · exact safe_pure fun _ _ _ none => by cases none

end Routines

section Guarantees

variable {locale : Locale} {text : JsonText}

/-- What each request has established when it is done. -/
def ListingPost (locale : Locale) (request : ListingRequest) (caller : Nat) (started : ListingMoment)
    (result : ListingResult) (here : ListingMoment) : Prop :=
  match request, result with
  | .list userId query, .listing (.ok response) =>
      ListedFrom locale (Seen userId (bumps userId started.trace) here.trace) userId query response
  | .mutate userId _, .mutated true => Invalidated caller userId here
  | _, _ => True

/-- Every call respects the contract whatever the others do. -/
theorem listings_fulfilled (readsBack : ∀ response : FileListResponse,
      text.parse (text.writeString response.toJson) = some response.toJson) :
    (listingContract locale text).Fulfilled (listingMachine locale) (listingProgram text)
      (ListingPost locale) where
  events := fun seconds here inv => ⟨⟨inv.versions, inv.bounded, inv.cached⟩, trivial⟩
  programs := by
    intro request caller here inv _
    cases request with
    | list userId query =>
        apply Contract.safe_map
        apply (getFileList_safe readsBack inv).mono
        intro result there _ listed
        cases result with
        | error failure => trivial
        | ok response => exact listed response rfl
    | mutate userId changes =>
        apply Contract.safe_map
        apply (mutate_safe inv).mono
        intro result there _ invalidated
        cases result with
        | false => trivial
        | true => exact invalidated rfl

/-- An empty store satisfies the invariant. -/
theorem listingInv_initial {world : ListingWorld} (empty : ∀ key, world.redis key = none) :
    ListingInv locale text ⟨world, []⟩ where
  versions := fun userId => empty _
  bounded := fun userId => Nat.zero_le _
  cached := fun userId version query entry found => by
    rw [empty] at found
    cases found

/-- A database state that some command has met after the history. -/
def SeenAfter (history trace : List ListingEntry) (db : ListingDb) : Prop :=
  ∃ entry older, (entry :: older) <:+ trace ∧ history <:+ older ∧ entry.before.db = db

/-- What was met at a version that is higher than before an invalidation was met after it. -/
theorem Seen.after {userId : UInt64} {version : Nat} {trace base history : List ListingEntry}
    {bump : ListingEntry} {db : ListingDb} (seen : Seen userId version trace db)
    (inside : (bump :: base) <:+ trace) (raises : bumped userId bump = true)
    (reached : bumps userId (bump :: base) ≤ version) (early : history <:+ base) :
    SeenAfter history trace db := by
  obtain ⟨entry, older, met, high, state⟩ := seen
  have count : bumps userId (bump :: base) = bumps userId base + 1 := List.countP_cons_of_pos raises
  have before : base <:+ trace := (List.suffix_cons _ _).trans inside
  refine ⟨entry, older, met, ?_, state⟩
  rcases List.suffix_or_suffix_of_suffix ((List.suffix_cons _ _).trans met) before with late | fine
  · have low : bumps userId older ≤ bumps userId base := bumps_suffix late
    omega
  · exact early.trans fine

/-- A listing that starts after an invalidation has returned was read from database states that came
after all commits of the mutation, and the cache gives back each listing as it was computed. -/
theorem lists_nothing_superseded (readsBack : ∀ response : FileListResponse,
      text.parse (text.writeString response.toJson) = some response.toJson) :
    (∀ running last, (listingSystem locale text).Reachable running →
      (listingSystem locale text).Reaches running last →
      ∀ mutator caller userId changes query response,
      running.Finished mutator (.mutate userId changes) (.mutated true) →
      running.calls.length ≤ caller →
      last.Finished caller (.list userId query) (.listing (.ok response)) →
      ∀ commit older, (commit :: older) <:+ running.moment.trace → commit.caller = mutator →
        Commits commit →
        ListedFrom locale (SeenAfter (commit :: older) last.moment.trace) userId query response) ∧
    ∀ states userId query response, ListedFrom locale states userId query response →
      FileListResponse.fromJson response.toJson = .ok response := by
  have fulfilled : (listingContract locale text).Fulfilled (listingMachine locale)
      (listingProgram text) (ListingPost locale) := listings_fulfilled readsBack
  refine ⟨?_, fun states userId query response listed => listed.fromJson_toJson⟩
  intro running last reachable path mutator caller userId changes query response invalidated late
    listed commit older committed mine commits
  have kept := fulfilled.kept (fun world begun => listingInv_initial begun) reachable
  obtain ⟨-, -, -, -, bump, base, inside, raises, first⟩ := kept.finished invalidated
  obtain ⟨started, -, -, since, post⟩ := (kept.reaches fulfilled path).finished listed
  have early : (commit :: older) <:+ base := first commit older committed mine commits
  have begun : (bump :: base) <:+ started.trace := inside.trans (since late).2
  have grown : (bump :: base) <:+ last.moment.trace :=
    inside.trans (kept.reaches fulfilled path).since.2
  exact ListedFrom.mono post fun state seen =>
    seen.after grown raises (bumps_suffix begun) early

section Sample

theorem text_countable : Countable String :=
  have : Countable Char := Function.Injective.countable fun _ _ same => Char.toNat_inj.mp same
  Function.Injective.countable fun _ _ same => String.toList_inj.mp same

theorem response_countable : Countable FileListResponse := by
  have texts := text_countable
  have words : Countable UInt64 := Function.Injective.countable fun _ _ same => UInt64.toNat_inj.mp same
  have numbers : Countable Int32 := Function.Injective.countable fun _ _ same => Int32.toInt_inj.mp same
  have items : Countable FileListItem := by
    apply Function.Injective.countable
      (f := fun item : FileListItem => (item.id, item.name, item.type, item.size, item.mimeType,
        item.hash, item.itemCount, item.createdAt, item.updatedAt))
    rintro ⟨⟩ ⟨⟩ same
    simpa using same
  apply Function.Injective.countable
    (f := fun response : FileListResponse => (response.items, response.pagination.page,
      response.pagination.pageSize, response.pagination.total, response.pagination.totalPages))
  rintro ⟨_, ⟨⟩⟩ ⟨_, ⟨⟩⟩ same
  simpa using same

def plainLocale : Locale := ⟨compare, fun _ => "2026-01-02 03:04:05+00"⟩

/-- One content is there, and nobody has a file of it yet. -/
def contentOnly : ListingDb := ⟨[], [], [⟨1, "5eb63bbbe01eeed093cb22bb8f5acdc3"⟩]⟩

def insertNotes (db : ListingDb) : ListingDb :=
  { db with files := ⟨5, 7, 1, 0, "notes.txt", 11, some "text/plain", 0, 0⟩ :: db.files }

def firstPage : FileListQueryParams := ⟨0, 1, 20, .name, .asc, .all⟩

def notesListing : FileListResponse where
  items := [⟨5, "notes.txt", "file", 11, "text/plain", "5eb63bbbe01eeed093cb22bb8f5acdc3", 0,
    "2026-01-02 03:04:05+00", "2026-01-02 03:04:05+00"⟩]
  pagination := ⟨1, 20, 1, 1⟩

/-- The fields of an object are written in the order of their names. -/
def notesText : String :=
  "\x7b\"items\":[\x7b\"created_at\":\"2026-01-02 03:04:05+00\"," ++
  "\"hash\":\"5eb63bbbe01eeed093cb22bb8f5acdc3\",\"id\":5,\"mime_type\":\"text/plain\"," ++
  "\"name\":\"notes.txt\",\"size\":11,\"type\":\"file\"," ++
  "\"updated_at\":\"2026-01-02 03:04:05+00\"\x7d],\"pagination\":\x7b\"page\":1," ++
  "\"page_size\":20,\"total\":1,\"total_pages\":1\x7d\x7d"

theorem notes_listed : buildResponse firstPage
    (countFiles (insertNotes contentOnly) firstPage 7 +
      countFolders (insertNotes contentOnly) firstPage 7)
    (queryAll plainLocale (insertNotes contentOnly) firstPage 7) = notesListing := by
  have page : pageOf plainLocale firstPage true
      [⟨5, "notes.txt", "file", 11, 0, 0⟩] = [⟨5, "notes.txt", "file", 11, 0, 0⟩] := by
    unfold pageOf
    rw [List.mergeSort_singleton]
    rfl
  have listed : queryAll plainLocale (insertNotes contentOnly) firstPage 7 =
      (pageOf plainLocale firstPage true [⟨5, "notes.txt", "file", 11, 0, 0⟩]).map
        (joinAll plainLocale (insertNotes contentOnly)) := rfl
  rw [listed, page]
  rfl

/-- A writer that is right on the sample and gives every other response a text of its own. -/
theorem exists_jsonText : ∃ text : JsonText, text.writeString notesListing.toJson = notesText ∧
    ∀ response : FileListResponse,
      text.parse (text.writeString response.toJson) = some response.toJson := by
  classical
  have countable := response_countable
  obtain ⟨code, distinct⟩ := Countable.exists_injective_nat FileListResponse
  let write : Json → String := fun value =>
    if value = notesListing.toJson then notesText
    else if known : ∃ response : FileListResponse, response.toJson = value then
      "#" ++ toString (code known.choose)
    else ""
  have other : ∀ rest, "#" ++ rest ≠ notesText := by
    intro rest same
    have start : notesText.toList.head? = some '#' := by
      rw [← same, String.toList_append]
      rfl
    exact absurd start (by decide +kernel)
  have unique : ∀ one two : FileListResponse, write one.toJson = write two.toJson →
      one.toJson = two.toJson := by
    intro one two same
    have first : ∃ response : FileListResponse, response.toJson = one.toJson := ⟨one, rfl⟩
    have second : ∃ response : FileListResponse, response.toJson = two.toJson := ⟨two, rfl⟩
    by_cases left : one.toJson = notesListing.toJson
    · by_cases right : two.toJson = notesListing.toJson
      · rw [left, right]
      · simp only [write, if_pos left, if_neg right, dif_pos second] at same
        exact absurd same.symm (other _)
    · by_cases right : two.toJson = notesListing.toJson
      · simp only [write, if_neg left, if_pos right, dif_pos first] at same
        exact absurd same (other _)
      · simp only [write, if_neg left, if_neg right, dif_pos first, dif_pos second] at same
        have numbers := distinct (decimal_injective (text_append_right_cancel same))
        rw [← first.choose_spec, ← second.choose_spec, numbers]
  refine ⟨⟨write, fun text =>
    if known : ∃ response : FileListResponse, write response.toJson = text then
      some known.choose.toJson
    else none⟩, if_pos rfl, fun response => ?_⟩
  have known : ∃ found : FileListResponse, write found.toJson = write response.toJson :=
    ⟨response, rfl⟩
  change (if known : ∃ found : FileListResponse, write found.toJson = write response.toJson then
    some known.choose.toJson else none) = _
  rw [dif_pos known, unique _ _ known.choose_spec]

def emptyCache : Running ListingWorld ListingRequest ListingCommand RedisFate ListingResult
    ListingCommand.Answer := ⟨⟨⟨100, fun _ => none, contentOnly⟩, []⟩, []⟩

/-- A file is put into a folder, and then the folder is listed. -/
theorem lists_nothing_superseded_notes : ∃ text : JsonText,
    text.writeString notesListing.toJson = notesText ∧ ∃ running last commit,
      (listingSystem plainLocale text).Reaches running last ∧
      running.Finished 0 (.mutate 7 [insertNotes]) (.mutated true) ∧
      last.Finished 1 (.list 7 firstPage) (.listing (.ok notesListing)) ∧
      Commits commit ∧
      ListedFrom plainLocale (SeenAfter [commit] last.moment.trace) 7 firstPage notesListing := by
  obtain ⟨text, written, readsBack⟩ := exists_jsonText
  have begun : (listingSystem plainLocale text).initial emptyCache := ⟨fun _ => rfl, rfl, rfl⟩
  obtain ⟨running, ran, mutated, length, commit, bump, trace, commits, mine⟩ : ∃ running,
      (listingSystem plainLocale text).run emptyCache
        [.start (.mutate 7 [insertNotes]), .resume 0 .done, .resume 0 .done] = some running ∧
      running.Finished 0 (.mutate 7 [insertNotes]) (.mutated true) ∧ running.calls.length = 1 ∧
      ∃ commit bump, running.moment.trace = [bump, commit] ∧ Commits commit ∧ commit.caller = 0 :=
    ⟨_, rfl, rfl, rfl, _, _, rfl, ⟨insertNotes, rfl⟩, rfl⟩
  obtain ⟨last, further, listed⟩ : ∃ last,
      (listingSystem plainLocale text).run running
        [.start (.list 7 firstPage), .resume 1 .done, .resume 1 .done, .resume 1 .done,
          .resume 1 .done, .resume 1 .done, .resume 1 .done] = some last ∧
      last.Finished 1 (.list 7 firstPage) (.listing (.ok (buildResponse firstPage
        (countFiles (insertNotes contentOnly) firstPage 7 +
          countFolders (insertNotes contentOnly) firstPage 7)
        (queryAll plainLocale (insertNotes contentOnly) firstPage 7)))) := by
    cases ran
    exact ⟨_, rfl, rfl⟩
  rw [notes_listed] at listed
  have reachable := (listingSystem plainLocale text).reachable_of_run begun ran
  have path := (listingSystem plainLocale text).reaches_of_run further
  refine ⟨text, written, running, last, commit, path, mutated, listed, commits, ?_⟩
  exact (lists_nothing_superseded readsBack).1 running last reachable path 0 1 7 [insertNotes]
    firstPage notesListing mutated (Nat.le_of_eq length) listed commit []
    (by rw [trace]; exact List.suffix_cons _ _) mine commits

end Sample

end Guarantees

end DiskServer.Files
