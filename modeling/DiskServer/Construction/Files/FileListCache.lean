import DiskServer.Construction.Files.FileList
import DiskServer.Construction.Redis.RedisService
import DiskServer.Library.Routine

/-
This file gives the listings and the mutations of several instances as routines on one database and one
Redis store.
-/

namespace DiskServer.Files

open Library Redis

section Commands

structure ListingWorld where
  now : Nat
  redis : Store
  db : ListingDb

inductive ListingRead where
  | folderFound
  | countFiles
  | countFolders
  | queryAll
  | queryFiles
  | queryFolders
  deriving Repr, DecidableEq

@[reducible] def ListingRead.Answer : ListingRead → Type
  | .folderFound => Bool
  | .countFiles => Int32
  | .countFolders => Int32
  | .queryAll => List FileListItem
  | .queryFiles => List FileListItem
  | .queryFolders => List FileListItem

def ListingRead.answer (locale : Locale) (db : ListingDb) (query : FileListQueryParams)
    (userId : UInt64) : (reading : ListingRead) → reading.Answer
  | .folderFound => Files.folderFound db query userId
  | .countFiles => Files.countFiles db query userId
  | .countFolders => Files.countFolders db query userId
  | .queryAll => Files.queryAll locale db query userId
  | .queryFiles => Files.queryFiles locale db query userId
  | .queryFolders => Files.queryFolders locale db query userId

inductive ListingCommand where
  | redis (command : RedisCommand)
  | read (userId : UInt64) (query : FileListQueryParams) (reading : ListingRead)
  | commit (change : ListingDb → ListingDb)

/-- A query answers nothing when it throws, and a commit tells whether it has returned. -/
@[reducible] def ListingCommand.Answer : ListingCommand → Type
  | .redis command => Except ErrorCode command.Answer
  | .read _ _ reading => Option reading.Answer
  | .commit _ => Bool

def executeListing (locale : Locale) (fate : RedisFate) :
    (command : ListingCommand) → ListingWorld → Option (command.Answer × ListingWorld)
  | .redis command, world =>
      let ended := command.execute fate world.now world.redis
      some (ended.1, { world with redis := ended.2 })
  | .read userId query reading, world =>
      some (if fate = .done then some (reading.answer locale world.db query userId) else none, world)
  | .commit change, world =>
      some (fate = .done, if fate.effective then { world with db := change world.db } else world)

def ListingWorld.tick (seconds : Nat) (world : ListingWorld) : ListingWorld :=
  { world with now := world.now + seconds }

def listingMachine (locale : Locale) :
    Machine ListingWorld ListingCommand RedisFate Nat ListingCommand.Answer where
  execute := executeListing locale
  happen := ListingWorld.tick

abbrev ListingRoutine := Routine ListingCommand ListingCommand.Answer

def askListing (command : ListingCommand) : ListingRoutine command.Answer := Routine.ask command

end Commands

section Cache

def fromChars (text : String) : Option UInt64 :=
  let value := Nat.ofDigitChars 10 text.toList 0
  if text ≠ "" ∧ text.toList.all Char.isDigit ∧ value < UInt64.size then
    some (UInt64.ofNat value)
  else
    none

def getVersion (userId : UInt64) : ListingRoutine (Except ErrorCode UInt64) := do
  match ← askListing (.redis (.get (buildFileListCacheVersionKey userId))) with
  | .error .redisKeyNotFound => pure (.ok 0)
  | .error code => pure (.error code)
  | .ok encoded =>
      match fromChars encoded with
      | some version => pure (.ok version)
      | none => pure (.error .redisOperationFailed)

/-- The caller learns here whether the increment was answered. -/
def invalidate (userId : UInt64) : ListingRoutine Bool := do
  match ← askListing (.redis (.incr (buildFileListCacheVersionKey userId))) with
  | .error _ => pure false
  | .ok _ => pure true

def entryTtlSeconds : Nat := 30

def cacheKey (userId version : UInt64) (query : FileListQueryParams) : String :=
  buildFileListCacheKey userId version.toNat query.parentId query.type.text query.sortBy.text
    query.sortOrder.text query.page query.pageSize

end Cache

section Listings

structure JsonText where
  writeString : Json → String
  parse : String → Option Json

variable (text : JsonText) (userId : UInt64) (query : FileListQueryParams)

inductive CacheRead where
  | hit (value : Json)
  | miss (key : String)
  | unavailable

def readCache : ListingRoutine CacheRead := do
  match ← getVersion userId with
  | .error _ => pure .unavailable
  | .ok version =>
      match ← askListing (.redis (.get (cacheKey userId version query))) with
      | .error .redisKeyNotFound => pure (.miss (cacheKey userId version query))
      | .error _ => pure .unavailable
      | .ok cached =>
          match text.parse cached with
          | some value => pure (.hit value)
          | none => pure (.miss (cacheKey userId version query))

def askRead (reading : ListingRead) : ListingRoutine (Option reading.Answer) :=
  askListing (.read userId query reading)

def FileListQuery.execute : ListingRoutine (Option FileListResponse) :=
  match query.type with
  | .all => do
      match ← askRead userId query .countFiles with
      | none => pure none
      | some files =>
          match ← askRead userId query .countFolders with
          | none => pure none
          | some folders =>
              let items ← askRead userId query .queryAll
              pure (items.map (buildResponse query (files + folders)))
  | .file => do
      match ← askRead userId query .countFiles with
      | none => pure none
      | some total =>
          let items ← askRead userId query .queryFiles
          pure (items.map (buildResponse query total))
  | .folder => do
      match ← askRead userId query .countFolders with
      | none => pure none
      | some total =>
          let items ← askRead userId query .queryFolders
          pure (items.map (buildResponse query total))

/-- The exception of a cached value that has no reading leaves the handler. -/
inductive ListFailure where
  | error (code : ErrorCode)
  | thrown
  deriving Repr, DecidableEq

def verifyFolder : ListingRoutine (Option Bool) :=
  if query.parentId = 0 then pure (some true) else askRead userId query .folderFound

def queryDatabase : ListingRoutine (Except ListFailure FileListResponse) := do
  if (← verifyFolder userId query) = some true then
    match ← FileListQuery.execute userId query with
    | none => pure (.error (.error .internalError))
    | some response => pure (.ok response)
  else
    pure (.error (.error .folderNotFound))

def getFileList : ListingRoutine (Except ListFailure FileListResponse) := do
  match ← readCache text userId query with
  | .hit value =>
      match FileListResponse.fromJson value with
      | .error _ => pure (.error .thrown)
      | .ok response => pure (.ok response)
  | .unavailable => queryDatabase userId query
  | .miss key =>
      match ← queryDatabase userId query with
      | .error failure => pure (.error failure)
      | .ok response =>
          let _ ← askListing (.redis (.set key (text.writeString response.toJson) entryTtlSeconds))
          pure (.ok response)

end Listings

section Mutations

/-- The transactions of a request, and whether one of them has committed. -/
def commitAll : List (ListingDb → ListingDb) → ListingRoutine Bool
  | [] => pure false
  | change :: rest => do
      let committed ← askListing (.commit change)
      let others ← commitAll rest
      pure (committed || others)

/-- A request that has committed something invalidates the listings of its user. -/
def mutate (userId : UInt64) (changes : List (ListingDb → ListingDb)) : ListingRoutine Bool := do
  if ← commitAll changes then
    invalidate userId
  else
    pure false

inductive ListingRequest where
  | list (userId : UInt64) (query : FileListQueryParams)
  | mutate (userId : UInt64) (changes : List (ListingDb → ListingDb))

inductive ListingResult where
  | listing (result : Except ListFailure FileListResponse)
  | mutated (invalidated : Bool)

def listingProgram (text : JsonText) : ListingRequest → ListingRoutine ListingResult
  | .list userId query => .listing <$> getFileList text userId query
  | .mutate userId changes => .mutated <$> mutate userId changes

/-- At the start the store is empty, and the database holds anything. -/
def listingSystem (locale : Locale) (text : JsonText) :=
  (listingMachine locale).system (listingProgram text) fun world => ∀ key, world.redis key = none

end Mutations

end DiskServer.Files
