import DiskServer.Construction.Drive.FileMutationService
import DiskServer.Construction.Drive.FolderService
import DiskServer.Library.Locks

/-
This file gives the requests that change the folder tree as sessions whose statements interleave.
-/

namespace DiskServer.Drive

open Library

inductive FolderLock where
  | folder (folderId : Nat)
  | name (userId parentId : Nat) (name : String)
  deriving Repr, DecidableEq

/-- The files of a request change no folder but the item counts that it lists here. -/
inductive FolderRequest where
  | move (folderIds : List Nat) (targetFolderId : Nat) (fileDeltas : List (Nat × Int))
  | createFolder (parentId : Nat) (name : String)
  | moveToTrash (folderIds : List Nat) (fileDeltas : List (Nat × Int))
  deriving Repr, DecidableEq

inductive FolderStatement where
  | findOwnedFolderForUpdate (folderId : Nat)
  | acquireNameLock (parentId : Nat) (name : String)
  | applyItemCountDelta (folderId : Nat) (delta : Int)
  | fetchMovePlans (folderIds : List Nat) (targetFolderId : Nat)
  | queryOccupiedFolderNames (folderIds : List Nat) (targetFolderId : Nat)
      (plans : List (Nat × FolderDeletePlan)) (names : List String)
  | updateFolderLocationForMove (folderId targetFolderId : Nat) (path : String) (depthDelta : Int)
  | updateFolderPathForMove (folderId : Nat) (path : String) (depthDelta : Int)
  | reject
  | findParent (parentId : Nat) (name : String)
  | insertIfNameAvailable (folder : NewFolder)
  | fetchTrashPlans (folderIds : List Nat) (fileDeltas : List (Nat × Int))
  | deleteFoldersByIds (folderIds : List Nat)
  deriving Repr, DecidableEq

structure FolderSession where
  userId : Nat
  location : FolderLocation
  lockedFolderIds : List Nat
  writes : List Folder
  created : Option NewFolder
  removed : List Nat
  todo : List FolderStatement

namespace FolderSession

def current (session : FolderSession) (folder : Folder) : Folder :=
  (session.writes.find? fun written => written.id = folder.id).getD folder

theorem current_id (session : FolderSession) (folder : Folder) :
    (session.current folder).id = folder.id := by
  unfold current
  cases found : session.writes.find? fun written => written.id = folder.id with
  | none => rfl
  | some written => simpa using List.find?_some found

def folders (session : FolderSession) (committed : Serial Folder Folder.id) : Serial Folder Folder.id :=
  committed.update (fun _ => true) session.current session.current_id

/-- A statement reads the last committed state and what its own session has written. -/
def view (session : FolderSession) (db : Db) : Db := { db with folders := session.folders db.folders }

def update (session : FolderSession) (db : Db) (folderId : Nat) (change : Folder → Folder) :
    Option (List FolderLock × FolderSession) :=
  match (session.view db).folders.rows.find? fun folder => folder.owned folderId session.userId with
  | none => none
  | some folder => some ([.folder folderId],
      { session with
        writes := change folder :: session.writes.filter fun written => written.id ≠ folderId })

end FolderSession

def moveCandidateNames (topLevelFolderIds : List Nat) (targetFolderId : Nat)
    (plans : List (Nat × FolderDeletePlan)) : List String :=
  ((topLevelFolderIds.filterMap (findPlan plans)).filter fun plan =>
    plan.root.parentId ≠ targetFolderId).map fun plan => plan.root.name

def moveTreeStatements (targetFolderId : Nat) (location : FolderLocation) (plan : FolderDeletePlan) :
    List FolderStatement :=
  let newPrefix := buildFolderPath location.path plan.root.name
  let depthDelta := (location.depth : Int) + 1 - plan.root.depth
  let rebased (folder : Folder) := newPrefix ++ substrFrom folder.path plan.root.path.length
  (plan.folders.map fun folder =>
    if folder.id = plan.root.id then
      .updateFolderLocationForMove folder.id targetFolderId (rebased folder) depthDelta
    else
      .updateFolderPathForMove folder.id (rebased folder) depthDelta) ++
  (if 0 < plan.root.parentId then [.applyItemCountDelta plan.root.parentId (-1)] else []) ++
  if 0 < targetFolderId then [.applyItemCountDelta targetFolderId 1] else []

def moveStatements (targetFolderId : Nat) (location : FolderLocation)
    (plans : List (Nat × FolderDeletePlan)) : List String → List Nat → List FolderStatement
  | _, [] => []
  | occupied, folderId :: rest =>
      match findPlan plans folderId with
      | none => moveStatements targetFolderId location plans occupied rest
      | some plan =>
          if plan.folders.any fun folder => folder.id = targetFolderId then
            [.reject]
          else if plan.root.parentId = targetFolderId ∨ occupied.contains plan.root.name then
            moveStatements targetFolderId location plans occupied rest
          else
            moveTreeStatements targetFolderId location plan ++
              moveStatements targetFolderId location plans (plan.root.name :: occupied) rest

def discoveredFolderIds (topLevelFolderIds : List Nat) (plans : List (Nat × FolderDeletePlan)) :
    List Nat :=
  normalizeIds ((topLevelFolderIds.filterMap (findPlan plans)).flatMap fun plan =>
    plan.folders.map Folder.id)

def trashParentDeltas (topLevelFolderIds : List Nat) (plans : List (Nat × FolderDeletePlan)) :
    List FolderStatement :=
  let parents := ((topLevelFolderIds.filterMap (findPlan plans)).map fun plan =>
    plan.root.parentId).filter fun parentId => 0 < parentId
  (normalizeIds parents).map fun parentId =>
    .applyItemCountDelta parentId (-(parents.count parentId : Int))

def itemCountStatements (deltas : List (Nat × Int)) : List FolderStatement :=
  deltas.map fun delta => .applyItemCountDelta delta.1 delta.2

namespace FolderSession

def execute (session : FolderSession) (db : Db) (hashOrder : List Nat) (rest : List FolderStatement) :
    FolderStatement → Option (List FolderLock × FolderSession)
  | .findOwnedFolderForUpdate folderId =>
      if (session.view db).folders.rows.any fun folder => folder.owned folderId session.userId then
        some ([.folder folderId], { session with todo := rest })
      else
        some ([], { session with todo := rest })
  | .acquireNameLock parentId name =>
      some ([.name session.userId parentId name], { session with todo := rest })
  | .applyItemCountDelta folderId delta =>
      { session with todo := rest }.update db folderId fun folder =>
        { folder with itemCount := ((folder.itemCount : Int) + delta).toNat }
  | .fetchMovePlans folderIds targetFolderId =>
      match (fetchBatchFolderDeletePlans hashOrder folderIds session.userId).run (session.view db) with
      | .error _ => none
      | .ok (plans, _) =>
          let names := (moveCandidateNames (filterCoveredFolderIds folderIds plans) targetFolderId
            plans).dedup.insertionSort (· ≤ ·)
          some ([], { session with
            todo := names.map (.acquireNameLock targetFolderId) ++
              .queryOccupiedFolderNames folderIds targetFolderId plans names :: rest })
  | .queryOccupiedFolderNames folderIds targetFolderId plans names =>
      let occupied := Drive.queryOccupiedFolderNames (session.view db) targetFolderId session.userId names
      some ([], { session with
        todo := moveStatements targetFolderId session.location plans occupied
          (filterCoveredFolderIds folderIds plans) ++ rest })
  | .updateFolderLocationForMove folderId targetFolderId path depthDelta =>
      { session with todo := rest }.update db folderId fun folder =>
        { folder with
          parentId := targetFolderId
          path := path
          depth := shiftedDepth folder.depth depthDelta }
  | .updateFolderPathForMove folderId path depthDelta =>
      { session with todo := rest }.update db folderId fun folder =>
        { folder with path := path, depth := shiftedDepth folder.depth depthDelta }
  | .reject => none
  | .findParent parentId name =>
      match (resolveOwnedFolderLocation parentId session.userId).run (session.view db) with
      | .error _ => none
      | .ok (location, _) => some ([], { session with
          todo := .insertIfNameAvailable
            { userId := session.userId
              parentId := parentId
              name := name
              path := buildFolderPath location.path name
              depth := location.depth + 1
              itemCount := 0 } :: rest })
  | .insertIfNameAvailable folder =>
      if folderNameExists (session.view db) folder.userId folder.parentId folder.name then
        none
      else
        some ([], { session with created := some folder, todo := rest })
  | .fetchTrashPlans folderIds fileDeltas =>
      match (fetchBatchFolderDeletePlans hashOrder folderIds session.userId).run (session.view db) with
      | .error _ => none
      | .ok (plans, _) =>
          let topLevel := filterCoveredFolderIds folderIds plans
          let discovered := discoveredFolderIds topLevel plans
          let folderIdsToLock := discovered.filter fun folderId =>
            !session.lockedFolderIds.contains folderId
          if folderIdsToLock = [] then
            some ([], { session with
              todo := itemCountStatements fileDeltas ++ trashParentDeltas topLevel plans ++
                .deleteFoldersByIds discovered :: rest })
          else
            some ([], { session with
              lockedFolderIds := session.lockedFolderIds ++ folderIdsToLock
              todo := folderIdsToLock.map .findOwnedFolderForUpdate ++
                .fetchTrashPlans folderIds fileDeltas :: rest })
  | .deleteFoldersByIds folderIds =>
      let rows := (session.view db).folders.rows.filter fun folder => folderIds.contains folder.id
      if rows.length = folderIds.length then
        some (rows.map fun folder => .folder folder.id,
          { session with removed := folderIds, todo := rest })
      else
        none

def apply (session : FolderSession) (committed : Serial Folder Folder.id) : Serial Folder Folder.id :=
  let kept := (session.folders committed).remove fun folder => session.removed.contains folder.id
  match session.created with
  | none => kept
  | some folder => kept.insert folder.row fun _ => rfl

end FolderSession

def FolderRequest.statements : FolderRequest → List FolderStatement
  | .move folderIds targetFolderId fileDeltas =>
      itemCountStatements fileDeltas ++
        (normalizeIds folderIds).map .findOwnedFolderForUpdate ++
        [.fetchMovePlans (normalizeIds folderIds) targetFolderId]
  | .createFolder parentId name =>
      [.acquireNameLock parentId name] ++
        (if 0 < parentId then [.applyItemCountDelta parentId 1] else []) ++ [.findParent parentId name]
  | .moveToTrash folderIds fileDeltas => [.fetchTrashPlans (normalizeIds folderIds) fileDeltas]

/-- `Move` resolves its target before its transaction, so the location may be out of date later. -/
def FolderRequest.location (request : FolderRequest) (userId : Nat) (db : Db) : Option FolderLocation :=
  match request with
  | .move _ targetFolderId _ =>
      match (resolveOwnedFolderLocation targetFolderId userId).run db with
      | .ok (location, _) => some location
      | .error _ => none
  | _ => some {}

structure Forest where
  db : Db
  sessions : Nat → Option FolderSession
  locks : Locks FolderLock

inductive ForestAction where
  | start (slot userId : Nat) (request : FolderRequest)
  | execute (slot : Nat) (hashOrder : List Nat)
  | commit (slot : Nat)
  | abort (slot : Nat)
  deriving Repr, DecidableEq

namespace Forest

def close (forest : Forest) (slot : Nat) (db : Db) : Forest where
  db := db
  sessions := Function.update forest.sessions slot none
  locks := forest.locks.release slot

/-- A statement waits for the locks of other sessions, and one that fails rolls its session back. -/
def execute (forest : Forest) (slot : Nat) (hashOrder : List Nat) (session : FolderSession) :
    Option Forest :=
  match session.todo with
  | [] => none
  | statement :: rest =>
      match session.execute forest.db hashOrder rest statement with
      | none => some (forest.close slot forest.db)
      | some (keys, next) =>
          if keys.all (forest.locks.free slot) then
            some { forest with
              sessions := Function.update forest.sessions slot (some next)
              locks := forest.locks.acquire slot keys }
          else
            none

def step (forest : Forest) : ForestAction → Option Forest
  | .start slot userId request =>
      match forest.sessions slot, request.location userId forest.db with
      | none, some location => some { forest with
          sessions := Function.update forest.sessions slot
            (some ⟨userId, location, [], [], none, [], request.statements⟩) }
      | _, _ => none
  | .execute slot hashOrder => do
      let session ← forest.sessions slot
      forest.execute slot hashOrder session
  | .commit slot => do
      let session ← forest.sessions slot
      if session.todo = [] then
        some (forest.close slot { forest.db with folders := session.apply forest.db.folders })
      else
        none
  | .abort slot => some (forest.close slot forest.db)

def empty : Forest := ⟨Db.empty, fun _ => none, Locks.none⟩

end Forest

def forestSystem : TransitionSystem Forest ForestAction where
  initial := fun forest => forest = Forest.empty
  step := Forest.step

end DiskServer.Drive
