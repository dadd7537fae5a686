import DiskServer.Proof.Drive.FolderSessions

namespace DiskServer.Drive

open Library

variable {forest next : Forest} {slot userId target : Nat} {session : FolderSession}

/-- Every moved root is followed by the update that locks its target. -/
def Secured (target : Nat) : List FolderStatement → Prop
  | [] => True
  | .updateFolderLocationForMove _ moved _ _ :: rest =>
      (moved = target ∧ (target = 0 ∨ ∃ delta, .applyItemCountDelta target delta ∈ rest)) ∧
        Secured target rest
  | .fetchMovePlans _ moved :: rest => moved = target ∧ Secured target rest
  | .queryOccupiedFolderNames _ moved _ _ :: rest => moved = target ∧ Secured target rest
  | .findParent _ _ :: _ => False
  | .insertIfNameAvailable _ :: _ => False
  | .fetchTrashPlans _ _ :: _ => False
  | .deleteFoldersByIds _ :: _ => False
  | _ :: rest => Secured target rest

/-- The parent of a created folder is anchored before the folder is written. -/
def CreateSteps (userId : Nat) (anchored : Nat → Prop) : List FolderStatement → Prop
  | [] => True
  | .acquireNameLock _ _ :: rest => CreateSteps userId anchored rest
  | .applyItemCountDelta folderId _ :: rest =>
      CreateSteps userId (fun other => other = folderId ∨ anchored other) rest
  | .findParent parentId _ :: rest => anchored parentId ∧ rest = []
  | .insertIfNameAvailable folder :: rest =>
      folder.userId = userId ∧ anchored folder.parentId ∧ rest = []
  | _ :: _ => False

/-- The root, or a folder whose row lock the transaction holds. -/
def Forest.Anchored (forest : Forest) (slot userId folderId : Nat) : Prop :=
  folderId = 0 ∨ forest.Holds slot userId folderId

/-- A move may write its target as a parent once the target is locked or will be. -/
def Forest.MayMoveTo (forest : Forest) (slot userId target : Nat) (todo : List FolderStatement)
    (parentId : Nat) : Prop :=
  parentId = target ∧ (forest.Anchored slot userId target ∨
    ∃ delta, .applyItemCountDelta target delta ∈ todo)

/-- A move writes rows whose parents it has locked. -/
structure Forest.Moving (forest : Forest) (slot target : Nat) (session : FolderSession) : Prop where
  created : session.created = none
  removed : session.removed = []
  writes : forest.Writes slot session.userId
    (forest.MayMoveTo slot session.userId target session.todo) session.writes
  secured : Secured target session.todo

/-- A creation inserts one folder below a locked parent and moves none. -/
structure Forest.Creating (forest : Forest) (slot : Nat) (session : FolderSession) : Prop where
  removed : session.removed = []
  writes : forest.Writes slot session.userId (fun _ => False) session.writes
  created : ∀ folder, session.created = some folder → folder.userId = session.userId ∧
    forest.Anchored slot session.userId folder.parentId
  steps : CreateSteps session.userId (forest.Anchored slot session.userId) session.todo

/-- A discovered folder is locked, will be locked or is gone. -/
structure Forest.Locking (forest : Forest) (slot : Nat) (pending : List Nat) (session : FolderSession) :
    Prop where
  writes : session.writes = []
  removed : session.removed = []
  known : ∀ folderId ∈ session.lockedFolderIds, folderId < forest.db.folders.next ∧
    (folderId ∈ pending ∨ forest.locks.Held slot (.folder folderId) ∨
      ∀ row ∈ forest.db.folders.rows, row.userId = session.userId → row.id ≠ folderId)

/-- The phases of a session that moves folders to the trash. -/
inductive Forest.TrashPhase (forest : Forest) (slot : Nat) (session : FolderSession) : Prop
  | locking (pending folderIds : List Nat) (fileDeltas : List (Nat × Int))
      (todo : session.todo = pending.map .findOwnedFolderForUpdate ++
        [.fetchTrashPlans folderIds fileDeltas])
      (locking : forest.Locking slot pending session)
  | deleting (deltas : List (Nat × Int)) (folderIds : List Nat)
      (todo : session.todo = itemCountStatements deltas ++ [.deleteFoldersByIds folderIds])
      (removed : session.removed = []) (seals : forest.Seals slot session.userId folderIds)
  | deleted (todo : session.todo = []) (seals : forest.Seals slot session.userId session.removed)

/-- A deletion creates no folder and moves none. -/
structure Forest.Trashing (forest : Forest) (slot : Nat) (session : FolderSession) : Prop where
  created : session.created = none
  writes : forest.Writes slot session.userId (fun _ => False) session.writes
  phase : forest.TrashPhase slot session

/-- Every open session is one of the three requests. -/
inductive Forest.SessionInv (forest : Forest) (slot : Nat) (session : FolderSession) : Prop
  | moving (target : Nat) (moving : forest.Moving slot target session)
  | creating (creating : forest.Creating slot session)
  | trashing (trashing : forest.Trashing slot session)

/-- The committed folders form a forest, and every open transaction is in one of its phases. -/
structure Forest.Inv (forest : Forest) : Prop where
  tree : IsForest forest.db.folders
  sessions : ∀ slot session, forest.sessions slot = some session → forest.SessionInv slot session

theorem CreateSteps.mono {anchored wider : Nat → Prop} {todo : List FolderStatement}
    (steps : CreateSteps userId anchored todo)
    (implied : ∀ folderId, anchored folderId → wider folderId) : CreateSteps userId wider todo := by
  induction todo generalizing anchored wider with
  | nil => trivial
  | cons statement rest ih =>
      cases statement with
      | acquireNameLock => exact ih steps implied
      | applyItemCountDelta => exact ih steps fun folderId => Or.imp_right (implied folderId)
      | findParent parentId => exact ⟨implied _ steps.1, steps.2⟩
      | insertIfNameAvailable folder => exact ⟨steps.1, implied _ steps.2.1, steps.2.2⟩
      | _ => exact steps.elim

section Frames

variable (frames : Forest.Frames slot forest next)

include frames

theorem Forest.Frames.anchored {folderId : Nat} (anchored : forest.Anchored slot userId folderId) :
    next.Anchored slot userId folderId := anchored.imp_right frames.holds

theorem Forest.Frames.trashPhase (phase : forest.TrashPhase slot session) :
    next.TrashPhase slot session := by
  cases phase with
  | locking pending folderIds fileDeltas todo locking =>
      refine .locking pending folderIds fileDeltas todo ⟨locking.writes, locking.removed, ?_⟩
      intro folderId listed
      obtain ⟨bound, waits | held | gone⟩ := locking.known folderId listed
      · exact ⟨bound.trans_le frames.nextId, .inl waits⟩
      · exact ⟨bound.trans_le frames.nextId, .inr (.inl (frames.held _ held))⟩
      · refine ⟨bound.trans_le frames.nextId, .inr (.inr ?_)⟩
        rintro row present owned rfl
        obtain ⟨old, there, same, sameUser⟩ := frames.ids row present bound
        exact gone old there (sameUser.trans owned) same
  | deleting deltas folderIds todo removed seals =>
      exact .deleting deltas folderIds todo removed (frames.seals seals)
  | deleted todo seals => exact .deleted todo (frames.seals seals)

/-- The invariant of a session survives the steps of the others. -/
theorem Forest.Frames.sessionInv (inv : forest.SessionInv slot session) :
    next.SessionInv slot session := by
  cases inv with
  | moving target moving =>
      refine .moving target ⟨moving.created, moving.removed, frames.writes moving.writes ?_,
        moving.secured⟩
      rintro parentId ⟨same, anchored⟩
      exact ⟨same, anchored.imp_left frames.anchored⟩
  | creating creating =>
      refine .creating ⟨creating.removed, frames.writes creating.writes fun _ => id, ?_, ?_⟩
      · intro folder created
        obtain ⟨owned, anchored⟩ := creating.created folder created
        exact ⟨owned, frames.anchored anchored⟩
      · exact creating.steps.mono fun _ => frames.anchored
  | trashing trashing =>
      exact .trashing ⟨trashing.created, frames.writes trashing.writes fun _ => id,
        frames.trashPhase trashing.phase⟩

end Frames

section Execute

variable {keys : List FolderLock} {after : FolderSession} {rest : List FolderStatement}
  {hashOrder : List Nat}

/-- The own version of a row differs from the stored row only in what the session has written. -/
theorem Forest.Writes.current {mayMoveTo : Nat → Prop}
    (writes : forest.Writes slot session.userId mayMoveTo session.writes) {row : Folder}
    (present : row ∈ forest.db.folders.rows) :
    (session.current row).userId = row.userId ∧
      ((session.current row).parentId = row.parentId ∨
        (forest.locks.Held slot (.folder row.id) ∧ row.userId = session.userId ∧
          mayMoveTo (session.current row).parentId)) := by
  unfold FolderSession.current
  cases found : session.writes.find? fun written => written.id = row.id with
  | none => exact ⟨rfl, .inl rfl⟩
  | some written =>
      have same : written.id = row.id := by simpa using List.find?_some found
      obtain ⟨held, owner, stored, there, keyed, owned, parent⟩ :=
        writes written (List.mem_of_find?_eq_some found)
      obtain rfl := forest.db.folders.eq_of_key there present (keyed.trans same)
      exact ⟨owner.trans owned.symm, parent.imp_right fun goes => ⟨same ▸ held, owned, goes⟩⟩

theorem mem_view {folder : Folder} (present : folder ∈ (session.view forest.db).folders.rows) :
    ∃ row ∈ forest.db.folders.rows, session.current row = folder := by
  obtain ⟨row, stored, rfl⟩ := List.mem_map.mp present
  exact ⟨row, stored, by simp⟩

/-- An update writes the own version of one stored row and locks the row. -/
theorem FolderSession.update_some {mayMoveTo : Nat → Prop} {folderId : Nat} {change : Folder → Folder}
    (writes : forest.Writes slot session.userId mayMoveTo session.writes)
    (updated : session.update forest.db folderId change = some (keys, after)) :
    keys = [.folder folderId] ∧ ∃ row ∈ forest.db.folders.rows, row.id = folderId ∧
      row.userId = session.userId ∧ ∃ folder : Folder, folder.id = folderId ∧
        folder.userId = session.userId ∧
        (folder.parentId = row.parentId ∨ mayMoveTo folder.parentId) ∧
        after = { session with
          writes := change folder :: session.writes.filter fun written => written.id ≠ folderId } := by
  unfold FolderSession.update at updated
  split at updated
  · cases updated
  · rename_i folder found
    cases updated
    have owned := List.find?_some found
    simp only [Folder.owned, Bool.and_eq_true, beq_iff_eq] at owned
    obtain ⟨row, present, rfl⟩ := mem_view (List.mem_of_find?_eq_some found)
    obtain ⟨sameUser, parent⟩ := writes.current present
    refine ⟨rfl, row, present, ?_, sameUser.symm.trans owned.2, _, owned.1, owned.2, ?_, rfl⟩
    · exact (session.current_id row).symm.trans owned.1
    · exact parent.imp_right fun goes => goes.2.2

/-- A statement of the session changes no row and locks what it needs. -/
structure Forest.Locks (slot : Nat) (keys : List FolderLock) (forest next : Forest) : Prop where
  db : next.db = forest.db
  locks : next.locks = forest.locks.acquire slot keys

theorem Forest.Locks.frames (locks : Forest.Locks slot keys forest next) :
    Forest.Frames slot forest next :=
  .of_locks locks.db fun _ held => locks.locks ▸ held.acquire

theorem Forest.Locks.held (locks : Forest.Locks slot keys forest next) {key : FolderLock}
    (listed : key ∈ keys) : next.locks.Held slot key :=
  locks.locks ▸ Locks.held_acquire_of_mem listed

/-- The session keeps its writes in order when it updates one more row. -/
theorem Forest.Writes.update {mayMoveTo goes : Nat → Prop} {folderId : Nat} {change : Folder → Folder}
    (writes : forest.Writes slot session.userId mayMoveTo session.writes)
    (updated : session.update forest.db folderId change = some (keys, after))
    (locks : Forest.Locks slot keys forest next)
    (keyed : ∀ folder, (change folder).id = folder.id ∧ (change folder).userId = folder.userId)
    (implied : ∀ parentId, mayMoveTo parentId → goes parentId)
    (parent : ∀ folder, (change folder).parentId = folder.parentId ∨ goes (change folder).parentId) :
    next.Writes slot session.userId goes after.writes ∧ next.Holds slot session.userId folderId := by
  obtain ⟨rfl, row, present, rowKey, owned, folder, folderKey, owner, before, rfl⟩ :=
    FolderSession.update_some writes updated
  have held : next.locks.Held slot (.folder folderId) := locks.held (List.mem_singleton_self _)
  have stored : row ∈ next.db.folders.rows := locks.db ▸ present
  refine ⟨?_, held, row, stored, rowKey, owned⟩
  intro written listed
  rcases List.mem_cons.mp listed with rfl | old
  · refine ⟨?_, (keyed folder).2.trans owner, row, stored, ?_, owned, ?_⟩
    · rw [(keyed folder).1, folderKey]
      exact held
    · rw [(keyed folder).1, folderKey, rowKey]
    · rcases parent folder with same | moved
      · rw [same]
        exact before.imp_right (implied _)
      · exact .inr moved
  · exact locks.frames.writes writes implied written (List.mem_of_mem_filter old)

/-- An update of an item count locks its row and moves nothing. -/
theorem Forest.Writes.count {mayMoveTo : Nat → Prop} {folderId : Nat} {delta : Int}
    (writes : forest.Writes slot session.userId mayMoveTo session.writes)
    (executed : session.execute forest.db hashOrder rest (.applyItemCountDelta folderId delta) =
      some (keys, after))
    (locks : Forest.Locks slot keys forest next) :
    next.Writes slot session.userId mayMoveTo after.writes ∧
      next.Holds slot session.userId folderId ∧
      after = { session with writes := after.writes, todo := rest } := by
  obtain ⟨-, -, -, -, -, folder, -, -, -, rfl⟩ :=
    @FolderSession.update_some forest slot { session with todo := rest } keys after mayMoveTo folderId _
      writes executed
  obtain ⟨written, holds⟩ := @Forest.Writes.update forest next slot { session with todo := rest }
    keys _ mayMoveTo mayMoveTo folderId _ writes executed locks (fun _ => ⟨rfl, rfl⟩) (fun _ => id)
    fun _ => .inl rfl
  exact ⟨written, holds, rfl⟩

theorem Secured.append {first second : List FolderStatement} (one : Secured target first)
    (two : Secured target second) : Secured target (first ++ second) := by
  induction first with
  | nil => exact two
  | cons statement rest ih =>
      cases statement with
      | updateFolderLocationForMove folderId moved path depthDelta =>
          refine ⟨⟨one.1.1, one.1.2.imp_right ?_⟩, ih one.2⟩
          rintro ⟨delta, later⟩
          exact ⟨delta, List.mem_append_left _ later⟩
      | fetchMovePlans => exact ⟨one.1, ih one.2⟩
      | queryOccupiedFolderNames => exact ⟨one.1, ih one.2⟩
      | findOwnedFolderForUpdate => exact ih one
      | acquireNameLock => exact ih one
      | applyItemCountDelta => exact ih one
      | updateFolderPathForMove => exact ih one
      | reject => exact ih one
      | findParent => exact one.elim
      | insertIfNameAvailable => exact one.elim
      | fetchTrashPlans => exact one.elim
      | deleteFoldersByIds => exact one.elim

/-- The updates of one tree end with the update that locks the target. -/
theorem moveTreeStatements_secured (location : FolderLocation) (plan : FolderDeletePlan) :
    Secured target (moveTreeStatements target location plan) := by
  unfold moveTreeStatements
  simp only [List.append_assoc]
  generalize buildFolderPath location.path plan.root.name = newPrefix
  generalize (location.depth : Int) + 1 - plan.root.depth = depthDelta
  have source : Secured target
      (if 0 < plan.root.parentId then [.applyItemCountDelta plan.root.parentId (-1)] else []) := by
    split <;> trivial
  have last : Secured target (if 0 < target then [.applyItemCountDelta target 1] else []) := by
    split <;> trivial
  have locked : target = 0 ∨ ∃ delta, FolderStatement.applyItemCountDelta target delta ∈
      ((if 0 < plan.root.parentId then [.applyItemCountDelta plan.root.parentId (-1)] else []) ++
        if 0 < target then [FolderStatement.applyItemCountDelta target 1] else []) := by
    rcases Nat.eq_zero_or_pos target with top | positive
    · exact .inl top
    · exact .inr ⟨1, List.mem_append_right _ (by simp [positive])⟩
  have tail := source.append last
  generalize ((if 0 < plan.root.parentId then [.applyItemCountDelta plan.root.parentId (-1)] else []) ++
    if 0 < target then [FolderStatement.applyItemCountDelta target 1] else []) = rest at locked tail
  induction plan.folders with
  | nil => exact tail
  | cons folder others ih =>
      simp only [List.map_cons, List.cons_append]
      split
      · refine ⟨⟨rfl, locked.imp_right ?_⟩, ih⟩
        rintro ⟨delta, later⟩
        exact ⟨delta, List.mem_append_right _ later⟩
      · exact ih

theorem moveStatements_secured (location : FolderLocation) (plans : List (Nat × FolderDeletePlan))
    (occupied : List String) (folderIds : List Nat) :
    Secured target (moveStatements target location plans occupied folderIds) := by
  induction folderIds generalizing occupied with
  | nil => trivial
  | cons folderId rest ih =>
      unfold moveStatements
      split
      · exact ih occupied
      · split
        · trivial
        · split
          · exact ih occupied
          · exact (moveTreeStatements_secured location _).append (ih _)

/-- Statements that move nothing are secured in any number. -/
theorem Secured.map {Item : Type} {build : Item → FolderStatement}
    (harmless : ∀ item rest, Secured target rest → Secured target (build item :: rest))
    (items : List Item) : Secured target (items.map build) := by
  induction items with
  | nil => trivial
  | cons item rest ih => exact harmless item _ ih

/-- A move keeps its invariant when it updates a row without leaving its target behind. -/
theorem Forest.Moving.update {folderId : Nat} {change : Folder → Folder} {statement : FolderStatement}
    (moving : forest.Moving slot target session) (todo : session.todo = statement :: rest)
    (secured : Secured target rest)
    (updated : { session with todo := rest }.update forest.db folderId change = some (keys, after))
    (locks : Forest.Locks slot keys forest next)
    (keyed : ∀ folder, (change folder).id = folder.id ∧ (change folder).userId = folder.userId)
    (counts : ∀ delta, statement = .applyItemCountDelta target delta → folderId = target)
    (parent : ∀ folder, (change folder).parentId = folder.parentId ∨
      ((change folder).parentId = target ∧
        (target = 0 ∨ ∃ delta, .applyItemCountDelta target delta ∈ rest))) :
    next.Moving slot target after := by
  obtain ⟨-, -, -, -, -, folder, -, -, -, same⟩ :=
    @FolderSession.update_some forest slot { session with todo := rest } keys after _ folderId change
      moving.writes updated
  have anchors : ∀ parentId, forest.MayMoveTo slot session.userId target session.todo parentId →
      parentId = target ∧ (next.Anchored slot session.userId target ∨
        (∃ delta, .applyItemCountDelta target delta ∈ rest) ∨ folderId = target) := by
    rintro parentId ⟨goes, anchored | ⟨delta, waits⟩⟩
    · exact ⟨goes, .inl (locks.frames.anchored anchored)⟩
    · rw [todo] at waits
      rcases List.mem_cons.mp waits with now | later
      · exact ⟨goes, .inr (.inr (counts delta now.symm))⟩
      · exact ⟨goes, .inr (.inl ⟨delta, later⟩)⟩
  obtain ⟨writes, holds⟩ := @Forest.Writes.update forest next slot { session with todo := rest } keys
    after _ (fun parentId => parentId = target ∧ (next.Anchored slot session.userId target ∨
        (∃ delta, .applyItemCountDelta target delta ∈ rest) ∨ folderId = target)) folderId change
    moving.writes updated locks keyed anchors fun folder => (parent folder).imp_right
      fun moved => ⟨moved.1, moved.2.elim (fun top => .inl (.inl top)) fun later => .inr (.inl later)⟩
  subst same
  refine ⟨moving.created, moving.removed, writes.mono ?_, secured⟩
  rintro parentId ⟨goes, anchored | later | rfl⟩
  · exact ⟨goes, .inl anchored⟩
  · exact ⟨goes, .inr later⟩
  · exact ⟨goes, .inl (.inr holds)⟩

/-- A move keeps its invariant when only its list of statements changes. -/
theorem Forest.Moving.advance {todo : List FolderStatement} (moving : forest.Moving slot target session)
    (locks : Forest.Locks slot keys forest next) (secured : Secured target todo)
    (waits : ∀ delta, .applyItemCountDelta target delta ∈ session.todo →
      .applyItemCountDelta target delta ∈ todo) :
    next.Moving slot target { session with todo := todo } := by
  refine ⟨moving.created, moving.removed, locks.frames.writes moving.writes ?_, secured⟩
  rintro parentId ⟨goes, anchored | ⟨delta, waiting⟩⟩
  · exact ⟨goes, .inl (locks.frames.anchored anchored)⟩
  · exact ⟨goes, .inr ⟨delta, waits delta waiting⟩⟩

/-- Every statement of a move keeps the invariant of the move. -/
theorem Forest.Moving.execute {statement : FolderStatement} (moving : forest.Moving slot target session)
    (todo : session.todo = statement :: rest)
    (executed : session.execute forest.db hashOrder rest statement = some (keys, after))
    (locks : Forest.Locks slot keys forest next) : next.Moving slot target after := by
  have secured := moving.secured
  rw [todo] at secured
  have drop : ∀ delta, (∀ other, statement ≠ .applyItemCountDelta target other) →
      .applyItemCountDelta target delta ∈ session.todo → .applyItemCountDelta target delta ∈ rest := by
    intro delta differs waiting
    rw [todo] at waiting
    rcases List.mem_cons.mp waiting with now | later
    · exact absurd now.symm (differs delta)
    · exact later
  cases statement with
  | findOwnedFolderForUpdate folderId =>
      simp only [FolderSession.execute] at executed
      split at executed
      · cases executed
        exact moving.advance locks secured fun delta => drop delta (by simp)
      · cases executed
        exact moving.advance locks secured fun delta => drop delta (by simp)
  | acquireNameLock parentId name =>
      cases executed
      exact moving.advance locks secured fun delta => drop delta (by simp)
  | applyItemCountDelta folderId delta =>
      refine moving.update todo secured executed locks (fun _ => ⟨rfl, rfl⟩) ?_ fun _ => .inl rfl
      intro other same
      exact (FolderStatement.applyItemCountDelta.inj same).1
  | fetchMovePlans folderIds moved =>
      obtain ⟨rfl, later⟩ := secured
      simp only [FolderSession.execute] at executed
      split at executed
      · cases executed
      · cases executed
        refine moving.advance locks ?_ fun delta waiting => ?_
        · exact (Secured.map (fun _ _ => id) _).append ⟨rfl, later⟩
        · exact List.mem_append_right _ (List.mem_cons_of_mem _ (drop delta (by simp) waiting))
  | queryOccupiedFolderNames folderIds moved plans names =>
      obtain ⟨rfl, later⟩ := secured
      cases executed
      refine moving.advance locks ?_ fun delta waiting => ?_
      · exact (moveStatements_secured _ _ _ _).append later
      · exact List.mem_append_right _ (drop delta (by simp) waiting)
  | updateFolderLocationForMove folderId moved path depthDelta =>
      obtain ⟨⟨rfl, locked⟩, later⟩ := secured
      exact moving.update todo later executed locks (fun _ => ⟨rfl, rfl⟩) (by simp)
        fun _ => .inr ⟨rfl, locked⟩
  | updateFolderPathForMove folderId path depthDelta =>
      exact moving.update todo secured executed locks (fun _ => ⟨rfl, rfl⟩) (by simp) fun _ => .inl rfl
  | reject => cases executed
  | findParent => exact secured.elim
  | insertIfNameAvailable => exact secured.elim
  | fetchTrashPlans => exact secured.elim
  | deleteFoldersByIds => exact secured.elim

/-- Every statement of a creation keeps the invariant of the creation. -/
theorem Forest.Creating.execute {statement : FolderStatement} (creating : forest.Creating slot session)
    (todo : session.todo = statement :: rest)
    (executed : session.execute forest.db hashOrder rest statement = some (keys, after))
    (locks : Forest.Locks slot keys forest next) : next.Creating slot after := by
  have steps := creating.steps
  rw [todo] at steps
  have frames := locks.frames
  have created : ∀ folder, session.created = some folder → folder.userId = session.userId ∧
      next.Anchored slot session.userId folder.parentId := fun folder made =>
    ⟨(creating.created folder made).1, frames.anchored (creating.created folder made).2⟩
  have writes := frames.writes creating.writes fun _ => id
  cases statement with
  | acquireNameLock parentId name =>
      cases executed
      exact ⟨creating.removed, writes, created, CreateSteps.mono steps fun _ => frames.anchored⟩
  | applyItemCountDelta folderId delta =>
      obtain ⟨written, holds, same⟩ := creating.writes.count executed locks
      rw [same]
      refine ⟨creating.removed, written, created, CreateSteps.mono steps ?_⟩
      rintro other (rfl | anchored)
      · exact .inr holds
      · exact frames.anchored anchored
  | findParent parentId name =>
      obtain ⟨anchored, rfl⟩ := steps
      simp only [FolderSession.execute] at executed
      split at executed
      · cases executed
      · cases executed
        exact ⟨creating.removed, writes, created, rfl, frames.anchored anchored, rfl⟩
  | insertIfNameAvailable folder =>
      obtain ⟨owned, anchored, rfl⟩ := steps
      simp only [FolderSession.execute] at executed
      split at executed
      · cases executed
      · cases executed
        refine ⟨creating.removed, writes, ?_, trivial⟩
        intro made same
        cases same
        exact ⟨owned, frames.anchored anchored⟩
  | _ => exact steps.elim

/-- A session that has written nothing reads the committed state. -/
theorem view_eq (writes : session.writes = []) : session.view forest.db = forest.db := by
  have same : session.current = id := by
    funext folder
    simp [FolderSession.current, writes]
  have rows : (session.folders forest.db.folders).rows = forest.db.folders.rows := by
    change forest.db.folders.rows.map _ = _
    simp [same]
  have folders : session.folders forest.db.folders = forest.db.folders :=
    Serial.ext_rows rows rfl
  rw [FolderSession.view, folders]

theorem mem_discoveredFolderIds {topLevelFolderIds : List Nat} {plans : List (Nat × FolderDeletePlan)}
    {folderId : Nat} : folderId ∈ discoveredFolderIds topLevelFolderIds plans ↔
      ∃ topLevelId ∈ topLevelFolderIds, ∃ plan, findPlan plans topLevelId = some plan ∧
        ∃ folder ∈ plan.folders, folder.id = folderId := by
  simp only [discoveredFolderIds, mem_normalizeIds, List.mem_flatMap, List.mem_filterMap, List.mem_map]
  constructor
  · rintro ⟨plan, ⟨topLevelId, listed, found⟩, folder, inside, keyed⟩
    exact ⟨topLevelId, listed, plan, found, folder, inside, keyed⟩
  · rintro ⟨topLevelId, listed, plan, found, folder, inside, keyed⟩
    exact ⟨plan, ⟨topLevelId, listed, found⟩, folder, inside, keyed⟩

/-- The discovered folders are stored folders of the user, and the rows below them are discovered. -/
theorem discoveredFolderIds_closed {db : Db} {topLevelFolderIds : List Nat}
    {plans : List (Nat × FolderDeletePlan)} (valid : ∀ plan ∈ plans, PlanOf db userId plan) :
    (∀ folderId ∈ discoveredFolderIds topLevelFolderIds plans,
      ∃ row ∈ db.folders.rows, row.id = folderId ∧ row.userId = userId) ∧
    ∀ row ∈ db.folders.rows, row.userId = userId →
      row.parentId ∈ discoveredFolderIds topLevelFolderIds plans →
      row.id ∈ discoveredFolderIds topLevelFolderIds plans := by
  constructor
  · intro folderId discovered
    obtain ⟨topLevelId, -, plan, found, folder, inside, rfl⟩ := mem_discoveredFolderIds.mp discovered
    have planOf := valid _ (findPlan_some found)
    obtain ⟨root, stored, -, members⟩ := planOf.top
    exact ⟨folder, mem_of_below stored ((members folder).mp inside), rfl, planOf.owned folder inside⟩
  · intro row present owned discovered
    obtain ⟨topLevelId, listed, plan, found, folder, inside, keyed⟩ :=
      mem_discoveredFolderIds.mp discovered
    obtain ⟨root, stored, -, members⟩ := (valid _ (findPlan_some found)).top
    have below := (members folder).mp inside
    have linked : Folder.IsParent db userId row folder :=
      ⟨present, mem_of_below stored below, keyed.symm, owned⟩
    exact mem_discoveredFolderIds.mpr
      ⟨topLevelId, listed, plan, found, row, (members row).mpr (.head linked below), rfl⟩

theorem trash_itemCountStatements (fileDeltas : List (Nat × Int)) (topLevelFolderIds : List Nat)
    (plans : List (Nat × FolderDeletePlan)) :
    ∃ deltas, itemCountStatements fileDeltas ++ trashParentDeltas topLevelFolderIds plans =
      itemCountStatements deltas := by
  refine ⟨fileDeltas ++ (trashParentDeltas topLevelFolderIds plans).filterMap fun statement =>
    match statement with
    | .applyItemCountDelta folderId delta => some (folderId, delta)
    | _ => none, ?_⟩
  simp [itemCountStatements, trashParentDeltas, List.filterMap_map, Function.comp_def]

/-- The last read of the trash session seals the folders that it has found. -/
theorem Forest.Locking.fetch {folderIds : List Nat} {fileDeltas : List (Nat × Int)}
    (locking : forest.Locking slot [] session) (created : session.created = none)
    (executed : session.execute forest.db hashOrder [] (.fetchTrashPlans folderIds fileDeltas) =
      some (keys, after)) (locks : Forest.Locks slot keys forest next) :
    next.Trashing slot after := by
  simp only [FolderSession.execute] at executed
  split at executed
  · cases executed
  · rename_i plans view fetched
    rw [view_eq locking.writes] at fetched
    obtain ⟨-, valid⟩ := fetchBatchFolderDeletePlans_ok fetched
    obtain ⟨stored, closed⟩ :=
      @discoveredFolderIds_closed session.userId forest.db (filterCoveredFolderIds folderIds plans) plans
        valid
    have nothing : forest.Writes slot session.userId (fun _ => False) session.writes := by
      rw [locking.writes]
      intro written none
      cases none
    have writes := locks.frames.writes nothing fun _ => id
    generalize discoveredFolderIds (filterCoveredFolderIds folderIds plans) plans = discovered
      at executed stored closed
    split at executed
    · rename_i complete
      cases executed
      obtain ⟨deltas, same⟩ := trash_itemCountStatements fileDeltas
        (filterCoveredFolderIds folderIds plans) plans
      refine ⟨created, writes, .deleting deltas discovered ?_ locking.removed (locks.frames.seals ?_)⟩
      · rw [← same]
      · refine ⟨fun folderId listed => ?_, closed⟩
        obtain ⟨row, present, keyed, owned⟩ := stored folderId listed
        have known : folderId ∈ session.lockedFolderIds := by
          simpa using List.filter_eq_nil_iff.mp complete folderId listed
        obtain ⟨-, none | held | gone⟩ := locking.known folderId known
        · cases none
        · exact ⟨held, row, present, keyed, owned⟩
        · exact absurd keyed (gone row present owned)
    · cases executed
      refine ⟨created, writes, .locking _ folderIds fileDeltas rfl ⟨locking.writes, locking.removed, ?_⟩⟩
      intro folderId listed
      rw [locks.db]
      rcases List.mem_append.mp listed with old | new
      · obtain ⟨bound, none | held | gone⟩ := locking.known folderId old
        · cases none
        · exact ⟨bound, .inr (.inl (locks.frames.held _ held))⟩
        · exact ⟨bound, .inr (.inr gone)⟩
      · obtain ⟨row, present, rfl, -⟩ := stored folderId (List.mem_of_mem_filter new)
        exact ⟨(forest.db.folders.bounded row present).2, .inl new⟩

/-- A lock statement of the trash session settles one of its pending folders. -/
theorem Forest.Locking.lock {folderId : Nat} {pending : List Nat}
    (locking : forest.Locking slot (folderId :: pending) session)
    (locks : Forest.Locks slot keys forest next)
    (settled : .folder folderId ∈ keys ∨
      ∀ row ∈ forest.db.folders.rows, row.userId = session.userId → row.id ≠ folderId) :
    next.Locking slot pending { session with todo := rest } := by
  refine ⟨locking.writes, locking.removed, fun other listed => ?_⟩
  rw [locks.db]
  obtain ⟨bound, waits | held | gone⟩ := locking.known other listed
  · rcases List.mem_cons.mp waits with rfl | later
    · rcases settled with locked | gone
      · exact ⟨bound, .inr (.inl (locks.held locked))⟩
      · exact ⟨bound, .inr (.inr gone)⟩
    · exact ⟨bound, .inl later⟩
  · exact ⟨bound, .inr (.inl (locks.frames.held _ held))⟩
  · exact ⟨bound, .inr (.inr gone)⟩

/-- Every statement of a session for the trash keeps its invariant. -/
theorem Forest.Trashing.execute {statement : FolderStatement} (trashing : forest.Trashing slot session)
    (todo : session.todo = statement :: rest)
    (executed : session.execute forest.db hashOrder rest statement = some (keys, after))
    (locks : Forest.Locks slot keys forest next) : next.Trashing slot after := by
  cases trashing.phase with
  | locking pending folderIds fileDeltas shape locking =>
      rw [todo] at shape
      cases pending with
      | nil =>
          cases shape
          exact locking.fetch trashing.created executed locks
      | cons folderId pending =>
          cases shape
          have writes := locks.frames.writes trashing.writes fun _ => id
          simp only [FolderSession.execute, view_eq locking.writes] at executed
          split at executed
          · cases executed
            exact ⟨trashing.created, writes, .locking pending folderIds fileDeltas rfl
              (locking.lock locks (.inl (List.mem_singleton_self _)))⟩
          · rename_i absent
            cases executed
            refine ⟨trashing.created, writes, .locking pending folderIds fileDeltas rfl
              (locking.lock locks (.inr ?_))⟩
            intro row present owned keyed
            exact absent (List.any_eq_true.mpr ⟨row, present, by simp [Folder.owned, owned, keyed]⟩)
  | deleting deltas folderIds shape removed seals =>
      rw [todo] at shape
      cases deltas with
      | nil =>
          cases shape
          simp only [FolderSession.execute] at executed
          split at executed
          · cases executed
            exact ⟨trashing.created, locks.frames.writes trashing.writes fun _ => id,
              .deleted rfl (locks.frames.seals seals)⟩
          · cases executed
      | cons delta deltas =>
          cases shape
          obtain ⟨written, -, same⟩ := trashing.writes.count executed locks
          rw [same]
          exact ⟨trashing.created, written,
            .deleting deltas folderIds rfl removed (locks.frames.seals seals)⟩
  | deleted ended seals =>
      rw [todo] at ended
      cases ended

theorem Forest.SessionInv.execute {statement : FolderStatement} (inv : forest.SessionInv slot session)
    (todo : session.todo = statement :: rest)
    (executed : session.execute forest.db hashOrder rest statement = some (keys, after))
    (locks : Forest.Locks slot keys forest next) : next.SessionInv slot after := by
  cases inv with
  | moving target moving => exact .moving target (moving.execute todo executed locks)
  | creating creating => exact .creating (creating.execute todo executed locks)
  | trashing trashing => exact .trashing (trashing.execute todo executed locks)

end Execute

section Commit

/-- What a session has secured when it has nothing left to do. -/
structure Forest.Ready (forest : Forest) (slot target : Nat) (session : FolderSession) : Prop where
  writes : forest.Writes slot session.userId
    (fun parentId => parentId = target ∧ forest.Anchored slot session.userId target) session.writes
  seals : forest.Seals slot session.userId session.removed
  created : ∀ folder, session.created = some folder → folder.userId = session.userId ∧
    forest.Anchored slot session.userId folder.parentId
  exclusive : session.removed = [] ∨ (session.created = none ∧
    forest.Writes slot session.userId (fun _ => False) session.writes)

theorem Forest.SessionInv.ready (inv : forest.SessionInv slot session) (ended : session.todo = []) :
    ∃ target, forest.Ready slot target session := by
  have nothing : forest.Seals slot session.userId [] :=
    ⟨fun _ none => absurd none List.not_mem_nil, fun _ _ _ none => absurd none List.not_mem_nil⟩
  cases inv with
  | moving target moving =>
      refine ⟨target, moving.writes.mono ?_, moving.removed ▸ nothing, ?_, .inl moving.removed⟩
      · rintro parentId ⟨goes, anchored | ⟨delta, waits⟩⟩
        · exact ⟨goes, anchored⟩
        · rw [ended] at waits
          cases waits
      · intro folder made
        rw [moving.created] at made
        cases made
  | creating creating =>
      exact ⟨0, creating.writes.mono fun _ => False.elim, creating.removed ▸ nothing,
        creating.created, .inl creating.removed⟩
  | trashing trashing =>
      have made : ∀ folder, session.created = some folder → folder.userId = session.userId ∧
          forest.Anchored slot session.userId folder.parentId := by
        intro folder made
        rw [trashing.created] at made
        cases made
      refine ⟨0, trashing.writes.mono fun _ => False.elim, ?_, made,
        .inr ⟨trashing.created, trashing.writes⟩⟩
      cases trashing.phase with
      | locking pending folderIds fileDeltas todo _ => simp [ended] at todo
      | deleting deltas folderIds todo _ _ => simp [ended] at todo
      | deleted _ seals => exact seals

theorem mem_apply {committed : Serial Folder Folder.id} {row : Folder} :
    row ∈ (session.apply committed).rows ↔
      (∃ old ∈ committed.rows, session.current old = row ∧ old.id ∉ session.removed) ∨
        ∃ folder, session.created = some folder ∧ row = folder.row committed.next := by
  have kept : row ∈ ((session.folders committed).remove fun folder =>
      session.removed.contains folder.id).rows ↔
      ∃ old ∈ committed.rows, session.current old = row ∧ old.id ∉ session.removed := by
    change row ∈ (committed.rows.map _).filter _ ↔ _
    simp only [if_true, List.mem_filter, List.mem_map, List.contains_eq_mem, Bool.not_eq_eq_eq_not,
      Bool.not_true, decide_eq_false_iff_not]
    constructor
    · rintro ⟨⟨old, present, rfl⟩, outside⟩
      rw [session.current_id] at outside
      exact ⟨old, present, rfl, outside⟩
    · rintro ⟨old, present, rfl, outside⟩
      rw [session.current_id]
      exact ⟨⟨old, present, rfl⟩, outside⟩
  unfold FolderSession.apply
  cases created : session.created with
  | none => simpa using kept
  | some folder =>
      simp only [Option.some.injEq, exists_eq_left']
      exact List.mem_append.trans (or_congr kept List.mem_singleton)

theorem apply_next_le (committed : Serial Folder Folder.id) :
    committed.next ≤ (session.apply committed).next := by
  unfold FolderSession.apply
  cases session.created with
  | none => exact Nat.le_refl _
  | some folder => exact Nat.le_succ _

/-- The commit of one session leaves to every other session what it holds. -/
theorem Forest.Ready.frames (ready : forest.Ready slot target session) {other : Nat}
    (differs : other ≠ slot) :
    Forest.Frames other forest
      (forest.close slot { forest.db with folders := session.apply forest.db.folders }) where
  held := fun key held => held.release differs
  rows := by
    intro row present held
    refine mem_apply.mpr (.inl ⟨row, present, ?_, fun removed => ?_⟩)
    · unfold FolderSession.current
      cases found : session.writes.find? fun written => written.id = row.id with
      | none => rfl
      | some written =>
          have same : written.id = row.id := by simpa using List.find?_some found
          have mine := (ready.writes written (List.mem_of_find?_eq_some found)).1
          rw [same] at mine
          exact absurd (held.unique mine) differs
    · exact differs (held.unique (ready.seals.holds _ removed).1)
  children := by
    intro row present held positive
    have free : ¬ forest.Anchored slot session.userId row.parentId := by
      rintro (top | mine)
      · exact positive top
      · exact differs (held.unique mine.1)
    rcases mem_apply.mp present with ⟨old, there, rfl, -⟩ | ⟨folder, made, rfl⟩
    · obtain ⟨sameUser, same | ⟨-, -, goes, anchored⟩⟩ := ready.writes.current there
      · exact ⟨old, there, (session.current_id old).symm, same.symm, sameUser.symm⟩
      · exact absurd (goes ▸ anchored) free
    · exact absurd (ready.created folder made).2 free
  ids := by
    intro row present bound
    rcases mem_apply.mp present with ⟨old, there, rfl, -⟩ | ⟨folder, -, rfl⟩
    · exact ⟨old, there, (session.current_id old).symm, (ready.writes.current there).1.symm⟩
    · exact absurd bound (Nat.lt_irrefl _)
  nextId := apply_next_le _

/-- A commit is allowed when no row that it moves is above the new parent in the committed tree: the
check of `Move`, made again at its commit. -/
def Forest.Rechecked (forest : Forest) : ForestAction → Prop
  | .commit slot => ∀ session, forest.sessions slot = some session →
      ∀ folder ∈ forest.db.folders.rows, (session.current folder).parentId ≠ folder.parentId →
        ¬ ∃ inside, inside.id = (session.current folder).parentId ∧
          Folder.Below forest.db session.userId inside folder
  | _ => True

/-- A commit whose check still holds keeps the folders of every user a forest. -/
theorem Forest.Ready.isForest (ready : forest.Ready slot target session)
    (tree : IsForest forest.db.folders)
    (rechecked : ∀ folder ∈ forest.db.folders.rows,
      (session.current folder).parentId ≠ folder.parentId →
        ¬ ∃ inside, inside.id = (session.current folder).parentId ∧
          Folder.Below forest.db session.userId inside folder) :
    IsForest (session.apply forest.db.folders) := by
  have updated : IsForest (session.folders forest.db.folders) := by
    refine tree.update target (fun folder present => (ready.writes.current present).1) ?_
    intro folder present differs
    obtain ⟨-, same | ⟨-, owned, goes, anchored⟩⟩ := ready.writes.current present
    · exact absurd same differs
    · refine ⟨goes, fun positive => ?_, fun climbed => ?_⟩
      · obtain ⟨-, row, stored, keyed, sameUser⟩ := anchored.resolve_left positive
        exact ⟨row, stored, keyed, sameUser.trans owned.symm⟩
      · rw [owned] at climbed
        obtain ⟨inside, keyed, below⟩ := below_of_climbs present climbed
        exact rechecked folder present differs ⟨inside, keyed.trans goes.symm, below⟩
  have listed : ∀ row ∈ forest.db.folders.rows,
      session.current row ∈ (session.folders forest.db.folders).rows := fun row present =>
    List.mem_map.mpr ⟨row, present, by simp⟩
  have kept : IsForest ((session.folders forest.db.folders).remove fun folder =>
      session.removed.contains folder.id) := by
    refine @IsForest.remove _ updated session.removed session.userId ?_ ?_
    · intro folderId removed
      obtain ⟨-, row, present, keyed, owned⟩ := ready.seals.holds folderId removed
      exact ⟨session.current row, listed row present, (session.current_id row).trans keyed,
        (ready.writes.current present).1.trans owned⟩
    · intro folder present owned inside
      rcases ready.exclusive with none | ⟨-, keeps⟩
      · rw [none] at inside
        cases inside
      · obtain ⟨row, stored, rfl⟩ := List.mem_map.mp present
        simp only [if_true] at owned inside ⊢
        obtain ⟨sameUser, same | ⟨-, -, moved⟩⟩ := keeps.current stored
        · rw [session.current_id]
          exact ready.seals.closed row stored (sameUser.symm.trans owned) (same ▸ inside)
        · exact moved.elim
  unfold FolderSession.apply
  cases made : session.created with
  | none => exact kept
  | some folder =>
      refine kept.insert fun positive => ?_
      obtain ⟨owner, anchored⟩ := ready.created folder made
      obtain ⟨-, row, present, keyed, owned⟩ := anchored.resolve_left positive
      refine ⟨session.current row, ?_, (session.current_id row).trans keyed,
        ((ready.writes.current present).1.trans owned).trans owner.symm⟩
      refine List.mem_filter.mpr ⟨listed row present, ?_⟩
      have nothing : session.removed = [] := by
        rcases ready.exclusive with nothing | ⟨none, -⟩
        · exact nothing
        · rw [none] at made
          cases made
      simp [nothing]

/-- Closing a slot without a change leaves to every other session what it holds. -/
theorem Forest.frames_close {other : Nat} (differs : other ≠ slot) :
    Forest.Frames other forest (forest.close slot forest.db) :=
  .of_locks rfl fun _ held => held.release differs

theorem FolderRequest.sessionInv (request : FolderRequest) (location : FolderLocation) :
    forest.SessionInv slot ⟨userId, location, [], [], none, [], request.statements⟩ := by
  have nothing : ∀ mayMoveTo, forest.Writes slot userId mayMoveTo [] := fun _ _ none =>
    absurd none List.not_mem_nil
  cases request with
  | move folderIds targetFolderId fileDeltas =>
      refine .moving targetFolderId ⟨rfl, rfl, nothing _, ?_⟩
      exact ((Secured.map (fun _ _ => id) _).append (Secured.map (fun _ _ => id) _)).append ⟨rfl, trivial⟩
  | createFolder parentId name =>
      refine .creating ⟨rfl, nothing _, (fun folder made => by cases made), ?_⟩
      by_cases below : 0 < parentId
      · simp only [FolderRequest.statements, below, if_true]
        exact ⟨.inl rfl, rfl⟩
      · simp only [FolderRequest.statements, below, if_false]
        exact ⟨.inl (Nat.eq_zero_of_not_pos below), rfl⟩
  | moveToTrash folderIds fileDeltas =>
      refine .trashing ⟨rfl, nothing _, .locking [] (normalizeIds folderIds) fileDeltas rfl ?_⟩
      exact ⟨rfl, rfl, fun folderId none => absurd none List.not_mem_nil⟩

/-- The invariant follows for the sessions that a step leaves open. -/
theorem Forest.Inv.of_frames (inv : forest.Inv) (tree : IsForest next.db.folders)
    (own : ∀ session, next.sessions slot = some session → next.SessionInv slot session)
    (others : ∀ other, other ≠ slot → next.sessions other = forest.sessions other ∧
      Forest.Frames other forest next) : next.Inv := by
  refine ⟨tree, fun other session opened => ?_⟩
  by_cases same : other = slot
  · subst same
    exact own session opened
  · obtain ⟨unchanged, frames⟩ := others other same
    exact frames.sessionInv (inv.sessions other session (unchanged ▸ opened))

theorem Forest.Inv.close (inv : forest.Inv) : (forest.close slot forest.db).Inv := by
  refine @Forest.Inv.of_frames _ _ slot inv inv.tree ?_ fun other differs =>
    ⟨Function.update_of_ne differs _ _, Forest.frames_close differs⟩
  intro session opened
  simp [Forest.close] at opened

/-- Every step keeps the invariant when each commit passes the check again. -/
theorem Forest.Inv.step {action : ForestAction} (inv : forest.Inv) (allowed : forest.Rechecked action)
    (moved : forest.step action = some next) : next.Inv := by
  cases action with
  | start slot userId request =>
      simp only [Forest.step] at moved
      split at moved
      · rename_i location closed found
        cases moved
        have frames : ∀ other, Forest.Frames other forest { forest with
            sessions := Function.update forest.sessions slot
              (some ⟨userId, location, [], [], none, [], request.statements⟩) } := fun other =>
          .of_locks rfl fun _ held => held
        refine @Forest.Inv.of_frames _ _ slot inv inv.tree ?_ fun other differs =>
          ⟨Function.update_of_ne differs _ _, frames other⟩
        intro session opened
        simp only [Function.update_self, Option.some.injEq] at opened
        subst opened
        exact request.sessionInv location
      · cases moved
  | execute slot hashOrder =>
      obtain ⟨session, opened, executed⟩ := Option.bind_eq_some_iff.mp moved
      unfold Forest.execute at executed
      split at executed
      · cases executed
      · rename_i statement rest todo
        split at executed
        · cases executed
          exact inv.close
        · rename_i keys after ran
          split at executed
          · rename_i free
            cases executed
            rw [List.all_eq_true] at free
            refine @Forest.Inv.of_frames _ _ slot inv inv.tree ?_ fun other differs =>
              ⟨Function.update_of_ne differs _ _, .of_locks rfl fun _ held =>
                held.acquire_other free differs⟩
            intro current same
            simp only [Function.update_self, Option.some.injEq] at same
            subst same
            exact (inv.sessions slot session opened).execute todo ran ⟨rfl, rfl⟩
          · cases executed
  | commit slot =>
      obtain ⟨session, opened, committed⟩ := Option.bind_eq_some_iff.mp moved
      split at committed
      · rename_i ended
        cases committed
        obtain ⟨target, ready⟩ := (inv.sessions slot session opened).ready ended
        refine @Forest.Inv.of_frames _ _ slot inv (ready.isForest inv.tree (allowed session opened)) ?_
          fun other differs => ⟨Function.update_of_ne differs _ _, ready.frames differs⟩
        intro current same
        simp [Forest.close] at same
      · cases committed
  | abort slot =>
      cases moved
      exact inv.close

/-- The empty drive satisfies the invariant. -/
theorem Forest.empty_inv : Forest.empty.Inv where
  tree := fun folder none => absurd none List.not_mem_nil
  sessions := fun slot session opened => by cases opened

/-- In every run whose commits pass the check again, the folders of every user stay a forest. -/
theorem folders_acyclic_of_rechecked_run
    (reachable : forestSystem.ReachableWhen Forest.Rechecked forest) : IsForest forest.db.folders := by
  refine (reachable.invariant Forest.Inv ?_ ?_).tree
  · rintro _ rfl
    exact Forest.empty_inv
  · intro state action after inv allowed moved
    exact inv.step allowed moved

/-- The check of `Move` as a computation on the committed tree. -/
def Forest.recheck (forest : Forest) : ForestAction → Bool
  | .commit slot => (forest.sessions slot).all fun session => forest.db.folders.rows.all fun folder =>
      (session.current folder).parentId = folder.parentId ||
        (fetchFolderSubtree forest.db folder session.userId).any fun tree =>
          tree.all fun inside => inside.id ≠ (session.current folder).parentId
  | _ => true

/-- A commit that passes the check again is rechecked. -/
theorem Forest.rechecked_of_recheck {action : ForestAction} (passed : forest.recheck action = true) :
    forest.Rechecked action := by
  cases action with
  | commit slot =>
      intro session opened folder present differs
      rintro ⟨inside, keyed, below⟩
      simp only [Forest.recheck, opened, Option.all_some, List.all_eq_true] at passed
      have checked := passed folder present
      simp only [differs, decide_false, Bool.false_or, Option.any_eq_true] at checked
      obtain ⟨tree, found, outside⟩ := checked
      have listed := (mem_fetchFolderSubtree present found inside).mpr below
      exact absurd keyed (by simpa using List.all_eq_true.mp outside inside listed)
  | start => trivial
  | execute => trivial
  | abort => trivial

/-- The next statements of one session. -/
def executeMany (count slot : Nat) : List ForestAction := List.replicate count (.execute slot [])

/-- One user creates a folder at the root in a session of its own. -/
def createAtRoot (name : String) : List ForestAction :=
  .start 0 1 (.createFolder 0 name) :: executeMany 3 0 ++ [.commit 0]

/-- A folder is moved into its sibling. -/
theorem folders_acyclic_of_rechecked_run_move : ∃ forest,
    forestSystem.ReachableWhen Forest.Rechecked forest ∧
    forest.db.folders.rows.map (fun folder => (folder.id, folder.parentId)) = [(1, 2), (2, 0)] ∧
    IsForest forest.db.folders := by
  obtain ⟨forest, reachable, checked⟩ := forestSystem.exists_reachableWhen_of_runWhen
    (fun forest action => forest.recheck action = true)
    (createAtRoot "A" ++ createAtRoot "B" ++ .start 1 1 (.move [1] 2 []) :: executeMany 6 1 ++ [.commit 1])
    (fun forest => forest.db.folders.rows.map (fun folder => (folder.id, folder.parentId)) =
      [(1, 2), (2, 0)]) rfl (by decide +kernel)
  have guarded := reachable.mono fun _ _ => Forest.rechecked_of_recheck
  exact ⟨forest, guarded, of_decide_eq_true checked, folders_acyclic_of_rechecked_run guarded⟩

/-- Two moves that each pass their own check put a folder below itself. -/
theorem folders_acyclic_fails :
    ¬ ∀ forest, forestSystem.Reachable forest → IsForest forest.db.folders := by
  intro always
  obtain ⟨forest, reachable, checked⟩ := forestSystem.exists_reachable_of_run
    (createAtRoot "A" ++ createAtRoot "B" ++
      .start 0 1 (.createFolder 2 "D") :: executeMany 4 0 ++ [.commit 0] ++
      .start 2 1 (.move [2] 1 []) :: executeMany 4 2 ++
      .start 1 1 (.move [1] 3 []) :: executeMany 6 1 ++ [.commit 1] ++
      executeMany 3 2 ++ [.commit 2])
    (fun forest => forest.db.folders.rows.map (fun folder => (folder.id, folder.parentId)) =
      [(1, 3), (2, 1), (3, 2)]) rfl (by decide +kernel)
  have shape := of_decide_eq_true checked
  have parents : ∀ folder ∈ forest.db.folders.rows, folder.parentId ≠ 0 := by
    intro folder present top
    have listed := List.mem_map_of_mem (f := fun folder : Folder => (folder.id, folder.parentId)) present
    rw [shape, top] at listed
    simp at listed
  have never : ∀ userId folderId, ReachesRoot forest.db.folders userId folderId → folderId = 0 := by
    intro userId folderId rooted
    induction rooted with
    | top => rfl
    | under present _ ih => exact absurd ih (parents _ present.1)
  obtain ⟨folder, present, one⟩ : ∃ folder ∈ forest.db.folders.rows,
      (folder.id, folder.parentId) = (1, 3) := List.mem_map.mp (shape ▸ by simp)
  have top := never _ _ (always forest reachable folder present)
  rw [(Prod.mk.inj one).1] at top
  cases top

end Commit

end DiskServer.Drive
