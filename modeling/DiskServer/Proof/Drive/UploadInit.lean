import DiskServer.Proof.Drive.Conservation
import DiskServer.Proof.Drive.TaskFrame

namespace DiskServer.Drive

open Library Transaction Upload

/-- The task belongs to the user and the file hash of the request. -/
def UploadTask.Matches (task : UploadTask) (command : InitUploadCommand) : Prop :=
  task.userId = command.userId ∧ task.fileHash = command.fileHash

/-- The task has the folder, the filename and the size of the request. -/
def UploadTask.Asked (task : UploadTask) (command : InitUploadCommand) : Prop :=
  task.folderId = command.parentId ∧ task.filename = command.filename ∧
    task.fileSize = command.fileSize

instance (task : UploadTask) (command : InitUploadCommand) : Decidable (UploadTask.Asked task command) :=
  inferInstanceAs (Decidable (_ ∧ _))

/-- A response that is not instant names a task of its user and file hash, and the task that a
request has created is the one that it asked for. -/
def InitReply.Names (reply : InitReply) (db : Db) : Prop :=
  reply.branch ≠ .instant → ∃ task ∈ db.tasks.rows, task.id = reply.uploadId ∧
    UploadTask.Matches task reply.command ∧
      (reply.branch = .created → UploadTask.Asked task reply.command)

/-- The phases between the advisory lock and the commit. -/
def InitPhase.holdsLock : InitPhase → Bool
  | .findConcurrent _ | .createTask _ => true
  | _ => false

/-- The task that a request is about to return. -/
def InitPhase.foundTask : InitPhase → Option UploadTask
  | .expire task | .listResumed task | .listReused task => some task
  | _ => none

/-- What a running request knows about the drive and the locks. -/
structure InitSession.Valid (hashtextextended : String → Int) (db : Db) (locks : Locks Int) (slot : Nat)
    (session : InitSession) : Prop where
  command : session.command.valid = true
  locked : session.phase.holdsLock = true →
    locks.Held slot (hashtextextended (initLockKey session.command.userId session.command.fileHash))
  clear : ∀ staging, session.phase = .createTask staging → ∀ task ∈ db.tasks.rows,
    task.active = true → ¬ UploadTask.Matches task session.command
  found : ∀ task, session.phase.foundTask = some task → UploadTask.Matches task session.command ∧
    ∃ row ∈ db.tasks.rows, SameTask task row
  answer : ∀ reply, session.phase = .answer reply → reply.Names db

/-- Each user has at most one active task for each file hash. -/
def Db.OneActive (db : Db) : Prop :=
  ∀ first ∈ db.tasks.rows, ∀ second ∈ db.tasks.rows, first.active = true → second.active = true →
    first.userId = second.userId → first.fileHash = second.fileHash → first = second

/-- The invariant of concurrent initializations of uploads. -/
structure InitState.Inv (hashtextextended : String → Int) (state : InitState) : Prop where
  world : state.world.Inv
  oneActive : state.world.db.OneActive
  sessions : ∀ slot session, state.sessions slot = some session →
    session.Valid hashtextextended state.world.db state.locks slot
  replies : ∀ reply ∈ state.replies, reply.Names state.world.db
  creators : ∀ task ∈ state.world.db.tasks.rows, ∃ creator ∈ state.creators, creator.1 = task.id ∧
    UploadTask.Matches task creator.2 ∧ UploadTask.Asked task creator.2

section Names

variable {before after : Db} {command : InitUploadCommand}

theorem UploadTask.Matches.same {task next : UploadTask} (matched : UploadTask.Matches task command)
    (same : SameTask task next) : UploadTask.Matches next command :=
  ⟨same.userId.trans matched.1, same.fileHash.trans matched.2⟩

theorem UploadTask.Asked.same {task next : UploadTask} (asked : UploadTask.Asked task command)
    (same : SameTask task next) : UploadTask.Asked next command :=
  ⟨same.folderId.trans asked.1, same.filename.trans asked.2.1, same.fileSize.trans asked.2.2⟩

/-- A response stays right, because no task is deleted and its columns are fixed. -/
theorem InitReply.Names.mono {reply : InitReply} (names : reply.Names before)
    (later : Precedes before after) : reply.Names after := by
  intro named
  obtain ⟨task, present, keyed, matched, asked⟩ := names named
  obtain ⟨next, there, same⟩ := later.tasks task present
  exact ⟨next, there, same.id.trans keyed, matched.same same, fun created => (asked created).same same⟩

theorem taskReply_names {task row : UploadTask} {branch : InitBranch} {chunks : List Nat}
    (matched : UploadTask.Matches task command) (present : row ∈ before.tasks.rows)
    (same : SameTask task row) (asked : branch = .created → UploadTask.Asked task command) :
    (taskReply command branch task chunks).Names before :=
  fun _ => ⟨row, present, same.id, matched.same same, fun created => (asked created).same same⟩

theorem findActive_some {userId : Nat} {fileHash : String} {task : UploadTask}
    (found : findActiveByUserAndHash before userId fileHash = some task) :
    task ∈ before.tasks.rows ∧ task.userId = userId ∧ task.fileHash = fileHash := by
  have chosen := List.find?_some found
  simp only [Bool.and_eq_true, decide_eq_true_eq] at chosen
  exact ⟨List.mem_of_find?_eq_some found, chosen.1.1, chosen.1.2⟩

theorem findActive_none (absent : findActiveByUserAndHash before command.userId command.fileHash = none) :
    ∀ task ∈ before.tasks.rows, task.active = true → ¬ UploadTask.Matches task command := by
  intro task present active matched
  have skipped := List.find?_eq_none.mp absent task present
  simp [matched.1, matched.2, active] at skipped

end Names

namespace InitSession.Valid

variable {hashtextextended : String → Int} {before after : Db} {locks : Locks Int} {slot : Nat}
  {session : InitSession}

/-- Steps that add no active task keep what a request knows. -/
theorem mono (valid : session.Valid hashtextextended before locks slot)
    (later : Precedes before after) (settles : TasksSettle before after) :
    session.Valid hashtextextended after locks slot where
  command := valid.command
  locked := valid.locked
  clear := by
    intro staging creating task present active matched
    obtain ⟨old, there, same, still⟩ := settles task present
    refine valid.clear staging creating old there (still active) ?_
    exact ⟨same.userId.symm.trans matched.1, same.fileHash.symm.trans matched.2⟩
  found := by
    intro task found
    obtain ⟨matched, row, present, same⟩ := valid.found task found
    obtain ⟨next, there, again⟩ := later.tasks row present
    exact ⟨matched, next, there, same.trans again⟩
  answer := fun reply answering => (valid.answer reply answering).mono later

/-- A phase without lock, task and answer asks for nothing. -/
theorem plain {phase : InitPhase} (command : session.command.valid = true)
    (lock : phase.holdsLock = false) (task : phase.foundTask = none)
    (answer : ∀ reply, phase ≠ .answer reply) :
    InitSession.Valid hashtextextended before locks slot { session with phase := phase } where
  command := command
  locked := by simp [lock]
  clear := by
    rintro staging rfl
    cases lock
  found := by simp [task]
  answer := fun reply same => absurd same (answer reply)

theorem ofTask {phase : InitPhase} {task row : UploadTask} (command : session.command.valid = true)
    (lock : phase.holdsLock = false) (found : phase.foundTask = some task)
    (matched : UploadTask.Matches task session.command) (present : row ∈ before.tasks.rows)
    (same : SameTask task row) :
    InitSession.Valid hashtextextended before locks slot { session with phase := phase } where
  command := command
  locked := by simp [lock]
  clear := by
    rintro staging rfl
    cases lock
  found := by
    intro other there
    obtain rfl := Option.some.inj (found.symm.trans there)
    exact ⟨matched, row, present, same⟩
  answer := by
    rintro reply rfl
    cases found

theorem ofAnswer {reply : InitReply} (command : session.command.valid = true)
    (names : reply.Names before) :
    InitSession.Valid hashtextextended before locks slot { session with phase := .answer reply } where
  command := command
  locked := by simp [InitPhase.holdsLock]
  clear := by simp
  found := by simp [InitPhase.foundTask]
  answer := by
    rintro other same
    obtain rfl := InitPhase.answer.inj same
    exact names

end InitSession.Valid

namespace InitState

variable {hashtextextended : String → Int} {state next : InitState} {slot : Nat} {session : InitSession}

/-- A request that changes only its own phase and its own locks keeps the invariant. -/
theorem Inv.put (inv : state.Inv hashtextextended) {entry : Option InitSession} {locks : Locks Int}
    (kept : ∀ other key, other ≠ slot → state.locks.Held other key → locks.Held other key)
    (valid : ∀ session, entry = some session →
      session.Valid hashtextextended state.world.db locks slot) :
    Inv hashtextextended
      { state with sessions := Function.update state.sessions slot entry, locks := locks } where
  world := inv.world
  oneActive := inv.oneActive
  sessions := by
    intro other running found
    rcases update_some_cases found with ⟨rfl, written⟩ | ⟨differs, there⟩
    · exact valid running written
    · have before := inv.sessions other running there
      exact ⟨before.command, fun holds => kept other _ differs (before.locked holds), before.clear,
        before.found, before.answer⟩
  replies := inv.replies
  creators := inv.creators

theorem Inv.goto (inv : state.Inv hashtextextended) {phase : InitPhase}
    (valid : InitSession.Valid hashtextextended state.world.db state.locks slot
      { session with phase := phase }) : (state.goto slot session phase).Inv hashtextextended :=
  inv.put (fun _ _ _ held => held) fun _ same => (Option.some.inj same) ▸ valid

theorem Inv.finish (inv : state.Inv hashtextextended) : (state.finish slot).Inv hashtextextended :=
  inv.put (fun _ _ differs held => held.release differs) fun _ none => by cases none

theorem Inv.unlockGoto (inv : state.Inv hashtextextended) {phase : InitPhase}
    (valid : InitSession.Valid hashtextextended state.world.db (state.locks.release slot) slot
      { session with phase := phase }) :
    ((state.unlock slot).goto slot session phase).Inv hashtextextended :=
  inv.put (fun _ _ differs held => held.release differs) fun _ same => (Option.some.inj same) ▸ valid

theorem Inv.send (inv : state.Inv hashtextextended) {reply : InitReply}
    (names : reply.Names state.world.db) : (state.send slot reply).Inv hashtextextended := by
  have ended : (state.finish slot).Inv hashtextextended := inv.finish
  refine ⟨ended.world, ended.oneActive, ended.sessions, fun other present => ?_, ended.creators⟩
  rcases List.mem_cons.mp present with rfl | old
  · exact names
  · exact inv.replies other old

/-- A step of the drive that creates no task keeps the invariant. -/
theorem Inv.setWorld (inv : state.Inv hashtextextended) {world : World} {trusted : Prop}
    (steps : World.Steps trusted state.world world) (settles : TasksSettle state.world.db world.db) :
    (state.setWorld world).Inv hashtextextended := by
  obtain ⟨extra, amount, posts, -, -⟩ := steps.posts
  have later := posts.precedes
  refine ⟨inv.world.kept steps, ?_, ?_, ?_, ?_⟩
  · intro first one second two activeOne activeTwo user hash
    obtain ⟨old, there, same, still⟩ := settles first one
    obtain ⟨other, here, again, also⟩ := settles second two
    have equal := inv.oneActive old there other here (still activeOne) (also activeTwo)
      (by rw [← same.userId, user, again.userId]) (by rw [← same.fileHash, hash, again.fileHash])
    exact world.db.tasks.eq_of_key one two (by rw [same.id, again.id, equal])
  · exact fun slot session found => (inv.sessions slot session found).mono later settles
  · exact fun reply present => (inv.replies reply present).mono later
  · intro task present
    obtain ⟨old, there, same, -⟩ := settles task present
    obtain ⟨creator, listed, keyed, matched, asked⟩ := inv.creators old there
    exact ⟨creator, listed, keyed.trans same.id.symm, matched.same same, asked.same same⟩

theorem Inv.stepInstant (inv : state.Inv hashtextextended) {content : FileContent}
    (command : session.command.valid = true) :
    (state.stepInstant slot session content).Inv hashtextextended := by
  unfold InitState.stepInstant
  split
  · exact inv.finish
  · rename_i fileId after ran
    have posts := @instantUpload_posts (fun _ _ => True) _ _ command trivial _ _ _ ran
    have steps : World.Steps False state.world (state.world.advance after) :=
      inv.world.advance posts fun never => never.elim
    have kept : after.tasks = state.world.db.tasks := instantUpload_keeps _ _ _ ran
    refine (inv.setWorld steps (TasksSettle.same kept)).goto ?_
    exact InitSession.Valid.ofAnswer command fun named => absurd rfl named

theorem Inv.stepExpire (inv : state.Inv hashtextextended) {task : UploadTask}
    (found : state.sessions slot = some session) (phase : session.phase = .expire task) :
    (state.stepExpire slot session task).Inv hashtextextended := by
  have valid := inv.sessions slot session found
  obtain ⟨matched, row, present, same⟩ := valid.found task (by rw [phase]; rfl)
  have kept : ∀ world, state.world.commitSettling task.id (expireInProgressUpload task.id) = some world →
      (state.setWorld world).Inv hashtextextended ∧ Precedes state.world.db world.db := by
    intro world moved
    have steps : World.Steps False state.world world :=
      inv.world.commitSettling (fun _ _ ran => ⟨World.nothingNew, expireInProgressUpload_posts ran,
        fun _ _ none => none.elim⟩) moved
    obtain ⟨extra, amount, posts, -, -⟩ := steps.posts
    exact ⟨inv.setWorld steps (World.commitSettling_settles expireInProgressUpload_settles moved),
      posts.precedes⟩
  unfold InitState.stepExpire
  split
  · rename_i moved
    exact (kept _ moved).1.goto
      (InitSession.Valid.plain valid.command rfl rfl fun _ same => by cases same)
  · rename_i moved
    obtain ⟨later, precedes⟩ := kept _ moved
    obtain ⟨next, there, again⟩ := precedes.tasks row present
    exact later.goto (InitSession.Valid.ofTask valid.command rfl rfl matched there (same.trans again))
  · exact inv.finish

theorem insertUploadTask_ok {command : InitUploadCommand} {staging : StagingSession} {task : UploadTask}
    {before after : Db} (valid : command.valid = true)
    (ran : (insertUploadTask command staging).run before = .ok (task, after)) :
    Posts World.nothingNew 0 before after ∧ after.tasks.rows = before.tasks.rows ++ [task] ∧
      UploadTask.Matches task command ∧ UploadTask.Asked task command := by
  obtain ⟨_, reserved, reserving, rest₁⟩ := bind_ok ran
  have rest₂ := get_bind_ok rest₁
  have reservation := @reserveStorage_posts World.nothingNew _ _ _ _ _ reserving
  have same : reserved.tasks = before.tasks := reserveStorage_keeps _ _ _ reserving
  simp only at rest₂
  cases inserted : reserved.tasks.insertNew (create reserved.now (newUploadTask command staging)) with
  | none =>
      simp only [inserted] at rest₂
      exact (throw_ok rest₂).elim
  | some tasks =>
      simp only [inserted] at rest₂
      obtain ⟨rfl, rfl⟩ := set_pure_ok rest₂
      refine ⟨(reservation.trans (insertNew_posts valid inserted)).cast (by abel), ?_, ⟨rfl, rfl⟩,
        rfl, rfl, rfl⟩
      rw [← same]
      exact insertNew_rows inserted

/-- The request that holds the lock and has found no active task creates the only one. -/
theorem Inv.stepCreate (inv : state.Inv hashtextextended) {staging : StagingSession}
    (found : state.sessions slot = some session) (phase : session.phase = .createTask staging) :
    (state.stepCreate slot session staging).Inv hashtextextended := by
  have valid := inv.sessions slot session found
  have mine := valid.locked (by rw [phase]; rfl)
  have clear := valid.clear staging phase
  unfold InitState.stepCreate
  split
  · exact inv.finish
  · rename_i task after ran
    obtain ⟨posts, rows, matched, asked⟩ := insertUploadTask_ok valid.command ran
    have steps : World.Steps False state.world (state.world.advance after) :=
      inv.world.advance posts fun never => never.elim
    have later := posts.precedes
    have stored : task ∈ after.tasks.rows := by simp [rows]
    have split : ∀ other ∈ after.tasks.rows, other ∈ state.world.db.tasks.rows ∨ other = task := by
      intro other present
      simpa [rows] using present
    refine ⟨inv.world.kept steps, ?_, ?_, fun reply present => (inv.replies reply present).mono later, ?_⟩
    · intro first one second two activeOne activeTwo user hash
      rcases split first one with oldOne | rfl <;> rcases split second two with oldTwo | rfl
      · exact inv.oneActive first oldOne second oldTwo activeOne activeTwo user hash
      · exact absurd ⟨user.trans matched.1, hash.trans matched.2⟩ (clear first oldOne activeOne)
      · exact absurd ⟨user.symm.trans matched.1, hash.symm.trans matched.2⟩
          (clear second oldTwo activeTwo)
      · rfl
    · intro other running there
      rcases update_some_cases there with ⟨rfl, written⟩ | ⟨differs, before⟩
      · obtain rfl := Option.some.inj written
        exact InitSession.Valid.ofAnswer valid.command
          (taskReply_names matched stored (SameTask.refl task) fun _ => asked)
      · have old := inv.sessions other running before
        refine ⟨old.command, fun holds => (old.locked holds).release differs, ?_, ?_, ?_⟩
        · intro drawn creating row present active same
          rcases split row present with early | rfl
          · exact old.clear drawn creating row early active same
          · have theirs := old.locked (by rw [creating]; rfl)
            rw [← same.1, ← same.2, matched.1, matched.2] at theirs
            exact differs (theirs.unique mine)
        · intro wanted seen
          obtain ⟨agrees, row, present, same⟩ := old.found wanted seen
          exact ⟨agrees, row, rows ▸ List.mem_append_left _ present, same⟩
        · exact fun reply answering => (old.answer reply answering).mono later
    · intro other present
      rcases split other present with old | rfl
      · obtain ⟨creator, listed, facts⟩ := inv.creators other old
        exact ⟨creator, List.mem_cons_of_mem _ listed, facts⟩
      · exact ⟨_, List.mem_cons_self, rfl, matched, asked⟩

theorem Inv.advance (inv : state.Inv hashtextextended) {staging : StagingSession}
    (moved : state.advance hashtextextended slot staging = some next) : next.Inv hashtextextended := by
  obtain ⟨session, found, moved⟩ := Option.bind_eq_some_iff.mp moved
  have valid := inv.sessions slot session found
  have command := valid.command
  simp only at moved
  split at moved
  · split at moved
    · cases moved
      exact inv.finish
    · cases moved
      exact inv.goto (InitSession.Valid.plain command rfl rfl fun _ same => by cases same)
  · cases moved
    exact inv.goto (InitSession.Valid.plain command rfl rfl fun _ same => by cases same)
  · cases moved
    apply inv.goto
    unfold phaseAfterReads
    split
    · exact InitSession.Valid.plain command rfl rfl fun _ same => by cases same
    · rename_i task present _ _
      obtain ⟨stored, user, hash⟩ := findActive_some present
      exact InitSession.Valid.ofTask command rfl rfl ⟨user, hash⟩ stored (SameTask.refl task)
    · exact InitSession.Valid.plain command rfl rfl fun _ same => by cases same
  · cases moved
    exact inv.stepInstant command
  · rename_i task phase
    cases moved
    exact inv.stepExpire found phase
  · rename_i task phase
    cases moved
    obtain ⟨matched, row, present, same⟩ := valid.found task (by rw [phase]; rfl)
    exact inv.send (taskReply_names matched present same fun created => by cases created)
  · split at moved
    · cases moved
      exact inv.finish
    · cases moved
      exact inv.goto (InitSession.Valid.plain command rfl rfl fun _ same => by cases same)
  · split at moved
    · rename_i free
      cases moved
      refine inv.put (fun other key differs held => held.acquire_other ?_ differs) ?_
      · intro wanted listed
        rwa [List.mem_singleton.mp listed]
      · intro running same
        obtain rfl := Option.some.inj same
        exact ⟨command, fun _ => Locks.held_acquire_of_mem (List.mem_singleton_self _), by simp,
          by simp [InitPhase.foundTask], by simp⟩
    · cases moved
  · rename_i drawn phase
    have mine := valid.locked (by rw [phase]; rfl)
    split at moved
    · rename_i task present
      cases moved
      obtain ⟨stored, user, hash⟩ := findActive_some present
      exact inv.unlockGoto
        (InitSession.Valid.ofTask command rfl rfl ⟨user, hash⟩ stored (SameTask.refl task))
    · rename_i absent
      cases moved
      exact inv.goto ⟨command, fun _ => mine, fun _ _ => findActive_none absent,
        by simp [InitPhase.foundTask], by simp⟩
  · rename_i drawn phase
    cases moved
    exact inv.stepCreate found phase
  · rename_i task phase
    cases moved
    obtain ⟨matched, row, present, same⟩ := valid.found task (by rw [phase]; rfl)
    exact inv.send (taskReply_names matched present same fun created => by cases created)
  · rename_i reply phase
    cases moved
    exact inv.send (valid.answer reply phase)

/-- Every step of an initialization keeps the invariant. -/
theorem Inv.kept (inv : state.Inv hashtextextended) {action : InitAction}
    (moved : state.step hashtextextended action = some next) : next.Inv hashtextextended := by
  cases action with
  | drive action =>
      simp only [InitState.step] at moved
      split at moved
      · cases moved
      · rename_i quiet
        obtain ⟨world, stepped, rfl⟩ := Option.map_eq_some_iff.mp moved
        exact inv.setWorld (inv.world.steps stepped) (World.step_settles (by simpa using quiet) stepped)
  | «begin» slot command =>
      simp only [InitState.step] at moved
      split at moved
      · rename_i allowed
        cases moved
        exact inv.goto (InitSession.Valid.plain allowed.1 rfl rfl fun _ same => by cases same)
      · cases moved
  | advance slot staging => exact inv.advance moved
  | abandon slot =>
      obtain ⟨session, -, rfl⟩ := Option.map_eq_some_iff.mp moved
      exact inv.finish

theorem empty_inv : InitState.empty.Inv hashtextextended where
  world := World.empty_inv
  oneActive := by
    intro first present
    simp [empty, World.empty, Db.empty, Table.empty] at present
  sessions := by simp [empty]
  replies := by simp [empty]
  creators := by simp [empty, World.empty, Db.empty, Table.empty]

/-- Every reachable state satisfies the invariant. -/
theorem inv_of_reachable (reachable : (initSystem hashtextextended).Reachable state) :
    state.Inv hashtextextended := by
  refine reachable.invariant (Inv hashtextextended) ?_ ?_
  · rintro _ rfl
    exact empty_inv
  · exact fun _ _ _ inv _ moved => inv.kept moved

/-- The tasks of one user for one file hash hold the size of the active one. -/
theorem Inv.reservedOnce (inv : state.Inv hashtextextended) {task : UploadTask}
    (present : task ∈ state.world.db.tasks.rows) (active : task.active = true) :
    ((state.world.db.tasks.rows.filter fun other =>
      other.userId = task.userId && other.fileHash = task.fileHash).map
        (heldBytes task.userId)).sum = task.fileSize := by
  have nodup : state.world.db.tasks.rows.Nodup := List.Nodup.of_map _ state.world.db.tasks.distinct
  have chosen : task ∈ state.world.db.tasks.rows.filter fun other =>
      other.userId = task.userId && other.fileHash = task.fileHash :=
    List.mem_filter.mpr ⟨present, by simp⟩
  rw [List.sum_map_eq_nsmul_single task, List.count_eq_one_of_mem (nodup.filter _) chosen, one_smul]
  · simp only [heldBytes, active, and_self, if_true]
    exact (inv.world.sound _ World.current_mem).reservedBytes task present
  · intro other differs there
    obtain ⟨stored, same⟩ := List.mem_filter.mp there
    simp only [Bool.and_eq_true, decide_eq_true_eq] at same
    rw [heldBytes, if_neg]
    rintro ⟨still, -⟩
    exact differs (inv.oneActive other stored task present still active same.1 same.2)

end InitState

/-- A user has one active task for a file hash, with one reservation. A response names a task as the
request that created it asked for it. -/
theorem upload_init_exclusive {hashtextextended : String → Int} {state : InitState}
    (reachable : (initSystem hashtextextended).Reachable state) :
    state.world.db.OneActive ∧
    (∀ task ∈ state.world.db.tasks.rows, task.active = true →
      ((state.world.db.tasks.rows.filter fun other =>
        other.userId = task.userId && other.fileHash = task.fileHash).map
          (heldBytes task.userId)).sum = task.fileSize) ∧
    (∀ user ∈ state.world.db.users.rows, user.storageReserved =
      ((state.world.db.tasks.rows.map (heldBytes user.id)).sum : Nat) +
        state.world.copyBytes user.id) ∧
    ∀ reply ∈ state.replies, reply.branch ≠ .instant → ∃ task ∈ state.world.db.tasks.rows,
      task.id = reply.uploadId ∧ UploadTask.Matches task reply.command ∧
      (reply.branch = .created → UploadTask.Asked task reply.command) ∧
      ∃ creator ∈ state.creators, creator.1 = task.id ∧ UploadTask.Matches task creator.2 ∧
        UploadTask.Asked task creator.2 := by
  have inv := InitState.inv_of_reachable reachable
  refine ⟨inv.oneActive, fun task => inv.reservedOnce, fun user present => ?_,
    fun reply present named => ?_⟩
  · have reserved := inv.world.storageReserved user.id
    rwa [Table.find?_eq_some_iff.mpr ⟨present, rfl⟩] at reserved
  · obtain ⟨task, stored, keyed, matched, asked⟩ := inv.replies reply present named
    exact ⟨task, stored, keyed, matched, asked, inv.creators task stored⟩

/-- Two requests for one hash, where the second names another file of another size. -/
def twoRequests : List InitAction :=
  .drive (.registerUser 100) :: .begin 0 (uploadCommand "a.txt" 5) ::
    List.replicate 8 (.advance 0 ⟨"up-1", .localDisk, "up-1"⟩) ++
    .begin 1 (uploadCommand "b.txt" 7) ::
    List.replicate 5 (.advance 1 ⟨"up-2", .localDisk, "up-2"⟩)

/-- A second request resumes the task of the first. -/
theorem upload_init_exclusive_resumed : ∃ state,
    (initSystem fun text => text.length).Reachable state ∧
    state.replies.map InitReply.branch = [.resumed, .created] ∧
    state.replies.map InitReply.uploadId = ["up-1", "up-1"] ∧ state.world.db.OneActive := by
  obtain ⟨state, reachable, checked⟩ := (initSystem fun text => text.length).exists_reachable_of_run
    twoRequests (fun state => state.replies.map InitReply.branch = [.resumed, .created] ∧
      state.replies.map InitReply.uploadId = ["up-1", "up-1"]) rfl (by decide +kernel)
  obtain ⟨branches, names⟩ := of_decide_eq_true checked
  exact ⟨state, reachable, branches, names, (upload_init_exclusive reachable).1⟩

/-- The second request is answered with the task of the first one. -/
theorem upload_init_names_other_file :
    ¬ ∀ state, (initSystem fun text => text.length).Reachable state → ∀ reply ∈ state.replies,
      reply.branch ≠ .instant → ∃ task ∈ state.world.db.tasks.rows,
        task.id = reply.uploadId ∧ UploadTask.Asked task reply.command := by
  intro always
  obtain ⟨state, reachable, checked⟩ := (initSystem fun text => text.length).exists_reachable_of_run
    twoRequests (fun state => (state.replies.any fun reply => reply.branch ≠ .instant ∧
      reply.command = uploadCommand "b.txt" 7) = true ∧
      ∀ task ∈ state.world.db.tasks.rows, ¬ UploadTask.Asked task (uploadCommand "b.txt" 7))
    rfl (by decide +kernel)
  obtain ⟨answered, never⟩ := of_decide_eq_true checked
  obtain ⟨reply, present, shown⟩ := List.any_eq_true.mp answered
  obtain ⟨named, same⟩ := of_decide_eq_true shown
  obtain ⟨task, stored, -, asked⟩ := always state reachable reply present named
  exact never task stored (same ▸ asked)

end DiskServer.Drive
