import DiskServer.Proof.Drive.CopyRun
import DiskServer.Proof.Drive.PermanentDelete
import DiskServer.Proof.Drive.ShareService
import DiskServer.Proof.Drive.StepCases
import DiskServer.Proof.Drive.StorageJobWorker
import DiskServer.Proof.Drive.UploadLifecycleService

namespace DiskServer.Drive

open Library Upload

/-- What the running copies have reserved, and one unit for each task that has been settled. -/
def World.reservations (world : World) : Ledger :=
  (world.copies.map fun run => post (.reserved run.userId) run.outstanding).sum +
    (world.settled.map fun taskId => post (.settled taskId) 1).sum

/-- Some committed state kept this content at this size. -/
def World.Held (world : World) (contentId size : Nat) : Prop :=
  ∃ db ∈ world.history, db.Holds contentId size

/-- The balance of the drive is what its copies and tasks account for. -/
structure World.Inv (world : World) : Prop where
  balance : world.db.balance = world.reservations
  sound : ∀ db ∈ world.history, db.Sound
  precedes : ∀ db ∈ world.history, Precedes db world.db
  copies : ∀ run ∈ world.copies, run.Valid world.Held

/-- Every stored content with this id has this size. -/
def Db.Sized (db : Db) (contentId size : Nat) : Prop :=
  ∀ row ∈ db.contents.rows, row.id = contentId → row.size = size

/-- One step posts what it changes in the reservations, and each new reference was held before or has
the size of its content when the step is trusted. -/
structure World.Steps (trusted : Prop) (world next : World) : Prop where
  past : next.past = world.db :: world.past
  copies : ∀ run ∈ next.copies, run.Valid next.Held
  posts : ∃ extra amount, Posts extra amount world.db next.db ∧
    next.reservations = world.reservations + amount ∧
    (trusted → ∀ contentId size, extra contentId size →
      world.Held contentId size ∨ next.db.Sized contentId size)

namespace World

variable {world next : World} {trusted : Prop}

theorem mem_history_of_read {index : Nat} {seen : Db} (read : world.read index = some seen) :
    seen ∈ world.history := List.mem_of_getElem? read

theorem mem_history_of_readOptional {index : Option Nat} {seen : Db}
    (read : world.readOptional index = some (some seen)) : seen ∈ world.history := by
  cases index with
  | none => cases read
  | some index =>
      obtain ⟨db, found, same⟩ := Option.map_eq_some_iff.mp read
      cases same
      exact mem_history_of_read found

/-- The present state is part of the history. -/
theorem current_mem : world.db ∈ world.history := List.mem_cons_self

theorem held_of_current {contentId size : Nat} (held : world.db.Holds contentId size) :
    world.Held contentId size := ⟨world.db, current_mem, held⟩

/-- Every step keeps the invariant. -/
theorem Inv.kept (inv : world.Inv) (steps : World.Steps trusted world next) : next.Inv := by
  obtain ⟨extra, amount, posts, reservations, -⟩ := steps.posts
  have history : next.history = next.db :: world.history := by
    rw [World.history, steps.past]
    rfl
  refine ⟨?_, ?_, ?_, steps.copies⟩
  · rw [posts.balance, inv.balance, reservations]
  · intro db present
    rw [history] at present
    rcases List.mem_cons.mp present with rfl | old
    · exact posts.sound (inv.sound _ current_mem)
    · exact inv.sound db old
  · intro db present
    rw [history] at present
    rcases List.mem_cons.mp present with rfl | old
    · exact Precedes.refl _
    · exact (inv.precedes db old).trans posts.precedes

/-- The copies of a step are valid when they were valid before it or know only held rows. -/
theorem held_mono (past : next.past = world.db :: world.past) {contentId size : Nat}
    (held : world.Held contentId size) : next.Held contentId size := by
  obtain ⟨db, present, holds⟩ := held
  refine ⟨db, ?_, holds⟩
  rw [World.history, past]
  exact List.mem_cons_of_mem _ present

theorem Inv.copies_mono (inv : world.Inv) (past : next.past = world.db :: world.past) :
    ∀ run ∈ world.copies, run.Valid next.Held :=
  fun run present => (inv.copies run present).mono fun _ _ => held_mono past

/-- A transaction that posts nothing is a step of the drive. -/
theorem Inv.advance (inv : world.Inv) {after : Db} {extra : Nat → Nat → Prop}
    (posts : Posts extra 0 world.db after)
    (sized : trusted → ∀ contentId size, extra contentId size →
      world.Held contentId size ∨ after.Sized contentId size) :
    World.Steps trusted world (world.advance after) where
  past := rfl
  copies := inv.copies_mono rfl
  posts := ⟨extra, 0, posts, (add_zero _).symm, sized⟩

/-- A commit was a transaction that has succeeded. -/
theorem commit_some {Value : Type} {program : Tx Value} (moved : world.commit program = some next) :
    ∃ value after, program.run world.db = .ok (value, after) ∧ next = world.advance after := by
  unfold commit at moved
  split at moved
  · rename_i value after ran
    cases moved
    exact ⟨value, after, ran, rfl⟩
  · cases moved

/-- The references of a transaction that only moves references around. -/
abbrev nothingNew : Nat → Nat → Prop := fun _ _ => False

theorem Inv.commit (inv : world.Inv) {Value : Type} {program : Tx Value}
    (posts : ∀ value after, program.run world.db = .ok (value, after) →
      Posts nothingNew 0 world.db after)
    (moved : world.commit program = some next) : World.Steps trusted world next := by
  obtain ⟨value, after, ran, rfl⟩ := commit_some moved
  exact inv.advance (posts value after ran) fun _ _ _ none => none.elim

/-- A transaction that may settle its task is a step when it posts the settlement. -/
theorem Inv.commitSettling (inv : world.Inv) {uploadId : String} {program : Tx (Option Nat)}
    (posts : ∀ version after, program.run world.db = .ok (version, after) → ∃ extra,
      Posts extra (if version.isSome then post (.settled uploadId) 1 else 0) world.db after ∧
        ∀ contentId size, extra contentId size → after.Sized contentId size)
    (moved : world.commitSettling uploadId program = some next) : World.Steps trusted world next := by
  unfold World.commitSettling at moved
  split at moved
  · rename_i version after ran
    cases moved
    obtain ⟨extra, posted, sized⟩ := posts _ _ ran
    refine ⟨rfl, inv.copies_mono rfl, extra, _, posted, ?_, fun _ c s e => .inr (sized c s e)⟩
    simp only [World.reservations, World.advance, List.map_cons, List.sum_cons, Option.isSome_some,
      if_true]
    abel
  · rename_i after ran
    cases moved
    obtain ⟨extra, posted, sized⟩ := posts _ _ ran
    exact inv.advance posted fun _ c s e => .inr (sized c s e)
  · cases moved

/-- The counters of contents and users carry no reservation. -/
theorem Inv.exact (inv : world.Inv) : world.db.Exact := by
  constructor
  · intro contentId
    rw [inv.balance]
    simp [World.reservations, sum_map_apply, post_apply]
  · intro userId
    rw [inv.balance]
    simp [World.reservations, sum_map_apply, post_apply]

/-- A step of one copy is a step of the drive. -/
theorem Inv.setCopy (inv : world.Inv) {slot : Nat} {run : CopyRun} {outcome : Db × CopyRun}
    (found : world.copies[slot]? = some run) (steps : run.Steps world.Held world.db outcome) :
    World.Steps trusted world (world.setCopy slot outcome) where
  past := rfl
  copies := by
    intro other present
    rcases List.mem_or_eq_of_mem_set present with old | rfl
    · exact inv.copies_mono rfl other old
    · exact steps.valid.mono fun _ _ => held_mono rfl
  posts := by
    refine ⟨world.Held, _, steps.posts, ?_, fun _ _ _ held => .inl held⟩
    obtain ⟨bound, there⟩ := List.getElem?_eq_some_iff.mp found
    simp only [World.reservations, World.setCopy, World.advance, List.map_set, List.sum_set',
      List.length_map, bound, dif_pos, List.getElem_map, there, steps.userId]
    abel

/-- A stored file of a committed state can be copied. -/
theorem Inv.copyable (inv : world.Inv) {db : Db} (present : db ∈ world.history) {file : File}
    (stored : file ∈ db.files.rows) : file.Copyable world.Held :=
  ⟨(inv.sound db present).fileNames file stored, db, present, .inl ⟨file, stored, rfl⟩⟩

/-- A folder step of a copy keeps the invariant. -/
theorem Inv.stepCopyFolder (inv : world.Inv) {slot : Nat} {run : CopyRun} {existing : Option Db}
    {fails : Bool} {outcome : Db × CopyRun} (found : world.copies[slot]? = some run)
    (idle : run.owed = 0) (stepped : world.stepCopyFolder run existing fails = some outcome) :
    run.Steps world.Held world.db outcome := by
  have valid := inv.copies run (List.mem_of_getElem? found)
  unfold World.stepCopyFolder at stepped
  split at stepped
  · rename_i plan rest chunks plans names
    cases stepped
    exact CopyRun.skipFolder_steps valid plans idle
  · rename_i plan rest occupied chunks plans names
    cases stepped
    exact CopyRun.stepFolder_steps valid plans idle
  · cases stepped

theorem Inv.startCopy (inv : world.Inv) {targetRead planRead : Nat} {fileReads : List (Option Nat)}
    {reads : CopyReads} {hashOrder : List Nat} {request : CopyRequest}
    (read : world.readCopy targetRead planRead fileReads = some reads)
    (moved : world.startCopy reads hashOrder request = some next) :
    World.Steps trusted world next := by
  obtain ⟨target, -, read₁⟩ := Option.bind_eq_some_iff.mp read
  obtain ⟨plans, planned, read₂⟩ := Option.bind_eq_some_iff.mp read₁
  obtain ⟨files, filed, read₃⟩ := Option.bind_eq_some_iff.mp read₂
  cases read₃
  have plansThere := mem_history_of_read planned
  have seen : ∀ db, (db = plans ∨ some db ∈ files) → db ∈ world.history := by
    rintro db (rfl | listed)
    · exact plansThere
    · obtain ⟨index, -, found⟩ := exists_of_mem_mapM filed listed
      exact mem_history_of_readOptional found
  unfold World.startCopy at moved
  split at moved
  · cases moved
  · rename_i run planning
    split at moved
    · cases moved
    · rename_i value after ran
      cases moved
      obtain ⟨valid, reserved⟩ := @planCopy_valid world.Held _ _ _ _
        (fun db there file stored => inv.copyable (seen db there) stored)
        (inv.sound _ plansThere).folderNames planning
      refine ⟨rfl, ?_, nothingNew, _, reserveStorage_posts _ _ _ ran, ?_, fun _ _ _ none => none.elim⟩
      · intro other present
        rcases List.mem_append.mp present with old | new
        · exact inv.copies_mono rfl other old
        · obtain rfl := List.mem_singleton.mp new
          exact valid.mono fun _ _ => held_mono rfl
      · simp only [World.reservations, World.advance, List.map_append, List.sum_append, List.map_cons,
          List.map_nil, List.sum_cons, List.sum_nil, reserved]
        abel

theorem Inv.saveToDrive (inv : world.Inv) {request : SaveRequest} {location : FolderLocation}
    {selection : SaveSelection} (read : world.readSaveSelection request = some selection)
    (moved : world.commit (Drive.saveToDrive request.userId request.targetFolderId location selection) =
      some next) : World.Steps trusted world next := by
  obtain ⟨files, filed, read₁⟩ := Option.bind_eq_some_iff.mp read
  obtain ⟨plans, planned, read₂⟩ := Option.bind_eq_some_iff.mp read₁
  cases read₂
  obtain ⟨size, after, ran, rfl⟩ := commit_some moved
  refine inv.advance (saveToDrive_posts ?_ ?_ _ _ _ ran) fun _ _ _ held => .inl held
  · intro file present
    obtain ⟨wanted, -, found⟩ := exists_of_mem_mapM filed present
    obtain ⟨db, seen, there⟩ := Option.bind_eq_some_iff.mp found
    exact inv.copyable (mem_history_of_read seen) (Table.find?_some there).1
  · intro plan present
    obtain ⟨reads, -, found⟩ := exists_of_mem_mapM planned present
    obtain ⟨rootDb, rootRead, found₁⟩ := Option.bind_eq_some_iff.mp found
    obtain ⟨folderDb, folderRead, found₂⟩ := Option.bind_eq_some_iff.mp found₁
    obtain ⟨fileDb, fileRead, found₃⟩ := Option.bind_eq_some_iff.mp found₂
    obtain ⟨root, there, rfl⟩ := Option.map_eq_some_iff.mp found₃
    refine ⟨?_, ?_, ?_⟩
    · exact (inv.sound _ (mem_history_of_read rootRead)).folderNames root (Table.find?_some there).1
    · intro folder inside
      rw [readSharedFolders, List.mem_insertionSort] at inside
      exact (inv.sound _ (mem_history_of_read folderRead)).folderNames folder
        (List.mem_of_mem_filter inside)
    · intro file inside
      simp only [readSharedFiles, List.mem_map, List.mem_insertionSort, List.mem_flatMap] at inside
      obtain ⟨pair, ⟨row, stored, folder, -, rfl⟩, rfl⟩ := inside
      exact inv.copyable (mem_history_of_read fileRead) stored

/-- A client that asks for an instant upload sends the size of the content that the hash finds. -/
def TrustedSize (world : World) : DriveAction → Prop
  | .instantUpload command contentRead => ∀ seen content, world.read contentRead = some seen →
      findByMd5 seen command.fileHash = some content → command.fileSize = content.size
  | _ => True

instance (world : World) : DecidablePred world.TrustedSize := fun action =>
  match action with
  | .instantUpload command contentRead =>
      decidable_of_iff (∀ content ∈ (world.read contentRead).bind (findByMd5 · command.fileHash),
          command.fileSize = content.size) <| by
        simp only [TrustedSize, Option.mem_def, Option.bind_eq_some_iff]
        exact ⟨fun all seen content read found => all content ⟨seen, read, found⟩,
          fun all content ⟨seen, read, found⟩ => all seen content read found⟩
  | .registerUser .. | .createFolder .. | .createUploadTask .. | .recordChunk .. | .taskStatement ..
  | .completeUpload .. | .cancelUpload .. | .expireUpload .. | .moveToTrash .. | .restoreFile ..
  | .restoreFolder .. | .permanentDelete .. | .saveToDrive .. | .startCopy .. | .copyBatch ..
  | .copyRootNames .. | .copyFolder .. | .copyRelease .. | .abandonCopy .. | .jobStatement ..
  | .executeBlobGc .. | .tick .. => .isTrue trivial

theorem findByMd5_some {db : Db} {hash : String} {content : FileContent}
    (found : findByMd5 db hash = some content) : content ∈ db.contents.rows := by
  unfold findByMd5 at found
  split at found
  · rename_i only rows
    cases found
    have present : content ∈ db.contents.rows.filter fun row => row.hashMd5 = hash := by
      rw [rows]
      exact List.mem_singleton_self content
    exact List.mem_of_mem_filter present
  · cases found

/-- An instant upload adds a reference whose size the content has only when the client is honest. -/
theorem Inv.instantUpload (inv : world.Inv) {command : InitUploadCommand} {contentRead : Nat}
    {seen : Db} {content : FileContent} (read : world.read contentRead = some seen)
    (found : findByMd5 seen command.fileHash = some content) (valid : command.valid = true)
    (moved : world.commit (Drive.instantUpload command content) = some next) :
    World.Steps (world.TrustedSize (.instantUpload command contentRead)) world next := by
  obtain ⟨fileId, after, ran, rfl⟩ := commit_some moved
  have posts := @instantUpload_posts
    (fun contentId size => contentId = content.id ∧ size = command.fileSize) _ _ valid ⟨rfl, rfl⟩
    _ _ _ ran
  refine inv.advance posts ?_
  rintro trusted contentId size ⟨rfl, rfl⟩
  refine .inr fun row stored keyed => ?_
  have there := mem_history_of_read read
  have old := findByMd5_some found
  obtain ⟨first, present, same, sized⟩ := ((inv.precedes seen there).trans posts.precedes).contents row
    stored (keyed ▸ (seen.contents.bounded content old).2)
  rw [← sized, seen.contents.eq_of_key present old (same.trans keyed)]
  exact (trusted seen content read found).symm

theorem Inv.completeUpload (inv : world.Inv) {request : FinalizeRequest} {seen : Db} {task : UploadTask}
    (there : seen ∈ world.history) (found : seen.tasks.find? request.uploadId = some task)
    (moved : world.completeUpload request task = some next) : World.Steps trusted world next := by
  obtain ⟨stored, keyed⟩ := Table.find?_some found
  refine inv.commitSettling (fun version after ran => ?_) moved
  obtain ⟨fileId, completed, rfl⟩ := Transaction.map_ok ran
  have reserved : ∀ row ∈ world.db.tasks.rows, row.id = request.uploadId →
      row.reservedBytes = task.fileSize := by
    intro row present same
    obtain ⟨current, here, kept⟩ := (inv.precedes seen there).tasks task stored
    have one : current = row := world.db.tasks.eq_of_key here present
      ((kept.id.trans keyed).trans same.symm)
    rw [← one, kept.reservedBytes]
    exact (inv.sound seen there).reservedBytes task stored
  obtain ⟨contentId, posts, sized⟩ := completeUpload_posts
    ((inv.sound seen there).taskNames task stored) reserved completed
  refine ⟨_, posts, ?_⟩
  rintro other size ⟨rfl, rfl⟩
  exact sized

/-- A permanent delete frees exactly what its user was charged. -/
theorem Inv.permanentDelete (inv : world.Inv) {seen : Db} {trashIds : List Nat} {requireValid : Bool}
    {result : PermanentDeleteResult} {after : Db} (there : seen ∈ world.history)
    (ran : (permanentlyDeleteTrashItems (trashIds.filterMap seen.trash.find?) requireValid).run world.db =
      .ok (result, after)) :
    Posts nothingNew 0 world.db after ∧ ∀ deletions,
      collectDeletions requireValid (trashIds.filterMap seen.trash.find?) = .ok deletions →
      ∀ user ∈ world.db.users.rows, (freedBytes deletions user.id : Int) ≤ user.storageUsed ∧
        after.users.find? user.id =
          some { user with storageUsed := user.storageUsed - freedBytes deletions user.id } := by
  refine permanentlyDeleteTrashItems_posts (inv.sound _ current_mem) inv.exact ?_
    (inv.precedes seen there) ran
  intro item present
  obtain ⟨trashId, -, found⟩ := List.mem_filterMap.mp present
  exact (Table.find?_some found).1

/-- Every action of the drive is such a step. -/
theorem Inv.steps (inv : world.Inv) {action : DriveAction} (moved : world.step action = some next) :
    World.Steps (world.TrustedSize action) world next := by
  cases moved_of_step moved with
  | commits issued moved =>
      cases issued with
      | registerUser => exact inv.commit (fun _ _ ran => registerUser_posts _ _ _ ran) moved
      | createFolder named => exact inv.commit (fun _ _ ran => createFolder_posts named _ _ _ ran) moved
      | instantUpload read found valid => exact inv.instantUpload read found valid moved
      | createUploadTask valid => exact inv.commit (fun _ _ ran => createUploadTask_posts valid _ _ _ ran) moved
      | recordChunk => exact inv.commit (fun _ _ ran => recordChunk_posts _ _ _ ran) moved
      | taskStatement => exact inv.commit (fun _ _ ran => runTaskStatement_posts _ _ _ ran) moved
      | moveToTrash => exact inv.commit (fun _ _ ran => moveToTrash_posts (inv.sound _ current_mem) ran) moved
      | restoreFile => exact inv.commit (fun _ _ ran => restoreFile_posts (inv.sound _ current_mem) ran) moved
      | restoreFolder => exact inv.commit (fun _ _ ran => restoreFolder_posts (inv.sound _ current_mem) ran) moved
      | permanentDelete read =>
          exact inv.commit (fun _ _ ran => (inv.permanentDelete (mem_history_of_read read) ran).1) moved
      | saveToDrive read => exact inv.saveToDrive read moved
      | jobStatement => exact inv.commit (fun _ _ ran => runJobStatement_posts _ _ _ ran) moved
      | executeBlobGc => exact inv.commit (fun _ _ ran => executeBlobGc_posts _ _ _ ran) moved
      | tick => exact inv.commit (fun _ _ ran => tick_posts _ _ _ ran) moved
  | settles settled moved =>
      cases settled with
      | completeUpload read found => exact inv.completeUpload (mem_history_of_read read) found moved
      | cancelUpload =>
          exact inv.commitSettling (fun _ _ ran => ⟨nothingNew, cancelInProgressUpload_posts ran,
            fun _ _ none => none.elim⟩) moved
      | expireUpload =>
          exact inv.commitSettling (fun _ _ ran => ⟨nothingNew, expireInProgressUpload_posts ran,
            fun _ _ none => none.elim⟩) moved
  | starts _ read moved => exact inv.startCopy read moved
  | copies found continued same =>
      subst same
      have valid := inv.copies _ (List.mem_of_getElem? found)
      refine inv.setCopy found ?_
      cases continued with
      | batch idle chunks => exact CopyRun.stepBatch_steps valid chunks idle
      | rootNames => exact CopyRun.stepRootNames_steps valid
      | folder idle stepped => exact inv.stepCopyFolder found idle stepped
      | release => exact CopyRun.stepRelease_steps valid
      | abandon => exact CopyRun.Steps.owe ⟨valid.files, valid.plans, valid.reserved⟩ rfl rfl

theorem empty_inv : World.empty.Inv where
  balance := by
    simp [World.empty, Db.balance, Db.empty, World.reservations, Serial.empty, Table.empty]
  sound := by
    intro db present
    obtain rfl : db = Db.empty := by simpa [World.history, World.empty] using present
    constructor <;> simp [Db.empty, Serial.empty, Table.empty]
  precedes := by
    intro db present
    obtain rfl : db = Db.empty := by simpa [World.history, World.empty] using present
    exact Precedes.refl _
  copies := by simp [World.empty]

/-- The invariant holds in every reachable world, whatever the steps are restricted to. -/
theorem inv_of_reachable {guard : World → DriveAction → Prop}
    (reachable : driveSystem.ReachableWhen guard world) : world.Inv := by
  refine reachable.invariant World.Inv ?_ ?_
  · rintro _ rfl
    exact empty_inv
  · intro state action next inv _ moved
    exact inv.kept (inv.steps moved)

end World

end DiskServer.Drive
