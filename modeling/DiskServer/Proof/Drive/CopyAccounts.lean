import DiskServer.Proof.Drive.BatchSubtrees

namespace DiskServer.Drive

open Library Transaction

/-- The state has gained files of this user at the end of the table. -/
def FilesGained (userId : Nat) (before after : Db) : Prop :=
  ∃ files, after.files.rows = before.files.rows ++ files ∧ ∀ file ∈ files, file.userId = userId

namespace FilesGained

variable {userId : Nat} {before after : Db}

theorem same (kept : after.files = before.files) : FilesGained userId before after :=
  ⟨[], by rw [kept, List.append_nil], by simp⟩

theorem trans {first second third : Db} (one : FilesGained userId first second)
    (two : FilesGained userId second third) : FilesGained userId first third := by
  obtain ⟨early, earlyRows, earlyOwner⟩ := one
  obtain ⟨late, lateRows, lateOwner⟩ := two
  refine ⟨early ++ late, ?_, ?_⟩
  · rw [lateRows, earlyRows, List.append_assoc]
  · intro file present
    rcases List.mem_append.mp present with old | new
    · exact earlyOwner file old
    · exact lateOwner file new

/-- A statement that keeps the rows of the drive adds no file. -/
theorem ofRows (userId : Nat) {before after : Db} (kept : after.rows = before.rows) : FilesGained userId before after :=
  same (congrArg (fun rows => rows.2.1) kept)

end FilesGained

section Statements

variable {userId : Nat}

theorem insertFile_gains {file : NewFile} (owned : file.userId = userId) :
    Ensures (insertFile file.row fun _ => rfl) fun before _ after => FilesGained userId before after := by
  intro before fileId after ran
  refine ⟨[file.row fileId], (insertFile_grows ran).fileRows, ?_⟩
  intro row present
  obtain rfl := List.mem_singleton.mp present
  exact owned

theorem insertCopiedFiles_gains {targetFolderId : Nat} {files : List File} :
    Ensures (insertCopiedFiles userId targetFolderId files) fun before _ after =>
      FilesGained userId before after := by
  intro before value after ran
  unfold insertCopiedFiles at ran
  split at ran
  · obtain ⟨-, rfl⟩ := pure_ok ran
    exact FilesGained.same rfl
  · obtain ⟨location, resolved, resolving, inserting⟩ := bind_ok ran
    obtain rfl := resolveOwnedFolderLocation_ok resolving
    refine Ensures.forM (FilesGained userId) (fun _ => FilesGained.same rfl)
      (fun _ _ _ => FilesGained.trans) ?_ _ _ _ inserting
    intro file _ start value last copying
    obtain ⟨_, one, -⟩ := bind_pure_ok copying
    exact insertFile_gains rfl _ _ _ one

theorem countCopiedItems_gains {targetFolderId count : Nat} :
    Ensures (countCopiedItems targetFolderId userId count) fun before _ after =>
      FilesGained userId before after := by
  intro before value after ran
  exact FilesGained.same (Prod.mk.inj (countCopiedItems_shapes _ _ _ ran)).2

variable {run : CopyRun}

theorem copyFileBatch_gains {items : List File} {existing : List Nat} :
    Ensures (copyFileBatch run items existing) fun before _ after =>
      FilesGained run.userId before after := by
  intro before sizes after ran
  obtain ⟨target, found, finding, rest₁⟩ := bind_ok ran
  obtain rfl := requireTarget_ok finding
  have rest₂ := get_bind_ok rest₁
  obtain ⟨_, counted, counting, rest₃⟩ := bind_ok rest₂
  obtain ⟨_, inserted, inserting, rest₄⟩ := bind_ok rest₃
  obtain ⟨_, listed, listing, rest₅⟩ := bind_ok rest₄
  obtain ⟨_, committed, committing, rest₆⟩ := bind_ok rest₅
  obtain ⟨_, releasing, rfl⟩ := bind_pure_ok rest₆
  have first := FilesGained.ofRows run.userId (countCopiedContents_keeps _ _ _ counting)
  have second := insertCopiedFiles_gains _ _ _ inserting
  have third := countCopiedItems_gains _ _ _ listing
  have fourth := FilesGained.ofRows run.userId (commitReservedToUsed_keeps _ _ _ committing)
  have fifth := FilesGained.ofRows run.userId (releaseReservedStorageChecked_keeps _ _ _ releasing)
  exact (((first.trans second).trans third).trans fourth).trans fifth

theorem insertNewFolder_files {folder : NewFolder} :
    KeepsFrame Db.files (insertFolder folder.row fun _ => rfl) := by
  intro before folderId after ran
  obtain ⟨-, rfl, -⟩ := insertFolder_ok ran
  rfl

theorem copyFolderNode_files {rootDepth oldRootDepth : Nat} {folders : FolderMap} {folder : Folder} :
    KeepsFrame Db.files (copyFolderNode userId rootDepth oldRootDepth folders folder) := by
  unfold copyFolderNode
  split
  · exact keepsFrame_throw _
  · exact keepsFrame_bind insertNewFolder_files fun _ => keepsFrame_pure _

theorem copyTree_gains {location : FolderLocation} {plan : FolderDeletePlan} :
    Ensures (copyTree run location plan) fun before _ after => FilesGained run.userId before after := by
  intro before value after ran
  obtain ⟨rootId, rooted, rooting, rest₁⟩ := bind_ok ran
  obtain ⟨folders, placed, placing, filing⟩ := bind_ok rest₁
  have root : rooted.files = before.files := insertNewFolder_files _ _ _ rooting
  have tree : placed.files = rooted.files :=
    keepsFrame_foldlM (fun _ _ _ => copyFolderNode_files) _ _ _ _ placing
  refine (FilesGained.same (tree.trans root)).trans ?_
  refine Ensures.forM (FilesGained run.userId) (fun _ => FilesGained.same rfl)
    (fun _ _ _ => FilesGained.trans) ?_ _ _ _ filing
  intro file _ start seated last copying
  unfold copyTreeFile at copying
  split at copying
  · exact (throw_ok copying).elim
  · obtain ⟨_, one, -⟩ := bind_pure_ok copying
    exact insertFile_gains rfl _ _ _ one

theorem copyFolder_gains {plan : FolderDeletePlan} {existing : List Nat} :
    Ensures (copyFolder run plan existing) fun before _ after =>
      FilesGained run.userId before after := by
  intro before sizes after ran
  obtain ⟨target, found, finding, rest₁⟩ := bind_ok ran
  obtain rfl := requireTarget_ok finding
  have rest₂ := get_bind_ok rest₁
  split at rest₂
  · obtain ⟨_, releasing, -⟩ := bind_pure_ok rest₂
    exact FilesGained.ofRows run.userId (releaseReservedStorageChecked_keeps _ _ _ releasing)
  · obtain ⟨_, counted, counting, rest₃⟩ := bind_ok rest₂
    obtain ⟨_, copied, copying, rest₄⟩ := bind_ok rest₃
    obtain ⟨_, listed, listing, rest₅⟩ := bind_ok rest₄
    obtain ⟨_, committing, -⟩ := bind_pure_ok rest₅
    have first := FilesGained.ofRows run.userId (countCopiedContents_keeps _ _ _ counting)
    have second := copyTree_gains _ _ _ copying
    have third := countCopiedItems_gains _ _ _ listing
    have fourth := FilesGained.ofRows run.userId (commitReservedToUsed_keeps _ _ _ committing)
    exact ((first.trans second).trans third).trans fourth

/-- A unit of the copy gains files when its transaction does. -/
theorem CopyRun.settle_gains {next : CopyRun} {db : Db} {unit skippedBefore : Nat}
    {staged : Except ErrorInfo ((Nat × Nat) × Db)} (committed : ∀ sizes after,
      staged = .ok (sizes, after) → FilesGained userId db after) :
    FilesGained userId db (next.settle staged db unit skippedBefore).1 := by
  cases staged with
  | error error => exact FilesGained.same rfl
  | ok result => exact committed result.1 result.2 rfl

theorem CopyRun.stepBatch_gains {names existing : Option Db} {fails : Bool} {db : Db}
    {chunk : List File} {rest : List (List File)} :
    FilesGained run.userId db (run.stepBatch names existing fails db chunk rest).1 := by
  unfold CopyRun.stepBatch
  cases names with
  | none => exact FilesGained.same rfl
  | some seen =>
      simp only
      split
      · exact FilesGained.same rfl
      · refine CopyRun.settle_gains fun sizes after ran => ?_
        split at ran
        · cases ran
        · exact copyFileBatch_gains _ _ _ ran

theorem CopyRun.stepFolder_gains {existing : Option Db} {fails : Bool} {db : Db}
    {occupied : List String} {plan : FolderDeletePlan} {rest : List FolderDeletePlan} :
    FilesGained run.userId db (run.stepFolder existing fails db occupied plan rest).1 := by
  unfold CopyRun.stepFolder
  simp only
  split
  · exact FilesGained.same rfl
  · split
    · exact FilesGained.same rfl
    · split
      · exact FilesGained.same rfl
      · refine CopyRun.settle_gains fun sizes after ran => ?_
        split at ran
        · cases ran
        · exact copyFolder_gains _ _ _ ran

theorem CopyRun.stepRelease_gains {fails : Bool} {db : Db} :
    FilesGained run.userId db (run.stepRelease fails db).1 := by
  unfold CopyRun.stepRelease
  split
  · exact FilesGained.same rfl
  · rename_i value after ran
    split at ran
    · cases ran
    · exact FilesGained.ofRows run.userId (releaseReservedStorageChecked_keeps _ _ _ ran)

end Statements

section Accounts

/-- The stored reserved bytes of a user. -/
def Db.storageReserved (db : Db) (userId : Nat) : Int :=
  ((db.users.find? userId).map User.storageReserved).getD 0

/-- The stored used bytes of a user. -/
def Db.storageUsed (db : Db) (userId : Nat) : Int :=
  ((db.users.find? userId).map User.storageUsed).getD 0

/-- The stored reference count of a content. -/
def Db.refCount (db : Db) (contentId : Nat) : Int :=
  ((db.contents.find? contentId).map FileContent.refCount).getD 0

/-- The files of the later state whose ids the earlier one does not have. -/
def createdFiles (before after : Db) : List File :=
  after.files.rows.filter fun file => (before.files.find? file.id).isNone

variable {before after : Db} {files : List File}

theorem createdFiles_eq (grown : after.files.rows = before.files.rows ++ files) :
    createdFiles before after = files := by
  have distinct := after.files.distinct
  rw [grown, List.map_append, List.nodup_append'] at distinct
  have old : ∀ file ∈ before.files.rows, ¬ (before.files.find? file.id).isNone = true := by
    intro file present
    simp [Table.find?_eq_some_iff.mpr ⟨present, rfl⟩]
  have new : ∀ file ∈ files, (before.files.find? file.id).isNone = true := by
    intro file present
    rw [Option.isNone_iff_eq_none, Table.find?_eq_none_iff]
    intro other there same
    exact distinct.2.2 (List.mem_map_of_mem there) (same ▸ List.mem_map_of_mem present)
  rw [createdFiles, grown, List.filter_append, List.filter_eq_nil_iff.mpr old,
    List.filter_eq_self.mpr new, List.nil_append]

variable {extra : Nat → Nat → Prop} {amount : Ledger} (posts : Posts extra amount before after)

include posts

theorem Posts.storageReserved (tasks : after.tasks = before.tasks) (userId : Nat) :
    after.storageReserved userId = before.storageReserved userId + amount (.reserved userId) := by
  have balance := congrFun posts.balance (.reserved userId)
  rw [Pi.add_apply, Db.balance_reserved, Db.balance_reserved, tasks] at balance
  simp only [Db.storageReserved]
  omega

theorem Posts.storageUsed (trash : after.trash = before.trash)
    (grown : after.files.rows = before.files.rows ++ files) (userId : Nat)
    (owned : ∀ file ∈ files, file.userId = userId) :
    after.storageUsed userId = before.storageUsed userId + amount (.used userId) + sizeOf files := by
  have balance := congrFun posts.balance (.used userId)
  have charges : (files.map fun file => file.charge (.used userId)).sum = (sizeOf files : Nat) := by
    rw [sizeOf, Nat.cast_list_sum, List.map_map]
    congr 1
    apply List.map_congr_left
    intro file present
    rw [File.charge_used, if_pos (owned file present)]
    rfl
  rw [Pi.add_apply, Db.balance_used, Db.balance_used, trash, grown, List.map_append,
    List.sum_append, charges] at balance
  simp only [Db.storageUsed]
  omega

theorem Posts.refCount (trash : after.trash = before.trash)
    (grown : after.files.rows = before.files.rows ++ files) (contentId : Nat) :
    after.refCount contentId = before.refCount contentId + amount (.refs contentId) +
      (files.countP fun file => file.contentId = contentId : Nat) := by
  have balance := congrFun posts.balance (.refs contentId)
  have charges : (files.map fun file => file.charge (.refs contentId)).sum =
      (files.countP fun file => file.contentId = contentId : Nat) := by
    simp only [File.charge_refs]
    clear grown
    induction files with
    | nil => rfl
    | cons file rest ih =>
        rw [List.map_cons, List.sum_cons, ih, List.countP_cons]
        by_cases same : file.contentId = contentId
        · simp [same]
          omega
        · simp [same]
  rw [Pi.add_apply, Db.balance_refs, Db.balance_refs, trash, grown, List.map_append,
    List.sum_append, charges] at balance
  simp only [Db.refCount]
  omega

end Accounts

/-- The slot of the copy that takes this step. -/
def DriveAction.copySlot : DriveAction → Option Nat
  | .copyBatch slot _ _ _ => some slot
  | .copyRootNames slot _ => some slot
  | .copyFolder slot _ _ => some slot
  | .copyRelease slot _ => some slot
  | .abandonCopy slot => some slot
  | _ => none

/-- The steps of one copy. -/
def DriveAction.ofCopy (slot : Nat) (action : DriveAction) : Bool := action.copySlot == some slot

namespace World

variable {world next : World} {slot : Nat}

theorem commit_copies {Value : Type} {program : Tx Value} (moved : world.commit program = some next) :
    next.copies[slot]? = world.copies[slot]? := by
  obtain ⟨value, after, -, rfl⟩ := commit_some moved
  rfl

theorem commitSettling_copies {uploadId : String} {program : Tx (Option Nat)}
    (moved : world.commitSettling uploadId program = some next) :
    next.copies[slot]? = world.copies[slot]? := by
  unfold commitSettling at moved
  split at moved <;> cases moved <;> rfl

theorem setCopy_other {other : Nat} {outcome : Db × CopyRun} (differ : other ≠ slot) :
    (world.setCopy other outcome).copies[slot]? = world.copies[slot]? :=
  List.getElem?_set_ne differ

/-- A step outside a copy leaves the copy as it is. -/
theorem copies_kept {action : DriveAction} (others : action.ofCopy slot = false)
    (there : slot < world.copies.length) (moved : world.step action = some next) :
    next.copies[slot]? = world.copies[slot]? := by
  have differ : ∀ other, action.copySlot = some other → other ≠ slot := by
    rintro other named rfl
    rw [DriveAction.ofCopy, named, beq_self_eq_true] at others
    cases others
  cases moved_of_step moved with
  | commits _ moved => exact commit_copies moved
  | settles _ moved => exact commitSettling_copies moved
  | starts _ _ moved =>
      unfold World.startCopy at moved
      split at moved
      · cases moved
      · split at moved
        · cases moved
        · cases moved
          exact List.getElem?_append_left there
  | copies _ continued same =>
      subst same
      cases continued <;> exact setCopy_other (differ _ rfl)

/-- What one step of a copy does to its run and to the state. -/
structure CopySteps (slot : Nat) (world next : World) (run after : CopyRun) : Prop where
  found : world.copies[slot]? = some run
  written : next.copies[slot]? = some after
  steps : run.Steps world.Held world.db (next.db, after)
  gained : FilesGained run.userId world.db next.db

theorem CopySteps.ofSet {run : CopyRun} {outcome : Db × CopyRun}
    (found : world.copies[slot]? = some run) (steps : run.Steps world.Held world.db outcome)
    (gained : FilesGained run.userId world.db outcome.1) :
    CopySteps slot world (world.setCopy slot outcome) run outcome.2 where
  found := found
  written := List.getElem?_set_self (List.getElem?_eq_some_iff.mp found).1
  steps := steps
  gained := gained

theorem stepCopyFolder_gains {run : CopyRun} {existing : Option Db} {fails : Bool}
    {outcome : Db × CopyRun} (stepped : world.stepCopyFolder run existing fails = some outcome) :
    FilesGained run.userId world.db outcome.1 := by
  unfold World.stepCopyFolder at stepped
  split at stepped
  · cases stepped
    exact FilesGained.same rfl
  · cases stepped
    exact CopyRun.stepFolder_gains
  · cases stepped

/-- Every step of a copy is such a step. -/
theorem Inv.copySteps (inv : world.Inv) {action : DriveAction} (own : action.ofCopy slot = true)
    (moved : world.step action = some next) :
    ∃ run after, CopySteps slot world next run after := by
  have named : action.copySlot = some slot := by simpa [DriveAction.ofCopy] using own
  cases moved_of_step moved with
  | commits issued => cases issued <;> cases named
  | settles settled => cases settled <;> cases named
  | starts same =>
      subst same
      cases named
  | @copies _ run outcome found continued same =>
      subst same
      have valid := inv.copies run (List.mem_of_getElem? found)
      refine ⟨run, outcome.2, ?_⟩
      cases continued with
      | batch idle chunks =>
          obtain rfl := Option.some.inj named
          exact .ofSet found (CopyRun.stepBatch_steps valid chunks idle) CopyRun.stepBatch_gains
      | rootNames =>
          obtain rfl := Option.some.inj named
          exact .ofSet found (CopyRun.stepRootNames_steps valid) (FilesGained.same rfl)
      | folder idle stepped =>
          obtain rfl := Option.some.inj named
          exact .ofSet found (inv.stepCopyFolder found idle stepped) (stepCopyFolder_gains stepped)
      | release =>
          obtain rfl := Option.some.inj named
          exact .ofSet found (CopyRun.stepRelease_steps valid) CopyRun.stepRelease_gains
      | abandon =>
          obtain rfl := Option.some.inj named
          exact .ofSet found (CopyRun.Steps.owe ⟨valid.files, valid.plans, valid.reserved⟩ rfl rfl)
            (FilesGained.same rfl)

/-- The change that one step of a copy makes to each counter. -/
structure Counts (userId : Nat) (freed : Int) (created : List File) (before after : Db) : Prop where
  owned : ∀ file ∈ created, file.userId = userId
  reserved : after.storageReserved userId = before.storageReserved userId - freed
  used : after.storageUsed userId = before.storageUsed userId + sizeOf created
  refs : ∀ contentId, after.refCount contentId = before.refCount contentId +
    (created.countP fun file => file.contentId = contentId : Nat)

theorem CopySteps.counts {action : DriveAction} {run after : CopyRun}
    (steps : CopySteps slot world next run after) (own : action.ofCopy slot = true)
    (moved : world.step action = some next) :
    Counts run.userId (run.outstanding - after.outstanding) (createdFiles world.db next.db)
      world.db next.db := by
  obtain ⟨files, grown, owned⟩ := steps.gained
  have quiet : action.writesTrash = false ∧ action.writesTasks = false := by
    cases action <;> first | exact ⟨rfl, rfl⟩ | cases own
  have trash : next.db.trash = world.db.trash :=
    step_keeps (.inl quiet.1) (.inr inferInstance) moved
  have tasks : next.db.tasks = world.db.tasks :=
    step_keeps (.inr inferInstance) (.inl quiet.2) moved
  have posts := steps.steps.posts
  rw [createdFiles_eq grown]
  refine ⟨owned, ?_, ?_, fun contentId => ?_⟩
  · rw [posts.storageReserved tasks run.userId]
    simp [post_apply]
    omega
  · rw [posts.storageUsed trash grown run.userId owned]
    simp [post_apply]
  · rw [posts.refCount trash grown contentId]
    simp [post_apply]

/-- The files that the steps of one copy create along a run. -/
def createdByCopy (world : World) (slot : Nat) (actions : List DriveAction) : List File :=
  driveSystem.itemsOf (DriveAction.ofCopy slot) (fun state next => createdFiles state.db next.db) world
    actions

/-- What all steps but those of one copy add to a counter along a run. -/
def changeByOthers (world : World) (slot : Nat) (counter : Db → Int) (actions : List DriveAction) : Int :=
  driveSystem.gainOf (fun action => !action.ofCopy slot) (fun state => counter state.db) world actions

/-- What the steps of one copy add to a counter along a run. -/
def changeByCopy (world : World) (slot : Nat) (counter : Db → Int) (actions : List DriveAction) : Int :=
  driveSystem.gainOf (DriveAction.ofCopy slot) (fun state => counter state.db) world actions

/-- The change that the steps of one copy make to each counter along a run. -/
structure CopyGains (slot : Nat) (world : World) (actions : List DriveAction) (run after : CopyRun) :
    Prop where
  owned : ∀ file ∈ world.createdByCopy slot actions, file.userId = run.userId
  reserved : world.changeByCopy slot (fun db => db.storageReserved run.userId) actions =
    after.outstanding - run.outstanding
  used : world.changeByCopy slot (fun db => db.storageUsed run.userId) actions =
    sizeOf (world.createdByCopy slot actions)
  refs : ∀ contentId, world.changeByCopy slot (fun db => db.refCount contentId) actions =
    ((world.createdByCopy slot actions).countP fun file => file.contentId = contentId : Nat)

theorem sizeOf_append (first second : List File) :
    sizeOf (first ++ second) = sizeOf first + sizeOf second := by
  rw [sizeOf, List.map_append, List.sum_append]
  rfl

/-- Along any run, a copy gains in each counter what the files that it created account for. -/
theorem Inv.copyGains (inv : world.Inv) {finish : World} {actions : List DriveAction} {run : CopyRun}
    (found : world.copies[slot]? = some run) (ran : driveSystem.run world actions = some finish) :
    ∃ after, finish.copies[slot]? = some after ∧ after.userId = run.userId ∧
      CopyGains slot world actions run after := by
  induction actions generalizing world run with
  | nil =>
      obtain rfl : world = finish := by simpa using ran
      exact ⟨run, found, rfl, by simp [createdByCopy, TransitionSystem.itemsOf],
        by simp [changeByCopy, TransitionSystem.gainOf],
        rfl, fun _ => rfl⟩
  | cons action rest ih =>
      rw [TransitionSystem.run_cons, Option.bind_eq_some_iff] at ran
      obtain ⟨next, moved, ran⟩ := ran
      have kept := inv.kept (inv.steps moved)
      cases own : action.ofCopy slot with
      | false =>
          have there := copies_kept own (List.getElem?_eq_some_iff.mp found).1 moved
          obtain ⟨after, last, same, gains⟩ := ih kept (there.trans found) ran
          refine ⟨after, last, same, ?_, ?_, ?_, fun contentId => ?_⟩
          · simpa [createdByCopy, TransitionSystem.itemsOf, moved, own] using gains.owned
          · simpa [changeByCopy, TransitionSystem.gainOf, moved, own] using gains.reserved
          · simpa [changeByCopy, createdByCopy, TransitionSystem.gainOf, TransitionSystem.itemsOf, moved,
              own] using gains.used
          · simpa [changeByCopy, createdByCopy, TransitionSystem.gainOf, TransitionSystem.itemsOf, moved,
              own] using gains.refs contentId
      | true =>
          obtain ⟨first, middle, stepped⟩ := inv.copySteps own moved
          obtain rfl : run = first := Option.some.inj (found.symm.trans stepped.found)
          have counts := stepped.counts own moved
          obtain ⟨after, last, same, gains⟩ := ih kept stepped.written ran
          rw [stepped.steps.userId] at same
          have owner := stepped.steps.userId
          simp only at owner
          refine ⟨after, last, same, ?_, ?_, ?_, fun contentId => ?_⟩
          · intro file present
            simp only [createdByCopy, TransitionSystem.itemsOf, moved, own, if_true] at present
            rcases List.mem_append.mp present with here | later
            · exact counts.owned file here
            · rw [← owner]
              exact gains.owned file later
          · have later := gains.reserved
            have here := counts.reserved
            simp only [owner, changeByCopy] at later
            simp only [changeByCopy, TransitionSystem.gainOf, moved, own, if_true]
            omega
          · have later := gains.used
            have here := counts.used
            simp only [owner, changeByCopy, createdByCopy] at later
            simp only [changeByCopy, createdByCopy, TransitionSystem.gainOf, TransitionSystem.itemsOf, moved, own, if_true,
              sizeOf_append]
            omega
          · have later := gains.refs contentId
            simp only [changeByCopy, createdByCopy] at later
            have here := counts.refs contentId
            simp only [changeByCopy, createdByCopy, TransitionSystem.gainOf, TransitionSystem.itemsOf, moved, own, if_true,
              List.countP_append]
            omega

/-- A copy has returned when it has come to its end and no release of it has failed. -/
def CopyReturned (world : World) (slot : Nat) : Prop :=
  ∃ run, world.copies[slot]? = some run ∧ run.running = true ∧ run.chunks = [] ∧ run.plans = [] ∧
    run.owed = 0

/-- A copy starts with its whole reservation outstanding. -/
theorem planCopy_start {reads : CopyReads} {hashOrder : List Nat} {request : CopyRequest}
    {run : CopyRun} (planned : planCopy reads hashOrder request = .ok run) :
    run.userId = request.userId ∧ run.outstanding = run.totalCopySize := by
  unfold planCopy at planned
  simp only [bind, Except.bind] at planned
  split at planned
  · cases planned
  · split at planned
    · cases planned
    · cases planned
      exact ⟨rfl, by simp [CopyRun.outstanding]⟩

/-- A copy starts by reserving what it still has to account for. -/
theorem copyStarted {targetRead planRead : Nat} {fileReads : List (Option Nat)}
    {hashOrder : List Nat} {request : CopyRequest}
    (moved : world.step (.startCopy targetRead planRead fileReads hashOrder request) = some next) :
    ∃ run, next.copies[world.copies.length]? = some run ∧ run.userId = request.userId ∧
      Counts request.userId (-run.outstanding) [] world.db next.db := by
  obtain ⟨reads, -, moved₁⟩ := Option.bind_eq_some_iff.mp moved
  unfold World.startCopy at moved₁
  split at moved₁
  · cases moved₁
  · rename_i run planning
    split at moved₁
    · cases moved₁
    · rename_i value after ran
      obtain ⟨owner, whole⟩ := planCopy_start planning
      have posts : Posts nothingNew (post (.reserved run.userId) run.totalCopySize) world.db after :=
        reserveStorage_posts _ _ _ ran
      have trash : after.trash = world.db.trash := reserveStorage_keeps _ _ _ ran
      have tasks : after.tasks = world.db.tasks := reserveStorage_keeps _ _ _ ran
      have rows : after.rows = world.db.rows := reserveStorage_keeps _ _ _ ran
      have files : after.files = world.db.files := congrArg (fun rows => rows.2.1) rows
      have grown : after.files.rows = world.db.files.rows ++ [] := by rw [files, List.append_nil]
      cases moved₁
      refine ⟨run, List.getElem?_concat_length, owner, ?_⟩
      change Counts request.userId (-run.outstanding) [] world.db after
      refine ⟨by simp, ?_, ?_, fun contentId => ?_⟩
      · rw [posts.storageReserved tasks request.userId, whole, owner]
        simp [post_apply]
      · rw [posts.storageUsed trash grown request.userId (by simp), owner]
        simp [post_apply]
      · rw [posts.refCount trash grown contentId]
        simp [post_apply]

end World

/-- From the reservation of a copy to its return, reserved bytes change by what others change, used bytes
also by the files that it created, and each reference count also by those that refer to its content. -/
theorem copy_accounts_exact {start first finish : World} {targetRead planRead : Nat}
    {fileReads : List (Option Nat)} {hashOrder : List Nat} {request : CopyRequest}
    {actions : List DriveAction} (reachable : driveSystem.Reachable start)
    (began : start.step (.startCopy targetRead planRead fileReads hashOrder request) = some first)
    (ran : driveSystem.run first actions = some finish)
    (returned : finish.CopyReturned start.copies.length) :
    finish.db.storageReserved request.userId = start.db.storageReserved request.userId +
      first.changeByOthers start.copies.length (fun db => db.storageReserved request.userId) actions ∧
    finish.db.storageUsed request.userId = start.db.storageUsed request.userId +
      first.changeByOthers start.copies.length (fun db => db.storageUsed request.userId) actions +
      sizeOf (first.createdByCopy start.copies.length actions) ∧
    (∀ contentId, finish.db.refCount contentId = start.db.refCount contentId +
      first.changeByOthers start.copies.length (fun db => db.refCount contentId) actions +
      ((first.createdByCopy start.copies.length actions).countP
        fun file => file.contentId = contentId : Nat)) ∧
    ∀ file ∈ first.createdByCopy start.copies.length actions, file.userId = request.userId := by
  have inv := World.inv_of_reachable reachable
  have firstInv := inv.kept (inv.steps began)
  have finishInv : finish.Inv :=
    (driveSystem.reaches_of_run ran).keeps World.Inv
      (fun _ _ _ here _ moved => here.kept (here.steps moved)) firstInv
  obtain ⟨run, found, owner, counts⟩ := World.copyStarted began
  obtain ⟨last, there, -, gains⟩ := firstInv.copyGains found ran
  obtain ⟨ended, same, -, chunks, plans, idle⟩ := returned
  obtain rfl : last = ended := Option.some.inj (there.symm.trans same)
  have settled : last.outstanding = 0 := by
    rw [(finishInv.copies last (List.mem_of_getElem? there)).reserved, CopyRun.pending, chunks, plans, idle]
    rfl
  rw [← owner]
  rw [← owner] at counts
  have change : ∀ counter : Db → Int, counter finish.db = counter first.db +
      first.changeByOthers start.copies.length counter actions +
      first.changeByCopy start.copies.length counter actions :=
    fun counter => driveSystem.measure_of_run _ (fun state => counter state.db) ran
  refine ⟨?_, ?_, fun contentId => ?_, gains.owned⟩
  · have whole := change fun db => db.storageReserved run.userId
    have began := counts.reserved
    have copied := gains.reserved
    omega
  · have whole := change fun db => db.storageUsed run.userId
    have began := counts.used
    have copied := gains.used
    simp only [sizeOf, List.map_nil, List.sum_nil] at began copied ⊢
    omega
  · have whole := change fun db => db.refCount contentId
    have began := counts.refs contentId
    have copied := gains.refs contentId
    simp only [List.countP_nil] at began copied ⊢
    omega

/-- The batch of one file fails and its reservation is released, between the steps of other requests. -/
def copyIntoFolder : List DriveAction :=
  [.tick 1, .copyBatch 0 (some 0) (some 0) true, .createFolder 1 1 "e", .copyRelease 0 false]

/-- A copy that fails leaves the counters as it has found them. -/
theorem copy_accounts_exact_single : ∃ start first finish, driveSystem.Reachable start ∧
    start.step (.startCopy 0 0 [some 0] [] ⟨1, [1], [], 1⟩) = some first ∧
    driveSystem.run first copyIntoFolder = some finish ∧
    first.db.storageReserved 1 = 5 ∧ finish.db.storageUsed 1 = 5 ∧
    first.changeByOthers 0 (fun db => db.storageUsed 1) copyIntoFolder = 0 ∧
    finish.db.storageReserved 1 = start.db.storageReserved 1 +
      first.changeByOthers 0 (fun db => db.storageReserved 1) copyIntoFolder ∧
    finish.db.storageUsed 1 = start.db.storageUsed 1 +
      first.changeByOthers 0 (fun db => db.storageUsed 1) copyIntoFolder +
      sizeOf (first.createdByCopy 0 copyIntoFolder) := by
  obtain ⟨start, reachable, checked⟩ := driveSystem.exists_reachable_of_run
    (firstUpload ++ [.createFolder 1 0 "d"])
    (fun start => start.copies.length = 0 ∧
      (start.step (.startCopy 0 0 [some 0] [] ⟨1, [1], [], 1⟩)).any fun first =>
        first.db.storageReserved 1 = 5 ∧
        first.changeByOthers 0 (fun db => db.storageUsed 1) copyIntoFolder = 0 ∧
        (driveSystem.run first copyIntoFolder).any fun finish => finish.db.storageUsed 1 = 5 ∧
          (finish.copies[0]?).any fun run =>
            run.running = true ∧ run.chunks = [] ∧ run.plans = [] ∧ run.owed = 0)
    rfl (by decide +kernel)
  obtain ⟨none, begins⟩ := of_decide_eq_true checked
  obtain ⟨first, began, checkedFirst⟩ := (Option.any_eq_true _ _).mp begins
  obtain ⟨reserved, others, runs⟩ := of_decide_eq_true checkedFirst
  obtain ⟨finish, ran, checkedFinish⟩ := (Option.any_eq_true _ _).mp runs
  obtain ⟨used, ends⟩ := of_decide_eq_true checkedFinish
  obtain ⟨run, there, ended⟩ := (Option.any_eq_true _ _).mp ends
  have exactly := copy_accounts_exact reachable began ran
    ⟨run, none ▸ there, of_decide_eq_true ended⟩
  rw [none] at exactly
  exact ⟨start, first, finish, reachable, began, ran, reserved, used, others, exactly.1, exactly.2.1⟩

end DiskServer.Drive
