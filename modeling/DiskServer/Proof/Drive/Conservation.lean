import DiskServer.Proof.Drive.System
import Mathlib.Algebra.Order.Group.Nat

namespace DiskServer.Drive

open Library Upload

/-- The content that a file in the trash resolves to. -/
def Trash.resolvedContentId (row : Trash) : Option Nat :=
  match resolveRequiredContentId row.contentId row.itemData with
  | .ok (contentId, _) => some contentId
  | .error _ => none

/-- The contents of the file entries in the snapshot of a trashed folder. -/
def Trash.snapshotContentIds (row : Trash) : List Nat :=
  match parseFolderTreeSnapshot row.itemData with
  | .ok (some snapshot) => snapshot.files.map fun file => file.contentId
  | _ => []

/-- The files of a content. -/
def Db.fileReferences (db : Db) (contentId : Nat) : Nat :=
  db.files.rows.countP fun file => file.contentId = contentId

/-- The trashed files of a content. -/
def Db.trashReferences (db : Db) (contentId : Nat) : Nat :=
  db.trash.rows.countP fun row => row.itemType = .file ∧ row.resolvedContentId = some contentId

/-- The files of a content within trashed folders. -/
def Db.snapshotReferences (db : Db) (contentId : Nat) : Nat :=
  ((db.trash.rows.filter fun row => row.itemType = .folder).map fun row =>
    row.snapshotContentIds.count contentId).sum

/-- The bytes of the files of a user. -/
def Db.fileBytes (db : Db) (userId : Nat) : Nat :=
  ((db.files.rows.filter fun file => file.userId = userId).map File.size).sum

/-- The bytes in the trash of a user, snapshots included. -/
def Db.trashBytes (db : Db) (userId : Nat) : Nat :=
  ((db.trash.rows.filter fun row => row.userId = userId).map Trash.itemSize).sum

/-- The rows that meet a condition weigh the same when every other row weighs nothing. -/
theorem sum_map_ite {Row : Type} (select : Row → Prop) [DecidablePred select] (weight : Row → Nat)
    (rows : List Row) :
    (rows.map fun row => if select row then (weight row : Int) else 0).sum =
      (((rows.filter fun row => select row).map weight).sum : Nat) := by
  induction rows with
  | nil => rfl
  | cons row rest ih =>
      by_cases chosen : select row <;> simp [chosen, ih]

theorem Trash.charge_refs_split (row : Trash) (contentId : Nat) :
    row.charge (.refs contentId) =
      (if row.itemType = .file ∧ row.resolvedContentId = some contentId then ((1 : Nat) : Int) else 0) +
        if row.itemType = .folder then (row.snapshotContentIds.count contentId : Int) else 0 := by
  rw [Trash.charge_refs, Trash.entries, Trash.resolvedContentId, Trash.snapshotContentIds]
  cases row.itemType with
  | file =>
      rcases resolveRequiredContentId row.contentId row.itemData with error | ⟨resolved, source⟩
      · simp
      · by_cases same : resolved = contentId <;> simp [same]
  | folder =>
      rcases parseFolderTreeSnapshot row.itemData with error | (_ | snapshot)
      · simp
      · simp
      · simp [List.map_map, Function.comp_def]

/-- Every count is the number of the references in the three places that keep one. -/
theorem World.Inv.refCount {world : World} (inv : world.Inv) {content : FileContent}
    (present : content ∈ world.db.contents.rows) :
    content.refCount = world.db.fileReferences content.id + world.db.trashReferences content.id +
      world.db.snapshotReferences content.id := by
  have zero := inv.exact.1 content.id
  have found : world.db.contents.find? content.id = some content :=
    Table.find?_eq_some_iff.mpr ⟨present, rfl⟩
  rw [Db.balance_refs, found] at zero
  have files : (world.db.files.rows.map fun file => file.charge (.refs content.id)).sum =
      (world.db.fileReferences content.id : Int) := by
    have total := sum_map_ite (fun file : File => file.contentId = content.id) (fun _ => 1)
      world.db.files.rows
    simpa [File.charge_refs, Db.fileReferences, List.countP_eq_length_filter] using total
  have trash : (world.db.trash.rows.map fun row => row.charge (.refs content.id)).sum =
      (world.db.trashReferences content.id : Int) + world.db.snapshotReferences content.id := by
    simp only [Trash.charge_refs_split, List.sum_map_add]
    rw [sum_map_ite, sum_map_ite]
    simp [Db.trashReferences, Db.snapshotReferences, List.countP_eq_length_filter]
  rw [files, trash] at zero
  simp only [Option.map_some, Option.getD_some] at zero
  omega

/-- Every counter of used bytes is the size of the files and of the trash of its user. -/
theorem World.Inv.storageUsed {world : World} (inv : world.Inv) {user : User}
    (present : user ∈ world.db.users.rows) :
    user.storageUsed = world.db.fileBytes user.id + world.db.trashBytes user.id := by
  have zero := inv.exact.2 user.id
  have found : world.db.users.find? user.id = some user := Table.find?_eq_some_iff.mpr ⟨present, rfl⟩
  rw [Db.balance_used, found] at zero
  have files : (world.db.files.rows.map fun file => file.charge (.used user.id)).sum =
      (world.db.fileBytes user.id : Int) := by
    simp only [File.charge_used]
    exact sum_map_ite (fun file : File => file.userId = user.id) File.size _
  have trash : (world.db.trash.rows.map fun row => row.charge (.used user.id)).sum =
      (world.db.trashBytes user.id : Int) := by
    have charges : world.db.trash.rows.map (fun row => row.charge (.used user.id)) =
        world.db.trash.rows.map fun row => if row.userId = user.id then (row.itemSize : Int) else 0 := by
      apply List.map_congr_left
      intro row stored
      exact Trash.charge_used ((inv.sound _ World.current_mem).trash row stored) user.id
    rw [charges]
    exact sum_map_ite (fun row : Trash => row.userId = user.id) Trash.itemSize _
  rw [files, trash] at zero
  simp only [Option.map_some, Option.getD_some] at zero
  omega

/-- The bytes that the copies of a user have reserved and neither released nor converted. -/
def World.copyBytes (world : World) (userId : Nat) : Int :=
  ((world.copies.filter fun run => run.userId = userId).map CopyRun.outstanding).sum

theorem World.reservations_reserved (world : World) (userId : Nat) :
    world.reservations (.reserved userId) = world.copyBytes userId := by
  have copies : (world.copies.map fun run =>
      post (.reserved run.userId) run.outstanding (.reserved userId)).sum = world.copyBytes userId := by
    unfold World.copyBytes
    induction world.copies with
    | nil => rfl
    | cons run rest ih =>
        by_cases owned : run.userId = userId
        · simp [owned, post_apply] at ih ⊢
          exact ih
        · simp [owned, Ne.symm owned, post_apply] at ih ⊢
          exact ih
  simp only [World.reservations, Pi.add_apply, sum_map_apply, copies]
  simp [post_apply]

theorem World.reservations_settled (world : World) (taskId : String) :
    world.reservations (.settled taskId) = world.settled.count taskId := by
  have ended : (world.settled.map fun other => post (.settled other) 1 (.settled taskId)).sum =
      (world.settled.count taskId : Int) := by
    induction world.settled with
    | nil => rfl
    | cons other rest ih =>
        by_cases same : other = taskId
        · simp [same, post_apply] at ih ⊢
          omega
        · simp [same, Ne.symm same, post_apply] at ih ⊢
          exact ih
  simp only [World.reservations, Pi.add_apply, sum_map_apply, ended]
  simp [post_apply]

theorem World.Inv.outstanding_nonneg {world : World} (inv : world.Inv) {run : CopyRun}
    (present : run ∈ world.copies) : 0 ≤ run.outstanding := by
  rw [(inv.copies run present).reserved]
  exact Int.natCast_nonneg _

/-- The reserved bytes of a user are what the active tasks and the copies of the user hold. -/
theorem World.Inv.storageReserved {world : World} (inv : world.Inv) (userId : Nat) :
    ((world.db.users.find? userId).map User.storageReserved).getD 0 =
      ((world.db.tasks.rows.map (heldBytes userId)).sum : Nat) + world.copyBytes userId := by
  have balance := congrFun inv.balance (.reserved userId)
  rw [Db.balance_reserved, World.reservations_reserved] at balance
  omega

/-- A task is settled once when it has ended and never before. -/
theorem World.Inv.settledOnce {world : World} (inv : world.Inv) {task : UploadTask}
    (present : task ∈ world.db.tasks.rows) :
    world.settled.count task.id = if task.active then 0 else 1 := by
  have balance := congrFun inv.balance (.settled task.id)
  have found : world.db.tasks.find? task.id = some task := Table.find?_eq_some_iff.mpr ⟨present, rfl⟩
  rw [Db.balance_settled, World.reservations_settled, found] at balance
  simp only [Option.map_some, Option.getD_some] at balance
  split at balance <;> simp_all <;> omega

/-- The reserved bytes of the user cover this amount. -/
def Db.Reserves (db : Db) (userId : Nat) (bytes : Int) : Prop :=
  bytes ≤ ((db.users.find? userId).map User.storageReserved).getD 0

/-- An active task still holds its reserved bytes. -/
theorem World.Inv.reserves_task {world : World} (inv : world.Inv) {task : UploadTask}
    (present : task ∈ world.db.tasks.rows) (active : task.active = true) :
    world.db.Reserves task.userId task.reservedBytes := by
  have single : heldBytes task.userId task ≤ (world.db.tasks.rows.map (heldBytes task.userId)).sum :=
    List.single_le_sum (fun _ _ => Nat.zero_le _) _ (List.mem_map_of_mem present)
  have copies : 0 ≤ world.copyBytes task.userId :=
    sum_map_nonneg fun run there => inv.outstanding_nonneg (List.mem_of_mem_filter there)
  rw [Db.Reserves, inv.storageReserved]
  simp only [heldBytes, active, and_self, if_true] at single
  omega

/-- A running copy still holds its outstanding bytes. -/
theorem World.Inv.reserves_copy {world : World} (inv : world.Inv) {run : CopyRun}
    (present : run ∈ world.copies) : world.db.Reserves run.userId run.outstanding := by
  have single : run.outstanding ≤ world.copyBytes run.userId :=
    le_sum_map_of_mem (fun other there => inv.outstanding_nonneg (List.mem_of_mem_filter there))
      (List.mem_filter.mpr ⟨present, by simp⟩)
  rw [Db.Reserves, inv.storageReserved]
  omega

/-- Converting some bytes and then releasing others fails only when a sum leaves the range of a
BIGINT, so never because the reserved bytes are missing. -/
def Db.Settles (db : Db) (userId converted released : Nat) : Prop :=
  ∀ error, (do
      commitReservedToUsed userId converted
      releaseReservedStorageChecked userId released : Tx Unit).run db = .error error →
    ∃ user ∈ db.users.rows, user.id = userId ∧
      (bigintMax < user.storageUsed + converted ∨ bigintMax < user.storageReserved)

/-- Reserved bytes can be converted and released. -/
theorem Db.Reserves.settles {db : Db} {userId converted released : Nat} {bytes : Int}
    (reserved : db.Reserves userId bytes) (within : (converted + released : Nat) ≤ bytes) :
    db.Settles userId converted released := by
  intro error failed
  cases found : db.users.find? userId with
  | none =>
      rw [Db.Reserves, found, Option.map_none, Option.getD_none] at reserved
      obtain ⟨rfl, rfl⟩ : converted = 0 ∧ released = 0 := by omega
      cases failed
  | some user =>
      rw [Db.Reserves, found, Option.map_some, Option.getD_some] at reserved
      obtain ⟨present, keyed⟩ := Table.find?_some found
      refine ⟨user, present, keyed, ?_⟩
      by_contra inRange
      obtain ⟨used, held⟩ := not_or.mp inRange
      obtain ⟨middle, next, converting, there, left⟩ := commitReservedToUsed_run found
        (not_lt.mp used) (by omega)
      have covered : (released : Int) ≤ next.storageReserved := by omega
      obtain ⟨after, releasing⟩ := releaseReservedStorageChecked_run there (by omega) covered
      rw [StateT.run_bind, converting] at failed
      cases releasing.symm.trans failed

/-- Every kept reference has the size of its content in each committed state. -/
def World.Agrees (world : World) : Prop :=
  ∀ db ∈ world.history, ∀ contentId size, db.Holds contentId size →
    ∃ content ∈ db.contents.rows, content.id = contentId ∧ content.size = size

theorem Db.charge_pos_of_holds {db : Db} {contentId size : Nat} (held : db.Holds contentId size) :
    0 < (db.files.rows.map fun file => file.charge (.refs contentId)).sum +
      (db.trash.rows.map fun row => row.charge (.refs contentId)).sum := by
  have files := @sum_map_nonneg _ _ db.files.rows fun file _ => file.charge_nonneg (.refs contentId)
  have trash := @sum_map_nonneg _ _ db.trash.rows fun row _ => row.charge_nonneg (.refs contentId)
  rcases held with ⟨file, present, entry⟩ | ⟨row, present, entry⟩
  · have single := le_sum_map_of_mem (fun other _ => File.charge_nonneg other (.refs contentId)) present
    have same : file.contentId = contentId := congrArg Prod.fst entry
    rw [File.charge_refs, if_pos same] at single
    omega
  · have single := le_sum_map_of_mem (fun other _ => Trash.charge_nonneg other (.refs contentId)) present
    have named : 0 < (row.entries.map Prod.fst).count contentId :=
      List.count_pos_iff.mpr (List.mem_map_of_mem (f := Prod.fst) entry)
    rw [Trash.charge_refs] at single
    omega

/-- A content that is referred to is stored. -/
theorem World.Inv.content_of_holds {world : World} (inv : world.Inv) {contentId size : Nat}
    (held : world.db.Holds contentId size) :
    ∃ content ∈ world.db.contents.rows, content.id = contentId := by
  have zero := inv.exact.1 contentId
  have positive := Db.charge_pos_of_holds held
  rw [Db.balance_refs] at zero
  cases found : world.db.contents.find? contentId with
  | none =>
      simp only [found, Option.map_none, Option.getD_none] at zero
      omega
  | some content => exact ⟨content, Table.find?_some found⟩

/-- A step of a trusted client adds no reference whose size differs from its content. -/
theorem World.Agrees.kept {world next : World} {trusted : Prop} (agrees : world.Agrees) (inv : world.Inv)
    (steps : World.Steps trusted world next) (holds : trusted) : next.Agrees := by
  obtain ⟨extra, amount, posts, -, sized⟩ := steps.posts
  have kept := inv.kept steps
  intro db present contentId size held
  rw [World.history, steps.past] at present
  rcases List.mem_cons.mp present with rfl | old
  · obtain ⟨content, stored, keyed⟩ := kept.content_of_holds held
    refine ⟨content, stored, keyed, ?_⟩
    have known : world.Held contentId size ∨ next.db.Sized contentId size := by
      rcases posts.holds contentId size held with there | new
      · exact .inl (World.held_of_current there)
      · exact sized holds contentId size new
    rcases known with ⟨earlier, there, same⟩ | same
    · obtain ⟨first, was, firstKey, firstSize⟩ := agrees earlier there contentId size same
      have bound := (earlier.contents.bounded first was).2
      have later := (inv.precedes earlier there).trans posts.precedes
      obtain ⟨again, wasToo, againKey, againSize⟩ :=
        later.contents content stored (by rwa [keyed, ← firstKey])
      rw [← againSize, ← firstSize]
      exact congrArg FileContent.size
        (earlier.contents.eq_of_key wasToo was ((againKey.trans keyed).trans firstKey.symm))
    · exact same content stored keyed
  · exact agrees db old contentId size held

theorem World.empty_agrees : World.empty.Agrees := by
  intro db present contentId size held
  obtain rfl : db = Db.empty := by simpa [World.history, World.empty] using present
  rcases held with ⟨file, none, -⟩ | ⟨row, none, -⟩
  · simp [Db.empty, Serial.empty, Table.empty] at none
  · simp [Db.empty, Serial.empty, Table.empty] at none

/-- Files and contents agree on their sizes in trusted runs. -/
theorem World.agrees_of_trusted {world : World}
    (reachable : driveSystem.ReachableWhen World.TrustedSize world) : world.Agrees := by
  refine (reachable.invariant (fun state => state.Inv ∧ state.Agrees) ?_ ?_).2
  · rintro _ rfl
    exact ⟨World.empty_inv, World.empty_agrees⟩
  · intro state action next both trusted moved
    have steps := both.1.steps moved
    exact ⟨both.1.kept steps, both.2.kept both.1 steps trusted⟩

/-- The uploads of one user who stores a content of five bytes and refers to it again. -/
def uploadCommand (filename : String) (fileSize : Nat) : InitUploadCommand where
  userId := 1
  filename := filename
  fileSize := fileSize
  fileHash := "md5"
  parentId := 0
  chunkSize := 4
  maxFileSize := 100
  expirySeconds := 60
  uploadTaskCreationEnabled := true

def firstUpload : List DriveAction :=
  [ .registerUser 100,
    .createUploadTask (uploadCommand "a.txt" 5) ⟨"up-1", .localDisk, "up-1"⟩,
    .recordChunk "up-1" 1 0 4 "c0" "" "",
    .recordChunk "up-1" 1 1 1 "c1" "" "",
    .taskStatement (.claim 1 "node-1" 30) "up-1",
    .completeUpload ⟨"up-1", 1, "node-1", 30, 1, "sha", "sha256/sha", none⟩ 0 ]

/-- The content is uploaded again, trashed once and copied while another upload is open. -/
def sharedContent : List DriveAction :=
  firstUpload ++
    [ .instantUpload (uploadCommand "b.txt" 5) 0,
      .moveToTrash [] [1] [] 1,
      .createUploadTask (uploadCommand "c.txt" 6) ⟨"up-2", .localDisk, "up-2"⟩,
      .startCopy 0 0 [some 0] [] ⟨1, [2], [], 0⟩ ]

section Results

variable {world : World}

/-- Every count of a content is exact in every reachable world. -/
theorem content_refCount_exact (reachable : driveSystem.Reachable world) :
    ∀ content ∈ world.db.contents.rows,
      content.refCount = world.db.fileReferences content.id + world.db.trashReferences content.id +
        world.db.snapshotReferences content.id := by
  intro content present
  exact (World.inv_of_reachable reachable).refCount present

/-- A content that a file and a trash row share. -/
theorem content_refCount_exact_shared : ∃ world, driveSystem.Reachable world ∧
    world.db.contents.rows.map FileContent.refCount = [2] ∧ world.db.trash.rows.length = 1 ∧
    ∀ content ∈ world.db.contents.rows,
      content.refCount = world.db.fileReferences content.id + world.db.trashReferences content.id +
        world.db.snapshotReferences content.id := by
  obtain ⟨world, reachable, counted⟩ := driveSystem.exists_reachable_of_run sharedContent
    (fun world => world.db.contents.rows.map FileContent.refCount = [2] ∧
      world.db.trash.rows.length = 1) rfl (by decide +kernel)
  obtain ⟨counts, trashed⟩ := of_decide_eq_true counted
  exact ⟨world, reachable, counts, trashed, content_refCount_exact reachable⟩

/-- The used bytes are exact in every reachable world, and a permanent delete takes from each user
what it frees, so that the clamp at zero changes nothing. -/
theorem storageUsed_exact (reachable : driveSystem.Reachable world) :
    (∀ user ∈ world.db.users.rows,
      user.storageUsed = world.db.fileBytes user.id + world.db.trashBytes user.id) ∧
    ∀ (index : Nat) (seen : Db) (trashIds : List Nat) (requireValid : Bool)
      (deletions : List (Trash × List Nat)) (result : PermanentDeleteResult) (after : Db),
      world.read index = some seen →
      collectDeletions requireValid (trashIds.filterMap seen.trash.find?) = .ok deletions →
      (permanentlyDeleteTrashItems (trashIds.filterMap seen.trash.find?) requireValid).run world.db =
        .ok (result, after) →
      ∀ user ∈ world.db.users.rows,
        max (user.storageUsed + -(freedBytes deletions user.id : Int)) 0 =
          user.storageUsed + -(freedBytes deletions user.id : Int) ∧
        after.users.find? user.id =
          some { user with storageUsed := user.storageUsed - freedBytes deletions user.id } := by
  have inv := World.inv_of_reachable reachable
  refine ⟨fun user present => inv.storageUsed present, ?_⟩
  intro index seen trashIds requireValid deletions result after read collected ran user present
  obtain ⟨-, freed⟩ := inv.permanentDelete (World.mem_history_of_read read) ran
  obtain ⟨covered, left⟩ := freed deletions collected user present
  exact ⟨max_eq_left (by omega), left⟩

/-- A user with a file and a trashed one. -/
theorem storageUsed_exact_shared : ∃ world, driveSystem.Reachable world ∧
    world.db.users.rows.map User.storageUsed = [10] ∧
    world.db.trash.rows.map Trash.itemSize = [5] ∧
    (∀ user ∈ world.db.users.rows,
      user.storageUsed = world.db.fileBytes user.id + world.db.trashBytes user.id) ∧
    ∃ deletions result after,
      collectDeletions true ([1].filterMap world.db.trash.find?) = .ok deletions ∧
      (permanentlyDeleteTrashItems ([1].filterMap world.db.trash.find?) true).run world.db =
        .ok (result, after) ∧
      ∀ user ∈ world.db.users.rows, after.users.find? user.id =
        some { user with storageUsed := user.storageUsed - freedBytes deletions user.id } := by
  obtain ⟨world, reachable, checked⟩ := driveSystem.exists_reachable_of_run sharedContent
    (fun world => world.db.users.rows.map User.storageUsed = [10] ∧
      world.db.trash.rows.map Trash.itemSize = [5] ∧
      (collectDeletions true ([1].filterMap world.db.trash.find?)).isOk = true ∧
      ((permanentlyDeleteTrashItems ([1].filterMap world.db.trash.find?) true).run world.db).isOk = true)
    rfl (by decide +kernel)
  obtain ⟨used, trashed, collecting, running⟩ := of_decide_eq_true checked
  obtain ⟨exactly, freeing⟩ := storageUsed_exact reachable
  refine ⟨world, reachable, used, trashed, exactly, ?_⟩
  cases collected : collectDeletions true ([1].filterMap world.db.trash.find?) with
  | error error => simp [collected, Except.isOk, Except.toBool] at collecting
  | ok deletions =>
      cases ran : (permanentlyDeleteTrashItems ([1].filterMap world.db.trash.find?) true).run world.db with
      | error error => simp [ran, Except.isOk, Except.toBool] at running
      | ok outcome =>
          refine ⟨deletions, outcome.1, outcome.2, rfl, rfl, fun user present => ?_⟩
          exact (freeing 0 world.db [1] true deletions outcome.1 outcome.2 rfl collected ran user present).2

/-- The reserved bytes are exact in every reachable world, each task is settled once, and no
conversion or release lacks the bytes it needs. -/
theorem reservation_conservation (reachable : driveSystem.Reachable world) :
    (∀ user ∈ world.db.users.rows, user.storageReserved =
      ((world.db.tasks.rows.map (heldBytes user.id)).sum : Nat) + world.copyBytes user.id) ∧
    (∀ task ∈ world.db.tasks.rows, world.settled.count task.id = if task.active then 0 else 1) ∧
    (∀ run ∈ world.copies,
      run.totalCopySize = run.actualCopySize + run.releasedCopySize + run.pending) ∧
    (∀ task ∈ world.db.tasks.rows, task.active = true →
      world.db.Settles task.userId task.reservedBytes 0 ∧
        world.db.Settles task.userId 0 task.reservedBytes) ∧
    ∀ run ∈ world.copies, ∀ converted released, converted + released ≤ run.pending →
      world.db.Settles run.userId converted released := by
  have inv := World.inv_of_reachable reachable
  refine ⟨?_, fun task present => inv.settledOnce present, ?_, ?_, ?_⟩
  · intro user present
    have reserved := inv.storageReserved user.id
    rw [Table.find?_eq_some_iff.mpr ⟨present, rfl⟩] at reserved
    exact reserved
  · intro run present
    have reserved := (inv.copies run present).reserved
    rw [CopyRun.outstanding] at reserved
    omega
  · intro task present active
    have reserved := inv.reserves_task present active
    exact ⟨reserved.settles (by simp), reserved.settles (by simp)⟩
  · intro run present converted released within
    have reserved := inv.reserves_copy present
    rw [(inv.copies run present).reserved] at reserved
    exact reserved.settles (Int.ofNat_le.mpr within)

/-- Two tasks and a running copy of one user. -/
theorem reservation_conservation_shared : ∃ world, driveSystem.Reachable world ∧
    world.db.users.rows.map User.storageReserved = [11] ∧ world.settled = ["up-1"] ∧
    world.copies.map CopyRun.pending = [5] ∧
    (∀ user ∈ world.db.users.rows, user.storageReserved =
      ((world.db.tasks.rows.map (heldBytes user.id)).sum : Nat) + world.copyBytes user.id) ∧
    ∀ task ∈ world.db.tasks.rows, world.settled.count task.id = if task.active then 0 else 1 := by
  obtain ⟨world, reachable, checked⟩ := driveSystem.exists_reachable_of_run sharedContent
    (fun world => world.db.users.rows.map User.storageReserved = [11] ∧ world.settled = ["up-1"] ∧
      world.copies.map CopyRun.pending = [5]) rfl (by decide +kernel)
  obtain ⟨reserved, settled, pending⟩ := of_decide_eq_true checked
  obtain ⟨exactly, once, -⟩ := reservation_conservation reachable
  exact ⟨world, reachable, reserved, settled, pending, exactly, once⟩

/-- Every file has a content, and the content has the size of the file. -/
def Db.SizesAgree (db : Db) : Prop :=
  ∀ file ∈ db.files.rows, ∃ content ∈ db.contents.rows,
    content.id = file.contentId ∧ content.size = file.size

/-- Files have the sizes of their contents when instant uploads name the size that the hash finds. -/
theorem file_size_of_trusted_run (reachable : driveSystem.ReachableWhen World.TrustedSize world) :
    world.db.SizesAgree := by
  intro file present
  exact World.agrees_of_trusted reachable _ World.current_mem _ _ (.inl ⟨file, present, rfl⟩)

/-- Two files of one content. -/
theorem file_size_of_trusted_run_shared : ∃ world,
    driveSystem.ReachableWhen World.TrustedSize world ∧ world.db.files.rows.map File.size = [5] ∧
    world.db.SizesAgree := by
  obtain ⟨world, reachable, checked⟩ := driveSystem.exists_reachableWhen_of_runWhen World.TrustedSize
    sharedContent (fun world => world.db.files.rows.map File.size = [5]) rfl (by decide +kernel)
  exact ⟨world, reachable, of_decide_eq_true checked, file_size_of_trusted_run reachable⟩

/-- A client that names seven bytes for the stored hash gets a file of seven bytes. -/
theorem file_size_differs :
    ¬ ∀ world, driveSystem.Reachable world → world.db.SizesAgree := by
  intro always
  obtain ⟨world, reachable, checked⟩ := driveSystem.exists_reachable_of_run
    (firstUpload ++ [.instantUpload (uploadCommand "b.txt" 7) 0])
    (fun world => world.db.contents.rows.map FileContent.size = [5] ∧
      world.db.files.rows.map File.size = [5, 7]) rfl (by decide +kernel)
  obtain ⟨contents, files⟩ := of_decide_eq_true checked
  obtain ⟨file, present, seven⟩ : ∃ file ∈ world.db.files.rows, file.size = 7 :=
    List.mem_map.mp (files ▸ by simp)
  obtain ⟨content, stored, -, same⟩ := always world reachable file present
  have five : content.size ∈ [5] := contents ▸ List.mem_map_of_mem stored
  simp only [List.mem_singleton] at five
  omega

end Results

end DiskServer.Drive
