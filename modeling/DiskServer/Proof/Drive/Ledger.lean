import DiskServer.Construction.Drive.System
import DiskServer.Proof.Upload.TaskRepository
import Mathlib.Algebra.Group.Pi.Lemmas
import Mathlib.Algebra.Order.Group.Int

namespace DiskServer.Drive

open Library Upload

/-- The counters that the drive keeps, and one account for each task that has ended. -/
inductive Account where
  | refs (contentId : Nat)
  | used (userId : Nat)
  | reserved (userId : Nat)
  | settled (taskId : String)
  deriving DecidableEq

/-- An amount for each account. -/
abbrev Ledger := Account → Int

/-- An amount on one account and nothing on the others. -/
def post (account : Account) (amount : Int) : Ledger := Pi.single account amount

theorem post_apply (account other : Account) (amount : Int) :
    post account amount other = if other = account then amount else 0 :=
  Pi.single_apply account amount other

@[simp] theorem post_zero (account : Account) : post account 0 = 0 := Pi.single_zero account

theorem post_add (account : Account) (one two : Int) :
    post account (one + two) = post account one + post account two := by
  funext other
  simp only [Pi.add_apply, post_apply]
  split <;> simp

theorem post_neg (account : Account) (amount : Int) : post account (-amount) = -post account amount := by
  funext other
  simp only [Pi.neg_apply, post_apply]
  split <;> simp

theorem post_sub (account : Account) (one two : Int) :
    post account (one - two) = post account one - post account two := by
  rw [sub_eq_add_neg, post_add, post_neg, sub_eq_add_neg]

/-- A stored reference holds its content once and takes its size from the user. -/
def entryCharge (userId : Nat) (entry : Nat × Nat) : Ledger :=
  post (.refs entry.1) 1 + post (.used userId) entry.2

/-- Entries of one user charge each content once and the user for all sizes. -/
theorem sum_entryCharge (userId : Nat) (entries : List (Nat × Nat)) :
    (entries.map (entryCharge userId)).sum =
      (entries.map fun entry => post (.refs entry.1) 1).sum +
        post (.used userId) ((entries.map Prod.snd).sum : Nat) := by
  induction entries with
  | nil => simp
  | cons entry rest ih =>
      simp only [List.map_cons, List.sum_cons, ih, entryCharge, Nat.cast_add, post_add]
      abel

/-- The contents that a trash row keeps, each with the size it was charged for. -/
def Trash.entries (row : Trash) : List (Nat × Nat) :=
  match row.itemType with
  | .file =>
      match resolveRequiredContentId row.contentId row.itemData with
      | .ok (contentId, _) => [(contentId, row.itemSize)]
      | .error _ => []
  | .folder =>
      match parseFolderTreeSnapshot row.itemData with
      | .ok (some snapshot) => snapshot.files.map fun file => (file.contentId, file.size)
      | _ => []

/-- What the counters of a user hold. -/
def User.asset (user : User) : Ledger :=
  post (.used user.id) user.storageUsed + post (.reserved user.id) user.storageReserved

/-- What the reference count of a content holds. -/
def FileContent.asset (content : FileContent) : Ledger := post (.refs content.id) content.refCount

def File.entry (file : File) : Nat × Nat := (file.contentId, file.size)

/-- What a file row accounts for. -/
def File.charge (file : File) : Ledger := entryCharge file.userId file.entry

/-- What a trash row accounts for, its snapshot included. -/
def Trash.charge (row : Trash) : Ledger := (row.entries.map (entryCharge row.userId)).sum

/-- An active task owns its reservation, and an ended one has settled it. -/
def taskCharge (task : UploadTask) : Ledger :=
  if task.active then post (.reserved task.userId) task.reservedBytes else -post (.settled task.id) 1

/-- What the counters hold beyond what the rows account for. -/
def Db.balance (db : Db) : Ledger :=
  (db.users.rows.map User.asset).sum + (db.contents.rows.map FileContent.asset).sum -
    (db.files.rows.map File.charge).sum - (db.trash.rows.map Trash.charge).sum -
    (db.tasks.rows.map taskCharge).sum

/-- Some file or trash row keeps this content at this size. -/
def Db.Holds (db : Db) (contentId size : Nat) : Prop :=
  (∃ file ∈ db.files.rows, file.entry = (contentId, size)) ∨
    ∃ row ∈ db.trash.rows, (contentId, size) ∈ row.entries

/-- A trash row can be read back, and its size is the size of what it keeps. -/
structure Trash.Sound (row : Trash) : Prop where
  named : row.itemName ≠ ""
  size : (row.entries.map Prod.snd).sum = row.itemSize
  read : trashContentIds row = .ok (row.entries.map Prod.fst)

/-- The rows meet the constraints that the statements rely on. -/
structure Db.Sound (db : Db) : Prop where
  fileNames : ∀ file ∈ db.files.rows, file.name ≠ ""
  fileContents : ∀ file ∈ db.files.rows, 0 < file.contentId
  folderNames : ∀ folder ∈ db.folders.rows, folder.name ≠ ""
  trash : ∀ row ∈ db.trash.rows, row.Sound
  taskNames : ∀ task ∈ db.tasks.rows, task.filename ≠ ""
  reservedBytes : ∀ task ∈ db.tasks.rows, task.reservedBytes = task.fileSize

/-- A later state keeps what an earlier read has seen of immutable columns. -/
structure Precedes (before after : Db) : Prop where
  users : ∀ user ∈ before.users.rows, ∃ next ∈ after.users.rows, next.id = user.id
  contentsNext : before.contents.next ≤ after.contents.next
  contents : ∀ content ∈ after.contents.rows, content.id < before.contents.next →
    ∃ old ∈ before.contents.rows, old.id = content.id ∧ old.size = content.size
  trashNext : before.trash.next ≤ after.trash.next
  trash : ∀ row ∈ after.trash.rows, row.id < before.trash.next → row ∈ before.trash.rows
  tasks : ∀ task ∈ before.tasks.rows, ∃ next ∈ after.tasks.rows, SameTask task next

theorem Precedes.refl (db : Db) : Precedes db db where
  users := fun user present => ⟨user, present, rfl⟩
  contentsNext := Nat.le_refl _
  contents := fun content present _ => ⟨content, present, rfl, rfl⟩
  trashNext := Nat.le_refl _
  trash := fun _ present _ => present
  tasks := fun task present => ⟨task, present, SameTask.refl task⟩

theorem Precedes.trans {first second third : Db} (one : Precedes first second)
    (two : Precedes second third) : Precedes first third where
  users := by
    intro user present
    obtain ⟨middle, there, same⟩ := one.users user present
    obtain ⟨last, here, again⟩ := two.users middle there
    exact ⟨last, here, again.trans same⟩
  contentsNext := one.contentsNext.trans two.contentsNext
  contents := by
    intro content present old
    obtain ⟨middle, there, same, size⟩ :=
      two.contents content present (old.trans_le one.contentsNext)
    obtain ⟨row, here, again, sized⟩ := one.contents middle there (same ▸ old)
    exact ⟨row, here, again.trans same, sized.trans size⟩
  trashNext := one.trashNext.trans two.trashNext
  trash := fun row present old =>
    one.trash row (two.trash row present (old.trans_le one.trashNext)) old
  tasks := by
    intro task present
    obtain ⟨middle, there, same⟩ := one.tasks task present
    obtain ⟨last, here, again⟩ := two.tasks middle there
    exact ⟨last, here, same.trans again⟩

/-- A statement posts one amount to the balance, keeps the state sound and adds no reference of an
unexpected size. -/
structure Posts (extra : Nat → Nat → Prop) (amount : Ledger) (before after : Db) : Prop where
  balance : after.balance = before.balance + amount
  sound : before.Sound → after.Sound
  precedes : Precedes before after
  holds : ∀ contentId size, after.Holds contentId size →
    before.Holds contentId size ∨ extra contentId size

namespace Posts

variable {extra : Nat → Nat → Prop} {first second third : Db} {one two : Ledger}

theorem refl (db : Db) : Posts extra 0 db db where
  balance := (add_zero _).symm
  sound := fun sound => sound
  precedes := Precedes.refl db
  holds := fun _ _ held => .inl held

theorem trans (before : Posts extra one first second) (after : Posts extra two second third) :
    Posts extra (one + two) first third where
  balance := by rw [after.balance, before.balance, add_assoc]
  sound := fun sound => after.sound (before.sound sound)
  precedes := before.precedes.trans after.precedes
  holds := by
    intro contentId size held
    rcases after.holds contentId size held with there | new
    · exact before.holds contentId size there
    · exact .inr new

theorem cast (posts : Posts extra one first second) (same : one = two) :
    Posts extra two first second := same ▸ posts

theorem mono {wider : Nat → Nat → Prop} (posts : Posts extra one first second)
    (implied : ∀ contentId size, extra contentId size → first.Holds contentId size ∨ wider contentId size) :
    Posts wider one first second where
  balance := posts.balance
  sound := posts.sound
  precedes := posts.precedes
  holds := by
    intro contentId size held
    rcases posts.holds contentId size held with old | new
    · exact .inl old
    · exact implied contentId size new

section Tables

variable {amount : Ledger} {before : Db}

theorem ofUsers {users : Serial User User.id}
    (total : (users.rows.map User.asset).sum = (before.users.rows.map User.asset).sum + amount)
    (kept : ∀ user ∈ before.users.rows, ∃ next ∈ users.rows, next.id = user.id) :
    Posts extra amount before { before with users := users } where
  balance := by
    simp only [Db.balance, total]
    abel
  sound := fun ⟨names, contents, folders, trash, tasks, bytes⟩ =>
    ⟨names, contents, folders, trash, tasks, bytes⟩
  precedes := { Precedes.refl before with users := kept }
  holds := fun _ _ held => .inl held

theorem ofContents {contents : Serial FileContent FileContent.id}
    (total : (contents.rows.map FileContent.asset).sum =
      (before.contents.rows.map FileContent.asset).sum + amount)
    (next : before.contents.next ≤ contents.next)
    (kept : ∀ content ∈ contents.rows, content.id < before.contents.next →
      ∃ old ∈ before.contents.rows, old.id = content.id ∧ old.size = content.size) :
    Posts extra amount before { before with contents := contents } where
  balance := by
    simp only [Db.balance, total]
    abel
  sound := fun ⟨names, contents, folders, trash, tasks, bytes⟩ =>
    ⟨names, contents, folders, trash, tasks, bytes⟩
  precedes := { Precedes.refl before with contentsNext := next, contents := kept }
  holds := fun _ _ held => .inl held

theorem ofFolders {folders : Serial Folder Folder.id}
    (named : before.Sound → ∀ folder ∈ folders.rows, folder.name ≠ "") :
    Posts extra 0 before { before with folders := folders } where
  balance := (add_zero _).symm
  sound := fun sound =>
    ⟨sound.fileNames, sound.fileContents, named sound, sound.trash, sound.taskNames, sound.reservedBytes⟩
  precedes := { Precedes.refl before with }
  holds := fun _ _ held => .inl held

theorem ofFiles {files : Serial File File.id}
    (total : (files.rows.map File.charge).sum = (before.files.rows.map File.charge).sum - amount)
    (added : ∀ file ∈ files.rows, file ∈ before.files.rows ∨
      (file.name ≠ "" ∧ 0 < file.contentId ∧ extra file.contentId file.size)) :
    Posts extra amount before { before with files := files } where
  balance := by
    simp only [Db.balance, total]
    abel
  sound := by
    intro sound
    refine ⟨?_, ?_, sound.folderNames, sound.trash, sound.taskNames, sound.reservedBytes⟩
    · intro file present
      rcases added file present with old | ⟨named, -, -⟩
      · exact sound.fileNames file old
      · exact named
    · intro file present
      rcases added file present with old | ⟨-, positive, -⟩
      · exact sound.fileContents file old
      · exact positive
  precedes := { Precedes.refl before with }
  holds := by
    rintro contentId size (⟨file, present, entry⟩ | trashed)
    · rcases added file present with old | ⟨-, -, allowed⟩
      · exact .inl (.inl ⟨file, old, entry⟩)
      · cases entry
        exact .inr allowed
    · exact .inl (.inr trashed)

theorem ofTrash {trash : Serial Trash Trash.id}
    (total : (trash.rows.map Trash.charge).sum = (before.trash.rows.map Trash.charge).sum - amount)
    (next : before.trash.next ≤ trash.next)
    (added : ∀ row ∈ trash.rows, row ∈ before.trash.rows ∨ (before.trash.next ≤ row.id ∧
      row.Sound ∧ ∀ entry ∈ row.entries, extra entry.1 entry.2)) :
    Posts extra amount before { before with trash := trash } where
  balance := by
    simp only [Db.balance, total]
    abel
  sound := by
    intro sound
    refine ⟨sound.fileNames, sound.fileContents, sound.folderNames, ?_, sound.taskNames,
      sound.reservedBytes⟩
    intro row present
    rcases added row present with old | ⟨-, new, -⟩
    · exact sound.trash row old
    · exact new
  precedes := { Precedes.refl before with
    trashNext := next
    trash := by
      intro row present early
      rcases added row present with old | ⟨late, -, -⟩
      · exact old
      · exact absurd early (Nat.not_lt.mpr late) }
  holds := by
    rintro contentId size (filed | ⟨row, present, entry⟩)
    · exact .inl (.inl filed)
    · rcases added row present with old | ⟨-, -, allowed⟩
      · exact .inl (.inr ⟨row, old, entry⟩)
      · exact .inr (allowed _ entry)

theorem ofTasks {tasks : Table UploadTask UploadTask.id}
    (total : (tasks.rows.map taskCharge).sum = (before.tasks.rows.map taskCharge).sum - amount)
    (kept : ∀ task ∈ before.tasks.rows, ∃ next ∈ tasks.rows, SameTask task next)
    (added : ∀ task ∈ tasks.rows, (∃ old ∈ before.tasks.rows, SameTask old task) ∨
      (task.filename ≠ "" ∧ task.reservedBytes = task.fileSize)) :
    Posts extra amount before { before with tasks := tasks } where
  balance := by
    simp only [Db.balance, total]
    abel
  sound := by
    intro sound
    refine ⟨sound.fileNames, sound.fileContents, sound.folderNames, sound.trash, ?_, ?_⟩
    · intro task present
      rcases added task present with ⟨old, there, same⟩ | ⟨named, -⟩
      · rw [same.filename]
        exact sound.taskNames old there
      · exact named
    · intro task present
      rcases added task present with ⟨old, there, same⟩ | ⟨-, bytes⟩
      · rw [same.reservedBytes, same.fileSize]
        exact sound.reservedBytes old there
      · exact bytes
  precedes := { Precedes.refl before with tasks := kept }
  holds := fun _ _ held => .inl held

/-- Jobs, chunks and the clock carry no weight. -/
theorem ofOthers (jobs : Table Jobs.StorageJob Jobs.StorageJob.dedupeKey) (nextJobId : Nat)
    (chunks : List (String × UploadTaskChunk)) (now : Timestamp) :
    Posts extra 0 before
      { before with jobs := jobs, nextJobId := nextJobId, chunks := chunks, now := now } where
  balance := (add_zero _).symm
  sound := fun ⟨names, contents, folders, trash, tasks, bytes⟩ =>
    ⟨names, contents, folders, trash, tasks, bytes⟩
  precedes := { Precedes.refl before with }
  holds := fun _ _ held => .inl held

end Tables

/-- A loop posts what its rounds post. -/
theorem forM {Item : Type} (amount : Item → Ledger) {body : Item → Tx PUnit} {items : List Item}
    (round : ∀ item ∈ items, Ensures (body item) fun before _ after =>
      Posts extra (amount item) before after) :
    Ensures (items.forM body) fun before _ after => Posts extra (items.map amount).sum before after :=
  Ensures.forM_graded amount refl (fun _ _ _ _ _ => trans) round

theorem forM_zero {Item : Type} {body : Item → Tx PUnit} {items : List Item}
    (round : ∀ item ∈ items, Ensures (body item) fun before _ after => Posts extra 0 before after) :
    Ensures (items.forM body) fun before _ after => Posts extra 0 before after :=
  (forM (fun _ => 0) round).mono fun _ _ _ posts => posts.cast (by simp)

theorem foldlM_zero {Item Value : Type} {body : Value → Item → Tx Value} {items : List Item}
    (round : ∀ item ∈ items, ∀ value, Ensures (body value item) fun before _ after =>
      Posts extra 0 before after) (start : Value) :
    Ensures (items.foldlM body start) fun before _ after => Posts extra 0 before after :=
  Ensures.foldlM_graded (fun (_ : Nat) _ _ before after => Posts extra 0 before after) (fun _ => 0)
    (fun _ => refl) (fun _ _ _ _ _ _ _ _ one two => (one.trans two).cast (add_zero 0)) round start

end Posts

end DiskServer.Drive
