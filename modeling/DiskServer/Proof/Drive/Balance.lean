import DiskServer.Proof.Drive.Ledger
import Mathlib.Algebra.BigOperators.Pi
import Mathlib.Algebra.BigOperators.Ring.Finset
import Mathlib.Algebra.Order.BigOperators.Group.List

namespace DiskServer.Drive

open Library Upload

theorem sum_map_apply {Row : Type} (weight : Row → Ledger) (rows : List Row) (account : Account) :
    (rows.map weight).sum account = (rows.map fun row => weight row account).sum := by
  rw [Pi.list_sum_apply, List.map_map]
  rfl

theorem sum_map_nonneg {Row : Type} {weight : Row → Int} {rows : List Row}
    (nonneg : ∀ row ∈ rows, 0 ≤ weight row) : 0 ≤ (rows.map weight).sum := by
  apply List.sum_nonneg
  intro amount present
  obtain ⟨row, there, rfl⟩ := List.mem_map.mp present
  exact nonneg row there

theorem le_sum_map_of_mem {Row : Type} {weight : Row → Int} {rows : List Row} {row : Row}
    (nonneg : ∀ other ∈ rows, 0 ≤ weight other) (present : row ∈ rows) :
    weight row ≤ (rows.map weight).sum := by
  refine List.single_le_sum ?_ _ (List.mem_map_of_mem present)
  intro amount listed
  obtain ⟨other, there, rfl⟩ := List.mem_map.mp listed
  exact nonneg other there

theorem entryCharge_nonneg (userId : Nat) (entry : Nat × Nat) (account : Account) :
    0 ≤ entryCharge userId entry account := by
  simp only [entryCharge, Pi.add_apply, post_apply]
  split <;> split <;> omega

theorem File.charge_nonneg (file : File) (account : Account) : 0 ≤ file.charge account :=
  entryCharge_nonneg _ _ _

theorem Trash.charge_nonneg (row : Trash) (account : Account) : 0 ≤ row.charge account := by
  rw [Trash.charge, sum_map_apply]
  exact sum_map_nonneg fun entry _ => entryCharge_nonneg _ entry account

theorem File.charge_refs (file : File) (contentId : Nat) :
    file.charge (.refs contentId) = if file.contentId = contentId then 1 else 0 := by
  simp [File.charge, File.entry, entryCharge, post_apply, eq_comm]

theorem File.charge_used (file : File) (userId : Nat) :
    file.charge (.used userId) = if file.userId = userId then (file.size : Int) else 0 := by
  simp [File.charge, File.entry, entryCharge, post_apply, eq_comm]

theorem Trash.charge_refs (row : Trash) (contentId : Nat) :
    row.charge (.refs contentId) = ((row.entries.map Prod.fst).count contentId : Nat) := by
  rw [Trash.charge, sum_entryCharge]
  simp only [Pi.add_apply, sum_map_apply, post_apply]
  induction row.entries with
  | nil => simp
  | cons entry rest ih =>
      simp only [List.map_cons, List.sum_cons, List.count_cons, Nat.cast_add] at ih ⊢
      by_cases same : entry.1 = contentId
      · simp [same] at ih ⊢
        omega
      · simp [same, Ne.symm same] at ih ⊢
        exact ih

/-- A sound trash row charges its owner for its whole size. -/
theorem Trash.charge_used {row : Trash} (sound : row.Sound) (userId : Nat) :
    row.charge (.used userId) = if row.userId = userId then (row.itemSize : Int) else 0 := by
  rw [Trash.charge, sum_entryCharge, sound.size]
  simp [sum_map_apply, post_apply, eq_comm]

theorem taskCharge_refs (task : UploadTask) (contentId : Nat) : taskCharge task (.refs contentId) = 0 := by
  unfold taskCharge
  split <;> simp [post_apply]

theorem taskCharge_used (task : UploadTask) (userId : Nat) : taskCharge task (.used userId) = 0 := by
  unfold taskCharge
  split <;> simp [post_apply]

variable (db : Db)

theorem Db.balance_apply (account : Account) :
    db.balance account =
      (db.users.rows.map fun user => user.asset account).sum +
        (db.contents.rows.map fun content => content.asset account).sum -
        (db.files.rows.map fun file => file.charge account).sum -
        (db.trash.rows.map fun row => row.charge account).sum -
        (db.tasks.rows.map fun task => taskCharge task account).sum := by
  simp only [Db.balance, Pi.sub_apply, Pi.add_apply, sum_map_apply]

/-- The count of a content less the references to it. -/
theorem Db.balance_refs (contentId : Nat) :
    db.balance (.refs contentId) =
      ((db.contents.find? contentId).map FileContent.refCount).getD 0 -
        (db.files.rows.map fun file => file.charge (.refs contentId)).sum -
        (db.trash.rows.map fun row => row.charge (.refs contentId)).sum := by
  have contents := db.contents.sum_map_find? contentId (fun content => content.asset (.refs contentId))
    (fun content _ differs => by simp [FileContent.asset, post_apply, Ne.symm differs])
  have stored : ((db.contents.find? contentId).map fun content => content.asset (.refs contentId)) =
      (db.contents.find? contentId).map FileContent.refCount := by
    cases found : db.contents.find? contentId with
    | none => rfl
    | some content => simp [FileContent.asset, post_apply, (Table.find?_some found).2]
  rw [stored] at contents
  simp only [Db.balance_apply, contents, taskCharge_refs]
  simp [User.asset, post_apply]

/-- The used bytes of a user less the sizes that are stored for the user. -/
theorem Db.balance_used (userId : Nat) :
    db.balance (.used userId) =
      ((db.users.find? userId).map User.storageUsed).getD 0 -
        (db.files.rows.map fun file => file.charge (.used userId)).sum -
        (db.trash.rows.map fun row => row.charge (.used userId)).sum := by
  have users := db.users.sum_map_find? userId (fun user => user.asset (.used userId))
    (fun user _ differs => by simp [User.asset, post_apply, Ne.symm differs])
  have stored : ((db.users.find? userId).map fun user => user.asset (.used userId)) =
      (db.users.find? userId).map User.storageUsed := by
    cases found : db.users.find? userId with
    | none => rfl
    | some user => simp [User.asset, post_apply, (Table.find?_some found).2]
  rw [stored] at users
  simp only [Db.balance_apply, users, taskCharge_used]
  simp [FileContent.asset, post_apply]

/-- The bytes that one task still holds of a user's reservation. -/
def heldBytes (userId : Nat) (task : UploadTask) : Nat :=
  if task.active ∧ task.userId = userId then task.reservedBytes else 0

theorem Db.balance_reserved (userId : Nat) :
    db.balance (.reserved userId) =
      ((db.users.find? userId).map User.storageReserved).getD 0 -
        ((db.tasks.rows.map (heldBytes userId)).sum : Nat) := by
  have users := db.users.sum_map_find? userId (fun user => user.asset (.reserved userId))
    (fun user _ differs => by simp [User.asset, post_apply, Ne.symm differs])
  have stored : ((db.users.find? userId).map fun user => user.asset (.reserved userId)) =
      (db.users.find? userId).map User.storageReserved := by
    cases found : db.users.find? userId with
    | none => rfl
    | some user => simp [User.asset, post_apply, (Table.find?_some found).2]
  rw [stored] at users
  have tasks : (db.tasks.rows.map fun task => taskCharge task (.reserved userId)).sum =
      ((db.tasks.rows.map (heldBytes userId)).sum : Nat) := by
    rw [Nat.cast_list_sum, List.map_map]
    congr 1
    apply List.map_congr_left
    intro task _
    simp only [taskCharge, heldBytes, Function.comp_apply]
    cases task.active <;> simp [post_apply, eq_comm]
  simp only [Db.balance_apply, users, tasks]
  simp [FileContent.asset, File.charge, Trash.charge, entryCharge, sum_map_apply, post_apply]

/-- A task has been settled once exactly when its row is no longer active. -/
theorem Db.balance_settled (taskId : String) :
    db.balance (.settled taskId) =
      ((db.tasks.find? taskId).map fun task => if task.active then (0 : Int) else 1).getD 0 := by
  have tasks := db.tasks.sum_map_find? taskId (fun task => taskCharge task (.settled taskId))
    (fun task _ differs => by
      unfold taskCharge
      split <;> simp [post_apply, Ne.symm differs])
  have stored : (((db.tasks.find? taskId).map fun task => taskCharge task (.settled taskId)).getD 0) =
      -((db.tasks.find? taskId).map fun task => if task.active then (0 : Int) else 1).getD 0 := by
    cases found : db.tasks.find? taskId with
    | none => rfl
    | some task =>
        obtain ⟨-, keyed⟩ := Table.find?_some found
        simp only [Option.map_some, Option.getD_some, taskCharge]
        split <;> simp [post_apply, keyed]
  rw [stored] at tasks
  simp only [Db.balance_apply, tasks]
  simp [User.asset, FileContent.asset, File.charge, Trash.charge, entryCharge, sum_map_apply, post_apply]

end DiskServer.Drive
