import DiskServer.Proof.Drive.Ledger

namespace DiskServer.Drive

open Library Transaction

variable {extra : Nat → Nat → Prop} {userId bytes : Nat} {before after : Db} {value : Unit}

/-- The users table after one row has changed. -/
def Db.withUser (db : Db) (userId : Nat) (change : User → User)
    (keyed : ∀ user, (change user).id = user.id) : Db :=
  { db with users := db.users.update (fun row => row.id = userId) change keyed }

theorem updateUserChecked_ok {evaluated : User → Int} {outOfRange rejected : ErrorInfo}
    {selected : User → Bool} {change : User → User} {keyed : ∀ user, (change user).id = user.id}
    (ran : (updateUserChecked userId evaluated outOfRange rejected selected change keyed).run before =
      .ok (value, after)) :
    ∃ user, before.users.find? userId = some user ∧ selected user = true ∧
      after = before.withUser userId change keyed := by
  have rest := get_bind_ok ran
  cases found : before.users.find? userId with
  | none =>
      simp only [found] at rest
      exact (throw_ok rest).elim
  | some user =>
      simp only [found] at rest
      split at rest
      · exact (throw_ok rest).elim
      · split at rest
        · rename_i chosen
          exact ⟨user, rfl, chosen, modify_ok rest⟩
        · exact (throw_ok rest).elim

/-- The change of one user row posts the difference of its counters. -/
theorem Db.withUser_posts {user : User} {change : User → User}
    {keyed : ∀ user, (change user).id = user.id} (found : before.users.find? userId = some user) :
    Posts extra (post (.used userId) ((change user).storageUsed - user.storageUsed) +
      post (.reserved userId) ((change user).storageReserved - user.storageReserved))
      before (before.withUser userId change keyed) := by
  obtain ⟨-, rfl⟩ := Table.find?_some found
  apply Posts.ofUsers
  · have total := sum_map_update User.asset (fun row => row.id = user.id) change before.users.rows
    rw [Table.filter_key_of_find? found] at total
    refine total.trans ?_
    simp only [List.map_cons, List.map_nil, List.sum_cons, List.sum_nil, User.asset, keyed, post_sub]
    abel
  · intro row present
    exact ⟨_, List.mem_map_of_mem present, by split <;> simp [keyed]⟩

section Checked

variable {evaluated : User → Int} {outOfRange rejected : ErrorInfo} {selected : User → Bool}
  {change : User → User} {keyed : ∀ user, (change user).id = user.id}

/-- Every quota statement does nothing for zero bytes and else adds fixed amounts to one row. -/
theorem unlessZero_posts {zero : Prop} [Decidable zero] (used reserved : Int)
    (nothing : zero → used = 0 ∧ reserved = 0)
    (adds : ∀ user, selected user = true → (change user).storageUsed = user.storageUsed + used ∧
      (change user).storageReserved = user.storageReserved + reserved) :
    Ensures (if zero then pure () else
        updateUserChecked userId evaluated outOfRange rejected selected change keyed)
      fun before _ after => Posts extra (post (.used userId) used + post (.reserved userId) reserved)
        before after := by
  intro before value after ran
  split at ran
  · rename_i holds
    obtain ⟨-, rfl⟩ := pure_ok ran
    refine (Posts.refl _).cast ?_
    rw [(nothing holds).1, (nothing holds).2, post_zero, post_zero, add_zero]
  · obtain ⟨user, found, chosen, rfl⟩ := updateUserChecked_ok ran
    refine (Db.withUser_posts found).cast ?_
    rw [(adds user chosen).1, (adds user chosen).2, add_sub_cancel_left, add_sub_cancel_left]

end Checked

theorem reserveStorage_posts : Ensures (reserveStorage userId bytes) fun before _ after =>
    Posts extra (post (.reserved userId) bytes) before after := by
  unfold reserveStorage
  refine (unlessZero_posts 0 bytes ?_ ?_).mono fun _ _ _ posts => posts.cast ?_
  · simp
  · simp
  · simp

theorem releaseReservedStorageChecked_posts :
    Ensures (releaseReservedStorageChecked userId bytes) fun before _ after =>
      Posts extra (-post (.reserved userId) bytes) before after := by
  unfold releaseReservedStorageChecked
  refine (unlessZero_posts 0 (-bytes) ?_ ?_).mono fun _ _ _ posts => posts.cast ?_
  · simp
  · simp [sub_eq_add_neg]
  · simp [post_neg]

theorem commitReservedToUsed_posts :
    Ensures (commitReservedToUsed userId bytes) fun before _ after =>
      Posts extra (post (.used userId) bytes - post (.reserved userId) bytes) before after := by
  unfold commitReservedToUsed
  refine (unlessZero_posts bytes (-bytes) ?_ ?_).mono fun _ _ _ posts => posts.cast ?_
  · simp
  · simp [sub_eq_add_neg]
  · rw [post_neg, sub_eq_add_neg]

theorem consumeUsedStorage_posts :
    Ensures (consumeUsedStorage userId bytes) fun before _ after =>
      Posts extra (post (.used userId) bytes) before after := by
  unfold consumeUsedStorage
  refine (unlessZero_posts bytes 0 ?_ ?_).mono fun _ _ _ posts => posts.cast ?_
  · simp
  · simp
  · simp

theorem chargeSelection_posts :
    Ensures (chargeSelection userId bytes) fun before _ after =>
      Posts extra (post (.used userId) bytes) before after := by
  unfold chargeSelection
  refine (unlessZero_posts bytes 0 ?_ ?_).mono fun _ _ _ posts => posts.cast ?_
  · simp
  · simp
  · simp

/-- A user that was charged is still there when the selection is refunded. -/
theorem chargeSelection_user (some : 0 < bytes) (ran : (chargeSelection userId bytes).run before =
    .ok (value, after)) : ∃ user ∈ after.users.rows, user.id = userId := by
  unfold chargeSelection at ran
  rw [if_neg (Nat.pos_iff_ne_zero.mp some)] at ran
  obtain ⟨user, found, -, rfl⟩ := updateUserChecked_ok ran
  obtain ⟨present, keyed⟩ := Table.find?_some found
  exact ⟨_, List.mem_map_of_mem present, by split <;> exact keyed⟩

theorem refundSkipped_posts {totalSize actualSize : Nat} (bounded : actualSize ≤ totalSize)
    (there : actualSize < totalSize → ∃ user ∈ before.users.rows, user.id = userId)
    (ran : (refundSkipped userId totalSize actualSize).run before = .ok (value, after)) :
    Posts extra (post (.used userId) actualSize - post (.used userId) totalSize) before after := by
  unfold refundSkipped at ran
  split at ran
  · rename_i skipped
    obtain ⟨user, present, keyed⟩ := there skipped
    have found : before.users.find? userId = some user := Table.find?_eq_some_iff.mpr ⟨present, keyed⟩
    obtain rfl := modify_ok ran
    refine (Db.withUser_posts found).cast ?_
    rw [← post_sub]
    simp
  · obtain ⟨-, rfl⟩ := pure_ok ran
    obtain rfl : actualSize = totalSize := by omega
    exact (Posts.refl _).cast (by simp)

/-- A refund that the counter covers is not changed by the clamp. -/
theorem adjustUsedStorageChecked_posts {amount : Nat}
    (covered : ∀ user, before.users.find? userId = some user → (amount : Int) ≤ user.storageUsed)
    (ran : (adjustUsedStorageChecked userId (-(amount : Int))).run before = .ok (value, after)) :
    Posts extra (-post (.used userId) amount) before after := by
  unfold adjustUsedStorageChecked at ran
  split at ran
  · rename_i zero
    obtain ⟨-, rfl⟩ := pure_ok ran
    exact (Posts.refl _).cast (by simp [neg_eq_zero.mp zero])
  · rw [if_neg (by omega)] at ran
    obtain ⟨user, found, -, rfl⟩ := updateUserChecked_ok ran
    refine (Db.withUser_posts found).cast ?_
    have enough := covered user found
    have clamp : max (user.storageUsed + -(amount : Int)) 0 = user.storageUsed - amount := by omega
    simp only [clamp, sub_self, post_zero, add_zero]
    rw [← post_neg]
    congr 1
    omega

/-- A refund that the counter covers takes its amount from one row and leaves the others alone. -/
theorem adjustUsedStorageChecked_find {amount : Nat} (other : Nat)
    (covered : ∀ user, before.users.find? userId = some user → (amount : Int) ≤ user.storageUsed)
    (ran : (adjustUsedStorageChecked userId (-(amount : Int))).run before = .ok (value, after)) :
    after.users.find? other = (before.users.find? other).map fun user =>
      if other = userId then { user with storageUsed := user.storageUsed - amount } else user := by
  unfold adjustUsedStorageChecked at ran
  split at ran
  · rename_i zero
    obtain ⟨-, rfl⟩ := pure_ok ran
    simp [neg_eq_zero.mp zero]
  · rw [if_neg (by omega)] at ran
    obtain ⟨-, -, -, rfl⟩ := updateUserChecked_ok ran
    have updated := Table.find?_update before.users.toTable userId other
      (fun user : User => { user with storageUsed := max (user.storageUsed + -(amount : Int)) 0 })
      fun _ => rfl
    refine updated.trans (Option.map_congr fun user found => ?_)
    by_cases same : other = userId
    · subst same
      have enough := covered user found
      have clamp : max (user.storageUsed + -(amount : Int)) 0 = user.storageUsed - amount := by omega
      simp only [clamp]
    · simp [same]

theorem updateUserChecked_run {db : Db} {user : User} {evaluated : User → Int}
    {outOfRange rejected : ErrorInfo} {selected : User → Bool} {change : User → User}
    {keyed : ∀ user, (change user).id = user.id} (found : db.users.find? userId = some user)
    (inRange : evaluated user ≤ bigintMax) (chosen : selected user = true) :
    (updateUserChecked userId evaluated outOfRange rejected selected change keyed).run db =
      .ok ((), db.withUser userId change keyed) := by
  have notOver : ¬ bigintMax < evaluated user := not_lt.mpr inRange
  simp only [updateUserChecked, StateT.run_bind, StateT.run_get, pure_bind, found, notOver, if_false,
    chosen, if_true]
  rfl

theorem Db.find?_withUser {db : Db} {user : User} {change : User → User}
    {keyed : ∀ user, (change user).id = user.id} (found : db.users.find? userId = some user) :
    (db.withUser userId change keyed).users.find? userId = some (change user) := by
  have updated := Table.find?_update db.users.toTable userId userId change keyed
  rw [found] at updated
  refine Eq.trans ?_ (updated.trans ?_)
  · rfl
  · simp

theorem commitReservedToUsed_run {db : Db} {user : User}
    (found : db.users.find? userId = some user) (inRange : user.storageUsed + bytes ≤ bigintMax)
    (enough : (bytes : Int) ≤ user.storageReserved) :
    ∃ after next, (commitReservedToUsed userId bytes).run db = .ok ((), after) ∧
      after.users.find? userId = some next ∧ next.storageReserved = user.storageReserved - bytes := by
  unfold commitReservedToUsed
  split
  · rename_i zero
    exact ⟨db, user, rfl, found, by simp [zero]⟩
  · exact ⟨_, _, updateUserChecked_run found inRange (by simpa using enough),
      Db.find?_withUser found, rfl⟩

theorem releaseReservedStorageChecked_run {db : Db} {user : User}
    (found : db.users.find? userId = some user) (inRange : user.storageReserved ≤ bigintMax)
    (enough : (bytes : Int) ≤ user.storageReserved) :
    ∃ after, (releaseReservedStorageChecked userId bytes).run db = .ok ((), after) := by
  unfold releaseReservedStorageChecked
  split
  · exact ⟨db, rfl⟩
  · refine ⟨_, updateUserChecked_run found ?_ (by simpa using enough)⟩
    omega

end DiskServer.Drive
