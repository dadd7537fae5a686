import DiskServer.Construction.Drive.Extensions
import DiskServer.Proof.Drive.QuotaService

namespace DiskServer.Drive

open Library Transaction

variable {db before after : Db} {userId bytes : Nat} {value : Unit}

/-- No user has more bytes in use and in reserve than the quota. -/
def Db.WithinQuota (db : Db) : Prop :=
  ∀ user ∈ db.users.rows, user.storageUsed + user.storageReserved ≤ user.storageQuota

/-- No counter of used bytes is negative. -/
def Db.UsedNonneg (db : Db) : Prop := ∀ user ∈ db.users.rows, 0 ≤ user.storageUsed

/-- The operation changes the row of one user by these amounts. -/
structure Charges (userId : Nat) (used reserved : Int) (before after : Db) : Prop where
  rows : after.users.rows = before.users.rows.map fun row =>
    if row.id = userId then
      { row with
        storageUsed := row.storageUsed + used
        storageReserved := row.storageReserved + reserved }
    else row

theorem Charges.refl (db : Db) : Charges userId 0 0 db db where
  rows := by simp

theorem Charges.trans {used reserved moreUsed moreReserved : Int} {middle : Db}
    (one : Charges userId used reserved before middle)
    (two : Charges userId moreUsed moreReserved middle after) :
    Charges userId (used + moreUsed) (reserved + moreReserved) before after where
  rows := by
    rw [two.rows, one.rows, List.map_map]
    apply List.map_congr_left
    intro row _
    by_cases same : row.id = userId <;> simp [same, add_assoc]

/-- The user has room for this amount next to what is used and reserved. -/
def Db.HasRoom (db : Db) (userId : Nat) (amount : Int) : Prop :=
  ∀ user ∈ db.users.rows, user.id = userId →
    user.storageUsed + user.storageReserved + amount ≤ user.storageQuota

/-- A charge keeps every user within the quota exactly when its user has room for it. -/
theorem Charges.withinQuota {used reserved : Int} (charges : Charges userId used reserved before after)
    (within : before.WithinQuota) : after.WithinQuota ↔ before.HasRoom userId (used + reserved) := by
  constructor
  · intro kept user present keyed
    have listed : { user with
        storageUsed := user.storageUsed + used
        storageReserved := user.storageReserved + reserved } ∈ after.users.rows := by
      rw [charges.rows]
      exact List.mem_map.mpr ⟨user, present, by simp [keyed]⟩
    have bound := kept _ listed
    simp only at bound
    omega
  · intro room user present
    rw [charges.rows] at present
    obtain ⟨row, there, rfl⟩ := List.mem_map.mp present
    split
    · rename_i keyed
      have bound := room row there keyed
      simp only
      omega
    · exact within row there

theorem Charges.usedNonneg {used reserved : Int} (charges : Charges userId used reserved before after)
    (nonneg : before.UsedNonneg)
    (covered : ∀ user ∈ before.users.rows, user.id = userId → 0 ≤ user.storageUsed + used) :
    after.UsedNonneg := by
  intro user present
  rw [charges.rows] at present
  obtain ⟨row, there, rfl⟩ := List.mem_map.mp present
  split
  · rename_i keyed
    exact covered row there keyed
  · exact nonneg row there

theorem Db.WithinQuota.hasRoom {amount : Int} (within : db.WithinQuota) (small : amount ≤ 0) :
    db.HasRoom userId amount := by
  intro user present _
  have bound := within user present
  omega

section Checked

variable {evaluated : User → Int} {outOfRange rejected : ErrorInfo} {selected : User → Bool}
  {change : User → User} {keyed : ∀ user, (change user).id = user.id}

/-- A statement that changes only the counters of its row charges the difference. -/
theorem updateUserChecked_charges {used reserved : Int}
    (adds : ∀ user ∈ before.users.rows, user.id = userId → change user =
      { user with
        storageUsed := user.storageUsed + used
        storageReserved := user.storageReserved + reserved })
    (ran : (updateUserChecked userId evaluated outOfRange rejected selected change keyed).run before =
      .ok (value, after)) :
    Charges userId used reserved before after := by
  obtain ⟨user, found, chosen, rfl⟩ := updateUserChecked_ok ran
  refine ⟨List.map_congr_left fun row present => ?_⟩
  by_cases same : row.id = userId
  · simp [same, adds row present same]
  · simp [same]

theorem unlessZero_charges {zero : Prop} [Decidable zero] (used reserved : Int)
    (nothing : zero → used = 0 ∧ reserved = 0)
    (adds : ∀ user, change user =
      { user with
        storageUsed := user.storageUsed + used
        storageReserved := user.storageReserved + reserved })
    (ran : (if zero then pure () else
      updateUserChecked userId evaluated outOfRange rejected selected change keyed : Tx Unit).run before =
        .ok (value, after)) : Charges userId used reserved before after := by
  split at ran
  · rename_i holds
    obtain ⟨-, rfl⟩ := pure_ok ran
    obtain ⟨rfl, rfl⟩ := nothing holds
    exact Charges.refl _
  · exact updateUserChecked_charges (fun user _ _ => adds user) ran

end Checked

theorem releaseReservedStorageChecked_charges
    (ran : (releaseReservedStorageChecked userId bytes).run before = .ok (value, after)) :
    Charges userId 0 (-bytes) before after :=
  unlessZero_charges 0 (-bytes) (by simp) (by simp [sub_eq_add_neg]) ran

theorem commitReservedToUsed_charges
    (ran : (commitReservedToUsed userId bytes).run before = .ok (value, after)) :
    Charges userId bytes (-bytes) before after :=
  unlessZero_charges bytes (-bytes) (by simp) (by simp [sub_eq_add_neg]) ran

theorem consumeUsedStorage_charges
    (ran : (consumeUsedStorage userId bytes).run before = .ok (value, after)) :
    Charges userId bytes 0 before after :=
  unlessZero_charges bytes 0 (by simp) (by simp) ran

theorem chargeSelection_charges (ran : (chargeSelection userId bytes).run before = .ok (value, after)) :
    Charges userId bytes 0 before after :=
  unlessZero_charges bytes 0 (by simp) (by simp) ran

theorem reserveStorage_charges (ran : (reserveStorage userId bytes).run before = .ok (value, after)) :
    Charges userId 0 bytes before after :=
  unlessZero_charges 0 bytes (by simp) (by simp) ran

/-- A reservation counts what is already reserved. -/
theorem reserveStorage_room (within : before.WithinQuota)
    (ran : (reserveStorage userId bytes).run before = .ok (value, after)) :
    before.HasRoom userId bytes := by
  unfold reserveStorage at ran
  split at ran
  · rename_i zero
    exact within.hasRoom (by simp [zero])
  · obtain ⟨user, found, chosen, -⟩ := updateUserChecked_ok ran
    obtain ⟨present, keyed⟩ := Table.find?_some found
    intro row there same
    obtain rfl := before.users.eq_of_key there present (same.trans keyed.symm)
    exact of_decide_eq_true chosen

theorem refundSkipped_charges {totalSize actualSize : Nat} (bounded : actualSize ≤ totalSize)
    (ran : (refundSkipped userId totalSize actualSize).run before = .ok (value, after)) :
    Charges userId ((actualSize : Int) - totalSize) 0 before after := by
  unfold refundSkipped at ran
  split at ran
  · obtain rfl := modify_ok ran
    refine ⟨List.map_congr_left fun row _ => ?_⟩
    by_cases same : row.id = userId
    · have difference : row.storageUsed - ((totalSize : Int) - actualSize) =
          row.storageUsed + ((actualSize : Int) - totalSize) := by omega
      simp [same, difference]
    · simp [same]
  · obtain ⟨-, rfl⟩ := pure_ok ran
    obtain rfl : actualSize = totalSize := by omega
    simpa using Charges.refl after

/-- A negative adjustment never raises the used bytes of a user and never makes them negative. -/
theorem adjustUsedStorageChecked_charges {delta : Int} (nonneg : before.UsedNonneg)
    (ran : (adjustUsedStorageChecked userId delta).run before = .ok (value, after)) :
    ∃ used, Charges userId used 0 before after ∧ (0 ≤ delta → used = delta) ∧
      (delta < 0 → used ≤ 0) ∧
      ∀ user ∈ before.users.rows, user.id = userId → 0 ≤ user.storageUsed + used := by
  unfold adjustUsedStorageChecked at ran
  split at ran
  · rename_i zero
    obtain ⟨-, rfl⟩ := pure_ok ran
    exact ⟨0, Charges.refl _, by omega, by omega, fun user present _ => by
      simpa using nonneg user present⟩
  · split at ran
    · rename_i positive
      refine ⟨delta, updateUserChecked_charges (fun user _ _ => by simp) ran, by omega, by omega, ?_⟩
      intro user present _
      have used := nonneg user present
      omega
    · rename_i nonzero negative
      have inverted := updateUserChecked_ok ran
      obtain ⟨user, found, -, -⟩ := inverted
      obtain ⟨present, keyed⟩ := Table.find?_some found
      have used := nonneg user present
      have only : ∀ row ∈ before.users.rows, row.id = userId → row = user := fun row there same =>
        before.users.eq_of_key there present (same.trans keyed.symm)
      refine ⟨max (user.storageUsed + delta) 0 - user.storageUsed,
        updateUserChecked_charges (fun row there same => ?_) ran, by omega, by omega, ?_⟩
      · rw [only row there same]
        simp
      · intro row there same
        rw [only row there same]
        omega

/-- The operations that look only at the used bytes need room next to the reserved bytes. -/
def QuotaAction.Fits (db : Db) : QuotaAction → Prop
  | .consumeUsedStorage userId bytes => db.HasRoom userId bytes
  | .adjustUsedStorageChecked userId delta => db.HasRoom userId delta
  | .saveToDrive userId _ actualSize => db.HasRoom userId actualSize
  | _ => True

instance (db : Db) (userId : Nat) (amount : Int) : Decidable (db.HasRoom userId amount) :=
  inferInstanceAs (Decidable (∀ user ∈ db.users.rows, user.id = userId →
    user.storageUsed + user.storageReserved + amount ≤ user.storageQuota))

instance (db : Db) : DecidablePred (QuotaAction.Fits db)
  | .consumeUsedStorage userId bytes => inferInstanceAs (Decidable (db.HasRoom userId bytes))
  | .adjustUsedStorageChecked userId delta => inferInstanceAs (Decidable (db.HasRoom userId delta))
  | .saveToDrive userId _ actualSize => inferInstanceAs (Decidable (db.HasRoom userId actualSize))
  | .registerUser _ | .reserveStorage .. | .releaseReservedStorageChecked ..
  | .commitReservedToUsed .. | .copyUnit .. => .isTrue trivial

/-- A charge of nonnegative used bytes keeps the bound exactly when there is room for it. -/
theorem Charges.keeps {used reserved : Int} {fits : Prop}
    (charges : Charges userId used reserved before after) (within : before.WithinQuota)
    (nonneg : before.UsedNonneg) (added : 0 ≤ used)
    (room : before.HasRoom userId (used + reserved) ↔ fits) :
    (after.WithinQuota ↔ fits) ∧ after.UsedNonneg := by
  refine ⟨(charges.withinQuota within).trans room, charges.usedNonneg nonneg fun user present _ => ?_⟩
  have kept := nonneg user present
  omega

/-- One quota operation keeps the bound exactly when it fits. -/
theorem QuotaAction.keeps {action : QuotaAction} (within : before.WithinQuota)
    (nonneg : before.UsedNonneg) (valid : action.valid = true)
    (ran : action.program.run before = .ok (value, after)) :
    (after.WithinQuota ↔ action.Fits before) ∧ after.UsedNonneg := by
  cases action with
  | registerUser storageQuota =>
      obtain rfl := modify_ok ran
      refine ⟨iff_true_intro ?_, ?_⟩
      · intro user present
        rcases List.mem_append.mp present with old | new
        · exact within user old
        · obtain rfl := List.mem_singleton.mp new
          simp
      · intro user present
        rcases List.mem_append.mp present with old | new
        · exact nonneg user old
        · obtain rfl := List.mem_singleton.mp new
          exact Int.le_refl 0
  | reserveStorage userId bytes =>
      refine (reserveStorage_charges ran).keeps within nonneg (Int.le_refl 0) (iff_true_intro ?_)
      rw [zero_add]
      exact reserveStorage_room within ran
  | releaseReservedStorageChecked userId bytes =>
      refine (releaseReservedStorageChecked_charges ran).keeps within nonneg (Int.le_refl 0)
        (iff_true_intro ?_)
      exact within.hasRoom (by omega)
  | commitReservedToUsed userId bytes =>
      refine (commitReservedToUsed_charges ran).keeps within nonneg (by omega) (iff_true_intro ?_)
      exact within.hasRoom (by omega)
  | consumeUsedStorage userId bytes =>
      refine (consumeUsedStorage_charges ran).keeps within nonneg (by omega) ?_
      rw [add_zero]
      rfl
  | adjustUsedStorageChecked userId delta =>
      obtain ⟨used, charges, same, smaller, covered⟩ := adjustUsedStorageChecked_charges nonneg ran
      refine ⟨(charges.withinQuota within).trans ?_, charges.usedNonneg nonneg covered⟩
      rw [add_zero]
      rcases lt_or_ge delta 0 with negative | positive
      · exact iff_of_true (within.hasRoom (smaller negative)) (within.hasRoom (le_of_lt negative))
      · rw [same positive]
        rfl
  | copyUnit userId copied skipped =>
      obtain ⟨_, middle, converting, releasing⟩ := bind_ok ran
      have charges := (commitReservedToUsed_charges converting).trans
        (releaseReservedStorageChecked_charges releasing)
      refine charges.keeps within nonneg (by omega) (iff_true_intro ?_)
      exact within.hasRoom (by omega)
  | saveToDrive userId totalSize actualSize =>
      obtain ⟨_, middle, charging, refunding⟩ := bind_ok ran
      have bounded : actualSize ≤ totalSize := of_decide_eq_true valid
      have charges := (chargeSelection_charges charging).trans (refundSkipped_charges bounded refunding)
      have total : (totalSize : Int) + (actualSize - totalSize) + (0 + 0) = actualSize := by omega
      refine charges.keeps within nonneg (by omega) ?_
      rw [total]
      rfl

/-- A step is a valid action whose statements have succeeded. -/
theorem quotaSystem_step {action : QuotaAction} (moved : quotaSystem.step before action = some after) :
    action.valid = true ∧ ∃ value, action.program.run before = .ok (value, after) := by
  simp only [quotaSystem] at moved
  split at moved
  · rename_i valid
    split at moved
    · rename_i value last ran
      cases moved
      exact ⟨valid, value, ran⟩
    · cases moved
  · cases moved

/-- In every run whose operations fit, every user stays within the quota, and the next operation
keeps the bound exactly when it fits too. -/
theorem quota_bound_of_fitting_run (reachable : quotaSystem.ReachableWhen QuotaAction.Fits db) :
    db.WithinQuota ∧ ∀ action next, quotaSystem.step db action = some next →
      (next.WithinQuota ↔ action.Fits db) := by
  have bounds : db.WithinQuota ∧ db.UsedNonneg := by
    refine reachable.invariant (fun state => state.WithinQuota ∧ state.UsedNonneg) ?_ ?_
    · rintro _ rfl
      exact ⟨fun user none => absurd none (List.not_mem_nil),
        fun user none => absurd none (List.not_mem_nil)⟩
    · intro state action next both fits moved
      obtain ⟨valid, value, ran⟩ := quotaSystem_step moved
      obtain ⟨within, nonneg⟩ := QuotaAction.keeps both.1 both.2 valid ran
      exact ⟨within.mpr fits, nonneg⟩
  refine ⟨bounds.1, fun action next moved => ?_⟩
  obtain ⟨valid, value, ran⟩ := quotaSystem_step moved
  exact (QuotaAction.keeps bounds.1 bounds.2 valid ran).1

/-- An upload that fits into the quota. -/
theorem quota_bound_of_fitting_run_upload : ∃ db, quotaSystem.ReachableWhen QuotaAction.Fits db ∧
    db.users.rows = [⟨1, 10, 7, 2⟩] ∧ db.WithinQuota ∧ (∀ action next,
      quotaSystem.step db action = some next → (next.WithinQuota ↔ action.Fits db)) := by
  obtain ⟨db, reachable, checked⟩ := quotaSystem.exists_reachableWhen_of_runWhen QuotaAction.Fits
    [.registerUser 10, .reserveStorage 1 5, .consumeUsedStorage 1 4, .copyUnit 1 2 1,
      .saveToDrive 1 3 1]
    (fun db => db.users.rows = [⟨1, 10, 7, 2⟩]) rfl (by decide +kernel)
  exact ⟨db, reachable, of_decide_eq_true checked, quota_bound_of_fitting_run reachable⟩

/-- An instant upload of five bytes goes through while eight of the ten bytes are reserved. -/
theorem quota_bound_exceeded :
    ¬ ∀ db, quotaSystem.Reachable db → db.WithinQuota := by
  intro always
  obtain ⟨db, reachable, checked⟩ := quotaSystem.exists_reachable_of_run
    [.registerUser 10, .reserveStorage 1 8, .consumeUsedStorage 1 5]
    (fun db => db.users.rows = [⟨1, 10, 5, 8⟩]) rfl (by decide +kernel)
  have bound := always db reachable ⟨1, 10, 5, 8⟩ (by simp [of_decide_eq_true checked])
  simp at bound

end DiskServer.Drive
