import DiskServer.Construction.Admin.AvailableSpace
import DiskServer.Library.Frame
import DiskServer.Proof.Drive.QuotaBound

namespace DiskServer.Admin

open Library Transaction Drive Utils

section Arithmetic

/-- The range of a `BIGINT` column. -/
def InBigint (column : Int) : Prop := -9223372036854775808 ≤ column ∧ column ≤ 9223372036854775807

/-- The counters of a user lie in the range of their columns. -/
def BigintColumns (user : User) : Prop := InBigint user.storageUsed ∧ InBigint user.storageReserved

/-- The quota that leaves the asked space beside all bytes in use and in reserve. -/
def grantedQuota (user : User) (availableSpaceG : Nat) : Int :=
  user.storageUsed + user.storageReserved + availableSpaceG * bytesPerG

/-- The unsigned sum leaves the 64 bits, and the service rejects the request. -/
def Overflows (user : User) (availableSpaceG : Nat) : Prop :=
  uint64Max < toUInt64 user.storageUsed + toUInt64 user.storageReserved + availableSpaceG * bytesPerG

instance (user : User) (availableSpaceG : Nat) : Decidable (Overflows user availableSpaceG) :=
  inferInstanceAs (Decidable (uint64Max < _))

/-- The three comparisons of the service reject exactly the sums that leave the 64 bits. -/
theorem newStorageQuota_eq (user : User) (availableSpaceG : Nat) :
    newStorageQuota user availableSpaceG =
      if Overflows user availableSpaceG then
        .error tooLarge
      else
        .ok (toInt64 (toUInt64 user.storageUsed + toUInt64 user.storageReserved +
          availableSpaceG * bytesPerG)) := by
  have reserved : toUInt64 user.storageReserved ≤ uint64Max := by
    unfold toUInt64 uint64Max
    omega
  have wide : uint64Max / bytesPerG < availableSpaceG ↔ uint64Max < availableSpaceG * bytesPerG :=
    Nat.div_lt_iff_lt_mul (by decide)
  unfold newStorageQuota
  dsimp only
  by_cases overflows : Overflows user availableSpaceG
  · rw [if_pos overflows]
    unfold Overflows at overflows
    split
    · rfl
    · rw [if_pos (by omega)]
  · rw [if_neg overflows]
    unfold Overflows at overflows
    rw [if_neg (by omega), if_neg (by omega)]

/-- A sum that the service accepts is stored exactly when it fits the signed column. -/
theorem toInt64_eq_iff {user : User} {availableSpaceG : Nat} (columns : BigintColumns user)
    (fits : ¬ Overflows user availableSpaceG) :
    toInt64 (toUInt64 user.storageUsed + toUInt64 user.storageReserved + availableSpaceG * bytesPerG) =
      grantedQuota user availableSpaceG ↔
      grantedQuota user availableSpaceG ≤ bigintMax := by
  obtain ⟨⟨usedLow, usedHigh⟩, reservedLow, reservedHigh⟩ := columns
  unfold Overflows at fits
  unfold grantedQuota
  have max : bigintMax = 9223372036854775807 := by decide
  rw [max]
  generalize user.storageUsed = used at *
  generalize user.storageReserved = reserved at *
  rw [show ((availableSpaceG : Int) * bytesPerG) = ((availableSpaceG * bytesPerG : Nat) : Int) from
    (Nat.cast_mul _ _).symm]
  generalize availableSpaceG * bytesPerG = bytes at *
  unfold toInt64
  unfold toUInt64 uint64Max at *
  split
  · omega
  · omega

end Arithmetic

section Interleaving

variable {userId targetId : Nat} {before after : Db}

/-- A row of the table has the identifier. -/
def HasUser (targetId : Nat) (db : Db) : Prop := ∃ user ∈ db.users.rows, user.id = targetId

theorem HasUser.of_update {select : User → Bool} {change : User → User}
    {keyed : ∀ user, (change user).id = user.id} (here : HasUser targetId before) :
    HasUser targetId { before with users := before.users.update select change keyed } := by
  obtain ⟨user, present, same⟩ := here
  refine ⟨_, List.mem_map_of_mem present, ?_⟩
  split
  · exact (keyed user).trans same
  · exact same

theorem updateUserChecked_keepsUser {evaluated : User → Int} {outOfRange rejected : ErrorInfo}
    {selected : User → Bool} {change : User → User} {keyed : ∀ user, (change user).id = user.id} :
    Preserves (HasUser targetId)
      (updateUserChecked userId evaluated outOfRange rejected selected change keyed) := by
  intro before value after here ran
  obtain ⟨user, found, chosen, rfl⟩ := updateUserChecked_ok ran
  exact here.of_update

theorem unlessZero_keepsUser {zero : Prop} [Decidable zero] {program : Tx Unit}
    (kept : Preserves (HasUser targetId) program) :
    Preserves (HasUser targetId) (if zero then pure () else program) := by
  split
  · exact preserves_pure ()
  · exact kept

/-- No quota operation removes the row of a user. -/
theorem program_keepsUser (action : QuotaAction) :
    Preserves (HasUser targetId) action.program := by
  cases action with
  | registerUser storageQuota =>
      apply preserves_modify
      rintro db ⟨user, present, same⟩
      exact ⟨user, List.mem_append_left _ present, same⟩
  | reserveStorage userId bytes => exact unlessZero_keepsUser updateUserChecked_keepsUser
  | releaseReservedStorageChecked userId bytes => exact unlessZero_keepsUser updateUserChecked_keepsUser
  | commitReservedToUsed userId bytes => exact unlessZero_keepsUser updateUserChecked_keepsUser
  | consumeUsedStorage userId bytes => exact unlessZero_keepsUser updateUserChecked_keepsUser
  | adjustUsedStorageChecked userId delta =>
      apply unlessZero_keepsUser
      split
      · exact updateUserChecked_keepsUser
      · exact updateUserChecked_keepsUser
  | copyUnit userId copied skipped =>
      apply preserves_bind (unlessZero_keepsUser updateUserChecked_keepsUser)
      intro _
      exact unlessZero_keepsUser updateUserChecked_keepsUser
  | saveToDrive userId totalSize actualSize =>
      apply preserves_bind (unlessZero_keepsUser updateUserChecked_keepsUser)
      intro _
      show Preserves (HasUser targetId) (refundSkipped userId totalSize actualSize)
      unfold refundSkipped
      split
      · exact preserves_modify fun db here => here.of_update
      · exact preserves_pure ()

/-- The row that the request has read is still there when the request writes. -/
theorem reaches_keepsUser (between : quotaSystem.Reaches before after)
    (here : HasUser targetId before) : HasUser targetId after := by
  apply TransitionSystem.ReachesWhen.keeps (HasUser targetId) ?_ between here
  intro state action next present _ moved
  obtain ⟨-, value, ran⟩ := quotaSystem_step moved
  exact program_keepsUser action state value next present ran

end Interleaving

section Request

variable {toDouble : ℚ → ℚ} {json : Written} {request : ChangeAvailableSpaceRequest}
  {operatorId targetId : Nat} {read write after : Db} {user row : User}

/-- A request that succeeds leaves the user with exactly the granted space above the counters that it has
read. -/
def SetsAvailableSpace (toDouble : ℚ → ℚ) (json : Written) (operatorId targetId : Nat)
    (read write : Db) (user : User) : Prop :=
  ∀ request after, ChangeAvailableSpaceRequest.fromJson toDouble json = .value request →
    changeUserAvailableSpace operatorId targetId request read write = .ok after →
    ∃ row, after.users.find? targetId = some row ∧
      row.storageQuota = grantedQuota user request.availableSpaceG ∧
      row.storageUsed + row.storageReserved ≤ row.storageQuota

/-- A request that succeeds writes the quota it has computed and nothing else. -/
theorem changeUserAvailableSpace_ok_iff (found : read.users.find? targetId = some user) :
    changeUserAvailableSpace operatorId targetId request read write = .ok after ↔
      targetId ≠ operatorId ∧ ¬ Overflows user request.availableSpaceG ∧
      after = setStorageQuota targetId (toInt64 (toUInt64 user.storageUsed +
        toUInt64 user.storageReserved + request.availableSpaceG * bytesPerG)) write := by
  unfold changeUserAvailableSpace
  simp only [found, newStorageQuota_eq]
  by_cases own : targetId = operatorId
  · rw [if_pos own]
    simp only [own, ne_eq, not_true, false_and, reduceCtorEq]
  · rw [if_neg own]
    by_cases large : Overflows user request.availableSpaceG
    · rw [if_pos large]
      simp only [Except.map, large, not_true, false_and, and_false, reduceCtorEq]
    · rw [if_neg large]
      simp only [Except.map, own, large, ne_eq, not_false_eq_true, true_and, Except.ok.injEq, eq_comm]

theorem setStorageQuota_find? {storageQuota : Int} (found : write.users.find? targetId = some row) :
    (setStorageQuota targetId storageQuota write).users.find? targetId =
      some { row with storageQuota } := by
  have updated := Table.find?_update write.users.toTable targetId targetId
    (fun user => { user with storageQuota }) fun _ => rfl
  rw [found] at updated
  exact updated.trans (by simp)

/-- The space is set exactly when the request is rejected, or when the new quota fits and the others have
added at most the granted space since the row was read. -/
theorem sets_available_space_iff (columns : BigintColumns user)
    (accepted : ChangeAvailableSpaceRequest.fromJson toDouble json = .value request)
    (found : read.users.find? targetId = some user) (between : quotaSystem.Reaches read write) :
    ∃ row, write.users.find? targetId = some row ∧
      (SetsAvailableSpace toDouble json operatorId targetId read write user ↔
        targetId = operatorId ∨ Overflows user request.availableSpaceG ∨
        (grantedQuota user request.availableSpaceG ≤ bigintMax ∧
          row.storageUsed + row.storageReserved ≤
            user.storageUsed + user.storageReserved + request.availableSpaceG * bytesPerG)) := by
  obtain ⟨row, present, keyed⟩ := reaches_keepsUser between ⟨user, Table.find?_some found⟩
  have current : write.users.find? targetId = some row := Table.find?_eq_some_iff.mpr ⟨present, keyed⟩
  refine ⟨row, current, ?_⟩
  unfold SetsAvailableSpace
  constructor
  · intro sets
    by_cases own : targetId = operatorId
    · exact .inl own
    by_cases large : Overflows user request.availableSpaceG
    · exact .inr (.inl large)
    · obtain ⟨written, there, stored, bound⟩ :=
        sets request _ accepted ((changeUserAvailableSpace_ok_iff found).mpr ⟨own, large, rfl⟩)
      rw [setStorageQuota_find? current, Option.some_inj] at there
      subst there
      have fits := (toInt64_eq_iff columns large).mp stored
      refine .inr (.inr ⟨fits, ?_⟩)
      rw [stored] at bound
      exact bound
  · intro condition other after again ran
    rw [accepted, Parsed.value.injEq] at again
    subst again
    obtain ⟨own, large, rfl⟩ := (changeUserAvailableSpace_ok_iff found).mp ran
    obtain ⟨fits, bound⟩ := (condition.resolve_left own).resolve_left large
    have stored := (toInt64_eq_iff columns large).mpr fits
    exact ⟨_, setStorageQuota_find? current, stored, stored ▸ bound⟩

/-- One user with a quota of ten bytes and nothing used. -/
def Db.tenBytes : Db :=
  { Db.empty with users := Db.empty.users.insert (fun id => ⟨id, 10, 0, 0⟩) fun _ => rfl }

def Db.fiveReserved : Db :=
  Db.tenBytes.withUser 1 (fun user => { user with storageReserved := user.storageReserved + 5 })
    fun _ => rfl

theorem tenBytes_reaches_fiveReserved : quotaSystem.Reaches Db.tenBytes Db.fiveReserved :=
  have ran : quotaSystem.run Db.tenBytes [.reserveStorage 1 5] = some Db.fiveReserved := rfl
  quotaSystem.reaches_of_run ran

theorem expectUInt64_natural (value : Nat) (key : String) :
    expectUInt64 (.int value) key = .value value := by
  have natural : ¬ (value : Int) < 0 := by omega
  simp [natural, expectUInt64, Numeric.isIntegral, Numeric.isInt64, Numeric.asInt64, Numeric.asUInt64]

/-- A whole number that the service can multiply is a request. -/
theorem fromJson_integer (space : Nat) (small : space ≤ uint64Max / bytesPerG) :
    ChangeAvailableSpaceRequest.fromJson toDouble (.object [("available_space_g", .integer space)]) =
      .value ⟨space⟩ := by
  have member : (Written.object [("available_space_g", .integer space)]).isMember "available_space_g" =
      some true := by simp [Written.isMember]
  have field : (Written.object [("available_space_g", .integer space)]).field "available_space_g" =
      .integer space := by simp [Written.field]
  have largest : uint64Max / bytesPerG = 17179869183 := by decide
  have numeric : (Written.integer space).numeric toDouble = .int space :=
    if_pos ⟨by omega, by omega⟩
  have required : requireUInt64 toDouble (.object [("available_space_g", .integer space)])
      "available_space_g" = .value space := by
    unfold requireUInt64
    rw [member, field, numeric]
    exact expectUInt64_natural space _
  unfold ChangeAvailableSpaceRequest.fromJson
  rw [required]
  exact if_neg (Nat.not_lt.mpr small)

instance (column : Int) : Decidable (InBigint column) := inferInstanceAs (Decidable (_ ∧ _))

instance (user : User) : Decidable (BigintColumns user) := inferInstanceAs (Decidable (_ ∧ _))

/-- Bytes that were reserved before the read are covered. -/
theorem sets_available_space_iff_reserved : ∃ row, Db.fiveReserved.users.find? 1 = some row ∧
    (SetsAvailableSpace id (.object [("available_space_g", .integer 1)]) 2 1 Db.tenBytes
        Db.fiveReserved ⟨1, 10, 0, 0⟩ ↔
      1 = 2 ∨ Overflows ⟨1, 10, 0, 0⟩ 1 ∨ (grantedQuota ⟨1, 10, 0, 0⟩ 1 ≤ bigintMax ∧
        row.storageUsed + row.storageReserved ≤ (0 : Int) + 0 + (1 : Nat) * bytesPerG)) :=
  sets_available_space_iff (by decide) (fromJson_integer 1 (by decide)) rfl
    tenBytes_reaches_fiveReserved

/-- Five bytes that are reserved between the read and the write are not covered by the new quota, and
half of the 64 bits is stored as the least number of the column. -/
theorem available_space_not_set : quotaSystem.Reaches Db.tenBytes Db.fiveReserved ∧
    ¬ SetsAvailableSpace id (.object [("available_space_g", .integer 0)]) 2 1 Db.tenBytes
      Db.fiveReserved ⟨1, 10, 0, 0⟩ ∧
    ¬ SetsAvailableSpace id (.object [("available_space_g", .integer 8589934592)]) 2 1 Db.tenBytes
      Db.tenBytes ⟨1, 10, 0, 0⟩ := by
  refine ⟨tenBytes_reaches_fiveReserved, ?_, ?_⟩
  · intro sets
    obtain ⟨row, there, -, bound⟩ := sets ⟨0⟩ (setStorageQuota 1 0 Db.fiveReserved)
      (fromJson_integer 0 (by decide)) rfl
    obtain rfl : (⟨1, 0, 0, 5⟩ : User) = row := Option.some_inj.mp there
    exact absurd bound (by decide)
  · intro sets
    obtain ⟨row, there, stored, -⟩ := sets ⟨8589934592⟩
      (setStorageQuota 1 (-9223372036854775808) Db.tenBytes)
      (fromJson_integer 8589934592 (by decide)) rfl
    obtain rfl : (⟨1, -9223372036854775808, 0, 0⟩ : User) = row := Option.some_inj.mp there
    exact absurd stored (by decide)

end Request

end DiskServer.Admin
