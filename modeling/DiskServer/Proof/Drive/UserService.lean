import DiskServer.Construction.Drive.UserService
import DiskServer.Proof.Drive.Conservation
import DiskServer.Proof.Drive.RequestFrame

namespace DiskServer.Drive

open Library Transaction Upload

/-- A transaction of `InitializeUpload` ends with the error of an exceeded quota. -/
def RefusedForQuota (db : Db) (command : InitUploadCommand) : Prop :=
  (∃ content, (instantUpload command content).run db = .error (.ofCode .storageQuotaExceeded)) ∨
    ∃ session, (createUploadTask command session).run db = .error (.ofCode .storageQuotaExceeded)

/-- The bytes that the uploads and the copies of a user have reserved. -/
def World.outstanding (world : World) (userId : Nat) : Int :=
  ((world.db.tasks.rows.map (heldBytes userId)).sum : Nat) + world.copyBytes userId

/-- Both reports show the counter of the quota checks, and an upload is refused only beyond what they show. -/
structure FiguresEnforced (account : Nat → UserAccount) (toDouble : ℚ → ℚ) (world : World) (user : User) : Prop where
  shown : ∃ profile storage, getProfile account world.db user.id = .ok profile ∧
    getStorage toDouble world.db user.id = .ok storage ∧
      storage.used = profile.storageUsed ∧ (profile.storageUsed : Int) = user.storageUsed
  refused : ∀ storage command, getStorage toDouble world.db user.id = .ok storage → command.userId = user.id →
    RefusedForQuota world.db command →
      (storage.quota : Int) - storage.used - world.outstanding user.id < command.fileSize

theorem asUInt64_of_nonneg {value : Int} (nonneg : 0 ≤ value) : (asUInt64 value : Int) = value := by
  unfold asUInt64
  rw [if_pos nonneg, Int.toNat_of_nonneg nonneg]

section Quotas

instance : IgnoresCounters Db.quotas where
  counters := fun _ _ same => same
  contents := fun _ _ => rfl
  jobs := fun _ _ _ => rfl
  now := fun _ _ => rfl

instance : IgnoresTasks Db.quotas where
  tasks := fun _ _ => rfl
  chunks := fun _ _ => rfl

instance : IgnoresRows Db.quotas where
  folders := fun _ _ => rfl
  files := fun _ _ => rfl

instance : IgnoresTrash Db.quotas where
  trash := fun _ _ => rfl

/-- The quotas that users register with are natural numbers, and nothing in the drive changes them. -/
theorem World.quotas_nonneg {world : World} (reachable : driveSystem.Reachable world) :
    ∀ entry ∈ world.db.quotas, 0 ≤ entry.2 := by
  apply reachable.invariant fun world => ∀ entry ∈ world.db.quotas, 0 ≤ entry.2
  · intro world started entry listed
    rw [started] at listed
    cases listed
  · intro world action next nonneg _ moved
    cases registers : action.registers with
    | false =>
        have same : next.db.quotas = world.db.quotas :=
          World.step_keeps_part (.inl registers) (.inr inferInstance) (.inr inferInstance) moved
        rwa [same]
    | true =>
        cases action with
        | registerUser storageQuota =>
            change world.commit (Drive.registerUser storageQuota) = some next at moved
            obtain ⟨_, after, ran, rfl⟩ := World.commit_some moved
            have grown : after.quotas = world.db.quotas ++ [(world.db.users.next, (storageQuota : Int))] := by
              rw [modify_ok ran]
              exact List.map_append
            intro entry listed
            change entry ∈ after.quotas at listed
            rw [grown] at listed
            rcases List.mem_append.mp listed with old | new
            · exact nonneg entry old
            · rw [List.mem_singleton.mp new]
              exact Int.natCast_nonneg storageQuota
        | _ => cases registers

end Quotas

section Refusals

/-- The error of an exceeded quota. -/
abbrev exceeded : ErrorInfo := .ofCode .storageQuotaExceeded

variable {db : Db} {user : User} {userId : Nat}

/-- A quota statement refuses an existing user only where its condition fails. -/
theorem updateUserChecked_refused {evaluated : User → Int} {outOfRange rejected : ErrorInfo}
    {selected : User → Bool} {change : User → User} {keyed : ∀ user, (change user).id = user.id}
    (found : db.users.find? userId = some user) (differs : outOfRange ≠ rejected)
    (ran : (updateUserChecked userId evaluated outOfRange rejected selected change keyed).run db =
      .error rejected) : selected user = false := by
  cases chosen : selected user with
  | false => rfl
  | true =>
      simp only [updateUserChecked, StateT.run_bind, StateT.run_get, pure_bind, found, chosen, if_true] at ran
      split at ran
      · cases ran
        exact absurd rfl differs
      · cases ran

theorem consumeUsedStorage_refused {bytes : Nat} (found : db.users.find? userId = some user)
    (ran : (consumeUsedStorage userId bytes).run db = .error exceeded) :
    user.storageQuota < user.storageUsed + bytes := by
  unfold consumeUsedStorage at ran
  split at ran
  · cases ran
  · have refused := updateUserChecked_refused found (by decide) ran
    exact lt_of_not_ge (of_decide_eq_false refused)

theorem reserveStorage_refused {bytes : Nat} (found : db.users.find? userId = some user)
    (ran : (reserveStorage userId bytes).run db = .error exceeded) :
    user.storageQuota < user.storageUsed + user.storageReserved + bytes := by
  unfold reserveStorage at ran
  split at ran
  · cases ran
  · have refused := updateUserChecked_refused found (by decide) ran
    exact lt_of_not_ge (of_decide_eq_false refused)

theorem checkReferenceGate_avoids {contentId : Nat} : Avoids exceeded (checkReferenceGate contentId) := by
  apply avoids_get_bind
  intro before
  split
  · exact avoids_throw (by decide)
  · exact avoids_throw (by decide)
  · exact avoids_pure _

theorem incrementRefCount_avoids {contentId increment : Nat} :
    Avoids exceeded (incrementRefCount contentId increment) := by
  unfold incrementRefCount
  split
  · exact avoids_pure _
  · apply avoids_get_bind
    intro before
    split
    · exact avoids_throw (by decide)
    · exact avoids_bind checkReferenceGate_avoids fun _ => avoids_modify _

theorem resolveOwnedFolderLocation_avoids {folderId : Nat} :
    Avoids exceeded (resolveOwnedFolderLocation folderId userId) := by
  unfold resolveOwnedFolderLocation
  split
  · exact avoids_pure _
  · apply avoids_bind (avoids_get_bind fun _ => avoids_pure _)
    intro found
    split
    · exact avoids_throw (by decide)
    · exact avoids_pure _

theorem insertFileRecord_avoids {file : NewFile} : Avoids exceeded (insertFileRecord file) := by
  apply avoids_get_bind
  intro before
  split
  · exact avoids_throw (by decide)
  · apply avoids_get_bind
    intro again
    dsimp only
    split
    · exact avoids_throw (by decide)
    · split
      · exact avoids_throw (by decide)
      · split
        · exact avoids_throw (by decide)
        · exact avoids_bind (avoids_modify _) fun _ => avoids_pure _

theorem countNewItem_avoids {folderId : Nat} : Avoids exceeded (countNewItem folderId userId) := by
  have counts : Avoids exceeded (applyItemCountDelta folderId userId 1) := by
    apply avoids_get_bind
    intro before
    split
    · exact avoids_bind (avoids_modify _) fun _ => avoids_pure _
    · exact avoids_pure _
  unfold countNewItem
  split
  · exact avoids_bind counts fun _ => avoids_pure _
  · exact avoids_pure _

variable {command : InitUploadCommand}

/-- An instant upload is refused for quota by its charge alone. -/
theorem instantUpload_refused {content : FileContent} (found : db.users.find? command.userId = some user)
    (ran : (instantUpload command content).run db = .error exceeded) :
    user.storageQuota < user.storageUsed + command.fileSize := by
  unfold instantUpload at ran
  rw [get_bind_run] at ran
  split at ran
  · exact absurd ran (avoids_throw (by decide) db)
  · rcases bind_error ran with charged | ⟨_, middle, _, later⟩
    · exact consumeUsedStorage_refused found charged
    · have avoids : Avoids exceeded (do
          incrementRefCount content.id 1
          let location ← resolveOwnedFolderLocation command.parentId command.userId
          let fileId ← insertFileRecord
            { userId := command.userId
              contentId := content.id
              folderId := command.parentId
              name := command.filename
              extension := extractFileExtension command.filename
              size := command.fileSize
              mimeType := content.mimeType
              path := buildFilePath location.path command.filename
              isFavorite := 0
              downloadCount := 0 }
          countNewItem command.parentId command.userId
          pure fileId) := by
        apply avoids_bind incrementRefCount_avoids
        intro _
        apply avoids_bind resolveOwnedFolderLocation_avoids
        intro location
        apply avoids_bind insertFileRecord_avoids
        intro fileId
        exact avoids_bind countNewItem_avoids fun _ => avoids_pure _
      exact absurd later (avoids middle)

/-- A new upload is refused for quota by its reservation alone. -/
theorem createUploadTask_refused {session : StagingSession} (found : db.users.find? command.userId = some user)
    (ran : (createUploadTask command session).run db = .error exceeded) :
    user.storageQuota < user.storageUsed + user.storageReserved + command.fileSize := by
  unfold createUploadTask at ran
  rw [get_bind_run] at ran
  split at ran
  · cases ran
  · rcases bind_error ran with reserved | ⟨_, middle, _, later⟩
    · exact reserveStorage_refused found reserved
    · rw [get_bind_run] at later
      split at later
      · exact absurd later (avoids_throw (by decide) middle)
      · cases later

end Refusals

section Figures

variable {account : Nat → UserAccount} {toDouble : ℚ → ℚ} {world : World} {user : User}

/-- The profile shows the counter of the user. -/
theorem getProfile_of_present (account : Nat → UserAccount) (present : user ∈ world.db.users.rows) :
    ∃ profile, getProfile account world.db user.id = .ok profile ∧
      profile.storageUsed = asUInt64 user.storageUsed := by
  have found : world.db.users.find? user.id = some user := Table.find?_eq_some_iff.mpr ⟨present, rfl⟩
  unfold getProfile
  rw [found]
  exact ⟨_, rfl, rfl⟩

/-- The statistics show the sum of the files. -/
theorem getStorage_of_present (toDouble : ℚ → ℚ) (present : user ∈ world.db.users.rows) :
    ∃ storage, getStorage toDouble world.db user.id = .ok storage ∧
      storage.used = asUInt64 (sumFileSizes world.db user.id) ∧ storage.quota = asUInt64 user.storageQuota := by
  have found : world.db.users.find? user.id = some user := Table.find?_eq_some_iff.mpr ⟨present, rfl⟩
  unfold getStorage
  rw [found]
  exact ⟨_, rfl, rfl, rfl⟩

/-- The statistics leave out exactly the bytes in the trash of the user. -/
theorem World.Inv.used_reported (inv : world.Inv) (present : user ∈ world.db.users.rows) :
    (asUInt64 user.storageUsed : Int) =
      asUInt64 (sumFileSizes world.db user.id) + world.db.trashBytes user.id := by
  have counter := inv.storageUsed present
  have files : sumFileSizes world.db user.id = world.db.fileBytes user.id := rfl
  have shown := asUInt64_of_nonneg (Int.natCast_nonneg (sumFileSizes world.db user.id))
  have nonneg : 0 ≤ user.storageUsed := by omega
  have kept := asUInt64_of_nonneg nonneg
  omega

/-- A refused upload is larger than what the quota leaves beside the counter and the reservations. -/
theorem World.Inv.refused_size (inv : world.Inv) (present : user ∈ world.db.users.rows) {command : InitUploadCommand}
    (owner : command.userId = user.id) (refused : RefusedForQuota world.db command) :
    user.storageQuota - user.storageUsed - world.outstanding user.id < command.fileSize := by
  have found : world.db.users.find? command.userId = some user :=
    Table.find?_eq_some_iff.mpr ⟨present, owner.symm⟩
  have reserved : user.storageReserved = world.outstanding user.id := by
    have held := inv.storageReserved user.id
    rw [Table.find?_eq_some_iff.mpr ⟨present, rfl⟩] at held
    exact held
  have copies : 0 ≤ world.copyBytes user.id := by
    unfold World.copyBytes
    apply List.sum_nonneg
    intro bytes listed
    obtain ⟨run, running, rfl⟩ := List.mem_map.mp listed
    exact inv.outstanding_nonneg (List.mem_of_mem_filter running)
  have nonneg : 0 ≤ world.outstanding user.id := by
    unfold World.outstanding
    omega
  rcases refused with ⟨content, charged⟩ | ⟨session, charged⟩
  · have beyond := instantUpload_refused found charged
    omega
  · have beyond := createUploadTask_refused found charged
    omega

/-- In every reachable world the figures of a user are the enforced ones exactly when the user has nothing of any size
in the trash. -/
theorem figures_enforced_iff (account : Nat → UserAccount) (toDouble : ℚ → ℚ)
    (reachable : driveSystem.Reachable world) (present : user ∈ world.db.users.rows) :
    FiguresEnforced account toDouble world user ↔ world.db.trashBytes user.id = 0 := by
  have inv := World.inv_of_reachable reachable
  have reported := inv.used_reported present
  constructor
  · intro enforced
    obtain ⟨profile, storage, profiled, stored, same, _⟩ := enforced.shown
    obtain ⟨profile', profiled', counter⟩ := getProfile_of_present account present
    obtain ⟨storage', stored', sizes, _⟩ := getStorage_of_present toDouble present
    obtain rfl := Except.ok.inj (profiled.symm.trans profiled')
    obtain rfl := Except.ok.inj (stored.symm.trans stored')
    rw [counter, sizes] at same
    omega
  · intro nothing
    obtain ⟨profile, profiled, counter⟩ := getProfile_of_present account present
    obtain ⟨storage, stored, sizes, quota⟩ := getStorage_of_present toDouble present
    have nonneg : 0 ≤ user.storageUsed := by
      rw [inv.storageUsed present]
      omega
    have exact_used := asUInt64_of_nonneg nonneg
    have exact_quota : (asUInt64 user.storageQuota : Int) = user.storageQuota :=
      asUInt64_of_nonneg (World.quotas_nonneg reachable _ (List.mem_map_of_mem present))
    have same : asUInt64 (sumFileSizes world.db user.id) = asUInt64 user.storageUsed := by omega
    refine ⟨⟨profile, storage, profiled, stored, ?_, ?_⟩, ?_⟩
    · rw [sizes, counter, same]
    · rw [counter, exact_used]
    · intro shown command found owner refused
      obtain rfl := Except.ok.inj (stored.symm.trans found)
      have beyond := inv.refused_size present owner refused
      rw [sizes, quota, same]
      omega

/-- A user with two uploads and an empty trash. -/
theorem figures_enforced_of_uploads : ∃ world, driveSystem.Reachable world ∧
    world.db.users.rows.map User.storageUsed = [5] ∧ ∀ user ∈ world.db.users.rows,
      FiguresEnforced (fun _ => ⟨"ann", "ann@example.com", none, none, "", ""⟩) id world user := by
  obtain ⟨world, reachable, checked⟩ := driveSystem.exists_reachable_of_run firstUpload
    (fun world => world.db.users.rows.map User.storageUsed = [5] ∧ world.db.trash.rows.length = 0)
    rfl (by decide +kernel)
  obtain ⟨used, empty⟩ := of_decide_eq_true checked
  refine ⟨world, reachable, used, fun user present => (figures_enforced_iff _ id reachable present).mpr ?_⟩
  unfold Db.trashBytes
  rw [List.eq_nil_of_length_eq_zero empty]
  rfl

/-- A user who has moved one of two files of five bytes to the trash sees five used bytes, and ten are charged. -/
theorem figures_not_enforced : ¬∀ world, driveSystem.Reachable world → ∀ user ∈ world.db.users.rows,
    FiguresEnforced (fun _ => ⟨"ann", "ann@example.com", none, none, "", ""⟩) id world user := by
  intro always
  obtain ⟨world, reachable, checked⟩ := driveSystem.exists_reachable_of_run sharedContent
    (fun world => decide (world.db.users.rows.map (fun user => (user.id, user.storageUsed)) = [(1, 10)]) &&
      decide (sumFileSizes world.db 1 = 5)) rfl (by decide +kernel)
  obtain ⟨charged, seen⟩ := Bool.and_eq_true_iff.mp checked
  obtain ⟨user, present, same⟩ : ∃ user ∈ world.db.users.rows, (user.id, user.storageUsed) = (1, 10) :=
    List.mem_map.mp (of_decide_eq_true charged ▸ List.mem_singleton.mpr rfl)
  obtain ⟨first, used⟩ := Prod.mk.inj same
  obtain ⟨profile, storage, _, stored, shown, counter⟩ := (always world reachable user present).shown
  have sizes : storage.used = asUInt64 (sumFileSizes world.db user.id) := by
    have found : world.db.users.find? user.id = some user := Table.find?_eq_some_iff.mpr ⟨present, rfl⟩
    unfold getStorage at stored
    rw [found] at stored
    rw [← Except.ok.inj stored]
  rw [first, of_decide_eq_true seen] at sizes
  rw [used, ← shown, sizes] at counter
  exact absurd counter (by decide)

end Figures

end DiskServer.Drive
