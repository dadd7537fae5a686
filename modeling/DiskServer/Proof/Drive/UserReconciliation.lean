import DiskServer.Construction.Drive.StorageReconciliation
import DiskServer.Library.Separator
import DiskServer.Proof.Drive.Conservation

namespace DiskServer.Drive

open Library Autocommit
open Upload (Timestamp)

section Findings

variable (findings : FindingTable) (start : Timestamp) (key : String × String)

/-- A finding is open until it is resolved. -/
def Open : Prop := ∃ row, findings.find? key = some row ∧ row.resolvedAt = none

/-- An open finding that was seen at some time or later. -/
def Recent : Prop := ∃ row, findings.find? key = some row ∧ row.resolvedAt = none ∧ start ≤ row.lastSeenAt

variable {findings start key}

theorem Recent.isOpen (recent : Recent findings start key) : Open findings key := by
  obtain ⟨row, found, unresolved, -⟩ := recent
  exact ⟨row, found, unresolved⟩

variable {fresh : StoredFinding} {other : String × String}

theorem find?_upsert_other (differs : other ≠ fresh.key) :
    (upsertFinding findings fresh).find? other = findings.find? other := by
  unfold upsertFinding Table.insertNew
  split
  · rename_i inserted fit
    split at fit
    · cases fit
      rw [Table.find?_add, if_neg differs]
    · cases fit
  · rw [Table.find?_update]
    cases findings.find? other with
    | none => rfl
    | some row => rw [Option.map_some, if_neg differs]

/-- A recorded finding is open and was seen when it was recorded. -/
theorem find?_upsert_self (unresolved : fresh.resolvedAt = none) :
    ∃ row, (upsertFinding findings fresh).find? fresh.key = some row ∧ row.resolvedAt = none ∧
      row.lastSeenAt = fresh.lastSeenAt := by
  unfold upsertFinding Table.insertNew
  split
  · rename_i inserted fit
    split at fit
    · cases fit
      refine ⟨fresh, ?_, unresolved, rfl⟩
      rw [Table.find?_add, if_pos rfl]
    · cases fit
  · rename_i used
    split at used
    · cases used
    · rename_i held
      obtain ⟨row, present, keyed⟩ : ∃ row ∈ findings.rows, row.key = fresh.key := by simpa using held
      have found : findings.find? fresh.key = some row := Table.find?_eq_some_iff.mpr ⟨present, keyed⟩
      refine ⟨row.seenAgain fresh, ?_, rfl, rfl⟩
      rw [Table.find?_update, found, Option.map_some, if_pos rfl]

theorem find?_resolve (select : StoredFinding → Bool) (now : Timestamp) :
    (findings.update select (fun row => row.resolved now) fun row => row.resolved_key now).find? other =
      (findings.find? other).map fun row => if select row then row.resolved now else row :=
  Table.find?_update_select _ _ _ _ _

end Findings

section Sweeps

variable {verdict : String × String → Prop} {start : Timestamp} {settled more : List (String × String)}
  {origin before middle after : ReconciliationDb}

variable (verdict start settled before after) in
/-- The settled findings are open as the verdict says. A later one is recent, and no other finding was
opened. -/
structure Swept : Prop where
  db : after.db = { before.db with now := after.db.now }
  clock : before.db.now ≤ after.db.now
  opened : ∀ key ∈ settled, Open after.findings key ↔ verdict key
  fresh : ∀ key ∈ settled, Open after.findings key → Recent after.findings start key
  recent : ∀ key ∉ settled, Recent after.findings start key ↔ Recent before.findings start key
  left : ∀ key ∉ settled, Open after.findings key → Open before.findings key

namespace Swept

theorem refl (state : ReconciliationDb) : Swept verdict start [] state state where
  db := rfl
  clock := Int.le_refl _
  opened _ inside := absurd inside (List.not_mem_nil)
  fresh _ inside := absurd inside (List.not_mem_nil)
  recent _ _ := Iff.rfl
  left _ _ isOpen := isOpen

/-- Time alone settles nothing. -/
theorem tick (swept : Swept verdict start settled origin before) {later : Timestamp}
    (onwards : before.db.now ≤ later) : Swept verdict start settled origin (before.atTime later) where
  db := by
    unfold ReconciliationDb.atTime
    rw [swept.db]
  clock := Int.le_trans swept.clock onwards
  opened := swept.opened
  fresh := swept.fresh
  recent := swept.recent
  left := swept.left

/-- A statement settles the finding of one key. -/
theorem settle (swept : Swept verdict start settled origin before) (key : String × String)
    {findings : FindingTable} (others : ∀ other, other ≠ key → findings.find? other = before.findings.find? other)
    (opened : Open findings key ↔ verdict key) (fresh : Open findings key → Recent findings start key) :
    Swept verdict start (key :: settled) origin { before with findings := findings } where
  db := swept.db
  clock := swept.clock
  opened other inside := by
    by_cases same : other = key
    · rw [same]
      exact opened
    · have earlier := (List.mem_cons.mp inside).resolve_left same
      rw [← swept.opened other earlier]
      unfold Open
      rw [others other same]
  fresh other inside := by
    by_cases same : other = key
    · rw [same]
      exact fresh
    · have earlier := swept.fresh other ((List.mem_cons.mp inside).resolve_left same)
      unfold Open Recent at earlier ⊢
      rw [others other same]
      exact earlier
  recent other outside := by
    obtain ⟨differs, earlier⟩ := not_or.mp (mt List.mem_cons.mpr outside)
    rw [← swept.recent other earlier]
    unfold Recent
    rw [others other differs]
  left other outside := by
    obtain ⟨differs, earlier⟩ := not_or.mp (mt List.mem_cons.mpr outside)
    have before := swept.left other earlier
    unfold Open at before ⊢
    rw [others other differs]
    exact before

end Swept

variable {wrong : Bool} {finding : ReconciliationFinding} {page : ReconciliationPageResult}

/-- A check settles its finding unless the finding cannot be stored. -/
theorem settleFinding_meets (swept : Swept verdict start settled origin before) (started : start ≤ origin.db.now)
    (right : wrong = true ↔ verdict (finding.findingType, finding.resourceId)) :
    Meets (fun value after =>
        Swept verdict start ((finding.findingType, finding.resourceId) :: settled) origin after ∧
          value.nextAfterId = page.nextAfterId ∧ value.hasMore = page.hasMore)
      (fun _ after => Swept verdict start settled origin after) (settleFinding wrong finding page) before := by
  have now : start ≤ before.db.now := Int.le_trans started swept.clock
  cases wrong with
  | true =>
      have fresh := @find?_upsert_self before.findings (finding.stored before.db.now) rfl
      obtain ⟨row, found, unresolved, seen⟩ := fresh
      have recent : Recent (upsertFinding before.findings (finding.stored before.db.now)) start
          (finding.findingType, finding.resourceId) :=
        ⟨row, found, unresolved, by rw [seen]; exact now⟩
      have recorded : Meets
          (fun _ after => after =
            { before with findings := upsertFinding before.findings (finding.stored before.db.now) })
          (fun _ after => Swept verdict start settled origin after) (recordFinding finding) before := by
        unfold recordFinding
        split
        · exact rfl
        · exact meets_throw swept
      unfold settleFinding
      rw [if_pos rfl]
      apply meets_bind recorded
      rintro _ _ rfl
      refine ⟨swept.settle _ ?_ ?_ fun _ => recent, rfl, rfl⟩
      · intro other differs
        exact find?_upsert_other differs
      · exact ⟨fun _ => right.mp rfl, fun _ => recent.isOpen⟩
  | false =>
      have closed : ¬ Open (before.findings.update
          (fun row => row.key = (finding.findingType, finding.resourceId) && row.resolvedAt.isNone)
          (fun row => row.resolved before.db.now) fun row => row.resolved_key before.db.now)
          (finding.findingType, finding.resourceId) := by
        rintro ⟨row, found, unresolved⟩
        rw [find?_resolve] at found
        obtain ⟨old, there, rfl⟩ := Option.map_eq_some_iff.mp found
        have keyed := (Table.find?_some there).2
        split at unresolved
        · cases unresolved
        · rename_i unselected
          simp [keyed, unresolved] at unselected
      unfold settleFinding
      rw [if_neg Bool.false_ne_true]
      refine ⟨swept.settle _ ?_ ?_ fun isOpen => absurd isOpen closed, rfl, rfl⟩
      · intro other differs
        rw [find?_resolve]
        cases found : before.findings.find? other with
        | none => rfl
        | some row =>
            have keyed := (Table.find?_some found).2
            rw [Option.map_some, if_neg]
            simp [keyed, differs]
      · refine ⟨fun isOpen => absurd isOpen closed, fun bad => ?_⟩
        exact absurd (right.mpr bad) Bool.false_ne_true

end Sweeps

section Users

/-- The used bytes of a user differ from the bytes of the user's files and trash. -/
def Db.UsedWrong (db : Db) (user : User) : Prop :=
  asUInt64 user.storageUsed ≠ db.activeFileBytes user.id + db.trashItemBytes user.id

/-- The reserved bytes of a user differ from those of the user's uploads. -/
def Db.ReservedWrong (db : Db) (user : User) : Prop :=
  asUInt64 user.storageReserved ≠ db.activeUploadReservedBytes user.id

/-- The finding about the used bytes of a user. -/
def usedKey (user : User) : String × String := (quotaUsedMismatch, toString user.id)

/-- The finding about the reserved bytes of a user. -/
def reservedKey (user : User) : String × String := (quotaReservedMismatch, toString user.id)

/-- What a scan of the users has to report. -/
def Db.userVerdict (db : Db) (key : String × String) : Prop :=
  ∃ user ∈ db.users.rows, (key = usedKey user ∧ db.UsedWrong user) ∨ (key = reservedKey user ∧ db.ReservedWrong user)

variable {db : Db} {user other : User}

theorem usedKey_injective (same : usedKey user = usedKey other) : user.id = other.id :=
  decimal_injective (Prod.mk.inj same).2

theorem reservedKey_injective (same : reservedKey user = reservedKey other) : user.id = other.id :=
  decimal_injective (Prod.mk.inj same).2

theorem usedKey_ne_reservedKey : usedKey user ≠ reservedKey other := by
  intro same
  exact absurd (Prod.mk.inj same).1 (by decide)

theorem userVerdict_used (present : user ∈ db.users.rows) :
    db.userVerdict (usedKey user) ↔ db.UsedWrong user := by
  constructor
  · rintro ⟨found, there, ⟨keyed, wrong⟩ | ⟨keyed, -⟩⟩
    · rw [db.users.eq_of_key present there (usedKey_injective keyed)]
      exact wrong
    · exact absurd keyed usedKey_ne_reservedKey
  · intro wrong
    exact ⟨user, present, .inl ⟨rfl, wrong⟩⟩

theorem userVerdict_reserved (present : user ∈ db.users.rows) :
    db.userVerdict (reservedKey user) ↔ db.ReservedWrong user := by
  constructor
  · rintro ⟨found, there, ⟨keyed, -⟩ | ⟨keyed, wrong⟩⟩
    · exact absurd keyed.symm usedKey_ne_reservedKey
    · rw [db.users.eq_of_key present there (reservedKey_injective keyed)]
      exact wrong
  · intro wrong
    exact ⟨user, present, .inr ⟨rfl, wrong⟩⟩

variable {origin before after : ReconciliationDb} {start : Timestamp} {settled : List (String × String)}
  {scanId : String} {limit afterId : Nat} {page : ReconciliationPageResult}

theorem readTotal_meets {total : Nat} {bad : ErrorInfo → ReconciliationDb → Prop}
    (failed : bad reconciliationFailed before) :
    Meets (fun value after => value = total ∧ after = before) bad (readTotal total) before := by
  unfold readTotal
  split
  · exact ⟨rfl, rfl⟩
  · exact failed

theorem addWithoutOverflow_meets {left right : Nat} {bad : ErrorInfo → ReconciliationDb → Prop}
    (failed : bad reconciliationFailed before) :
    Meets (fun value after => value = left + right ∧ after = before) bad (addWithoutOverflow left right)
      before := by
  unfold addWithoutOverflow
  split
  · exact failed
  · exact ⟨rfl, rfl⟩

/-- A round settles both findings of its user. -/
theorem scanUser_meets (swept : Swept origin.db.userVerdict start settled origin before)
    (started : start ≤ origin.db.now) (present : user ∈ origin.db.users.rows) :
    Meets (fun value after =>
        Swept origin.db.userVerdict start (reservedKey user :: usedKey user :: settled) origin after ∧
          value.nextAfterId = user.id)
      (fun _ after => ∃ more, Swept origin.db.userVerdict start (more ++ settled) origin after)
      (scanUser scanId page (origin.db.userTotals user)) before := by
  have none : ∃ more, Swept origin.db.userVerdict start (more ++ settled) origin before := ⟨[], swept⟩
  unfold scanUser
  apply meets_bind (readTotal_meets none)
  rintro _ _ ⟨rfl, rfl⟩
  apply meets_bind (readTotal_meets none)
  rintro _ _ ⟨rfl, rfl⟩
  apply meets_bind (readTotal_meets none)
  rintro _ _ ⟨rfl, rfl⟩
  apply meets_bind (addWithoutOverflow_meets none)
  rintro _ _ ⟨rfl, rfl⟩
  have used := (userVerdict_used present).symm
  have reserved := (userVerdict_reserved present).symm
  apply meets_bind ((settleFinding_meets swept started (decide_eq_true_iff.trans used)).weaken (fun _ _ done => done)
    fun _ _ stopped => ⟨[], stopped⟩)
  rintro checked middle ⟨once, cursor, -⟩
  apply (settleFinding_meets once started (decide_eq_true_iff.trans reserved)).weaken
  · rintro value after ⟨twice, kept, -⟩
    exact ⟨twice, kept.trans cursor⟩
  · intro _ _ stopped
    exact ⟨[usedKey user], stopped⟩

variable (origin start settled) in
/-- The rounds over some totals have settled their findings and stand at a user of the page. -/
def RoundsDone (taken : List User) (passed : List UserTotals) (value : ReconciliationPageResult)
    (after : ReconciliationDb) : Prop :=
  ∃ more, Swept origin.db.userVerdict start (more ++ settled) origin after ∧
    (∀ totals ∈ passed, usedKey totals.user ∈ more ∧ reservedKey totals.user ∈ more) ∧
    (value.nextAfterId = 0 ∨ ∃ user ∈ taken, user.id = value.nextAfterId)

/-- A page settles both findings of each of its users and stands at one of them. -/
theorem runUserPage_meets (swept : Swept origin.db.userVerdict start settled origin before)
    (started : start ≤ origin.db.now) :
    Meets (fun value after => ∃ more, Swept origin.db.userVerdict start (more ++ settled) origin after ∧
        (∀ user ∈ (origin.db.users.rowsAfter afterId).take limit, usedKey user ∈ more ∧ reservedKey user ∈ more) ∧
        (value.hasMore = true ↔ ((origin.db.users.rowsAfter afterId).take limit).length = limit) ∧
        (value.nextAfterId = 0 ∨
          ∃ user ∈ (origin.db.users.rowsAfter afterId).take limit, user.id = value.nextAfterId))
      (fun _ after => ∃ more, Swept origin.db.userVerdict start (more ++ settled) origin after)
      (runUserPage scanId afterId limit) before := by
  have rows : ((before.db.users.rowsAfter afterId).take limit).map before.db.userTotals =
      ((origin.db.users.rowsAfter afterId).take limit).map origin.db.userTotals := by
    rw [swept.db]
    rfl
  unfold runUserPage
  have read : Meets (fun state after => before = state ∧ before = after)
      (fun _ after => ∃ more, Swept origin.db.userVerdict start (more ++ settled) origin after)
      (get : Scan ReconciliationDb) before := ⟨rfl, rfl⟩
  apply meets_bind read
  rintro _ _ ⟨rfl, rfl⟩
  rw [rows]
  generalize users : (origin.db.users.rowsAfter afterId).take limit = taken
  have stored : ∀ user ∈ taken, user ∈ origin.db.users.rows := by
    intro user inside
    rw [← users] at inside
    exact (Table.mem_rowsAfter.mp (List.mem_of_mem_take inside)).1
  have looped : Meets (RoundsDone origin start settled taken (taken.map origin.db.userTotals))
      (fun _ after => ∃ more, Swept origin.db.userVerdict start (more ++ settled) origin after)
      ((taken.map origin.db.userTotals).foldlM (scanUser scanId)
        { inspected := (taken.map origin.db.userTotals).length }) before := by
    apply meets_foldlM
    · rintro passed item later split value middle ⟨more, swept, all, -⟩
      have listed : item ∈ taken.map origin.db.userTotals := split ▸ List.mem_append_cons_self
      obtain ⟨user, inside, rfl⟩ := List.mem_map.mp listed
      apply (scanUser_meets swept started (stored user inside)).weaken
      · rintro next after ⟨done, cursor⟩
        refine ⟨reservedKey user :: usedKey user :: more, done, ?_, .inr ⟨user, inside, cursor.symm⟩⟩
        intro totals within
        rcases List.mem_append.mp within with early | last
        · have earlier := all totals early
          exact ⟨List.mem_cons_of_mem _ (List.mem_cons_of_mem _ earlier.1),
            List.mem_cons_of_mem _ (List.mem_cons_of_mem _ earlier.2)⟩
        · rw [List.mem_singleton.mp last]
          exact ⟨List.mem_cons_of_mem _ List.mem_cons_self, List.mem_cons_self⟩
      · rintro _ after ⟨part, stopped⟩
        exact ⟨part ++ more, by rw [List.append_assoc]; exact stopped⟩
    · exact ⟨[], swept, by simp, .inl rfl⟩
  apply meets_bind looped
  rintro value middle ⟨more, swept, all, stands⟩
  refine ⟨more, swept, fun user inside => all _ (List.mem_map_of_mem inside), ?_, stands⟩
  simp

/-- A scan settles the findings of every user behind its cursor, whatever pages it takes. -/
theorem UserScan.settles (scan : UserScan scanId limit afterId before after)
    (swept : Swept origin.db.userVerdict start settled origin before) (started : start ≤ origin.db.now) :
    ∃ more, Swept origin.db.userVerdict start (more ++ settled) origin after ∧
      ∀ user ∈ origin.db.users.rows, afterId < user.id →
        usedKey user ∈ more ++ settled ∧ reservedKey user ∈ more ++ settled := by
  induction scan generalizing settled with
  | @again afterId outcome before middle after later ran onwards rest ih =>
      have met := @runUserPage_meets origin before start settled scanId limit afterId swept started
      obtain ⟨more, paged⟩ : ∃ more, Swept origin.db.userVerdict start (more ++ settled) origin middle := by
        have either := met.imp (fun value after done => (⟨done.choose, done.choose_spec.1⟩ :
          ∃ more, Swept origin.db.userVerdict start (more ++ settled) origin after))
        exact either.ends ran
      obtain ⟨others, ended, all⟩ := ih (paged.tick onwards)
      rw [← List.append_assoc] at ended all
      exact ⟨others ++ more, ended, all⟩
  | @last afterId page before after ran ended =>
      have met := @runUserPage_meets origin before start settled scanId limit afterId swept started
      obtain ⟨more, paged, all, full, -⟩ := met.ok ran
      refine ⟨more, paged, ?_⟩
      intro user present behind
      have short : ¬ ((origin.db.users.rowsAfter afterId).take limit).length = limit := by
        rw [← full, ended]
        exact Bool.false_ne_true
      have whole : (origin.db.users.rowsAfter afterId).take limit = origin.db.users.rowsAfter afterId := by
        apply List.take_of_length_le
        rw [List.length_take] at short
        omega
      have settles := all user (by rw [whole]; exact Table.mem_rowsAfter.mpr ⟨present, behind⟩)
      exact ⟨List.mem_append_left _ settles.1, List.mem_append_left _ settles.2⟩
  | @more afterId page before middle after later ran full onwards rest ih =>
      have met := @runUserPage_meets origin before start settled scanId limit afterId swept started
      obtain ⟨more, paged, here, -, stands⟩ := met.ok ran
      obtain ⟨others, ended, all⟩ := ih (paged.tick onwards)
      rw [← List.append_assoc] at ended all
      refine ⟨others ++ more, ended, ?_⟩
      intro user present behind
      by_cases taken : user ∈ (origin.db.users.rowsAfter afterId).take limit
      · have settles := here user taken
        exact ⟨List.mem_append_left _ (List.mem_append_right _ settles.1),
          List.mem_append_left _ (List.mem_append_right _ settles.2)⟩
      · apply all user present
        rcases stands with zero | ⟨other, inside, keyed⟩
        · rw [zero]
          exact Nat.zero_lt_of_lt behind
        · rw [← keyed]
          exact (Table.lt_of_untaken Table.rowsAfter_ascends (Table.mem_rowsAfter.mpr ⟨present, behind⟩) taken).2 _ inside

/-- After a complete scan the open findings of a user tell which of its counters are wrong. -/
theorem userScan_open_iff (scan : UserScan scanId limit 0 before after) (present : user ∈ before.db.users.rows) :
    (Open after.findings (usedKey user) ↔ before.db.UsedWrong user) ∧
      (Open after.findings (reservedKey user) ↔ before.db.ReservedWrong user) := by
  obtain ⟨more, swept, all⟩ := scan.settles (Swept.refl before) (Int.le_refl _)
  obtain ⟨used, reserved⟩ := all user present (before.db.users.bounded user present).1
  constructor
  · rw [swept.opened _ used, userVerdict_used present]
  · rw [swept.opened _ reserved, userVerdict_reserved present]

end Users

section Reachable

variable {world : World} {user : User}

theorem asUInt64_natCast (number : Nat) : asUInt64 (number : Int) = number := by
  simp [asUInt64]

/-- The bytes of the uploads that hold a reservation. -/
theorem activeUploadReservedBytes_eq (db : Db) (userId : Nat) :
    db.activeUploadReservedBytes userId = (db.tasks.rows.map (heldBytes userId)).sum := by
  unfold Db.activeUploadReservedBytes heldBytes
  induction db.tasks.rows with
  | nil => rfl
  | cons task rest ih =>
      by_cases owned : task.userId = userId
      · cases active : task.active <;> simp [owned, active, ih]
      · simp [owned, ih]

/-- In a reachable world the used bytes are never wrong. -/
theorem usedWrong_iff (reachable : driveSystem.Reachable world) (present : user ∈ world.db.users.rows) :
    ¬ world.db.UsedWrong user := by
  have exactly := (World.inv_of_reachable reachable).storageUsed present
  unfold Db.UsedWrong
  rw [exactly, ← Nat.cast_add, asUInt64_natCast]
  exact not_not_intro rfl

/-- In a reachable world the reserved bytes exceed those of the uploads by those of the running copies. -/
theorem reservedWrong_iff (reachable : driveSystem.Reachable world) (present : user ∈ world.db.users.rows) :
    world.db.ReservedWrong user ↔ world.copyBytes user.id ≠ 0 := by
  have inv := World.inv_of_reachable reachable
  have exactly := inv.storageReserved user.id
  rw [Table.find?_eq_some_iff.mpr ⟨present, rfl⟩, ← activeUploadReservedBytes_eq] at exactly
  have held : user.storageReserved =
      (world.db.activeUploadReservedBytes user.id : Int) + world.copyBytes user.id := exactly
  have copies : 0 ≤ world.copyBytes user.id :=
    sum_map_nonneg fun run there => inv.outstanding_nonneg (List.mem_of_mem_filter there)
  obtain ⟨bytes, copied⟩ := Int.eq_ofNat_of_zero_le copies
  unfold Db.ReservedWrong
  rw [held, copied, ← Nat.cast_add, asUInt64_natCast]
  omega

end Reachable

end DiskServer.Drive
