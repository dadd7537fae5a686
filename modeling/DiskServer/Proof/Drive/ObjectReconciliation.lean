import DiskServer.Proof.Drive.StoredObjects
import DiskServer.Proof.Drive.UserReconciliation

namespace DiskServer.Drive

open Library Autocommit Storage
open Upload (Timestamp)

section Scans

variable (services : ObjectServices) (request : Jobs.ReconciliationPageRequest)

/-- The objects that the scan of a request lists from its continuation token on. -/
def Stored (object : StorageInventoryObject) : Prop :=
  ∃ inventory, services.inventory request.scope = some inventory ∧
    Listed inventory request.limit.toNat request.continuationToken object

/-- The key under which a finding about an object is stored. -/
def objectKey (object : StorageInventoryObject) : String × String :=
  (orphanType request.scope, buildObjectResourceId services object.locator)

/-- What a scan of the stored objects has to report. -/
def objectVerdict (db : Db) (key : String × String) : Prop :=
  ∃ object, Stored services request object ∧ key = objectKey services request object ∧
    ¬ db.Refers request.scope object.locator

/-- The request of a later page of the same scan. -/
def pageRequest (token : String) : Jobs.ReconciliationPageRequest := { request with continuationToken := token }

/-- The creation time of the first job of the scan, as far as that job is recorded. -/
def startedAt (db : Db) : Option Timestamp :=
  match Jobs.buildStorageReconcileJob services.sha256 (firstPageRequest request) with
  | .error _ => none
  | .ok firstJob => scanStart services request db firstJob

/-- What a scan of the stored objects relies on: the digests of the objects differ, and the patterns of the
uploads match themselves. -/
structure Scannable (db : Db) : Prop where
  digests : ∀ first second, Stored services request first → Stored services request second →
    buildObjectResourceId services first.locator = buildObjectResourceId services second.locator →
    first.locator = second.locator
  patterns : request.scope = .staging → ∀ object, Stored services request object →
    ∀ task ∈ db.tasks.rows, task.status = .finalizing → task.stagingBackend = .s3 →
      MatchesItself task.stagingPrefix object.locator

variable {services request} in
/-- A scan of the uploads that are staged in S3 under the configured prefix needs different digests only. -/
theorem scannable_configured {db : Db} {configuredObject configuredStaging : String} {prefixes : S3Prefixes}
    {listObjects : String → String → Nat → Except ErrorInfo S3ListResult}
    {headObject : String → Except ErrorInfo (Option Nat)}
    (loaded : loadPrefixes configuredObject configuredStaging = .ok prefixes)
    (remote : services.stagingStorage =
      some (listS3Inventory listObjects headObject (prefixes.stagingPrefix ++ "/")))
    (sessions : ∀ task ∈ db.tasks.rows, task.stagingBackend = .s3 →
      task.stagingPrefix = (stagingSession prefixes.stagingPrefix task.id).stagingPrefix ∧
        ∀ character ∈ task.id.toList, character ≠ '%' ∧ character ≠ '_' ∧ character ≠ '\\')
    (digests : ∀ first second, Stored services request first → Stored services request second →
      buildObjectResourceId services first.locator = buildObjectResourceId services second.locator →
      first.locator = second.locator) : Scannable services request db where
  digests := digests
  patterns := by
    rintro staging object ⟨inventory, configured, listed⟩ task present - s3
    obtain ⟨session, plain⟩ := sessions task present s3
    rw [ObjectServices.inventory, if_pos staging, remote] at configured
    obtain rfl := Option.some.inj configured
    rw [session]
    exact matchesItself_configured loaded plain (listed_remote_startsWith listed)

variable {services request} {origin before middle after : ReconciliationDb} {start : Timestamp}

variable (services request origin start) in
/-- The findings of some objects are settled, and those of other things are not. -/
def Inspected (done : StorageInventoryObject → Prop) (after : ReconciliationDb) : Prop :=
  ∃ settled, Swept (objectVerdict services request origin.db) start settled origin after ∧
    (∀ object, done object → objectKey services request object ∈ settled) ∧
    ∀ key ∈ settled, ∃ object, Stored services request object ∧ key = objectKey services request object

variable {done more : StorageInventoryObject → Prop} {object : StorageInventoryObject}

theorem Inspected.mono (inspected : Inspected services request origin start done after)
    (fewer : ∀ object, more object → done object) : Inspected services request origin start more after := by
  obtain ⟨settled, swept, all, only⟩ := inspected
  exact ⟨settled, swept, fun object inside => all object (fewer object inside), only⟩

theorem Inspected.tick (inspected : Inspected services request origin start done before) {later : Timestamp}
    (onwards : before.db.now ≤ later) :
    Inspected services request origin start done (before.atTime later) := by
  obtain ⟨settled, swept, all, only⟩ := inspected
  exact ⟨settled, swept.tick onwards, all, only⟩

theorem objectVerdict_iff (scannable : Scannable services request origin.db)
    (stored : Stored services request object) :
    objectVerdict services request origin.db (objectKey services request object) ↔
      ¬ origin.db.Refers request.scope object.locator := by
  constructor
  · rintro ⟨other, there, same, unreferenced⟩
    rw [scannable.digests object other stored there (Prod.mk.inj same).2]
    exact unreferenced
  · intro unreferenced
    exact ⟨object, stored, rfl, unreferenced⟩

/-- A round settles the finding of its object. -/
theorem settleObject_meets {page : ReconciliationPageResult} (scannable : Scannable services request origin.db)
    (inspected : Inspected services request origin start done before) (started : start ≤ origin.db.now)
    (stored : Stored services request object) :
    Meets (fun value after =>
        Inspected services request origin start (fun other => done other ∨ other = object) after ∧
          value.hasMore = page.hasMore)
      (fun _ after => Inspected services request origin start done after)
      (settleFinding (!objectReferenced origin.db object.locator request.scope)
        (orphanFinding services request object) page) before := by
  obtain ⟨settled, swept, all, only⟩ := inspected
  have right : (!objectReferenced origin.db object.locator request.scope) = true ↔
      objectVerdict services request origin.db (objectKey services request object) := by
    rw [objectVerdict_iff scannable stored, Bool.not_eq_true', ← Bool.not_eq_true]
    apply not_congr
    exact objectReferenced_iff fun staging => scannable.patterns staging object stored
  have met := @settleFinding_meets _ start settled origin before _ (orphanFinding services request object) page
    swept started right
  apply met.weaken
  · rintro value after ⟨done, -, more⟩
    refine ⟨⟨_, done, ?_, ?_⟩, more⟩
    · rintro other (early | rfl)
      · exact List.mem_cons_of_mem _ (all other early)
      · exact List.mem_cons_self
    · intro key inside
      rcases List.mem_cons.mp inside with rfl | early
      · exact ⟨object, stored, rfl⟩
      · exact only key early
  · intro _ after stopped
    exact ⟨settled, stopped, all, only⟩

theorem advanceClock_meets {bad : ErrorInfo → ReconciliationDb → Prop} {elapsed : Nat}
    (inspected : Inspected services request origin start done before) :
    Meets (fun _ after => Inspected services request origin start done after) bad (advanceClock elapsed)
      before := by
  have onwards : before.db.now ≤ before.db.now + elapsed := Int.le_add_of_nonneg_right (Int.natCast_nonneg elapsed)
  exact inspected.tick onwards

/-- The rounds over some objects settle the finding of each of them. -/
theorem inspectObjects_meets {page : ReconciliationPageResult} {objects : List StorageInventoryObject}
    {waits : Nat → Nat} {token : String} (scannable : Scannable services request origin.db)
    (inspected : Inspected services request origin start done before) (started : start ≤ origin.db.now)
    (stored : ∀ object ∈ objects, Stored services request object) :
    Meets (fun value after =>
        Inspected services request origin start (fun other => done other ∨ other ∈ objects) after ∧
          value.hasMore = page.hasMore)
      (fun _ after => Inspected services request origin start done after)
      (inspectObjects services (pageRequest request token)
        (fun locator => objectReferenced origin.db locator request.scope) waits objects page) before := by
  induction objects generalizing before page done with
  | nil => exact ⟨inspected.mono fun object early => early.resolve_right List.not_mem_nil, rfl⟩
  | cons object rest ih =>
      obtain ⟨first, others⟩ := List.forall_mem_cons.mp stored
      unfold inspectObjects
      apply meets_bind (advanceClock_meets inspected)
      intro _ middle inspected
      apply meets_bind (settleObject_meets scannable inspected started first)
      rintro checked middle ⟨settled, same⟩
      apply (ih settled others).weaken
      · rintro value after ⟨all, kept⟩
        refine ⟨all.mono ?_, kept.trans same⟩
        rintro other (early | inside)
        · exact .inl (.inl early)
        · rcases List.mem_cons.mp inside with rfl | late
          · exact .inl (.inr rfl)
          · exact .inr late
      · intro _ after stopped
        exact stopped.mono fun object early => .inl early

variable (services request origin start) in
/-- The scan has closed the earlier findings that were last seen before it began. -/
def StaleClosed (after : ReconciliationDb) : Prop :=
  startedAt services request origin.db = some start →
    ∀ resourceId, Open after.findings (orphanType request.scope, resourceId) →
      Recent after.findings start (orphanType request.scope, resourceId)

section Stale

variable {findings : FindingTable} {select : StoredFinding → Bool} {now : Timestamp} {key : String × String}
  {verdict : String × String → Prop} {settled : List (String × String)}

/-- What is open after some findings were resolved was not selected. -/
theorem find?_of_open_resolved {row : StoredFinding}
    (found : (resolveSelected findings select now).find? key = some row) (unresolved : row.resolvedAt = none) :
    findings.find? key = some row ∧ select row = false := by
  unfold resolveSelected at found
  rw [find?_resolve] at found
  obtain ⟨old, there, rfl⟩ := Option.map_eq_some_iff.mp found
  split at unresolved
  · cases unresolved
  · rename_i unselected
    rw [if_neg unselected]
    exact ⟨there, Bool.eq_false_of_not_eq_true unselected⟩

theorem find?_resolved_of_unselected {row : StoredFinding} (found : findings.find? key = some row)
    (unselected : select row = false) : (resolveSelected findings select now).find? key = some row := by
  unfold resolveSelected
  rw [find?_resolve, found, Option.map_some, if_neg (by rw [unselected]; exact Bool.false_ne_true)]

/-- Resolving findings that were last seen before the start changes nothing that a scan has settled. -/
theorem Swept.resolveStale (swept : Swept verdict start settled origin before)
    (stale : ∀ row, select row = true → row.lastSeenAt < start) :
    Swept verdict start settled origin
      { before with findings := resolveSelected before.findings select now } := by
  have fewer : ∀ key, Open (resolveSelected before.findings select now) key → Open before.findings key := by
    rintro key ⟨row, found, unresolved⟩
    exact ⟨row, (find?_of_open_resolved found unresolved).1, unresolved⟩
  have same : ∀ key, Recent (resolveSelected before.findings select now) start key ↔
      Recent before.findings start key := by
    intro key
    constructor
    · rintro ⟨row, found, unresolved, recent⟩
      exact ⟨row, (find?_of_open_resolved found unresolved).1, unresolved, recent⟩
    · rintro ⟨row, found, unresolved, recent⟩
      refine ⟨row, find?_resolved_of_unselected found ?_, unresolved, recent⟩
      exact Bool.eq_false_of_not_eq_true fun chosen => absurd (stale row chosen) (Int.not_lt.mpr recent)
  exact
    { db := swept.db
      clock := swept.clock
      opened := fun key inside =>
        ⟨fun isOpen => (swept.opened key inside).mp (fewer key isOpen), fun wrong =>
          ((same key).mpr (swept.fresh key inside ((swept.opened key inside).mpr wrong))).isOpen⟩
      fresh := fun key inside isOpen => (same key).mpr (swept.fresh key inside (fewer key isOpen))
      recent := fun key outside => (same key).trans (swept.recent key outside)
      left := fun key outside isOpen => swept.left key outside (fewer key isOpen) }

end Stale

/-- Closing the stale findings touches no recent one. -/
theorem resolveStale_meets {token : String} (inspected : Inspected services request origin start done before)
    (begun : ∀ time, startedAt services request origin.db = some time → time = start) :
    Meets (fun _ after => Inspected services request origin start done after ∧
        StaleClosed services request origin start after)
      (fun _ after => Inspected services request origin start done after)
      (resolveStaleObjectFindings services (pageRequest request token) (orphanType request.scope)) before := by
  have first : firstPageRequest (pageRequest request token) = firstPageRequest request := rfl
  unfold resolveStaleObjectFindings
  rw [first]
  cases built : Jobs.buildStorageReconcileJob services.sha256 (firstPageRequest request) with
  | error failure => exact meets_throw inspected
  | ok firstJob =>
      obtain ⟨settled, swept, all, only⟩ := inspected
      have began : scanStart services (pageRequest request token) before.db firstJob =
          startedAt services request origin.db := by
        unfold startedAt
        rw [built, swept.db]
        rfl
      apply (meets_modify rfl).imp
      rintro _ after rfl
      rw [began]
      cases time : startedAt services request origin.db with
      | none =>
          refine ⟨⟨settled, swept, all, only⟩, ?_⟩
          intro some
          rw [time] at some
          cases some
      | some moment =>
          obtain rfl := begun moment time
          have stale : ∀ row : StoredFinding, (row.findingType = orphanType request.scope &&
              row.resolvedAt.isNone && row.lastSeenAt < moment) = true → row.lastSeenAt < moment := by
            intro row chosen
            exact of_decide_eq_true (Bool.and_eq_true_iff.mp chosen).2
          refine ⟨⟨settled, swept.resolveStale stale, all, only⟩, ?_⟩
          rintro - resourceId ⟨row, found, unresolved⟩
          obtain ⟨there, unselected⟩ := find?_of_open_resolved found unresolved
          have typed : row.findingType = orphanType request.scope :=
            (Prod.mk.inj (Table.find?_some there).2).1
          refine ⟨row, found, unresolved, ?_⟩
          simpa [typed, unresolved] using unselected

/-- The objects from a token on are those of its page and, when there is more, those from the next token on. -/
theorem stored_iff {token : String} {inventory : StorageInventoryPage}
    (listed : listPage services (pageRequest request token) = .ok inventory) :
    Stored services (pageRequest request token) object ↔ object ∈ inventory.objects ∨
      (inventory.hasMore = true ∧
        Stored services (pageRequest request inventory.continuationToken) object) := by
  obtain ⟨list, configured, answered⟩ : ∃ list, services.inventory request.scope = some list ∧
      list token request.limit.toNat = .ok inventory := by
    unfold listPage at listed
    split at listed
    · cases listed
    · split at listed
      · cases listed
      · rename_i list configured
        exact ⟨list, configured, listed⟩
  constructor
  · rintro ⟨other, same, shown⟩
    obtain rfl := Option.some.inj (configured.symm.trans same)
    cases shown with
    | here answer inside =>
        obtain rfl := Except.ok.inj (answered.symm.trans answer)
        exact .inl inside
    | later answer full rest =>
        obtain rfl := Except.ok.inj (answered.symm.trans answer)
        exact .inr ⟨full, list, configured, rest⟩
  · rintro (inside | ⟨full, other, same, rest⟩)
    · exact ⟨list, configured, .here answered inside⟩
    · obtain rfl := Option.some.inj (configured.symm.trans same)
      exact ⟨list, configured, .later answered full rest⟩

/-- A page settles the finding of each of its objects, and the last page closes the stale ones. -/
theorem runObjectPage_meets {token : String} {waits : Nat → Nat} {inventory : StorageInventoryPage}
    (scannable : Scannable services request origin.db)
    (inspected : Inspected services request origin start done before) (started : start ≤ origin.db.now)
    (begun : ∀ time, startedAt services request origin.db = some time → time = start)
    (listed : listPage services (pageRequest request token) = .ok inventory)
    (stored : ∀ object ∈ inventory.objects, Stored services request object) :
    Meets (fun value after =>
        Inspected services request origin start (fun other => done other ∨ other ∈ inventory.objects) after ∧
          value.hasMore = inventory.hasMore ∧ value.nextContinuationToken = inventory.continuationToken ∧
          (inventory.hasMore = false → StaleClosed services request origin start after))
      (fun _ after => Inspected services request origin start done after)
      (runObjectPage services (pageRequest request token) waits) before := by
  have same : (fun locator => objectReferenced before.db locator (pageRequest request token).scope) =
      fun locator => objectReferenced origin.db locator request.scope := by
    obtain ⟨settled, swept, -⟩ := inspected
    rw [swept.db]
    rfl
  unfold runObjectPage
  rw [listed]
  have read : Meets (fun state after => before = state ∧ before = after)
      (fun _ after => Inspected services request origin start done after)
      (get : Scan ReconciliationDb) before := ⟨rfl, rfl⟩
  apply meets_bind read
  rintro _ _ ⟨rfl, rfl⟩
  rw [same]
  apply meets_bind (inspectObjects_meets scannable inspected started stored)
  rintro page middle ⟨all, more⟩
  have earlier : ∀ (state : ReconciliationDb),
      Inspected services request origin start (fun other => done other ∨ other ∈ inventory.objects) state →
      Inspected services request origin start done state :=
    fun state inspected => inspected.mono fun object early => .inl early
  cases full : inventory.hasMore with
  | false =>
      rw [if_pos rfl]
      apply meets_bind ((resolveStale_meets all begun).weaken (fun _ _ closed => closed)
        fun _ after stopped => earlier after stopped)
      rintro _ after ⟨kept, closed⟩
      exact ⟨kept, more.trans full, rfl, fun _ => closed⟩
  | true =>
      rw [if_neg (by decide)]
      exact ⟨all, more.trans full, rfl, fun ended => absurd ended (by decide)⟩

theorem listPage_of_ok {paged : Jobs.ReconciliationPageRequest} {waits : Nat → Nat} {page : ObjectPageResult}
    (ran : (runObjectPage services paged waits).outcome before = (.ok page, after)) :
    ∃ inventory, listPage services paged = .ok inventory := by
  cases listed : listPage services paged with
  | error failure =>
      unfold runObjectPage at ran
      rw [listed, outcome_throw] at ran
      cases ran
  | ok inventory => exact ⟨inventory, rfl⟩

/-- A page keeps what is settled even when it fails. -/
theorem runObjectPage_keeps {token : String} {waits : Nat → Nat}
    (scannable : Scannable services request origin.db)
    (inspected : Inspected services request origin start done before) (started : start ≤ origin.db.now)
    (begun : ∀ time, startedAt services request origin.db = some time → time = start)
    (stored : ∀ object, Stored services (pageRequest request token) object → Stored services request object) :
    Meets (fun _ after => Inspected services request origin start done after)
      (fun _ after => Inspected services request origin start done after)
      (runObjectPage services (pageRequest request token) waits) before := by
  cases listed : listPage services (pageRequest request token) with
  | error failure =>
      unfold runObjectPage
      rw [listed]
      exact meets_throw inspected
  | ok inventory =>
      apply (runObjectPage_meets scannable inspected started begun listed fun object inside =>
        stored object ((stored_iff listed).mpr (.inl inside))).imp
      rintro value after ⟨all, -⟩
      exact all.mono fun object early => .inl early

theorem interruptedPage_meets {token : String} {waits : Nat → Nat} {count : Nat}
    (scannable : Scannable services request origin.db)
    (inspected : Inspected services request origin start done before) (started : start ≤ origin.db.now)
    (stored : ∀ object, Stored services (pageRequest request token) object → Stored services request object) :
    Meets (fun _ after => Inspected services request origin start done after)
      (fun _ after => Inspected services request origin start done after)
      (interruptedPage services (pageRequest request token) waits count) before := by
  have same : (fun locator => objectReferenced before.db locator (pageRequest request token).scope) =
      fun locator => objectReferenced origin.db locator request.scope := by
    obtain ⟨settled, swept, -⟩ := inspected
    rw [swept.db]
    rfl
  unfold interruptedPage
  cases listed : listPage services (pageRequest request token) with
  | error failure => exact meets_throw inspected
  | ok inventory =>
      have shown : ∀ object ∈ inventory.objects.take count, Stored services request object := by
        intro object inside
        exact stored object ((stored_iff listed).mpr (.inl (List.mem_of_mem_take inside)))
      have read : Meets (fun state after => before = state ∧ before = after)
          (fun _ after => Inspected services request origin start done after)
          (get : Scan ReconciliationDb) before := ⟨rfl, rfl⟩
      apply meets_bind read
      rintro _ _ ⟨rfl, rfl⟩
      rw [same]
      apply meets_bind (inspectObjects_meets scannable inspected started shown)
      rintro page middle ⟨all, -⟩
      exact all.mono fun object early => .inl early

/-- A scan settles the findings of the objects from its token on, whatever pages are run again. -/
theorem ObjectScan.settles {token : String} {paged : Jobs.ReconciliationPageRequest}
    (scan : ObjectScan services paged before after) (same : paged = pageRequest request token)
    (scannable : Scannable services request origin.db)
    (inspected : Inspected services request origin start done before) (started : start ≤ origin.db.now)
    (begun : ∀ time, startedAt services request origin.db = some time → time = start)
    (stored : ∀ object, Stored services (pageRequest request token) object → Stored services request object) :
    Inspected services request origin start
        (fun object => done object ∨ Stored services (pageRequest request token) object) after ∧
      StaleClosed services request origin start after := by
  induction scan generalizing token done with
  | interrupted ran onwards rest ih =>
      obtain rfl := same
      have kept := (interruptedPage_meets scannable inspected started stored).ends ran
      exact ih rfl (kept.tick onwards) stored
  | again ran onwards rest ih =>
      obtain rfl := same
      have kept := (runObjectPage_keeps scannable inspected started begun stored).ends ran
      exact ih rfl (kept.tick onwards) stored
  | last ran ended =>
      obtain rfl := same
      obtain ⟨inventory, listed⟩ := listPage_of_ok ran
      obtain ⟨all, more, -, closed⟩ := (runObjectPage_meets scannable inspected started begun listed
        fun object inside => stored object ((stored_iff listed).mpr (.inl inside))).ok ran
      refine ⟨all.mono ?_, closed (more.symm.trans ended)⟩
      rintro object (early | here)
      · exact .inl early
      · rcases (stored_iff listed).mp here with inside | ⟨further, -⟩
        · exact .inr inside
        · exact absurd (further.symm.trans (more.symm.trans ended)) (by decide)
  | more ran full onwards rest ih =>
      obtain rfl := same
      obtain ⟨inventory, listed⟩ := listPage_of_ok ran
      obtain ⟨all, more, next, -⟩ := (runObjectPage_meets scannable inspected started begun listed
        fun object inside => stored object ((stored_iff listed).mpr (.inl inside))).ok ran
      have further : inventory.hasMore = true := more.symm.trans full
      obtain ⟨everything, closed⟩ := @ih _ inventory.continuationToken (by rw [next]; rfl) (all.tick onwards)
        fun object later => stored object ((stored_iff listed).mpr (.inr ⟨further, later⟩))
      refine ⟨everything.mono ?_, closed⟩
      rintro object (early | here)
      · exact .inl (.inl early)
      · rcases (stored_iff listed).mp here with inside | ⟨-, later⟩
        · exact .inl (.inr inside)
        · exact .inr later

/-- An open finding that no scan closes which began at a time: none of the scans when the time is unknown. -/
def Kept (findings : FindingTable) (began : Option Timestamp) (key : String × String) : Prop :=
  ∃ row, findings.find? key = some row ∧ row.resolvedAt = none ∧ ∀ time, began = some time → time ≤ row.lastSeenAt

theorem exists_le_all (times : List Timestamp) (now : Timestamp) :
    ∃ low ≤ now, ∀ time ∈ times, low ≤ time := by
  induction times with
  | nil => exact ⟨now, Int.le_refl _, fun _ inside => absurd inside List.not_mem_nil⟩
  | cons first rest ih =>
      obtain ⟨low, early, least⟩ := ih
      refine ⟨min low first, (Int.min_le_left low first).trans early, ?_⟩
      intro time inside
      rcases List.mem_cons.mp inside with rfl | later
      · exact Int.min_le_right low time
      · exact (Int.min_le_left low first).trans (least time later)

/-- A start of the scan that its findings can be measured by. -/
theorem exists_start (findings : FindingTable) (began : Option Timestamp) (now : Timestamp)
    (past : ∀ time, began = some time → time ≤ now) :
    ∃ start ≤ now, (∀ time, began = some time → time = start) ∧
      ∀ key, Kept findings began key ↔ Recent findings start key := by
  cases began with
  | some time =>
      refine ⟨time, past time rfl, fun other same => (Option.some.inj same).symm, fun key => ?_⟩
      simp [Kept, Recent]
  | none =>
      obtain ⟨low, early, least⟩ := exists_le_all (findings.rows.map StoredFinding.lastSeenAt) now
      refine ⟨low, early, fun _ impossible => (by cases impossible), fun key => ?_⟩
      unfold Kept Recent
      apply exists_congr
      intro row
      apply and_congr_right
      intro found
      apply and_congr_right
      intro _
      have seen := least row.lastSeenAt (List.mem_map_of_mem (Table.find?_some found).1)
      simp [seen]

/-- After a complete scan the open findings are those about unreferenced listed objects, and earlier ones
that were seen since the scan began. -/
theorem objectScan_open_iff (scan : ObjectScan services request before after)
    (scannable : Scannable services request before.db)
    (past : ∀ time, startedAt services request before.db = some time → time ≤ before.db.now)
    (resourceId : String) :
    Open after.findings (orphanType request.scope, resourceId) ↔
      (∃ object, Stored services request object ∧ buildObjectResourceId services object.locator = resourceId ∧
        ¬ before.db.Refers request.scope object.locator) ∨
      ((∀ object, Stored services request object →
          buildObjectResourceId services object.locator ≠ resourceId) ∧
        Kept before.findings (startedAt services request before.db) (orphanType request.scope, resourceId)) := by
  obtain ⟨start, started, begun, kept⟩ :=
    exists_start before.findings (startedAt services request before.db) before.db.now past
  have whole : pageRequest request request.continuationToken = request := rfl
  have fresh : Inspected services request before start (fun _ => False) before :=
    ⟨[], Swept.refl before, fun _ impossible => impossible.elim, fun _ inside => absurd inside List.not_mem_nil⟩
  obtain ⟨⟨settled, swept, all, only⟩, closed⟩ :=
    scan.settles whole.symm scannable fresh started begun fun object stored => stored
  by_cases listed : ∃ object, Stored services request object ∧
      buildObjectResourceId services object.locator = resourceId
  · obtain ⟨object, stored, rfl⟩ := listed
    have inside := all object (.inr stored)
    rw [objectKey] at inside
    rw [swept.opened _ inside]
    constructor
    · rintro ⟨other, there, keyed, unreferenced⟩
      exact .inl ⟨other, there, (Prod.mk.inj keyed).2.symm, unreferenced⟩
    · rintro (⟨other, there, keyed, unreferenced⟩ | ⟨others, -⟩)
      · exact ⟨other, there, by rw [objectKey, keyed], unreferenced⟩
      · exact absurd rfl (others object stored)
  · have unlisted : ∀ object, Stored services request object →
        buildObjectResourceId services object.locator ≠ resourceId :=
      fun object stored keyed => listed ⟨object, stored, keyed⟩
    have outside : (orphanType request.scope, resourceId) ∉ settled := by
      intro inside
      obtain ⟨object, stored, keyed⟩ := only _ inside
      exact unlisted object stored (Prod.mk.inj keyed).2.symm
    constructor
    · intro isOpen
      refine .inr ⟨unlisted, ?_⟩
      cases began : startedAt services request before.db with
      | none =>
          obtain ⟨row, found, unresolved⟩ := swept.left _ outside isOpen
          exact ⟨row, found, unresolved, fun _ impossible => by cases impossible⟩
      | some time =>
          obtain rfl := begun time began
          rw [← began, kept]
          exact (swept.recent _ outside).mp (closed began resourceId isOpen)
    · rintro (⟨object, stored, keyed, -⟩ | ⟨-, keeps⟩)
      · exact absurd keyed (unlisted object stored)
      · exact ((swept.recent _ outside).mpr ((kept _).mp keeps)).isOpen

end Scans

section Final

/-- One referenced file and one that no row refers to. -/
def finalTree : LocalTree := ⟨[("sha256/aa/one", 3), ("sha256/bb/two", 4)], by decide, by decide +kernel⟩

def finalDigest (text : String) : String :=
  if text = "final\n0\n" then "6bcef18261274e5171f2fe92a8a5af94b52bb5b0edae626f30cfeec0b8bab546"
  else if text = "/data/sha256/aa/one" then "7334ec8358a817b7f948ea510ccaa4816d3f8e2cb57a48ad0fa29446b6c4d732"
  else if text = "/data/sha256/bb/two" then "d715882dfef26022406c7c7103948ba55aaaeedf8f2c5291a0334fb3ab41f7f9"
  else if text = "/data/sha256/cc/three" then "7574e1cad67c7fae341a2b17a6f9931e1ec391376e54490041a89657a557681a"
  else "0d23a1616a875af824eff969d9bdbb2ba05924e0a0a5f01a4c77c9b7e098e0cc"

/-- A local storage whose jobs were created at time five. -/
def finalServices : ObjectServices where
  stagingStorage := none
  blobStore := some (listLocalStorageInventory "/data" (.ok (some finalTree)) .includeRoot)
  sha256 := finalDigest
  createdAt := fun _ => 5

def finalRequest : Jobs.ReconciliationPageRequest where
  scanId := "scan"
  scope := .final
  continuationToken := ""

def finalContent : FileContent := ⟨1, "", "", 3, "/data/sha256/aa/one", "", 1⟩

/-- An earlier finding about an object that is gone. -/
def goneFinding (locator : String) (seen : Timestamp) : StoredFinding :=
  { orphanFinding finalServices finalRequest ⟨locator, 2⟩ with occurrences := 1, lastSeenAt := seen, resolvedAt := none }

/-- A content, the first job of the scan, and two findings about objects that are gone. -/
def finalState : ReconciliationDb where
  db := { Db.empty with
    contents := Serial.empty.insert (fun id => { finalContent with id := id }) fun _ => rfl
    jobs := (Table.empty.insertNew
      ((Jobs.storageReconcileJob finalDigest finalRequest).row 5 1)).getD Table.empty
    now := 9 }
  findings := ((Table.empty.insertNew (goneFinding "/data/sha256/cc/three" 7)).bind fun findings =>
    findings.insertNew (goneFinding "/data/sha256/dd/four" 2)).getD Table.empty

theorem finalStored {object : StorageInventoryObject} : Stored finalServices finalRequest object ↔
    object = ⟨"/data/sha256/aa/one", 3⟩ ∨ object = ⟨"/data/sha256/bb/two", 4⟩ := by
  have fits : "/data" ≠ "" ∧ (100 : Nat) ≠ 0 ∧ 100 ≤ maxStorageInventoryPageSize := by decide
  have listed := @listed_local_iff finalTree "/data" .includeRoot 100 object fits
  have named : (∃ file ∈ finalTree.files, object = listedFile .includeRoot "/data" file) ↔
      object = listedFile .includeRoot "/data" ("sha256/aa/one", 3) ∨
        object = listedFile .includeRoot "/data" ("sha256/bb/two", 4) := by
    simp [finalTree]
  rw [named] at listed
  constructor
  · rintro ⟨inventory, configured, shown⟩
    obtain rfl := Option.some.inj configured
    exact listed.mp shown
  · intro either
    exact ⟨_, rfl, listed.mpr either⟩

theorem finalScannable : Scannable finalServices finalRequest finalState.db where
  digests := by
    intro first second one two same
    rcases finalStored.mp one with rfl | rfl <;> rcases finalStored.mp two with rfl | rfl
    · rfl
    · exact absurd same (by decide +kernel)
    · exact absurd same (by decide +kernel)
    · rfl
  patterns staging := absurd staging (by decide)

/-- The final objects can be scanned to the end. -/
theorem finalScan : ∃ after, ObjectScan finalServices finalRequest finalState after := by
  obtain ⟨page, after, ran, ended⟩ := @exists_of_succeeds _ _ _ finalState
    (runObjectPage finalServices finalRequest fun _ => 0) (fun page _ => !page.hasMore) (by decide +kernel)
  exact ⟨after, .last ran (by simpa using ended)⟩

theorem finalRefers {locator : String} :
    finalState.db.Refers finalRequest.scope locator ↔ locator = "/data/sha256/aa/one" := by
  have rows : finalState.db.contents.rows = [finalContent] := rfl
  have other : ¬ finalRequest.scope = .staging := by decide
  rw [Db.Refers, if_neg other, Db.RefersFinal, rows]
  simp [finalContent, eq_comm]

end Final

section Results

/-- After a complete scan used bytes are reported exactly when they differ from files and trash, reserved
bytes exactly while they differ from the open uploads, and the open findings about objects are those about
unreferenced ones and earlier ones seen since the scan began. -/
theorem reconciliation_exact :
    (∀ (world : World) (findings : FindingTable) (scanId : String) (limit : Nat) (after : ReconciliationDb),
      driveSystem.Reachable world → UserScan scanId limit 0 ⟨world.db, findings⟩ after →
      ∀ user ∈ world.db.users.rows,
        (Open after.findings (usedKey user) ↔
          user.storageUsed ≠ world.db.fileBytes user.id + world.db.trashBytes user.id) ∧
        (Open after.findings (reservedKey user) ↔
          user.storageReserved ≠ ((world.db.tasks.rows.map (heldBytes user.id)).sum : Nat)) ∧
        (Open after.findings (reservedKey user) ↔ world.copyBytes user.id ≠ 0)) ∧
    (∀ (services : ObjectServices) (request : Jobs.ReconciliationPageRequest) (before after : ReconciliationDb),
      Scannable services request before.db →
      (∀ time, startedAt services request before.db = some time → time ≤ before.db.now) →
      ObjectScan services request before after →
      ∀ resourceId, Open after.findings (orphanType request.scope, resourceId) ↔
        (∃ object, Stored services request object ∧
          buildObjectResourceId services object.locator = resourceId ∧
          ¬ before.db.Refers request.scope object.locator) ∨
        ((∀ object, Stored services request object →
            buildObjectResourceId services object.locator ≠ resourceId) ∧
          Kept before.findings (startedAt services request before.db)
            (orphanType request.scope, resourceId))) ∧
    ∀ (root : String) (tree : LocalTree) (mode : LocalInventoryLocator) (limit : Nat)
      (object : StorageInventoryObject), root ≠ "" → limit ≠ 0 → limit ≤ maxStorageInventoryPageSize →
      (Listed (listLocalStorageInventory root (.ok (some tree)) mode) limit "" object ↔
        ∃ file ∈ tree.files, object = ⟨mode.locator root file.1, file.2⟩) := by
  refine ⟨?_, ?_, ?_⟩
  · intro world findings scanId limit after reachable scan user present
    obtain ⟨used, reserved⟩ := userScan_open_iff scan present
    have inv := World.inv_of_reachable reachable
    have copies := reservedWrong_iff reachable present
    refine ⟨?_, ?_, reserved.trans copies⟩
    · rw [used, iff_false_left (usedWrong_iff reachable present)]
      exact not_not_intro (inv.storageUsed present)
    · have exactly := inv.storageReserved user.id
      rw [Table.find?_eq_some_iff.mpr ⟨present, rfl⟩] at exactly
      have held : user.storageReserved =
          ((world.db.tasks.rows.map (heldBytes user.id)).sum : Nat) + world.copyBytes user.id := exactly
      rw [reserved, copies, held]
      omega
  · intro services request before after scannable past scan resourceId
    exact objectScan_open_iff scan scannable past resourceId
  · intro root tree mode limit object rooted positive bounded
    exact listed_local_iff ⟨rooted, positive, bounded⟩

/-- A complete scan of the users while a copy of the user holds five bytes. -/
theorem userScan_of_sharedContent : ∃ (world : World) (after : ReconciliationDb), ∃ user ∈ world.db.users.rows,
    driveSystem.Reachable world ∧ UserScan "scan" 100 0 ⟨world.db, Table.empty⟩ after ∧
    world.copyBytes user.id = 5 ∧
    user.storageUsed = world.db.fileBytes user.id + world.db.trashBytes user.id ∧
    user.storageReserved = ((world.db.tasks.rows.map (heldBytes user.id)).sum : Nat) + 5 := by
  obtain ⟨world, reachable, checked⟩ := driveSystem.exists_reachable_of_run sharedContent
    (fun world => (runUserPage "scan" 0 100).succeeds ⟨world.db, Table.empty⟩ (fun page _ => !page.hasMore) = true ∧
      ∃ user ∈ world.db.users.rows, world.copyBytes user.id = 5 ∧
        user.storageUsed = world.db.fileBytes user.id + world.db.trashBytes user.id ∧
        user.storageReserved = ((world.db.tasks.rows.map (heldBytes user.id)).sum : Nat) + 5) rfl (by decide +kernel)
  obtain ⟨passes, user, present, counters⟩ := of_decide_eq_true checked
  obtain ⟨page, after, ran, ended⟩ := exists_of_succeeds passes
  exact ⟨world, after, user, present, reachable, .last ran (by simpa using ended), counters⟩

/-- A world whose two scans are complete. -/
theorem reconciliation_exact_shared :
    (∃ (world : World) (after : ReconciliationDb), ∃ user ∈ world.db.users.rows, driveSystem.Reachable world ∧
      UserScan "scan" 100 0 ⟨world.db, Table.empty⟩ after ∧ ¬ Open after.findings (usedKey user) ∧
      Open after.findings (reservedKey user)) ∧
    ∃ after, ObjectScan finalServices finalRequest finalState after ∧
      Open after.findings (orphanFinalBlob, finalDigest "/data/sha256/bb/two") ∧
      ¬ Open after.findings (orphanFinalBlob, finalDigest "/data/sha256/aa/one") ∧
      ¬ Open after.findings (orphanFinalBlob, finalDigest "/data/sha256/dd/four") := by
  obtain ⟨users, objects, -⟩ := reconciliation_exact
  constructor
  · obtain ⟨world, after, user, present, reachable, scan, copied, used, -⟩ := userScan_of_sharedContent
    obtain ⟨usedRight, -, reservedRight⟩ := users world Table.empty "scan" 100 after reachable scan user present
    refine ⟨world, after, user, present, reachable, scan, ?_, ?_⟩
    · exact fun isOpen => usedRight.mp isOpen used
    · exact reservedRight.mpr (by rw [copied]; decide)
  · obtain ⟨after, scan⟩ := finalScan
    have right := objects finalServices finalRequest finalState after finalScannable
      (by decide +kernel) scan
    refine ⟨after, scan, ?_, ?_, ?_⟩
    · exact (right _).mpr (.inl ⟨_, finalStored.mpr (.inr rfl), rfl, mt finalRefers.mp (by decide +kernel)⟩)
    · intro isOpen
      rcases (right _).mp isOpen with ⟨object, stored, keyed, unreferenced⟩ | ⟨others, -⟩
      · rcases finalStored.mp stored with rfl | rfl
        · exact unreferenced (finalRefers.mpr rfl)
        · exact absurd keyed (by decide +kernel)
      · exact others _ (finalStored.mpr (.inl rfl)) rfl
    · intro isOpen
      rcases (right _).mp isOpen with ⟨object, stored, keyed, -⟩ | ⟨-, row, found, -, recent⟩
      · rcases finalStored.mp stored with rfl | rfl
        · exact absurd keyed (by decide +kernel)
        · exact absurd keyed (by decide +kernel)
      · have seen : (finalState.findings.find? (orphanFinalBlob, finalDigest "/data/sha256/dd/four")).map
            StoredFinding.lastSeenAt = some 2 := by decide +kernel
        have moment : row.lastSeenAt = 2 := Option.some.inj ((congrArg _ found).symm.trans seen)
        have late := recent 5 (by decide +kernel)
        rw [moment] at late
        exact absurd late (by decide)

/-- A running copy is reported, and a finding about an object that is not listed stays open when it was
seen since the scan began. -/
theorem reconciliation_reports_more :
    (¬ ∀ (world : World) (findings : FindingTable) (scanId : String) (limit : Nat) (after : ReconciliationDb),
      driveSystem.Reachable world → UserScan scanId limit 0 ⟨world.db, findings⟩ after →
      ∀ user ∈ world.db.users.rows,
        (Open after.findings (usedKey user) ∨ Open after.findings (reservedKey user)) ↔
          (user.storageUsed ≠ world.db.fileBytes user.id + world.db.trashBytes user.id ∨
            user.storageReserved ≠
              ((world.db.tasks.rows.map (heldBytes user.id)).sum : Nat) + world.copyBytes user.id)) ∧
    ¬ ∀ (services : ObjectServices) (request : Jobs.ReconciliationPageRequest) (before after : ReconciliationDb),
      Scannable services request before.db →
      (∀ time, startedAt services request before.db = some time → time ≤ before.db.now) →
      ObjectScan services request before after →
      ∀ resourceId, Open after.findings (orphanType request.scope, resourceId) ↔
        ∃ object, Stored services request object ∧
          buildObjectResourceId services object.locator = resourceId ∧
          ¬ before.db.Refers request.scope object.locator := by
  constructor
  · intro exactly
    obtain ⟨world, after, user, present, reachable, scan, copied, used, reserved⟩ := userScan_of_sharedContent
    have wrong := (reservedWrong_iff reachable present).mpr (by rw [copied]; decide)
    have reported := (userScan_open_iff scan present).2.mpr wrong
    rcases (exactly world _ _ _ after reachable scan user present).mp (.inr reported) with first | second
    · exact first used
    · exact second (by rw [copied]; exact reserved)
  · intro exactly
    obtain ⟨after, scan⟩ := finalScan
    have past : ∀ time, startedAt finalServices finalRequest finalState.db = some time →
        time ≤ finalState.db.now := by decide +kernel
    have kept : Kept finalState.findings (startedAt finalServices finalRequest finalState.db)
        (orphanFinalBlob, finalDigest "/data/sha256/cc/three") := by
      have there : (finalState.findings.find? (orphanFinalBlob, finalDigest "/data/sha256/cc/three")).any
          (fun row => row.resolvedAt.isNone && 5 ≤ row.lastSeenAt) = true := by decide +kernel
      have began : startedAt finalServices finalRequest finalState.db = some 5 := by decide +kernel
      obtain ⟨row, found, passes⟩ := (Option.any_eq_true _ _).mp there
      obtain ⟨unresolved, seen⟩ := Bool.and_eq_true_iff.mp passes
      refine ⟨row, found, Option.isNone_iff_eq_none.mp unresolved, fun time same => ?_⟩
      obtain rfl := Option.some.inj (began.symm.trans same)
      exact of_decide_eq_true seen
    have unlisted : ∀ object, Stored finalServices finalRequest object →
        buildObjectResourceId finalServices object.locator ≠ finalDigest "/data/sha256/cc/three" := by
      intro object stored
      rcases finalStored.mp stored with rfl | rfl
      · decide +kernel
      · decide +kernel
    have isOpen := (objectScan_open_iff scan finalScannable past _).mpr (.inr ⟨unlisted, kept⟩)
    obtain ⟨object, stored, keyed, -⟩ :=
      (exactly finalServices finalRequest finalState after finalScannable past scan _).mp isOpen
    exact unlisted object stored keyed

end Results

end DiskServer.Drive
