import DiskServer.Construction.Drive.StorageReconciliation
import DiskServer.Proof.Drive.TrashHistory
import DiskServer.Library.Separator

namespace DiskServer.Drive

open Library Transaction Jobs Autocommit
open Upload (Timestamp)

/-- The trashed files whose content only their stored data names. -/
def Db.legacyReferences (db : Db) (contentId : Nat) : Nat :=
  db.trash.rows.countP fun row => row.itemType = .file ∧ row.contentId ≠ some contentId ∧
    row.resolvedContentId = some contentId

/-- The references that the query of a page does not count. -/
def Db.hiddenReferences (db : Db) (contentId : Nat) : Nat :=
  db.legacyReferences contentId + db.snapshotReferences contentId

/-- All references to a content, in files, trash rows and snapshots. -/
def Db.references (db : Db) (contentId : Nat) : Nat :=
  db.fileReferences contentId + db.trashReferences contentId + db.snapshotReferences contentId

/-- Every count is the number of the references of all three kinds. -/
def Db.Lawful (db : Db) : Prop :=
  ∀ content ∈ db.contents.rows, content.refCount = (db.references content.id : Int)

/-- How often a finding has been recorded. -/
def occurrences (findings : FindingTable) (key : String × String) : Nat :=
  ((findings.find? key).map fun row => row.occurrences).getD 0

/-- How often the scans have reported a content. -/
def ReconciliationDb.mismatches (state : ReconciliationDb) (contentId : Nat) : Nat :=
  occurrences state.findings (contentRefCountMismatch, toString contentId)

/-- A scan is sound on a lawful state, and it reports every row that breaks the law. -/
structure ScanExact (before after : ReconciliationDb) : Prop where
  sound : before.db.Lawful → ∀ resourceId,
    occurrences after.findings (contentRefCountMismatch, resourceId) =
      occurrences before.findings (contentRefCountMismatch, resourceId)
  collected : before.db.Lawful → ∀ content ∈ before.db.contents.rows,
    after.db.jobs.find? (blobGcDedupeKey content.id) ≠
      before.db.jobs.find? (blobGcDedupeKey content.id) →
    before.db.fileReferences content.id = 0 ∧ before.db.trashReferences content.id = 0 ∧
      before.db.snapshotReferences content.id = 0
  complete : ∀ content ∈ before.db.contents.rows,
    content.refCount ≠ (before.db.references content.id : Int) →
    before.mismatches content.id < after.mismatches content.id

/-- A lawful state hides no reference, and no count is short by just the hidden references. -/
structure NothingHidden (db : Db) : Prop where
  lawful : db.Lawful → ∀ content ∈ db.contents.rows, db.hiddenReferences content.id = 0
  short : ∀ content ∈ db.contents.rows,
    content.refCount + db.hiddenReferences content.id = (db.references content.id : Int) →
    db.hiddenReferences content.id = 0

/-- What a scan leaves alone, and what it records and enqueues at most. -/
structure Scanned (before after : ReconciliationDb) : Prop where
  contents : after.db.contents = before.db.contents
  files : after.db.files = before.db.files
  trash : after.db.trash = before.db.trash
  seen : ∀ key, occurrences before.findings key ≤ occurrences after.findings key
  mismatched : ∀ resourceId, occurrences before.findings (contentRefCountMismatch, resourceId) <
      occurrences after.findings (contentRefCountMismatch, resourceId) →
    ∃ content ∈ before.db.contents.rows, toString content.id = resourceId ∧
      content.refCount ≠ before.db.actualRefCount content.id
  collected : ∀ contentId,
    after.db.jobs.find? (blobGcDedupeKey contentId) ≠ before.db.jobs.find? (blobGcDedupeKey contentId) →
    ∃ content ∈ before.db.contents.rows, content.id = contentId ∧ content.refCount = 0 ∧
      before.db.actualRefCount content.id = 0

namespace Scanned

variable {before middle after : ReconciliationDb}

theorem actualRefCount (scanned : Scanned before after) (contentId : Nat) :
    after.db.actualRefCount contentId = before.db.actualRefCount contentId := by
  unfold Db.actualRefCount
  rw [scanned.files, scanned.trash]

theorem refl (state : ReconciliationDb) : Scanned state state where
  contents := rfl
  files := rfl
  trash := rfl
  seen _ := Nat.le_refl _
  mismatched _ more := absurd more (Nat.lt_irrefl _)
  collected _ changed := absurd rfl changed

theorem trans (one : Scanned before middle) (two : Scanned middle after) : Scanned before after where
  contents := two.contents.trans one.contents
  files := two.files.trans one.files
  trash := two.trash.trans one.trash
  seen key := Nat.le_trans (one.seen key) (two.seen key)
  mismatched resourceId more := by
    rcases Nat.lt_or_ge (occurrences before.findings (contentRefCountMismatch, resourceId))
        (occurrences middle.findings (contentRefCountMismatch, resourceId)) with early | kept
    · exact one.mismatched resourceId early
    · have late := two.mismatched resourceId (Nat.lt_of_le_of_lt kept more)
      simpa only [one.contents, one.actualRefCount] using late
  collected contentId changed := by
    by_cases early : middle.db.jobs.find? (blobGcDedupeKey contentId) =
        before.db.jobs.find? (blobGcDedupeKey contentId)
    · have late := two.collected contentId (fun same => changed (same.trans early))
      simpa only [one.contents, one.actualRefCount] using late
    · exact one.collected contentId early

/-- The clock is no part of what a scan reads. -/
theorem tick (scanned : Scanned before middle) (later : Timestamp) :
    Scanned before { middle with db := { middle.db with now := later } } :=
  ⟨scanned.contents, scanned.files, scanned.trash, scanned.seen, scanned.mismatched, scanned.collected⟩

end Scanned

section Statements

variable {findings : FindingTable}

theorem upsertFinding_occurrences {fresh : StoredFinding} (once : fresh.occurrences = 1)
    (key : String × String) : occurrences (upsertFinding findings fresh) key =
      occurrences findings key + if key = fresh.key then 1 else 0 := by
  unfold upsertFinding Table.insertNew occurrences
  split
  · rename_i inserted fit
    split at fit
    · rename_i unused
      cases fit
      rw [Table.find?_add]
      by_cases same : key = fresh.key
      · have absent : findings.find? key = none :=
          Table.find?_eq_none_iff.mpr fun row present => same ▸ unused row present
        rw [if_pos same, if_pos same, absent]
        exact once
      · rw [if_neg same, if_neg same]
        rfl
    · cases fit
  · rename_i used
    split at used
    · cases used
    · rename_i held
      rw [Table.find?_update]
      by_cases same : key = fresh.key
      · obtain ⟨row, present, keyed⟩ : ∃ row ∈ findings.rows, row.key = fresh.key := by
          simpa using held
        have found : findings.find? key = some row :=
          Table.find?_eq_some_iff.mpr ⟨present, keyed.trans same.symm⟩
        rw [found, if_pos same]
        simp only [Option.map_some, if_pos same]
        rfl
      · rw [if_neg same]
        cases findings.find? key with
        | none => rfl
        | some row => simp only [Option.map_some, if_neg same, Nat.add_zero]

theorem resolve_occurrences (findings : FindingTable) (select : StoredFinding → Bool)
    (now : Timestamp) (key : String × String) :
    occurrences (findings.update select (fun row => row.resolved now)
        fun row => row.resolved_key now) key = occurrences findings key := by
  unfold occurrences
  rw [Table.find?_update_select]
  cases findings.find? key with
  | none => rfl
  | some row =>
      simp only [Option.map_some, Option.getD_some]
      split <;> rfl

variable {before : ReconciliationDb}

theorem resolveFinding_keeps (findingType resourceId : String) :
    Keeps Scanned before (resolveFinding findingType resourceId) where
  contents := rfl
  files := rfl
  trash := rfl
  seen key := (resolve_occurrences _ _ _ key).ge
  mismatched _ more := absurd more (resolve_occurrences _ _ _ _).not_gt
  collected _ changed := absurd rfl changed

theorem recordFinding_keeps {finding : ReconciliationFinding}
    (real : finding.findingType = contentRefCountMismatch →
      ∃ content ∈ before.db.contents.rows, toString content.id = finding.resourceId ∧
        content.refCount ≠ before.db.actualRefCount content.id) :
    Keeps Scanned before (recordFinding finding) := by
  unfold recordFinding
  split
  · have counted := fun key =>
      @upsertFinding_occurrences before.findings (finding.stored before.db.now) rfl key
    refine ⟨rfl, rfl, rfl, ?_, ?_, ?_⟩
    · intro key
      exact Nat.le.intro (counted key).symm
    · intro resourceId more
      have grew := counted (contentRefCountMismatch, resourceId)
      by_cases same : (contentRefCountMismatch, resourceId) = (finding.stored before.db.now).key
      · obtain ⟨kind, resource⟩ := Prod.mk.inj same
        obtain ⟨content, present, keyed, wrong⟩ := real kind.symm
        exact ⟨content, present, keyed.trans resource.symm, wrong⟩
      · rw [if_neg same] at grew
        exact absurd more (Nat.not_lt.mpr grew.le)
    · intro contentId changed
      exact absurd rfl changed
  · exact keeps_throw Scanned.refl _

theorem recordOther_keeps {finding : ReconciliationFinding}
    (other : finding.findingType ≠ contentRefCountMismatch) :
    Keeps Scanned before (recordFinding finding) :=
  recordFinding_keeps fun same => absurd same other

/-- A job touches only the row of its key. -/
theorem enqueue_jobs {job : NewStorageJob} {key : String} (other : key ≠ job.dedupeKey) :
    Transaction.KeepsFrame (fun db : Db => db.jobs.find? key) (enqueue job) := by
  refine keepsFrame_get_bind fun before => ?_
  split
  · exact keepsFrame_pure _ before
  · rename_i jobs inserted
    refine keepsFrameAt_bind (keepsFrameAt_set ?_)
      fun _ => keepsFrame_pure _
    unfold Table.insertNew at inserted
    split at inserted
    · rename_i fresh
      cases inserted
      rw [Table.find?_add]
      exact if_neg other
    · cases inserted

theorem enqueueOrRearmSucceeded_jobs {job : NewStorageJob} {failure : ErrorInfo} {key : String}
    (other : key ≠ job.dedupeKey) :
    Transaction.KeepsFrame (fun db : Db => db.jobs.find? key)
      (enqueueOrRearmSucceeded job failure) := by
  refine keepsFrame_get_bind fun before => ?_
  split
  · exact enqueue_jobs other before
  · split
    · refine keepsFrameAt_bind (keepsFrameAt_set ?_)
        fun _ => keepsFrame_pure _
      rw [Table.find?_update]
      cases before.jobs.find? key with
      | none => rfl
      | some row => simp only [Option.map_some, if_neg other]
    · split
      · exact keepsFrame_pure _ before
      · exact keepsFrame_throw _ before

theorem blobGcDedupeKey_injective {first second : Nat}
    (same : blobGcDedupeKey first = blobGcDedupeKey second) : first = second :=
  decimal_injective (text_append_right_cancel same)

theorem scanned_bind {Value Result : Type} {program : Scan Value} {next : Value → Scan Result}
    (first : Keeps Scanned before program)
    (rest : ∀ value middle, Scanned before middle → Keeps Scanned middle (next value)) :
    Keeps Scanned before (program >>= next) :=
  keeps_bind (fun _ _ _ one two => one.trans two) first rest

theorem scanned_pure {Value : Type} (value : Value) :
    Keeps Scanned before (pure value : Scan Value) := Scanned.refl before

theorem scanned_throw {Value : Type} (failure : ErrorInfo) :
    Keeps Scanned before (throw failure : Scan Value) := Scanned.refl before

theorem blobGcStatement_keeps {content : FileContent}
    (present : content ∈ before.db.contents.rows) (zero : content.refCount = 0)
    (unused : before.db.actualRefCount content.id = 0) :
    Keeps Scanned before (driveStatement
      (enqueueOrRearmSucceeded (blobGcJob content.id content.storagePath) reconciliationFailed)) := by
  unfold Keeps driveStatement
  rw [outcome_bind, outcome_get]
  dsimp only
  cases ran : (enqueueOrRearmSucceeded (blobGcJob content.id content.storagePath)
      reconciliationFailed).run before.db with
  | error failure => exact Scanned.refl before
  | ok result =>
      obtain ⟨enqueued, db⟩ := result
      have others := enqueueOrRearmSucceeded_others _ _ _ ran
      have rows : db.rows = before.db.rows := enqueueOrRearmSucceeded_keeps _ _ _ ran
      refine ⟨congrArg (fun kept => kept.2.2) others, congrArg (fun kept => kept.2.1) rows,
        congrArg (fun kept => kept.2.2) rows, fun _ => Nat.le_refl _,
        fun _ more => absurd more (Nat.lt_irrefl _), ?_⟩
      intro contentId changed
      by_cases same : contentId = content.id
      · exact ⟨content, present, same.symm, zero, unused⟩
      · have other : blobGcDedupeKey contentId ≠ (blobGcJob content.id content.storagePath).dedupeKey :=
          fun equal => same (blobGcDedupeKey_injective equal)
        exact absurd (enqueueOrRearmSucceeded_jobs other _ _ _ ran) changed

end Statements

section Rounds

variable {before after : ReconciliationDb} {scanId : String} {content : FileContent}
  {page next : ReconciliationPageResult} {actualRefCount : Nat} {store : Option BlobStore}

theorem enqueueBlobGc_keeps (present : content ∈ before.db.contents.rows)
    (zero : content.refCount = 0) (unused : before.db.actualRefCount content.id = 0) :
    Keeps Scanned before (enqueueBlobGc scanId content page) := by
  unfold enqueueBlobGc
  apply scanned_bind
  · exact recordOther_keeps (show zeroReferenceContent ≠ contentRefCountMismatch by decide)
  · intro _ middle scanned
    have still : content ∈ middle.db.contents.rows := by rw [scanned.contents]; exact present
    apply scanned_bind (blobGcStatement_keeps still zero ((scanned.actualRefCount _).trans unused))
    intro _ last _
    exact scanned_pure _

theorem recordMissingBlob_keeps : Keeps Scanned before (recordMissingBlob scanId content page) := by
  unfold recordMissingBlob
  apply scanned_bind
  · exact recordOther_keeps (show missingFinalBlob ≠ contentRefCountMismatch by decide)
  · intro _ middle _
    apply scanned_bind (resolveFinding_keeps _ _)
    intro _ last _
    exact scanned_pure _

theorem inspectBlob_keeps : Keeps Scanned before (inspectBlob store scanId content page) := by
  unfold inspectBlob
  split
  · exact scanned_throw _
  · dsimp only
    split
    · exact scanned_throw _
    · exact recordMissingBlob_keeps
    · apply scanned_bind (resolveFinding_keeps _ _)
      intro _ middle _
      split
      · split
        · exact recordMissingBlob_keeps
        · exact scanned_throw _
      · split
        · apply scanned_bind
          · exact recordOther_keeps (show finalBlobSizeMismatch ≠ contentRefCountMismatch by decide)
          · intro _ last _
            exact scanned_pure _
        · apply scanned_bind (resolveFinding_keeps _ _)
          intro _ last _
          apply scanned_bind (resolveFinding_keeps _ _)
          intro _ final _
          exact scanned_pure _

theorem checkRefCount_keeps (present : content ∈ before.db.contents.rows)
    (counted : actualRefCount = before.db.actualRefCount content.id) :
    Keeps Scanned before (checkRefCount scanId content actualRefCount page) := by
  unfold checkRefCount
  split
  · rename_i wrong
    apply scanned_bind
    · apply recordFinding_keeps
      intro _
      exact ⟨content, present, rfl, counted ▸ wrong⟩
    · intro _ middle _
      exact scanned_pure _
  · apply scanned_bind (resolveFinding_keeps _ _)
    intro _ middle _
    exact scanned_pure _

theorem repairContent_keeps (present : content ∈ before.db.contents.rows)
    (counted : actualRefCount = before.db.actualRefCount content.id) :
    Keeps Scanned before (repairContent store scanId content actualRefCount page) := by
  unfold repairContent
  split
  · rename_i unused
    simp only [shouldEnqueueBlobGc, Bool.and_eq_true, decide_eq_true_eq] at unused
    exact enqueueBlobGc_keeps present unused.1 (counted.symm.trans unused.2)
  · apply scanned_bind (resolveFinding_keeps _ _)
    intro _ last _
    split
    · exact scanned_pure _
    · exact inspectBlob_keeps

theorem Scanned.still {middle : ReconciliationDb} (scanned : Scanned before middle)
    (present : content ∈ before.db.contents.rows) : content ∈ middle.db.contents.rows := by
  rw [scanned.contents]
  exact present

/-- A round records and enqueues only what its row shows. -/
theorem scanContent_keeps (present : content ∈ before.db.contents.rows)
    (counted : actualRefCount = before.db.actualRefCount content.id) :
    Keeps Scanned before (scanContent store scanId page (content, actualRefCount)) := by
  unfold scanContent
  apply scanned_bind (checkRefCount_keeps present counted)
  intro checked middle scanned
  exact repairContent_keeps (scanned.still present)
    (counted.trans (scanned.actualRefCount content.id).symm)

theorem recordFinding_counts {finding : ReconciliationFinding} {value : Unit}
    (ran : (recordFinding finding).outcome before = (.ok value, after)) :
    occurrences after.findings (finding.findingType, finding.resourceId) =
      occurrences before.findings (finding.findingType, finding.resourceId) + 1 := by
  unfold recordFinding at ran
  split at ran
  · rw [outcome_modify] at ran
    cases ran
    have counted := @upsertFinding_occurrences before.findings (finding.stored before.db.now) rfl
      (finding.findingType, finding.resourceId)
    exact counted.trans (congrArg _ (if_pos rfl))
  · cases ran

/-- A round that ends has recorded a count that differs. -/
theorem scanContent_reports (present : content ∈ before.db.contents.rows)
    (counted : actualRefCount = before.db.actualRefCount content.id)
    (wrong : content.refCount ≠ (before.db.actualRefCount content.id : Int))
    (ran : (scanContent store scanId page (content, actualRefCount)).outcome before =
      (.ok next, after)) : before.mismatches content.id < after.mismatches content.id := by
  obtain ⟨checked, middle, one, two⟩ := bind_ok ran
  have scanned : Scanned before middle := by
    have kept := @checkRefCount_keeps before scanId content
      { page with nextAfterId := content.id } actualRefCount present counted
    unfold Keeps at kept
    rw [one] at kept
    exact kept
  have rest : Scanned middle after := by
    have kept := @repairContent_keeps middle scanId content checked actualRefCount store
      (scanned.still present) (counted.trans (scanned.actualRefCount content.id).symm)
    unfold Keeps at kept
    rw [two] at kept
    exact kept
  unfold checkRefCount at one
  rw [if_pos (counted ▸ wrong)] at one
  obtain ⟨value, last, recorded, returned⟩ := bind_ok one
  rw [outcome_pure] at returned
  cases returned
  have grew := recordFinding_counts recorded
  exact Nat.lt_of_lt_of_le (Nat.lt_of_lt_of_eq (Nat.lt_succ_self _) grew.symm) (rest.seen _)

section Cursor

variable {cursor : Nat}

theorem recordMissingBlob_cursor (here : page.nextAfterId = cursor) :
    Returns (fun last : ReconciliationPageResult => last.nextAfterId = cursor)
      (recordMissingBlob scanId content page) := by
  apply returns_of_last
  intro _
  apply returns_of_last
  intro _
  exact returns_pure here

theorem inspectBlob_cursor (here : page.nextAfterId = cursor) :
    Returns (fun last : ReconciliationPageResult => last.nextAfterId = cursor)
      (inspectBlob store scanId content page) := by
  unfold inspectBlob
  split
  · exact returns_throw _
  · dsimp only
    split
    · exact returns_throw _
    · exact recordMissingBlob_cursor here
    · apply returns_of_last
      intro _
      split
      · split
        · exact recordMissingBlob_cursor here
        · exact returns_throw _
      · split
        · apply returns_of_last
          intro _
          exact returns_pure here
        · apply returns_of_last
          intro _
          apply returns_of_last
          intro _
          exact returns_pure here

theorem repairContent_cursor (here : page.nextAfterId = cursor) :
    Returns (fun last : ReconciliationPageResult => last.nextAfterId = cursor)
      (repairContent store scanId content actualRefCount page) := by
  unfold repairContent
  split
  · apply returns_of_last
    intro _
    apply returns_of_last
    intro _
    exact returns_pure here
  · apply returns_of_last
    intro _
    split
    · exact returns_pure here
    · exact inspectBlob_cursor here

/-- A round moves the cursor to the key of its row. -/
theorem scanContent_cursor :
    Returns (fun last : ReconciliationPageResult => last.nextAfterId = content.id)
      (scanContent store scanId page (content, actualRefCount)) := by
  have checked : Returns (fun last : ReconciliationPageResult => last.nextAfterId = content.id)
      (checkRefCount scanId content actualRefCount { page with nextAfterId := content.id }) := by
    unfold checkRefCount
    split
    · apply returns_of_last
      intro _
      exact returns_pure rfl
    · apply returns_of_last
      intro _
      exact returns_pure rfl
  refine returns_bind checked ?_
  intro value here
  exact repairContent_cursor here

end Cursor

end Rounds

section Pages

variable {store : Option BlobStore} {scanId : String} {afterId limit : Nat}
  {before after : ReconciliationDb} {page : ReconciliationPageResult}

theorem mem_contentsAfter {db : Db} {content : FileContent} :
    content ∈ db.contentsAfter afterId ↔ content ∈ db.contents.rows ∧ afterId < content.id := by
  simp [Db.contentsAfter]

theorem mem_contentPage {db : Db} {row : FileContent × Nat} (listed : row ∈ db.contentPage afterId limit) :
    row.1 ∈ db.contents.rows ∧ row.2 = db.actualRefCount row.1.id := by
  obtain ⟨content, taken, rfl⟩ := List.mem_map.mp listed
  exact ⟨(mem_contentsAfter.mp (List.mem_of_mem_take taken)).1, rfl⟩

theorem contentPage_round {row : FileContent × Nat} (listed : row ∈ before.db.contentPage afterId limit)
    (value : ReconciliationPageResult) (middle : ReconciliationDb) (scanned : Scanned before middle) :
    Keeps Scanned middle (scanContent store scanId value row) := by
  obtain ⟨present, counted⟩ := mem_contentPage listed
  exact scanContent_keeps (scanned.still present) (counted.trans (scanned.actualRefCount _).symm)

theorem runContentPage_keeps : Keeps Scanned before (runContentPage store scanId afterId limit) := by
  unfold Keeps runContentPage
  rw [outcome_bind, outcome_get]
  apply scanned_bind
  · apply keeps_foldlM Scanned.refl (fun _ _ _ one two => one.trans two)
    intro row listed value middle scanned
    exact contentPage_round listed value middle scanned
  · intro value middle _
    exact scanned_pure _

/-- A page that ends has gone through its rows and stands at the key of one of them. -/
theorem runContentPage_ok
    (ran : (runContentPage store scanId afterId limit).outcome before = (.ok page, after)) :
    (page.hasMore = true ↔ ((before.db.contentsAfter afterId).take limit).length = limit) ∧
      (page.nextAfterId = 0 ∨
        ∃ content ∈ (before.db.contentsAfter afterId).take limit, content.id = page.nextAfterId) ∧
      ∀ content ∈ (before.db.contentsAfter afterId).take limit,
        content.refCount ≠ (before.db.actualRefCount content.id : Int) →
        before.mismatches content.id < after.mismatches content.id := by
  unfold runContentPage at ran
  rw [outcome_bind, outcome_get] at ran
  dsimp only at ran
  obtain ⟨last, middle, looped, returned⟩ := bind_ok ran
  rw [outcome_pure] at returned
  cases returned
  have rounds : ∀ row ∈ before.db.contentPage afterId limit, ∀ value state, Scanned before state →
      Keeps Scanned state (scanContent store scanId value row) :=
    fun row listed value state scanned => contentPage_round listed value state scanned
  refine ⟨?_, ?_, ?_⟩
  · simp [Db.contentPage]
  · have reached : Returns (fun value : ReconciliationPageResult => value.nextAfterId = 0 ∨
        ∃ content ∈ (before.db.contentsAfter afterId).take limit, content.id = value.nextAfterId)
        ((before.db.contentPage afterId limit).foldlM (scanContent store scanId)
          { inspected := (before.db.contentPage afterId limit).length }) := by
      apply returns_foldlM
      · intro row listed value _ state next final ran
        obtain ⟨content, taken, rfl⟩ := List.mem_map.mp listed
        exact .inr ⟨content, taken, (scanContent_cursor state next final ran).symm⟩
      · exact .inl rfl
    have stands := reached before last after looped
    exact stands
  · intro content taken wrong
    have listed : (content, before.db.actualRefCount content.id) ∈
        before.db.contentPage afterId limit := List.mem_map.mpr ⟨content, taken, rfl⟩
    obtain ⟨value, start, next, later, reached, ran, rest⟩ :=
      foldlM_round Scanned.refl (fun _ _ _ one two => one.trans two) rounds looped listed
    have present := (mem_contentPage listed).1
    have counted := reached.actualRefCount content.id
    have grew := scanContent_reports (reached.still present) counted.symm
      (by rw [counted]; exact wrong) ran
    exact Nat.lt_of_le_of_lt (reached.seen _) (Nat.lt_of_lt_of_le grew (rest.seen _))

/-- A scan reports every count that differs, whatever pages it takes. -/
theorem ContentScan.reports {stores : Nat → Option BlobStore} {round : Nat}
    (scan : ContentScan stores scanId limit round afterId before after) :
    Scanned before after ∧ ∀ content ∈ before.db.contents.rows, afterId < content.id →
      content.refCount ≠ (before.db.actualRefCount content.id : Int) →
      before.mismatches content.id < after.mismatches content.id := by
  induction scan with
  | @retry round afterId failure before middle after later ran rest ih =>
      have kept := @runContentPage_keeps (stores round) scanId afterId limit before
      unfold Keeps at kept
      rw [ran] at kept
      have ticked := Scanned.tick kept later
      refine ⟨ticked.trans ih.1, ?_⟩
      intro content present behind wrong
      have grew := ih.2 content (ticked.still present) behind
        (by rw [ticked.actualRefCount]; exact wrong)
      exact Nat.lt_of_le_of_lt (ticked.seen _) grew
  | @last round afterId page before after ran ended =>
      have kept := @runContentPage_keeps (stores round) scanId afterId limit before
      unfold Keeps at kept
      rw [ran] at kept
      refine ⟨kept, ?_⟩
      intro content present behind wrong
      obtain ⟨more, -, reported⟩ := runContentPage_ok ran
      apply reported content ?_ wrong
      have short : ¬ ((before.db.contentsAfter afterId).take limit).length = limit := by
        rw [← more, ended]
        exact Bool.false_ne_true
      have whole : (before.db.contentsAfter afterId).take limit = before.db.contentsAfter afterId := by
        apply List.take_of_length_le
        rw [List.length_take] at short
        omega
      rw [whole]
      exact mem_contentsAfter.mpr ⟨present, behind⟩
  | @more round afterId page before middle after later ran full advanced rest ih =>
      have kept := @runContentPage_keeps (stores round) scanId afterId limit before
      unfold Keeps at kept
      rw [ran] at kept
      have ticked := Scanned.tick kept later
      refine ⟨ticked.trans ih.1, ?_⟩
      intro content present behind wrong
      obtain ⟨-, stands, reported⟩ := runContentPage_ok ran
      by_cases taken : content ∈ (before.db.contentsAfter afterId).take limit
      · exact Nat.lt_of_lt_of_le (reported content taken wrong) (ih.1.seen _)
      · have listed : content ∈ before.db.contentsAfter afterId :=
          mem_contentsAfter.mpr ⟨present, behind⟩
        have beyond : page.nextAfterId < content.id := by
          rcases stands with zero | ⟨other, inside, keyed⟩
          · rw [zero]
            exact Nat.zero_lt_of_lt behind
          · rw [← keyed]
            exact (Table.lt_of_untaken Table.rowsAfter_ascends listed taken).2 _ inside
        have grew := ih.2 content (ticked.still present) beyond
          (by rw [ticked.actualRefCount]; exact wrong)
        exact Nat.lt_of_le_of_lt (ticked.seen _) grew

end Pages

section Exactness

variable {db : Db} {before after : ReconciliationDb}

theorem trashReferences_split {contentId : Nat} (positive : 0 < contentId) :
    db.trashReferences contentId =
      (db.trash.rows.countP fun row => row.contentId = some contentId ∧ row.itemType = .file) +
        db.legacyReferences contentId := by
  obtain ⟨number, rfl⟩ := Nat.exists_eq_add_of_lt positive
  rw [Nat.zero_add]
  have resolved : ∀ row : Trash, row.contentId = some (number + 1) →
      row.resolvedContentId = some (number + 1) := by
    intro row column
    simp [Trash.resolvedContentId, resolveRequiredContentId, column]
  unfold Db.trashReferences Db.legacyReferences
  induction db.trash.rows with
  | nil => rfl
  | cons row rest ih =>
      rw [List.countP_cons, List.countP_cons, List.countP_cons, ih]
      by_cases column : row.contentId = some (number + 1)
      · by_cases file : row.itemType = .file
        · simp [column, file, resolved row column]
          omega
        · simp [column, file]
      · by_cases file : row.itemType = .file
        · simp [column, file]
          omega
        · simp [column, file]

/-- All references are those that a page counts and those that it does not. -/
theorem references_split {contentId : Nat} (positive : 0 < contentId) :
    db.references contentId = db.actualRefCount contentId + db.hiddenReferences contentId := by
  unfold Db.references Db.actualRefCount Db.hiddenReferences
  rw [trashReferences_split positive, Db.fileReferences]
  omega

theorem Scanned.mismatch_real (scanned : Scanned before after) {content : FileContent}
    (present : content ∈ before.db.contents.rows)
    (more : before.mismatches content.id < after.mismatches content.id) :
    content.refCount ≠ (before.db.actualRefCount content.id : Int) := by
  obtain ⟨other, there, keyed, wrong⟩ := scanned.mismatched _ more
  have same := before.db.contents.eq_of_key there present (decimal_injective keyed)
  rw [← same]
  exact wrong

variable {stores : Nat → Option BlobStore} {scanId : String} {limit : Nat}

/-- A scan that is exact met no hidden reference. -/
theorem ContentScan.hides (scan : ContentScan stores scanId limit 0 0 before after)
    (exactly : ScanExact before after) : NothingHidden before.db := by
  obtain ⟨scanned, reports⟩ := scan.reports
  constructor
  · intro lawful content present
    have positive := (before.db.contents.bounded content present).1
    by_contra hidden
    have split := @references_split before.db content.id positive
    have wrong : content.refCount ≠ (before.db.actualRefCount content.id : Int) := by
      rw [lawful content present, split]
      omega
    have grew := reports content present positive wrong
    exact absurd (exactly.sound lawful _) (Nat.ne_of_gt grew)
  · intro content present short
    have positive := (before.db.contents.bounded content present).1
    by_contra hidden
    have split := @references_split before.db content.id positive
    have broken : content.refCount ≠ (before.db.references content.id : Int) := by
      rw [← short]
      omega
    have wrong := scanned.mismatch_real present (exactly.complete content present broken)
    apply wrong
    rw [split] at short
    omega

/-- A scan is exact when nothing is hidden from its query. -/
theorem ContentScan.exact (scan : ContentScan stores scanId limit 0 0 before after)
    (nothing : NothingHidden before.db) : ScanExact before after := by
  obtain ⟨scanned, reports⟩ := scan.reports
  refine ⟨?_, ?_, ?_⟩
  · intro lawful resourceId
    by_contra changed
    have more := Nat.lt_of_le_of_ne (scanned.seen (contentRefCountMismatch, resourceId))
      (Ne.symm changed)
    obtain ⟨content, present, -, wrong⟩ := scanned.mismatched resourceId more
    have positive := (before.db.contents.bounded content present).1
    have split := @references_split before.db content.id positive
    apply wrong
    rw [lawful content present, split, nothing.lawful lawful content present, Nat.add_zero]
  · intro lawful content present changed
    obtain ⟨other, there, keyed, zero, -⟩ := scanned.collected content.id changed
    have none : (before.db.references content.id : Int) = 0 := by
      rw [← keyed, ← lawful other there]
      exact zero
    unfold Db.references at none
    omega
  · intro content present broken
    have positive := (before.db.contents.bounded content present).1
    apply reports content present positive
    intro counted
    have split := @references_split before.db content.id positive
    have none := nothing.short content present (by rw [split, counted]; rfl)
    apply broken
    rw [split, none, Nat.add_zero]
    exact counted

/-- A complete scan of the contents is exact exactly when no reference is hidden from it. -/
theorem contentScan_exact_iff (scan : ContentScan stores scanId limit 0 0 before after) :
    ScanExact before after ↔ NothingHidden before.db := by
  constructor
  · intro exactly
    exact scan.hides exactly
  · intro nothing
    exact scan.exact nothing

end Exactness

section Example

/-- One content with one reference. -/
def oneContent : Db :=
  { Db.empty with
    contents := Db.empty.contents.insert
      (fun id => ⟨id, "md5", "sha256", 3, "blobs/md5", "text/plain", 1⟩) fun _ => rfl }

/-- The state while the file that refers to the content is in the drive. -/
def keptFile : ReconciliationDb where
  db :=
    { oneContent with
      files := Db.empty.files.insert
        (fun id => ⟨id, 1, 1, 1, "a.txt", "txt", 3, "text/plain", "/docs/a.txt", 0, 0⟩) fun _ => rfl }
  findings := Table.empty

/-- The state after the only folder with its only file has been moved to the trash. -/
def trashedFolder : ReconciliationDb where
  db :=
    { oneContent with
      trash := Db.empty.trash.insert
        ((folderTrashItem
          { root := ⟨1, 1, 0, "docs", "/docs", 1, 1⟩
            folders := [⟨1, 1, 0, "docs", "/docs", 1, 1⟩]
            files := [⟨1, 1, 1, 1, "a.txt", "txt", 3, "text/plain", "/docs/a.txt", 0, 0⟩]
            itemSize := 3 }).row 1) fun _ => rfl }
  findings := Table.empty

def presentBlobs : BlobStore where
  blobExists _ := .ok true
  getBlobSize blob := .ok blob.size

/-- One page is a complete scan when it has no more contents. -/
theorem scan_of_page {state : ReconciliationDb}
    (ended : (match (runContentPage (some presentBlobs) "scan" 0 100).outcome state with
      | (.ok page, _) => !page.hasMore
      | (.error _, _) => false) = true) :
    ∃ after, ContentScan (fun _ => some presentBlobs) "scan" 100 0 0 state after := by
  split at ended
  · rename_i page after ran
    exact ⟨after, .last ran (by simpa using ended)⟩
  · cases ended

theorem trashedFolder_scan :
    ∃ after, ContentScan (fun _ => some presentBlobs) "scan" 100 0 0 trashedFolder after :=
  scan_of_page (by decide +kernel)

theorem trashedFolder_lawful : trashedFolder.db.Lawful := by
  unfold Db.Lawful
  decide +kernel

/-- A scan after a folder was moved to the trash reports the count of its file. -/
theorem contentScan_reports_trashed_folder :
    ∃ after, ContentScan (fun _ => some presentBlobs) "scan" 100 0 0 trashedFolder after ∧
      ¬ ScanExact trashedFolder after := by
  obtain ⟨after, scan⟩ := trashedFolder_scan
  refine ⟨after, scan, ?_⟩
  intro exactly
  have nothing := scan.hides exactly
  have all : ∀ content ∈ trashedFolder.db.contents.rows,
      trashedFolder.db.hiddenReferences content.id = 0 := nothing.lawful trashedFolder_lawful
  revert all
  decide +kernel

theorem keptFile_nothingHidden : NothingHidden keptFile.db where
  lawful := fun _ => by decide +kernel
  short := by decide +kernel

/-- The scan is exact while the file is in the drive, and not after its folder was moved to the trash. -/
theorem contentScan_exact_iff_trashed_folder :
    (∃ after, ContentScan (fun _ => some presentBlobs) "scan" 100 0 0 keptFile after ∧
      ScanExact keptFile after) ∧
    ∃ after, ScanExact trashedFolder after ↔ NothingHidden trashedFolder.db := by
  obtain ⟨kept, first⟩ := @scan_of_page keptFile (by decide +kernel)
  obtain ⟨trashed, second⟩ := trashedFolder_scan
  exact ⟨⟨kept, first, (contentScan_exact_iff first).mpr keptFile_nothingHidden⟩,
    trashed, contentScan_exact_iff second⟩

end Example

end DiskServer.Drive
